import Polyfast.Orchestrator.Desk

/-!
# The paper ledger

In paper mode money moves in four places: a fill takes the order amount off the balance, a sale adds its
proceeds, a won redeem adds its payout, and reconciliation adds nothing. `invested` is what the balance
would be without all of them; no step of a desk in paper mode changes it.

* `paid`, `received`: what a position has cost and brought in;
* `Booked`: the invariant of a desk in paper mode;
* `Booked.step`: one step keeps `invested`;
* `paper_conservation`: the balance after any run, and that `deduct` never clamps.
-/

namespace Polyfast

namespace PositionRecord

variable (p : PositionRecord)

/-- What a fill took off the balance. -/
def paid : ℚ := if p.wasFilled then p.requestedAmountUsd else 0

/-- What a sale added to the balance; a filled position is closed by a sale only. -/
def received : ℚ := if p.isClosed && p.wasFilled then p.netExitUsdc else 0

theorem received_of_not_closed {p : PositionRecord} (h : p.isClosed = false) : p.received = 0 := by
  simp [received, h]

end PositionRecord

namespace Trading

variable (s : Trading)

/-- The amounts of all positions that were filled. -/
def spent : ℚ := s.tracker.positions.total PositionRecord.paid

/-- The proceeds of all positions that were sold. -/
def earned : ℚ := s.tracker.positions.total PositionRecord.received

/-- The claimed amounts of all claims. -/
def claimed : ℚ := s.claims.claims.total ClaimRecord.claimedAmountUsdc

/-- The balance without the trades and claims so far. -/
def invested : ℚ := s.balance.available + s.spent - s.earned - s.claimed

/-- Orders, exits, claims and settlement are in paper mode. -/
structure InPaperMode : Prop where
  executor : s.executor.mode = .paper
  exitExecutor : s.exitExecutor.paperMode = true
  claims : s.claims.paperMode = true
  settlement : s.settlement.paperMode = true

/-- Claims have drawn their ids, and only those that succeeded have an amount. -/
structure ClaimsInOrder : Prop where
  fresh : ∀ k c, s.claims.claims.get? k = some c → k < s.uuids
  unpaid : ∀ k c, s.claims.claims.get? k = some c → c.isSuccess = false → c.claimedAmountUsdc = 0

/-- **The books**: paper mode, claims in order, and an invested amount that nothing has changed. -/
structure Books (amount : ℚ) : Prop where
  mode : s.InPaperMode
  claims : s.ClaimsInOrder
  invested : s.invested = amount

variable {s} {s' : Trading} {amount : ℚ}

theorem ClaimsInOrder.congr (h : s.ClaimsInOrder) (hc : s'.claims.claims = s.claims.claims)
    (hu : s.uuids ≤ s'.uuids) : s'.ClaimsInOrder :=
  ⟨fun k c hk => (h.fresh k c (hc ▸ hk)).trans_le hu, fun k c hk => h.unpaid k c (hc ▸ hk)⟩

/-- A position is replaced by one that has cost and brought in the same. -/
theorem invested_put {r r' : PositionRecord} (hb : s'.balance.available = s.balance.available)
    (hc : s'.claims.claims = s.claims.claims)
    (hpos : s'.tracker.positions = s.tracker.positions.put r')
    (hold : s.tracker.positions.get? r'.positionId = some r) (hpaid : r'.paid = r.paid)
    (hreceived : r'.received = r.received) : s'.invested = s.invested := by
  have hspent := Lib.Table.total_put PositionRecord.paid hold
  have hearned := Lib.Table.total_put PositionRecord.received hold
  rw [← hpos, hpaid] at hspent
  rw [← hpos, hreceived] at hearned
  have hspent' : s'.spent = s.spent := add_right_cancel hspent
  have hearned' : s'.earned = s.earned := add_right_cancel hearned
  rw [invested, invested, hb, hspent', hearned', claimed, claimed, hc]

/-- A claim is replaced by one with another amount, and the balance changes by the difference. -/
theorem invested_claim {c c' : ClaimRecord} {amount : ℚ}
    (hb : s'.balance.available = s.balance.available + amount)
    (hpos : s'.tracker = s.tracker) (hc : s'.claims.claims = s.claims.claims.put c')
    (hold : s.claims.claims.get? c'.claimId = some c)
    (hamount : c'.claimedAmountUsdc = c.claimedAmountUsdc + amount) : s'.invested = s.invested := by
  have hclaimed := Lib.Table.total_put ClaimRecord.claimedAmountUsdc hold
  rw [← hc, hamount] at hclaimed
  have hclaimed' : s'.claimed = s.claimed + amount := by
    refine add_right_cancel (b := c.claimedAmountUsdc) (hclaimed.trans ?_)
    rw [add_assoc, add_comm amount]
    rfl
  rw [invested, invested, hb, hclaimed', spent, spent, earned, earned, hpos]
  ring

/-! ### Orders -/

/-- **An order in paper mode** takes off what its position has cost, without touching the clamp. -/
theorem execute_invested (i : OrderIntent) (now : Time) (hp : s.executor.mode = .paper)
    (hnew : s.tracker.positions.get? s.uuids = none) :
    (s.execute i now).1.invested = s.invested ∧
      ((s.execute i now).1.balance = s.balance ∨
        i.amountUsd ≤ s.balance.available ∧
          (s.execute i now).1.balance = s.balance.deduct i.amountUsd now) := by
  by_cases hmay : s.mayCreate i now
  · by_cases hprice : i.dominantPrice = 0
    · rw [execute_paper_zero hmay hp hprice]
      refine ⟨?_, .inl rfl⟩
      have hpos : (s.countExecution.createPending i now).tracker.positions =
          s.tracker.positions.put (s.pendingRecord i now) :=
        PositionTracker.positions_createPending _
      have hspent := Lib.Table.total_put_new PositionRecord.paid
        (r := s.pendingRecord i now) hnew
      have hearned := Lib.Table.total_put_new PositionRecord.received
        (r := s.pendingRecord i now) hnew
      have hzero : (s.pendingRecord i now).paid = 0 := rfl
      have hzero' : (s.pendingRecord i now).received = 0 := rfl
      rw [← hpos, hzero, add_zero] at hspent
      rw [← hpos, hzero', add_zero] at hearned
      simp only [invested, spent, earned, claimed, hspent, hearned]
      rfl
    · obtain ⟨hpos, hbal, -⟩ := execute_paper_filled hmay hp hprice
      have hcover := (mayCreate.limits hmay).2.1
      refine ⟨?_, .inr ⟨hcover, hbal⟩⟩
      have hspent := Lib.Table.total_put_new PositionRecord.paid (r := s.openedRecord i now) hnew
      have hearned := Lib.Table.total_put_new PositionRecord.received (r := s.openedRecord i now) hnew
      have hpaid : (s.openedRecord i now).paid = i.amountUsd := rfl
      have hzero : (s.openedRecord i now).received = 0 := rfl
      rw [← hpos, hpaid] at hspent
      rw [← hpos, hzero, add_zero] at hearned
      have hclaims : (s.execute i now).1.claims = s.claims := (execute_frame s i now).claims
      have havail : (s.execute i now).1.balance.available = s.balance.available - i.amountUsd := by
        rw [hbal]
        exact BalanceManager.available_deduct hcover now
      simp only [invested, spent, earned, claimed, hspent, hearned, hclaims, havail]
      ring
  · obtain ⟨x, r, heq, -⟩ := execute_of_not_mayCreate hmay
    rw [heq]
    exact ⟨rfl, .inl rfl⟩

theorem execute_books (i : OrderIntent) (now : Time) (h : s.Books amount)
    (hnew : s.tracker.positions.get? s.uuids = none) :
    (s.execute i now).1.Books amount ∧ ∃ a, (s.execute i now).2 = .done a := by
  have hf := execute_frame s i now
  have hinv := (execute_invested i now h.mode.executor hnew).1
  have hu : s.uuids ≤ (s.execute i now).1.uuids := by
    obtain ⟨-, -, hu, -⟩ | ⟨-, -, ht, -⟩ := execute_effect i now hnew
    · exact hu.ge
    · exact (Nat.le_succ _).trans ht.uuids.ge
  refine ⟨⟨⟨hf.mode.trans h.mode.executor, ?_, ?_, ?_⟩, h.claims.congr ?_ hu,
    hinv.trans h.invested⟩, ?_⟩
  · exact (congrArg ExitExecutor.paperMode hf.exitExecutor).trans h.mode.exitExecutor
  · exact (congrArg ClaimManager.paperMode hf.claims).trans h.mode.claims
  · exact (congrArg SettlementOrchestrator.paperMode hf.settlement).trans h.mode.settlement
  · exact congrArg ClaimManager.claims hf.claims
  · by_cases hmay : s.mayCreate i now
    · by_cases hprice : i.dominantPrice = 0
      · exact ⟨_, congrArg Prod.snd (execute_paper_zero hmay h.mode.executor hprice)⟩
      · exact ⟨_, (execute_paper_filled hmay h.mode.executor hprice).2.2⟩
    · obtain ⟨x, r, heq, -⟩ := execute_of_not_mayCreate hmay
      exact ⟨_, congrArg Prod.snd heq⟩

/-! ### Exits -/

theorem Books.exits (h : s.Books amount) (hf : ExitFrame s s') (hinv : s'.invested = s.invested) :
    s'.Books amount where
  mode :=
    { executor := (congrArg OrderExecutor.mode hf.executor).trans h.mode.executor
      exitExecutor := hf.paperMode.trans h.mode.exitExecutor
      claims := (congrArg ClaimManager.paperMode hf.claims).trans h.mode.claims
      settlement :=
        (congrArg SettlementOrchestrator.paperMode hf.settlement).trans h.mode.settlement }
  claims := h.claims.congr (congrArg ClaimManager.claims hf.claims) hf.uuids.ge
  invested := hinv.trans h.invested

theorem requestClose_invested (id : PositionId) (reason : CloseReason)
    (triggers : List ForceSellTrigger) (now : Time) :
    (s.requestClose id reason triggers now).state.invested = s.invested := by
  rw [requestClose_state]
  obtain heq | ⟨r, hr, hs, heq⟩ :=
    PositionTracker.requestClose_cases (t := s.tracker) id reason triggers 0 now
  · rw [heq]
    rfl
  · have hkey : r.positionId = id := Lib.Table.key_of_get? hr
    have hpos : (s.withTracker (s.tracker.requestClose id reason triggers 0 now).state).tracker.positions
        = s.tracker.positions.put
          ((r.inState .closingRequested).withCloseRequest reason triggers 0 now) := by
      rw [withTracker, heq]
      exact PositionTracker.positions_persist _
    have hold : s.tracker.positions.get? r.positionId = some r := by
      rw [hkey]
      exact hr
    have hopen : r.isClosed = false := by
      rcases hs with hs | hs <;> simp [PositionRecord.isClosed, hs]
    refine invested_put rfl rfl hpos hold rfl ?_
    rw [PositionRecord.received_of_not_closed hopen]
    exact PositionRecord.received_of_not_closed (by simp [PositionRecord.isClosed,
      PositionRecord.withCloseRequest])

theorem triggerForceSell_invested (x : CycleInput) (p : PositionRecord) (fresh : Bool) (now : Time) :
    (s.triggerForceSell x p fresh now).state.invested = s.invested := by
  unfold triggerForceSell
  dsimp only
  split_ifs
  · exact requestClose_invested _ _ _ _
  · rfl

theorem triggerOne_invested (x : CycleInput) (p : PositionRecord) (now : Time) :
    (s.triggerOne x p now).state.invested = s.invested := by
  unfold triggerOne
  split_ifs
  · rfl
  · exact triggerForceSell_invested x p false now
  · dsimp only
    split
    · exact requestClose_invested _ _ _ _
    · rfl
    · exact triggerForceSell_invested _ _ _ _

/-- **The trigger phase** moves no money. -/
theorem triggerPhase_invested (w : World) (x : CycleInput) :
    (s.triggerPhase w x).state.invested = s.invested :=
  Call.countLoop_preserves (I := fun t => t.invested = s.invested) _
    (fun _ _ _ h => (triggerOne_invested _ _ _).trans h) s rfl

/-- **A sale in paper mode** adds what its position has brought in. -/
theorem closeBegin_invested (id : PositionId) (price : ℚ) (now : Time)
    (hp : s.exitExecutor.paperMode = true) (hco : s.tracker.Coherent) :
    (s.closeBegin id price now).1.invested = s.invested ∧
      ∃ a, (s.closeBegin id price now).2 = .done a := by
  cases h : s.tracker.positions.get? id with
  | none =>
    simp only [closeBegin, h]
    exact ⟨trivial, _, rfl⟩
  | some r =>
    have hkey : r.positionId = id := Lib.Table.key_of_get? h
    have hold : s.tracker.positions.get? r.positionId = some r := by
      rw [hkey]
      exact h
    by_cases hidle : isClosing r = false ∨ s.CoolsDown r now
    · rw [closeBegin_idle h hidle]
      exact ⟨rfl, _, rfl⟩
    · rw [not_or, Bool.not_eq_false] at hidle
      have hopen : r.received = 0 := by
        refine PositionRecord.received_of_not_closed ?_
        rcases isClosing_iff.mp hidle.1 with hs | hs <;> simp [PositionRecord.isClosed, hs]
      by_cases hc : s.Cancels r price
      · rw [closeBegin_cancels h hc]
        have hpos : (s.writePosition r.cancelClose).tracker.positions =
            s.tracker.positions.put r.cancelClose := rfl
        refine ⟨invested_put rfl rfl hpos hold rfl ?_, _, rfl⟩
        rw [hopen]
        rfl
      · obtain ⟨hdone, hpos, hbal⟩ := closeBegin_paper h ⟨hidle.1, hidle.2, hc⟩ hp
        refine ⟨?_, _, hdone⟩
        have hfilled : r.wasFilled = true := (hco id r h).2 (holdsExposure_of_isClosing hidle.1)
        have hsold : (PositionTracker.sold r price defaultCryptoFeeRate now).received =
            (PositionTracker.sold r price defaultCryptoFeeRate now).netExitUsdc :=
          if_pos (by rw [Bool.and_eq_true]; exact ⟨rfl, hfilled⟩)
        have hspent := Lib.Table.total_put PositionRecord.paid
          (r := PositionTracker.sold r price defaultCryptoFeeRate now) hold
        have hearned := Lib.Table.total_put PositionRecord.received
          (r := PositionTracker.sold r price defaultCryptoFeeRate now) hold
        rw [← hpos] at hspent hearned
        rw [hsold, hopen, add_zero] at hearned
        have hspent' : (s.closeBegin id price now).1.spent = s.spent := add_right_cancel hspent
        simp only [invested, hspent', earned, claimed, hearned, hbal, BalanceManager.available_add,
          (closeBegin_frame s id price now).claims]
        ring

/-! ### Claims -/

/-- Replacing a claim by one that succeeded keeps the claims in order. -/
theorem ClaimsInOrder.put {c c' : ClaimRecord} (h : s.ClaimsInOrder)
    (hold : s.claims.claims.get? c'.claimId = some c)
    (hc : s'.claims.claims = s.claims.claims.put c') (hu : s'.uuids = s.uuids)
    (hs : c'.isSuccess = true) : s'.ClaimsInOrder := by
  refine ⟨fun k u hk => ?_, fun k u hk hus => ?_⟩
  · rw [hu]
    rw [hc, Lib.Table.get?_put] at hk
    split_ifs at hk with hkey
    · exact hkey ▸ h.fresh _ c hold
    · exact h.fresh k u hk
  · rw [hc, Lib.Table.get?_put] at hk
    split_ifs at hk with hkey
    · obtain rfl := Option.some.inj hk
      rw [hs] at hus
      cases hus
    · exact h.unpaid k u hk hus

theorem createClaim_books (p : PositionRecord) (now : Time) (h : s.Books amount) :
    (s.createClaim p now).Books amount := by
  have hnew : s.claims.claims.get? s.uuids = none := by
    rw [Option.eq_none_iff_forall_ne_some]
    exact fun c hk => lt_irrefl _ (h.claims.fresh _ c hk)
  refine ⟨⟨h.mode.executor, h.mode.exitExecutor, ?_, h.mode.settlement⟩,
    ⟨fun k c hk => ?_, fun k c hk hs => ?_⟩, ?_⟩
  · exact (paperMode_createClaim p now).trans h.mode.claims
  · rw [get?_createClaim] at hk
    split_ifs at hk with hkey
    · exact hkey ▸ Nat.lt_succ_self _
    · exact (h.claims.fresh k c hk).trans (Nat.lt_succ_self _)
  · rw [get?_createClaim] at hk
    split_ifs at hk with hkey
    · obtain rfl := Option.some.inj hk
      rfl
    · exact h.claims.unpaid k c hk hs
  · have htotal := Lib.Table.total_put_new ClaimRecord.claimedAmountUsdc
      (r := ClaimManager.newClaim s.uuids p now) hnew
    have hzero : (ClaimManager.newClaim s.uuids p now).claimedAmountUsdc = 0 := rfl
    rw [← claims_createClaim, hzero, add_zero] at htotal
    rw [← h.invested]
    simp only [Trading.invested, claimed, htotal]
    rfl

/-- **A redeem in paper mode** adds what it books on the claim, and only if the claim had not succeeded
before. -/
theorem executeRedeemForClaim_books (w : World) (p : PositionRecord) (id : ClaimId)
    (h : s.Books amount) : (s.executeRedeemForClaim w p id).state.Books amount := by
  simp only [executeRedeemForClaim, h.mode.settlement, if_true, Call.state_returns, answered]
  generalize (s.determineWinner w p).1 = won
  generalize Lib.roundTo 4 (if won = true then p.netPositionShares else 0) = payout
  generalize (s.instant w).now = now
  cases hget : s.claims.claims.get? id with
  | none =>
    rw [ClaimManager.executeRedeem_none hget]
    exact ⟨⟨h.mode.executor, h.mode.exitExecutor, h.mode.claims, rfl⟩, h.claims.congr rfl le_rfl,
      h.invested⟩
  | some c =>
    cases hs : c.isSuccess with
    | true =>
      rw [ClaimManager.executeRedeem_success hget hs]
      exact ⟨⟨h.mode.executor, h.mode.exitExecutor, h.mode.claims, rfl⟩, h.claims.congr rfl le_rfl,
        h.invested⟩
    | false =>
      obtain ⟨hclaims, hmode, hbal, -⟩ := ClaimManager.executeRedeem_paper (b := s.balance) hget hs
        h.mode.claims
      have hkey : c.claimId = id := Lib.Table.key_of_get? hget
      have hold : s.claims.claims.get? (ClaimManager.booked c won payout now).claimId = some c := by
        rw [← hkey] at hget
        exact hget
      refine ⟨⟨h.mode.executor, h.mode.exitExecutor, hmode, rfl⟩,
        h.claims.put hold hclaims rfl rfl, ?_⟩
      rw [← h.invested]
      refine invested_claim hbal rfl hclaims hold ?_
      rw [h.claims.unpaid id c hget hs, zero_add]
      rfl

theorem reconcileOne_books (now : Time) (c : ClaimRecord) (h : s.Books amount) :
    (reconcileOne now s c).Books amount := by
  unfold reconcileOne
  split_ifs
  · exact h
  · cases hget : s.claims.claims.get? c.claimId with
    | none =>
      rw [ClaimManager.markExternallySettled_none hget]
      exact h
    | some r =>
      cases hs : r.isSuccess with
      | true =>
        rw [ClaimManager.markExternallySettled_success hget hs]
        exact h
      | false =>
        obtain ⟨hclaims, hmode⟩ := ClaimManager.markExternallySettled_open now hget hs
        have hkey : r.claimId = c.claimId := Lib.Table.key_of_get? hget
        have hold : s.claims.claims.get? (ClaimManager.reconciled r now).claimId = some r := by
          rw [← hkey] at hget
          exact hget
        refine ⟨⟨h.mode.executor, h.mode.exitExecutor, hmode.trans h.mode.claims, h.mode.settlement⟩,
          h.claims.put hold hclaims rfl rfl, ?_⟩
        rw [← h.invested]
        exact invested_claim (add_zero _).symm rfl hclaims hold (add_zero _).symm

theorem checkResolved_books (w : World) (c : ConditionId) (h : s.Books amount) :
    (s.checkResolved w c).1.Books amount := by
  unfold checkResolved
  split_ifs
  · dsimp only
    split_ifs
    · exact ⟨⟨h.mode.executor, h.mode.exitExecutor, h.mode.claims, h.mode.settlement⟩,
        h.claims.congr rfl le_rfl, h.invested⟩
    · exact ⟨⟨h.mode.executor, h.mode.exitExecutor, h.mode.claims, h.mode.settlement⟩,
        h.claims.congr rfl le_rfl, h.invested⟩
  · exact h

/-- **Reconciliation** moves no money. -/
theorem reconcileExternal_books (w : World) (h : s.Books amount) :
    (s.reconcileExternal w).Books amount :=
  reconcileExternal_preserves (I := fun t => t.Books amount) w
    (fun _ c _ ht => reconcileOne_books _ c ht) h

end Trading

namespace Desk

variable {d d' : Desk} {l : Label} {amount : ℚ}

/-- Before the first order: paper mode, no position, no claim, no call that waits. -/
structure PaperStart (d : Desk) : Prop where
  fresh : Fresh d
  mode : d.trading.InPaperMode
  claims : d.trading.claims.claims = .empty
  orderFetches : d.orderFetches = []
  sellFetches : d.sellFetches = []

/-- A desk in paper mode: the books are in order, and no call ever waits. -/
structure Booked (amount : ℚ) (d : Desk) : Prop where
  wellFormed : WellFormed d
  books : d.trading.Books amount
  orders : d.orders = []
  orderFetches : d.orderFetches = []
  sells : d.sells = []
  sellFetches : d.sellFetches = []

theorem PaperStart.booked (h : PaperStart d) : Booked d.trading.balance.available d where
  wellFormed := h.fresh.wellFormed
  books :=
    { mode := h.mode
      claims := ⟨fun k c hk => by simp [h.claims] at hk, fun k c hk => by simp [h.claims] at hk⟩
      invested := by
        simp [Trading.invested, Trading.spent, Trading.earned, Trading.claimed, h.fresh.positions,
          h.claims] }
  orders := h.fresh.orders
  orderFetches := h.orderFetches
  sells := h.fresh.sells
  sellFetches := h.sellFetches

/-- A call that takes money off has it: what `deduct` computes is not negative. -/
def DeductsCovered (d : Desk) (l : Label) (d' : Desk) : Prop :=
  ∀ i now, l = .execute i now → d'.trading.balance = d.trading.balance ∨
    i.amountUsd ≤ d.trading.balance.available ∧
      d'.trading.balance = d.trading.balance.deduct i.amountUsd now

theorem DeductsCovered.other (h : l.isExecute = false) : DeductsCovered d l d' :=
  fun i now hl => absurd hl (Label.ne_execute h i now)

theorem not_waiting {α : Type*} {l l₁ l₂ : List α} {a : α} (hl : l = []) (h : l = l₁ ++ a :: l₂) :
    False := by
  rw [hl] at h
  simp at h

/-- **One step** of a desk in paper mode keeps the books and never makes `deduct` clamp. -/
theorem Booked.step (h : Booked amount d) (hs : Step d l d') :
    Booked amount d' ∧ DeductsCovered d l d' := by
  obtain ⟨hw, -, -⟩ := h.wellFormed.step hs
  -- all but orders leave the lists of suspended calls as they are
  have hkeep : ∀ s : Trading, WellFormed (d.withTrading s) → s.Books amount →
      Booked amount (d.withTrading s) := fun s hw hb =>
    ⟨hw, hb, h.orders, h.orderFetches, h.sells, h.sellFetches⟩
  cases hs with
  | execute i now =>
    obtain ⟨-, hded⟩ :=
      Trading.execute_invested i now h.books.mode.executor h.wellFormed.get?_uuids
    obtain ⟨hb, a, ha⟩ := Trading.execute_books i now h.books h.wellFormed.get?_uuids
    rw [afterExecute_done ha] at hw ⊢
    refine ⟨hkeep _ hw hb, ?_⟩
    rintro j t hjt
    obtain ⟨rfl, rfl⟩ := Label.execute.inj hjt
    exact hded
  | orderReply l₁ l₂ i id reply now hsplit => exact (not_waiting h.orders hsplit).elim
  | orderLost l₁ l₂ i id hsplit => exact (not_waiting h.orders hsplit).elim
  | orderFetched l₁ l₂ r reply now hsplit => exact (not_waiting h.orderFetches hsplit).elim
  | orderFetchLost l₁ l₂ r hsplit => exact (not_waiting h.orderFetches hsplit).elim
  | cycle => exact ⟨hkeep _ hw (h.books.exits ⟨rfl, rfl, rfl, rfl, rfl, .refl _⟩ rfl), .other rfl⟩
  | trigger w x =>
    exact ⟨hkeep _ hw (h.books.exits (Trading.triggerPhase_frame d.trading w x)
      (Trading.triggerPhase_invested w x)), .other rfl⟩
  | close id price now =>
    obtain ⟨hinv, a, ha⟩ := Trading.closeBegin_invested id price now h.books.mode.exitExecutor
      h.wellFormed.coherent
    have hdone : d.afterClose (d.trading.closeBegin id price now) =
        d.withTrading (d.trading.closeBegin id price now).1 := by
      simp only [afterClose, ha, withTrading]
    rw [hdone] at hw ⊢
    exact ⟨hkeep _ hw (h.books.exits (Trading.closeBegin_frame d.trading id price now) hinv), .other rfl⟩
  | sellReply l₁ l₂ id reply now hsplit => exact (not_waiting h.sells hsplit).elim
  | sellLost l₁ l₂ id hsplit => exact (not_waiting h.sells hsplit).elim
  | sellFetched l₁ l₂ id reply now hsplit => exact (not_waiting h.sellFetches hsplit).elim
  | sellFetchLost l₁ l₂ id hsplit => exact (not_waiting h.sellFetches hsplit).elim
  | resolution w c => exact ⟨hkeep _ hw (Trading.checkResolved_books w c h.books), .other rfl⟩
  | claim p now => exact ⟨hkeep _ hw (Trading.createClaim_books p now h.books), .other rfl⟩
  | redeem w p id => exact ⟨hkeep _ hw (Trading.executeRedeemForClaim_books w p id h.books), .other rfl⟩
  | writeRetry r =>
    exact ⟨hkeep _ hw ⟨⟨h.books.mode.executor, h.books.mode.exitExecutor, h.books.mode.claims,
      h.books.mode.settlement⟩, h.books.claims.congr rfl le_rfl, h.books.invested⟩, .other rfl⟩
  | dropRetry id =>
    exact ⟨hkeep _ hw ⟨⟨h.books.mode.executor, h.books.mode.exitExecutor, h.books.mode.claims,
      h.books.mode.settlement⟩, h.books.claims.congr rfl le_rfl, h.books.invested⟩, .other rfl⟩
  | reconcile w => exact ⟨hkeep _ hw (Trading.reconcileExternal_books w h.books), .other rfl⟩

/-- **Paper balance conservation.** After any run in paper mode the balance is the initial one, less the
amounts of the positions that were filled, plus the proceeds of those that were sold, plus the claimed
amounts; and whenever `deduct` was called the balance covered the amount. -/
theorem paper_conservation {tr : List (Lib.Taken Desk Label)} (hd : PaperStart d)
    (hrun : Lib.Run Step d tr d') :
    d'.trading.balance.available =
        d.trading.balance.available - d'.trading.spent + d'.trading.earned + d'.trading.claimed ∧
      ∀ x ∈ tr, DeductsCovered x.pre x.label x.post := by
  have hinv := hrun.invariant (I := Booked d.trading.balance.available)
    (fun _ _ _ ht hs => (ht.step hs).1) hd.booked
  refine ⟨?_, fun x hx => ((hinv.2 x hx).1.step (hrun.step_of_mem hx)).2⟩
  rw [← hinv.1.books.invested, Trading.invested]
  ring

theorem startDesk_paperStart : PaperStart (startDesk .paper 3) :=
  ⟨startDesk_fresh _ _, ⟨rfl, rfl, rfl, rfl⟩, rfl, rfl, rfl⟩

theorem paper_conservation_trade :
    ∃ tr d', Lib.Run Step (startDesk .paper 3) tr d' ∧ d'.trading.spent = 1 ∧
      0 < d'.trading.earned ∧ d'.trading.balance.available =
        10 - d'.trading.spent + d'.trading.earned + d'.trading.claimed := by
  have hbuy := Lib.Run.single (Step.execute (startDesk .paper 3) (orderFor "event") 0)
  have htrigger := hbuy.snoc (.trigger _ (fun _ => { now := 0 }) { prices := Lib.Dict.empty.set "BTC" (4 / 10) })
  have hrun := htrigger.snoc (.close _ 0 (4 / 10) 0)
  refine ⟨_, _, hrun, ?_, ?_, (paper_conservation startDesk_paperStart hrun).1⟩
  · decide +kernel
  · decide +kernel

end Desk

end Polyfast
