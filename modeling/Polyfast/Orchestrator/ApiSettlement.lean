import Polyfast.Execution.MarketResolution
import Polyfast.Orchestrator.RedeemBound
import Polyfast.Orchestrator.RedeemOnce

/-!
# Settlement by the resolutions of the exchange

In paper mode with a client for the exchange, a scan asks for the resolution of the position's condition, and what is
answered goes through the cache of winners into the claim. The cached winner is never empty, so the prices and the PnL
are not looked at, and a redeem never fails, so nothing is left to be retried.

* `AskedFirst`, `PaidOut`: the order of the calls, and what a claim is worth;
* `scanOne_api`: what one turn of the scan does;
* `Scanned`, `processSettlements_api`: what a whole call does;
* `api_settlement`: the same over a run in which positions are opened, sold and closed between the calls.
-/

namespace Polyfast

/-- Every redeem call comes after an answer that its condition is resolved. -/
def AskedFirst (calls : List ExternalCall) : Prop :=
  ∀ l₁ id e ok l₂, calls = l₁ ++ .redeem id e ok :: l₂ → .resolution e true ∈ l₁

theorem NoRedeem.askedFirst {calls : List ExternalCall} (h : NoRedeem calls) : AskedFirst calls := by
  rintro l₁ id e ok l₂ rfl
  have hredeem := h (.redeem id e ok) (List.mem_append_right _ List.mem_cons_self) id
  simp [ExternalCall.redeems] at hredeem

theorem AskedFirst.append {l l' : List ExternalCall} (h : AskedFirst l) (h' : AskedFirst l') :
    AskedFirst (l ++ l') := by
  intro l₁ id e ok l₂ heq
  rcases List.append_eq_append_iff.mp heq with ⟨m, rfl, hl'⟩ | ⟨m, hl, hrest⟩
  · exact List.mem_append_right _ (h' m id e ok l₂ hl')
  · cases m with
    | nil =>
      rw [List.append_nil] at hl
      rw [List.nil_append] at hrest
      have hmem := h' [] id e ok l₂ hrest.symm
      cases hmem
    | cons b m =>
      obtain ⟨rfl, -⟩ := List.cons.inj hrest
      exact h l₁ id e ok m hl

theorem askedFirst_redeem (id : PositionId) (e : ConditionId) (ok : Bool) :
    AskedFirst [.resolution e true, .redeem id e ok] := by
  intro l₁ id' e' ok' l₂ heq
  cases l₁ with
  | nil => cases heq
  | cons b l₁ =>
    obtain ⟨rfl, hrest⟩ := List.cons.inj heq
    cases l₁ with
    | nil =>
      obtain ⟨hcall, -⟩ := List.cons.inj hrest
      cases hcall
      exact List.mem_cons_self
    | cons b' l₁ =>
      have hlen := congrArg List.length (List.cons.inj hrest).2
      simp at hlen

/-- What the shares of the position pay when `winner` is the side that won. -/
def PositionRecord.payout (p : PositionRecord) (winner : String) : ℚ :=
  if p.side.value = winner then Lib.roundTo 4 p.netPositionShares else 0

/-- A successful claim of the position, with what it pays. -/
structure PaidOut (winner : String) (p : PositionRecord) (c : ClaimRecord) : Prop where
  success : c.isSuccess = true
  positionId : c.positionId = p.positionId
  conditionId : c.conditionId = p.conditionId
  amount : c.claimedAmountUsdc = p.payout winner

/-- The resolutions are what the client reads from the exchange. -/
def ReadsExchange (w : World) : Prop := ∀ n, ∃ answer, (w n).resolution = getMarketResolution answer

theorem ReadsExchange.winner_ne {w : World} (h : ReadsExchange w) {n : ℕ} (hr : (w n).resolution.resolved = true) :
    (w n).resolution.winningSide ≠ "" := by
  obtain ⟨answer, heq⟩ := h n
  rw [heq] at hr ⊢
  rcases getMarketResolution_resolved hr with hside | hside
  · simp [hside]
  · simp [hside]

namespace Trading

variable {s s' t : Trading} {w : World} {p : PositionRecord} {winner : String}

/-- Paper mode with a client, and nothing in retry. -/
structure ApiMode (s : Trading) : Prop where
  settlement : s.settlement.paperMode = true
  claims : s.claims.paperMode = true
  clob : s.settlement.hasClob = true
  retryStates : s.settlement.retryStates = .empty
  drawn : ∀ k c, s.claims.claims.get? k = some c → k < s.uuids

/-- One claim was made for the position and booked at once, its amount credited. -/
structure ClaimBooked (s s' : Trading) (p : PositionRecord) (winner : String) (c : ClaimRecord) : Prop where
  paid : PaidOut winner p c
  records : s'.claims.claims.records = s.claims.claims.records ++ [c]
  balance : s'.balance.available = s.balance.available + c.claimedAmountUsdc

theorem determineWinner_api (hcache : s.settlement.winnerCache.get? p.conditionId = some winner) (hne : winner ≠ "") :
    s.determineWinner w p = (decide (p.side.value = winner), .api) := by
  unfold determineWinner
  rw [hcache]
  dsimp only
  rw [if_pos hne]

/-- An open claim is booked by the cached winner. -/
theorem executeRedeemForClaim_api {id : ClaimId} {c : ClaimRecord} (h : ApiMode s)
    (hget : s.claims.claims.get? id = some c) (hs : c.isSuccess = false)
    (hcache : s.settlement.winnerCache.get? p.conditionId = some winner) (hne : winner ≠ "") :
    (s.executeRedeemForClaim w p id).result = .ok true ∧
      (s.executeRedeemForClaim w p id).state.trace = s.trace ++ [.redeem p.positionId p.conditionId true] ∧
      (s.executeRedeemForClaim w p id).state.balance.available = s.balance.available + p.payout winner ∧
      ApiMode (s.executeRedeemForClaim w p id).state ∧
      ∃ u, (s.executeRedeemForClaim w p id).state.claims.claims = s.claims.claims.put u ∧ u.claimId = id ∧
        u.positionId = c.positionId ∧ u.conditionId = c.conditionId ∧ u.isSuccess = true ∧
        u.claimedAmountUsdc = p.payout winner := by
  have hkey : c.claimId = id := Lib.Table.key_of_get? hget
  unfold executeRedeemForClaim
  rw [if_pos h.settlement, determineWinner_api hcache hne]
  dsimp only
  obtain ⟨hclaims, hmode, hbalance, hok⟩ := @ClaimManager.executeRedeem_paper s.claims s.balance id c
    (decide (p.side.value = winner))
    (Lib.roundTo 4 (if decide (p.side.value = winner) = true then p.netPositionShares else 0)) (s.instant w).now
    hget hs h.claims
  have hamount : (if decide (p.side.value = winner) = true then
      Lib.roundTo 4 (if decide (p.side.value = winner) = true then p.netPositionShares else 0) else 0) =
        p.payout winner := by
    unfold PositionRecord.payout
    by_cases hside : p.side.value = winner
    · simp [hside]
    · simp [hside]
  rw [hamount] at hbalance
  refine ⟨?_, ?_, ?_, ⟨h.settlement, ?_, h.clob, h.retryStates, fun k u hu => ?_⟩, _, hclaims, hkey, rfl, rfl, rfl,
    hamount⟩
  · rw [hok]
    rfl
  · rw [hok]
    rfl
  · exact hbalance
  · exact hmode
  · have hput : (s.claims.claims.put _).get? k = some u := hclaims ▸ hu
    by_cases hk : id = k
    · exact h.drawn k c (hk ▸ hget)
    · rw [Lib.Table.get?_put, if_neg (by exact fun heq => hk (hkey.symm.trans heq))] at hput
      exact h.drawn k u hput

/-- **A settled position**: with a cached winner it gets a claim that is booked by it. -/
theorem settlePosition_api (h : ApiMode s) (hcache : s.settlement.winnerCache.get? p.conditionId = some winner)
    (hne : winner ≠ "") : (s.settlePosition w p).result = .ok true ∧
      (s.settlePosition w p).state.trace = s.trace ++ [.redeem p.positionId p.conditionId true] ∧
      ApiMode (s.settlePosition w p).state ∧ ∃ c, ClaimBooked s (s.settlePosition w p).state p winner c := by
  let now := (s.instant w).now
  let c := ClaimManager.newClaim s.uuids p now
  have hnone : s.claims.claims.get? s.uuids = none := by
    rw [Option.eq_none_iff_forall_ne_some]
    intro u hu
    exact lt_irrefl _ (h.drawn _ u hu)
  have hget : (s.createClaim p now).claims.claims.get? s.uuids = some c := get?_createClaim_self p now
  have hmode : ApiMode (s.createClaim p now) := by
    refine ⟨h.settlement, ?_, h.clob, h.retryStates, fun k u hu => ?_⟩
    · exact (paperMode_createClaim p now).trans h.claims
    · rw [get?_createClaim] at hu
      split_ifs at hu with hk
      · rw [← hk]
        exact Nat.lt_succ_self _
      · exact (h.drawn k u hu).trans (Nat.lt_succ_self _)
  obtain ⟨hresult, htrace, hbalance, hbooked, u, hclaims, hid, hpos, hcond, hs, hamount⟩ :=
    executeRedeemForClaim_api (w := w) hmode hget rfl hcache hne
  have hcall : s.settlePosition w p =
      .returns ((s.createClaim p now).executeRedeemForClaim w p s.uuids).state true := by
    unfold settlePosition
    dsimp only
    rw [hresult]
  rw [hcall]
  refine ⟨rfl, htrace, hbooked, u, ⟨hs, hpos, hcond, hamount⟩, ?_, hamount ▸ hbalance⟩
  have hkey : c.claimId = u.claimId := hid.symm
  rw [Call.state_returns, hclaims, claims_createClaim, Lib.Table.put_put hkey]
  exact Lib.Table.records_put_new (by rw [hid, hnone])

/-! ### One turn of the scan -/

theorem isSettled_records {id : PositionId} :
    s.isSettled id = true ↔ ∃ c ∈ s.claims.claims.records, c.positionId = id ∧ c.isSuccess = true := by
  unfold isSettled ClaimManager.getClaimsByPosition
  simp [List.any_eq_true]

/-- A turn of the scan: the position was settled, or its condition is not resolved, or it gets its claim. -/
inductive Turn (w : World) (s : Trading) (p : PositionRecord) (s' : Trading) : Prop
  | settled (h : s.isSettled p.positionId = true) (hs : s' = s)
  | unresolved (h : s.isSettled p.positionId = false) (hs : s' = s.answered (.resolution p.conditionId false))
  | paid (h : s.isSettled p.positionId = false)
      (htrace : s'.trace = s.trace ++ [.resolution p.conditionId true, .redeem p.positionId p.conditionId true])
      (c : ClaimRecord) (hc : ClaimBooked s s' p (s.instant w).resolution.winningSide c)

/-- **One turn of the scan** asks for the resolution, and pays if there is one. -/
theorem scanOne_api (h : ApiMode s) (hw : ReadsExchange w) : (∃ b, (s.scanOne w p).result = .ok b) ∧
    ApiMode (s.scanOne w p).state ∧ Turn w s p (s.scanOne w p).state := by
  unfold scanOne
  have hretry : (s.settlement.retryStates.get? p.positionId).isSome = false := by rw [h.retryStates]; rfl
  rw [if_neg (by rw [hretry]; exact Bool.false_ne_true)]
  cases hsettled : s.isSettled p.positionId with
  | true =>
    rw [if_pos rfl]
    exact ⟨⟨false, rfl⟩, h, .settled hsettled rfl⟩
  | false =>
    rw [if_neg Bool.false_ne_true]
    unfold checkResolved
    rw [if_pos h.clob]
    dsimp only
    cases hres : (s.instant w).resolution.resolved with
    | false =>
      rw [if_neg Bool.false_ne_true]
      dsimp only
      rw [if_neg Bool.false_ne_true]
      exact ⟨⟨false, rfl⟩, ⟨h.settlement, h.claims, h.clob, h.retryStates, h.drawn⟩, .unresolved hsettled rfl⟩
    | true =>
      rw [if_pos rfl]
      dsimp only
      rw [if_pos rfl]
      let winner := (s.instant w).resolution.winningSide
      let t : Trading := { s.answered (.resolution p.conditionId true) with
        settlement := { s.settlement with winnerCache := s.settlement.winnerCache.set p.conditionId winner } }
      have ht : ApiMode t := ⟨h.settlement, h.claims, h.clob, h.retryStates, h.drawn⟩
      have hcache : t.settlement.winnerCache.get? p.conditionId = some winner := by
        show (s.settlement.winnerCache.set p.conditionId winner).get? p.conditionId = _
        rw [Lib.Dict.get?_set, if_pos rfl]
      obtain ⟨hresult, htrace, hmode, c, hc⟩ := settlePosition_api (w := w) ht hcache (hw.winner_ne hres)
      refine ⟨⟨true, hresult⟩, hmode, .paid hsettled ?_ c ⟨hc.paid, hc.records, hc.balance⟩⟩
      show (t.settlePosition w p).state.trace = _
      rw [htrace]
      exact List.append_assoc s.trace _ _

/-! ### A whole call -/

/-- The scan of `done` led from `s` to `t`: it made the claims `new`, and `calls` were answered. -/
structure Scanned (w : World) (s t : Trading) (done : List PositionRecord) (new : List ClaimRecord)
    (calls : List ExternalCall) : Prop where
  mode : ApiMode t
  records : t.claims.claims.records = s.claims.claims.records ++ new
  trace : t.trace = s.trace ++ calls
  asked : AskedFirst calls
  balance : t.balance.available = s.balance.available + (new.map ClaimRecord.claimedAmountUsdc).sum
  paid : ∀ c ∈ new, ∃ p ∈ done, s.isSettled p.positionId = false ∧
    ∃ n, calls[n]? = some (.resolution p.conditionId true) ∧
      PaidOut (w (s.trace.length + n)).resolution.winningSide p c
  once : (new.map ClaimRecord.positionId).Nodup
  served : ∀ p ∈ done, s.isSettled p.positionId = true ∨ p.positionId ∈ new.map ClaimRecord.positionId ∨
    .resolution p.conditionId false ∈ calls

variable {done : List PositionRecord} {new : List ClaimRecord} {calls : List ExternalCall}

theorem Scanned.refl (w : World) (h : ApiMode s) : Scanned w s s [] [] [] where
  mode := h
  records := (List.append_nil _).symm
  trace := (List.append_nil _).symm
  asked := NoRedeem.askedFirst fun _ hb => absurd hb List.not_mem_nil
  balance := by simp
  paid c hc := absurd hc List.not_mem_nil
  once := List.nodup_nil
  served p hp := absurd hp List.not_mem_nil

/-- What the scan settled is settled, and what was. -/
theorem Scanned.isSettled (h : Scanned w s t done new calls) {id : PositionId} :
    t.isSettled id = true ↔ s.isSettled id = true ∨ id ∈ new.map ClaimRecord.positionId := by
  rw [isSettled_records, isSettled_records, h.records]
  constructor
  · rintro ⟨c, hc, hid, hs⟩
    rcases List.mem_append.mp hc with hc | hc
    · exact .inl ⟨c, hc, hid, hs⟩
    · exact .inr (List.mem_map.mpr ⟨c, hc, hid⟩)
  · rintro (⟨c, hc, hid, hs⟩ | hmem)
    · exact ⟨c, List.mem_append_left _ hc, hid, hs⟩
    · obtain ⟨c, hc, hid⟩ := List.mem_map.mp hmem
      obtain ⟨p, -, -, n, -, hpaid⟩ := h.paid c hc
      exact ⟨c, List.mem_append_right _ hc, hid, hpaid.success⟩

/-- Claims and answers that were there stay when more calls are answered. -/
theorem Scanned.answered (h : Scanned w s t done new calls) {more : List ExternalCall} (hmode : ApiMode s')
    (hrecords : s'.claims.claims.records = t.claims.claims.records) (hbalance : s'.balance = t.balance)
    (htrace : s'.trace = t.trace ++ more) (hmore : AskedFirst more)
    (hserved : s.isSettled p.positionId = true ∨ p.positionId ∈ new.map ClaimRecord.positionId ∨
      .resolution p.conditionId false ∈ calls ++ more) : Scanned w s s' (done ++ [p]) new (calls ++ more) where
  mode := hmode
  records := hrecords.trans h.records
  trace := by rw [htrace, h.trace, List.append_assoc]
  asked := h.asked.append hmore
  balance := by rw [hbalance, h.balance]
  paid c hc := by
    obtain ⟨q, hq, hnot, n, hn, hpaid⟩ := h.paid c hc
    refine ⟨q, List.mem_append_left _ hq, hnot, n, ?_, hpaid⟩
    rw [List.getElem?_append_left (List.getElem?_eq_some_iff.mp hn).1, hn]
  once := h.once
  served q hq := by
    rcases List.mem_append.mp hq with hq | hq
    · rcases h.served q hq with hsettled | hnew | hanswer
      · exact .inl hsettled
      · exact .inr (.inl hnew)
      · exact .inr (.inr (List.mem_append_left _ hanswer))
    · obtain rfl := List.mem_singleton.mp hq
      exact hserved

/-- **The scan goes on** by one turn. -/
theorem Scanned.turn (h : Scanned w s t done new calls) (hw : ReadsExchange w) (p : PositionRecord) :
    (∃ b, (t.scanOne w p).result = .ok b) ∧
      ∃ new' calls', Scanned w s (t.scanOne w p).state (done ++ [p]) new' calls' := by
  obtain ⟨hresult, hmode, hturn⟩ := scanOne_api (p := p) h.mode hw
  refine ⟨hresult, ?_⟩
  generalize (t.scanOne w p).state = t' at hmode hturn
  have hnil : AskedFirst [] := NoRedeem.askedFirst fun _ hb => absurd hb List.not_mem_nil
  cases hturn with
  | settled hsettled hs =>
    subst hs
    refine ⟨new, calls ++ [], h.answered hmode rfl rfl (List.append_nil _).symm hnil ?_⟩
    rcases h.isSettled.mp hsettled with hs | hn
    · exact .inl hs
    · exact .inr (.inl hn)
  | unresolved hnot hs =>
    subst hs
    have hasks : AskedFirst [.resolution p.conditionId false] := NoRedeem.askedFirst fun b hb id => by
      rw [List.mem_singleton.mp hb]
      rfl
    refine ⟨new, _, h.answered hmode rfl rfl rfl hasks ?_⟩
    exact .inr (.inr (List.mem_append_right _ List.mem_cons_self))
  | paid hnot htrace c hc =>
    have hfresh : s.isSettled p.positionId = false ∧ p.positionId ∉ new.map ClaimRecord.positionId := by
      have hor := mt h.isSettled.mpr (by rw [hnot]; exact Bool.false_ne_true)
      exact ⟨Bool.eq_false_iff.mpr fun hs => hor (.inl hs), fun hn => hor (.inr hn)⟩
    have hinstant : t.instant w = w (s.trace.length + calls.length) := by
      rw [instant, h.trace, List.length_append]
    refine ⟨new ++ [c], calls ++ [.resolution p.conditionId true, .redeem p.positionId p.conditionId true], hmode,
      ?_, ?_, h.asked.append (askedFirst_redeem _ _ _), ?_, fun u hu => ?_, ?_, fun q hq => ?_⟩
    · rw [hc.records, h.records, List.append_assoc]
    · rw [htrace, h.trace, List.append_assoc]
    · rw [hc.balance, h.balance, List.map_append, List.sum_append, List.map_singleton, List.sum_singleton, add_assoc]
    · rcases List.mem_append.mp hu with hu | hu
      · obtain ⟨q, hq, hq', n, hn, hpaid⟩ := h.paid u hu
        refine ⟨q, List.mem_append_left _ hq, hq', n, ?_, hpaid⟩
        rw [List.getElem?_append_left (List.getElem?_eq_some_iff.mp hn).1, hn]
      · obtain rfl := List.mem_singleton.mp hu
        refine ⟨p, List.mem_append_right _ List.mem_cons_self, hfresh.1, calls.length, ?_, hinstant ▸ hc.paid⟩
        rw [List.getElem?_append_right le_rfl, Nat.sub_self]
        rfl
    · rw [List.map_append, List.map_singleton, hc.paid.positionId]
      refine List.Nodup.append h.once (List.nodup_singleton _) fun id hid hid' => ?_
      obtain rfl := List.mem_singleton.mp hid'
      exact hfresh.2 hid
    · rw [List.map_append, List.map_singleton, hc.paid.positionId]
      rcases List.mem_append.mp hq with hq | hq
      · rcases h.served q hq with hsettled | hnew | hanswer
        · exact .inl hsettled
        · exact .inr (.inl (List.mem_append_left _ hnew))
        · exact .inr (.inr (List.mem_append_left _ hanswer))
      · obtain rfl := List.mem_singleton.mp hq
        exact .inr (.inl (List.mem_append_right _ List.mem_cons_self))

/-- **A call of `process_settlements`** retries nothing and scans the redeemable positions. -/
theorem processSettlements_api (h : ApiMode s) (hw : ReadsExchange w) :
    (∃ n, (s.processSettlements w).result = .ok n) ∧ ∃ new calls, Scanned w s (s.processSettlements w).state
      (s.tracker.positions.records.filter PositionRecord.isRedeemable) new calls := by
  let ps := s.tracker.positions.records.filter PositionRecord.isRedeemable
  have hretries : s.processRetries w = .returns s 0 := by
    unfold processRetries
    rw [h.retryStates]
    rfl
  obtain ⟨⟨n, hn⟩, done, new, calls, hdone, hscanned⟩ : (∃ n, (s.scanPositions w ps).result = .ok n) ∧
      ∃ done new calls, done ++ [] = ps ∧ Scanned w s (s.scanPositions w ps).state done new calls :=
    Call.countLoop_rule (J := fun rest t => ∃ done new calls, done ++ rest = ps ∧ Scanned w s t done new calls)
      (fun t p rest hJ => by
        obtain ⟨done, new, calls, hdone, hscanned⟩ := hJ
        obtain ⟨hresult, new', calls', hnext⟩ := hscanned.turn hw p
        exact ⟨hresult, done ++ [p], new', calls', by rw [← hdone, List.append_assoc]; rfl, hnext⟩)
      ps s ⟨[], [], [], rfl, .refl w h⟩
  rw [List.append_nil] at hdone
  subst hdone
  have hcall : s.processSettlements w = .returns (s.scanPositions w ps).state (0 + n) := by
    unfold processSettlements
    rw [hretries]
    dsimp only [Call.returns]
    rw [hn]
  rw [hcall]
  exact ⟨⟨_, rfl⟩, new, calls, hscanned⟩

end Trading

namespace SettleDesk

open Trading

/-- A whole call of `process_settlements`, or a step that is no turn of it. -/
inductive CallLabel
  | settle (w : World)
  | apart (l : Label)

/-- Calls of `process_settlements`, which the client does not suspend, and what happens between them. A condition
that is reported as resolved is always reported with its `winner`. -/
inductive CallStep (winner : ConditionId → String) : SettleDesk → CallLabel → SettleDesk → Prop
  | settle (d : SettleDesk) (w : World) (hw : ReadsExchange w)
      (hreports : ∀ n c, d.trading.trace.length ≤ n →
        (d.trading.processSettlements w).state.trace[n]? = some (.resolution c true) →
          (w n).resolution.winningSide = winner c) :
      CallStep winner d (.settle w) (d.afterTurn (d.trading.processSettlements w).state)
  | apart (d : SettleDesk) (l : Label) (d' : SettleDesk) (hturn : l.isTurn = false) (hin : l.inProcess = true)
      (h : Step d l d') : CallStep winner d (.apart l) d'

/-- No claim of the position is held. -/
def Unclaimed (s : Trading) (id : PositionId) : Prop := ∀ c ∈ s.claims.claims.records, c.positionId ≠ id

/-- What holds since a start from `s₀`, with the calls answered since then. -/
structure ApiBooks (winner : ConditionId → String) (s₀ s : Trading) (calls : List ExternalCall) : Prop where
  mode : ApiMode s
  trace : s.trace = s₀.trace ++ calls
  asked : AskedFirst calls
  paid : ∀ c ∈ s.claims.claims.records, Unclaimed s₀ c.positionId → .resolution c.conditionId true ∈ calls ∧
    ∃ p, s.tracker.positions.get? c.positionId = some p ∧ p.isRedeemable = true ∧ PaidOut (winner p.conditionId) p c
  single : ∀ c ∈ s.claims.claims.records, ∀ u ∈ s.claims.claims.records, c.positionId = u.positionId →
    Unclaimed s₀ c.positionId → c = u

variable {winner : ConditionId → String} {d d' : SettleDesk} {l : Label} {w : World} {s s₀ : Trading}
  {calls : List ExternalCall} {c : ClaimRecord} {id : PositionId}

theorem getClaims_nil (h : Unclaimed s id) : s.claims.getClaimsByPosition id = [] := by
  unfold ClaimManager.getClaimsByPosition
  rw [List.filter_eq_nil_iff]
  intro c hc hid
  exact h c hc (of_decide_eq_true hid)

/-- The claims of a position that has one only. -/
theorem getClaims_single (hc : c ∈ s.claims.claims.records) (hid : c.positionId = id)
    (hall : ∀ u ∈ s.claims.claims.records, u.positionId = id → u = c) :
    s.claims.getClaimsByPosition id = [c] := by
  unfold ClaimManager.getClaimsByPosition
  have hnodup : s.claims.claims.records.Nodup :=
    List.Nodup.of_map ClaimRecord.claimId (Lib.Table.nodup_map_key s.claims.claims)
  have hmem : c ∈ s.claims.claims.records.filter (fun r => r.positionId = id) :=
    List.mem_filter.mpr ⟨hc, decide_eq_true hid⟩
  have hrep : s.claims.claims.records.filter (fun r => r.positionId = id) =
      List.replicate (s.claims.claims.records.filter (fun r => r.positionId = id)).length c :=
    List.eq_replicate_iff.mpr ⟨rfl, fun u hu => by
      obtain ⟨hu, hpos⟩ := List.mem_filter.mp hu
      exact hall u hu (of_decide_eq_true hpos)⟩
  have hlen := List.nodup_replicate.mp (hrep ▸ hnodup.filter _)
  have hpos := List.length_pos_of_mem hmem
  rw [hrep, show (s.claims.claims.records.filter (fun r => r.positionId = id)).length = 1 by omega]
  rfl

theorem ApiBooks.getClaims (h : ApiBooks winner s₀ s calls) (hid : Unclaimed s₀ id)
    (hc : c ∈ s.claims.claims.records) (hpos : c.positionId = id) : s.claims.getClaimsByPosition id = [c] :=
  getClaims_single hc hpos fun u hu hu' =>
    (h.single c hc u hu (hpos.trans hu'.symm) (hpos.symm ▸ hid)).symm

/-! ### Between the calls -/

theorem paperMode_markExternallySettled (m : ClaimManager) (k : ClaimId) (now : Time) :
    (m.markExternallySettled k now).1.paperMode = m.paperMode := by
  unfold ClaimManager.markExternallySettled
  split
  · rfl
  · split_ifs
    · rfl
    · exact ClaimManager.paperMode_persist _ _

/-- A claim is changed only if it was open. -/
def ClaimsKept (s s' : Trading) : Prop :=
  ∀ k, s'.claims.claims.get? k = s.claims.claims.get? k ∨ ∃ c c', s.claims.claims.get? k = some c ∧
    s'.claims.claims.get? k = some c' ∧ c.isSuccess = false ∧ c'.positionId = c.positionId

/-- What the steps that are no turns do to the claims. -/
theorem Step.apart (hs : Step d l d') (hd : Sound d) (hturn : l.isTurn = false) (hin : l.inProcess = true) :
    d'.trading.settlement = d.trading.settlement ∧ AsksOnly d.trading.trace d'.trading.trace ∧
      d.trading.uuids ≤ d'.trading.uuids ∧ d'.trading.claims.paperMode = d.trading.claims.paperMode ∧
      ClaimsKept d.trading d'.trading := by
  have hsame : ∀ {s s' : Trading}, s'.claims = s.claims →
      s'.claims.paperMode = s.claims.paperMode ∧ ClaimsKept s s' := by
    intro s s' hclaims
    exact ⟨by rw [hclaims], fun k => .inl (by rw [hclaims])⟩
  cases hs with
  | trade l e hl hst =>
    obtain ⟨hf, hclaims⟩ := hst.tradeFrame hd.desk hl
    refine ⟨hf.settlement, hf.trace, hf.uuids, ?_⟩
    cases hrec : l.isReconcile with
    | false => exact hsame (hclaims hrec)
    | true =>
      cases hst with
      | reconcile w =>
        refine ⟨reconcileExternal_preserves (I := fun t => t.claims.paperMode = d.trading.claims.paperMode) w
          (fun t c _ ht => ?_) rfl, fun k => ?_⟩
        · unfold reconcileOne
          split_ifs
          · exact ht
          · exact (paperMode_markExternallySettled _ _ _).trans ht
        · have hget := reconcileExternal_get? w d.trading k
          cases hc : d.trading.claims.claims.get? k with
          | none =>
            rw [hc] at hget
            exact .inl hget
          | some c =>
            rw [hc, Option.map_some] at hget
            by_cases hopen : (c.isPending && !d.trading.settlement.isPositionInRetry c.positionId) = true
            · refine .inr ⟨c, _, rfl, hget, ?_, (Vault.positionId_reconciledClaim _ c).1⟩
              have hpending := (Bool.and_eq_true_iff.mp hopen).1
              simp only [ClaimRecord.isPending, decide_eq_true_eq] at hpending
              simp [ClaimRecord.isSuccess, hpending]
            · rw [reconciledClaim, if_neg hopen] at hget
              exact .inl hget
      | _ => cases hrec
  | requestClose id reason triggers now =>
    have he := requestClose_exits (s := d.trading) id reason triggers now
    have hstate := requestClose_state d.trading id reason triggers now
    refine ⟨?_, ?_, he.uuids.ge, hsame ?_⟩
    · show (d.trading.requestClose id reason triggers now).state.settlement = _
      rw [hstate]
      rfl
    · show AsksOnly _ (d.trading.requestClose id reason triggers now).state.trace
      rw [hstate]
      exact .refl _
    · show (d.trading.requestClose id reason triggers now).state.claims = _
      rw [hstate]
      rfl
  | retry w id => cases hturn
  | drop id hover => cases hturn
  | scan w p hp hr => cases hturn
  | startAgain ps cs now hnodup hps => cases hin
  | restart ps cs now hnodup hps => cases hin

/-- A closed position stays as it is. -/
theorem Step.closed (hs : Step d l d') (hd : Sound d) (hturn : l.isTurn = false) (hin : l.inProcess = true)
    {p : PositionRecord} (hp : d.trading.tracker.positions.get? id = some p) (hclosed : p.state = .closed) :
    d'.trading.tracker.positions.get? id = some p := by
  have hat : Desk.IsClosedAt d.trading.tracker id := by
    intro q hq
    rw [hp] at hq
    obtain rfl := Option.some.inj hq
    exact hclosed
  cases hs with
  | trade l e hl hst =>
    exact ((hd.desk.step hst).2.1.get?_closed hat (hd.desk.fresh id p hp).ne).trans hp
  | requestClose id reason triggers now =>
    have he := requestClose_exits (s := d.trading) id reason triggers now
    exact (Desk.quiets_closed (PositionTracker.ExitMoves.quiet he.moves) hat).trans hp
  | retry w id => cases hturn
  | drop id hover => cases hturn
  | scan w p hp hr => cases hturn
  | startAgain ps cs now hnodup hps => cases hin
  | restart ps cs now hnodup hps => cases hin

theorem closed_of_redeemable {p : PositionRecord} (h : p.isRedeemable = true) : p.state = .closed := by
  simp only [PositionRecord.isRedeemable, Bool.and_eq_true, PositionRecord.isClosed, decide_eq_true_eq] at h
  exact h.1.1

/-- A claim that is there after the step was there before; if it was booked, it is the same. -/
theorem ClaimsKept.mem {s s' : Trading} (h : ClaimsKept s s') (hc : c ∈ s'.claims.claims.records) :
    c ∈ s.claims.claims.records ∨ ∃ u ∈ s.claims.claims.records, u.isSuccess = false ∧ u.positionId = c.positionId := by
  have hget := Lib.Table.mem_records.mp hc
  rcases h c.claimId with hsame | ⟨u, u', hu, hu', hopen, hpos⟩
  · rw [hget] at hsame
    exact .inl (Lib.Table.mem_records_of_get? hsame.symm)
  · obtain rfl := Option.some.inj (hget.symm.trans hu')
    exact .inr ⟨u, Lib.Table.mem_records_of_get? hu, hopen, hpos.symm⟩

theorem ClaimsKept.booked {s s' : Trading} (h : ClaimsKept s s') (hc : c ∈ s.claims.claims.records)
    (hs : c.isSuccess = true) : c ∈ s'.claims.claims.records := by
  have hget := Lib.Table.mem_records.mp hc
  rcases h c.claimId with hsame | ⟨u, u', hu, -, hopen, -⟩
  · exact Lib.Table.mem_records_of_get? (hsame.trans hget)
  · obtain rfl := Option.some.inj (hget.symm.trans hu)
    rw [hs] at hopen
    cases hopen

/-- The claims of positions that had none at the start are all booked. -/
theorem ApiBooks.success (h : ApiBooks winner s₀ s calls) (hc : c ∈ s.claims.claims.records)
    (hid : Unclaimed s₀ c.positionId) : c.isSuccess = true := by
  obtain ⟨-, p, -, -, hpaid⟩ := h.paid c hc hid
  exact hpaid.success

/-- **Between the calls** nothing is claimed, and what is claimed stays. -/
theorem ApiBooks.apart (h : ApiBooks winner s₀ d.trading calls) (hs : Step d l d') (hd : Sound d)
    (hturn : l.isTurn = false) (hin : l.inProcess = true) : (∃ more, ApiBooks winner s₀ d'.trading (calls ++ more)) ∧
      ∀ id, Unclaimed s₀ id → d'.trading.claims.getClaimsByPosition id = d.trading.claims.getClaimsByPosition id := by
  obtain ⟨hsettlement, ⟨more, hno, htrace⟩, huuids, hmode, hkept⟩ := hs.apart hd hturn hin
  have hold : ∀ c ∈ d'.trading.claims.claims.records, Unclaimed s₀ c.positionId →
      c ∈ d.trading.claims.claims.records := by
    intro c hc hid
    rcases hkept.mem hc with hmem | ⟨u, hu, hopen, hpos⟩
    · exact hmem
    · rw [h.success hu (hpos ▸ hid)] at hopen
      cases hopen
  have hbooks : ApiBooks winner s₀ d'.trading (calls ++ more) := by
    refine ⟨⟨?_, ?_, ?_, ?_, fun k c hc => ?_⟩, ?_, h.asked.append hno.askedFirst, fun c hc hid => ?_,
      fun c hc u hu hpos hid => h.single c (hold c hc hid) u (hold u hu (hpos ▸ hid)) hpos hid⟩
    · rw [hsettlement]
      exact h.mode.settlement
    · rw [hmode]
      exact h.mode.claims
    · rw [hsettlement]
      exact h.mode.clob
    · rw [hsettlement]
      exact h.mode.retryStates
    · rcases hkept k with hsame | ⟨u, u', hu, -⟩
      · exact (h.mode.drawn k c (hsame ▸ hc)).trans_le huuids
      · exact (h.mode.drawn k u hu).trans_le huuids
    · rw [htrace, h.trace, List.append_assoc]
    · obtain ⟨hasked, p, hp, hr, hpaid⟩ := h.paid c (hold c hc hid) hid
      exact ⟨List.mem_append_left _ hasked, p, hs.closed hd hturn hin hp (closed_of_redeemable hr), hr, hpaid⟩
  refine ⟨⟨more, hbooks⟩, fun id hid => ?_⟩
  by_cases hex : ∃ c ∈ d.trading.claims.claims.records, c.positionId = id
  · obtain ⟨c, hc, hpos⟩ := hex
    have hc' := hkept.booked hc (h.success hc (hpos ▸ hid))
    rw [h.getClaims hid hc hpos, hbooks.getClaims hid hc' hpos]
  · have hnone : ∀ c ∈ d.trading.claims.claims.records, c.positionId ≠ id := fun c hc hpos => hex ⟨c, hc, hpos⟩
    rw [getClaims_nil hnone, getClaims_nil fun c hc hpos => hnone c (hold c hc (hpos ▸ hid)) hpos]

/-! ### A call -/

/-- What a call of `process_settlements` does: it returns, the claims it adds are credited, and every redeemable
position has its one claim afterwards or is of a condition that was answered not to be resolved. -/
structure Serves (winner : ConditionId → String) (s₀ : Trading) (w : World) (s s' : Trading) : Prop where
  returns : ∃ n, (s.processSettlements w).result = .ok n
  credited : ∃ new, s'.claims.claims.records = s.claims.claims.records ++ new ∧
    s'.balance.available = s.balance.available + (new.map ClaimRecord.claimedAmountUsdc).sum
  served : ∃ calls, s'.trace = s.trace ++ calls ∧ ∀ id p, s.tracker.positions.get? id = some p →
    p.isRedeemable = true → Unclaimed s₀ id →
      (∃ c, s'.claims.getClaimsByPosition id = [c] ∧ PaidOut (winner p.conditionId) p c) ∨
      s'.claims.getClaimsByPosition id = [] ∧ .resolution p.conditionId false ∈ calls

/-- A new claim is of a position that was not settled, and is paid by the winner of its condition. -/
theorem scanned_resolved {s' : Trading} {ps : List PositionRecord} {new : List ClaimRecord} {more : List ExternalCall}
    (h : Scanned w s s' ps new more)
    (hreports : ∀ n c, s.trace.length ≤ n → s'.trace[n]? = some (.resolution c true) →
      (w n).resolution.winningSide = winner c) : ∀ c ∈ new, .resolution c.conditionId true ∈ more ∧
        s.isSettled c.positionId = false ∧ ∃ p ∈ ps, PaidOut (winner p.conditionId) p c := by
  intro c hc
  obtain ⟨p, hp, hnot, n, hn, hpaid⟩ := h.paid c hc
  have hwinner : (w (s.trace.length + n)).resolution.winningSide = winner p.conditionId := by
    refine hreports _ _ (Nat.le_add_right _ _) ?_
    rw [h.trace, List.getElem?_append_right (Nat.le_add_right _ _), Nat.add_sub_cancel_left]
    exact hn
  rw [hwinner] at hpaid
  refine ⟨?_, ?_, p, hp, hpaid⟩
  · rw [hpaid.conditionId]
    exact List.mem_of_getElem? hn
  · rw [hpaid.positionId]
    exact hnot

/-- **The books after a call.** What was claimed before is not claimed again. -/
theorem ApiBooks.scanned (h : ApiBooks winner s₀ s calls) {s' : Trading} {new : List ClaimRecord}
    {more : List ExternalCall}
    (hscan : Scanned w s s' (s.tracker.positions.records.filter PositionRecord.isRedeemable) new more)
    (htracker : s'.tracker = s.tracker)
    (hreports : ∀ n c, s.trace.length ≤ n → s'.trace[n]? = some (.resolution c true) →
      (w n).resolution.winningSide = winner c) : ApiBooks winner s₀ s' (calls ++ more) := by
  have hnew := scanned_resolved hscan hreports
  refine ⟨hscan.mode, by rw [hscan.trace, h.trace, List.append_assoc], h.asked.append hscan.asked,
    fun c hc hid => ?_, fun c hc u hu hpos hid => ?_⟩
  · rw [hscan.records] at hc
    rw [htracker]
    rcases List.mem_append.mp hc with hc | hc
    · obtain ⟨hasked, hrest⟩ := h.paid c hc hid
      exact ⟨List.mem_append_left _ hasked, hrest⟩
    · obtain ⟨hasked, -, p, hp, hpaid⟩ := hnew c hc
      obtain ⟨hp, hr⟩ := List.mem_filter.mp hp
      exact ⟨List.mem_append_right _ hasked, p, hpaid.positionId ▸ Lib.Table.mem_records.mp hp, hr, hpaid⟩
  · have hapart : ∀ c ∈ s.claims.claims.records, ∀ u ∈ new, Unclaimed s₀ c.positionId →
        c.positionId ≠ u.positionId := by
      intro c hc u hu hid hpos
      have hsettled := isSettled_records.mpr ⟨c, hc, hpos, h.success hc hid⟩
      rw [(hnew u hu).2.1] at hsettled
      cases hsettled
    rw [hscan.records] at hc hu
    rcases List.mem_append.mp hc with hc | hc
    · rcases List.mem_append.mp hu with hu | hu
      · exact h.single c hc u hu hpos hid
      · exact absurd hpos (hapart c hc u hu hid)
    · rcases List.mem_append.mp hu with hu | hu
      · exact absurd hpos.symm (hapart u hu c hc (hpos ▸ hid))
      · exact List.inj_on_of_nodup_map hscan.once hc hu hpos

/-- **A call** pays the positions whose conditions are resolved. -/
theorem ApiBooks.settle (h : ApiBooks winner s₀ s calls) (hw : ReadsExchange w)
    (hreports : ∀ n c, s.trace.length ≤ n → (s.processSettlements w).state.trace[n]? = some (.resolution c true) →
      (w n).resolution.winningSide = winner c) :
    (∃ more, ApiBooks winner s₀ (s.processSettlements w).state (calls ++ more)) ∧
      Serves winner s₀ w s (s.processSettlements w).state := by
  obtain ⟨hresult, new, more, hscan⟩ := processSettlements_api h.mode hw
  have htracker := (processSettlements_frame w s).tracker
  generalize (s.processSettlements w).state = s' at hscan htracker hreports
  have hbooks := h.scanned hscan htracker hreports
  refine ⟨⟨more, hbooks⟩, hresult, ⟨new, hscan.records, hscan.balance⟩, more, hscan.trace, fun id p hp hr hid => ?_⟩
  have hpos : p.positionId = id := Lib.Table.key_of_get? hp
  by_cases hex : ∃ c ∈ s'.claims.claims.records, c.positionId = id
  · obtain ⟨c, hc, hcid⟩ := hex
    refine .inl ⟨c, hbooks.getClaims hid hc hcid, ?_⟩
    obtain ⟨-, q, hq, -, hpaid⟩ := hbooks.paid c hc (hcid ▸ hid)
    rw [hcid, htracker, hp] at hq
    obtain rfl := Option.some.inj hq
    exact hpaid
  · have hnone : ∀ c ∈ s'.claims.claims.records, c.positionId ≠ id := fun c hc hcid => hex ⟨c, hc, hcid⟩
    refine .inr ⟨getClaims_nil hnone, ?_⟩
    have hscanned := List.mem_filter.mpr ⟨Lib.Table.mem_records_of_get? hp, hr⟩
    rcases hscan.served p hscanned with hsettled | hclaimed | hanswer
    · obtain ⟨c, hc, hcid, -⟩ := isSettled_records.mp hsettled
      exact absurd (hcid.trans hpos) (hnone c (hscan.records ▸ List.mem_append_left _ hc))
    · obtain ⟨c, hc, hcid⟩ := List.mem_map.mp hclaimed
      exact absurd (hcid.trans hpos) (hnone c (hscan.records ▸ List.mem_append_right _ hc))
    · exact hanswer

theorem ApiBooks.start (h : ApiMode s) : ApiBooks winner s s [] where
  mode := h
  trace := (List.append_nil _).symm
  asked := NoRedeem.askedFirst fun _ hb => absurd hb List.not_mem_nil
  paid c hc hid := absurd rfl (hid c hc)
  single c hc _ _ _ hid := absurd rfl (hid c hc)

theorem CallStep.sound {cl : CallLabel} (hs : CallStep winner d cl d') (hd : Sound d) : Sound d' := by
  cases hs with
  | settle w hw hreports =>
    have hf := processSettlements_frame w d.trading
    exact hd.after (withTrading_frame hd.desk hf) hf.uuids
  | apart l _ hturn hin h => exact hd.step h

/-- **Settlement by the exchange.** From any state in paper mode with nothing in retry: every redeem follows an answer
that the condition is resolved, a position that had no claim gets one only, which is booked with what its shares pay by
the winner of its condition, and gets it in the first call that is answered so. -/
theorem api_settlement {tr : List (Lib.Taken SettleDesk CallLabel)} (hd : Sound d) (hmode : ApiMode d.trading)
    (hrun : Lib.Run (CallStep winner) d tr d') : ∀ x ∈ tr,
    (∃ calls, ApiBooks winner d.trading x.post.trading calls) ∧
      (∀ w, x.label = .settle w → Serves winner d.trading w x.pre.trading x.post.trading) ∧
      ∀ l, x.label = .apart l → ∀ id, Unclaimed d.trading id →
        x.post.trading.claims.getClaimsByPosition id = x.pre.trading.claims.getClaimsByPosition id := by
  intro x hx
  have hinv := (hrun.invariant (I := fun u => Sound u ∧ ∃ calls, ApiBooks winner d.trading u.trading calls)
    (fun t cl u ht hst => by
      refine ⟨hst.sound ht.1, ?_⟩
      obtain ⟨hsound, calls, hbooks⟩ := ht
      cases hst with
      | settle w hw hreports => exact (hbooks.settle hw hreports).1.imp' (calls ++ ·) fun _ h => h
      | apart l _ hturn hin h => exact (hbooks.apart h hsound hturn hin).1.imp' (calls ++ ·) fun _ h => h)
    ⟨hd, [], .start hmode⟩).2 x hx
  obtain ⟨⟨hsound, calls, hbooks⟩, -, hpost⟩ := hinv
  have hst := hrun.step_of_mem hx
  obtain ⟨pre, label, post⟩ := x
  dsimp only at hsound hbooks hpost hst ⊢
  refine ⟨hpost, fun w hl => ?_, fun l hl => ?_⟩
  · subst hl
    cases hst with
    | settle _ hw hreports => exact (hbooks.settle hw hreports).2
  · subst hl
    cases hst with
    | apart _ _ hturn hin h => exact (hbooks.apart h hsound hturn hin).2

/-- The position in paper mode. -/
def paperHeldDesk : SettleDesk := heldDesk.afterTurn { heldDesk.trading with claims := {}, settlement := {} }

/-- The exchange says that the market is closed and that Up won. -/
def upAnswer : MarketAnswer :=
  .dict (.bool true) (some [.dict (.bool true) (some "Up"), .dict (.bool false) (some "Down")])

def upReported : World := fun _ => { now := 600, resolution := getMarketResolution upAnswer }

theorem paperHeldDesk_sound : Sound paperHeldDesk :=
  heldDesk_unsettled.sound.after (withTrading_frame heldDesk_unsettled.sound.desk ⟨rfl, rfl, rfl, rfl, le_rfl⟩) le_rfl

theorem paperHeldDesk_apiMode : ApiMode paperHeldDesk.trading where
  settlement := rfl
  claims := rfl
  clob := rfl
  retryStates := rfl
  drawn k c hc := by cases hc

theorem upReported_winner (n : ℕ) : (upReported n).resolution.winningSide = "UP" := by
  show (getMarketResolution upAnswer).winningSide = "UP"
  decide +kernel

theorem paperHeldDesk_settle : CallStep (fun _ => "UP") paperHeldDesk (.settle upReported)
    (paperHeldDesk.afterTurn (paperHeldDesk.trading.processSettlements upReported).state) :=
  .settle paperHeldDesk upReported (fun _ => ⟨upAnswer, rfl⟩) fun n _ _ _ => upReported_winner n

theorem api_settlement_up : (paperHeldDesk.trading.processSettlements upReported).state.balance.available = 5 ∧
    Serves (fun _ => "UP") paperHeldDesk.trading upReported paperHeldDesk.trading
      (paperHeldDesk.trading.processSettlements upReported).state :=
  ⟨by decide +kernel, (api_settlement paperHeldDesk_sound paperHeldDesk_apiMode (.single paperHeldDesk_settle) _
    (List.mem_singleton_self _)).2.1 upReported rfl⟩

end SettleDesk

end Polyfast
