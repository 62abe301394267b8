import Mathlib.Algebra.Order.BigOperators.Group.List
import Polyfast.Orchestrator.Desk

/-!
# Spending on the last known balance

In live mode a fill takes nothing off the balance: the call asks for the new one and, if that fails, the old
one stays and counts as fresh for a while. So the amounts of the orders matched since the last successful
fetch add up without being checked against it.

* `LiveFrame`: between the fetches nothing in live mode writes the balance;
* `Spending`: a desk with what the last fetch returned and what was matched since; `Spending.Covered`: the
  condition on a step;
* `Funded`, `Funded.step`: what a covered step keeps;
* `matched_le_limit`, `uncovered_overspends`, `overspends`: the bound, what is lost without the condition, and
  a run that spends more than it has.
-/

namespace Polyfast

namespace Trading

variable {s s' : Trading}

/-- Orders, exits and claims are in live mode, with the wrapper of the exchange set. -/
structure InLiveMode (s : Trading) : Prop where
  mode : s.executor.mode = .live
  hasClob : s.executor.hasClob = true
  exitMode : s.exitExecutor.paperMode = false
  claimMode : s.claims.paperMode = false

/-- The balance, the modes and the minimum order stay. -/
structure LiveFrame (s s' : Trading) : Prop where
  balance : s'.balance = s.balance
  mode : s'.executor.mode = s.executor.mode
  hasClob : s'.executor.hasClob = s.executor.hasClob
  validator : s'.executor.validator = s.executor.validator
  exitMode : s'.exitExecutor.paperMode = s.exitExecutor.paperMode
  claimMode : s'.claims.paperMode = s.claims.paperMode

theorem LiveFrame.refl (s : Trading) : LiveFrame s s := ⟨rfl, rfl, rfl, rfl, rfl, rfl⟩

theorem LiveFrame.trans {s t u : Trading} (h : LiveFrame s t) (h' : LiveFrame t u) : LiveFrame s u :=
  ⟨h'.balance.trans h.balance, h'.mode.trans h.mode, h'.hasClob.trans h.hasClob,
    h'.validator.trans h.validator, h'.exitMode.trans h.exitMode, h'.claimMode.trans h.claimMode⟩

theorem LiveFrame.inLiveMode (h : LiveFrame s s') (hs : s.InLiveMode) : s'.InLiveMode :=
  ⟨h.mode.trans hs.mode, h.hasClob.trans hs.hasClob, h.exitMode.trans hs.exitMode,
    h.claimMode.trans hs.claimMode⟩

theorem ExitFrame.live (h : ExitFrame s s') (hb : s'.balance = s.balance) : LiveFrame s s' :=
  ⟨hb, congrArg OrderExecutor.mode h.executor, congrArg OrderExecutor.hasClob h.executor,
    congrArg OrderExecutor.validator h.executor, h.paperMode, congrArg ClaimManager.paperMode h.claims⟩

theorem SettleFrame.live (h : SettleFrame s s') (hb : s'.balance = s.balance)
    (hc : s'.claims.paperMode = s.claims.paperMode) : LiveFrame s s' :=
  ⟨hb, congrArg OrderExecutor.mode h.executor, congrArg OrderExecutor.hasClob h.executor,
    congrArg OrderExecutor.validator h.executor, congrArg ExitExecutor.paperMode h.exitExecutor, hc⟩

/-! ### Orders -/

/-- In live mode a call that passes its checks sends the order. -/
theorem execute_live {i : OrderIntent} {now : Time} (h : s.mayCreate i now) (hl : s.InLiveMode) :
    s.execute i now = (s.countExecution.createPending i now, .awaitingOrder s.uuids) := by
  have hclob : (s.countExecution.createPending i now).executor.hasClob = true := hl.hasClob
  rw [execute_of_mayCreate h, hl.mode]
  simp only [executeLive, hclob, Bool.not_true, Bool.false_eq_true, if_false]

/-- A call that fails a check ends at once. -/
theorem execute_refused {i : OrderIntent} {now : Time} (h : ¬s.mayCreate i now) :
    LiveFrame s (s.execute i now).1 ∧ ∃ r, (s.execute i now).2 = .done r := by
  unfold execute
  dsimp only
  split_ifs with hstale hpending
  · exact ⟨⟨rfl, rfl, rfl, rfl, rfl, rfl⟩, _, rfl⟩
  · exact ⟨⟨rfl, rfl, rfl, rfl, rfl, rfl⟩, _, rfl⟩
  · cases hv : (s.countExecution.validation i).status with
    | rejected reason => exact ⟨⟨rfl, rfl, rfl, rfl, rfl, rfl⟩, _, rfl⟩
    | valid =>
      refine absurd ⟨?_, ?_, hv⟩ h
      · exact Bool.eq_false_iff.mpr hstale
      · exact Bool.eq_false_iff.mpr hpending

theorem rejectOrder_live (s : Trading) (id : PositionId) (r : ExecutionResult) (now : Time) :
    LiveFrame s (s.rejectOrder id r now).1 ∧ ∃ a, (s.rejectOrder id r now).2 = .done a := by
  unfold rejectOrder
  dsimp only
  split
  · exact ⟨⟨rfl, rfl, rfl, rfl, rfl, rfl⟩, _, rfl⟩
  · exact ⟨⟨rfl, rfl, rfl, rfl, rfl, rfl⟩, _, rfl⟩

/-- The answer to an order leaves the balance to the fetch that follows. -/
theorem orderReply_live (s : Trading) (i : OrderIntent) (id : PositionId) (reply : Option OrderReply)
    (now : Time) : LiveFrame s (s.orderReply i id reply now).1 ∧
      ∀ k, (s.orderReply i id reply now).2 ≠ .awaitingOrder k := by
  have hreject : ∀ r, LiveFrame s (s.rejectOrder id r now).1 ∧
      ∀ k, (s.rejectOrder id r now).2 ≠ .awaitingOrder k := by
    intro r
    obtain ⟨hf, a, ha⟩ := rejectOrder_live s id r now
    refine ⟨hf, fun k hk => ?_⟩
    rw [ha] at hk
    cases hk
  have hframe : ∀ t e, LiveFrame s (s.withTracker t) ∧
      ∀ k, (ExecuteStatus.done (.error e)) ≠ .awaitingOrder k :=
    fun t e => ⟨⟨rfl, rfl, rfl, rfl, rfl, rfl⟩, fun k hk => by cases hk⟩
  unfold orderReply
  cases reply with
  | none => exact hreject _
  | some r =>
    by_cases hmatched : r.status = "matched"
    · simp only [if_pos hmatched]
      cases r.feeRate with
      | error e => exact hframe s.tracker e
      | ok rate =>
        cases r.amounts with
        | error e => exact hframe s.tracker e
        | ok amounts =>
          dsimp only
          split
          · exact hframe _ _
          · exact ⟨⟨rfl, rfl, rfl, rfl, rfl, rfl⟩, fun k hk => by cases hk⟩
    · simp only [if_neg hmatched]
      exact hreject _

/-! ### Exits -/

theorem triggerForceSell_balance (x : CycleInput) (p : PositionRecord) (fresh : Bool) (now : Time) :
    (s.triggerForceSell x p fresh now).state.balance = s.balance := by
  unfold triggerForceSell
  dsimp only
  split_ifs
  · rw [requestClose_state]
    rfl
  · rfl

theorem triggerOne_balance (x : CycleInput) (p : PositionRecord) (now : Time) :
    (s.triggerOne x p now).state.balance = s.balance := by
  unfold triggerOne
  split_ifs
  · rfl
  · exact triggerForceSell_balance x p false now
  · dsimp only
    split
    · rw [requestClose_state]
      rfl
    · rfl
    · exact triggerForceSell_balance _ _ _ _

theorem triggerPhase_live (s : Trading) (w : World) (x : CycleInput) :
    LiveFrame s (s.triggerPhase w x).state :=
  (triggerPhase_frame s w x).live <| Call.countLoop_preserves (I := fun t => t.balance = s.balance) _
    (fun _ _ _ h => (triggerOne_balance _ _ _).trans h) s rfl

theorem closeSold_balance (id : PositionId) (price rate : ℚ) (now : Time)
    (hp : s.exitExecutor.paperMode = false) : (s.closeSold id price rate now).1.balance = s.balance := by
  unfold closeSold
  dsimp only
  split
  · rfl
  · rw [if_neg]
    rw [hp]
    exact Bool.false_ne_true

theorem closeFailed_balance (p : PositionRecord) (now : Time) :
    (s.closeFailed p now).1.balance = s.balance := by
  unfold closeFailed
  split <;> rfl

/-- In live mode a sell order leaves the balance as it is. -/
theorem closeBegin_live (s : Trading) (id : PositionId) (price : ℚ) (now : Time)
    (hp : s.exitExecutor.paperMode = false) : LiveFrame s (s.closeBegin id price now).1 := by
  refine (closeBegin_frame s id price now).live ?_
  cases h : s.tracker.positions.get? id with
  | none => simp only [closeBegin, h]
  | some r =>
    by_cases hidle : isClosing r = false ∨ s.CoolsDown r now
    · rw [closeBegin_idle h hidle]
    · rw [not_or, Bool.not_eq_false] at hidle
      by_cases hc : s.Cancels r price
      · rw [closeBegin_cancels h hc]
        rfl
      · rw [closeBegin_sends h ⟨hidle.1, hidle.2, hc⟩, hp, if_neg Bool.false_ne_true]
        split_ifs
        · rw [closeFailed_balance]
          exact balance_countRetry s r
        · exact balance_countRetry s r

theorem sellAnswered_live (s : Trading) (id : PositionId) (reply : Except PyError (Option OrderReply))
    (now : Time) (hp : s.exitExecutor.paperMode = false) : LiveFrame s (s.sellAnswered id reply now).1 := by
  refine (sellAnswered_frame s id reply now).live ?_
  have hp' : (s.answered (.sell id)).exitExecutor.paperMode = false := hp
  unfold sellAnswered
  cases reply with
  | error e => rfl
  | ok reply =>
    dsimp only
    unfold closeEnd
    split
    · rfl
    · split
      · rfl
      · rw [closeFailed_balance]
        rfl
      · rw [closeSold_balance _ _ _ _ hp']
        rfl

/-! ### Settlement -/

/-- The live branch of a booking credits nothing. -/
theorem executeRedeem_credits_nothing (m : ClaimManager) (b : BalanceManager) (id : ClaimId) (won : Bool)
    (payout : ℚ) (now : Time) (hp : m.paperMode = false) :
    (m.executeRedeem b id won payout now).2.1 = b := by
  cases h : m.claims.get? id with
  | none => rw [ClaimManager.executeRedeem_none h]
  | some r =>
    cases hs : r.isSuccess with
    | true => rw [ClaimManager.executeRedeem_success h hs]
    | false => rw [ClaimManager.executeRedeem_live h hs hp]

theorem executeRedeemForClaim_live (w : World) (s : Trading) (p : PositionRecord) (id : ClaimId)
    (hp : s.claims.paperMode = false) : LiveFrame s (s.executeRedeemForClaim w p id).state := by
  have hmode := fun won payout now => (ClaimManager.executeRedeem_effect s.claims s.balance id won payout now).1
  have hcredit := fun won payout now => executeRedeem_credits_nothing s.claims s.balance id won payout now hp
  unfold executeRedeemForClaim
  split_ifs with hpaper
  · exact ⟨hcredit _ _ _, rfl, rfl, rfl, rfl, hmode _ _ _⟩
  · split
    · exact ⟨rfl, rfl, rfl, rfl, rfl, rfl⟩
    · dsimp only
      split_ifs
      · split
        · exact ⟨rfl, rfl, rfl, rfl, rfl, rfl⟩
        · exact ⟨hcredit _ _ _, rfl, rfl, rfl, rfl, hmode _ _ _⟩
      · split <;> exact ⟨rfl, rfl, rfl, rfl, rfl, rfl⟩

theorem checkResolved_live (w : World) (s : Trading) (c : ConditionId) :
    LiveFrame s (s.checkResolved w c).1 := by
  unfold checkResolved
  split_ifs
  · dsimp only
    split_ifs <;> exact ⟨rfl, rfl, rfl, rfl, rfl, rfl⟩
  · exact .refl s

theorem createClaim_live (s : Trading) (p : PositionRecord) (now : Time) :
    LiveFrame s (s.createClaim p now) :=
  (createClaim_frame s p now).live rfl (ClaimManager.paperMode_persist _ _)

theorem reconcileOne_live (now : Time) (s : Trading) (c : ClaimRecord) :
    LiveFrame s (reconcileOne now s c) := by
  unfold reconcileOne
  split_ifs
  · exact .refl s
  · refine ⟨rfl, rfl, rfl, rfl, rfl, ?_⟩
    dsimp only
    cases hget : s.claims.claims.get? c.claimId with
    | none => rw [ClaimManager.markExternallySettled_none hget]
    | some r =>
      cases hs : r.isSuccess with
      | true => rw [ClaimManager.markExternallySettled_success hget hs]
      | false => exact (ClaimManager.markExternallySettled_open now hget hs).2

theorem reconcileExternal_live (w : World) (s : Trading) : LiveFrame s (s.reconcileExternal w) :=
  reconcileExternal_preserves (I := LiveFrame s) w (fun t c _ h => h.trans (reconcileOne_live _ t c)) (.refl s)

end Trading

/-! ### The fetches -/

/-- The raw amount of USDC, in dollars. -/
def usdc (raw : ℤ) : ℚ := raw / 1000000

/-- What `get_balance` makes of the SDK's answer: it raised, there was none, or a raw amount. -/
def getBalance : Except PyError (Option ℤ) → FetchReply
  | .error _ => .raises
  | .ok none => .none
  | .ok (some raw) => .dict (.num (usdc raw)) (.num (usdc raw))

/-- The available balance that a successful fetch returns. -/
def BalanceManager.returned (b : BalanceManager) (reply : FetchReply) (now : Time) : Option ℚ :=
  if (b.fetch reply now).2 then some (b.fetch reply now).1.available else none

/-- A fetch that fails keeps the old figure. -/
theorem BalanceManager.available_fetch (b : BalanceManager) (answer : Except PyError (Option ℤ))
    (now : Time) : (b.fetch (getBalance answer) now).1.available =
      (b.returned (getBalance answer) now).getD b.available := by
  unfold BalanceManager.returned BalanceManager.fetch
  cases hfn : b.hasFetchFn with
  | false => rfl
  | true =>
    cases answer with
    | error e => rfl
    | ok raw =>
      cases raw with
      | none => rfl
      | some raw => rfl

namespace Desk

variable {d d' : Desk} {l : Label}

/-- The amounts of the orders that wait for the exchange. -/
def inFlight (d : Desk) : ℚ := (d.orders.map (fun o => o.1.amountUsd)).sum

/-- What the balance fetch of a step was answered, and when. -/
def Label.fetch? : Label → Option (FetchReply × Time)
  | orderFetched _ reply now => some (reply, now)
  | sellFetched _ reply now => some (reply, now)
  | _ => none

/-- The amount of the order that a step finds matched. -/
def Label.matchedUsd : Label → ℚ
  | orderReply i _ (some r) _ => if r.status = "matched" then i.amountUsd else 0
  | _ => 0

/-- The balance after a step. -/
def Label.balanceAfter (l : Label) (b : BalanceManager) : BalanceManager :=
  match l.fetch? with
  | some (reply, now) => (b.fetch reply now).1
  | none => b

/-- What a step does to the orders that wait for the exchange. -/
inductive OrdersEffect (d : Desk) (l : Label) (d' : Desk) : Prop
  | sent (i : OrderIntent) (now : Time) (id : PositionId) (hl : l = .execute i now)
      (hmay : d.trading.mayCreate i now) (ho : d'.orders = d.orders ++ [(i, id)])
  | ended (l₁ l₂ : List (OrderIntent × PositionId)) (i : OrderIntent) (id : PositionId)
      (hf : l.fetch? = none) (hd : d.orders = l₁ ++ (i, id) :: l₂) (ho : d'.orders = l₁ ++ l₂)
      (hm : l.matchedUsd = 0 ∨ l.matchedUsd = i.amountUsd)
  | kept (ho : d'.orders = d.orders) (hm : l.matchedUsd = 0)

theorem inFlight_split (l₁ l₂ : List (OrderIntent × PositionId)) {i : OrderIntent} {id : PositionId}
    (hd : d.orders = l₁ ++ (i, id) :: l₂) (ho : d'.orders = l₁ ++ l₂) :
    d.inFlight = d'.inFlight + i.amountUsd := by
  simp only [inFlight, hd, ho, List.map_append, List.map_cons, List.sum_append, List.sum_cons]
  ring

theorem inFlight_sent {i : OrderIntent} {id : PositionId} (ho : d'.orders = d.orders ++ [(i, id)]) :
    d'.inFlight = d.inFlight + i.amountUsd := by
  simp [inFlight, ho]

theorem orders_afterExecute (d : Desk) (i : OrderIntent) (out : Trading × ExecuteStatus)
    (h : ∀ k, out.2 ≠ .awaitingOrder k) : (d.afterExecute i out).orders = d.orders := by
  obtain ⟨s, status⟩ := out
  cases status with
  | done r => rfl
  | awaitingOrder k => exact absurd rfl (h k)
  | awaitingBalance r => rfl

/-- **What a step does to the balance in live mode**: nothing but a fetch writes it. -/
theorem Step.live (hl : d.trading.InLiveMode) (hs : Step d l d') :
    Trading.LiveFrame { d.trading with balance := l.balanceAfter d.trading.balance } d'.trading := by
  cases hs with
  | execute i now =>
    rw [trading_afterExecute]
    by_cases hmay : d.trading.mayCreate i now
    · rw [Trading.execute_live hmay hl]
      exact ⟨rfl, rfl, rfl, rfl, rfl, rfl⟩
    · exact (Trading.execute_refused hmay).1
  | orderReply l₁ l₂ i id reply now hsplit =>
    rw [trading_afterExecute]
    exact (Trading.orderReply_live d.trading i id reply now).1
  | orderLost l₁ l₂ i id hsplit => exact .refl _
  | orderFetched l₁ l₂ r reply now hsplit => exact .refl _
  | orderFetchLost l₁ l₂ r hsplit => exact .refl _
  | cycle => exact ⟨rfl, rfl, rfl, rfl, rfl, rfl⟩
  | trigger w x => exact Trading.triggerPhase_live d.trading w x
  | close id price now =>
    rw [trading_afterClose]
    exact Trading.closeBegin_live d.trading id price now hl.exitMode
  | sellReply l₁ l₂ id reply now hsplit =>
    rw [trading_afterClose]
    exact Trading.sellAnswered_live d.trading id reply now hl.exitMode
  | sellLost l₁ l₂ id hsplit => exact .refl _
  | sellFetched l₁ l₂ id reply now hsplit => exact ⟨rfl, rfl, rfl, rfl, rfl, rfl⟩
  | sellFetchLost l₁ l₂ id hsplit => exact .refl _
  | resolution w c => exact Trading.checkResolved_live w d.trading c
  | claim p now => exact Trading.createClaim_live d.trading p now
  | redeem w p id => exact Trading.executeRedeemForClaim_live w d.trading p id hl.claimMode
  | writeRetry r => exact ⟨rfl, rfl, rfl, rfl, rfl, rfl⟩
  | dropRetry id => exact ⟨rfl, rfl, rfl, rfl, rfl, rfl⟩
  | reconcile w => exact Trading.reconcileExternal_live w d.trading

theorem Step.ordersEffect (hl : d.trading.InLiveMode) (hs : Step d l d') : OrdersEffect d l d' := by
  cases hs with
  | execute i now =>
    by_cases hmay : d.trading.mayCreate i now
    · refine .sent i now d.trading.uuids rfl hmay ?_
      rw [Trading.execute_live hmay hl]
      rfl
    · obtain ⟨-, r, hr⟩ := Trading.execute_refused hmay
      refine .kept (orders_afterExecute d i _ fun k hk => ?_) rfl
      rw [hr] at hk
      cases hk
  | orderReply l₁ l₂ i id reply now hsplit =>
    have horders := orders_afterExecute { d with orders := l₁ ++ l₂ } i _
      (Trading.orderReply_live d.trading i id reply now).2
    refine .ended l₁ l₂ i id rfl hsplit horders ?_
    cases reply with
    | none => exact .inl rfl
    | some r =>
      by_cases hmatched : r.status = "matched"
      · exact .inr (if_pos hmatched)
      · exact .inl (if_neg hmatched)
  | orderLost l₁ l₂ i id hsplit => exact .ended l₁ l₂ i id rfl hsplit rfl (.inl rfl)
  | orderFetched l₁ l₂ r reply now hsplit => exact .kept rfl rfl
  | orderFetchLost l₁ l₂ r hsplit => exact .kept rfl rfl
  | cycle => exact .kept rfl rfl
  | trigger w x => exact .kept rfl rfl
  | close id price now => exact .kept (orders_afterClose _) rfl
  | sellReply l₁ l₂ id reply now hsplit => exact .kept (orders_afterClose _) rfl
  | sellLost l₁ l₂ id hsplit => exact .kept rfl rfl
  | sellFetched l₁ l₂ id reply now hsplit => exact .kept rfl rfl
  | sellFetchLost l₁ l₂ id hsplit => exact .kept rfl rfl
  | resolution w c => exact .kept rfl rfl
  | claim p now => exact .kept rfl rfl
  | redeem w p id => exact .kept rfl rfl
  | writeRetry r => exact .kept rfl rfl
  | dropRetry id => exact .kept rfl rfl
  | reconcile w => exact .kept rfl rfl

end Desk

/-- A desk, with what the last successful balance fetch returned and the amounts of the orders matched
since. -/
structure Spending where
  desk : Desk
  limit : ℚ
  matched : ℚ := 0

namespace Spending

variable (a : Spending)

/-- A step of the desk, a fetch of the passive refresh (also at startup and after new credentials), or a
balance that `_verify_balance` got. -/
inductive Label
  | desk (l : Desk.Label)
  | refresh (answer : Except PyError (Option ℤ)) (now : Time)
  | verified (raw : ℤ) (now : Time)

/-- The available balance that a successful fetch of the step returns. -/
def Label.returned (b : BalanceManager) : Label → Option ℚ
  | desk l => l.fetch?.bind (fun x => b.returned x.1 x.2)
  | refresh answer now => b.returned (getBalance answer) now
  | verified raw _ => some (usdc raw)

def Label.matchedUsd : Label → ℚ
  | desk l => l.matchedUsd
  | _ => 0

/-- The desk moved on; a successful fetch starts a new account. -/
def after (l : Label) (d' : Desk) : Spending :=
  match l.returned a.desk.trading.balance with
  | some q => { desk := d', limit := q }
  | none => { desk := d', limit := a.limit, matched := a.matched + l.matchedUsd }

/-- The desk with another balance. -/
def withBalance (d : Desk) (b : BalanceManager) : Desk := d.withTrading { d.trading with balance := b }

/-- One step; the balance manager fetches with `get_balance`. -/
inductive Step : Spending → Label → Spending → Prop
  | desk (a : Spending) {l : Desk.Label} {d' : Desk} (h : Desk.Step a.desk l d')
      (hsdk : ∀ reply now, l.fetch? = some (reply, now) → ∃ answer, reply = getBalance answer) :
      Step a (.desk l) (a.after (.desk l) d')
  | refresh (a : Spending) (answer : Except PyError (Option ℤ)) (now : Time) :
      Step a (.refresh answer now) (a.after (.refresh answer now)
        (withBalance a.desk (a.desk.trading.balance.fetch (getBalance answer) now).1))
  | verified (a : Spending) (raw : ℤ) (now : Time) :
      Step a (.verified raw now) (a.after (.verified raw now)
        (withBalance a.desk (a.desk.trading.balance.update (usdc raw) (some (usdc raw)) now)))

/-- What was matched and what may still be. -/
def committed : ℚ := a.matched + a.desk.inFlight

/-- **The condition on a step.** An order is sent while nothing else is committed, or it fits with the rest;
and a successful fetch returns at least what is in flight. -/
structure Covered (l : Label) : Prop where
  sent : ∀ i now, l = .desk (.execute i now) → a.desk.trading.mayCreate i now →
    a.committed = 0 ∨ a.committed + i.amountUsd ≤ a.limit
  fetched : ∀ q, l.returned a.desk.trading.balance = some q → a.desk.inFlight ≤ q

/-- Live mode, no order sent yet, and the balance as last fetched. -/
structure Start : Prop where
  mode : a.desk.trading.InLiveMode
  minOrder : 0 ≤ a.desk.trading.executor.validator.minOrderUsd
  orders : a.desk.orders = []
  matched : a.matched = 0
  available : a.desk.trading.balance.available = a.limit
  nonneg : 0 ≤ a.limit

/-- What a covered step keeps: the committed amounts stay within the limit. -/
structure Funded : Prop where
  mode : a.desk.trading.InLiveMode
  minOrder : 0 ≤ a.desk.trading.executor.validator.minOrderUsd
  amounts : ∀ o ∈ a.desk.orders, 0 ≤ o.1.amountUsd
  available : a.desk.trading.balance.available = a.limit
  committed : a.committed ≤ a.limit

variable {a : Spending} {a' : Spending} {l : Label}

theorem Start.funded (h : Start a) : Funded a where
  mode := h.mode
  minOrder := h.minOrder
  amounts := by simp [h.orders]
  available := h.available
  committed := by
    simp only [Spending.committed, Desk.inFlight, h.matched, h.orders, List.map_nil, List.sum_nil, add_zero]
    exact h.nonneg

theorem Funded.inFlight_nonneg (h : Funded a) : 0 ≤ a.desk.inFlight := by
  refine List.sum_nonneg fun x hx => ?_
  obtain ⟨o, ho, rfl⟩ := List.mem_map.mp hx
  exact h.amounts o ho

/-- **The check of the validator** covers an order that is sent while nothing else is committed. -/
theorem Funded.fits (h : Funded a) {i : OrderIntent} {now : Time} (hmay : a.desk.trading.mayCreate i now)
    (hc : a.committed = 0 ∨ a.committed + i.amountUsd ≤ a.limit) : a.committed + i.amountUsd ≤ a.limit := by
  rcases hc with hc | hc
  · rw [hc, zero_add, ← h.available]
    exact hmay.limits.2.1
  · exact hc

theorem after_some {d' : Desk} {q : ℚ} (h : l.returned a.desk.trading.balance = some q) :
    a.after l d' = { desk := d', limit := q } := by
  simp only [after, h]

theorem after_none {d' : Desk} (h : l.returned a.desk.trading.balance = none) :
    a.after l d' = { desk := d', limit := a.limit, matched := a.matched + l.matchedUsd } := by
  simp only [after, h]

theorem Funded.liveFrame (h : Funded a) {b : BalanceManager} {t : Trading}
    (hf : Trading.LiveFrame { a.desk.trading with balance := b } t) :
    t.InLiveMode ∧ 0 ≤ t.executor.validator.minOrderUsd := by
  refine ⟨hf.inLiveMode ⟨h.mode.mode, h.mode.hasClob, h.mode.exitMode, h.mode.claimMode⟩, ?_⟩
  rw [hf.validator]
  exact h.minOrder

/-- A balance fetch, by whomever, with the orders as they are. -/
theorem Funded.fetched (h : Funded a) (hc : Covered a l) {d' : Desk}
    (hf : Trading.LiveFrame { a.desk.trading with balance := d'.trading.balance } d'.trading)
    (hb : d'.trading.balance.available =
      (l.returned a.desk.trading.balance).getD a.desk.trading.balance.available)
    (ho : d'.orders = a.desk.orders) (hm : l.matchedUsd = 0) : Funded (a.after l d') := by
  obtain ⟨hmode, hmin⟩ := h.liveFrame hf
  have hamounts : ∀ o ∈ d'.orders, 0 ≤ o.1.amountUsd := by
    rw [ho]
    exact h.amounts
  have hflight : d'.inFlight = a.desk.inFlight := by rw [Desk.inFlight, ho, Desk.inFlight]
  cases hr : l.returned a.desk.trading.balance with
  | some q =>
    rw [hr] at hb
    rw [after_some hr]
    refine ⟨hmode, hmin, hamounts, hb, ?_⟩
    rw [Spending.committed, zero_add, hflight]
    exact hc.fetched q hr
  | none =>
    rw [hr] at hb
    rw [after_none hr]
    refine ⟨hmode, hmin, hamounts, hb.trans h.available, ?_⟩
    rw [Spending.committed, hm, add_zero, hflight]
    exact h.committed

/-- A step of the desk without a fetch. -/
theorem returned_of_fetch?_none {l : Desk.Label} (h : l.fetch? = none) (b : BalanceManager) :
    (Label.desk l).returned b = none := by
  simp only [Label.returned, h, Option.bind_none]

theorem available_balanceAfter {l : Desk.Label} (b : BalanceManager)
    (hsdk : ∀ reply now, l.fetch? = some (reply, now) → ∃ answer, reply = getBalance answer) :
    (l.balanceAfter b).available = ((Label.desk l).returned b).getD b.available := by
  cases hf : l.fetch? with
  | none => simp only [Desk.Label.balanceAfter, Label.returned, hf, Option.bind_none, Option.getD_none]
  | some x =>
    obtain ⟨answer, hanswer⟩ := hsdk x.1 x.2 hf
    simp only [Desk.Label.balanceAfter, Label.returned, hf, Option.bind_some, hanswer]
    exact b.available_fetch answer x.2

theorem Funded.desk (h : Funded a) {l : Desk.Label} {d' : Desk} (hc : Covered a (.desk l))
    (hs : Desk.Step a.desk l d')
    (hsdk : ∀ reply now, l.fetch? = some (reply, now) → ∃ answer, reply = getBalance answer) :
    Funded (a.after (.desk l) d') := by
  have hf := hs.live h.mode
  have hbalance : d'.trading.balance = l.balanceAfter a.desk.trading.balance := hf.balance
  have hb := available_balanceAfter a.desk.trading.balance hsdk
  rw [← hbalance] at hb
  obtain ⟨hmode, hmin⟩ := h.liveFrame hf
  cases hs.ordersEffect h.mode with
  | sent i now id hl hmay ho =>
    have hnone := returned_of_fetch?_none (l := l) (by rw [hl]; rfl) a.desk.trading.balance
    have hzero : (Label.desk l).matchedUsd = 0 := by rw [hl]; rfl
    have hfits := h.fits hmay (hc.sent i now (by rw [hl]) hmay)
    rw [hnone] at hb
    rw [after_none hnone, hzero, add_zero]
    refine ⟨hmode, hmin, fun o hmem => ?_, hb.trans h.available, ?_⟩
    · rw [ho, List.mem_append, List.mem_singleton] at hmem
      rcases hmem with hmem | rfl
      · exact h.amounts o hmem
      · exact h.minOrder.trans hmay.limits.1
    · rw [Spending.committed, Desk.inFlight_sent ho, ← add_assoc]
      exact hfits
  | ended l₁ l₂ i id hnofetch hd ho hm =>
    have hnone := returned_of_fetch?_none hnofetch a.desk.trading.balance
    have hflight := Desk.inFlight_split l₁ l₂ hd ho
    have hamount : 0 ≤ i.amountUsd := h.amounts (i, id) (by rw [hd]; simp)
    have hcommitted := h.committed
    rw [hnone] at hb
    rw [after_none hnone]
    refine ⟨hmode, hmin, fun o hmem => ?_, hb.trans h.available, ?_⟩
    · rw [ho] at hmem
      exact h.amounts o ((Lib.split_sublist hd).subset hmem)
    · rw [Spending.committed, hflight] at hcommitted
      rw [Spending.committed]
      rcases hm with hm | hm
      · rw [Label.matchedUsd, hm]
        linarith
      · rw [Label.matchedUsd, hm]
        linarith
  | kept ho hm =>
    exact h.fetched hc ⟨rfl, hf.mode, hf.hasClob, hf.validator, hf.exitMode, hf.claimMode⟩ hb ho hm

/-- **A covered step keeps the committed amounts within the limit.** -/
theorem Funded.step (h : Funded a) (hc : Covered a l) (hs : Step a l a') : Funded a' := by
  cases hs with
  | desk hd hsdk => exact h.desk hc hd hsdk
  | refresh answer now =>
    exact h.fetched hc ⟨rfl, rfl, rfl, rfl, rfl, rfl⟩ (a.desk.trading.balance.available_fetch answer now) rfl rfl
  | verified raw now => exact h.fetched hc ⟨rfl, rfl, rfl, rfl, rfl, rfl⟩ rfl rfl rfl

theorem Funded.matched_le (h : Funded a) : a.matched ≤ a.limit := by
  have hcommitted := h.committed
  have hflight := h.inFlight_nonneg
  rw [Spending.committed] at hcommitted
  linarith

/-- **No overspend where every step is covered.** In every run in live mode whose orders are each sent while
nothing else is committed, or fit with the rest, and whose fetches return at least what is in flight, the
orders matched since the last successful fetch never exceed what it returned. -/
theorem matched_le_limit {start : Spending} {tr : List (Lib.Taken Spending Label)} (hstart : Start start)
    (hrun : Lib.Run Step start tr a) (hcovered : ∀ x ∈ tr, Covered x.pre x.label) :
    a.matched ≤ a.limit ∧ ∀ x ∈ tr, x.post.matched ≤ x.post.limit := by
  obtain ⟨hend, hall⟩ := hrun.invariant_under (I := Funded) (C := Covered)
    (fun _ _ _ ht hl hs => ht.step hl hs) hstart.funded hcovered
  exact ⟨hend.matched_le, fun x hx => (hall x hx).2.matched_le⟩

/-! ### Without the condition -/

theorem after_desk (l : Label) (d' : Desk) : (a.after l d').desk = d' := by
  unfold after
  split <;> rfl

/-- Live mode is never left. -/
theorem Step.inLiveMode (hs : Step a l a') (hl : a.desk.trading.InLiveMode) : a'.desk.trading.InLiveMode := by
  cases hs with
  | desk hd hsdk =>
    rw [after_desk]
    exact (hd.live hl).inLiveMode ⟨hl.mode, hl.hasClob, hl.exitMode, hl.claimMode⟩
  | refresh answer now =>
    rw [after_desk]
    exact ⟨hl.mode, hl.hasClob, hl.exitMode, hl.claimMode⟩
  | verified raw now =>
    rw [after_desk]
    exact ⟨hl.mode, hl.hasClob, hl.exitMode, hl.claimMode⟩

/-- A fetch of a step leaves the orders in flight. -/
theorem Step.inFlight_of_returned (hs : Step a l a') (hl : a.desk.trading.InLiveMode) {q : ℚ}
    (h : l.returned a.desk.trading.balance = some q) : a'.desk.inFlight = a.desk.inFlight := by
  cases hs with
  | desk hd hsdk =>
    rw [after_desk]
    cases hd.ordersEffect hl with
    | sent i now id heq _ _ =>
      rw [heq] at h
      cases h
    | ended l₁ l₂ i id hnofetch _ _ _ =>
      rw [returned_of_fetch?_none hnofetch] at h
      cases h
    | kept ho hm => rw [Desk.inFlight, ho, Desk.inFlight]
  | refresh answer now =>
    rw [after_desk]
    rfl
  | verified raw now =>
    rw [after_desk]
    rfl

/-- An uncovered step commits more than there is. -/
theorem Step.overcommits (hs : Step a l a') (hl : a.desk.trading.InLiveMode) (h : ¬Covered a l) :
    a'.limit < a'.committed := by
  by_cases hfetch : ∀ q, l.returned a.desk.trading.balance = some q → a.desk.inFlight ≤ q
  · have hsend : ∃ i now, l = .desk (.execute i now) ∧ a.desk.trading.mayCreate i now ∧
        a.limit < a.committed + i.amountUsd := by
      by_contra hnone
      push Not at hnone
      exact h ⟨fun i now heq hmay => .inr (hnone i now heq hmay), hfetch⟩
    obtain ⟨i, now, rfl, hmay, hlt⟩ := hsend
    cases hs with
    | desk hd hsdk =>
      rw [after_none rfl]
      cases hd with
      | execute =>
        rw [Trading.execute_live hmay hl]
        have hflight : (a.desk.afterExecute i (a.desk.trading.countExecution.createPending i now,
            .awaitingOrder a.desk.trading.uuids)).inFlight = a.desk.inFlight + i.amountUsd :=
          Desk.inFlight_sent rfl
        simp only [Spending.committed, hflight, Label.matchedUsd, Desk.Label.matchedUsd, add_zero] at hlt ⊢
        rw [← add_assoc]
        exact hlt
  · push Not at hfetch
    obtain ⟨q, hq, hlt⟩ := hfetch
    have hflight := hs.inFlight_of_returned hl hq
    have hafter : a' = { desk := a'.desk, limit := q } := by
      cases hs with
      | desk hd hsdk => rw [after_some hq]
      | refresh answer now => rw [after_some hq]
      | verified raw now => rw [after_some hq]
    rw [hafter, Spending.committed, hflight, zero_add]
    exact hlt

/-- The orders in flight may all be matched before the next fetch. -/
theorem all_matched (orders : List (OrderIntent × PositionId)) :
    ∀ a : Spending, a.desk.orders = orders →
      ∃ tr b, Lib.Run Step a tr b ∧ b.limit = a.limit ∧ b.matched = a.committed := by
  induction orders with
  | nil =>
    intro a ho
    refine ⟨[], a, .nil a, rfl, ?_⟩
    simp [committed, Desk.inFlight, ho]
  | cons o orders ih =>
    intro a ho
    obtain ⟨i, id⟩ := o
    obtain ⟨d', hd, horders⟩ : ∃ d', Desk.Step a.desk (.orderReply i id (some { status := "matched" }) 0) d' ∧
        d'.orders = orders :=
      ⟨_, .orderReply a.desk [] orders i id _ 0 ho, Desk.orders_afterExecute _ i _
        (Trading.orderReply_live a.desk.trading i id (some { status := "matched" }) 0).2⟩
    have hstep := Step.desk a hd (fun _ _ h => by cases h)
    rw [after_none rfl] at hstep
    obtain ⟨tr, b, hrun, hlimit, hmatched⟩ := ih { desk := d', limit := a.limit, matched := _ } horders
    refine ⟨_, b, (Lib.Run.single hstep).append hrun, hlimit, ?_⟩
    have hflight := Desk.inFlight_split [] orders ho horders
    simp only [hmatched, committed, hflight, Label.matchedUsd, Desk.Label.matchedUsd, if_true]
    ring

/-- **Without the condition the bound is lost**: after an uncovered step the orders in flight, all matched,
exceed what the last fetch returned. -/
theorem uncovered_overspends {start : Spending} {tr : List (Lib.Taken Spending Label)} (hstart : Start start)
    (hrun : Lib.Run Step start tr a) {x : Lib.Taken Spending Label} (hx : x ∈ tr)
    (h : ¬Covered x.pre x.label) : ∃ tr' b, Lib.Run Step x.post tr' b ∧ b.limit < b.matched := by
  obtain ⟨-, hlive⟩ := hrun.invariant (I := fun a => a.desk.trading.InLiveMode)
    (fun _ _ _ ht hs => hs.inLiveMode ht) hstart.mode
  have hover := (hrun.step_of_mem hx).overcommits (hlive x hx).1 h
  obtain ⟨tr', b, hrun', hlimit, hmatched⟩ := all_matched _ x.post rfl
  refine ⟨tr', b, hrun', ?_⟩
  rw [hlimit, hmatched]
  exact hover

/-! ### A run -/

/-- Live mode, ten dollars just fetched. -/
def tenDollars : Spending :=
  { desk := { trading := { (Desk.startDesk .live 3).trading with claims := { paperMode := false } } }
    limit := 10 }

theorem tenDollars_start : Start tenDollars :=
  ⟨⟨rfl, rfl, rfl, rfl⟩, by decide +kernel, rfl, rfl, rfl, by decide +kernel⟩

/-- An order of six dollars. -/
def sixDollars (c : ConditionId) : OrderIntent := { Desk.orderFor c with amountUsd := 6 }

theorem matched_le_limit_once :
    ∃ tr a, Lib.Run Step tenDollars tr a ∧ a.matched = 6 ∧ a.matched ≤ a.limit := by
  have hrun := ((Lib.Run.nil tenDollars).snoc
    (Step.desk _ (.execute _ (sixDollars "a") 0) (fun _ _ h => by cases h))).snoc
    (Step.desk _ (.orderReply _ [] [] (sixDollars "a") 0 (some { status := "matched" }) 0 (by decide +kernel))
      (fun _ _ h => by cases h))
  refine ⟨_, _, hrun, by decide +kernel, (matched_le_limit tenDollars_start hrun fun x hx => ?_).1⟩
  rcases List.mem_cons.mp hx with rfl | hx
  · exact ⟨fun i now heq _ => .inl (by decide +kernel), fun q hq => by cases hq⟩
  · obtain rfl := List.mem_singleton.mp hx
    refine ⟨fun i now heq => ?_, fun q hq => ?_⟩
    · cases heq
    · cases hq

/-- The result of a fill at half a dollar. -/
def filledAtHalf : ExecutionResult :=
  { result := .filled, positionId := some 0, fillPrice := 1 / 2, feeRate := defaultCryptoFeeRate
    detail := .live "" (.num 0) (.num 0) (.num 0) }

/-- **A run that spends twelve dollars of ten**: the balance fetch after the first fill gets no answer, and
the second order is checked against the old balance. -/
theorem overspends :
    ¬∀ start tr a, Start start → Lib.Run Step start tr a → a.matched ≤ a.limit := by
  intro hall
  have hrun := ((((Lib.Run.nil tenDollars).snoc
    (Step.desk _ (.execute _ (sixDollars "a") 0) (fun _ _ h => by cases h))).snoc
    (Step.desk _ (.orderReply _ [] [] (sixDollars "a") 0 (some { status := "matched" }) 0 (by decide +kernel))
      (fun _ _ h => by cases h))).snoc
    (Step.desk _ (.orderFetched _ [] [] filledAtHalf (getBalance (.ok none)) 1 (by decide +kernel))
      (fun _ _ h => ⟨.ok none, by cases h; rfl⟩))).snoc
    (Step.desk _ (.execute _ (sixDollars "b") 2) (fun _ _ h => by cases h))
  have hboth := hrun.snoc (Step.desk _ (.orderReply _ [] [] (sixDollars "b") 1 (some { status := "matched" }) 2
    (by decide +kernel)) (fun _ _ h => by cases h))
  exact absurd (hall _ _ _ tenDollars_start hboth) (by decide +kernel)

end Spending

end Polyfast
