import Polyfast.Orchestrator.Desk

/-!
# Calls of `execute_close` and `execute_close_with_retry`

A `CloseDesk` is the execution layer with the suspended calls that sell: a call waits for its sell order, for
the balance fetch after a sale, or, between two attempts of `execute_close_with_retry`, for its sleep. What
keeps two calls on one position apart is its state: who finds it closing sets it to `CLOSE_PENDING` before
the await, and nobody else takes it from there.

* `SaleEffect`, `closeBegin_sale`, `sellAnswered_sale`: what a stretch does to the books of a position;
* `CloseDesk.single_sell`: a position is sold at most once.
-/

namespace Polyfast

/-- `DEFAULT_RETRY_INTERVAL_MS`. -/
def defaultRetryIntervalMs : ℕ := 400

/-- The locals of `execute_close_with_retry`. -/
structure RetryCall where
  id : PositionId
  currentPrice : ℚ
  retries : ℕ
  intervalSec : ℚ
  attempt : ℕ := 0
  deriving DecidableEq

/-- Who waits for the end of an `execute_close`. -/
inductive Caller
  | direct
  | retry (c : RetryCall)
  deriving DecidableEq

namespace Trading

variable (s : Trading)

/-- `execute_close_with_retry` up to its loop; the position is the tracker's object. -/
def retryCall (id : PositionId) (currentPrice : ℚ) (maxRetries : Option ℕ) : RetryCall :=
  let reason := ((s.tracker.positions.get? id).bind PositionRecord.closeReason).getD .manualClose
  { id := id, currentPrice := currentPrice
    retries := maxRetries.getD s.exitExecutor.maxCloseRetries
    intervalSec := (s.exitExecutor.retryIntervalsMs.getD reason defaultRetryIntervalMs : ℕ) / 1000 }

/-- After a call of `execute_close`: the sleep before the next attempt, `none` if the caller is done. -/
def nextAttempt (who : Caller) (result : Except PyError Bool) : Option RetryCall :=
  match who, result with
  | .retry c, .ok false =>
    if (s.tracker.positions.get? c.id).any PositionRecord.isOpen then none
    else if c.attempt + 1 < c.retries then some { c with attempt := c.attempt + 1 } else none
  | _, _ => none

end Trading

/-- The execution layer and the suspended calls that sell. -/
structure CloseDesk where
  trading : Trading
  /-- Calls of `execute_close` waiting for their sell order. -/
  selling : List (Caller × PositionId) := []
  /-- Calls of `execute_close` waiting for the balance after a sale. -/
  fetching : List (Caller × PositionId) := []
  /-- Calls of `execute_close_with_retry` between two attempts. -/
  sleeping : List RetryCall := []

namespace CloseDesk

variable (d : CloseDesk)

/-- A call of `execute_close` has run up to an await or to its end. -/
def after (who : Caller) (out : Trading × CloseStatus) : CloseDesk :=
  match out.2 with
  | .awaitingSell id => { d with trading := out.1, selling := d.selling ++ [(who, id)] }
  | .awaitingBalance id => { d with trading := out.1, fetching := d.fetching ++ [(who, id)] }
  | .done r =>
    { d with trading := out.1, sleeping := d.sleeping ++ (out.1.nextAttempt who r).toList }

/-- An attempt of `execute_close_with_retry`, if there is one to make. -/
def attempt (c : RetryCall) (now : Time) : CloseDesk :=
  if c.attempt < c.retries then d.after (.retry c) (d.trading.closeBegin c.id c.currentPrice now) else d

inductive Label
  | close (id : PositionId) (price : ℚ) (now : Time)
  | closeWithRetry (id : PositionId) (price : ℚ) (maxRetries : Option ℕ) (now : Time)
  | wake (c : RetryCall) (now : Time)
  | sellReply (who : Caller) (id : PositionId) (reply : Except PyError (Option OrderReply)) (now : Time)
  | sellLost (who : Caller) (id : PositionId)
  | fetched (who : Caller) (id : PositionId) (reply : FetchReply) (now : Time)
  | fetchLost (who : Caller) (id : PositionId)
  | sleepLost (c : RetryCall)

/-- The position a step is about. -/
def Label.position : Label → PositionId
  | close id _ _ | closeWithRetry id _ _ _ | sellReply _ id _ _ | sellLost _ id | fetched _ id _ _
  | fetchLost _ id => id
  | wake c _ | sleepLost c => c.id

/-- A call is made, or goes on after its await; a lost call was cancelled there. -/
inductive Step : CloseDesk → Label → CloseDesk → Prop
  | close (d : CloseDesk) (id : PositionId) (price : ℚ) (now : Time) :
      Step d (.close id price now) (d.after .direct (d.trading.closeBegin id price now))
  | closeWithRetry (d : CloseDesk) (id : PositionId) (price : ℚ) (maxRetries : Option ℕ) (now : Time) :
      Step d (.closeWithRetry id price maxRetries now)
        (d.attempt (d.trading.retryCall id price maxRetries) now)
  | wake (d : CloseDesk) (l₁ l₂ : List RetryCall) (c : RetryCall) (now : Time)
      (h : d.sleeping = l₁ ++ c :: l₂) :
      Step d (.wake c now) ({ d with sleeping := l₁ ++ l₂ }.attempt c now)
  | sellReply (d : CloseDesk) (l₁ l₂ : List (Caller × PositionId)) (who : Caller) (id : PositionId)
      (reply : Except PyError (Option OrderReply)) (now : Time) (h : d.selling = l₁ ++ (who, id) :: l₂) :
      Step d (.sellReply who id reply now)
        ({ d with selling := l₁ ++ l₂ }.after who (d.trading.sellAnswered id reply now))
  | sellLost (d : CloseDesk) (l₁ l₂ : List (Caller × PositionId)) (who : Caller) (id : PositionId)
      (h : d.selling = l₁ ++ (who, id) :: l₂) :
      Step d (.sellLost who id) { d with selling := l₁ ++ l₂ }
  | fetched (d : CloseDesk) (l₁ l₂ : List (Caller × PositionId)) (who : Caller) (id : PositionId)
      (reply : FetchReply) (now : Time) (h : d.fetching = l₁ ++ (who, id) :: l₂) :
      Step d (.fetched who id reply now)
        ({ d with fetching := l₁ ++ l₂ }.after who (d.trading.closeFetched reply now))
  | fetchLost (d : CloseDesk) (l₁ l₂ : List (Caller × PositionId)) (who : Caller) (id : PositionId)
      (h : d.fetching = l₁ ++ (who, id) :: l₂) :
      Step d (.fetchLost who id) { d with fetching := l₁ ++ l₂ }
  | sleepLost (d : CloseDesk) (l₁ l₂ : List RetryCall) (c : RetryCall)
      (h : d.sleeping = l₁ ++ c :: l₂) :
      Step d (.sleepLost c) { d with sleeping := l₁ ++ l₂ }

/-- The positions whose sell order is out. -/
def sells : List PositionId := d.selling.map Prod.snd

end CloseDesk

namespace Trading

variable {s : Trading} {ids : List PositionId}

/-! ### What a stretch does to the books -/

/-- No sale is counted, and in paper mode nothing is credited. -/
structure KeepsSales (s s' : Trading) : Prop where
  closeCount : s'.exitExecutor.closeCount = s.exitExecutor.closeCount
  balance : s.exitExecutor.paperMode = true → s'.balance = s.balance
  paperMode : s'.exitExecutor.paperMode = s.exitExecutor.paperMode

/-- `confirm_close` succeeded: one sale is counted, the position is closed, and in paper mode its proceeds are
credited. -/
structure Sale (id : PositionId) (s s' : Trading) : Prop where
  closeCount : s'.exitExecutor.closeCount = s.exitExecutor.closeCount + 1
  paperMode : s'.exitExecutor.paperMode = s.exitExecutor.paperMode
  closed : ∃ r, s'.tracker.positions.get? id = some r ∧ r.state = .closed ∧
    (s.exitExecutor.paperMode = true → s'.balance.available = s.balance.available + r.netExitUsdc)

theorem KeepsSales.refl (s : Trading) : KeepsSales s s := ⟨rfl, fun _ => rfl, rfl⟩

theorem KeepsSales.sale {id : PositionId} {s' s'' : Trading} (h : KeepsSales s s') (h' : Sale id s' s'') :
    Sale id s s'' where
  closeCount := by rw [h'.closeCount, h.closeCount]
  paperMode := h'.paperMode.trans h.paperMode
  closed := by
    obtain ⟨r, hr, hs, hcredit⟩ := h'.closed
    refine ⟨r, hr, hs, fun hp => ?_⟩
    rw [hcredit (h.paperMode.trans hp), h.balance hp]

theorem KeepsSales.trans {s' s'' : Trading} (h : KeepsSales s s') (h' : KeepsSales s' s'') :
    KeepsSales s s'' :=
  ⟨h'.closeCount.trans h.closeCount,
    fun hp => (h'.balance (h.paperMode.trans hp)).trans (h.balance hp), h'.paperMode.trans h.paperMode⟩

variable {id : PositionId} {r : PositionRecord} {price : ℚ} {now : Time}

/-- Confirming the close of a position whose sell order is out. -/
theorem closeSold_sale (price rate : ℚ) (now : Time) (h : s.tracker.positions.get? id = some r)
    (hs : r.state = .closePending) : Sale id s (s.closeSold id price rate now).1 := by
  have hid : r.positionId = id := Lib.Table.key_of_get? h
  have hkey : (PositionTracker.sold r price rate now).positionId = id := hid
  have hget : ((s.tracker.write (PositionTracker.sold r price rate now)).persist id).positions.get? id =
      some (PositionTracker.sold r price rate now) := by
    rw [PositionTracker.positions_persist, PositionTracker.positions_write]
    exact (congrArg _ hkey.symm).trans (Lib.Table.get?_put_self _ _)
  unfold closeSold
  rw [PositionTracker.confirmClose_of_closePending h hs]
  simp only [Call.result_returns, Call.state_returns]
  split_ifs with hp
  · exact ⟨rfl, rfl, _, hget, rfl, fun _ => rfl⟩
  · exact ⟨rfl, rfl, _, hget, rfl, fun hpaper => absurd hpaper hp⟩

theorem closeFailed_keepsSales (s : Trading) (p : PositionRecord) (now : Time) :
    KeepsSales s (s.closeFailed p now).1 := by
  unfold closeFailed
  split <;> exact ⟨rfl, fun _ => rfl, rfl⟩

theorem sent_keepsSales (s : Trading) (r : PositionRecord) :
    KeepsSales s ((s.countRetry r).writePosition (r.inState .closePending)) := by
  unfold countRetry
  split_ifs <;> exact ⟨rfl, fun _ => rfl, rfl⟩

/-- **A call up to its first await**: it sells a position it finds closing, or sells nothing. -/
theorem closeBegin_sale (s : Trading) (id : PositionId) (price : ℚ) (now : Time) :
    KeepsSales s (s.closeBegin id price now).1 ∨
      Sale id s (s.closeBegin id price now).1 ∧
        ∃ r, s.tracker.positions.get? id = some r ∧ isClosing r = true := by
  cases h : s.tracker.positions.get? id with
  | none =>
    left
    simp only [Trading.closeBegin, h]
    exact .refl s
  | some r =>
    by_cases hidle : isClosing r = false ∨ s.CoolsDown r now
    · left
      rw [closeBegin_idle h hidle]
      exact .refl s
    · rw [not_or, Bool.not_eq_false] at hidle
      by_cases hc : s.Cancels r price
      · left
        rw [closeBegin_cancels h hc]
        exact ⟨rfl, fun _ => rfl, rfl⟩
      · obtain ⟨-, -, hsent⟩ := sent_exits h hidle.1
        have hkeep := sent_keepsSales s r
        rw [closeBegin_sends h ⟨hidle.1, hidle.2, hc⟩]
        split_ifs
        · exact .inr ⟨hkeep.sale (closeSold_sale price _ now hsent rfl), r, rfl, hidle.1⟩
        · exact .inl (hkeep.trans (closeFailed_keepsSales _ _ now))
        · exact .inl hkeep

/-- **The answer to a sell order**: the position that waits for it is sold, or nothing is. -/
theorem sellAnswered_sale (reply : Except PyError (Option OrderReply)) (now : Time)
    (h : s.tracker.positions.get? id = some r) (hs : r.state = .closePending) :
    KeepsSales s (s.sellAnswered id reply now).1 ∨ Sale id s (s.sellAnswered id reply now).1 := by
  have hanswered : KeepsSales s (s.answered (.sell id)) := ⟨rfl, fun _ => rfl, rfl⟩
  have h' : (s.answered (.sell id)).tracker.positions.get? id = some r := h
  cases reply with
  | error e => exact .inl hanswered
  | ok reply =>
    simp only [Trading.sellAnswered, closeEnd, h']
    cases sellOutcome r reply with
    | error e => exact .inl hanswered
    | ok outcome =>
      cases outcome with
      | none => exact .inl (hanswered.trans (closeFailed_keepsSales _ _ now))
      | some sale => exact .inr (hanswered.sale (closeSold_sale sale.1 sale.2 now h' hs))

/-- In paper mode a call runs to its end at once. -/
theorem closeBegin_paper_done (hp : s.exitExecutor.paperMode = true) (id : PositionId) (price : ℚ)
    (now : Time) : ∃ a, (s.closeBegin id price now).2 = .done a := by
  cases h : s.tracker.positions.get? id with
  | none =>
    simp only [Trading.closeBegin, h]
    exact ⟨_, rfl⟩
  | some r =>
    by_cases hidle : isClosing r = false ∨ s.CoolsDown r now
    · exact ⟨_, congrArg Prod.snd (closeBegin_idle h hidle)⟩
    · rw [not_or, Bool.not_eq_false] at hidle
      by_cases hc : s.Cancels r price
      · exact ⟨_, congrArg Prod.snd (closeBegin_cancels h hc)⟩
      · exact ⟨_, (closeBegin_paper h ⟨hidle.1, hidle.2, hc⟩ hp).1⟩

end Trading

namespace CloseDesk

variable {d d' : CloseDesk} {l : Label} {id : PositionId}

@[simp] theorem trading_after (who : Caller) (out : Trading × CloseStatus) :
    (d.after who out).trading = out.1 := by
  unfold after
  split <;> rfl

theorem sells_after (who : Caller) (out : Trading × CloseStatus) :
    (d.after who out).sells = d.sells ++ out.2.sells := by
  unfold after
  cases h : out.2 with
  | done a => simp [sells, CloseStatus.sells]
  | awaitingSell id => simp [sells, CloseStatus.sells]
  | awaitingBalance id => simp [sells, CloseStatus.sells]

theorem split_sells {l₁ l₂ : List (Caller × PositionId)} {who : Caller} {id : PositionId}
    (hd : d.selling = l₁ ++ (who, id) :: l₂) : d.sells = l₁.map Prod.snd ++ id :: l₂.map Prod.snd :=
  Lib.map_split Prod.snd hd

/-- **Sell orders in order.** Whatever calls are made on whatever positions, every sell order that is out has
a pending position of its own. -/
theorem Step.sellsOut (hs : Step d l d') (h : d.trading.SellsOut d.sells) :
    d'.trading.SellsOut d'.sells := by
  have hattempt : ∀ (e : CloseDesk) (c : RetryCall) (now : Time), e.trading.SellsOut e.sells →
      (e.attempt c now).trading.SellsOut (e.attempt c now).sells := by
    intro e c now he
    unfold attempt
    split_ifs
    · rw [trading_after, sells_after]
      exact he.closeBegin c.id c.currentPrice now
    · exact he
  cases hs with
  | close id price now =>
    rw [trading_after, sells_after]
    exact h.closeBegin id price now
  | closeWithRetry id price maxRetries now => exact hattempt d _ now h
  | wake l₁ l₂ c now hd => exact hattempt _ c now h
  | sellReply l₁ l₂ who id reply now hd =>
    rw [split_sells hd] at h
    obtain ⟨hout, hnone⟩ := h.sellAnswered reply now
    rw [trading_after, sells_after, hnone, List.append_nil]
    show Trading.SellsOut _ ((l₁ ++ l₂).map Prod.snd)
    rw [List.map_append]
    exact hout
  | sellLost l₁ l₂ who id hd =>
    rw [split_sells hd] at h
    show Trading.SellsOut _ ((l₁ ++ l₂).map Prod.snd)
    rw [List.map_append]
    exact h.sublist (Lib.split_sublist rfl)
  | fetched l₁ l₂ who id reply now hd =>
    rw [trading_after, sells_after]
    show Trading.SellsOut _ (d.sells ++ [])
    rw [List.append_nil]
    exact ⟨h.nodup, h.pending⟩
  | fetchLost l₁ l₂ who id hd => exact h
  | sleepLost l₁ l₂ c hd => exact h

/-! ### A position is sold at most once -/

/-- The position is closed. -/
def ClosedAt (d : CloseDesk) (id : PositionId) : Prop :=
  ∃ r, d.trading.tracker.positions.get? id = some r ∧ r.state = .closed

/-- What calls on the position `id` keep, when they start from `start`: nothing is sold yet, or the position
was sold once and is closed. -/
structure SoldOnce (start : CloseDesk) (id : PositionId) (d : CloseDesk) : Prop where
  sellsOut : d.trading.SellsOut d.sells
  only : ∀ k ∈ d.sells, k = id
  paperMode : d.trading.exitExecutor.paperMode = start.trading.exitExecutor.paperMode
  paper : start.trading.exitExecutor.paperMode = true → d.selling = [] ∧ d.fetching = []
  books :
    (d.trading.exitExecutor.closeCount = start.trading.exitExecutor.closeCount ∧
      (start.trading.exitExecutor.paperMode = true → d.trading.balance = start.trading.balance)) ∨
    (d.trading.exitExecutor.closeCount = start.trading.exitExecutor.closeCount + 1 ∧
      ∃ r, d.trading.tracker.positions.get? id = some r ∧ r.state = .closed ∧
        (start.trading.exitExecutor.paperMode = true →
          d.trading.balance.available = start.trading.balance.available + r.netExitUsdc))

/-- A stretch of a call on the position keeps what is sold, whatever it does to the waiting calls. -/
theorem SoldOnce.stretch {start : CloseDesk} (h : SoldOnce start id d)
    (hsells : d'.trading.SellsOut d'.sells) (honly : ∀ k ∈ d'.sells, k = id)
    (hpaper : start.trading.exitExecutor.paperMode = true → d'.selling = [] ∧ d'.fetching = [])
    (hsale : Trading.KeepsSales d.trading d'.trading ∧
        (∀ r, d.trading.tracker.positions.get? id = some r → r.state = .closed →
          d'.trading.tracker.positions.get? id = some r) ∨
      Trading.Sale id d.trading d'.trading ∧ ¬d.ClosedAt id) : SoldOnce start id d' := by
  rcases hsale with ⟨hkeep, hclosed⟩ | ⟨hsale, hopen⟩
  · refine ⟨hsells, honly, hkeep.paperMode.trans h.paperMode, hpaper, ?_⟩
    have hbalance : start.trading.exitExecutor.paperMode = true → d'.trading.balance = d.trading.balance :=
      fun hp => hkeep.balance (h.paperMode.trans hp)
    rw [hkeep.closeCount]
    rcases h.books with ⟨hnone, hsame⟩ | ⟨hone, r, hr, hs, hcredit⟩
    · exact .inl ⟨hnone, fun hp => (hbalance hp).trans (hsame hp)⟩
    · refine .inr ⟨hone, r, hclosed r hr hs, hs, fun hp => ?_⟩
      rw [hbalance hp]
      exact hcredit hp
  · refine ⟨hsells, honly, hsale.paperMode.trans h.paperMode, hpaper, .inr ?_⟩
    rcases h.books with ⟨hnone, hbalance⟩ | ⟨-, r, hr, hs, -⟩
    · obtain ⟨r, hr, hs, hcredit⟩ := hsale.closed
      refine ⟨by rw [hsale.closeCount, hnone], r, hr, hs, fun hp => ?_⟩
      rw [hcredit (h.paperMode.trans hp), hbalance hp]
    · exact absurd ⟨r, hr, hs⟩ hopen

/-- An attempt on the position. -/
theorem SoldOnce.attempt {start : CloseDesk} (h : SoldOnce start id d) (who : Caller) (price : ℚ)
    (now : Time) : SoldOnce start id (d.after who (d.trading.closeBegin id price now)) := by
  have hsells := h.sellsOut.closeBegin id price now
  have hwait := (Trading.closeBegin_exits d.trading id price now).2.2
  refine h.stretch ?_ ?_ ?_ ?_
  · rw [trading_after, sells_after]
    exact hsells
  · intro k hk
    rw [sells_after] at hk
    rcases List.mem_append.mp hk with hk | hk
    · exact h.only k hk
    · cases hstatus : (d.trading.closeBegin id price now).2 with
      | done a => simp [CloseStatus.sells, hstatus] at hk
      | awaitingBalance j => simp [CloseStatus.sells, hstatus] at hk
      | awaitingSell j =>
        simp only [CloseStatus.sells, hstatus, List.mem_singleton] at hk
        rw [hk]
        exact (hwait j hstatus).1
  · intro hp
    obtain ⟨a, ha⟩ := Trading.closeBegin_paper_done (h.paperMode.trans hp) id price now
    unfold after
    rw [ha]
    exact h.paper hp
  · rw [trading_after]
    obtain hkeep | ⟨hsale, r, hr, hclosing⟩ := Trading.closeBegin_sale d.trading id price now
    · refine .inl ⟨hkeep, fun r hr hs => ?_⟩
      rw [Trading.closeBegin_idle hr (.inl (by simp [Trading.isClosing, hs]))]
      exact hr
    · refine .inr ⟨hsale, ?_⟩
      rintro ⟨u, hu, hs⟩
      rw [hr] at hu
      obtain rfl := Option.some.inj hu
      simp [Trading.isClosing, hs] at hclosing

/-- One turn of `execute_close_with_retry` on the position. -/
theorem SoldOnce.retryTurn {start : CloseDesk} (c : RetryCall) (h : SoldOnce start c.id d) (now : Time) :
    SoldOnce start c.id (d.attempt c now) := by
  unfold CloseDesk.attempt
  split_ifs
  · exact h.attempt _ c.currentPrice now
  · exact h

/-- A call that is dropped sells nothing. -/
theorem SoldOnce.drop {start : CloseDesk} (h : SoldOnce start id d) (ht : d'.trading = d.trading)
    (hsub : d'.sells ⊆ d.sells) (hsells : d'.trading.SellsOut d'.sells)
    (hpaper : start.trading.exitExecutor.paperMode = true → d'.selling = [] ∧ d'.fetching = []) :
    SoldOnce start id d' := by
  refine h.stretch hsells (fun k hk => h.only k (hsub hk)) hpaper (.inl ?_)
  rw [ht]
  exact ⟨.refl _, fun _ hr _ => hr⟩

/-- The answer to the sell order of the position. -/
theorem SoldOnce.sellReply {start : CloseDesk} {l₁ l₂ : List (Caller × PositionId)} {who : Caller}
    (h : SoldOnce start id d) (hd : d.selling = l₁ ++ (who, id) :: l₂)
    (reply : Except PyError (Option OrderReply)) (now : Time) :
    SoldOnce start id ({ d with selling := l₁ ++ l₂ }.after who (d.trading.sellAnswered id reply now)) := by
  have hsplit := split_sells hd
  obtain ⟨r, hr, hpending⟩ := h.sellsOut.pending id (by rw [hsplit]; simp)
  have hout := h.sellsOut
  rw [hsplit] at hout
  have hnotClosed : ∀ u, d.trading.tracker.positions.get? id = some u → u.state ≠ .closed := by
    intro u hu hclosed
    rw [hr] at hu
    obtain rfl := Option.some.inj hu
    rw [hpending] at hclosed
    cases hclosed
  refine h.stretch ((Step.sellReply d l₁ l₂ who id reply now hd).sellsOut h.sellsOut) (fun j hj => ?_)
    (fun hp => ?_) ?_
  · rw [sells_after, (hout.sellAnswered reply now).2, List.append_nil, sells, List.map_append] at hj
    refine h.only j ?_
    rw [hsplit]
    exact (Lib.split_sublist rfl).subset hj
  · rw [(h.paper hp).1] at hd
    simp at hd
  · rw [trading_after]
    obtain hkeep | hsale := Trading.sellAnswered_sale reply now hr hpending
    · exact .inl ⟨hkeep, fun u hu hclosed => absurd hclosed (hnotClosed u hu)⟩
    · refine .inr ⟨hsale, ?_⟩
      rintro ⟨u, hu, hclosed⟩
      exact hnotClosed u hu hclosed

theorem SoldOnce.step {start : CloseDesk} (h : SoldOnce start id d) (hs : Step d l d')
    (hl : l.position = id) : SoldOnce start id d' := by
  have hsells := hs.sellsOut h.sellsOut
  cases hs with
  | close k price now =>
    obtain rfl : k = id := hl
    exact h.attempt .direct price now
  | closeWithRetry k price maxRetries now =>
    obtain rfl : k = id := hl
    exact SoldOnce.retryTurn (d.trading.retryCall k price maxRetries) h now
  | wake l₁ l₂ c now hd =>
    obtain rfl : c.id = id := hl
    have hslept : SoldOnce start c.id { d with sleeping := l₁ ++ l₂ } :=
      ⟨h.sellsOut, h.only, h.paperMode, h.paper, h.books⟩
    exact hslept.retryTurn c now
  | sellReply l₁ l₂ who k reply now hd =>
    obtain rfl : k = id := hl
    exact h.sellReply hd reply now
  | sellLost l₁ l₂ who k hd =>
    refine h.drop rfl ?_ hsells fun hp => ?_
    · show (l₁ ++ l₂).map Prod.snd ⊆ d.selling.map Prod.snd
      rw [hd]
      exact List.map_subset _ (Lib.split_sublist rfl).subset
    · rw [(h.paper hp).1] at hd
      simp at hd
  | fetched l₁ l₂ who k reply now hd =>
    have hlive : start.trading.exitExecutor.paperMode ≠ true := by
      intro hp
      rw [(h.paper hp).2] at hd
      simp at hd
    refine h.stretch hsells (fun j hj => ?_) (fun hp => absurd hp hlive) (.inl ?_)
    · rw [sells_after] at hj
      exact h.only j (by simpa [sells, CloseStatus.sells, Trading.closeFetched] using hj)
    · rw [trading_after]
      exact ⟨⟨rfl, fun hp => absurd (h.paperMode.symm.trans hp) hlive, rfl⟩, fun _ hr _ => hr⟩
  | fetchLost l₁ l₂ who k hd =>
    refine h.drop rfl (List.Subset.refl _) hsells fun hp => ?_
    rw [(h.paper hp).2] at hd
    simp at hd
  | sleepLost l₁ l₂ c hd => exact h.drop rfl (List.Subset.refl _) hsells h.paper

/-- No call that sells is suspended. -/
structure Idle (d : CloseDesk) : Prop where
  selling : d.selling = []
  fetching : d.fetching = []
  sleeping : d.sleeping = []

theorem Idle.soldOnce (h : Idle d) (id : PositionId) : SoldOnce d id d where
  sellsOut := ⟨by simp [sells, h.selling], by simp [sells, h.selling]⟩
  only := by simp [sells, h.selling]
  paperMode := rfl
  paper _ := ⟨h.selling, h.fetching⟩
  books := .inl ⟨rfl, fun _ => rfl⟩

/-- **Single sell.** However calls of `execute_close` and `execute_close_with_retry` on one position are
interleaved, at most one sell order is in flight, one `confirm_close` succeeds, and in paper mode the net
proceeds are credited once. -/
theorem single_sell {tr : List (Lib.Taken CloseDesk Label)} (h : Idle d) (hrun : Lib.Run Step d tr d')
    (hid : ∀ x ∈ tr, x.label.position = id) :
    (∀ x ∈ tr, x.post.selling.length ≤ 1) ∧
      d'.trading.exitExecutor.closeCount ≤ d.trading.exitExecutor.closeCount + 1 ∧
      (d.trading.exitExecutor.paperMode = true →
        d'.trading.balance.available = d.trading.balance.available ∨
          ∃ r, d'.trading.tracker.positions.get? id = some r ∧ r.state = .closed ∧
            d'.trading.balance.available = d.trading.balance.available + r.netExitUsdc) := by
  obtain ⟨hend, hmem⟩ := (hrun.restrict hid).invariant
    (fun _ _ _ ht hst => ht.step hst.1 hst.2) (h.soldOnce id)
  refine ⟨fun x hx => ?_, ?_, fun hp => ?_⟩
  · have hpost := (hmem x hx).2
    have hrep : x.post.sells = List.replicate x.post.sells.length id :=
      List.eq_replicate_iff.mpr ⟨rfl, hpost.only⟩
    have hnodup := hpost.sellsOut.nodup
    rw [hrep, List.nodup_replicate] at hnodup
    have hlen : x.post.sells.length = x.post.selling.length := List.length_map ..
    omega
  · rcases hend.books with ⟨hnone, -⟩ | ⟨hone, -⟩
    · omega
    · omega
  · rcases hend.books with ⟨-, hsame⟩ | ⟨-, r, hr, hs, hcredit⟩
    · exact .inl (by rw [hsame hp])
    · exact .inr ⟨r, hr, hs, hcredit hp⟩

/-- A position whose close was requested. -/
def closingRecord : PositionRecord where
  positionId := 0
  asset := "BTC"
  side := .up
  conditionId := "event"
  tokenId := "token"
  state := .closingRequested
  createdAt := 0
  requestedAmountUsd := 1
  fillPrice := 1 / 2
  netPositionShares := 2
  openedAt := some 0
  closeReason := some .stopLoss

/-- A live desk with one position to sell. -/
def oneClosing : CloseDesk where
  trading := { tracker := { positions := Lib.Table.empty.put closingRecord }
               exitExecutor := { paperMode := false } }

/-- Its sell order is out. -/
def oneSelling : CloseDesk := oneClosing.after .direct (oneClosing.trading.closeBegin 0 (1 / 2) 0)

/-- Another call finds the order out and does nothing. -/
def oneRefused : CloseDesk :=
  oneSelling.attempt (oneSelling.trading.retryCall 0 (1 / 2) (some 3)) 0

theorem single_sell_two_calls :
    (∀ x ∈ [(⟨oneClosing, .close 0 (1 / 2) 0, oneSelling⟩ : Lib.Taken CloseDesk Label),
        ⟨oneSelling, .closeWithRetry 0 (1 / 2) (some 3) 0, oneRefused⟩], x.post.selling.length ≤ 1) ∧
      oneRefused.trading.exitExecutor.closeCount ≤ oneClosing.trading.exitExecutor.closeCount + 1 ∧
      (oneClosing.trading.exitExecutor.paperMode = true →
        oneRefused.trading.balance.available = oneClosing.trading.balance.available ∨
          ∃ r, oneRefused.trading.tracker.positions.get? 0 = some r ∧ r.state = .closed ∧
            oneRefused.trading.balance.available =
              oneClosing.trading.balance.available + r.netExitUsdc) :=
  single_sell ⟨rfl, rfl, rfl⟩ (((Lib.Run.nil oneClosing).snoc (Step.close oneClosing 0 (1 / 2) 0)).snoc
    (Step.closeWithRetry oneSelling 0 (1 / 2) (some 3) 0)) (by simp [Label.position])

end CloseDesk

end Polyfast
