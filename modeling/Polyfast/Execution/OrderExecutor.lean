import Polyfast.Execution.Trading
import Polyfast.Execution.TrackerMove

/-!
# The order executor

`execute` runs to its end in paper mode; a live order suspends it at the exchange call and, after a
fill, at the balance fetch. `execute`, `orderReply` and `balanceReply` are the stretches between awaits.

* `mayCreate`: the checks a call passes before it creates a position;
* `execute_of_not_mayCreate`, `execute_paper_filled`, `execute_paper_zero`: what a call does up to its
  first await;
* `execute_effect`, `orderReply_touches`: the same as moves of the tracker.
-/

namespace Polyfast

inductive OrderResult
  | filled
  | notFilled
  | networkError
  | rejected
  | balanceStale
  deriving DecidableEq

/-- The detail dictionary of an execution result. -/
inductive ExecutionDetail
  | none
  | reason (reason : String)
  | paper
  | live (orderId : String) (making taking feeRateBps : PyValue)
  | liveFailed (status error orderId : String)
  | error (error : String)
  deriving DecidableEq

structure ExecutionResult where
  result : OrderResult
  positionId : Option PositionId := none
  fillPrice : ℚ := 0
  feeRate : ℚ := 0
  detail : ExecutionDetail := .none
  deriving DecidableEq

/-- Where a call of `execute` stands. -/
inductive ExecuteStatus
  /-- It returned or raised. -/
  | done (result : Except PyError ExecutionResult)
  /-- It waits for the exchange. -/
  | awaitingOrder (id : PositionId)
  /-- It waits for the balance fetch after a fill. -/
  | awaitingBalance (result : ExecutionResult)

namespace Trading

variable (s : Trading)

/-- Another order of the event is waiting for its fill. -/
def pendingForEvent (conditionId : ConditionId) : Bool :=
  s.tracker.positions.records.any (fun p =>
    p.conditionId = conditionId ∧ p.state = .pendingOpen)

/-- What `execute` tells the validator. -/
def validationInput (i : OrderIntent) : ValidationInput :=
  { availableBalance := s.balance.available
    eventFillCount := s.tracker.getEventFillCount i.conditionId
    eventMax := i.eventMax
    openPositionCount := s.tracker.openPositionCount
    botMax := s.executor.botMax }

/-- The validation that `execute` makes. -/
def validation (i : OrderIntent) : ValidationResult :=
  s.executor.validator.validate i (s.validationInput i)

/-- The pending record a call of `execute` creates. -/
def pendingRecord (i : OrderIntent) (now : Time) : PositionRecord :=
  PositionTracker.newRecord s.uuids i.asset i.side i.conditionId i.tokenId i.amountUsd now

/-- `create_pending` with the next identifier. -/
def createPending (i : OrderIntent) (now : Time) : Trading :=
  { s with tracker := s.tracker.createPending (s.pendingRecord i now), uuids := s.uuids + 1 }

/-- `_execute_paper`: a simulated fill at the intent's price. -/
def executePaper (i : OrderIntent) (id : PositionId) (now : Time) : Trading × ExecuteStatus :=
  let filled := s.tracker.confirmFill id i.dominantPrice (some defaultCryptoFeeRate) now
  match filled.result with
  | .error e => (s.withTracker filled.state, .done (.error e))
  | .ok _ =>
    ({ s with
        tracker := filled.state
        executor := { s.executor with fillCount := s.executor.fillCount + 1 }
        balance := s.balance.deduct i.amountUsd now },
      .done (.ok { result := .filled, positionId := some id, fillPrice := i.dominantPrice
                   feeRate := defaultCryptoFeeRate, detail := .paper }))

/-- `reject_fill` and an answer; an exception of `reject_fill` leaves the call. -/
def rejectOrder (id : PositionId) (r : ExecutionResult) (now : Time) : Trading × ExecuteStatus :=
  let rejected := s.tracker.rejectFill id now
  match rejected.result with
  | .error e => (s.withTracker rejected.state, .done (.error e))
  | .ok _ => (s.withTracker rejected.state, .done (.ok r))

/-- `_execute_live` up to the exchange call (`LIVE_ORDER_ENABLED` is set). -/
def executeLive (id : PositionId) (now : Time) : Trading × ExecuteStatus :=
  if !s.executor.hasClob then
    s.rejectOrder id { result := .networkError, positionId := some id
                       detail := .error "clob_wrapper not initialized" } now
  else (s, .awaitingOrder id)

/-- The state after `_execution_count += 1`. -/
def countExecution : Trading :=
  { s with executor := { s.executor with executionCount := s.executor.executionCount + 1 } }

/-- The answer at a stale balance. The log line formats its age, which a balance that was never fetched does not
have. -/
def staleAnswer : Except PyError ExecutionResult :=
  match s.balance.updatedAt with
  | none => .error .typeError
  | some _ => .ok { result := .balanceStale }

/-- `execute` up to its first await. -/
def execute (i : OrderIntent) (now : Time) : Trading × ExecuteStatus :=
  let s := s.countExecution
  if s.balance.isStale now then (s, .done s.staleAnswer)
  else if s.pendingForEvent i.conditionId then
    (s, .done (.ok { result := .rejected, detail := .reason "pending_open_exists" }))
  else match (s.validation i).status with
    | .rejected reason =>
      ({ s with executor := { s.executor with rejectCount := s.executor.rejectCount + 1 } },
        .done (.ok { result := .rejected, detail := .reason reason.value }))
    | .valid =>
      match s.executor.mode with
      | .paper => (s.createPending i now).executePaper i s.uuids now
      | .live => (s.createPending i now).executeLive s.uuids now

/-- The price of a fill: USDC paid per share, or the intent's price. -/
def fillPriceOf (i : OrderIntent) (amounts : Option (ℚ × ℚ)) : ℚ :=
  match amounts with
  | some (making, taking) => making / taking
  | none => i.dominantPrice

/-- `_execute_live` from the exchange's answer to the balance fetch. -/
def orderReply (i : OrderIntent) (id : PositionId) (reply : Option OrderReply) (now : Time) :
    Trading × ExecuteStatus :=
  match reply with
  | none =>
    s.rejectOrder id { result := .networkError, positionId := some id
                       detail := .error "SDK returned None" } now
  | some r =>
    if r.status = "matched" then
      match r.feeRate with
      | .error e => (s, .done (.error e))
      | .ok feeRate =>
        match r.amounts with
        | .error e => (s, .done (.error e))
        | .ok amounts =>
          let fillPrice := fillPriceOf i amounts
          let filled := s.tracker.confirmFill id fillPrice (some feeRate) now
          match filled.result with
          | .error e => (s.withTracker filled.state, .done (.error e))
          | .ok _ =>
            ({ s with
                tracker := filled.state
                executor := { s.executor with fillCount := s.executor.fillCount + 1 } },
              .awaitingBalance
                { result := .filled, positionId := some id, fillPrice := fillPrice
                  feeRate := feeRate
                  detail := .live r.orderId r.makingAmount r.takingAmount r.feeRateBps })
    else
      s.rejectOrder id
        { result := if r.status = "not_matched" then .notFilled else .networkError
          positionId := some id, detail := .liveFailed r.status r.error r.orderId } now

/-- `_execute_live` from the balance fetch to its end; exceptions of the fetch are swallowed. -/
def balanceReply (r : ExecutionResult) (reply : FetchReply) (now : Time) : Trading × ExecuteStatus :=
  ({ s with balance := (s.balance.fetch reply now).1 }, .done (.ok r))

/-! ### What a call does up to its first await -/

/-- The checks before the position is created: fresh balance, no pending order of the event, valid. -/
def mayCreate (i : OrderIntent) (now : Time) : Prop :=
  s.balance.isStale now = false ∧ s.pendingForEvent i.conditionId = false ∧
    (s.validation i).status = .valid

instance (i : OrderIntent) (now : Time) : Decidable (s.mayCreate i now) :=
  inferInstanceAs (Decidable (_ ∧ _ ∧ _))

/-- The record of an immediate fill. -/
def openedRecord (i : OrderIntent) (now : Time) : PositionRecord :=
  ((s.pendingRecord i now).withEntry i.dominantPrice
    (PositionTracker.entryOf (s.pendingRecord i now) i.dominantPrice defaultCryptoFeeRate)
    now).inState .openConfirmed

variable {s} {i : OrderIntent} {now : Time}

/-- What a call has passed when it creates a position: the limits of the validator, on what the tracker
and the balance say. -/
theorem mayCreate.limits (h : s.mayCreate i now) :
    s.executor.validator.minOrderUsd ≤ i.amountUsd ∧ i.amountUsd ≤ s.balance.available ∧
      (s.tracker.getEventFillCount i.conditionId : ℤ) < i.eventMax ∧
      (s.tracker.openPositionCount : ℤ) < s.executor.botMax :=
  (OrderValidator.validate_valid_iff.mp h.2.2).2.2.2

/-- A call that fails a check changes its counters only. -/
theorem execute_of_not_mayCreate (h : ¬s.mayCreate i now) :
    ∃ x a, s.execute i now = ({ s with executor := x }, .done a) ∧ x.mode = s.executor.mode ∧
      x.botMax = s.executor.botMax := by
  unfold execute
  dsimp only
  split_ifs with hstale hpending
  · exact ⟨_, _, rfl, rfl, rfl⟩
  · exact ⟨_, _, rfl, rfl, rfl⟩
  · cases hv : (s.countExecution.validation i).status with
    | rejected reason => exact ⟨_, _, rfl, rfl, rfl⟩
    | valid =>
      refine absurd ⟨?_, ?_, hv⟩ h
      · simpa [countExecution] using hstale
      · simpa [countExecution, pendingForEvent] using hpending

/-- A call that passes the checks creates the position and sends the order. -/
theorem execute_of_mayCreate (h : s.mayCreate i now) :
    s.execute i now = match s.executor.mode with
      | .paper => (s.countExecution.createPending i now).executePaper i s.uuids now
      | .live => (s.countExecution.createPending i now).executeLive s.uuids now := by
  obtain ⟨hfresh, hpending, hvalid⟩ := h
  have hfresh' : s.countExecution.balance.isStale now = false := hfresh
  have hpending' : s.countExecution.pendingForEvent i.conditionId = false := hpending
  have hvalid' : (s.countExecution.validation i).status = .valid := hvalid
  simp only [execute, hfresh', hpending', hvalid', Bool.false_eq_true, if_false]
  rfl

theorem get?_createPending (s : Trading) (i : OrderIntent) (now : Time) :
    (s.createPending i now).tracker.positions.get? s.uuids = some (s.pendingRecord i now) := by
  have hkey : (s.pendingRecord i now).positionId = s.uuids := rfl
  rw [← hkey]
  simp [createPending]

/-- In paper mode a call with a price fills at once. -/
theorem execute_paper_filled (h : s.mayCreate i now) (hm : s.executor.mode = .paper)
    (hp : i.dominantPrice ≠ 0) :
    (s.execute i now).1.tracker.positions = s.tracker.positions.put (s.openedRecord i now) ∧
      (s.execute i now).1.balance = s.balance.deduct i.amountUsd now ∧
      (s.execute i now).2 = .done (.ok { result := .filled, positionId := some s.uuids
                                         fillPrice := i.dominantPrice
                                         feeRate := defaultCryptoFeeRate, detail := .paper }) := by
  have hfill : (s.countExecution.createPending i now).tracker.confirmFill s.uuids i.dominantPrice
      (some defaultCryptoFeeRate) now = _ :=
    PositionTracker.confirmFill_of_pending (get?_createPending s.countExecution i now) rfl hp
  rw [execute_of_mayCreate h, hm]
  unfold executePaper
  rw [hfill]
  refine ⟨?_, rfl, rfl⟩
  simp only [Call.result_returns, Call.state_returns, PositionTracker.positions_persist,
    PositionTracker.positions_write, createPending, PositionTracker.positions_createPending]
  have hkey : (s.countExecution.pendingRecord i now).positionId =
      (s.openedRecord i now).positionId := rfl
  exact Lib.Table.put_put hkey s.tracker.positions

/-- In paper mode a call at price 0 raises and leaves the position pending. -/
theorem execute_paper_zero (h : s.mayCreate i now) (hm : s.executor.mode = .paper)
    (hp : i.dominantPrice = 0) :
    s.execute i now =
      (s.countExecution.createPending i now, .done (.error .zeroDivisionError)) := by
  have hfill : (s.countExecution.createPending i now).tracker.confirmFill s.uuids 0
      (some defaultCryptoFeeRate) now = _ :=
    PositionTracker.confirmFill_zero (get?_createPending s.countExecution i now)
  rw [execute_of_mayCreate h, hm]
  unfold executePaper
  rw [hp, hfill]
  rfl

/-! ### What orders leave alone -/

/-- Orders change positions, the balance and their own counters. -/
structure OrderFrame (s s' : Trading) : Prop where
  claims : s'.claims = s.claims
  settlement : s'.settlement = s.settlement
  exitExecutor : s'.exitExecutor = s.exitExecutor
  evaluator : s'.evaluator = s.evaluator
  trace : s'.trace = s.trace
  mode : s'.executor.mode = s.executor.mode

theorem OrderFrame.refl (s : Trading) : OrderFrame s s := ⟨rfl, rfl, rfl, rfl, rfl, rfl⟩

theorem OrderFrame.trans {s t u : Trading} (h : OrderFrame s t) (h' : OrderFrame t u) :
    OrderFrame s u :=
  ⟨h'.claims.trans h.claims, h'.settlement.trans h.settlement,
    h'.exitExecutor.trans h.exitExecutor, h'.evaluator.trans h.evaluator, h'.trace.trans h.trace,
    h'.mode.trans h.mode⟩

theorem rejectOrder_frame (s : Trading) (id : PositionId) (r : ExecutionResult) (now : Time) :
    OrderFrame s (s.rejectOrder id r now).1 := by
  unfold rejectOrder
  dsimp only
  split <;> exact ⟨rfl, rfl, rfl, rfl, rfl, rfl⟩

theorem executePaper_frame (s : Trading) (i : OrderIntent) (id : PositionId) (now : Time) :
    OrderFrame s (s.executePaper i id now).1 := by
  unfold executePaper
  dsimp only
  split <;> exact ⟨rfl, rfl, rfl, rfl, rfl, rfl⟩

theorem executeLive_frame (s : Trading) (id : PositionId) (now : Time) :
    OrderFrame s (s.executeLive id now).1 := by
  unfold executeLive
  split_ifs
  · exact rejectOrder_frame s id _ now
  · exact .refl s

theorem execute_frame (s : Trading) (i : OrderIntent) (now : Time) :
    OrderFrame s (s.execute i now).1 := by
  have hcount : OrderFrame s s.countExecution := ⟨rfl, rfl, rfl, rfl, rfl, rfl⟩
  have hcreate : OrderFrame s (s.countExecution.createPending i now) :=
    ⟨rfl, rfl, rfl, rfl, rfl, rfl⟩
  unfold execute
  dsimp only
  split_ifs
  · exact hcount
  · exact hcount
  · split
    · exact ⟨rfl, rfl, rfl, rfl, rfl, rfl⟩
    · split
      · exact hcreate.trans (executePaper_frame _ _ _ _)
      · exact hcreate.trans (executeLive_frame _ _ _)

/-! ### Orders as moves of the tracker -/

/-- Of existing positions only `id` moves, and the identifiers and limits stay. -/
structure Touches (id : PositionId) (s s' : Trading) : Prop where
  moves : QuietMoves s.tracker s'.tracker
  others : ∀ k, k ≠ id → s'.tracker.positions.get? k = s.tracker.positions.get? k
  uuids : s'.uuids = s.uuids
  botMax : s'.executor.botMax = s.executor.botMax

theorem createPending_creates (hnew : s.tracker.positions.get? s.uuids = none) :
    Creates s.tracker (s.createPending i now).tracker (s.pendingRecord i now) :=
  PositionTracker.createPending_creates hnew rfl rfl

theorem confirmFill_touches {id : PositionId} {r : PositionRecord} {price rate : ℚ}
    (h : s.tracker.positions.get? id = some r) (hs : r.state = .pendingOpen) {s' : Trading}
    (ht : s'.tracker = (s.tracker.confirmFill id price (some rate) now).state)
    (hu : s'.uuids = s.uuids) (hb : s'.executor.botMax = s.executor.botMax) : Touches id s s' where
  moves := .single (ht ▸ PositionTracker.confirmFill_quiet h hs)
  others k hk := by rw [ht, PositionTracker.confirmFill_get?_ne hk.symm]
  uuids := hu
  botMax := hb

theorem rejectOrder_touches {id : PositionId} {r : PositionRecord} (res : ExecutionResult)
    (h : s.tracker.positions.get? id = some r) (hs : r.state = .pendingOpen) :
    Touches id s (s.rejectOrder id res now).1 ∧ ∃ a, (s.rejectOrder id res now).2 = .done a := by
  have hq : QuietMove s.tracker (s.tracker.rejectFill id now).state :=
    PositionTracker.rejectFill_quiet h hs
  have hother : ∀ k, k ≠ id → (s.tracker.rejectFill id now).state.positions.get? k =
      s.tracker.positions.get? k := fun k hk => PositionTracker.rejectFill_get?_ne hk.symm now
  unfold rejectOrder
  dsimp only
  split
  · exact ⟨⟨.single hq, hother, rfl, rfl⟩, _, rfl⟩
  · exact ⟨⟨.single hq, hother, rfl, rfl⟩, _, rfl⟩

theorem executePaper_touches {id : PositionId} {r : PositionRecord} (i : OrderIntent) (now : Time)
    (h : s.tracker.positions.get? id = some r) (hs : r.state = .pendingOpen) :
    Touches id s (s.executePaper i id now).1 ∧ ∃ a, (s.executePaper i id now).2 = .done a := by
  unfold executePaper
  dsimp only
  split
  · exact ⟨confirmFill_touches h hs rfl rfl rfl, _, rfl⟩
  · exact ⟨confirmFill_touches h hs rfl rfl rfl, _, rfl⟩

theorem executeLive_touches {id : PositionId} {r : PositionRecord} (now : Time)
    (h : s.tracker.positions.get? id = some r) (hs : r.state = .pendingOpen) :
    Touches id s (s.executeLive id now).1 ∧
      ((∃ a, (s.executeLive id now).2 = .done a) ∨
        s.executeLive id now = (s, .awaitingOrder id)) := by
  unfold executeLive
  split_ifs with hc
  · obtain ⟨ht, ha⟩ := rejectOrder_touches _ h hs
    exact ⟨ht, .inl ha⟩
  · exact ⟨⟨.refl, fun _ _ => rfl, rfl, rfl⟩, .inr rfl⟩

/-- **What a call does up to its first await.** Either it fails a check and leaves the tracker alone, or
it creates a position and moves no other; if it then waits, the position is still pending. -/
theorem execute_effect (i : OrderIntent) (now : Time)
    (hnew : s.tracker.positions.get? s.uuids = none) :
    (¬s.mayCreate i now ∧ (s.execute i now).1.tracker = s.tracker ∧
      (s.execute i now).1.uuids = s.uuids ∧
      (s.execute i now).1.executor.botMax = s.executor.botMax ∧
      ∃ a, (s.execute i now).2 = .done a) ∨
    (s.mayCreate i now ∧ Creates s.tracker (s.createPending i now).tracker (s.pendingRecord i now) ∧
      Touches s.uuids (s.createPending i now) (s.execute i now).1 ∧
      ((∃ a, (s.execute i now).2 = .done a) ∨
        ((s.execute i now).2 = .awaitingOrder s.uuids ∧
          (s.execute i now).1.tracker = (s.createPending i now).tracker))) := by
  by_cases h : s.mayCreate i now
  · refine .inr ⟨h, createPending_creates hnew, ?_⟩
    have hget := get?_createPending s.countExecution i now
    rw [execute_of_mayCreate h]
    cases hm : s.executor.mode with
    | paper =>
      obtain ⟨ht, a, ha⟩ := executePaper_touches i now hget rfl
      exact ⟨⟨ht.moves, ht.others, ht.uuids, ht.botMax⟩, .inl ⟨a, ha⟩⟩
    | live =>
      obtain ⟨ht, hstatus⟩ := executeLive_touches now hget rfl
      refine ⟨⟨ht.moves, ht.others, ht.uuids, ht.botMax⟩, ?_⟩
      rcases hstatus with ha | heq
      · exact .inl ha
      · exact .inr ⟨congrArg Prod.snd heq, congrArg (fun x => x.1.tracker) heq⟩
  · obtain ⟨x, a, heq, -, hb⟩ := execute_of_not_mayCreate h
    exact .inl ⟨h, by rw [heq], by rw [heq], by rw [heq]; exact hb, _, by rw [heq]⟩

/-- A call that passes the checks takes an identifier for the position it creates. -/
theorem execute_uuids (h : s.mayCreate i now) : (s.execute i now).1.uuids = s.uuids + 1 := by
  have hget := get?_createPending s.countExecution i now
  rw [execute_of_mayCreate h]
  cases s.executor.mode with
  | paper => exact (executePaper_touches i now hget rfl).1.uuids
  | live => exact (executeLive_touches now hget rfl).1.uuids

/-- **What the exchange's answer does.** Only the position that waits for it moves. -/
theorem orderReply_touches {id : PositionId} {r : PositionRecord} (i : OrderIntent)
    (reply : Option OrderReply) (now : Time) (h : s.tracker.positions.get? id = some r) (hs : r.state = .pendingOpen) :
    Touches id s (s.orderReply i id reply now).1 ∧
      ((∃ a, (s.orderReply i id reply now).2 = .done a) ∨
        ∃ a, (s.orderReply i id reply now).2 = .awaitingBalance a) := by
  have hrefl : Touches id s s := ⟨.refl, fun _ _ => rfl, rfl, rfl⟩
  unfold orderReply
  cases reply with
  | none =>
    obtain ⟨ht, ha⟩ := rejectOrder_touches _ h hs
    exact ⟨ht, .inl ha⟩
  | some reply =>
    by_cases hmatched : reply.status = "matched"
    · simp only [if_pos hmatched]
      cases hrate : reply.feeRate with
      | error e => exact ⟨hrefl, .inl ⟨_, rfl⟩⟩
      | ok rate =>
        cases hamounts : reply.amounts with
        | error e => exact ⟨hrefl, .inl ⟨_, rfl⟩⟩
        | ok amounts =>
          dsimp only
          split
          · exact ⟨confirmFill_touches h hs rfl rfl rfl, .inl ⟨_, rfl⟩⟩
          · exact ⟨confirmFill_touches h hs rfl rfl rfl, .inr ⟨_, rfl⟩⟩
    · simp only [if_neg hmatched]
      obtain ⟨ht, ha⟩ := rejectOrder_touches _ h hs
      exact ⟨ht, .inl ha⟩

end Trading

end Polyfast
