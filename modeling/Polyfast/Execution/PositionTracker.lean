import Polyfast.Lib.Table
import Polyfast.Execution.PositionRecord

/-!
# The position tracker

Positions by id with the counters kept beside them. A method that raises keeps what it had already
written. Saves are fire-and-forget tasks: `_persist` queues the id of the record to be written.

* `createPending`, `confirmFill`, `rejectFill`, `requestClose`, `confirmClose`, `restorePosition`;
* `confirmFill_of_pending`, `rejectFill_of_pending`, `requestClose_of_open`,
  `confirmClose_of_closePending`: what each does in the state its callers use it in.
-/

namespace Polyfast

/-- The positions in order of creation, each under its id. -/
abbrev Positions := Lib.Table PositionRecord.positionId

structure PositionTracker where
  positions : Positions := .empty
  feeCalc : FeeCalculator := {}
  /-- A store is set and an event loop is running. -/
  hasStore : Bool := false
  pendingSaves : List PositionId := []
  eventFills : Lib.Dict ConditionId ℕ := .empty
  sessionTradeCount : ℕ := 0

namespace PositionRecord

/-- The record with its entry fields written. -/
def withEntry (r : PositionRecord) (fillPrice : ℚ) (entry : EntryData) (now : Time) :
    PositionRecord :=
  { r with
    fillPrice := fillPrice
    grossFillShares := entry.grossFillShares
    entryFeeShares := entry.entryFeeShares
    netPositionShares := entry.netPositionShares
    feeRate := entry.feeRate
    openedAt := some now }

/-- The record with its close fields written. -/
def withExit (r : PositionRecord) (exitFillPrice : ℚ) (data : ExitData) (now : Time) :
    PositionRecord :=
  { r with
    exitFillPrice := exitFillPrice
    exitGrossUsdc := data.exitGrossUsdc
    actualExitFeeUsdc := data.actualExitFeeUsdc
    netExitUsdc := data.netExitUsdc
    netRealizedPnl := Lib.roundTo 4 (data.netExitUsdc - r.requestedAmountUsd)
    closedAt := some now }

/-- The record with the reason of its close written. -/
def withCloseRequest (r : PositionRecord) (reason : CloseReason) (triggers : List ForceSellTrigger)
    (requestedPrice : ℚ) (now : Time) : PositionRecord :=
  { r with
    closeReason := some reason
    closeTriggerSet := triggers
    closeTriggeredAt := some now
    closeRequestedPrice := requestedPrice }

end PositionRecord

namespace PositionTracker

variable (t : PositionTracker)

/-- Forget positions and counters. -/
def reset : PositionTracker :=
  { t with positions := .empty, eventFills := .empty, sessionTradeCount := 0 }

/-- Queue a save of the record. -/
def persist (id : PositionId) : PositionTracker :=
  if t.hasStore then { t with pendingSaves := t.pendingSaves ++ [id] } else t

/-- The record object, changed in place by its holder. -/
def write (r : PositionRecord) : PositionTracker := { t with positions := t.positions.put r }

def getRecord (id : PositionId) : Except PyError PositionRecord :=
  match t.positions.get? id with
  | some r => .ok r
  | none => .error (.keyError s!"Position not found: {id}")

/-- Alış fills counted for an event. -/
def getEventFillCount (conditionId : ConditionId) : ℕ := t.eventFills.getD conditionId 0

def openPositionCount : ℕ := t.positions.count PositionRecord.isOpen

def getAllPositions : List PositionRecord := t.positions.records

def getPosition (id : PositionId) : Option PositionRecord := t.positions.get? id

/-- Load a stored record and count it. -/
def restorePosition (r : PositionRecord) : PositionTracker :=
  { t with
    positions := t.positions.put r
    eventFills := t.eventFills.set r.conditionId (t.getEventFillCount r.conditionId + 1)
    sessionTradeCount :=
      if r.state = .pendingOpen then t.sessionTradeCount else t.sessionTradeCount + 1 }

/-! ### Fill -/

/-- The record `create_pending` makes. -/
def newRecord (id : PositionId) (asset : Asset) (side : OrderSide) (conditionId : ConditionId)
    (tokenId : TokenId) (requestedAmountUsd : ℚ) (now : Time) : PositionRecord :=
  { positionId := id, asset := asset, side := side, conditionId := conditionId, tokenId := tokenId
    requestedAmountUsd := requestedAmountUsd, createdAt := now }

/-- A pending position, counted as a fill of its event at once. -/
def createPending (r : PositionRecord) : PositionTracker :=
  { t with
    positions := t.positions.put r
    eventFills := t.eventFills.set r.conditionId (t.getEventFillCount r.conditionId + 1) }
  |>.persist r.positionId

/-- The fill arrived: write the entry fields, then open the position. -/
def confirmFill (id : PositionId) (fillPrice : ℚ) (feeRate : Option ℚ) (now : Time) :
    Call PositionTracker PositionRecord :=
  match t.getRecord id with
  | .error e => .raises t e
  | .ok r =>
    let feeCalc : FeeCalculator := match feeRate with
      | some rate => { feeRate := rate }
      | none => t.feeCalc
    match feeCalc.calculateEntry r.requestedAmountUsd fillPrice with
    | .error e => .raises t e
    | .ok entry =>
      let r := r.withEntry fillPrice entry now
      match r.transitionTo .openConfirmed with
      | .error e => .raises (t.write r) e
      | .ok r =>
        let t := t.write r
        .returns ({ t with sessionTradeCount := t.sessionTradeCount + 1 }.persist id) r

/-- No fill: the event's count goes down again, never below 0, and the position is closed. -/
def rejectFill (id : PositionId) (now : Time) : Call PositionTracker PositionRecord :=
  match t.getRecord id with
  | .error e => .raises t e
  | .ok r =>
    let current := t.getEventFillCount r.conditionId
    let t := if current > 0 then { t with eventFills := t.eventFills.set r.conditionId (current - 1) }
      else t
    match r.transitionTo .closed with
    | .error e => .raises t e
    | .ok r =>
      let r := { r with closedAt := some now }
      .returns (t.write r) r

/-! ### Close -/

/-- The decision to leave. -/
def requestClose (id : PositionId) (reason : CloseReason) (triggers : List ForceSellTrigger)
    (requestedPrice : ℚ) (now : Time) : Call PositionTracker PositionRecord :=
  match t.getRecord id with
  | .error e => .raises t e
  | .ok r =>
    match r.transitionTo .closingRequested with
    | .error e => .raises t e
    | .ok r =>
      let r := r.withCloseRequest reason triggers requestedPrice now
      .returns ((t.write r).persist id) r

/-- The sale is done: close the position, then write the exit fields. -/
def confirmClose (id : PositionId) (exitFillPrice : ℚ) (feeRate : Option ℚ) (now : Time) :
    Call PositionTracker PositionRecord :=
  match t.getRecord id with
  | .error e => .raises t e
  | .ok r =>
    let r := if r.state = .closingRequested then { r with state := .closePending } else r
    match r.transitionTo .closed with
    | .error e => .raises (t.write r) e
    | .ok r =>
      let feeCalc : FeeCalculator := match feeRate with
        | some rate => { feeRate := rate }
        | none => t.feeCalc
      let r := r.withExit exitFillPrice (feeCalc.calculateExit r.netPositionShares exitFillPrice) now
      .returns ((t.write r).persist id) r

/-! ### What the methods do where they are called -/

variable {t}

@[simp] theorem positions_persist (id : PositionId) : (t.persist id).positions = t.positions := by
  unfold persist
  split_ifs <;> rfl

@[simp] theorem eventFills_persist (id : PositionId) :
    (t.persist id).eventFills = t.eventFills := by
  unfold persist
  split_ifs <;> rfl

@[simp] theorem positions_write (r : PositionRecord) :
    (t.write r).positions = t.positions.put r := rfl

@[simp] theorem eventFills_write (r : PositionRecord) : (t.write r).eventFills = t.eventFills := rfl

theorem getRecord_of_get? {id : PositionId} {r : PositionRecord} (h : t.positions.get? id = some r) :
    t.getRecord id = .ok r := by
  rw [getRecord, h]

@[simp] theorem positions_createPending (r : PositionRecord) :
    (t.createPending r).positions = t.positions.put r := by
  simp [createPending]

@[simp] theorem eventFills_createPending (r : PositionRecord) :
    (t.createPending r).eventFills =
      t.eventFills.set r.conditionId (t.getEventFillCount r.conditionId + 1) := by
  simp [createPending]

/-- The entry data a fill of `r` writes. -/
def entryOf (r : PositionRecord) (fillPrice feeRate : ℚ) : EntryData :=
  match ({ feeRate := feeRate } : FeeCalculator).calculateEntry r.requestedAmountUsd fillPrice with
  | .ok entry => entry
  | .error _ => ⟨0, 0, 0, 0⟩

/-- A pending position is opened, unless the price is 0. -/
theorem confirmFill_of_pending {id : PositionId} {r : PositionRecord} {fillPrice feeRate : ℚ}
    {now : Time} (h : t.positions.get? id = some r) (hs : r.state = .pendingOpen)
    (hp : fillPrice ≠ 0) :
    t.confirmFill id fillPrice (some feeRate) now =
      .returns ({ t.write ((r.withEntry fillPrice (entryOf r fillPrice feeRate) now).inState
            .openConfirmed) with
          sessionTradeCount := t.sessionTradeCount + 1 }.persist id)
        ((r.withEntry fillPrice (entryOf r fillPrice feeRate) now).inState .openConfirmed) := by
  have ht : ∀ e, (r.withEntry fillPrice e now).transitionTo .openConfirmed =
      .ok ((r.withEntry fillPrice e now).inState .openConfirmed) := by
    intro e
    rw [PositionRecord.transitionTo_eq_ok]
    exact ⟨by simp [PositionRecord.withEntry, hs, allowedTransitions], rfl⟩
  simp only [confirmFill, getRecord_of_get? h, entryOf, FeeCalculator.calculateEntry, if_neg hp, ht]
  rfl

/-- At a price of 0 the fill raises before anything is written. -/
theorem confirmFill_zero {id : PositionId} {r : PositionRecord} {feeRate : ℚ} {now : Time}
    (h : t.positions.get? id = some r) :
    t.confirmFill id 0 (some feeRate) now = .raises t .zeroDivisionError := by
  simp [confirmFill, getRecord_of_get? h, FeeCalculator.calculateEntry]

/-- The fee rate of a call: the one given, or the tracker's own. -/
def rateOr (t : PositionTracker) (feeRate : Option ℚ) : ℚ := feeRate.getD t.feeCalc.feeRate

/-- The record with the entry fields of a fill. -/
def filled (t : PositionTracker) (r : PositionRecord) (price : ℚ) (feeRate : Option ℚ) (now : Time) :
    PositionRecord := r.withEntry price (entryOf r price (t.rateOr feeRate)) now

/-- Without a rate, a fill is at the tracker's own. -/
theorem confirmFill_rate (t : PositionTracker) (id : PositionId) (price : ℚ) (feeRate : Option ℚ) (now : Time) :
    t.confirmFill id price feeRate now = t.confirmFill id price (some (t.rateOr feeRate)) now := by
  cases feeRate <;> rfl

/-- **A fill**: it finds no position or a price of 0 and raises; or it writes the entry fields, and opens the
position if the table allows it, else raises. -/
theorem confirmFill_outcome (t : PositionTracker) (id : PositionId) (price : ℚ) (feeRate : Option ℚ)
    (now : Time) :
    (∃ e, t.confirmFill id price feeRate now = .raises t e ∧
        ∀ r, t.positions.get? id = some r → price = 0) ∨
      ∃ r, t.positions.get? id = some r ∧ price ≠ 0 ∧
        (PositionState.openConfirmed ∉ allowedTransitions r.state ∧
            (∃ e, t.confirmFill id price feeRate now = .raises (t.write (t.filled r price feeRate now)) e) ∨
          PositionState.openConfirmed ∈ allowedTransitions r.state ∧
            t.confirmFill id price feeRate now = .returns
              ({ t.write ((t.filled r price feeRate now).inState .openConfirmed) with
                sessionTradeCount := t.sessionTradeCount + 1 }.persist id)
              ((t.filled r price feeRate now).inState .openConfirmed)) := by
  rw [confirmFill_rate]
  unfold confirmFill getRecord
  cases hr : t.positions.get? id with
  | none => exact .inl ⟨_, rfl, fun r h => by cases h⟩
  | some r =>
    dsimp only
    by_cases hp : price = 0
    · rw [FeeCalculator.calculateEntry, if_pos hp]
      exact .inl ⟨_, rfl, fun _ _ => hp⟩
    · refine .inr ⟨r, rfl, hp, ?_⟩
      unfold filled entryOf
      rw [FeeCalculator.calculateEntry, if_neg hp]
      dsimp only
      generalize EntryData.mk _ _ _ _ = entry
      have hstate : (r.withEntry price entry now).state = r.state := rfl
      by_cases ha : PositionState.openConfirmed ∈ allowedTransitions r.state
      · rw [PositionRecord.transitionTo, hstate, if_pos ha]
        exact .inr ⟨ha, rfl⟩
      · rw [PositionRecord.transitionTo, hstate, if_neg ha]
        exact .inl ⟨ha, _, rfl⟩

/-- A fill changes nothing, or writes the entry fields of its position and opens it if it may be opened. -/
theorem confirmFill_spec (id : PositionId) (fillPrice : ℚ) (feeRate : Option ℚ) (now : Time) :
    (t.confirmFill id fillPrice feeRate now).state = t ∧
        (∀ r, t.positions.get? id = some r → fillPrice = 0) ∨
      ∃ r entry, t.positions.get? id = some r ∧ fillPrice ≠ 0 ∧
        (PositionState.openConfirmed ∉ allowedTransitions r.state ∧
            (t.confirmFill id fillPrice feeRate now).state = t.write (r.withEntry fillPrice entry now) ∨
          PositionState.openConfirmed ∈ allowedTransitions r.state ∧
            (t.confirmFill id fillPrice feeRate now).state =
              { t.write ((r.withEntry fillPrice entry now).inState .openConfirmed) with
                sessionTradeCount := t.sessionTradeCount + 1 }.persist id) := by
  obtain ⟨e, heq, hzero⟩ | ⟨r, hr, hp, ⟨ha, e, heq⟩ | ⟨ha, heq⟩⟩ := confirmFill_outcome t id fillPrice feeRate now
  · exact .inl ⟨by rw [heq, Call.state_raises], hzero⟩
  · exact .inr ⟨r, _, hr, hp, .inl ⟨ha, by rw [heq, Call.state_raises, filled]⟩⟩
  · exact .inr ⟨r, _, hr, hp, .inr ⟨ha, by rw [heq, Call.state_returns, filled]⟩⟩

/-- The record a rejected order leaves. -/
def rejected (r : PositionRecord) (now : Time) : PositionRecord :=
  { r.inState .closed with closedAt := some now }

/-- A pending position is closed and its event's count goes down. -/
theorem rejectFill_of_pending {id : PositionId} {r : PositionRecord} {now : Time}
    (h : t.positions.get? id = some r) (hs : r.state = .pendingOpen) :
    t.rejectFill id now = .returns
      { t with
        positions := t.positions.put (rejected r now)
        eventFills := if 0 < t.getEventFillCount r.conditionId
          then t.eventFills.set r.conditionId (t.getEventFillCount r.conditionId - 1)
          else t.eventFills }
      (rejected r now) := by
  have ht : r.transitionTo .closed = .ok (r.inState .closed) := by
    rw [PositionRecord.transitionTo_eq_ok]
    exact ⟨by simp [hs, allowedTransitions], rfl⟩
  simp only [rejectFill, getRecord_of_get? h, ht, gt_iff_lt]
  split_ifs <;> rfl

/-- A fill of the event is taken back, if one is counted. -/
def takeBack (t : PositionTracker) (c : ConditionId) : PositionTracker :=
  if 0 < t.getEventFillCount c then { t with eventFills := t.eventFills.set c (t.getEventFillCount c - 1) } else t

@[simp] theorem positions_takeBack (c : ConditionId) : (t.takeBack c).positions = t.positions := by
  unfold takeBack
  split_ifs <;> rfl

@[simp] theorem sessionTradeCount_takeBack (c : ConditionId) :
    (t.takeBack c).sessionTradeCount = t.sessionTradeCount := by
  unfold takeBack
  split_ifs <;> rfl

@[simp] theorem pendingSaves_takeBack (c : ConditionId) : (t.takeBack c).pendingSaves = t.pendingSaves := by
  unfold takeBack
  split_ifs <;> rfl

@[simp] theorem hasStore_takeBack (c : ConditionId) : (t.takeBack c).hasStore = t.hasStore := by
  unfold takeBack
  split_ifs <;> rfl

/-- **A rejection** takes a fill back before it looks at the table; what may not be closed raises then. -/
theorem rejectFill_outcome (t : PositionTracker) (id : PositionId) (now : Time) :
    (t.positions.get? id = none ∧ ∃ e, t.rejectFill id now = .raises t e) ∨
      ∃ r, t.positions.get? id = some r ∧
        (PositionState.closed ∉ allowedTransitions r.state ∧
            (∃ e, t.rejectFill id now = .raises (t.takeBack r.conditionId) e) ∨
          PositionState.closed ∈ allowedTransitions r.state ∧ t.rejectFill id now =
            .returns ((t.takeBack r.conditionId).write (rejected r now)) (rejected r now)) := by
  unfold rejectFill getRecord
  cases hr : t.positions.get? id with
  | none => exact .inl ⟨rfl, _, rfl⟩
  | some r =>
    refine .inr ⟨r, rfl, ?_⟩
    dsimp only
    by_cases ha : PositionState.closed ∈ allowedTransitions r.state
    · rw [PositionRecord.transitionTo, if_pos ha]
      exact .inr ⟨ha, rfl⟩
    · rw [PositionRecord.transitionTo, if_neg ha]
      exact .inl ⟨ha, _, rfl⟩

/-- A rejection takes a fill back, and closes the position if it may be closed. -/
theorem rejectFill_cases (id : PositionId) (now : Time) :
    (t.positions.get? id = none ∧ (t.rejectFill id now).state = t) ∨
      ∃ r, t.positions.get? id = some r ∧
        (PositionState.closed ∉ allowedTransitions r.state ∧
            (t.rejectFill id now).state = t.takeBack r.conditionId ∨
          PositionState.closed ∈ allowedTransitions r.state ∧
            (t.rejectFill id now).state = (t.takeBack r.conditionId).write (rejected r now)) := by
  obtain ⟨hnone, e, heq⟩ | ⟨r, hr, ⟨ha, e, heq⟩ | ⟨ha, heq⟩⟩ := rejectFill_outcome t id now
  · exact .inl ⟨hnone, by rw [heq, Call.state_raises]⟩
  · exact .inr ⟨r, hr, .inl ⟨ha, by rw [heq, Call.state_raises]⟩⟩
  · exact .inr ⟨r, hr, .inr ⟨ha, by rw [heq, Call.state_returns]⟩⟩

/-- An open position is marked as closing. -/
theorem requestClose_of_open {id : PositionId} {r : PositionRecord} {reason : CloseReason}
    {triggers : List ForceSellTrigger} {price : ℚ} {now : Time}
    (h : t.positions.get? id = some r) (hs : r.state = .openConfirmed) :
    t.requestClose id reason triggers price now = .returns
      ((t.write ((r.inState .closingRequested).withCloseRequest reason triggers price
        now)).persist id)
      ((r.inState .closingRequested).withCloseRequest reason triggers price now) := by
  have ht : r.transitionTo .closingRequested = .ok (r.inState .closingRequested) := by
    rw [PositionRecord.transitionTo_eq_ok]
    exact ⟨by simp [hs, allowedTransitions], rfl⟩
  simp only [requestClose, getRecord_of_get? h, ht]

/-- Only an open position is ever marked as closing; in any other state the request raises and
changes nothing. -/
theorem requestClose_of_not_open {id : PositionId} {reason : CloseReason}
    {triggers : List ForceSellTrigger} {price : ℚ} {now : Time}
    (h : ∀ r, t.positions.get? id = some r →
      PositionState.closingRequested ∉ allowedTransitions r.state) :
    (t.requestClose id reason triggers price now).state = t := by
  unfold requestClose getRecord
  cases hr : t.positions.get? id with
  | none => rfl
  | some r => simp [PositionRecord.transitionTo, h r hr]

/-- **A close request** raises and changes nothing, or marks a position that may be closed. -/
theorem requestClose_outcome (t : PositionTracker) (id : PositionId) (reason : CloseReason)
    (triggers : List ForceSellTrigger) (price : ℚ) (now : Time) :
    (∃ e, t.requestClose id reason triggers price now = .raises t e) ∨
      ∃ r, t.positions.get? id = some r ∧ PositionState.closingRequested ∈ allowedTransitions r.state ∧
        t.requestClose id reason triggers price now = .returns
          ((t.write ((r.inState .closingRequested).withCloseRequest reason triggers price now)).persist id)
          ((r.inState .closingRequested).withCloseRequest reason triggers price now) := by
  unfold requestClose getRecord
  cases hr : t.positions.get? id with
  | none => exact .inl ⟨_, rfl⟩
  | some r =>
    dsimp only
    by_cases ha : PositionState.closingRequested ∈ allowedTransitions r.state
    · rw [PositionRecord.transitionTo, if_pos ha]
      exact .inr ⟨r, rfl, ha, rfl⟩
    · rw [PositionRecord.transitionTo, if_neg ha]
      exact .inl ⟨_, rfl⟩

/-- A close request changes nothing, or marks a position that may be closed. -/
theorem requestClose_cases (id : PositionId) (reason : CloseReason)
    (triggers : List ForceSellTrigger) (price : ℚ) (now : Time) :
    (t.requestClose id reason triggers price now).state = t ∨
      ∃ r, t.positions.get? id = some r ∧ (r.state = .openConfirmed ∨ r.state = .closeFailed) ∧
        (t.requestClose id reason triggers price now).state = (t.write
          ((r.inState .closingRequested).withCloseRequest reason triggers price now)).persist id := by
  obtain ⟨e, heq⟩ | ⟨r, hr, ha, heq⟩ := requestClose_outcome t id reason triggers price now
  · exact .inl (by rw [heq, Call.state_raises])
  · refine .inr ⟨r, hr, ?_, by rw [heq, Call.state_returns]⟩
    cases hs : r.state <;> simp [hs, allowedTransitions] at ha ⊢

/-- The record after a sale at `price`. -/
def sold (r : PositionRecord) (price feeRate : ℚ) (now : Time) : PositionRecord :=
  (r.inState .closed).withExit price
    (({ feeRate := feeRate } : FeeCalculator).calculateExit r.netPositionShares price) now

/-- The states `confirm_close` closes from. -/
def closable (s : PositionState) : Bool := s = .closingRequested || .closed ∈ allowedTransitions s

theorem confirmClose_rate (t : PositionTracker) (id : PositionId) (price : ℚ) (feeRate : Option ℚ)
    (now : Time) :
    t.confirmClose id price feeRate now = t.confirmClose id price (some (t.rateOr feeRate)) now := by
  cases feeRate <;> rfl

/-- **A close** finds no position and raises, or one that may not be closed and leaves it, or closes it. -/
theorem confirmClose_outcome (t : PositionTracker) (id : PositionId) (price : ℚ) (feeRate : Option ℚ)
    (now : Time) :
    (t.positions.get? id = none ∧ ∃ e, t.confirmClose id price feeRate now = .raises t e) ∨
      ∃ r, t.positions.get? id = some r ∧
        (closable r.state = false ∧ (∃ e, t.confirmClose id price feeRate now = .raises (t.write r) e) ∨
          closable r.state = true ∧ t.confirmClose id price feeRate now =
            .returns ((t.write (sold r price (t.rateOr feeRate) now)).persist id)
              (sold r price (t.rateOr feeRate) now)) := by
  rw [confirmClose_rate]
  unfold confirmClose getRecord
  cases hr : t.positions.get? id with
  | none => exact .inl ⟨rfl, _, rfl⟩
  | some r =>
    refine .inr ⟨r, rfl, ?_⟩
    dsimp only
    by_cases hc : r.state = .closingRequested
    · have ht : PositionRecord.transitionTo { r with state := .closePending } .closed =
          .ok (r.inState .closed) := by
        rw [PositionRecord.transitionTo_eq_ok]
        exact ⟨by simp [allowedTransitions], rfl⟩
      rw [if_pos hc, ht]
      exact .inr ⟨by simp [closable, hc], rfl⟩
    · rw [if_neg hc]
      by_cases ha : PositionState.closed ∈ allowedTransitions r.state
      · rw [PositionRecord.transitionTo, if_pos ha]
        exact .inr ⟨by simp [closable, ha], rfl⟩
      · rw [PositionRecord.transitionTo, if_neg ha]
        exact .inl ⟨by simp [closable, hc, ha], _, rfl⟩

/-- A close finds no position, or one that may not be closed and stays as it is, or closes it. -/
theorem confirmClose_cases (id : PositionId) (price : ℚ) (feeRate : Option ℚ) (now : Time) :
    (t.positions.get? id = none ∧ (t.confirmClose id price feeRate now).state = t) ∨
      ∃ r, t.positions.get? id = some r ∧
        (PositionState.closed ∉ allowedTransitions r.state ∧
            (t.confirmClose id price feeRate now).state = t.write r ∨
          ∃ data, (t.confirmClose id price feeRate now).state =
            (t.write ((r.inState .closed).withExit price data now)).persist id) := by
  obtain ⟨hnone, e, heq⟩ | ⟨r, hr, ⟨hc, e, heq⟩ | ⟨-, heq⟩⟩ := confirmClose_outcome t id price feeRate now
  · exact .inl ⟨hnone, by rw [heq, Call.state_raises]⟩
  · exact .inr ⟨r, hr, .inl ⟨fun ha => by simp [closable, ha] at hc, by rw [heq, Call.state_raises]⟩⟩
  · exact .inr ⟨r, hr, .inr ⟨_, by rw [heq, Call.state_returns]; rfl⟩⟩

/-- A position whose sell order is out is closed at the price. -/
theorem confirmClose_of_closePending {id : PositionId} {r : PositionRecord} {price feeRate : ℚ}
    {now : Time} (h : t.positions.get? id = some r) (hs : r.state = .closePending) :
    t.confirmClose id price (some feeRate) now = .returns
      ((t.write (sold r price feeRate now)).persist id) (sold r price feeRate now) := by
  have ht : r.transitionTo .closed = .ok (r.inState .closed) := by
    rw [PositionRecord.transitionTo_eq_ok]
    exact ⟨by simp [hs, allowedTransitions], rfl⟩
  simp only [confirmClose, getRecord_of_get? h, hs, reduceCtorEq, if_false, ht]
  rfl

end PositionTracker

end Polyfast
