import Polyfast.Persistence.PositionStore
import Polyfast.Execution.TrackerMove
import Polyfast.Orchestrator.Restore

/-!
# Stop and start

`stop` saves every position once more, `start` clears the tracker and loads what the store answers. Both
store methods swallow their errors, and neither `stop` nor `start` looks at what became of them.

* `Trading.stopStart`: both, with what the store does meanwhile as an `Outage`;
* `Kept`: a stored version of the position reaches the table, or is there already;
* `live_positions_survive_iff`: which positions a stop and a start bring back.
-/

namespace Polyfast

/-- The fields written with the order and at the fill. -/
structure EntryFields where
  asset : Asset
  side : OrderSide
  conditionId : ConditionId
  tokenId : TokenId
  createdAt : Time
  requestedAmountUsd : ℚ
  fillPrice : ℚ
  grossFillShares : ℚ
  entryFeeShares : ℚ
  netPositionShares : ℚ
  feeRate : ℚ
  openedAt : Option Time
  deriving DecidableEq

namespace PositionRecord

variable (p : PositionRecord)

def entryFields : EntryFields :=
  { asset := p.asset, side := p.side, conditionId := p.conditionId, tokenId := p.tokenId
    createdAt := p.createdAt, requestedAmountUsd := p.requestedAmountUsd, fillPrice := p.fillPrice
    grossFillShares := p.grossFillShares, entryFeeShares := p.entryFeeShares
    netPositionShares := p.netPositionShares, feeRate := p.feeRate, openedAt := p.openedAt }

/-- Filled and not closed. -/
def isLive : Bool := p.wasFilled && !p.isClosed

end PositionRecord

/-- What the store does between `stop` and the end of `start`. -/
structure Outage where
  /-- The save that the flush makes of the position gets through. -/
  flushed : PositionId → Bool
  /-- The save that was queued for the position before gets through. -/
  queued : PositionId → Bool
  /-- `load_all` is answered. -/
  loaded : Bool

namespace Trading

variable (s : Trading) (st : PositionStore) (o : Outage)

/-- The records of the saves that are queued. -/
def queuedSaves : List PositionRecord := s.tracker.pendingSaves.filterMap s.tracker.getPosition

/-- The table after `stop`: `_flush_state` saves every position, and the queued saves are done with. -/
def stop : PositionStore :=
  (st.saveAll s.tracker.getAllPositions o.flushed).saveAll s.queuedSaves o.queued

/-- `stop`, then `start`. -/
def stopStart (cs : List ClaimRecord) (now : Time) : Trading :=
  s.startAgain ((s.stop st o).loadAll o.loaded) cs now

/-- The table has the position's entry fields at the end: a save of it got through, or they were there. -/
def Kept (r : PositionRecord) : Prop :=
  o.flushed r.positionId = true ∨
    r.positionId ∈ s.tracker.pendingSaves ∧ o.queued r.positionId = true ∨
    ∃ row, st.rows.get? r.positionId = some row ∧ row.entryFields = r.entryFields

variable {s st o} {r : PositionRecord}

theorem mem_queuedSaves (hr : s.tracker.positions.get? r.positionId = some r) :
    r ∈ s.queuedSaves ↔ r.positionId ∈ s.tracker.pendingSaves := by
  unfold queuedSaves
  rw [List.mem_filterMap]
  constructor
  · rintro ⟨id, hid, hget⟩
    have hkey : r.positionId = id := Lib.Table.key_of_get? hget
    rw [hkey]
    exact hid
  · intro hid
    exact ⟨r.positionId, hid, hr⟩

/-- The row of a position after `stop`: the position, if a save of it got through. -/
theorem get?_stop (hr : s.tracker.positions.get? r.positionId = some r) :
    (s.stop st o).rows.get? r.positionId =
      if o.flushed r.positionId = true ∨
        r.positionId ∈ s.tracker.pendingSaves ∧ o.queued r.positionId = true then some r
      else st.rows.get? r.positionId := by
  have hall : ∀ p ∈ s.tracker.getAllPositions, p.positionId = r.positionId → p = r := by
    intro p hp hid
    have hget := Lib.Table.mem_records.mp hp
    rw [hid, hr] at hget
    exact (Option.some.inj hget).symm
  have hqueued : ∀ p ∈ s.queuedSaves, p.positionId = r.positionId → p = r := by
    intro p hp hid
    obtain ⟨id, -, hget⟩ := List.mem_filterMap.mp hp
    have hkey : p.positionId = id := Lib.Table.key_of_get? hget
    have hget' : s.tracker.positions.get? id = some p := hget
    rw [← hkey, hid, hr] at hget'
    exact (Option.some.inj hget').symm
  have hmem : r ∈ s.tracker.getAllPositions := Lib.Table.mem_records.mpr hr
  unfold stop
  rw [PositionStore.get?_saveAll hqueued, PositionStore.get?_saveAll hall]
  simp only [mem_queuedSaves hr]
  by_cases hf : o.flushed r.positionId = true
  · simp [hf, hmem]
  · simp [hf]

/-- What `start` has of a position: the row of the table, if `load_all` is answered. -/
theorem get?_stopStart (cs : List ClaimRecord) (now : Time) (id : PositionId) :
    (s.stopStart st o cs now).tracker.positions.get? id =
      if o.loaded = true then ((s.stop st o).rows.get? id).map (PositionTracker.restored now) else none := by
  have hnodup := (s.stop st o).loadAll_nodup o.loaded
  have htracker : (s.stopStart st o cs now).tracker =
      s.tracker.reset.restoreAll ((s.stop st o).loadAll o.loaded) now := rfl
  have hempty : s.tracker.reset.positions.get? id = none := rfl
  rw [htracker]
  by_cases hid : id ∈ ((s.stop st o).loadAll o.loaded).map PositionRecord.positionId
  · obtain ⟨p, hp, rfl⟩ := List.mem_map.mp hid
    obtain ⟨hl, hrow⟩ := PositionStore.mem_loadAll.mp hp
    rw [PositionTracker.get?_restoreAll hnodup hp, if_pos hl, hrow]
    rfl
  · rw [PositionTracker.get?_restoreAll_notMem hid, hempty]
    split_ifs with hl
    · cases hrow : (s.stop st o).rows.get? id with
      | none => rfl
      | some row =>
        exfalso
        have hkey : row.positionId = id := Lib.Table.key_of_get? hrow
        rw [← hkey] at hrow hid
        exact hid (List.mem_map_of_mem (PositionStore.mem_loadAll.mpr ⟨hl, hrow⟩))
    · rfl

@[simp] theorem entryFields_restored (now : Time) (p : PositionRecord) :
    (PositionTracker.restored now p).entryFields = p.entryFields := by
  unfold PositionTracker.restored
  split_ifs <;> rfl

/-- A position of the tracker is there again with its entry fields, exactly when the table has them and is
read. -/
theorem survives_iff (cs : List ClaimRecord) (now : Time)
    (hr : s.tracker.positions.get? r.positionId = some r) :
    (∃ r', (s.stopStart st o cs now).tracker.positions.get? r.positionId = some r' ∧
      r'.entryFields = r.entryFields) ↔ o.loaded = true ∧ s.Kept st o r := by
  rw [get?_stopStart, get?_stop hr]
  by_cases hl : o.loaded = true
  · rw [if_pos hl, and_iff_right hl]
    unfold Kept
    split_ifs with hw
    · refine iff_of_true ⟨_, rfl, entryFields_restored now r⟩ ?_
      rcases hw with hf | hq
      · exact .inl hf
      · exact .inr (.inl hq)
    · rw [not_or] at hw
      constructor
      · rintro ⟨r', hr', he⟩
        rw [Option.map_eq_some_iff] at hr'
        obtain ⟨row, hrow, rfl⟩ := hr'
        rw [entryFields_restored] at he
        exact .inr (.inr ⟨row, hrow, he⟩)
      · rintro (hf | hq | ⟨row, hrow, he⟩)
        · exact absurd hf hw.1
        · exact absurd hq hw.2
        · exact ⟨_, by rw [hrow]; rfl, by rw [entryFields_restored]; exact he⟩
  · simp [hl]

/-- **Stop and start.** Every position that was filled and not closed is in the tracker again with its entry
fields, exactly when, if there is one, the store is read and each of them has its entry fields stored. -/
theorem live_positions_survive_iff (s : Trading) (st : PositionStore) (o : Outage) (cs : List ClaimRecord)
    (now : Time) :
    (∀ r ∈ s.tracker.getAllPositions, r.isLive = true →
      ∃ r', (s.stopStart st o cs now).tracker.positions.get? r.positionId = some r' ∧
        r'.entryFields = r.entryFields) ↔
      ∀ r ∈ s.tracker.getAllPositions, r.isLive = true → o.loaded = true ∧ s.Kept st o r := by
  refine forall_congr' fun r => forall_congr' fun hr => forall_congr' fun _ => ?_
  exact survives_iff cs now (Lib.Table.mem_records.mp hr)

/-- An open position. -/
def openRecord : PositionRecord where
  positionId := 0
  asset := "BTC"
  side := .up
  conditionId := "event"
  tokenId := "token"
  state := .openConfirmed
  createdAt := 0
  requestedAmountUsd := 1
  fillPrice := 1 / 2
  grossFillShares := 2
  netPositionShares := 2
  openedAt := some 0

/-- The only position of the bot is open. -/
def oneOpen : Trading where
  tracker := { positions := Lib.Table.empty.put openRecord }

/-- Everything is saved, but `load_all` is not answered: the position is gone. So it is when the store is read
but no save got through. -/
theorem open_position_lost :
    openRecord ∈ oneOpen.tracker.getAllPositions ∧ openRecord.isLive = true ∧
      (oneOpen.stopStart {} { flushed := fun _ => true, queued := fun _ => true, loaded := false } [] 1
        ).tracker.positions.get? 0 = none ∧
      (oneOpen.stopStart {} { flushed := fun _ => false, queued := fun _ => false, loaded := true } [] 1
        ).tracker.positions.get? 0 = none := by
  refine ⟨?_, ?_, ?_, ?_⟩
  all_goals decide +kernel

end Trading

end Polyfast
