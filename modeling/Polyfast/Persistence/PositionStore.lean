import Polyfast.Execution.PositionTracker

/-!
# The position store

The `positions` table has one row under each id, a whole record. Both methods swallow what the database
raises: a save that failed answers `False`, a load that failed answers the empty list.

* `get?_saveAll`: a row after a series of saves;
* `mem_loadAll`: what a load reads.
-/

namespace Polyfast

/-- The `positions` table. -/
structure PositionStore where
  rows : Positions := .empty

namespace PositionStore

variable (st : PositionStore)

/-- `save`; `written` is whether the database took the row. -/
def save (p : PositionRecord) (written : Bool) : PositionStore × Bool :=
  if written then ({ rows := st.rows.put p }, true) else (st, false)

/-- `load_all`; `readable` is whether the database answered. -/
def loadAll (readable : Bool) : List PositionRecord :=
  if readable then st.rows.records.mergeSort (fun p q => p.createdAt ≤ q.createdAt) else []

/-- Saves, one after the other. -/
def saveAll (ps : List PositionRecord) (written : PositionId → Bool) : PositionStore :=
  ps.foldl (fun st p => (st.save p (written p.positionId)).1) st

variable {st} {ps : List PositionRecord} {written : PositionId → Bool} {r : PositionRecord}

theorem get?_save (p : PositionRecord) (w : Bool) (k : PositionId) :
    (st.save p w).1.rows.get? k = if p.positionId = k ∧ w = true then some p else st.rows.get? k := by
  unfold save
  cases w with
  | true => simp [Lib.Table.get?_put]
  | false => simp

/-- When all that is saved under the id is `r`, the row is `r` once one of the saves got through. -/
theorem get?_saveAll (hr : ∀ p ∈ ps, p.positionId = r.positionId → p = r) :
    (st.saveAll ps written).rows.get? r.positionId =
      if r ∈ ps ∧ written r.positionId = true then some r else st.rows.get? r.positionId := by
  induction ps generalizing st with
  | nil => simp [saveAll]
  | cons p ps ih =>
    show ((st.save p (written p.positionId)).1.saveAll ps written).rows.get? r.positionId = _
    rw [ih fun q hq => hr q (List.mem_cons_of_mem _ hq), get?_save]
    by_cases hp : p.positionId = r.positionId
    · obtain rfl := hr p List.mem_cons_self hp
      by_cases hw : written p.positionId = true
      · simp [hw]
      · simp [hw]
    · have hne : r ≠ p := fun heq => hp (heq ▸ rfl)
      simp [hp, hne]

theorem mem_loadAll {p : PositionRecord} {readable : Bool} :
    p ∈ st.loadAll readable ↔ readable = true ∧ st.rows.get? p.positionId = some p := by
  unfold loadAll
  cases readable with
  | true =>
    rw [if_pos rfl, List.mem_mergeSort, Lib.Table.mem_records]
    simp
  | false => simp

theorem loadAll_nodup (readable : Bool) : ((st.loadAll readable).map PositionRecord.positionId).Nodup := by
  unfold loadAll
  split_ifs
  · rw [((List.mergeSort_perm _ _).map PositionRecord.positionId).nodup_iff]
    exact st.rows.nodup_map_key
  · exact List.nodup_nil

end PositionStore

end Polyfast
