import Polyfast.Orchestrator.Restore
import Polyfast.Persistence.SaveTasks

/-!
# The periodic flush

Between its cycles the exit loop saves every position once more, one after the other. Trading goes on meanwhile, and
saves may fail: the task of a position, or its turn in a flush.

* `FlushDesk.Step`: the steps of trading and of the save tasks, and those of the flush;
* `Step.row`: a row is left alone, or becomes the record as it is;
* `flushed_since`: after a flush that was not interrupted by failures a row is the record as it was at some moment since
  the flush began;
* `crash_keeps`: that is what a new process restores, a position whose buy order was pending as a rejected one.
-/

namespace Polyfast

/-- Trading, the table, and what a flush that is under way has still to save. -/
structure FlushDesk where
  saves : SaveDesk
  flushing : Option (List PositionId) := none

namespace FlushDesk

variable (f : FlushDesk)

/-- What is in memory under an id. -/
def record (id : PositionId) : Option PositionRecord := f.saves.tracker.positions.get? id

/-- What is stored under it. -/
def row (id : PositionId) : Option PositionRecord := f.saves.store.rows.get? id

/-- The turn of a position has come. -/
def flushOne (rest : List PositionId) (r : PositionRecord) (written : Bool) : FlushDesk where
  saves := { f.saves with store := (f.saves.store.save r written).1 }
  flushing := some rest

inductive Label
  | trading (l : SaveDesk.Label)
  /-- A save task runs, and its save fails. -/
  | lost (id : PositionId)
  | begin
  | flush (written : Bool)
  | finish

/-- One step between awaits. A flush takes the list of the positions when it begins, and a record as it is when its turn
comes. -/
inductive Step : FlushDesk → Label → FlushDesk → Prop
  | trading (f : FlushDesk) (l : SaveDesk.Label) (d : SaveDesk) (h : SaveDesk.Step f.saves l d) :
      Step f (.trading l) { f with saves := d }
  | lost (f : FlushDesk) (l₁ l₂ : List PositionId) (id : PositionId)
      (h : f.saves.tracker.pendingSaves = l₁ ++ id :: l₂) :
      Step f (.lost id)
        { f with saves := f.saves.withTracker { f.saves.tracker with pendingSaves := l₁ ++ l₂ } }
  | begin (f : FlushDesk) (h : f.flushing = none) :
      Step f .begin { f with flushing := some (f.saves.tracker.getAllPositions.map PositionRecord.positionId) }
  | flush (f : FlushDesk) (id : PositionId) (rest : List PositionId) (r : PositionRecord) (written : Bool)
      (h : f.flushing = some (id :: rest)) (hr : f.record id = some r) :
      Step f (.flush written) (f.flushOne rest r written)
  | finish (f : FlushDesk) (h : f.flushing = some []) : Step f .finish { f with flushing := none }

variable {f f₀ f' : FlushDesk} {l : Label} {tr before during after : List (Lib.Taken FlushDesk Label)}
  {b e : Lib.Taken FlushDesk Label} {id : PositionId} {r : PositionRecord}

theorem row_flushOne (rest : List PositionId) (r : PositionRecord) (written : Bool) (id : PositionId) :
    (f.flushOne rest r written).row id = if r.positionId = id ∧ written = true then some r else f.row id :=
  PositionStore.get?_save r written id

/-- **What a step does to a row**: it leaves it alone, or writes the record as it is. -/
theorem Step.row (h : Step f l f') (id : PositionId) :
    f'.row id = f.row id ∨ (f'.row id = f.record id ∧ (f.record id).isSome = true) := by
  have hwritten : ∀ {r : PositionRecord} {k : PositionId}, f.record k = some r → r.positionId = id →
      f.record id = some r := by
    intro r k hr hid
    have hkey : r.positionId = k := Lib.Table.key_of_get? hr
    rw [← hid, hkey]
    exact hr
  cases h with
  | trading l d h =>
    cases h with
    | tracker c hnew => exact .inl rfl
    | exit l e h => exact .inl rfl
    | save l₁ l₂ k r hq hr =>
      have hrow : FlushDesk.row { f with saves := f.saves.saved (l₁ ++ l₂) r } id =
          if r.positionId = id then some r else f.row id := SaveDesk.get?_saved (l₁ ++ l₂) r id
      rw [hrow]
      split_ifs with hid
      · right
        rw [hwritten hr hid]
        exact ⟨rfl, rfl⟩
      · exact .inl rfl
  | lost l₁ l₂ k h => exact .inl rfl
  | begin h => exact .inl rfl
  | flush k rest r written h hr =>
    rw [row_flushOne]
    split_ifs with hboth
    · right
      rw [hwritten hr hboth.1]
      exact ⟨rfl, rfl⟩
    · exact .inl rfl
  | finish h => exact .inl rfl

/-- The step saves the position in its turn. -/
def Flushes (id : PositionId) (x : Lib.Taken FlushDesk Label) : Prop :=
  x.post.row id = x.pre.record id ∧ (x.post.row id).isSome = true

/-- **What a step does to the list of a flush**: a position that leaves it is saved. -/
theorem Step.flushes (h : Step f l f') (hl : l ≠ .begin ∧ l ≠ .flush false) {id : PositionId}
    (hid : id ∈ f.flushing.getD []) : id ∈ f'.flushing.getD [] ∨ Flushes id ⟨f, l, f'⟩ := by
  cases h with
  | trading l d h => exact .inl hid
  | lost l₁ l₂ k h => exact .inl hid
  | begin h => exact absurd rfl hl.1
  | finish h =>
    rw [h] at hid
    cases hid
  | flush k rest r written h hr =>
    have hwritten : written = true := by
      cases written with
      | true => rfl
      | false => exact absurd rfl hl.2
    rw [h, Option.getD_some] at hid
    rcases List.mem_cons.mp hid with rfl | hrest
    · right
      have hkey : r.positionId = id := Lib.Table.key_of_get? hr
      have hrow : (f.flushOne rest r written).row id = some r := by rw [row_flushOne, if_pos ⟨hkey, hwritten⟩]
      unfold Flushes
      rw [hrow, hr]
      exact ⟨rfl, rfl⟩
    · exact .inl hrest

/-- A flush from its beginning to its end, in which no save fails. -/
structure Flush (during : List (Lib.Taken FlushDesk Label)) (b e : Lib.Taken FlushDesk Label) : Prop where
  begins : b.label = .begin
  ends : e.label = .finish
  saved : ∀ x ∈ during, x.label ≠ .begin ∧ x.label ≠ .flush false

/-- **A flush saves every position** that was there when it began. -/
theorem Flush.all (h : Flush during b e) (hrun : Lib.Run Step b.pre (b :: (during ++ e :: after)) f)
    (hr : b.pre.record id = some r) : ∃ x ∈ during, Flushes id x := by
  obtain ⟨-, hbegin, hrest⟩ := Lib.Run.cons_inv hrun
  obtain ⟨g, hduring, hend⟩ := Lib.Run.split hrest
  obtain ⟨-, hfinish, -⟩ := Lib.Run.cons_inv hend
  rw [h.begins] at hbegin
  rw [h.ends] at hfinish
  have hlisted : id ∈ b.post.flushing.getD [] := by
    generalize b.post = g at hbegin
    cases hbegin with
    | begin h =>
      have hmem : r ∈ b.pre.saves.tracker.getAllPositions := Lib.Table.mem_records_of_get? hr
      exact List.mem_map.mpr ⟨r, hmem, Lib.Table.key_of_get? hr⟩
  have hempty : g.flushing.getD [] = [] := by
    generalize e.post = g' at hfinish
    cases hfinish with
    | finish h => rw [h]; rfl
  have hdone := (hduring.restrict h.saved).worked_off (fun f => f.flushing.getD []) Flushes
    (fun _ _ _ hst k hk => hst.1.flushes hst.2 hk) id hlisted
  rw [hempty] at hdone
  exact hdone.resolve_left List.not_mem_nil

/-- **A row after a flush** is the record as it was at some moment since the flush began. -/
theorem flushed_since (hrun : Lib.Run Step f₀ (before ++ b :: (during ++ e :: after)) f) (hflush : Flush during b e)
    (hr : b.pre.record id = some r) :
    ∃ x ∈ during ++ e :: after, ∃ now, x.pre.record id = some now ∧ f.row id = some now := by
  obtain ⟨g, -, hrest⟩ := Lib.Run.split hrun
  obtain ⟨rfl, -, hsince⟩ := Lib.Run.cons_inv hrest
  obtain ⟨y, hy, hflushed⟩ := hflush.all hrest hr
  have hmem : y ∈ during ++ e :: after := List.mem_append_left _ hy
  obtain ⟨x, hx, hcopy⟩ := hsince.copied_since (fun f => f.row id) (fun f => f.record id)
    (fun _ _ _ hst => (hst.row id).imp_right And.left) ⟨y, hmem, hflushed.1⟩
  -- a row is never deleted
  have hstored : (f.row id).isSome = true := by
    refine hsince.marked (Q := fun f => (f.row id).isSome = true) (M := Flushes id) (fun _ _ hM => hM.2)
      (fun z hz hpre => ?_) ⟨y, hmem, hflushed⟩
    obtain hsame | ⟨hnow, hsome⟩ := (hsince.step_of_mem hz).row id
    · rw [hsame]
      exact hpre
    · rw [hnow]
      exact hsome
  obtain ⟨now, hnow⟩ := Option.isSome_iff_exists.mp hstored
  exact ⟨x, hx, now, hcopy ▸ hnow, hnow⟩

/-- **What a crash loses.** The process dies, and a new one restores what it can read. A position that was there when a
flush began that was then finished without a failed save comes back, as it was at some moment since: whatever tasks had
not run or had failed, the crash loses no more of it than what happened after that. If its buy order was pending at that
moment it comes back rejected, for no restart carries such an order on. -/
theorem crash_keeps (hrun : Lib.Run Step f₀ (before ++ b :: (during ++ e :: after)) f) (hflush : Flush during b e)
    (hr : b.pre.record id = some r) (cs : List ClaimRecord) (now : Time) :
    ∃ x ∈ during ++ e :: after, ∃ p, x.pre.record id = some p ∧
      (f.saves.desk.trading.restart (f.saves.store.loadAll true) cs now).tracker.positions.get? id =
        some (PositionTracker.restored now p) := by
  obtain ⟨x, hx, p, hp, hrow⟩ := flushed_since hrun hflush hr
  have hkey : p.positionId = id := Lib.Table.key_of_get? hp
  have hstored : p ∈ f.saves.store.loadAll true := by
    rw [PositionStore.mem_loadAll, hkey]
    exact ⟨rfl, hrow⟩
  have hrestored : (f.saves.desk.trading.rewired.tracker.restoreAll (f.saves.store.loadAll true) now).positions.get?
      p.positionId = some (PositionTracker.restored now p) :=
    PositionTracker.get?_restoreAll (f.saves.store.loadAll_nodup true) hstored
  rw [hkey] at hrestored
  exact ⟨x, hx, p, hp, hrestored⟩

/-- A position has been filled, and its saves have failed. -/
def unsavedFill : FlushDesk where
  saves := SaveDesk.newDesk.withTracker
    { ((SaveDesk.newDesk.tracker.createPending PositionTracker.firstOrder).confirmFill 0 (1 / 2) none 1).state with
      pendingSaves := [] }

/-- The position as it is in memory. -/
def filledOrder : PositionRecord := (unsavedFill.record 0).getD PositionTracker.firstOrder

def flushBegun : FlushDesk :=
  { unsavedFill with flushing := some (unsavedFill.saves.tracker.getAllPositions.map PositionRecord.positionId) }

def flushDone : FlushDesk := { flushBegun.flushOne [] filledOrder true with flushing := none }

/-- It is to be closed, and no save of that has run. -/
def closingUnsaved : FlushDesk :=
  let closing := flushDone.saves.tracker.after (.requestClose 0 .manualClose [] (3 / 5) 2)
  { flushDone with saves := flushDone.saves.withTracker closing }

theorem record_unsavedFill : unsavedFill.record 0 = some filledOrder := by
  decide +kernel

theorem run_closingUnsaved : Lib.Run Step unsavedFill
    ([] ++ ⟨unsavedFill, .begin, flushBegun⟩ ::
      ([⟨flushBegun, .flush true, flushBegun.flushOne [] filledOrder true⟩] ++
        ⟨flushBegun.flushOne [] filledOrder true, .finish, flushDone⟩ ::
          [⟨flushDone, .trading (.tracker (.requestClose 0 .manualClose [] (3 / 5) 2)), closingUnsaved⟩]))
    closingUnsaved := by
  have hbegin : Step unsavedFill .begin flushBegun := .begin unsavedFill rfl
  have hflush : Step flushBegun (.flush true) (flushBegun.flushOne [] filledOrder true) :=
    .flush flushBegun 0 [] filledOrder true (by decide +kernel) record_unsavedFill
  have hfinish : Step (flushBegun.flushOne [] filledOrder true) .finish flushDone := .finish _ rfl
  have hclose : Step flushDone (.trading (.tracker (.requestClose 0 .manualClose [] (3 / 5) 2))) closingUnsaved :=
    .trading flushDone _ _ (.tracker flushDone.saves (.requestClose 0 .manualClose [] (3 / 5) 2) trivial)
  exact (((Lib.Run.single hbegin).snoc hflush).snoc hfinish).snoc hclose

theorem crash_keeps_fill :
    ∃ x ∈ [(⟨flushBegun, .flush true, flushBegun.flushOne [] filledOrder true⟩ : Lib.Taken FlushDesk Label)] ++
        ⟨flushBegun.flushOne [] filledOrder true, .finish, flushDone⟩ ::
          [⟨flushDone, .trading (.tracker (.requestClose 0 .manualClose [] (3 / 5) 2)), closingUnsaved⟩],
      ∃ p, x.pre.record 0 = some p ∧
        (closingUnsaved.saves.desk.trading.restart (closingUnsaved.saves.store.loadAll true) []
          3).tracker.positions.get? 0 = some (PositionTracker.restored 3 p) := by
  have hflush : Flush
      [(⟨flushBegun, .flush true, flushBegun.flushOne [] filledOrder true⟩ : Lib.Taken FlushDesk Label)]
      ⟨unsavedFill, .begin, flushBegun⟩ ⟨flushBegun.flushOne [] filledOrder true, .finish, flushDone⟩ := by
    refine ⟨rfl, rfl, fun x hx => ?_⟩
    rw [List.mem_singleton.mp hx]
    exact ⟨by simp, by simp⟩
  exact crash_keeps run_closingUnsaved hflush record_unsavedFill [] 3

end FlushDesk

end Polyfast
