import Mathlib.Logic.Function.Basic
import Polyfast.Orchestrator.TrackerHistory

/-!
# The fields of the fill and of the close

What the first fill writes into a record, and what the close writes, is final. `confirm_fill` writes before it asks
whether the position may be opened, so a second one overwrites the entry fields, and does so even where it raises.

* `FillFields`, `CloseFields`: the fields of a record that are to be final;
* `Sealing`: a tracker, with what was written first; `Sealing.Step`: a call;
* `confirmFill_overwrites`: what a fill does to a position that is there;
* `fields_final`: the fields stay, and raising calls change nothing, as long as no position is filled twice.
-/

namespace Polyfast

/-- What a fill writes. -/
structure FillFields where
  fillPrice : ℚ
  grossFillShares : ℚ
  entryFeeShares : ℚ
  netPositionShares : ℚ
  feeRate : ℚ
  openedAt : Option Time
  deriving DecidableEq

/-- What a close writes. -/
structure CloseFields where
  exitFillPrice : ℚ
  exitGrossUsdc : ℚ
  actualExitFeeUsdc : ℚ
  netExitUsdc : ℚ
  netRealizedPnl : ℚ
  closedAt : Option Time
  deriving DecidableEq

namespace PositionRecord

variable (r : PositionRecord)

def fillFields : FillFields :=
  { fillPrice := r.fillPrice, grossFillShares := r.grossFillShares, entryFeeShares := r.entryFeeShares
    netPositionShares := r.netPositionShares, feeRate := r.feeRate, openedAt := r.openedAt }

def closeFields : CloseFields :=
  { exitFillPrice := r.exitFillPrice, exitGrossUsdc := r.exitGrossUsdc, actualExitFeeUsdc := r.actualExitFeeUsdc
    netExitUsdc := r.netExitUsdc, netRealizedPnl := r.netRealizedPnl, closedAt := r.closedAt }

/-- `r'` has the entry fields of `r` if that was filled, and is closed with its exit fields if that was closed. -/
structure Keeps (r r' : PositionRecord) : Prop where
  entry : r.wasFilled = true → r'.fillFields = r.fillFields
  exit : r.isClosed = true → r'.isClosed = true ∧ r'.closeFields = r.closeFields

end PositionRecord

namespace PositionTracker

variable (t : PositionTracker)

/-- What a call returns or raises. -/
def answer : TrackerCall → Except PyError PositionRecord
  | .createPending r => .ok r
  | .confirmFill id price rate now => (t.confirmFill id price rate now).result
  | .rejectFill id now => (t.rejectFill id now).result
  | .requestClose id reason triggers price now => (t.requestClose id reason triggers price now).result
  | .confirmClose id price rate now => (t.confirmClose id price rate now).result

/-- A fill at a price other than 0 is of a position that was not filled and may be opened, and a stored record of a
position that is held keeps its final fields. -/
def WritesOnce : TrackerOp → Prop
  | .call (.confirmFill id price _ _) => ∀ r, t.getPosition id = some r →
      price = 0 ∨ r.wasFilled = false ∧ .openConfirmed ∈ allowedTransitions r.state
  | .restorePosition r => ∀ r₀, t.getPosition r.positionId = some r₀ → r₀.Keeps r
  | _ => True

/-- **The defect.** A fill at a price other than 0 writes the entry fields of any position that is there, in whatever
state it is and whether or not the call returns. -/
theorem confirmFill_overwrites {t : PositionTracker} {id : PositionId} {r : PositionRecord} {price : ℚ}
    (rate : Option ℚ) (now : Time) (hr : t.getPosition id = some r) (hp : price ≠ 0) :
    ∃ r', (t.confirmFill id price rate now).state.getPosition id = some r' ∧
      r'.fillFields = (t.filled r price rate now).fillFields ∧ r'.openedAt = some now := by
  have hkey : r.positionId = id := Lib.Table.key_of_get? hr
  obtain ⟨e, -, hzero⟩ | ⟨r', hr', -, ⟨-, e, heq⟩ | ⟨-, heq⟩⟩ := confirmFill_outcome t id price rate now
  · exact absurd (hzero r hr) hp
  · obtain rfl := Option.some.inj (hr.symm.trans hr')
    refine ⟨t.filled r price rate now, ?_, rfl, rfl⟩
    rw [heq]
    subst hkey
    exact Lib.Table.get?_put_self _ _
  · obtain rfl := Option.some.inj (hr.symm.trans hr')
    refine ⟨(t.filled r price rate now).inState .openConfirmed, ?_, rfl, rfl⟩
    rw [heq, Call.state_returns, getPosition, positions_persist]
    subst hkey
    exact Lib.Table.get?_put_self _ _

end PositionTracker

/-- The value noted for an id stays; the first one is `a`. -/
def noteFirst {α : Type} (f : PositionId → Option α) (id : PositionId) (a : α) : PositionId → Option α :=
  Function.update f id (some ((f id).getD a))

theorem noteFirst_cases {α : Type} {f : PositionId → Option α} {id k : PositionId} {a b : α}
    (h : noteFirst f id a k = some b) : f k = some b ∨ k = id ∧ b = a := by
  rw [noteFirst, Function.update_apply] at h
  split_ifs at h with hk
  · subst hk
    cases hf : f k with
    | none =>
      rw [hf] at h
      exact .inr ⟨rfl, (Option.some.inj h).symm⟩
    | some c =>
      rw [hf] at h
      exact .inl h
  · exact .inl h

/-- A tracker, with the fields that the first fill and the first close of each position wrote. -/
structure Sealing where
  tracker : PositionTracker := {}
  firstFill : PositionId → Option FillFields := fun _ => none
  firstClose : PositionId → Option CloseFields := fun _ => none

namespace Sealing

variable (s : Sealing)

/-- The entry fields of a position are noted. -/
def noteFill (r : PositionRecord) : Sealing :=
  { s with firstFill := noteFirst s.firstFill r.positionId r.fillFields }

/-- The exit fields of a position are noted. -/
def noteClose (r : PositionRecord) : Sealing :=
  { s with firstClose := noteFirst s.firstClose r.positionId r.closeFields }

/-- The tracker after a call, with nothing noted. -/
def goTo (t : PositionTracker) : Sealing := { s with tracker := t }

/-- A fill is noted if its call returned. -/
def fillNoted (c : Call PositionTracker PositionRecord) : Sealing :=
  match c.result with
  | .ok r => (s.goTo c.state).noteFill r
  | .error _ => s.goTo c.state

/-- A close is noted if its call returned. -/
def closeNoted (c : Call PositionTracker PositionRecord) : Sealing :=
  match c.result with
  | .ok r => (s.goTo c.state).noteClose r
  | .error _ => s.goTo c.state

/-- A stored record tells of its fill and of its close. -/
def noteStored (r : PositionRecord) : Sealing :=
  let s := if r.wasFilled then s.noteFill r else s
  if r.isClosed then s.noteClose r else s

/-- The state after a call; a reset forgets what was written. -/
def after : TrackerOp → Sealing
  | .call (.confirmFill id price rate now) => s.fillNoted (s.tracker.confirmFill id price rate now)
  | .call (.confirmClose id price rate now) => s.closeNoted (s.tracker.confirmClose id price rate now)
  | .call c => s.goTo (s.tracker.after c)
  | .restorePosition r => (s.goTo (s.tracker.restorePosition r)).noteStored r
  | .reset => { tracker := s.tracker.reset }

/-- A call as a step; `create_pending` makes a record of its own under a new id. -/
def Step (s : Sealing) (l : TrackerOp) (s' : Sealing) : Prop :=
  (match l with | .call c => s.tracker.MakesNew c | _ => True) ∧ s' = s.after l

/-- **What was written first is what the records hold.** -/
structure Final (s : Sealing) : Prop where
  entry : ∀ id e, s.firstFill id = some e → ∃ r, s.tracker.getPosition id = some r ∧ r.fillFields = e
  exit : ∀ id x, s.firstClose id = some x → ∃ r, s.tracker.getPosition id = some r ∧ r.closeFields = x

/-- The records are final, and those of closed positions are of closed positions. -/
structure Sealed (s : Sealing) : Prop where
  entry : ∀ id e, s.firstFill id = some e →
    ∃ r, s.tracker.getPosition id = some r ∧ r.wasFilled = true ∧ r.fillFields = e
  exit : ∀ id x, s.firstClose id = some x →
    ∃ r, s.tracker.getPosition id = some r ∧ r.isClosed = true ∧ r.closeFields = x

variable {s}

@[simp] theorem fillNoted_returns (t : PositionTracker) (r : PositionRecord) :
    s.fillNoted (.returns t r) = (s.goTo t).noteFill r := rfl

@[simp] theorem fillNoted_raises (t : PositionTracker) (e : PyError) : s.fillNoted (.raises t e) = s.goTo t := rfl

@[simp] theorem closeNoted_returns (t : PositionTracker) (r : PositionRecord) :
    s.closeNoted (.returns t r) = (s.goTo t).noteClose r := rfl

@[simp] theorem closeNoted_raises (t : PositionTracker) (e : PyError) : s.closeNoted (.raises t e) = s.goTo t := rfl

theorem Sealed.final (h : Sealed s) : Final s where
  entry id e he := by
    obtain ⟨r, hr, -, heq⟩ := h.entry id e he
    exact ⟨r, hr, heq⟩
  exit id x hx := by
    obtain ⟨r, hr, -, heq⟩ := h.exit id x hx
    exact ⟨r, hr, heq⟩

/-! ### One record is exchanged -/

theorem wasFilled_of_fillFields {r r' : PositionRecord} (h : r'.fillFields = r.fillFields) :
    r'.wasFilled = r.wasFilled := by
  show r'.fillFields.openedAt.isSome = r.fillFields.openedAt.isSome
  rw [h]

theorem Sealed.same {t : PositionTracker} (h : Sealed s) (hpos : t.positions = s.tracker.positions) :
    Sealed (s.goTo t) where
  entry id e he := by
    show ∃ r, t.positions.get? id = some r ∧ _
    rw [hpos]
    exact h.entry id e he
  exit id x hx := by
    show ∃ r, t.positions.get? id = some r ∧ _
    rw [hpos]
    exact h.exit id x hx

/-- A record is exchanged for one that keeps its final fields, or a new one is added. -/
theorem Sealed.put {t : PositionTracker} {r' : PositionRecord} (h : Sealed s)
    (hpos : t.positions = s.tracker.positions.put r')
    (hkeeps : ∀ r, s.tracker.getPosition r'.positionId = some r → r.Keeps r') : Sealed (s.goTo t) where
  entry id e he := by
    obtain ⟨r, hr, hfilled, heq⟩ := h.entry id e he
    show ∃ u, t.positions.get? id = some u ∧ _
    rw [hpos, Lib.Table.get?_put]
    split_ifs with hid
    · have hkept := (hkeeps r (hid ▸ hr)).entry hfilled
      exact ⟨r', rfl, (wasFilled_of_fillFields hkept).trans hfilled, hkept.trans heq⟩
    · exact ⟨r, hr, hfilled, heq⟩
  exit id x hx := by
    obtain ⟨r, hr, hclosed, heq⟩ := h.exit id x hx
    show ∃ u, t.positions.get? id = some u ∧ _
    rw [hpos, Lib.Table.get?_put]
    split_ifs with hid
    · obtain ⟨hclosed', hkept⟩ := (hkeeps r (hid ▸ hr)).exit hclosed
      exact ⟨r', rfl, hclosed', hkept.trans heq⟩
    · exact ⟨r, hr, hclosed, heq⟩

/-- The entry fields of a filled position may be noted. -/
theorem Sealed.noteFill {r : PositionRecord} (h : Sealed s) (hr : s.tracker.getPosition r.positionId = some r)
    (hfilled : r.wasFilled = true) : Sealed (s.noteFill r) where
  entry id e he := by
    obtain hold | ⟨rfl, rfl⟩ := noteFirst_cases he
    · exact h.entry id e hold
    · exact ⟨r, hr, hfilled, rfl⟩
  exit := h.exit

/-- The exit fields of a closed position may be noted. -/
theorem Sealed.noteClose {r : PositionRecord} (h : Sealed s) (hr : s.tracker.getPosition r.positionId = some r)
    (hclosed : r.isClosed = true) : Sealed (s.noteClose r) where
  entry := h.entry
  exit id x hx := by
    obtain hold | ⟨rfl, rfl⟩ := noteFirst_cases hx
    · exact h.exit id x hold
    · exact ⟨r, hr, hclosed, rfl⟩

/-! ### One call -/

theorem keeps_of_live {r r' : PositionRecord} (hlive : r.state ≠ .closed) (h : r'.fillFields = r.fillFields) :
    r.Keeps r' where
  entry _ := h
  exit hclosed := absurd (PositionRecord.isClosed_iff.mp hclosed) hlive

/-- The record of the position `id` is exchanged for one that keeps its final fields. -/
theorem Sealed.put_found {t : PositionTracker} {id : PositionId} {r : PositionRecord} (h : Sealed s)
    (r' : PositionRecord) (hr : s.tracker.positions.get? id = some r) (hid : r'.positionId = r.positionId)
    (hpos : t.positions = s.tracker.positions.put r') (hkeeps : r.Keeps r') : Sealed (s.goTo t) := by
  refine h.put hpos fun u hu => ?_
  have hkey : r.positionId = id := Lib.Table.key_of_get? hr
  rw [hid, hkey] at hu
  obtain rfl := Option.some.inj (hr.symm.trans hu)
  exact hkeeps

/-- The same for a record that is filled, with its entry fields noted. -/
theorem Sealed.put_filled {t : PositionTracker} {id : PositionId} {r : PositionRecord} (h : Sealed s)
    (r' : PositionRecord) (hr : s.tracker.positions.get? id = some r) (hid : r'.positionId = r.positionId)
    (hpos : t.positions = s.tracker.positions.put r') (hkeeps : r.Keeps r') (hfilled : r'.wasFilled = true) :
    Sealed ((s.goTo t).noteFill r') := by
  refine (h.put_found r' hr hid hpos hkeeps).noteFill ?_ hfilled
  show t.positions.get? r'.positionId = some r'
  rw [hpos]
  exact Lib.Table.get?_put_self _ _

/-- The same for a record that is closed, with its exit fields noted. -/
theorem Sealed.put_closed {t : PositionTracker} {id : PositionId} {r : PositionRecord} (h : Sealed s)
    (r' : PositionRecord) (hr : s.tracker.positions.get? id = some r) (hid : r'.positionId = r.positionId)
    (hpos : t.positions = s.tracker.positions.put r') (hkeeps : r.Keeps r') (hclosed : r'.isClosed = true) :
    Sealed ((s.goTo t).noteClose r') := by
  refine (h.put_found r' hr hid hpos hkeeps).noteClose ?_ hclosed
  show t.positions.get? r'.positionId = some r'
  rw [hpos]
  exact Lib.Table.get?_put_self _ _

theorem confirmFill_sealed (id : PositionId) (price : ℚ) (rate : Option ℚ) (now : Time) (h : Sealed s)
    (hC : s.tracker.WritesOnce (.call (.confirmFill id price rate now))) :
    Sealed (s.after (.call (.confirmFill id price rate now))) := by
  show Sealed (s.fillNoted (s.tracker.confirmFill id price rate now))
  obtain ⟨e, heq, -⟩ | ⟨r, hr, hp, ⟨ha, e, -⟩ | ⟨ha, heq⟩⟩ :=
    PositionTracker.confirmFill_outcome s.tracker id price rate now
  · rw [heq, fillNoted_raises]
    exact h
  · exact absurd ((hC r hr).resolve_left hp).2 ha
  · obtain ⟨hunfilled, -⟩ := (hC r hr).resolve_left hp
    have hlive : r.state ≠ .closed := ne_closed_of_allowed ha
    have hkeeps : r.Keeps ((s.tracker.filled r price rate now).inState .openConfirmed) := by
      refine ⟨fun hfilled => ?_, fun hclosed => absurd (PositionRecord.isClosed_iff.mp hclosed) hlive⟩
      rw [hunfilled] at hfilled
      cases hfilled
    rw [heq, fillNoted_returns]
    refine h.put_filled ((s.tracker.filled r price rate now).inState .openConfirmed) hr rfl ?_ hkeeps rfl
    rw [PositionTracker.positions_persist]
    rfl

theorem confirmClose_sealed (id : PositionId) (price : ℚ) (rate : Option ℚ) (now : Time) (h : Sealed s) :
    Sealed (s.after (.call (.confirmClose id price rate now))) := by
  show Sealed (s.closeNoted (s.tracker.confirmClose id price rate now))
  obtain ⟨-, e, heq⟩ | ⟨r, hr, ⟨-, e, heq⟩ | ⟨hc, heq⟩⟩ :=
    PositionTracker.confirmClose_outcome s.tracker id price rate now
  · rw [heq, closeNoted_raises]
    exact h
  · rw [heq, closeNoted_raises]
    exact h.put_found r hr rfl rfl ⟨fun _ => rfl, fun hclosed => ⟨hclosed, rfl⟩⟩
  · have hlive : r.state ≠ .closed := fun hs => by simp [hs, PositionTracker.closable, allowedTransitions] at hc
    rw [heq, closeNoted_returns]
    refine h.put_closed (PositionTracker.sold r price (s.tracker.rateOr rate) now) hr rfl ?_
      (keeps_of_live hlive rfl) rfl
    rw [PositionTracker.positions_persist]
    rfl

theorem rejectFill_sealed (id : PositionId) (now : Time) (h : Sealed s) :
    Sealed (s.after (.call (.rejectFill id now))) := by
  show Sealed (s.goTo (s.tracker.rejectFill id now).state)
  obtain ⟨-, e, heq⟩ | ⟨r, hr, ⟨-, e, heq⟩ | ⟨ha, heq⟩⟩ :=
    PositionTracker.rejectFill_outcome s.tracker id now
  · rw [heq]
    exact h
  · rw [heq]
    exact h.same (PositionTracker.positions_takeBack _)
  · have hlive : r.state ≠ .closed := ne_closed_of_allowed ha
    rw [heq]
    refine h.put_found (PositionTracker.rejected r now) hr rfl ?_ (keeps_of_live hlive rfl)
    rw [Call.state_returns, PositionTracker.positions_write, PositionTracker.positions_takeBack]

theorem requestClose_sealed (id : PositionId) (reason : CloseReason) (triggers : List ForceSellTrigger)
    (price : ℚ) (now : Time) (h : Sealed s) :
    Sealed (s.after (.call (.requestClose id reason triggers price now))) := by
  show Sealed (s.goTo (s.tracker.requestClose id reason triggers price now).state)
  obtain ⟨e, heq⟩ | ⟨r, hr, ha, heq⟩ :=
    PositionTracker.requestClose_outcome s.tracker id reason triggers price now
  · rw [heq]
    exact h
  · have hlive : r.state ≠ .closed := ne_closed_of_allowed ha
    rw [heq]
    refine h.put_found ((r.inState .closingRequested).withCloseRequest reason triggers price now) hr rfl ?_
      (keeps_of_live hlive rfl)
    rw [Call.state_returns, PositionTracker.positions_persist, PositionTracker.positions_write]

theorem Sealed.noteStored {r : PositionRecord} (h : Sealed s)
    (hr : s.tracker.getPosition r.positionId = some r) : Sealed (s.noteStored r) := by
  have hnoted : Sealed (if r.wasFilled then s.noteFill r else s) := by
    split_ifs with hfilled
    · exact h.noteFill hr hfilled
    · exact h
  have hsame : (if r.wasFilled then s.noteFill r else s).tracker = s.tracker := by
    split_ifs <;> rfl
  unfold Sealing.noteStored
  dsimp only
  by_cases hclosed : r.isClosed = true
  · rw [if_pos hclosed]
    exact hnoted.noteClose (hsame ▸ hr) hclosed
  · rw [if_neg hclosed]
    exact hnoted

theorem start_sealed (t : PositionTracker) : Sealed { tracker := t } where
  entry _ _ he := by cases he
  exit _ _ hx := by cases hx

@[simp] theorem tracker_fillNoted (c : Call PositionTracker PositionRecord) : (s.fillNoted c).tracker = c.state := by
  unfold fillNoted
  cases c.result <;> rfl

@[simp] theorem tracker_closeNoted (c : Call PositionTracker PositionRecord) :
    (s.closeNoted c).tracker = c.state := by
  unfold closeNoted
  cases c.result <;> rfl

/-- What is noted beside a call changes nothing about the tracker. -/
theorem tracker_after (c : TrackerCall) : (s.after (.call c)).tracker = s.tracker.after c := by
  cases c with
  | confirmFill id price rate now => exact tracker_fillNoted _
  | confirmClose id price rate now => exact tracker_closeNoted _
  | createPending r => rfl
  | rejectFill id now => rfl
  | requestClose id reason triggers price now => rfl

/-- **One call** that writes once leaves what was written first. -/
theorem Sealed.step {l : TrackerOp} {s' : Sealing} (h : Sealed s) (hC : s.tracker.WritesOnce l)
    (hs : Step s l s') : Sealed s' := by
  obtain ⟨hnew, rfl⟩ := hs
  cases l with
  | call c =>
    cases c with
    | createPending r =>
      refine h.put (PositionTracker.positions_createPending r) fun u hu => ?_
      have hnone := hnew.1
      rw [PositionTracker.getPosition, hnone] at hu
      cases hu
    | confirmFill id price rate now => exact confirmFill_sealed id price rate now h hC
    | rejectFill id now => exact rejectFill_sealed id now h
    | requestClose id reason triggers price now => exact requestClose_sealed id reason triggers price now h
    | confirmClose id price rate now => exact confirmClose_sealed id price rate now h
  | restorePosition r =>
    have hloaded : Sealed (s.goTo (s.tracker.restorePosition r)) := h.put rfl hC
    exact hloaded.noteStored (Lib.Table.get?_put_self _ _)
  | reset => exact start_sealed _

/-- A record that is written back as it was changes nothing. -/
theorem getPosition_write_self {t : PositionTracker} {k : PositionId} {r : PositionRecord}
    (hr : t.positions.get? k = some r) (id : PositionId) : (t.write r).getPosition id = t.getPosition id := by
  have hkey : r.positionId = k := Lib.Table.key_of_get? hr
  rw [PositionTracker.getPosition, PositionTracker.positions_write, Lib.Table.get?_put, hkey]
  split_ifs with hid
  · rw [← hid, PositionTracker.getPosition, hr]
  · rfl

/-- A call that raises leaves every record as it was, if it does not fill a position that may not be opened. -/
theorem raises_same {c : TrackerCall} {e : PyError} (hC : s.tracker.WritesOnce (.call c))
    (he : s.tracker.answer c = .error e) (id : PositionId) :
    (s.tracker.after c).getPosition id = s.tracker.getPosition id := by
  cases c with
  | createPending r => cases he
  | confirmFill k price rate now =>
    show (s.tracker.confirmFill k price rate now).state.getPosition id = _
    change (s.tracker.confirmFill k price rate now).result = _ at he
    obtain ⟨e, heq, -⟩ | ⟨r, hr, hp, ⟨ha, e, -⟩ | ⟨-, heq⟩⟩ :=
      PositionTracker.confirmFill_outcome s.tracker k price rate now
    · rw [heq, Call.state_raises]
    · exact absurd ((hC r hr).resolve_left hp).2 ha
    · rw [heq] at he
      cases he
  | rejectFill k now =>
    show (s.tracker.rejectFill k now).state.getPosition id = _
    change (s.tracker.rejectFill k now).result = _ at he
    obtain ⟨-, e, heq⟩ | ⟨r, hr, ⟨-, e, heq⟩ | ⟨-, heq⟩⟩ :=
      PositionTracker.rejectFill_outcome s.tracker k now
    · rw [heq, Call.state_raises]
    · rw [heq, Call.state_raises, PositionTracker.getPosition, PositionTracker.positions_takeBack]
      rfl
    · rw [heq] at he
      cases he
  | requestClose k reason triggers price now =>
    show (s.tracker.requestClose k reason triggers price now).state.getPosition id = _
    change (s.tracker.requestClose k reason triggers price now).result = _ at he
    obtain ⟨e, heq⟩ | ⟨r, hr, ha, heq⟩ :=
      PositionTracker.requestClose_outcome s.tracker k reason triggers price now
    · rw [heq, Call.state_raises]
    · rw [heq] at he
      cases he
  | confirmClose k price rate now =>
    show (s.tracker.confirmClose k price rate now).state.getPosition id = _
    change (s.tracker.confirmClose k price rate now).result = _ at he
    obtain ⟨-, e, heq⟩ | ⟨r, hr, ⟨-, e, heq⟩ | ⟨-, heq⟩⟩ :=
      PositionTracker.confirmClose_outcome s.tracker k price rate now
    · rw [heq, Call.state_raises]
    · rw [heq, Call.state_raises, getPosition_write_self hr]
    · rw [heq] at he
      cases he

/-- A step leaves what was written first in the records, and if it raises, all records. -/
structure WellBehaved (x : Lib.Taken Sealing TrackerOp) : Prop where
  final : Final x.post
  raising : ∀ c e, x.label = .call c → x.pre.tracker.answer c = .error e →
    ∀ id, x.post.tracker.getPosition id = x.pre.tracker.getPosition id

/-- **Final fields.** In a run whose fills are each of a position that was not filled before, what was written
first stays in the records, and a call that raises leaves them all as they were. -/
theorem fields_final {t : PositionTracker} {tr : List (Lib.Taken Sealing TrackerOp)} {s' : Sealing}
    (hrun : Lib.Run Step { tracker := t } tr s') (hC : ∀ x ∈ tr, x.pre.tracker.WritesOnce x.label) :
    ∀ x ∈ tr, WellBehaved x := by
  have hsealed : ∀ x ∈ tr, Sealed x.pre ∧ Sealed x.post :=
    (hrun.invariant_under (I := Sealed) (C := fun s l => s.tracker.WritesOnce l)
      (fun _ _ _ hs hc hst => hs.step hc hst) (start_sealed t) hC).2
  intro x hx
  have hstep := hrun.step_of_mem hx
  refine ⟨(hsealed x hx).2.final, fun c e hl he id => ?_⟩
  have hC' := hC x hx
  rw [hl] at hC' hstep
  rw [hstep.2, tracker_after]
  exact raises_same hC' he id

/-- An order of an event is created. -/
def ordered : Sealing := Sealing.after {} (.call (.createPending PositionTracker.firstOrder))

theorem ordered_step : Step { tracker := {} } (.call (.createPending PositionTracker.firstOrder)) ordered :=
  ⟨⟨rfl, rfl, rfl⟩, rfl⟩

/-- It is filled. -/
def boughtOnce : Sealing := ordered.after (.call (.confirmFill 0 (1 / 2) none 1))

theorem boughtOnce_step : Step ordered (.call (.confirmFill 0 (1 / 2) none 1)) boughtOnce := ⟨trivial, rfl⟩

theorem fields_final_bought :
    WellBehaved ⟨{ tracker := {} }, .call (.createPending PositionTracker.firstOrder), ordered⟩ ∧
      WellBehaved ⟨ordered, .call (.confirmFill 0 (1 / 2) none 1), boughtOnce⟩ := by
  have hall := fields_final ((Lib.Run.single ordered_step).snoc boughtOnce_step) fun x hx => by
    rcases List.mem_cons.mp hx with rfl | hx
    · trivial
    · obtain rfl := List.mem_singleton.mp hx
      intro r hr
      obtain rfl : PositionTracker.firstOrder = r := Option.some.inj hr
      exact .inr ⟨rfl, by decide⟩
  exact ⟨hall _ (by simp), hall _ (by simp)⟩

/-- A filled position is filled again at another price: the call raises, and the record has the new price. -/
theorem refill_overwrites :
    ∃ (tr : List (Lib.Taken Sealing TrackerOp)) (s' : Sealing), Lib.Run Step { tracker := {} } tr s' ∧
      (boughtOnce.tracker.confirmFill 0 (1 / 4) none 2).result.isOk = false ∧
      tr.getLast?.map Lib.Taken.label = some (.call (.confirmFill 0 (1 / 4) none 2)) ∧
      (s'.firstFill 0).map FillFields.fillPrice = some (1 / 2) ∧
      (s'.tracker.getPosition 0).map PositionRecord.fillPrice = some (1 / 4) := by
  have hrun : Lib.Run Step { tracker := {} } _ _ := ((Lib.Run.single ordered_step).snoc boughtOnce_step).snoc
    (show Step _ (.call (.confirmFill 0 (1 / 4) none 2)) _ from ⟨trivial, rfl⟩)
  refine ⟨_, _, hrun, ?_, rfl, ?_, ?_⟩
  all_goals decide +kernel

end Sealing

end Polyfast
