import Mathlib.Logic.Relation
import Polyfast.Execution.PositionTracker

/-!
# What happens to the tracker

Whatever the program does to positions and fill counts is a sequence of moves: a pending position is
created, filled or rejected, and a filled one goes through its exit states. Invariants of the tracker
are proved once, for a move.

* `Creates`, `QuietMove`, `ExitMove` and their runs `QuietMoves`, `ExitMoves`;
* `Coherent`: pending positions are not filled, exposed ones are;
* `CountsMatch`: the fill count of an event is the number of its positions that were not rejected;
* `notClosed_quiet_le`: only a creation adds a position that is not closed.
-/

namespace Polyfast

namespace PositionRecord

variable (p : PositionRecord)

/-- The fill arrived at some time. -/
def wasFilled : Bool := p.openedAt.isSome

/-- Closed without ever being filled. -/
def isRejected : Bool := p.isClosed && !p.wasFilled

/-- Filled and not closed: `OPEN_CONFIRMED`, `CLOSING_REQUESTED`, `CLOSE_PENDING`, `CLOSE_FAILED`. -/
def holdsExposure : Bool := p.state ≠ .pendingOpen && p.state ≠ .closed

theorem holdsExposure_iff {p : PositionRecord} :
    p.holdsExposure = true ↔ p.state ≠ .pendingOpen ∧ p.state ≠ .closed := by
  simp [holdsExposure]

@[simp] theorem state_inState (target : PositionState) : (p.inState target).state = target := rfl

@[simp] theorem openedAt_inState (target : PositionState) :
    (p.inState target).openedAt = p.openedAt := rfl

@[simp] theorem positionId_inState (target : PositionState) :
    (p.inState target).positionId = p.positionId := rfl

@[simp] theorem conditionId_inState (target : PositionState) :
    (p.inState target).conditionId = p.conditionId := rfl

end PositionRecord

/-- A pending position is created and counted. -/
structure Creates (t t' : PositionTracker) (r : PositionRecord) : Prop where
  new : t.positions.get? r.positionId = none
  pending : r.state = .pendingOpen
  unfilled : r.openedAt = none
  positions : t'.positions = t.positions.put r
  fills : ∀ c, t'.getEventFillCount c = t.getEventFillCount c + if r.conditionId = c then 1 else 0

/-- A filled position `r` goes on to `r'` on its way out, or nothing happens. -/
inductive ExitMove (t t' : PositionTracker) : Prop
  | exit (r r' : PositionRecord) (hold : t.positions.get? r'.positionId = some r)
      (hexposed : r.holdsExposure = true) (hcond : r'.conditionId = r.conditionId)
      (hstate' : r'.state ≠ .pendingOpen) (hopened' : r'.openedAt = r.openedAt)
      (hpos : t'.positions = t.positions.put r') (hfills : t'.eventFills = t.eventFills)
  | same (hpos : t'.positions = t.positions) (hfills : t'.eventFills = t.eventFills)

/-- One thing that happens to existing positions: `r` becomes `r'`. -/
inductive QuietMove (t t' : PositionTracker) : Prop
  | fill (r r' : PositionRecord) (hold : t.positions.get? r'.positionId = some r)
      (hstate : r.state = .pendingOpen) (hcond : r'.conditionId = r.conditionId)
      (hstate' : r'.state = .openConfirmed) (hopened' : r'.openedAt.isSome = true)
      (hpos : t'.positions = t.positions.put r') (hfills : t'.eventFills = t.eventFills)
  | reject (r r' : PositionRecord) (hold : t.positions.get? r'.positionId = some r)
      (hstate : r.state = .pendingOpen) (hcond : r'.conditionId = r.conditionId)
      (hstate' : r'.state = .closed) (hopened' : r'.openedAt = r.openedAt)
      (hpos : t'.positions = t.positions.put r')
      (hfills : ∀ c, t'.getEventFillCount c =
        t.getEventFillCount c - if r.conditionId = c then 1 else 0)
  | exit (h : ExitMove t t')

/-- Exit moves, one after the other. -/
abbrev ExitMoves := Relation.ReflTransGen ExitMove

/-- Moves of existing positions, one after the other. -/
abbrev QuietMoves := Relation.ReflTransGen QuietMove

namespace PositionTracker

/-- Pending positions are not filled, exposed ones are. -/
def Coherent (t : PositionTracker) : Prop :=
  ∀ k r, t.positions.get? k = some r →
    (r.state = .pendingOpen → r.openedAt = none) ∧ (r.holdsExposure = true → r.openedAt.isSome = true)

/-- The positions of an event that were not rejected. -/
def notRejected (t : PositionTracker) (c : ConditionId) : ℕ :=
  t.positions.count (fun r => r.conditionId = c && !r.isRejected)

/-- The fill counts are the numbers of positions that were not rejected. -/
def CountsMatch (t : PositionTracker) : Prop := ∀ c, t.getEventFillCount c = t.notRejected c

/-- The positions that are not closed, pending ones included. -/
def notClosed (t : PositionTracker) : ℕ := t.positions.count (fun r => r.state ≠ .closed)

/-- The positions that hold exposure. -/
def exposure (t : PositionTracker) : ℕ := t.positions.count PositionRecord.holdsExposure

variable {t t' : PositionTracker}

theorem getEventFillCount_congr (h : t'.eventFills = t.eventFills) (c : ConditionId) :
    t'.getEventFillCount c = t.getEventFillCount c := by
  simp only [getEventFillCount, h]

theorem exposure_le_notClosed : t.exposure ≤ t.notClosed := by
  refine List.countP_mono_left fun r _ hr => ?_
  rw [PositionRecord.holdsExposure_iff] at hr
  simpa using hr.2

/-! ### Coherence -/

theorem Coherent.put {r' : PositionRecord} (h : t.Coherent)
    (hpos : t'.positions = t.positions.put r')
    (hp : r'.state = .pendingOpen → r'.openedAt = none)
    (he : r'.holdsExposure = true → r'.openedAt.isSome = true) : t'.Coherent := by
  intro k r hk
  rw [hpos, Lib.Table.get?_put] at hk
  split_ifs at hk with hkey
  · obtain rfl := Option.some.inj hk
    exact ⟨hp, he⟩
  · exact h k r hk

theorem Coherent.create {r : PositionRecord} (h : t.Coherent) (hc : Creates t t' r) :
    t'.Coherent := by
  refine h.put hc.positions (fun _ => hc.unfilled) fun he => ?_
  exact absurd hc.pending (PositionRecord.holdsExposure_iff.mp he).1

theorem Coherent.quiet (h : t.Coherent) (hq : QuietMove t t') : t'.Coherent := by
  cases hq with
  | fill r r' _ _ _ hstate' hopened' hpos _ =>
    refine h.put hpos (fun hp => ?_) fun _ => hopened'
    rw [hstate'] at hp
    cases hp
  | reject r r' _ _ _ hstate' _ hpos _ =>
    refine h.put hpos (fun hp => ?_) fun he => ?_
    · rw [hstate'] at hp
      cases hp
    · exact absurd hstate' (PositionRecord.holdsExposure_iff.mp he).2
  | exit he =>
    cases he with
    | exit r r' hold hexposed _ hstate' hopened' hpos _ =>
      refine h.put hpos (fun hp => absurd hp hstate') fun _ => ?_
      rw [hopened']
      exact (h _ r hold).2 hexposed
    | same hpos _ =>
      intro k r hk
      rw [hpos] at hk
      exact h k r hk

/-! ### Fill counts -/

theorem CountsMatch.create {r : PositionRecord} (h : t.CountsMatch) (hc : Creates t t' r) :
    t'.CountsMatch := by
  intro c
  have hr : r.isRejected = false := by
    simp [PositionRecord.isRejected, PositionRecord.isClosed, hc.pending]
  rw [hc.fills c, h c, notRejected, notRejected, hc.positions, Lib.Table.count_put_new _ hc.new]
  by_cases hcond : r.conditionId = c <;> simp [hcond, hr]

/-- Replacing a position by one of the same event that is counted alike. -/
theorem notRejected_put {r r' : PositionRecord} (hold : t.positions.get? r'.positionId = some r)
    (hpos : t'.positions = t.positions.put r') (hcond : r'.conditionId = r.conditionId)
    (hrej : r'.isRejected = r.isRejected) (c : ConditionId) :
    t'.notRejected c = t.notRejected c := by
  have hput := Lib.Table.count_put (fun x => x.conditionId = c && !x.isRejected) hold
  rw [← hpos] at hput
  simp only [hcond, hrej] at hput
  exact Nat.add_right_cancel hput

theorem CountsMatch.quiet (hco : t.Coherent) (h : t.CountsMatch) (hq : QuietMove t t') :
    t'.CountsMatch := by
  intro c
  cases hq with
  | fill r r' hold hstate hcond hstate' _ hpos hfills =>
    have hrej : r'.isRejected = r.isRejected := by
      simp [PositionRecord.isRejected, PositionRecord.isClosed, hstate, hstate']
    rw [getEventFillCount_congr hfills, h c, notRejected_put hold hpos hcond hrej]
  | reject r r' hold hstate hcond hstate' hopened' hpos hfills =>
    have hnone := (hco _ r hold).1 hstate
    have hr : r.isRejected = false := by
      simp [PositionRecord.isRejected, PositionRecord.isClosed, hstate]
    have hr' : r'.isRejected = true := by
      simp [PositionRecord.isRejected, PositionRecord.isClosed, PositionRecord.wasFilled, hstate',
        hopened', hnone]
    have hput := Lib.Table.count_put (fun x => x.conditionId = c && !x.isRejected) hold
    rw [hfills c, h c, notRejected, notRejected, hpos]
    by_cases hc : r.conditionId = c
    · simp only [hcond, hc, hr, hr', if_true, decide_true, Bool.not_false, Bool.not_true,
        Bool.and_true, Bool.and_false, Bool.toNat_true, Bool.toNat_false] at hput ⊢
      omega
    · simp only [hcond, hc, if_false, decide_false, Bool.false_and, Bool.toNat_false] at hput ⊢
      omega
  | exit he =>
    cases he with
    | exit r r' hold hexposed hcond hstate' hopened' hpos hfills =>
      have hsome := (hco _ r hold).2 hexposed
      have hrej : r'.isRejected = r.isRejected := by
        simp [PositionRecord.isRejected, PositionRecord.wasFilled, hopened', hsome]
      rw [getEventFillCount_congr hfills, h c, notRejected_put hold hpos hcond hrej]
    | same hpos hfills =>
      rw [getEventFillCount_congr hfills, h c, notRejected, notRejected, hpos]

/-- Only a creation raises a fill count. -/
theorem getEventFillCount_quiet_le (hq : QuietMove t t') (c : ConditionId) :
    t'.getEventFillCount c ≤ t.getEventFillCount c := by
  cases hq with
  | fill r r' _ _ _ _ _ _ hfills => exact (getEventFillCount_congr hfills c).le
  | reject r r' _ _ _ _ _ _ hfills =>
    rw [hfills c]
    exact Nat.sub_le _ _
  | exit he =>
    cases he with
    | exit r r' _ _ _ _ _ _ hfills => exact (getEventFillCount_congr hfills c).le
    | same _ hfills => exact (getEventFillCount_congr hfills c).le

/-! ### Positions that are not closed -/

theorem notClosed_create {r : PositionRecord} (hc : Creates t t' r) :
    t'.notClosed = t.notClosed + 1 := by
  rw [notClosed, notClosed, hc.positions, Lib.Table.count_put_new _ hc.new]
  simp [hc.pending]

theorem notClosed_put_le {r r' : PositionRecord} (hold : t.positions.get? r'.positionId = some r)
    (hpos : t'.positions = t.positions.put r') (hopen : r.state ≠ .closed) :
    t'.notClosed ≤ t.notClosed := by
  have hput := Lib.Table.count_put (fun x => decide (x.state ≠ .closed)) hold
  have hr' : (decide (r'.state ≠ .closed)).toNat ≤ 1 := Bool.toNat_le _
  rw [← hpos] at hput
  simp only [hopen, ne_eq, not_false_eq_true, decide_true, Bool.toNat_true] at hput hr'
  unfold notClosed
  simp only [ne_eq] at hput ⊢
  omega

/-- Only a creation adds a position that is not closed. -/
theorem notClosed_quiet_le (hq : QuietMove t t') : t'.notClosed ≤ t.notClosed := by
  cases hq with
  | fill r r' hold hstate _ _ _ hpos _ => exact notClosed_put_le hold hpos (by simp [hstate])
  | reject r r' hold hstate _ _ _ hpos _ => exact notClosed_put_le hold hpos (by simp [hstate])
  | exit he =>
    cases he with
    | exit r r' hold hexposed _ _ _ hpos _ =>
      exact notClosed_put_le hold hpos (PositionRecord.holdsExposure_iff.mp hexposed).2
    | same hpos _ => rw [notClosed, notClosed, hpos]

/-! ### Runs of moves -/

theorem ExitMoves.quiet (h : ExitMoves t t') : QuietMoves t t' :=
  Relation.ReflTransGen.mono (fun _ _ => QuietMove.exit) t t' h

/-- Exit moves leave pending positions alone. -/
theorem ExitMoves.pending (h : ExitMoves t t') {k : PositionId} {r : PositionRecord}
    (hk : t.positions.get? k = some r) (hr : r.state = .pendingOpen) :
    t'.positions.get? k = some r := by
  induction h with
  | refl => exact hk
  | tail _ hm ih =>
    cases hm with
    | exit u u' hold hexposed _ _ _ hpos _ =>
      rw [hpos, Lib.Table.get?_put_ne, ih]
      rintro rfl
      rw [ih] at hold
      obtain rfl := Option.some.inj hold
      exact (PositionRecord.holdsExposure_iff.mp hexposed).1 hr
    | same hpos _ => rw [hpos, ih]

/-- Moves of existing positions keep the set of ids. -/
theorem quiet_isSome (hq : QuietMove t t') (k : PositionId) :
    (t'.positions.get? k).isSome = (t.positions.get? k).isSome := by
  have hput : ∀ {r r' : PositionRecord}, t.positions.get? r'.positionId = some r →
      t'.positions = t.positions.put r' →
      (t'.positions.get? k).isSome = (t.positions.get? k).isSome := by
    intro r r' hold hpos
    rw [hpos, Lib.Table.get?_put]
    split_ifs with hk
    · rw [← hk, hold, Option.isSome_some, Option.isSome_some]
    · rfl
  cases hq with
  | fill r r' hold _ _ _ _ hpos _ => exact hput hold hpos
  | reject r r' hold _ _ _ _ hpos _ => exact hput hold hpos
  | exit he =>
    cases he with
    | exit r r' hold _ _ _ _ hpos _ => exact hput hold hpos
    | same hpos _ => rw [hpos]

theorem quiets_isSome (hq : QuietMoves t t') (k : PositionId) :
    (t'.positions.get? k).isSome = (t.positions.get? k).isSome := by
  induction hq with
  | refl => rfl
  | tail _ hm ih => rw [quiet_isSome hm, ih]

/-- Moves of existing positions leave them in their events. -/
theorem quiet_conditionId (hq : QuietMove t t') {k : PositionId} {r : PositionRecord}
    (hk : t.positions.get? k = some r) :
    ∃ r', t'.positions.get? k = some r' ∧ r'.conditionId = r.conditionId := by
  have hput : ∀ {u u' : PositionRecord}, t.positions.get? u'.positionId = some u →
      u'.conditionId = u.conditionId → t'.positions = t.positions.put u' →
      ∃ r', t'.positions.get? k = some r' ∧ r'.conditionId = r.conditionId := by
    intro u u' hold hcond hpos
    rw [hpos, Lib.Table.get?_put]
    split_ifs with hkey
    · rw [hkey, hk] at hold
      obtain rfl := Option.some.inj hold
      exact ⟨u', rfl, hcond⟩
    · exact ⟨r, hk, rfl⟩
  cases hq with
  | fill u u' hold _ hcond _ _ hpos _ => exact hput hold hcond hpos
  | reject u u' hold _ hcond _ _ hpos _ => exact hput hold hcond hpos
  | exit he =>
    cases he with
    | exit u u' hold _ hcond _ _ hpos _ => exact hput hold hcond hpos
    | same hpos _ => exact ⟨r, by rw [hpos, hk], rfl⟩

theorem quiets_conditionId (hq : QuietMoves t t') {k : PositionId} {r : PositionRecord}
    (hk : t.positions.get? k = some r) :
    ∃ r', t'.positions.get? k = some r' ∧ r'.conditionId = r.conditionId := by
  induction hq with
  | refl => exact ⟨r, hk, rfl⟩
  | tail _ hm ih =>
    obtain ⟨u, hu, hcu⟩ := ih
    obtain ⟨v, hv, hcv⟩ := quiet_conditionId hm hu
    exact ⟨v, hv, hcv.trans hcu⟩

theorem Coherent.quiets (h : t.Coherent) (hq : QuietMoves t t') : t'.Coherent := by
  induction hq with
  | refl => exact h
  | tail _ hm ih => exact ih.quiet hm

theorem CountsMatch.quiets (hco : t.Coherent) (h : t.CountsMatch) (hq : QuietMoves t t') :
    t'.CountsMatch := by
  induction hq with
  | refl => exact h
  | tail hs hm ih => exact CountsMatch.quiet (hco.quiets hs) ih hm

theorem getEventFillCount_quiets_le (hq : QuietMoves t t') (c : ConditionId) :
    t'.getEventFillCount c ≤ t.getEventFillCount c := by
  induction hq with
  | refl => exact le_rfl
  | tail _ hm ih => exact (getEventFillCount_quiet_le hm c).trans ih

theorem notClosed_quiets_le (hq : QuietMoves t t') : t'.notClosed ≤ t.notClosed := by
  induction hq with
  | refl => exact le_rfl
  | tail _ hm ih => exact (notClosed_quiet_le hm).trans ih

/-! ### The tracker's methods are moves -/

theorem getD_set_eq (d : Lib.Dict ConditionId ℕ) (k c : ConditionId) (n : ℕ) :
    (d.set k n).getD c 0 = if k = c then n else d.getD c 0 := by
  rw [Lib.Dict.getD, Lib.Dict.get?_set, Lib.Dict.getD]
  split_ifs <;> rfl

theorem createPending_creates {r : PositionRecord} (hnew : t.positions.get? r.positionId = none)
    (hpending : r.state = .pendingOpen) (hunfilled : r.openedAt = none) :
    Creates t (t.createPending r) r where
  new := hnew
  pending := hpending
  unfilled := hunfilled
  positions := positions_createPending r
  fills c := by
    rw [getEventFillCount, eventFills_createPending, getD_set_eq]
    split_ifs with h
    · rw [h]
    · rfl

/-- A pending position is filled, or the call raises and nothing happens. -/
theorem confirmFill_quiet {id : PositionId} {r : PositionRecord} {fillPrice feeRate : ℚ} {now : Time}
    (h : t.positions.get? id = some r) (hs : r.state = .pendingOpen) :
    QuietMove t (t.confirmFill id fillPrice (some feeRate) now).state := by
  by_cases hp : fillPrice = 0
  · subst hp
    rw [confirmFill_zero h]
    exact .exit (.same rfl rfl)
  · rw [confirmFill_of_pending h hs hp]
    have hid : r.positionId = id := Lib.Table.key_of_get? h
    refine .fill r ((r.withEntry fillPrice (entryOf r fillPrice feeRate) now).inState
      .openConfirmed) ?_ hs rfl rfl rfl ?_ ?_
    · rw [← hid] at h
      exact h
    · simp
    · simp

theorem rejectFill_quiet {id : PositionId} {r : PositionRecord} {now : Time}
    (h : t.positions.get? id = some r) (hs : r.state = .pendingOpen) :
    QuietMove t (t.rejectFill id now).state := by
  rw [rejectFill_of_pending h hs]
  have hid : r.positionId = id := Lib.Table.key_of_get? h
  refine .reject r (rejected r now) ?_ hs rfl rfl rfl rfl fun c => ?_
  · rw [← hid] at h
    exact h
  · rw [Call.state_returns]
    by_cases hpos : 0 < t.getEventFillCount r.conditionId
    · rw [getEventFillCount, if_pos hpos, getD_set_eq]
      split_ifs with hc
      · rw [hc]
      · rfl
    · rw [getEventFillCount, if_neg hpos]
      split_ifs with hc
      · rw [hc] at hpos
        change t.getEventFillCount c = t.getEventFillCount c - 1
        omega
      · rfl

/-- Whatever state the position is in, a close request is an exit move. -/
theorem requestClose_exit (id : PositionId) (reason : CloseReason)
    (triggers : List ForceSellTrigger) (price : ℚ) (now : Time) :
    ExitMove t (t.requestClose id reason triggers price now).state := by
  obtain heq | ⟨r, hr, hs, heq⟩ := requestClose_cases (t := t) id reason triggers price now
  · rw [heq]
    exact .same rfl rfl
  · rw [heq]
    have hid : r.positionId = id := Lib.Table.key_of_get? hr
    have hexposed : r.holdsExposure = true := by
      rw [PositionRecord.holdsExposure_iff]
      rcases hs with hs | hs <;> simp [hs]
    refine .exit r ((r.inState .closingRequested).withCloseRequest reason triggers price now) ?_
      hexposed rfl (by simp [PositionRecord.withCloseRequest]) rfl ?_ ?_
    · rw [← hid] at hr
      exact hr
    · simp
    · simp

/-- The sale of a position whose order is out is an exit move. -/
theorem confirmClose_exit {id : PositionId} {r : PositionRecord} {price feeRate : ℚ} {now : Time}
    (h : t.positions.get? id = some r) (hs : r.state = .closePending) :
    ExitMove t (t.confirmClose id price (some feeRate) now).state := by
  rw [confirmClose_of_closePending h hs]
  have hid : r.positionId = id := Lib.Table.key_of_get? h
  refine .exit r (sold r price feeRate now) ?_ (by simp [PositionRecord.holdsExposure, hs]) rfl
    (by simp [sold, PositionRecord.withExit]) rfl ?_ ?_
  · rw [← hid] at h
    exact h
  · simp
  · simp

/-! ### Each touches one position -/

theorem get?_write_ne {r : PositionRecord} {k : PositionId} (h : r.positionId ≠ k) :
    (t.write r).positions.get? k = t.positions.get? k := Lib.Table.get?_put_ne _ h

/-- A record written back to where it was found leaves the others. -/
theorem get?_write_found {id k : PositionId} {u : PositionTracker} {r r' : PositionRecord}
    (hr : u.positions.get? id = some r) (hid : r'.positionId = r.positionId) (hk : id ≠ k) :
    (t.write r').positions.get? k = t.positions.get? k := by
  have hfound : r.positionId = id := Lib.Table.key_of_get? hr
  exact get?_write_ne (by rwa [hid, hfound])

theorem confirmFill_get?_ne {id k : PositionId} (hk : id ≠ k) (fillPrice : ℚ) (feeRate : Option ℚ)
    (now : Time) :
    (t.confirmFill id fillPrice feeRate now).state.positions.get? k = t.positions.get? k := by
  obtain ⟨heq, -⟩ | ⟨r, entry, hr, -, ⟨-, heq⟩ | ⟨-, heq⟩⟩ := confirmFill_spec (t := t) id fillPrice feeRate now
  · rw [heq]
  · rw [heq]
    exact get?_write_found hr rfl hk
  · rw [heq, positions_persist]
    exact get?_write_found hr rfl hk

theorem rejectFill_get?_ne {id k : PositionId} (hk : id ≠ k) (now : Time) :
    (t.rejectFill id now).state.positions.get? k = t.positions.get? k := by
  obtain ⟨-, heq⟩ | ⟨r, hr, ⟨-, heq⟩ | ⟨-, heq⟩⟩ := rejectFill_cases (t := t) id now
  · rw [heq]
  · rw [heq, positions_takeBack]
  · have hid : (rejected r now).positionId = r.positionId := rfl
    rw [heq, get?_write_found hr hid hk, positions_takeBack]

theorem requestClose_get?_ne {id k : PositionId} (hk : id ≠ k) (reason : CloseReason)
    (triggers : List ForceSellTrigger) (price : ℚ) (now : Time) :
    (t.requestClose id reason triggers price now).state.positions.get? k = t.positions.get? k := by
  obtain heq | ⟨r, hr, -, heq⟩ := requestClose_cases (t := t) id reason triggers price now
  · rw [heq]
  · rw [heq, positions_persist]
    exact get?_write_found hr rfl hk

/-- A close request leaves a position alone whose sell order is out. -/
theorem requestClose_closePending {k : PositionId} {r : PositionRecord} (id : PositionId)
    (reason : CloseReason) (triggers : List ForceSellTrigger) (price : ℚ) (now : Time)
    (hk : t.positions.get? k = some r) (hr : r.state = .closePending) :
    (t.requestClose id reason triggers price now).state.positions.get? k = some r := by
  by_cases hid : id = k
  · subst hid
    have hstay : (t.requestClose id reason triggers price now).state = t := by
      refine requestClose_of_not_open fun r' hr' => ?_
      rw [hk] at hr'
      obtain rfl := Option.some.inj hr'
      simp [hr, allowedTransitions]
    rw [hstay, hk]
  · rw [requestClose_get?_ne hid, hk]

theorem confirmClose_get?_ne {id k : PositionId} (hk : id ≠ k) (price : ℚ) (feeRate : Option ℚ)
    (now : Time) :
    (t.confirmClose id price feeRate now).state.positions.get? k = t.positions.get? k := by
  obtain ⟨-, heq⟩ | ⟨r, hr, ⟨-, heq⟩ | ⟨data, heq⟩⟩ := confirmClose_cases (t := t) id price feeRate now
  · rw [heq]
  · rw [heq]
    exact get?_write_found hr rfl hk
  · rw [heq, positions_persist]
    exact get?_write_found hr rfl hk

end PositionTracker

end Polyfast
