import Polyfast.Orchestrator.RestartCounters

/-!
# The counters against the history of the positions

Beside the tracker runs a history of its positions: which were created, which were rejected, which were filled, by
the calls that returned. The counters move before the transition they belong to is looked up, so a call that
raises can leave them apart from the history.

* `TrackerOp`: all calls of the tracker, loading stored records and the reset included;
* `Watched`: a tracker with the history of its positions; `Watched.Step`: a call, with what it adds to it;
* `counters_match_iff`: when the counters are the numbers of the history all along a run.
-/

namespace Polyfast

/-- A call of any method of the tracker. -/
inductive TrackerOp
  | call (c : TrackerCall)
  | restorePosition (r : PositionRecord)
  | reset

namespace PositionTracker

variable (t : PositionTracker)

/-- The tracker after any call. -/
def afterOp : TrackerOp → PositionTracker
  | .call c => t.after c
  | .restorePosition r => t.restorePosition r
  | .reset => t.reset

end PositionTracker

/-- What happened to a position. -/
structure Past where
  positionId : PositionId
  conditionId : ConditionId
  rejected : Bool := false
  filled : Bool := false

/-- The history of the positions, each under its id. -/
abbrev PastTable := Lib.Table Past.positionId

namespace Past

/-- The past of a position, as its stored record tells it, after what is known of it already. -/
def ofStored (r : PositionRecord) (known : Option Past) : Past :=
  match known with
  | some u => { u with rejected := u.rejected || r.isRejected, filled := u.filled || r.wasFilled }
  | none => { positionId := r.positionId, conditionId := r.conditionId
              rejected := r.isRejected, filled := r.wasFilled }

def reject (u : Past) : Past := { u with rejected := true }

def fill (u : Past) : Past := { u with filled := true }

end Past

/-- The history with the entry of a position changed. -/
def PastTable.mark (h : PastTable) (id : PositionId) (f : Past → Past) : PastTable :=
  match h.get? id with
  | some u => h.put (f u)
  | none => h

/-- A tracker with the history of its positions. -/
structure Watched where
  tracker : PositionTracker := {}
  past : PastTable := .empty

namespace Watched

variable (s : Watched)

/-- What a call adds to the history: a fill or a rejection counts if the call returned. -/
def record : TrackerOp → PastTable
  | .call (.createPending r) => s.past.put { positionId := r.positionId, conditionId := r.conditionId }
  | .call (.confirmFill id price rate now) =>
    if (s.tracker.confirmFill id price rate now).result.isOk then s.past.mark id Past.fill else s.past
  | .call (.rejectFill id now) =>
    if (s.tracker.rejectFill id now).result.isOk then s.past.mark id Past.reject else s.past
  | .call (.requestClose _ _ _ _ _) | .call (.confirmClose _ _ _ _) => s.past
  | .restorePosition r => s.past.put (Past.ofStored r (s.past.get? r.positionId))
  | .reset => .empty

/-- The state after a call. -/
def after (l : TrackerOp) : Watched := { tracker := s.tracker.afterOp l, past := s.record l }

/-- A call as a step; `create_pending` makes a record of its own under a new id. -/
def Step (s : Watched) (l : TrackerOp) (s' : Watched) : Prop :=
  (match l with | .call c => s.tracker.MakesNew c | _ => True) ∧ s' = s.after l

/-- The positions of an event that were created and not rejected. -/
def kept (c : ConditionId) : ℕ := s.past.count (fun u => u.conditionId = c && !u.rejected)

/-- The positions that were confirmed as filled. -/
def fills : ℕ := s.past.count Past.filled

/-- **The counters are the numbers of the history.** -/
structure Counted (s : Watched) : Prop where
  events : ∀ c, s.tracker.getEventFillCount c = s.kept c
  session : s.tracker.sessionTradeCount = s.fills

/-- The call counts what it does. A rejection is of a position that may be closed, or of one without a counted
fill of its event; a fill is not of a closing position, but at a price of 0; a stored record is of a position not
held, and past `PENDING_OPEN` exactly if it was filled. -/
def CountsTruly (t : PositionTracker) : TrackerOp → Prop
  | .call (.rejectFill id _) => ∀ r, t.positions.get? id = some r →
      .closed ∈ allowedTransitions r.state ∨ t.getEventFillCount r.conditionId = 0
  | .call (.confirmFill id price _ _) => ∀ r, t.positions.get? id = some r →
      r.state = .closingRequested → price = 0
  | .restorePosition r => t.positions.get? r.positionId = none ∧ r.wasFilled = !r.isPending
  | _ => True

/-- The past of a position that is not closed: it was not rejected, and filled exactly if it is not pending. -/
structure Fits (r : PositionRecord) (u : Past) : Prop where
  condition : u.conditionId = r.conditionId
  live : r.state ≠ .closed → u.rejected = false ∧ u.filled = !r.isPending

/-- The history knows exactly the positions of the tracker. -/
structure Linked (s : Watched) : Prop where
  known : ∀ id r, s.tracker.positions.get? id = some r → ∃ u, s.past.get? id = some u ∧ Fits r u
  only : ∀ id, s.tracker.positions.get? id = none → s.past.get? id = none

variable {s}

/-! ### Changing one entry -/

theorem Linked.same {s s' : Watched} (h : Linked s) (hpos : s'.tracker.positions = s.tracker.positions)
    (hpast : s'.past = s.past) : Linked s' where
  known id r hr := by
    rw [hpos] at hr
    rw [hpast]
    exact h.known id r hr
  only id hr := by
    rw [hpos] at hr
    rw [hpast]
    exact h.only id hr

/-- One record of the tracker is exchanged, and the past of its position with it. -/
theorem Linked.put {s s' : Watched} (h : Linked s) (r' : PositionRecord) (u' : Past)
    (hkey : u'.positionId = r'.positionId) (hfits : Fits r' u')
    (hpos : s'.tracker.positions = s.tracker.positions.put r') (hpast : s'.past = s.past.put u') :
    Linked s' where
  known id r hr := by
    rw [hpos, Lib.Table.get?_put] at hr
    rw [hpast, Lib.Table.get?_put, hkey]
    split_ifs at hr ⊢ with hid
    · obtain rfl := Option.some.inj hr
      exact ⟨u', rfl, hfits⟩
    · exact h.known id r hr
  only id hr := by
    rw [hpos, Lib.Table.get?_put] at hr
    rw [hpast, Lib.Table.get?_put, hkey]
    split_ifs at hr ⊢ with hid
    exact h.only id hr

/-- A record is exchanged for one with the same past. -/
theorem Linked.write {s s' : Watched} {u : Past} (h : Linked s) (r' : PositionRecord)
    (hu : s.past.get? r'.positionId = some u) (hfits : Fits r' u)
    (hpos : s'.tracker.positions = s.tracker.positions.put r') (hpast : s'.past = s.past) : Linked s' where
  known id r hr := by
    rw [hpos, Lib.Table.get?_put] at hr
    rw [hpast]
    split_ifs at hr with hid
    · obtain rfl := Option.some.inj hr
      exact ⟨u, hid ▸ hu, hfits⟩
    · exact h.known id r hr
  only id hr := by
    rw [hpos, Lib.Table.get?_put] at hr
    rw [hpast]
    split_ifs at hr with hid
    exact h.only id hr

/-- The counts after an entry is exchanged for one of the same event. -/
theorem kept_put {s s' : Watched} {u : Past} (u' : Past) (hu : s.past.get? u'.positionId = some u)
    (hpast : s'.past = s.past.put u') (hcond : u'.conditionId = u.conditionId) (c : ConditionId) :
    s'.kept c + (decide (u.conditionId = c) && !u.rejected).toNat =
      s.kept c + (decide (u.conditionId = c) && !u'.rejected).toNat := by
  have hput := Lib.Table.count_put (fun x : Past => x.conditionId = c && !x.rejected) hu
  rw [← hpast, hcond] at hput
  exact hput

theorem fills_put {s s' : Watched} {u : Past} (u' : Past) (hu : s.past.get? u'.positionId = some u)
    (hpast : s'.past = s.past.put u') : s'.fills + u.filled.toNat = s.fills + u'.filled.toNat := by
  have hput := Lib.Table.count_put Past.filled hu
  rw [← hpast] at hput
  exact hput

theorem kept_new {s s' : Watched} (u' : Past) (hu : s.past.get? u'.positionId = none)
    (hpast : s'.past = s.past.put u') (c : ConditionId) :
    s'.kept c = s.kept c + (decide (u'.conditionId = c) && !u'.rejected).toNat := by
  have hput := Lib.Table.count_put_new (fun x : Past => x.conditionId = c && !x.rejected) hu
  rw [← hpast] at hput
  exact hput

theorem fills_new {s s' : Watched} (u' : Past) (hu : s.past.get? u'.positionId = none)
    (hpast : s'.past = s.past.put u') : s'.fills = s.fills + u'.filled.toNat := by
  have hput := Lib.Table.count_put_new Past.filled hu
  rw [← hpast] at hput
  exact hput

/-! ### One call -/

/-- Nothing that is counted changes. -/
theorem Counted.same {s s' : Watched} (h : Counted s) (hfills : s'.tracker.eventFills = s.tracker.eventFills)
    (hsession : s'.tracker.sessionTradeCount = s.tracker.sessionTradeCount) (hpast : s'.past = s.past) :
    Counted s' where
  events c := by rw [PositionTracker.getEventFillCount_congr hfills c, h.events c, kept, kept, hpast]
  session := by rw [hsession, h.session, fills, fills, hpast]

theorem createPending_counted {r : PositionRecord} (h : Counted s) (hl : Linked s)
    (hnew : s.tracker.MakesNew (.createPending r)) :
    Counted (s.after (.call (.createPending r))) ∧ Linked (s.after (.call (.createPending r))) := by
  obtain ⟨hnone, hpending, hunfilled⟩ := hnew
  have hcreates := PositionTracker.createPending_creates hnone hpending hunfilled
  have hpast : (s.after (.call (.createPending r))).past =
      s.past.put { positionId := r.positionId, conditionId := r.conditionId } := rfl
  refine ⟨⟨fun c => ?_, ?_⟩, hl.put _ _ rfl ⟨rfl, fun _ => ⟨rfl, ?_⟩⟩ hcreates.positions hpast⟩
  · show (s.tracker.createPending r).getEventFillCount c = _
    rw [hcreates.fills c, kept_new _ (hl.only _ hnone) hpast, h.events c]
    by_cases hc : r.conditionId = c <;> simp [hc]
  · have hsession : (s.tracker.createPending r).sessionTradeCount = s.tracker.sessionTradeCount := by
      simp [PositionTracker.createPending]
    show (s.tracker.createPending r).sessionTradeCount = _
    rw [hsession, fills_new _ (hl.only _ hnone) hpast, h.session]
    rfl
  · rw [PositionRecord.isPending_iff.mpr hpending]
    rfl

theorem after_confirmFill (id : PositionId) (price : ℚ) (rate : Option ℚ) (now : Time) :
    s.after (.call (.confirmFill id price rate now)) =
      { tracker := (s.tracker.confirmFill id price rate now).state
        past := if (s.tracker.confirmFill id price rate now).result.isOk then s.past.mark id Past.fill
          else s.past } := rfl

theorem after_rejectFill (id : PositionId) (now : Time) : s.after (.call (.rejectFill id now)) =
    { tracker := (s.tracker.rejectFill id now).state
      past := if (s.tracker.rejectFill id now).result.isOk then s.past.mark id Past.reject else s.past } := rfl

theorem mark_of_get? {h : PastTable} {id : PositionId} {u : Past} {f : Past → Past} (hu : h.get? id = some u) :
    h.mark id f = h.put (f u) := by
  rw [PastTable.mark, hu]

/-- A fill counts a trade, and in the history only the first of its position. -/
theorem Counted.fill_iff {s s' : Watched} {u : Past} (h : Counted s) (hu : s.past.get? u.positionId = some u)
    (hfills : s'.tracker.eventFills = s.tracker.eventFills)
    (hsession : s'.tracker.sessionTradeCount = s.tracker.sessionTradeCount + 1)
    (hpast : s'.past = s.past.put u.fill) : Counted s' ↔ u.filled = false := by
  have hkept : ∀ c, s'.kept c = s.kept c := fun c =>
    Nat.add_right_cancel (kept_put u.fill hu hpast rfl c)
  have hput : s'.fills + u.filled.toNat = s.fills + 1 := fills_put u.fill hu hpast
  have hold := h.session
  constructor
  · intro h'
    have hnew := h'.session
    rw [← Bool.toNat_eq_zero]
    omega
  · intro hfilled
    rw [hfilled, Bool.toNat_false] at hput
    refine ⟨fun c => ?_, by omega⟩
    rw [PositionTracker.getEventFillCount_congr hfills c, h.events c, hkept c]

/-- A fill is counted truly, unless the position was filled already. -/
theorem confirmFill_counted (id : PositionId) (price : ℚ) (rate : Option ℚ) (now : Time) (h : Counted s)
    (hl : Linked s) :
    (Counted (s.after (.call (.confirmFill id price rate now))) ↔
        CountsTruly s.tracker (.call (.confirmFill id price rate now))) ∧
      Linked (s.after (.call (.confirmFill id price rate now))) := by
  rw [after_confirmFill]
  obtain ⟨e, heq, hzero⟩ | ⟨r, hr, hp, ⟨ha, e, heq⟩ | ⟨ha, heq⟩⟩ :=
    PositionTracker.confirmFill_outcome s.tracker id price rate now
  · rw [heq]
    exact ⟨iff_of_true h fun r hr _ => hzero r hr, hl⟩
  · obtain rfl : r.positionId = id := Lib.Table.key_of_get? hr
    obtain ⟨u, hu, hfits⟩ := hl.known _ r hr
    rw [heq]
    refine ⟨iff_of_true (h.same rfl rfl rfl) fun r' hr' hs => ?_, ?_⟩
    · obtain rfl := Option.some.inj (hr.symm.trans hr')
      simp [hs, allowedTransitions] at ha
    · -- the entry fields are written, the state stays
      exact hl.write (s.tracker.filled r price rate now) hu ⟨hfits.condition, hfits.live⟩ rfl rfl
  · obtain rfl : r.positionId = id := Lib.Table.key_of_get? hr
    obtain ⟨u, hu, hfits⟩ := hl.known _ r hr
    have hukey : u.positionId = r.positionId := Lib.Table.key_of_get? hu
    have hlive : r.state ≠ .closed := ne_closed_of_allowed ha
    obtain ⟨hrej, hfilled⟩ := hfits.live hlive
    rw [heq, mark_of_get? hu]
    rw [← hukey] at hu
    refine ⟨?_, hl.put ((s.tracker.filled r price rate now).inState .openConfirmed) u.fill hukey
      ⟨hfits.condition, fun _ => ⟨hrej, rfl⟩⟩ (by simp [PositionTracker.write]) rfl⟩
    rw [h.fill_iff hu (by simp) (by simp [PositionTracker.write]) rfl, hfilled, Bool.not_eq_false',
      PositionRecord.isPending_iff]
    constructor
    · intro hs r' hr' hs'
      obtain rfl := Option.some.inj (hr.symm.trans hr')
      rw [hs] at hs'
      cases hs'
    · intro hc
      have hne : r.state ≠ .closingRequested := fun hs => hp (hc r hr hs)
      cases hs : r.state <;> simp [hs, allowedTransitions] at ha hne ⊢

/-- Taking a fill back without a rejection shows, unless there is none. -/
theorem Counted.takeBack_iff {s s' : Watched} {e : ConditionId} (h : Counted s)
    (hfills : ∀ c, s'.tracker.getEventFillCount c = s.tracker.getEventFillCount c - (decide (e = c)).toNat)
    (hsession : s'.tracker.sessionTradeCount = s.tracker.sessionTradeCount) (hpast : s'.past = s.past) :
    Counted s' ↔ s.tracker.getEventFillCount e = 0 := by
  have hkept : ∀ c, s'.kept c = s.kept c := fun c => by rw [kept, kept, hpast]
  constructor
  · intro h'
    have hnew := h'.events e
    rw [hfills e, hkept e, ← h.events e, decide_eq_true rfl, Bool.toNat_true] at hnew
    omega
  · intro hzero
    refine ⟨fun c => ?_, by rw [hsession, h.session, fills, fills, hpast]⟩
    rw [hfills c, hkept c, ← h.events c]
    by_cases hc : e = c
    · rw [← hc, hzero, Nat.zero_sub]
    · rw [decide_eq_false hc, Bool.toNat_false, Nat.sub_zero]

/-- A rejection takes back the fill that its position was counted as. -/
theorem Counted.reject {s s' : Watched} {u : Past} (h : Counted s) (hu : s.past.get? u.positionId = some u)
    (hfills : ∀ c, s'.tracker.getEventFillCount c =
      s.tracker.getEventFillCount c - (decide (u.conditionId = c)).toNat)
    (hsession : s'.tracker.sessionTradeCount = s.tracker.sessionTradeCount) (hrej : u.rejected = false)
    (hpast : s'.past = s.past.put u.reject) : Counted s' where
  events c := by
    have hput := kept_put u.reject hu hpast rfl c
    rw [hrej, Past.reject, Bool.not_true, Bool.not_false, Bool.and_true, Bool.and_false, Bool.toNat_false,
      Nat.add_zero] at hput
    rw [hfills c, h.events c, ← hput, Nat.add_sub_cancel]
  session := by
    have hput : s'.fills + u.filled.toNat = s.fills + u.filled.toNat := fills_put u.reject hu hpast
    rw [hsession, h.session, Nat.add_right_cancel hput]

/-- A rejection is counted truly where it is allowed; where it raises, it has lowered the count already. -/
theorem rejectFill_counted (id : PositionId) (now : Time) (h : Counted s) (hl : Linked s) :
    (Counted (s.after (.call (.rejectFill id now))) ↔ CountsTruly s.tracker (.call (.rejectFill id now))) ∧
      Linked (s.after (.call (.rejectFill id now))) := by
  rw [after_rejectFill]
  obtain ⟨hnone, e, heq⟩ | ⟨r, hr, ⟨ha, e, heq⟩ | ⟨ha, heq⟩⟩ :=
    PositionTracker.rejectFill_outcome s.tracker id now
  · rw [heq]
    refine ⟨iff_of_true h fun r hr => ?_, hl⟩
    rw [hnone] at hr
    cases hr
  · -- the call raises with the fill taken back
    rw [heq]
    refine ⟨Iff.trans (h.takeBack_iff (PositionTracker.getEventFillCount_takeBack r.conditionId)
      (PositionTracker.sessionTradeCount_takeBack r.conditionId) rfl) ?_,
      hl.same (PositionTracker.positions_takeBack _) rfl⟩
    constructor
    · intro hzero r' hr'
      obtain rfl := Option.some.inj (hr.symm.trans hr')
      exact .inr hzero
    · intro hc
      exact (hc r hr).resolve_left ha
  · obtain rfl : r.positionId = id := Lib.Table.key_of_get? hr
    obtain ⟨u, hu, hfits⟩ := hl.known _ r hr
    have hukey : u.positionId = r.positionId := Lib.Table.key_of_get? hu
    have hlive : r.state ≠ .closed := ne_closed_of_allowed ha
    rw [heq, mark_of_get? hu]
    rw [← hukey] at hu
    refine ⟨iff_of_true ?_ fun r' hr' => ?_, ?_⟩
    · refine h.reject hu (fun c => ?_) (PositionTracker.sessionTradeCount_takeBack _) (hfits.live hlive).1 rfl
      rw [hfits.condition]
      exact PositionTracker.getEventFillCount_takeBack _ c
    · obtain rfl := Option.some.inj (hr.symm.trans hr')
      exact .inl ha
    · refine hl.put (PositionTracker.rejected r now) u.reject hukey
        ⟨hfits.condition, fun hs => absurd rfl hs⟩ ?_ rfl
      rw [Call.state_returns, PositionTracker.positions_write, PositionTracker.positions_takeBack]

/-- A close counts nothing. -/
theorem requestClose_counted (id : PositionId) (reason : CloseReason) (triggers : List ForceSellTrigger)
    (price : ℚ) (now : Time) (h : Counted s) (hl : Linked s) :
    Counted (s.after (.call (.requestClose id reason triggers price now))) ∧
      Linked (s.after (.call (.requestClose id reason triggers price now))) := by
  have hafter : s.after (.call (.requestClose id reason triggers price now)) =
      ⟨(s.tracker.requestClose id reason triggers price now).state, s.past⟩ := rfl
  rw [hafter]
  obtain ⟨e, heq⟩ | ⟨r, hr, ha, heq⟩ :=
    PositionTracker.requestClose_outcome s.tracker id reason triggers price now
  · rw [heq]
    exact ⟨h, hl⟩
  · obtain rfl : r.positionId = id := Lib.Table.key_of_get? hr
    obtain ⟨u, hu, hfits⟩ := hl.known _ r hr
    have hlive : r.state ≠ .closed := ne_closed_of_allowed ha
    have hpending : r.isPending = false :=
      PositionTracker.isPending_of_ne fun hs => by simp [hs, allowedTransitions] at ha
    rw [heq]
    refine ⟨h.same (by simp) (by simp [PositionTracker.write]) rfl, ?_⟩
    refine hl.write ((r.inState .closingRequested).withCloseRequest reason triggers price now) hu
      ⟨hfits.condition, fun _ => ?_⟩ (by simp) rfl
    have hfit := hfits.live hlive
    rw [hpending] at hfit
    exact hfit

theorem confirmClose_counted (id : PositionId) (price : ℚ) (rate : Option ℚ) (now : Time) (h : Counted s)
    (hl : Linked s) :
    Counted (s.after (.call (.confirmClose id price rate now))) ∧
      Linked (s.after (.call (.confirmClose id price rate now))) := by
  have hafter : s.after (.call (.confirmClose id price rate now)) =
      ⟨(s.tracker.confirmClose id price rate now).state, s.past⟩ := rfl
  rw [hafter]
  obtain ⟨-, e, heq⟩ | ⟨r, hr, ⟨-, e, heq⟩ | ⟨-, heq⟩⟩ :=
    PositionTracker.confirmClose_outcome s.tracker id price rate now
  · rw [heq]
    exact ⟨h, hl⟩
  · obtain rfl : r.positionId = id := Lib.Table.key_of_get? hr
    obtain ⟨u, hu, hfits⟩ := hl.known _ r hr
    rw [heq]
    exact ⟨h.same rfl rfl rfl, hl.write r hu hfits rfl rfl⟩
  · obtain rfl : r.positionId = id := Lib.Table.key_of_get? hr
    obtain ⟨u, hu, hfits⟩ := hl.known _ r hr
    rw [heq]
    refine ⟨h.same (by simp) (by simp [PositionTracker.write]) rfl, ?_⟩
    exact hl.write (PositionTracker.sold r price (s.tracker.rateOr rate) now) hu
      ⟨hfits.condition, fun hs => absurd rfl hs⟩ (by simp) rfl

theorem after_restorePosition (r : PositionRecord) : s.after (.restorePosition r) =
    { tracker := s.tracker.restorePosition r
      past := s.past.put (Past.ofStored r (s.past.get? r.positionId)) } := rfl

/-- A stored record of a position that is not held counts as its state says. -/
theorem restoreNew_counted {r : PositionRecord} (h : Counted s) (hl : Linked s)
    (hnone : s.tracker.positions.get? r.positionId = none) :
    (Counted (s.after (.restorePosition r)) ↔ r.wasFilled = !r.isPending) ∧
      (Counted (s.after (.restorePosition r)) → Linked (s.after (.restorePosition r))) := by
  have hpast : (s.after (.restorePosition r)).past = s.past.put (Past.ofStored r none) := by
    rw [after_restorePosition, hl.only _ hnone]
  have hkept := kept_new (Past.ofStored r none) (hl.only _ hnone) hpast
  have hfills := fills_new (Past.ofStored r none) (hl.only _ hnone) hpast
  have hevents : ∀ c, (s.after (.restorePosition r)).tracker.getEventFillCount c =
      s.kept c + (decide (r.conditionId = c)).toNat := fun c => by
    rw [← h.events c]
    exact PositionTracker.getEventFillCount_restorePosition s.tracker r c
  have hsession : (s.after (.restorePosition r)).tracker.sessionTradeCount =
      s.fills + (!r.isPending).toNat := by
    rw [← h.session]
    show (if r.state = .pendingOpen then _ else _) = _
    by_cases hs : r.state = .pendingOpen <;> simp [PositionRecord.isPending, hs]
  have hiff : Counted (s.after (.restorePosition r)) ↔ r.wasFilled = !r.isPending := by
    constructor
    · intro h'
      have heq := h'.session
      rw [hsession, hfills] at heq
      have hnat : (!r.isPending).toNat = r.wasFilled.toNat := Nat.add_left_cancel heq
      cases hp : r.isPending <;> cases hf : r.wasFilled <;> simp [hp, hf] at hnat ⊢
    · intro hfilled
      have hrej : r.isRejected = false := by
        rw [PositionRecord.isRejected, hfilled]
        cases hs : r.state <;> simp [PositionRecord.isClosed, PositionRecord.isPending, hs]
      refine ⟨fun c => ?_, ?_⟩
      · rw [hevents c, hkept c]
        simp [Past.ofStored, hrej]
      · rw [hsession, hfills, ← hfilled]
        rfl
  refine ⟨hiff, fun h' => ?_⟩
  refine hl.put r (Past.ofStored r none) rfl ⟨rfl, fun hs => ⟨?_, hiff.mp h'⟩⟩ rfl hpast
  simp [Past.ofStored, PositionRecord.isRejected, PositionRecord.isClosed, hs]

/-- A stored record of a position that is held is counted a second time. -/
theorem restoreHeld_apart {r r' : PositionRecord} (h : Counted s) (hl : Linked s)
    (hr' : s.tracker.positions.get? r.positionId = some r') : ¬Counted (s.after (.restorePosition r)) := by
  intro h'
  obtain ⟨u, hu, -⟩ := hl.known _ r' hr'
  have hukey : u.positionId = r.positionId := Lib.Table.key_of_get? hu
  have hpast : (s.after (.restorePosition r)).past = s.past.put (Past.ofStored r (some u)) := by
    rw [after_restorePosition, hu]
  have hkept := kept_put (u := u) (Past.ofStored r (some u)) (hukey ▸ hu) hpast rfl r.conditionId
  have hle : (decide (u.conditionId = r.conditionId) && !(Past.ofStored r (some u)).rejected).toNat ≤
      (decide (u.conditionId = r.conditionId) && !u.rejected).toNat := by
    show (_ && !(u.rejected || r.isRejected)).toNat ≤ _
    cases decide (u.conditionId = r.conditionId) <;> cases u.rejected <;> simp [Bool.toNat_le]
  have hnew := h'.events r.conditionId
  have hcount : (s.after (.restorePosition r)).tracker.getEventFillCount r.conditionId =
      s.tracker.getEventFillCount r.conditionId + (decide (r.conditionId = r.conditionId)).toNat :=
    PositionTracker.getEventFillCount_restorePosition s.tracker r r.conditionId
  rw [hcount, h.events, decide_eq_true rfl, Bool.toNat_true] at hnew
  omega

/-- Nothing is held, and nothing has happened. -/
structure Fresh (s : Watched) : Prop where
  tracker : s.tracker.Empty
  past : s.past = .empty

theorem Fresh.counted (h : Fresh s) : Counted s where
  events c := by simp [PositionTracker.getEventFillCount, kept, h.past, h.tracker.eventFills, Lib.Dict.getD]
  session := by simp [fills, h.past, h.tracker.session]

theorem Fresh.linked (h : Fresh s) : Linked s where
  known id r hr := by
    rw [h.tracker.positions] at hr
    cases hr
  only id _ := by
    rw [h.past]
    rfl

theorem reset_fresh (s : Watched) : Fresh (s.after .reset) := ⟨⟨rfl, rfl, rfl⟩, rfl⟩

/-- **One call** keeps the counters at the numbers of the history exactly if it counts what it does. -/
theorem Counted.step {l : TrackerOp} {s' : Watched} (h : Counted s) (hl : Linked s) (hs : Step s l s') :
    (Counted s' ↔ CountsTruly s.tracker l) ∧ (Counted s' → Linked s') := by
  obtain ⟨hnew, rfl⟩ := hs
  cases l with
  | call c =>
    cases c with
    | createPending r =>
      obtain ⟨hc, hlinked⟩ := createPending_counted h hl hnew
      exact ⟨iff_of_true hc trivial, fun _ => hlinked⟩
    | confirmFill id price rate now =>
      obtain ⟨hiff, hlinked⟩ := confirmFill_counted id price rate now h hl
      exact ⟨hiff, fun _ => hlinked⟩
    | rejectFill id now =>
      obtain ⟨hiff, hlinked⟩ := rejectFill_counted id now h hl
      exact ⟨hiff, fun _ => hlinked⟩
    | requestClose id reason triggers price now =>
      obtain ⟨hc, hlinked⟩ := requestClose_counted id reason triggers price now h hl
      exact ⟨iff_of_true hc trivial, fun _ => hlinked⟩
    | confirmClose id price rate now =>
      obtain ⟨hc, hlinked⟩ := confirmClose_counted id price rate now h hl
      exact ⟨iff_of_true hc trivial, fun _ => hlinked⟩
  | restorePosition r =>
    cases hr : s.tracker.positions.get? r.positionId with
    | none =>
      obtain ⟨hiff, hlinked⟩ := restoreNew_counted h hl hr
      exact ⟨hiff.trans ⟨fun hfilled => ⟨hr, hfilled⟩, And.right⟩, hlinked⟩
    | some r' =>
      have hapart := restoreHeld_apart h hl hr
      refine ⟨iff_of_false hapart fun hc => ?_, fun h' => absurd h' hapart⟩
      have hnone := hc.1
      rw [hr] at hnone
      cases hnone
  | reset => exact ⟨iff_of_true (reset_fresh s).counted trivial, fun _ => (reset_fresh s).linked⟩

/-- **The counters match the history.** From an empty tracker, they are the numbers of the history after every
call of a run, raising calls included, exactly when every call counts what it does. -/
theorem counters_match_iff {tr : List (Lib.Taken Watched TrackerOp)} {s' : Watched} (h : Fresh s)
    (hrun : Lib.Run Step s tr s') :
    (∀ x ∈ tr, Counted x.post) ↔ ∀ x ∈ tr, CountsTruly x.pre.tracker x.label := by
  refine hrun.forall_iff (I := fun s => Counted s ∧ Linked s) (P := fun x => Counted x.post)
    (C := fun s l => CountsTruly s.tracker l) (fun t l u ht hst => ?_) ⟨h.counted, h.linked⟩
  obtain ⟨hiff, hlinked⟩ := ht.1.step ht.2 hst
  exact ⟨hiff, fun hu => ⟨hu, hlinked hu⟩⟩

/-- The tracker after the first order of an event. -/
def firstWatched : Watched := Watched.after {} (.call (.createPending PositionTracker.firstOrder))

theorem firstWatched_step : Step {} (.call (.createPending PositionTracker.firstOrder)) firstWatched :=
  ⟨⟨rfl, rfl, rfl⟩, rfl⟩

/-- The second order of the event. -/
def secondOrder : PositionRecord := { PositionTracker.firstOrder with positionId := 1 }

/-- One order is filled and sold, the other one rejected; the tracker is reset, and a stored position of the event
comes back. -/
theorem counters_match_restored : ∃ tr s', Lib.Run Step {} tr s' ∧
    (s'.tracker.getEventFillCount "event" = 1 ∧ s'.tracker.sessionTradeCount = 1) ∧ ∀ x ∈ tr, Counted x.post := by
  have hsold : Lib.Run Step {} _ _ := (((((Lib.Run.single firstWatched_step).snoc
    (show Step _ (.call (.confirmFill 0 (1 / 2) none 1)) _ from ⟨trivial, rfl⟩)).snoc
    (show Step _ (.call (.createPending secondOrder)) _ from ⟨⟨by decide +kernel, rfl, rfl⟩, rfl⟩)).snoc
    (show Step _ (.call (.rejectFill 1 2)) _ from ⟨trivial, rfl⟩)).snoc
    (show Step _ (.call (.requestClose 0 .takeProfit [] (3 / 4) 3)) _ from ⟨trivial, rfl⟩)).snoc
    (show Step _ (.call (.confirmClose 0 (3 / 4) none 4)) _ from ⟨trivial, rfl⟩)
  have hrun := (hsold.snoc (show Step _ .reset _ from ⟨trivial, rfl⟩)).snoc
    (show Step _ (.restorePosition { PositionTracker.firstOrder with state := .closed, openedAt := some 1 }) _ from
      ⟨trivial, rfl⟩)
  refine ⟨_, _, hrun, by decide +kernel, (counters_match_iff ⟨⟨rfl, rfl, rfl⟩, rfl⟩ hrun).mpr ?_⟩
  simp only [List.forall_mem_append, List.forall_mem_singleton]
  refine ⟨⟨⟨⟨⟨⟨⟨trivial, ?_⟩, trivial⟩, fun r hr => .inl ?_⟩, trivial⟩, trivial⟩, trivial⟩, ?_⟩
  · show PositionTracker.CountsAlike _ (.confirmFill 0 (1 / 2) none 1)
    exact PositionTracker.countsAlike_confirmFill (by decide +kernel)
  · have hstate : some r.state = some .pendingOpen :=
      (congrArg (Option.map PositionRecord.state) hr).symm.trans (by decide +kernel)
    rw [Option.some.inj hstate]
    decide
  · exact ⟨by decide +kernel, by decide +kernel⟩

/-- A filled position is rejected: the call raises, and the event has no fill although its position is open. -/
theorem rejected_fill_uncounted :
    ∃ (tr : List (Lib.Taken Watched TrackerOp)) (s' : Watched), Lib.Run Step {} tr s' ∧
      (s'.tracker.getPosition 0).map PositionRecord.state = some .openConfirmed ∧
      s'.kept "event" = 1 ∧ s'.tracker.getEventFillCount "event" = 0 := by
  have hrun : Lib.Run Step {} _ _ := ((Lib.Run.single firstWatched_step).snoc
    (show Step _ (.call (.confirmFill 0 (1 / 2) none 1)) _ from ⟨trivial, rfl⟩)).snoc
    (show Step _ (.call (.rejectFill 0 2)) _ from ⟨trivial, rfl⟩)
  refine ⟨_, _, hrun, ?_, ?_, ?_⟩
  all_goals decide +kernel

end Watched

end Polyfast
