import Polyfast.Lib.Run
import Polyfast.Execution.TrackerMove
import Polyfast.Orchestrator.Restore

/-!
# The counters after a restart

The tracker counts as its methods are called; a restart counts again from the stored records. The second
count takes every record that is not pending for a fill, also one whose order was rejected.

* `restoreAll_counts`: what a restart counts;
* `restartAgrees_iff`: when the two counts agree, as a fact about the tracker;
* `TrackerCall.Step` and `restart_counters_iff`: when they agree all along a run of calls.
-/

namespace Polyfast

namespace PositionTracker

/-- The positions of an event that wait for their fill. -/
def pendingOf (t : PositionTracker) (c : ConditionId) : ℕ :=
  t.positions.count (fun r => r.conditionId = c && r.isPending)

/-- The positions of an event that do not wait for their fill, closed ones included. -/
def decidedOf (t : PositionTracker) (c : ConditionId) : ℕ :=
  t.positions.count (fun r => r.conditionId = c && !r.isPending)

/-- All positions that do not wait for their fill. -/
def allDecided (t : PositionTracker) : ℕ := t.positions.count (fun r => !r.isPending)

variable {t t' : PositionTracker}

/-! ### What a restart counts -/

/-- One stored record is loaded and counted. -/
structure Loads (t t' : PositionTracker) (p : PositionRecord) : Prop where
  fills : ∀ c, t'.getEventFillCount c =
    t.getEventFillCount c + (decide (p.conditionId = c) && !p.isPending).toNat
  session : t'.sessionTradeCount = t.sessionTradeCount + (!p.isPending).toNat
  opened : t'.openPositionCount = t.openPositionCount + p.isOpen.toNat
  others : ∀ k, k ≠ p.positionId → t'.positions.get? k = t.positions.get? k

theorem getEventFillCount_restorePosition (t : PositionTracker) (p : PositionRecord)
    (c : ConditionId) : (t.restorePosition p).getEventFillCount c =
      t.getEventFillCount c + (decide (p.conditionId = c)).toNat := by
  show (t.eventFills.set p.conditionId (t.getEventFillCount p.conditionId + 1)).getD c 0 = _
  rw [getD_set_eq]
  split_ifs with h
  · simp [h]
  · simp [h, getEventFillCount]

theorem restoreOne_loads {p : PositionRecord} (now : Time)
    (hnew : t.positions.get? p.positionId = none) : Loads t (restoreOne now t p) p := by
  unfold restoreOne
  split_ifs with hs
  · have hget : (t.restorePosition p).positions.get? p.positionId = some p :=
      Lib.Table.get?_put_self _ _
    have hpos : 0 < (t.restorePosition p).getEventFillCount p.conditionId := by
      rw [getEventFillCount_restorePosition]
      simp
    have hpending : p.isPending = true := PositionRecord.isPending_iff.mpr hs
    have hopen : p.isOpen = false := by simp [PositionRecord.isOpen, hs]
    have hkey : p.positionId = (rejected p now).positionId := rfl
    rw [rejectFill_of_pending hget hs, if_pos hpos]
    refine ⟨fun c => ?_, ?_, ?_, fun k hk => ?_⟩
    · have hc := getEventFillCount_restorePosition t p c
      rw [hpending]
      simp only [Bool.not_true, Bool.and_false, Bool.toNat_false, Nat.add_zero]
      show ((t.restorePosition p).eventFills.set p.conditionId _).getD c 0 = _
      rw [getD_set_eq]
      split_ifs with h
      · rw [h, hc]
        simp [h]
      · simp only [h, decide_false, Bool.toNat_false, Nat.add_zero] at hc
        exact hc
    · simp [restorePosition, hs, hpending]
    · show ((t.positions.put p).put (rejected p now)).count PositionRecord.isOpen = _
      rw [Lib.Table.put_put hkey, Lib.Table.count_put_new _ (hkey ▸ hnew), hopen]
      rfl
    · show ((t.positions.put p).put (rejected p now)).get? k = _
      rw [Lib.Table.put_put hkey]
      exact Lib.Table.get?_put_ne _ (hkey ▸ hk.symm)
  · have hpending : p.isPending = false := by simp [PositionRecord.isPending, hs]
    refine ⟨fun c => ?_, ?_, ?_, fun k hk => Lib.Table.get?_put_ne _ hk.symm⟩
    · rw [getEventFillCount_restorePosition, hpending]
      simp
    · simp [restorePosition, hs, hpending]
    · exact Lib.Table.count_put_new _ hnew

/-- **What a restart counts**: the records that are not pending, and the open ones. -/
theorem restoreAll_counts (now : Time) (ps : List PositionRecord) : ∀ t : PositionTracker,
    (ps.map PositionRecord.positionId).Nodup →
    (∀ p ∈ ps, t.positions.get? p.positionId = none) →
    (∀ c, (t.restoreAll ps now).getEventFillCount c =
      t.getEventFillCount c + ps.countP (fun p => p.conditionId = c && !p.isPending)) ∧
    (t.restoreAll ps now).sessionTradeCount =
      t.sessionTradeCount + ps.countP (fun p => !p.isPending) ∧
    (t.restoreAll ps now).openPositionCount =
      t.openPositionCount + ps.countP PositionRecord.isOpen := by
  induction ps with
  | nil => exact fun t _ _ => ⟨fun _ => rfl, rfl, rfl⟩
  | cons p ps ih =>
    intro t hnodup hnew
    rw [List.map_cons, List.nodup_cons] at hnodup
    have hload := restoreOne_loads now (hnew p List.mem_cons_self)
    have hnew' : ∀ q ∈ ps, (restoreOne now t p).positions.get? q.positionId = none := by
      intro q hq
      rw [hload.others q.positionId]
      · exact hnew q (List.mem_cons_of_mem _ hq)
      · exact fun heq => hnodup.1 (heq ▸ List.mem_map_of_mem hq)
    obtain ⟨hfills, hsession, hopen⟩ := ih (restoreOne now t p) hnodup.2 hnew'
    have hstep : t.restoreAll (p :: ps) now = (restoreOne now t p).restoreAll ps now := rfl
    refine ⟨fun c => ?_, ?_, ?_⟩
    · rw [hstep, hfills c, hload.fills c, List.countP_cons, Nat.add_assoc, Nat.add_comm (Bool.toNat _)]
      cases h : decide (p.conditionId = c) && !p.isPending <;> simp
    · rw [hstep, hsession, hload.session, List.countP_cons, Nat.add_assoc, Nat.add_comm (Bool.toNat _)]
      cases h : !p.isPending <;> simp
    · rw [hstep, hopen, hload.opened, List.countP_cons, Nat.add_assoc, Nat.add_comm (Bool.toNat _)]
      cases h : p.isOpen <;> simp

/-! ### When the counts agree -/

/-- The counters after a restart are those before it, with the pending positions counted as rejected. -/
structure SameCounters (t t' : PositionTracker) : Prop where
  fills : ∀ c, t'.getEventFillCount c = t.getEventFillCount c - t.pendingOf c
  session : t'.sessionTradeCount = t.sessionTradeCount
  opened : t'.openPositionCount = t.openPositionCount

/-- Whenever all positions are saved and loaded again, in whatever order, the counters are the same. -/
def RestartAgrees (t : PositionTracker) : Prop :=
  ∀ (ps : List PositionRecord) (now : Time), ps.Perm t.getAllPositions →
    SameCounters t (t.reset.restoreAll ps now)

/-- The live counters are what a restart counts. -/
structure Tidy (t : PositionTracker) : Prop where
  fills : ∀ c, t.getEventFillCount c - t.pendingOf c = t.decidedOf c
  session : t.sessionTradeCount = t.allDecided

theorem restartAgrees_iff : RestartAgrees t ↔ Tidy t := by
  have hcounts : ∀ (ps : List PositionRecord) (now : Time), ps.Perm t.getAllPositions →
      (∀ c, (t.reset.restoreAll ps now).getEventFillCount c = t.decidedOf c) ∧
        (t.reset.restoreAll ps now).sessionTradeCount = t.allDecided ∧
        (t.reset.restoreAll ps now).openPositionCount = t.openPositionCount := by
    intro ps now hperm
    have hnodup : (ps.map PositionRecord.positionId).Nodup := by
      rw [(hperm.map PositionRecord.positionId).nodup_iff]
      exact Lib.Table.nodup_map_key t.positions
    obtain ⟨hfills, hsession, hopen⟩ := restoreAll_counts now ps t.reset hnodup fun _ _ => rfl
    refine ⟨fun c => ?_, ?_, ?_⟩
    · rw [hfills c, hperm.countP_eq]
      exact Nat.zero_add _
    · rw [hsession, hperm.countP_eq]
      exact Nat.zero_add _
    · rw [hopen, hperm.countP_eq]
      exact Nat.zero_add _
  constructor
  · intro h
    have hsame := h t.getAllPositions 0 (List.Perm.refl _)
    obtain ⟨hfills, hsession, -⟩ := hcounts t.getAllPositions 0 (List.Perm.refl _)
    exact ⟨fun c => (hsame.fills c).symm.trans (hfills c), hsame.session.symm.trans hsession⟩
  · intro h ps now hperm
    obtain ⟨hfills, hsession, hopen⟩ := hcounts ps now hperm
    exact ⟨fun c => (hfills c).trans (h.fills c).symm, hsession.trans h.session.symm, hopen⟩

/-- Every fill that is counted is pending or decided, and the trades are the decided positions. -/
structure Booked (t : PositionTracker) : Prop where
  fills : ∀ c, t.getEventFillCount c = t.pendingOf c + t.decidedOf c
  session : t.sessionTradeCount = t.allDecided

theorem Booked.tidy (h : Booked t) : Tidy t :=
  ⟨fun c => by rw [h.fills c, Nat.add_sub_cancel_left], h.session⟩

/-- No event has more pending positions than fills. -/
def PendingCounted (t : PositionTracker) : Prop := ∀ c, t.pendingOf c ≤ t.getEventFillCount c

theorem Booked.pendingCounted (h : Booked t) : PendingCounted t := fun c => by
  rw [h.fills c]
  exact Nat.le_add_right _ _

theorem Tidy.booked (h : Tidy t) (hp : PendingCounted t) : Booked t where
  fills c := by
    have hle := hp c
    have heq := h.fills c
    omega
  session := h.session

/-! ### What the methods do to the counts -/

variable {r r' : PositionRecord}

/-- A position that stays decided, or stays pending, changes no count. -/
theorem counts_put_same (hold : t.positions.get? r'.positionId = some r)
    (hpos : t'.positions = t.positions.put r') (hcond : r'.conditionId = r.conditionId)
    (hpending : r'.isPending = r.isPending) :
    (∀ c, t'.pendingOf c = t.pendingOf c ∧ t'.decidedOf c = t.decidedOf c) ∧
      t'.allDecided = t.allDecided := by
  refine ⟨fun c => ⟨?_, ?_⟩, ?_⟩
  · have hput := Lib.Table.count_put (fun x => x.conditionId = c && x.isPending) hold
    rw [← hpos] at hput
    simp only [hcond, hpending] at hput
    exact Nat.add_right_cancel hput
  · have hput := Lib.Table.count_put (fun x => x.conditionId = c && !x.isPending) hold
    rw [← hpos] at hput
    simp only [hcond, hpending] at hput
    exact Nat.add_right_cancel hput
  · have hput := Lib.Table.count_put (fun x => !x.isPending) hold
    rw [← hpos] at hput
    simp only [hpending] at hput
    exact Nat.add_right_cancel hput

/-- A pending position is decided. -/
theorem counts_put_decided (hold : t.positions.get? r'.positionId = some r)
    (hpos : t'.positions = t.positions.put r') (hcond : r'.conditionId = r.conditionId)
    (hr : r.isPending = true) (hr' : r'.isPending = false) :
    (∀ c, t'.pendingOf c + (decide (r.conditionId = c)).toNat = t.pendingOf c ∧
      t'.decidedOf c = t.decidedOf c + (decide (r.conditionId = c)).toNat) ∧
      t'.allDecided = t.allDecided + 1 := by
  refine ⟨fun c => ⟨?_, ?_⟩, ?_⟩
  · have hput := Lib.Table.count_put (fun x => x.conditionId = c && x.isPending) hold
    rw [← hpos] at hput
    simp only [hcond, hr, hr', Bool.and_true, Bool.and_false, Bool.toNat_false, Nat.add_zero] at hput
    exact hput
  · have hput := Lib.Table.count_put (fun x => x.conditionId = c && !x.isPending) hold
    rw [← hpos] at hput
    simp only [hcond, hr, hr', Bool.and_true, Bool.and_false, Bool.not_true, Bool.not_false,
      Bool.toNat_false, Nat.add_zero] at hput
    exact hput
  · have hput := Lib.Table.count_put (fun x => !x.isPending) hold
    rw [← hpos] at hput
    simp only [hr, hr', Bool.not_true, Bool.not_false, Bool.toNat_false, Bool.toNat_true,
      Nat.add_zero] at hput
    exact hput

/-- Nothing that is counted changes. -/
structure SameBooks (t t' : PositionTracker) : Prop where
  fills : ∀ c, t'.getEventFillCount c = t.getEventFillCount c
  session : t'.sessionTradeCount = t.sessionTradeCount
  pending : ∀ c, t'.pendingOf c = t.pendingOf c
  decided : ∀ c, t'.decidedOf c = t.decidedOf c
  allDecided : t'.allDecided = t.allDecided

theorem SameBooks.put (r' : PositionRecord) (hold : t.positions.get? r'.positionId = some r)
    (hpos : t'.positions = t.positions.put r') (hcond : r'.conditionId = r.conditionId)
    (hpending : r'.isPending = r.isPending) (hfills : t'.eventFills = t.eventFills)
    (hsession : t'.sessionTradeCount = t.sessionTradeCount) : SameBooks t t' := by
  obtain ⟨hc, ha⟩ := counts_put_same hold hpos hcond hpending
  exact ⟨getEventFillCount_congr hfills, hsession, fun c => (hc c).1, fun c => (hc c).2, ha⟩

theorem SameBooks.refl (t : PositionTracker) : SameBooks t t :=
  ⟨fun _ => rfl, rfl, fun _ => rfl, fun _ => rfl, rfl⟩

theorem SameBooks.booked (hs : SameBooks t t') (h : Booked t) : Booked t' where
  fills c := by rw [hs.fills, h.fills, hs.pending, hs.decided]
  session := by rw [hs.session, h.session, hs.allDecided]

@[simp] theorem sessionTradeCount_persist (id : PositionId) :
    (t.persist id).sessionTradeCount = t.sessionTradeCount := by
  unfold persist
  split_ifs <;> rfl

theorem isPending_of_ne {r : PositionRecord} (h : r.state ≠ .pendingOpen) : r.isPending = false := by
  simp [PositionRecord.isPending, h]

/-- What stands under the id of a record stands under the id of the position it replaces. -/
theorem get?_of_replaced {id : PositionId} (hold : t.positions.get? r'.positionId = some r)
    (hkey : r.positionId = id) : t.positions.get? id = some r := by
  have hk : r'.positionId = id := (Lib.Table.key_of_get? hold).symm.trans hkey
  rw [← hk]
  exact hold

/-- `confirm_fill` opens a pending or a closing position and counts a trade, or counts nothing. -/
theorem confirmFill_cases (t : PositionTracker) (id : PositionId) (price : ℚ) (rate : Option ℚ)
    (now : Time) :
    (SameBooks t (t.confirmFill id price rate now).state ∧
      ∀ r, t.positions.get? id = some r → r.state = .pendingOpen ∨ r.state = .closingRequested →
        price = 0) ∨
    ∃ r r', t.positions.get? r'.positionId = some r ∧ r.positionId = id ∧
      (r.state = .pendingOpen ∨ r.state = .closingRequested) ∧ price ≠ 0 ∧
      r'.conditionId = r.conditionId ∧ r'.state = .openConfirmed ∧
      (t.confirmFill id price rate now).state.positions = t.positions.put r' ∧
      (t.confirmFill id price rate now).state.eventFills = t.eventFills ∧
      (t.confirmFill id price rate now).state.sessionTradeCount = t.sessionTradeCount + 1 := by
  obtain ⟨heq, hzero⟩ | ⟨r, entry, hr, hp, ⟨ha, heq⟩ | ⟨ha, heq⟩⟩ := confirmFill_spec (t := t) id price rate now
  · rw [heq]
    exact .inl ⟨.refl t, fun r hr _ => hzero r hr⟩
  · have hkey : r.positionId = id := Lib.Table.key_of_get? hr
    rw [heq]
    refine .inl ⟨.put (r := r) (r.withEntry price entry now) ?_ rfl rfl rfl rfl rfl, ?_⟩
    · rw [← hkey] at hr
      exact hr
    · rintro u hu hs
      obtain rfl := Option.some.inj (hr.symm.trans hu)
      rcases hs with hs | hs <;> simp [hs, allowedTransitions] at ha
  · have hkey : r.positionId = id := Lib.Table.key_of_get? hr
    rw [heq]
    refine .inr ⟨r, (r.withEntry price entry now).inState .openConfirmed, ?_, hkey, ?_, hp, rfl, rfl, ?_, ?_, ?_⟩
    · rw [← hkey] at hr
      exact hr
    · cases hs : r.state <;> simp [hs, allowedTransitions] at ha ⊢
    · simp
    · simp
    · simp [write]

/-- Taking a fill back lowers the count of its event, unless that is 0. -/
theorem getEventFillCount_takeBack (e c : ConditionId) :
    (t.takeBack e).getEventFillCount c = t.getEventFillCount c - (decide (e = c)).toNat := by
  unfold takeBack
  by_cases hc : e = c
  · subst hc
    split_ifs with hpos
    · rw [getEventFillCount, getD_set_eq, if_pos rfl]
      simp
    · simp
      omega
  · simp only [hc, decide_false, Bool.toNat_false, Nat.sub_zero]
    split_ifs with hpos
    · rw [getEventFillCount, getD_set_eq, if_neg hc]
      rfl
    · rfl

/-- `reject_fill` of a position that is there takes a fill off its event; of the other counts it can only
decide a pending position. -/
theorem rejectFill_counts {id : PositionId} (now : Time) (hr : t.positions.get? id = some r) :
    (∀ c, (t.rejectFill id now).state.getEventFillCount c =
      t.getEventFillCount c - (decide (r.conditionId = c)).toNat) ∧
    (t.rejectFill id now).state.sessionTradeCount = t.sessionTradeCount ∧
    ((t.rejectFill id now).state.positions = t.positions ∧ r.isPending = false ∨
      (t.rejectFill id now).state.positions = t.positions.put (rejected r now)) := by
  obtain ⟨hnone, -⟩ | ⟨u, hu, ⟨ha, heq⟩ | ⟨-, heq⟩⟩ := rejectFill_cases (t := t) id now
  · rw [hr] at hnone
    cases hnone
  · obtain rfl := Option.some.inj (hr.symm.trans hu)
    rw [heq]
    refine ⟨getEventFillCount_takeBack _, by simp, .inl ⟨by simp, isPending_of_ne fun hs => ?_⟩⟩
    simp [hs, allowedTransitions] at ha
  · obtain rfl := Option.some.inj (hr.symm.trans hu)
    rw [heq]
    refine ⟨getEventFillCount_takeBack _, ?_, .inr ?_⟩
    · simp [write]
    · simp

/-- `confirm_close` closes a pending position like any other that may be closed. -/
theorem confirmClose_counts {id : PositionId} (price : ℚ) (rate : Option ℚ) (now : Time)
    (hr : t.positions.get? id = some r) :
    (t.confirmClose id price rate now).state.eventFills = t.eventFills ∧
    (t.confirmClose id price rate now).state.sessionTradeCount = t.sessionTradeCount ∧
    ∃ r', r'.positionId = id ∧ r'.conditionId = r.conditionId ∧ r'.state ≠ .pendingOpen ∧
      (t.confirmClose id price rate now).state.positions = t.positions.put r' := by
  have hkey : r.positionId = id := Lib.Table.key_of_get? hr
  obtain ⟨hnone, -⟩ | ⟨u, hu, ⟨ha, heq⟩ | ⟨data, heq⟩⟩ := confirmClose_cases (t := t) id price rate now
  · rw [hr] at hnone
    cases hnone
  · obtain rfl := Option.some.inj (hr.symm.trans hu)
    rw [heq]
    refine ⟨rfl, rfl, r, hkey, rfl, fun hs => ?_, rfl⟩
    simp [hs, allowedTransitions] at ha
  · obtain rfl := Option.some.inj (hr.symm.trans hu)
    rw [heq]
    refine ⟨by simp, by simp [write], (r.inState .closed).withExit price data now, hkey, rfl, ?_, ?_⟩
    · intro hs
      cases hs
    · simp

end PositionTracker

/-! ### Runs of calls -/

/-- A call of a tracker method. -/
inductive TrackerCall
  | createPending (r : PositionRecord)
  | confirmFill (id : PositionId) (price : ℚ) (feeRate : Option ℚ) (now : Time)
  | rejectFill (id : PositionId) (now : Time)
  | requestClose (id : PositionId) (reason : CloseReason) (triggers : List ForceSellTrigger)
      (price : ℚ) (now : Time)
  | confirmClose (id : PositionId) (price : ℚ) (feeRate : Option ℚ) (now : Time)

namespace PositionTracker

/-- The tracker after a call, also one that raises. -/
def after (t : PositionTracker) : TrackerCall → PositionTracker
  | .createPending r => t.createPending r
  | .confirmFill id price rate now => (t.confirmFill id price rate now).state
  | .rejectFill id now => (t.rejectFill id now).state
  | .requestClose id reason triggers price now => (t.requestClose id reason triggers price now).state
  | .confirmClose id price rate now => (t.confirmClose id price rate now).state

/-- `create_pending` makes a record of its own, under an identifier that was not drawn before. -/
def MakesNew (t : PositionTracker) : TrackerCall → Prop
  | .createPending r => t.positions.get? r.positionId = none ∧ r.state = .pendingOpen ∧ r.openedAt = none
  | _ => True

/-- A call as a step. -/
def Calls (t : PositionTracker) (l : TrackerCall) (t' : PositionTracker) : Prop :=
  t.MakesNew l ∧ t' = t.after l

/-- The call rejects no position, and fills or closes one as its state asks: a closing position is not filled
again, a pending one is not closed as if it had been sold. -/
def CountsAlike (t : PositionTracker) : TrackerCall → Prop
  | .rejectFill id _ => t.positions.get? id = none
  | .confirmFill id price _ _ => ∀ r, t.positions.get? id = some r → r.state = .closingRequested →
      price = 0
  | .confirmClose id _ _ _ => ∀ r, t.positions.get? id = some r → r.state ≠ .pendingOpen
  | _ => True

variable {t t' : PositionTracker} {l : TrackerCall}

theorem createPending_booked {r : PositionRecord} (hnew : t.positions.get? r.positionId = none)
    (hpending : r.state = .pendingOpen) (h : Booked t) : Booked (t.createPending r) := by
  have hr : r.isPending = true := PositionRecord.isPending_iff.mpr hpending
  have hpos : (t.createPending r).positions = t.positions.put r := positions_createPending r
  refine ⟨fun c => ?_, ?_⟩
  · rw [getEventFillCount, eventFills_createPending, getD_set_eq, pendingOf, decidedOf, hpos,
      Lib.Table.count_put_new _ hnew, Lib.Table.count_put_new _ hnew, hr]
    have hc := h.fills c
    have hr' := h.fills r.conditionId
    unfold pendingOf decidedOf at hc hr'
    split_ifs with heq
    · subst heq
      simp
      omega
    · simp [heq]
      exact hc
  · have hsession : (t.createPending r).sessionTradeCount = t.sessionTradeCount := by
      simp [createPending]
    rw [hsession, h.session, allDecided, allDecided, hpos, Lib.Table.count_put_new _ hnew, hr]
    simp

theorem requestClose_sameBooks (t : PositionTracker) (id : PositionId) (reason : CloseReason)
    (triggers : List ForceSellTrigger) (price : ℚ) (now : Time) :
    SameBooks t (t.requestClose id reason triggers price now).state := by
  obtain heq | ⟨r, hr, hs, heq⟩ := requestClose_cases (t := t) id reason triggers price now
  · rw [heq]
    exact .refl t
  · rw [heq]
    have hkey : r.positionId = id := Lib.Table.key_of_get? hr
    have hr' : r.isPending = false := by
      refine isPending_of_ne fun hp => ?_
      rcases hs with hs | hs <;> simp [hs] at hp
    refine .put (r := r) ((r.inState .closingRequested).withCloseRequest reason triggers price now)
      ?_ (by simp) rfl ?_ (by simp) (by simp [write])
    · rw [← hkey] at hr
      exact hr
    · rw [hr']
      exact isPending_of_ne fun hp => by cases hp

/-- A call that counts alike keeps the books. -/
theorem Booked.step (h : Booked t) (hs : Calls t l t') (hc : t.CountsAlike l) : Booked t' := by
  obtain ⟨hnew, rfl⟩ := hs
  cases l with
  | createPending r => exact createPending_booked hnew.1 hnew.2.1 h
  | confirmFill id price rate now =>
    show Booked (t.confirmFill id price rate now).state
    obtain ⟨hsame, -⟩ | ⟨r, r', hold, hkey, hstate, hprice, hcond, hstate', hpos, hfills, hsession⟩ :=
      confirmFill_cases t id price rate now
    · exact hsame.booked h
    · have hr : r.isPending = true := by
        rcases hstate with hstate | hstate
        · exact PositionRecord.isPending_iff.mpr hstate
        · exact absurd (hc r (get?_of_replaced hold hkey) hstate) hprice
      have hr' : r'.isPending = false := isPending_of_ne (by simp [hstate'])
      obtain ⟨hcount, hall⟩ := counts_put_decided hold hpos hcond hr hr'
      refine ⟨fun c => ?_, ?_⟩
      · have hc' := h.fills c
        have hcc := hcount c
        rw [getEventFillCount_congr hfills c]
        omega
      · rw [hsession, h.session, hall]
  | rejectFill id now =>
    show Booked (t.rejectFill id now).state
    have hnone : t.positions.get? id = none := hc
    obtain ⟨-, hstay⟩ | ⟨r, hr, -⟩ := rejectFill_cases (t := t) id now
    · rw [hstay]
      exact h
    · rw [hnone] at hr
      cases hr
  | requestClose id reason triggers price now =>
    exact (requestClose_sameBooks t id reason triggers price now).booked h
  | confirmClose id price rate now =>
    show Booked (t.confirmClose id price rate now).state
    obtain ⟨-, hstay⟩ | ⟨r, hr, -⟩ := confirmClose_cases (t := t) id price rate now
    · rw [hstay]
      exact h
    · obtain ⟨hfills, hsession, r', hid, hcond, hstate', hpos⟩ := confirmClose_counts price rate now hr
      refine (SameBooks.put (r := r) r' ?_ hpos hcond ?_ hfills hsession).booked h
      · rw [hid]
        exact hr
      · rw [isPending_of_ne hstate', isPending_of_ne (hc r hr)]

/-- Filling a closing position again counts a trade twice. -/
theorem confirmFill_apart {id : PositionId} {price : ℚ} {rate : Option ℚ} {now : Time} (h : Booked t)
    (hc : ¬t.CountsAlike (.confirmFill id price rate now)) :
    PendingCounted (t.confirmFill id price rate now).state ∧
      ¬Tidy (t.confirmFill id price rate now).state := by
  have hbad : ∃ u, t.positions.get? id = some u ∧ u.state = .closingRequested ∧ price ≠ 0 := by
    by_contra hno
    refine hc fun u hu hstate => ?_
    by_contra hprice
    exact hno ⟨u, hu, hstate, hprice⟩
  obtain ⟨u, hu, hstate, hprice⟩ := hbad
  obtain ⟨-, hzero⟩ | ⟨r, r', hold, hkey, -, -, hcond, hstate', hpos, hfills, hsession⟩ :=
    confirmFill_cases t id price rate now
  · exact absurd (hzero u hu (.inr hstate)) hprice
  · obtain rfl : u = r := Option.some.inj (hu.symm.trans (get?_of_replaced hold hkey))
    have hsame : r'.isPending = u.isPending := by
      rw [isPending_of_ne (by simp [hstate']), isPending_of_ne (by simp [hstate])]
    obtain ⟨hcount, hall⟩ := counts_put_same hold hpos hcond hsame
    refine ⟨fun c => ?_, fun htidy => ?_⟩
    · rw [getEventFillCount_congr hfills c, (hcount c).1]
      exact h.pendingCounted c
    · have heq := htidy.session
      rw [hsession, hall, h.session] at heq
      omega

/-- Rejecting a position takes a fill off its event, and a restart puts it on again. -/
theorem rejectFill_apart {id : PositionId} {now : Time} (h : Booked t)
    (hc : ¬t.CountsAlike (.rejectFill id now)) :
    PendingCounted (t.rejectFill id now).state ∧ ¬Tidy (t.rejectFill id now).state := by
  obtain ⟨r, hr⟩ := Option.ne_none_iff_exists'.mp hc
  have hkey : r.positionId = id := Lib.Table.key_of_get? hr
  obtain ⟨hfills, hsession, hpos⟩ := rejectFill_counts now hr
  have hold : t.positions.get? (rejected r now).positionId = some r := by
    show t.positions.get? r.positionId = some r
    rw [hkey]
    exact hr
  have hclosed : (rejected r now).isPending = false := isPending_of_ne fun hs => by cases hs
  by_cases hpending : r.isPending = true
  · -- the position was counted as pending and is now counted as a trade by a restart
    have hput : (t.rejectFill id now).state.positions = t.positions.put (rejected r now) := by
      rcases hpos with ⟨-, hno⟩ | hput
      · rw [hpending] at hno
        cases hno
      · exact hput
    obtain ⟨hcount, hall⟩ := counts_put_decided hold hput rfl hpending hclosed
    refine ⟨fun c => ?_, fun htidy => ?_⟩
    · have hf := hfills c
      have hcc := (hcount c).1
      have hc' := h.fills c
      omega
    · have heq := htidy.session
      rw [hsession, hall, h.session] at heq
      omega
  · -- a fill is taken off although the position was filled
    rw [Bool.not_eq_true] at hpending
    have hcounts : (∀ c, (t.rejectFill id now).state.pendingOf c = t.pendingOf c ∧
        (t.rejectFill id now).state.decidedOf c = t.decidedOf c) := by
      rcases hpos with ⟨hsame, -⟩ | hput
      · intro c
        rw [pendingOf, decidedOf, hsame]
        exact ⟨rfl, rfl⟩
      · exact (counts_put_same hold hput rfl (hclosed.trans hpending.symm)).1
    have hone : 0 < t.decidedOf r.conditionId := by
      refine Lib.Table.count_pos hr ?_
      simp [hpending]
    refine ⟨fun c => ?_, fun htidy => ?_⟩
    · have hf := hfills c
      have hcc := (hcounts c).1
      have hc' := h.fills c
      by_cases heq : r.conditionId = c
      · subst heq
        simp at hf
        omega
      · simp [heq] at hf
        omega
    · have heq := htidy.fills r.conditionId
      have hf := hfills r.conditionId
      have hc' := h.fills r.conditionId
      rw [(hcounts _).1, (hcounts _).2] at heq
      simp at hf
      omega

/-- Closing a pending position as sold makes a restart count a trade that was none. -/
theorem confirmClose_apart {id : PositionId} {price : ℚ} {rate : Option ℚ} {now : Time} (h : Booked t)
    (hc : ¬t.CountsAlike (.confirmClose id price rate now)) :
    PendingCounted (t.confirmClose id price rate now).state ∧
      ¬Tidy (t.confirmClose id price rate now).state := by
  have hbad : ∃ r, t.positions.get? id = some r ∧ r.state = .pendingOpen := by
    by_contra hno
    exact hc fun r hr hstate => hno ⟨r, hr, hstate⟩
  obtain ⟨r, hr, hstate⟩ := hbad
  obtain ⟨hfills, hsession, r', hid, hcond, hstate', hpos⟩ := confirmClose_counts price rate now hr
  have hold : t.positions.get? r'.positionId = some r := by
    rw [hid]
    exact hr
  obtain ⟨hcount, hall⟩ := counts_put_decided hold hpos hcond
    (PositionRecord.isPending_iff.mpr hstate) (isPending_of_ne hstate')
  refine ⟨fun c => ?_, fun htidy => ?_⟩
  · have hc' := h.fills c
    have hcc := (hcount c).1
    rw [getEventFillCount_congr hfills c]
    omega
  · have heq := htidy.session
    rw [hsession, hall, h.session] at heq
    omega

/-- A call that does not count alike puts the two counts apart. -/
theorem Booked.step_apart (h : Booked t) (hs : Calls t l t') (hc : ¬t.CountsAlike l) :
    PendingCounted t' ∧ ¬Tidy t' := by
  obtain ⟨-, rfl⟩ := hs
  cases l with
  | createPending r => exact absurd trivial hc
  | requestClose id reason triggers price now => exact absurd trivial hc
  | confirmFill id price rate now => exact confirmFill_apart h hc
  | rejectFill id now => exact rejectFill_apart h hc
  | confirmClose id price rate now => exact confirmClose_apart h hc

/-- A tracker without positions. -/
structure Empty (t : PositionTracker) : Prop where
  positions : t.positions = .empty
  eventFills : t.eventFills = .empty
  session : t.sessionTradeCount = 0

theorem Empty.booked (h : Empty t) : Booked t where
  fills c := by simp [getEventFillCount, pendingOf, decidedOf, h.positions, h.eventFills, Lib.Dict.getD]
  session := by simp [allDecided, h.positions, h.session]

/-- **Restart reproduces the counters.** A restart would agree with the live counters after every call of a
run, exactly when every call of the run counts alike. -/
theorem restart_counters_iff {tr : List (Lib.Taken PositionTracker TrackerCall)} (h : Empty t)
    (hrun : Lib.Run Calls t tr t') :
    (∀ x ∈ tr, RestartAgrees x.post) ↔ ∀ x ∈ tr, x.pre.CountsAlike x.label := by
  have hstep : ∀ t l u, PendingCounted t → RestartAgrees t → Calls t l u →
      PendingCounted u ∧ (RestartAgrees u ↔ t.CountsAlike l) := by
    intro t l u hpending hagrees hst
    have hbooked : Booked t := (restartAgrees_iff.mp hagrees).booked hpending
    rw [restartAgrees_iff]
    by_cases hc : t.CountsAlike l
    · have hu := hbooked.step hst hc
      exact ⟨hu.pendingCounted, iff_of_true hu.tidy hc⟩
    · obtain ⟨hp, hapart⟩ := hbooked.step_apart hst hc
      exact ⟨hp, iff_of_false hapart hc⟩
  exact hrun.always_iff hstep h.booked.pendingCounted (restartAgrees_iff.mpr h.booked.tidy)

/-- The first order of an event. -/
def firstOrder : PositionRecord :=
  newRecord 0 "BTC" .up "event" "token" 1 0

theorem countsAlike_confirmFill {id : PositionId} {price : ℚ} {rate : Option ℚ} {now : Time}
    (h : (t.positions.get? id).map PositionRecord.state ≠ some .closingRequested) :
    t.CountsAlike (.confirmFill id price rate now) := by
  intro r hr hstate
  rw [hr, Option.map_some, hstate] at h
  exact absurd rfl h

theorem countsAlike_confirmClose {id : PositionId} {price : ℚ} {rate : Option ℚ} {now : Time}
    (h : (t.positions.get? id).map PositionRecord.state ≠ some .pendingOpen) :
    t.CountsAlike (.confirmClose id price rate now) := by
  intro r hr hstate
  rw [hr, Option.map_some, hstate] at h
  exact h rfl

/-- Two orders of the event are filled, and the position of the first one is sold in between. -/
theorem restart_counters_fill : ∃ tr t', Lib.Run Calls {} tr t' ∧ t'.getEventFillCount "event" = 2 ∧
    t'.positions.records.map PositionRecord.state = [.closed, .openConfirmed] ∧
    ∀ x ∈ tr, RestartAgrees x.post := by
  have hrun : Lib.Run Calls {} _ _ := (((((Lib.Run.single
    (show Calls _ (.createPending firstOrder) _ from ⟨⟨rfl, rfl, rfl⟩, rfl⟩)).snoc
    (show Calls _ (.confirmFill 0 (1 / 2) none 1) _ from ⟨trivial, rfl⟩)).snoc
    (show Calls _ (.createPending { firstOrder with positionId := 1 }) _ from
      ⟨⟨by decide +kernel, rfl, rfl⟩, rfl⟩)).snoc
    (show Calls _ (.requestClose 0 .takeProfit [] (3 / 4) 2) _ from ⟨trivial, rfl⟩)).snoc
    (show Calls _ (.confirmClose 0 (3 / 4) none 3) _ from ⟨trivial, rfl⟩)).snoc
    (show Calls _ (.confirmFill 1 (1 / 2) none 4) _ from ⟨trivial, rfl⟩)
  refine ⟨_, _, hrun, by decide +kernel, by decide +kernel, (restart_counters_iff ⟨rfl, rfl, rfl⟩ hrun).mpr ?_⟩
  simp only [List.forall_mem_append, List.forall_mem_singleton]
  refine ⟨⟨⟨⟨⟨trivial, countsAlike_confirmFill ?_⟩, trivial⟩, trivial⟩, countsAlike_confirmClose ?_⟩,
    countsAlike_confirmFill ?_⟩
  all_goals decide +kernel

/-- An order of an event is sent and rejected: the event has no fill, after a restart it has one. -/
theorem rejected_order_restored :
    ∃ (t' : PositionTracker) (tr : List (Lib.Taken PositionTracker TrackerCall)),
      Lib.Run Calls {} tr t' ∧ t'.getEventFillCount "event" = 0 ∧ t'.pendingOf "event" = 0 ∧
      (t'.reset.restoreAll t'.getAllPositions 0).getEventFillCount "event" = 1 ∧
      t'.sessionTradeCount = 0 ∧
      (t'.reset.restoreAll t'.getAllPositions 0).sessionTradeCount = 1 := by
  have hrun : Lib.Run Calls ({} : PositionTracker) _ _ := ((Lib.Run.nil ({} : PositionTracker)).snoc
    (show Calls _ (.createPending firstOrder) _ from ⟨⟨rfl, rfl, rfl⟩, rfl⟩)).snoc
    (show Calls _ (.rejectFill 0 1) _ from ⟨trivial, rfl⟩)
  refine ⟨_, _, hrun, ?_, ?_, ?_, ?_, ?_⟩
  all_goals decide +kernel

end PositionTracker

end Polyfast
