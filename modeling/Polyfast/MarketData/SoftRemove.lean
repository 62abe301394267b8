import Polyfast.Lib.Run
import Polyfast.MarketData.Expiry

/-!
# Soft removal

The sync keeps its count of missed scans beside the registry: a scan that finds an event forgets the count, one that
misses its record raises it, unless the record is closed, expired or protected. Other calls move records through
their states in the meantime. What the count stands for is a matter of the run: how many scans have missed the
record since an appearance.

* `RegistryCall`, `SafeSync.Step`: syncs with everything that happens to the registry between them;
* `missCount_sync_seen`, `missCount_sync_unseen`: one sync and the count;
* `absences`: the scans of a run that have missed a record, back to its last appearance;
* `soft_remove_exact`: which records a scan makes inactive.
-/

namespace Polyfast

/-- A scan that misses the record takes note of it: the record is neither terminal nor protected. -/
def RegistryRecord.Missable (r : RegistryRecord) : Prop :=
  ¬(r.status = .closed ∨ r.status = .expired) ∧ r.hasOpenPosition = false

instance (r : RegistryRecord) : Decidable r.Missable := inferInstanceAs (Decidable (_ ∧ _))

/-- What happens to the registry. -/
inductive RegistryCall
  | sync (events : List DiscoveredEvent) (now : Time)
  | transition (conditionId : ConditionId) (target : EventStatus) (now : Time)
  | expire (now : Time)
  | register (candidate : DiscoveredEvent) (eventId : ℕ) (now : Time)
  | flag (conditionId : ConditionId) (hasOpenPosition : Bool)

/-- The record with its flag set or taken back. -/
def EventRegistry.flag (g : EventRegistry) (c : ConditionId) (flag : Bool) : EventRegistry :=
  match g.records.get? c with
  | some r => g.write { r with hasOpenPosition := flag }
  | none => g

namespace SafeSync

inductive Step : SafeSync → RegistryCall → SafeSync → Prop
  | sync (s : SafeSync) (events : List DiscoveredEvent) (now : Time) :
      Step s (.sync events now) (s.sync events now).1
  | transition (s : SafeSync) (c : ConditionId) (target : EventStatus) (now : Time) (g : EventRegistry)
      (r : RegistryRecord) (hok : s.registry.transitionEvent c target now = .ok (g, r)) :
      Step s (.transition c target now) { s with registry := g }
  | expire (s : SafeSync) (now : Time) :
      Step s (.expire now) { s with registry := (s.registry.expireEvents now).1 }
  | register (s : SafeSync) (candidate : DiscoveredEvent) (eventId : ℕ) (now : Time) :
      Step s (.register candidate eventId now)
        { s with registry := (s.registry.registerCandidate candidate eventId now).1 }
  | flag (s : SafeSync) (c : ConditionId) (flag : Bool) :
      Step s (.flag c flag) { s with registry := s.registry.flag c flag }

/-- The state after the first phase of a sync. -/
def afterFound (s : SafeSync) (events : List DiscoveredEvent) (now : Time) : SafeSync :=
  (events.foldl (seen now) (s, {})).1

/-- There is a record of the event, and a scan that misses it takes note of it. -/
def missable (s : SafeSync) (c : ConditionId) : Bool := (s.registry.records.get? c).any (fun r => r.Missable)

/-- A scan that has found the event. -/
def found (c : ConditionId) (x : Lib.Taken SafeSync RegistryCall) : Bool :=
  match x.label with
  | .sync events _ => c ∈ events.map DiscoveredEvent.conditionId
  | _ => false

/-- A scan at which the record is neither terminal nor protected. -/
def scanned (c : ConditionId) (x : Lib.Taken SafeSync RegistryCall) : Bool :=
  match x.label with
  | .sync _ _ => x.pre.missable c
  | _ => false

/-- The scans that have missed the event while its record was neither terminal nor protected, back to the last scan
that has found it. -/
def absences (c : ConditionId) (tr : List (Lib.Taken SafeSync RegistryCall)) : ℕ := Lib.since (found c) (scanned c) tr

@[simp] theorem found_sync (c : ConditionId) (s s' : SafeSync) (events : List DiscoveredEvent) (now : Time) :
    found c ⟨s, .sync events now, s'⟩ = decide (c ∈ events.map DiscoveredEvent.conditionId) := rfl

@[simp] theorem scanned_sync (c : ConditionId) (s s' : SafeSync) (events : List DiscoveredEvent) (now : Time) :
    scanned c ⟨s, .sync events now, s'⟩ = s.missable c := rfl

variable {s s' : SafeSync} {l : RegistryCall} {c : ConditionId} {events : List DiscoveredEvent} {now : Time}
  {acc : SafeSync × SyncResult} {seenIds : List ConditionId}

/-! ### The count of one event over a sync -/

theorem missCount_seen (acc : SafeSync × SyncResult) (candidate : DiscoveredEvent) (now : Time) (c : ConditionId) :
    (seen now acc candidate).1.missCount c = if candidate.conditionId = c then 0 else acc.1.missCount c := by
  have hcounts : (seen now acc candidate).1.missCounts = acc.1.missCounts.erase candidate.conditionId := by
    unfold seen
    dsimp only
    cases acc.1.registry.getByConditionId candidate.conditionId with
    | none => rfl
    | some existing =>
      dsimp only
      split_ifs <;> rfl
  rw [missCount, hcounts, Lib.Dict.getD, Lib.Dict.get?_erase]
  split_ifs <;> rfl

theorem missCount_foldl_seen (acc : SafeSync × SyncResult)
    (h : c ∈ events.map DiscoveredEvent.conditionId ∨ acc.1.missCount c = 0) :
    (events.foldl (seen now) acc).1.missCount c = 0 := by
  induction events generalizing acc with
  | nil => simpa using h
  | cons e events ih =>
    refine ih _ ?_
    rw [missCount_seen]
    by_cases he : e.conditionId = c
    · rw [if_pos he]
      exact .inr rfl
    · rw [if_neg he]
      simpa [Ne.symm he] using h

/-- What phase 2 makes of the count of one record. -/
theorem missCount_missing (r : RegistryRecord) :
    (missing now seenIds acc r).1.missCount r.conditionId =
      acc.1.missCount r.conditionId + (decide (r.conditionId ∉ seenIds ∧ r.Missable)).toNat := by
  obtain ⟨s, result⟩ := acc
  unfold missing
  dsimp only
  by_cases hseen : r.conditionId ∈ seenIds
  · simp [hseen]
  · rw [if_neg hseen]
    by_cases hdone : r.status = .closed ∨ r.status = .expired
    · simp [hdone, RegistryRecord.Missable]
    · rw [if_neg hdone]
      cases hopen : r.hasOpenPosition with
      | true => simp [RegistryRecord.Missable, hopen]
      | false =>
        have hraised : (s.missCounts.set r.conditionId (s.missCount r.conditionId + 1)).getD r.conditionId 0 =
            s.missCount r.conditionId + 1 := by
          rw [Lib.Dict.getD, Lib.Dict.get?_set, if_pos rfl]
          rfl
        rw [decide_eq_true ⟨hseen, hdone, hopen⟩]
        simp only [Bool.false_eq_true, if_false]
        split_ifs <;> exact hraised

theorem missCount_foldl_missing {l : List RegistryRecord} (hnd : (l.map RegistryRecord.conditionId).Nodup)
    {r : RegistryRecord} (hmem : r ∈ l) :
    (l.foldl (missing now seenIds) acc).1.missCount r.conditionId =
      acc.1.missCount r.conditionId + (decide (r.conditionId ∉ seenIds ∧ r.Missable)).toNat := by
  refine Lib.Table.foldl_own
    (P := fun t : SafeSync × SyncResult => t.1.missCount r.conditionId = acc.1.missCount r.conditionId)
    (Q := fun t => t.1.missCount r.conditionId = acc.1.missCount r.conditionId + _)
    (fun _ _ hx hsame => (missing_other hx).misses.trans hsame) (fun t hsame => ?_)
    (fun _ _ hx hafter => (missing_other hx).misses.trans hafter) hnd hmem rfl
  rw [missCount_missing, hsame]

/-- The count after a sync, from the one after the first phase. -/
theorem missCount_sync (s : SafeSync) (events : List DiscoveredEvent) (now : Time) (c : ConditionId) :
    (s.sync events now).1.missCount c = (s.afterFound events now).missCount c +
      (c ∉ events.map DiscoveredEvent.conditionId && (s.afterFound events now).missable c).toNat := by
  unfold sync afterFound missable
  dsimp only
  generalize events.foldl (seen now) (s, {}) = acc
  cases hr : acc.1.registry.records.get? c with
  | none =>
    rw [Option.any_none, Bool.and_false]
    exact (foldl_missing_other (Lib.Table.not_mem_map_key hr)).misses
  | some r =>
    obtain rfl : r.conditionId = c := Lib.Table.key_of_get? hr
    rw [Option.any_some, ← Bool.decide_and]
    exact missCount_foldl_missing (Lib.Table.nodup_map_key _) (Lib.Table.mem_records_of_get? hr)

/-- **A scan that finds the event** forgets its count. -/
theorem missCount_sync_seen (h : c ∈ events.map DiscoveredEvent.conditionId) :
    (s.sync events now).1.missCount c = 0 := by
  rw [missCount_sync, afterFound, missCount_foldl_seen (s, {}) (.inl h)]
  simp [h]

/-- **A scan that misses the event** raises its count if its record is neither terminal nor protected. -/
theorem missCount_sync_unseen (h : c ∉ events.map DiscoveredEvent.conditionId) :
    (s.sync events now).1.missCount c = s.missCount c + (s.missable c).toNat := by
  have hsame : SameAt s (s.afterFound events now) c := foldl_seen_other (s, {}) h
  rw [missCount_sync, hsame.misses, missable, hsame.record]
  simp [h, missable]

theorem delistThreshold_seen (acc : SafeSync × SyncResult) (candidate : DiscoveredEvent) :
    (seen now acc candidate).1.delistThreshold = acc.1.delistThreshold := by
  unfold seen
  dsimp only
  cases acc.1.registry.getByConditionId candidate.conditionId with
  | none => rfl
  | some existing =>
    dsimp only
    split_ifs <;> rfl

theorem delistThreshold_missing (acc : SafeSync × SyncResult) (r : RegistryRecord) :
    (missing now seenIds acc r).1.delistThreshold = acc.1.delistThreshold := by
  unfold missing
  dsimp only
  split_ifs <;> rfl

theorem delistThreshold_sync : (s.sync events now).1.delistThreshold = s.delistThreshold := by
  have hfold : ∀ {α : Type} (f : SafeSync × SyncResult → α → SafeSync × SyncResult),
      (∀ acc a, (f acc a).1.delistThreshold = acc.1.delistThreshold) → ∀ (l : List α) acc,
      (l.foldl f acc).1.delistThreshold = acc.1.delistThreshold := by
    intro α f hf l
    induction l with
    | nil => exact fun _ => rfl
    | cons a l ih => exact fun acc => (ih _).trans (hf acc a)
  unfold sync
  dsimp only
  rw [hfold _ delistThreshold_missing, hfold _ delistThreshold_seen]

/-! ### Runs -/

theorem Step.missCount (hst : Step s l s') :
    s'.missCount c = if found c ⟨s, l, s'⟩ then 0 else s.missCount c + (scanned c ⟨s, l, s'⟩).toNat := by
  cases hst with
  | sync events now =>
    by_cases hc : c ∈ events.map DiscoveredEvent.conditionId
    · rw [missCount_sync_seen hc, found_sync, if_pos (decide_eq_true hc)]
    · rw [missCount_sync_unseen hc, found_sync, decide_eq_false hc, scanned_sync]
      rfl
  | transition k target now g r hok => rfl
  | expire now => rfl
  | register candidate eventId now => rfl
  | flag k flag => rfl

theorem Step.eq_sync (hst : Step s (.sync events now) s') : s' = (s.sync events now).1 := by
  generalize hl : RegistryCall.sync events now = l at hst
  cases hst with
  | sync events now =>
    obtain ⟨rfl, rfl⟩ := RegistryCall.sync.inj hl
    rfl
  | transition k target now g r hok => cases hl
  | expire now => cases hl
  | register candidate eventId now => cases hl
  | flag k flag => cases hl

theorem Step.delistThreshold (hst : Step s l s') : s'.delistThreshold = s.delistThreshold := by
  cases hst with
  | sync events now => exact delistThreshold_sync
  | transition k target now g r hok => rfl
  | expire now => rfl
  | register candidate eventId now => rfl
  | flag k flag => rfl

/-- **The counts are the absences.** -/
theorem missCount_eq_absences {g : EventRegistry} {k : ℕ} {tr : List (Lib.Taken SafeSync RegistryCall)}
    (h : Lib.Run Step { registry := g, delistThreshold := k } tr s) : s.missCount c = absences c tr :=
  h.counter_eq_since rfl fun _ _ _ hst => hst.missCount

theorem delistThreshold_run {g : EventRegistry} {k : ℕ} {tr : List (Lib.Taken SafeSync RegistryCall)}
    (h : Lib.Run Step { registry := g, delistThreshold := k } tr s) : s.delistThreshold = k :=
  (h.invariant (I := fun s => s.delistThreshold = k) (fun _ _ _ hs hst => hst.delistThreshold.trans hs) rfl).1

/-- A terminal or protected record is not removed. -/
theorem not_removes {r : RegistryRecord}
    (h : r.status = .closed ∨ r.status = .expired ∨ r.hasOpenPosition = true) : ¬s.Removes r := by
  rintro ⟨hopen, -, hcan⟩
  rcases h with h | h | h
  · simp [RegistryRecord.canTransitionTo, h, EventStatus.allowedTransitions] at hcan
  · simp [RegistryRecord.canTransitionTo, h, EventStatus.allowedTransitions] at hcan
  · rw [hopen] at h
    cases h

theorem sync_spares {r : RegistryRecord} (hr : (s.afterFound events now).registry.records.get? c = some r)
    (h : r.status = .closed ∨ r.status = .expired ∨ r.hasOpenPosition = true) :
    (s.sync events now).1.registry.records.get? c = some r := by
  have hr' : (events.foldl (seen now) (s, {})).1.registry.records.get? c = some r := hr
  rw [get?_sync, hr', Option.map_some, afterMiss, if_neg (not_removes h), ite_self]

theorem get?_sync_isSome {r : RegistryRecord} (hr : s.registry.records.get? c = some r) :
    ∃ r', (s.sync events now).1.registry.records.get? c = some r' := by
  by_cases hc : c ∈ events.map DiscoveredEvent.conditionId
  · have hseen : (s.sync events now).1.status c = _ := status_sync_seen hc
    obtain ⟨r', hr', -⟩ := Option.map_eq_some_iff.mp hseen
    exact ⟨r', hr'⟩
  · exact ⟨_, (get?_sync_unseen hc).trans (congrArg (Option.map _) hr)⟩

/-- **Soft removal is exact.** In any run from any registry, for every scan of it and every event: a record in one of
the states before `INACTIVE` and without an open position becomes inactive exactly if the scan misses it, and with
this one at least as many scans as the threshold have missed it, while it was neither terminal nor protected, since
it last appeared; what is terminal or protected after the first phase stays as it is; and no record is lost. -/
theorem soft_remove_exact {g : EventRegistry} {k : ℕ} {tr tr₁ tr₂ : List (Lib.Taken SafeSync RegistryCall)}
    {x : Lib.Taken SafeSync RegistryCall}
    (h : Lib.Run Step { registry := g, delistThreshold := k } tr s) (htr : tr = tr₁ ++ x :: tr₂)
    (hx : x.label = .sync events now) (c : ConditionId) :
    (∀ r, x.pre.registry.records.get? c = some r → r.status ∈ [.discovered, .validating, .active] →
        r.hasOpenPosition = false → (x.post.status c = some .inactive ↔
          c ∉ events.map DiscoveredEvent.conditionId ∧ k ≤ absences c (tr₁ ++ [x]))) ∧
      (∀ r, (x.pre.afterFound events now).registry.records.get? c = some r →
        r.status = .closed ∨ r.status = .expired ∨ r.hasOpenPosition = true →
          x.post.registry.records.get? c = some r) ∧
      ∀ r, x.pre.registry.records.get? c = some r → ∃ r', x.post.registry.records.get? c = some r' := by
  subst htr
  obtain ⟨t, hrun, hrest⟩ := Lib.Run.split h
  obtain ⟨rfl, hst, -⟩ := Lib.Run.cons_inv hrest
  have hcount := missCount_eq_absences (c := c) hrun
  have hk := delistThreshold_run hrun
  obtain ⟨pre, l, post⟩ := x
  obtain rfl : l = .sync events now := hx
  obtain rfl : post = (pre.sync events now).1 := hst.eq_sync
  refine ⟨fun r hr hstatus hopen => ?_, fun r hr => sync_spares hr, fun r hr => get?_sync_isSome hr⟩
  have hkey : r.conditionId = c := Lib.Table.key_of_get? hr
  have hbefore : pre.status c ≠ some .inactive := by
    rw [status, EventRegistry.status, hr, Option.map_some]
    rintro heq
    rw [Option.some.inj heq] at hstatus
    simp at hstatus
  have hcan : r.canTransitionTo .inactive = true := by
    simp only [List.mem_cons, List.not_mem_nil, or_false] at hstatus
    rcases hstatus with hst | hst | hst <;>
      simp [RegistryRecord.canTransitionTo, hst, EventStatus.allowedTransitions]
  have hmissable : pre.missable c = true := by
    rw [missable, hr, Option.any_some, decide_eq_true_eq]
    refine ⟨?_, hopen⟩
    rintro (hst | hst) <;> simp [hst] at hstatus
  have hiff := sync_removes_iff (s := pre) events now c
  rw [and_iff_right hbefore] at hiff
  rw [hiff]
  refine and_congr_right fun hc => ?_
  have hlast : absences c (tr₁ ++ [⟨pre, .sync events now, (pre.sync events now).1⟩]) = pre.missCount c + 1 := by
    rw [absences, Lib.since_concat, ← absences, ← hcount, found_sync, decide_eq_false hc, scanned_sync, hmissable]
    rfl
  rw [hlast]
  constructor
  · rintro ⟨r', hr', -, hmiss, -⟩
    obtain rfl := Option.some.inj (hr.symm.trans hr')
    rw [hk, hkey] at hmiss
    exact hmiss
  · intro hmiss
    exact ⟨r, hr, hopen, by rw [hk, hkey]; exact hmiss, hcan⟩

/-- A sync that removes what two scans miss; it finds the first event, and then misses it. -/
def removesAtTwo : SafeSync := { registry := {}, delistThreshold := 2 }

def foundFirst : SafeSync := (removesAtTwo.sync [firstEvent] 0).1

def missedOnce : SafeSync := (foundFirst.sync [secondEvent] 0).1

def missedTwice : SafeSync := (missedOnce.sync [secondEvent] 0).1

theorem soft_remove_at_two :
    missedOnce.status "first" ≠ some .inactive ∧ missedTwice.status "first" = some .inactive := by
  have hrun := ((Lib.Run.single (Step.sync removesAtTwo [firstEvent] 0)).snoc (Step.sync _ [secondEvent] 0)).snoc
    (Step.sync _ [secondEvent] 0)
  constructor
  · intro hin
    obtain ⟨-, habs⟩ := ((soft_remove_exact hrun (show _ = [⟨removesAtTwo, .sync [firstEvent] 0, foundFirst⟩] ++
      ⟨foundFirst, .sync [secondEvent] 0, missedOnce⟩ :: _ from rfl) rfl "first").1
        (EventRegistry.newRecord firstEvent 0) rfl (by decide) rfl).mp hin
    exact absurd habs (by decide +kernel)
  · exact ((soft_remove_exact hrun (show _ = [⟨removesAtTwo, .sync [firstEvent] 0, foundFirst⟩,
      ⟨foundFirst, .sync [secondEvent] 0, missedOnce⟩] ++ [⟨missedOnce, .sync [secondEvent] 0, missedTwice⟩] from rfl)
      rfl "first").1 (EventRegistry.newRecord firstEvent 0) rfl (by decide) rfl).mpr ⟨by decide, by decide +kernel⟩

end SafeSync

end Polyfast
