import Polyfast.Discovery.Models
import Polyfast.MarketData.Registry

/-!
# The registry and its sync

A record goes through its states along `allowedTransitions`. After every scan `SafeSync.sync` registers what is
new, restores what has reappeared, and counts how often in a row each of the others was missed; at the threshold
a record becomes inactive, unless it is flagged as having an open position.

* `EventRegistry.registerCandidate`, `transitionEvent`, `expireEvents`;
* `SafeSync.sync`: first the events of the scan, then the records that are not among them;
* `status_sync_seen`, `get?_sync_unseen`: what becomes of the one and the other.
-/

namespace Polyfast

def EventStatus.value : EventStatus → String
  | discovered => "discovered"
  | validating => "validating"
  | active => "active"
  | inactive => "inactive"
  | expired => "expired"
  | suspended => "suspended"
  | closed => "closed"

/-- `ALLOWED_TRANSITIONS` of the registry. -/
def EventStatus.allowedTransitions : EventStatus → List EventStatus
  | .discovered => [.validating, .inactive, .closed]
  | .validating => [.active, .inactive, .closed]
  | .active => [.inactive, .expired, .suspended, .closed]
  | .inactive => [.active, .expired, .closed]
  | .expired => [.closed]
  | .suspended => [.active, .closed]
  | .closed => []

inductive RegistryError
  | keyError (message : String)
  | invalidTransition (message : String)
  deriving DecidableEq

namespace RegistryRecord

variable (r : RegistryRecord)

def canTransitionTo (target : EventStatus) : Bool := target ∈ r.status.allowedTransitions

/-- The record with its status changed. -/
def inStatus (target : EventStatus) (now : Time) : RegistryRecord := { r with status := target, statusChangedAt := now }

def transitionTo (target : EventStatus) (now : Time) : Except RegistryError RegistryRecord :=
  if r.canTransitionTo target then .ok (r.inStatus target now)
  else .error (.invalidTransition
    s!"Invalid transition: {r.status.value} → {target.value} for event {r.eventId}")

def updateLastSeen (now : Time) : RegistryRecord := { r with lastSeenAt := now }

end RegistryRecord

namespace EventRegistry

variable (g : EventRegistry)

/-- The record object, changed in place. -/
def write (r : RegistryRecord) : EventRegistry := { g with records := g.records.put r }

/-- What `register_candidate` makes of an event it does not know. -/
def newRecord (candidate : DiscoveredEvent) (eventId : ℕ) : RegistryRecord where
  eventId := eventId
  conditionId := candidate.conditionId
  asset := candidate.asset
  question := candidate.question
  slug := candidate.slug
  status := .discovered
  firstSeenAt := candidate.discoveredAt
  lastSeenAt := candidate.discoveredAt
  statusChangedAt := candidate.discoveredAt
  endDate := candidate.endDate

def registerCandidate (candidate : DiscoveredEvent) (eventId : ℕ) (now : Time) : EventRegistry × RegistryRecord :=
  match g.records.get? candidate.conditionId with
  | some existing => (g.write (existing.updateLastSeen now), existing.updateLastSeen now)
  | none => (g.write (newRecord candidate eventId), newRecord candidate eventId)

def transitionEvent (conditionId : ConditionId) (target : EventStatus) (now : Time) :
    Except RegistryError (EventRegistry × RegistryRecord) :=
  match g.records.get? conditionId with
  | none => .error (.keyError s!"Event not found in registry: {conditionId}")
  | some r =>
    match r.transitionTo target now with
    | .error e => .error e
    | .ok r => .ok (g.write r, r)

/-- The status of an event, if it has a record. -/
def status (c : ConditionId) : Option EventStatus := (g.records.get? c).map RegistryRecord.status

theorem status_write {g : EventRegistry} {c : ConditionId} (r : RegistryRecord) :
    (g.write r).status c = if r.conditionId = c then some r.status else g.status c := by
  rw [status, write, Lib.Table.get?_put]
  split_ifs <;> rfl

/-- One record of `expire_events`; a transition that is not allowed is passed over. -/
def expireOne (now : Time) (acc : EventRegistry × List ConditionId) (r : RegistryRecord) :
    EventRegistry × List ConditionId :=
  if r.status = .expired ∨ r.status = .closed then acc
  else if r.endDate ≤ now then
    match r.transitionTo .expired now with
    | .ok r => (acc.1.write r, acc.2 ++ [r.conditionId])
    | .error _ => acc
  else acc

def expireEvents (now : Time) : EventRegistry × List ConditionId :=
  g.records.records.foldl (expireOne now) (g, [])

end EventRegistry

structure SyncResult where
  newRegistered : ℕ := 0
  updatedLastSeen : ℕ := 0
  softRemoved : ℕ := 0
  protectedByPosition : ℕ := 0
  restored : ℕ := 0
  totalInRegistry : ℕ := 0

structure SafeSync where
  registry : EventRegistry := {}
  delistThreshold : ℕ := 3
  /-- Consecutive misses. -/
  missCounts : Lib.Dict ConditionId ℕ := .empty
  uuids : ℕ := 0

namespace SafeSync

variable (s : SafeSync)

/-- Phase 1, one event of the scan. -/
def seen (now : Time) (acc : SafeSync × SyncResult) (candidate : DiscoveredEvent) : SafeSync × SyncResult :=
  let (s, result) := acc
  let missCounts := s.missCounts.erase candidate.conditionId
  match s.registry.getByConditionId candidate.conditionId with
  | none =>
    ({ s with registry := (s.registry.registerCandidate candidate s.uuids now).1, missCounts := missCounts
              uuids := s.uuids + 1 },
      { result with newRegistered := result.newRegistered + 1 })
  | some existing =>
    let existing := existing.updateLastSeen now
    let result := { result with updatedLastSeen := result.updatedLastSeen + 1 }
    if existing.status = .inactive && existing.canTransitionTo .active then
      ({ s with registry := s.registry.write (existing.inStatus .active now), missCounts := missCounts },
        { result with restored := result.restored + 1 })
    else ({ s with registry := s.registry.write existing, missCounts := missCounts }, result)

def missCount (conditionId : ConditionId) : ℕ := s.missCounts.getD conditionId 0

/-- Phase 2, one record. -/
def missing (now : Time) (seenIds : List ConditionId) (acc : SafeSync × SyncResult) (r : RegistryRecord) :
    SafeSync × SyncResult :=
  let (s, result) := acc
  if r.conditionId ∈ seenIds then acc
  else if r.status = .closed ∨ r.status = .expired then acc
  else if r.hasOpenPosition then (s, { result with protectedByPosition := result.protectedByPosition + 1 })
  else
    let missCount := s.missCount r.conditionId + 1
    let s := { s with missCounts := s.missCounts.set r.conditionId missCount }
    if missCount ≥ s.delistThreshold then
      if r.canTransitionTo .inactive then
        ({ s with registry := s.registry.write (r.inStatus .inactive now) },
          { result with softRemoved := result.softRemoved + 1 })
      else (s, result)
    else (s, result)

def sync (discoveredEvents : List DiscoveredEvent) (now : Time) : SafeSync × SyncResult :=
  let seenIds := discoveredEvents.map DiscoveredEvent.conditionId
  let (s, result) := discoveredEvents.foldl (seen now) (s, {})
  let (s, result) := s.registry.records.records.foldl (missing now seenIds) (s, result)
  (s, { result with totalInRegistry := s.registry.records.records.length })

/-! ### An event of the scan -/

def status (c : ConditionId) : Option EventStatus := s.registry.status c

/-- The status of an event once a scan has found it: new events are discovered, inactive ones active again. -/
def statusWhenSeen : Option EventStatus → EventStatus
  | none => .discovered
  | some .inactive => .active
  | some status => status

theorem statusWhenSeen_ne_inactive (o : Option EventStatus) : statusWhenSeen o ≠ .inactive := by
  cases o with
  | none => simp [statusWhenSeen]
  | some status => cases status <;> simp [statusWhenSeen]

theorem statusWhenSeen_some {status : EventStatus} (h : status ≠ .inactive) :
    statusWhenSeen (some status) = status := by
  cases status <;> first | rfl | exact absurd rfl h

variable {s} {acc : SafeSync × SyncResult} {now : Time} {c : ConditionId}

/-- The record of an event once a scan has found it. -/
theorem seen_writes (acc : SafeSync × SyncResult) (candidate : DiscoveredEvent) (now : Time) :
    ∃ r, (seen now acc candidate).1.registry = acc.1.registry.write r ∧ r.conditionId = candidate.conditionId ∧
      r.status = statusWhenSeen (acc.1.status candidate.conditionId) ∧
      (r.hasOpenPosition = true →
        ∃ r₀, acc.1.registry.records.get? candidate.conditionId = some r₀ ∧ r₀.hasOpenPosition = true) := by
  obtain ⟨s, result⟩ := acc
  unfold seen status EventRegistry.status EventRegistry.getByConditionId
  dsimp only
  cases hr : s.registry.records.get? candidate.conditionId with
  | none =>
    refine ⟨EventRegistry.newRecord candidate s.uuids, ?_, rfl, rfl, fun h => by cases h⟩
    simp only [EventRegistry.registerCandidate, hr]
  | some existing =>
    have hkey : existing.conditionId = candidate.conditionId := Lib.Table.key_of_get? hr
    by_cases hin : existing.status = .inactive
    · have hcan : ((existing.updateLastSeen now).status = .inactive &&
          (existing.updateLastSeen now).canTransitionTo .active) = true := by
        simp [RegistryRecord.updateLastSeen, RegistryRecord.canTransitionTo, hin, EventStatus.allowedTransitions]
      refine ⟨(existing.updateLastSeen now).inStatus .active now, ?_, hkey, ?_, fun h => ⟨existing, rfl, h⟩⟩
      · simp only [hcan, if_true]
      · simp [hin, statusWhenSeen, RegistryRecord.inStatus]
    · have hcan : ((existing.updateLastSeen now).status = .inactive &&
          (existing.updateLastSeen now).canTransitionTo .active) = false := by
        simp [RegistryRecord.updateLastSeen, hin]
      refine ⟨existing.updateLastSeen now, ?_, hkey, (statusWhenSeen_some hin).symm, fun h => ⟨existing, rfl, h⟩⟩
      simp only [hcan, Bool.false_eq_true, if_false]

theorem status_seen (acc : SafeSync × SyncResult) (candidate : DiscoveredEvent) (now : Time) (c : ConditionId) :
    (seen now acc candidate).1.status c =
      if candidate.conditionId = c then some (statusWhenSeen (acc.1.status c)) else acc.1.status c := by
  obtain ⟨r, hreg, hid, hstatus, -⟩ := seen_writes acc candidate now
  rw [status, hreg, EventRegistry.status_write, hid]
  split_ifs with hc
  · rw [hstatus, hc]
  · rfl

/-- **What a scan finds** is not inactive afterwards. -/
theorem status_foldl_seen (events : List DiscoveredEvent) (acc : SafeSync × SyncResult) :
    (events.foldl (seen now) acc).1.status c =
      if c ∈ events.map DiscoveredEvent.conditionId then some (statusWhenSeen (acc.1.status c))
      else acc.1.status c := by
  induction events generalizing acc with
  | nil => simp
  | cons e events ih =>
    rw [List.foldl_cons, ih, status_seen, List.map_cons]
    by_cases he : e.conditionId = c
    · subst he
      rw [if_pos rfl, if_pos List.mem_cons_self, statusWhenSeen_some (statusWhenSeen_ne_inactive _), ite_self]
    · rw [if_neg he]
      by_cases hmem : c ∈ events.map DiscoveredEvent.conditionId
      · rw [if_pos hmem, if_pos (List.mem_cons_of_mem _ hmem)]
      · rw [if_neg hmem, if_neg (by simp [hmem, Ne.symm he])]

/-- The record and the misses of an event are those of before. -/
structure SameAt (s s' : SafeSync) (c : ConditionId) : Prop where
  record : s'.registry.records.get? c = s.registry.records.get? c
  misses : s'.missCount c = s.missCount c
  threshold : s'.delistThreshold = s.delistThreshold

theorem SameAt.refl (s : SafeSync) (c : ConditionId) : SameAt s s c := ⟨rfl, rfl, rfl⟩

theorem SameAt.trans {s' s'' : SafeSync} (h : SameAt s s' c) (h' : SameAt s' s'' c) : SameAt s s'' c where
  record := h'.record.trans h.record
  misses := h'.misses.trans h.misses
  threshold := h'.threshold.trans h.threshold

theorem seen_other {candidate : DiscoveredEvent} (hc : candidate.conditionId ≠ c) :
    SameAt acc.1 (seen now acc candidate).1 c := by
  obtain ⟨r, hreg, hid, -, -⟩ := seen_writes acc candidate now
  have hrest : (seen now acc candidate).1.missCounts = acc.1.missCounts.erase candidate.conditionId ∧
      (seen now acc candidate).1.delistThreshold = acc.1.delistThreshold := by
    unfold seen
    dsimp only
    cases acc.1.registry.getByConditionId candidate.conditionId with
    | none => exact ⟨rfl, rfl⟩
    | some existing =>
      dsimp only
      split_ifs
      · exact ⟨rfl, rfl⟩
      · exact ⟨rfl, rfl⟩
  refine ⟨?_, ?_, hrest.2⟩
  · rw [hreg]
    exact Lib.Table.get?_put_ne _ (hid ▸ hc)
  · rw [missCount, hrest.1, Lib.Dict.getD, Lib.Dict.get?_erase_ne _ hc]
    rfl

theorem foldl_seen_other {events : List DiscoveredEvent} (acc : SafeSync × SyncResult)
    (hc : c ∉ events.map DiscoveredEvent.conditionId) : SameAt acc.1 (events.foldl (seen now) acc).1 c := by
  induction events generalizing acc with
  | nil => exact SameAt.refl _ c
  | cons e events ih =>
    rw [List.map_cons, List.mem_cons, not_or] at hc
    exact (seen_other (Ne.symm hc.1)).trans (ih _ hc.2)

/-! ### A record that the scan misses -/

/-- Missed now, the record becomes inactive. -/
def Removes (s : SafeSync) (r : RegistryRecord) : Prop :=
  r.hasOpenPosition = false ∧ s.delistThreshold ≤ s.missCount r.conditionId + 1 ∧ r.canTransitionTo .inactive = true

instance (s : SafeSync) (r : RegistryRecord) : Decidable (s.Removes r) := inferInstanceAs (Decidable (_ ∧ _ ∧ _))

/-- The record once a scan has missed it. -/
def afterMiss (s : SafeSync) (now : Time) (r : RegistryRecord) : RegistryRecord :=
  if s.Removes r then r.inStatus .inactive now else r

theorem status_afterMiss (r : RegistryRecord) :
    (s.afterMiss now r).status = if s.Removes r then .inactive else r.status := by
  unfold afterMiss
  split_ifs <;> rfl

@[simp] theorem hasOpenPosition_afterMiss (r : RegistryRecord) :
    (s.afterMiss now r).hasOpenPosition = r.hasOpenPosition := by
  unfold afterMiss
  split_ifs <;> rfl

theorem Removes.congr {s' : SafeSync} {r : RegistryRecord} (h : SameAt s s' r.conditionId) :
    s'.Removes r ↔ s.Removes r := by
  unfold Removes
  rw [h.misses, h.threshold]

theorem afterMiss_congr {s' : SafeSync} {r : RegistryRecord} (h : SameAt s s' r.conditionId) :
    s'.afterMiss now r = s.afterMiss now r := by
  simp only [afterMiss, Removes.congr h]

theorem missing_other {seenIds : List ConditionId} {r : RegistryRecord} (hc : r.conditionId ≠ c) :
    SameAt acc.1 (missing now seenIds acc r).1 c := by
  obtain ⟨s, result⟩ := acc
  unfold missing
  dsimp only
  split_ifs
  · exact SameAt.refl s c
  · exact SameAt.refl s c
  · exact SameAt.refl s c
  · refine ⟨Lib.Table.get?_put_ne _ hc, ?_, rfl⟩
    exact congrArg (·.getD 0) (Lib.Dict.get?_set_ne _ hc _)
  · exact ⟨rfl, congrArg (·.getD 0) (Lib.Dict.get?_set_ne _ hc _), rfl⟩
  · exact ⟨rfl, congrArg (·.getD 0) (Lib.Dict.get?_set_ne _ hc _), rfl⟩

theorem missing_self {seenIds : List ConditionId} {r : RegistryRecord}
    (hr : acc.1.registry.records.get? r.conditionId = some r) :
    (missing now seenIds acc r).1.registry.records.get? r.conditionId =
      some (if r.conditionId ∈ seenIds then r else acc.1.afterMiss now r) := by
  obtain ⟨s, result⟩ := acc
  unfold missing afterMiss
  dsimp only at hr ⊢
  by_cases hseen : r.conditionId ∈ seenIds
  · simp only [if_pos hseen, hr]
  · rw [if_neg hseen, if_neg hseen]
    by_cases hdone : r.status = .closed ∨ r.status = .expired
    · have hstay : ¬s.Removes r := by
        rintro ⟨-, -, hcan⟩
        rcases hdone with hstatus | hstatus <;>
          simp [RegistryRecord.canTransitionTo, hstatus, EventStatus.allowedTransitions] at hcan
      rw [if_pos hdone, if_neg hstay]
      exact hr
    · rw [if_neg hdone]
      by_cases hopen : r.hasOpenPosition = true
      · rw [if_pos hopen, if_neg (fun h => by simp [Removes, hopen] at h)]
        exact hr
      · rw [if_neg hopen]
        by_cases hmiss : s.delistThreshold ≤ s.missCount r.conditionId + 1
        · by_cases hcan : r.canTransitionTo .inactive = true
          · rw [if_pos hmiss, if_pos hcan, if_pos ⟨Bool.not_eq_true _ ▸ hopen, hmiss, hcan⟩]
            exact Lib.Table.get?_put_self _ (r.inStatus .inactive now)
          · rw [if_pos hmiss, if_neg hcan, if_neg (fun h => hcan h.2.2)]
            exact hr
        · rw [if_neg hmiss, if_neg (fun h => hmiss h.2.1)]
          exact hr

theorem foldl_missing_other {seenIds : List ConditionId} {l : List RegistryRecord}
    (hc : c ∉ l.map RegistryRecord.conditionId) : SameAt acc.1 (l.foldl (missing now seenIds) acc).1 c :=
  Lib.Table.foldl_apart (P := fun t : SafeSync × SyncResult => SameAt acc.1 t.1 c)
    (fun _ _ hx hsame => hsame.trans (missing_other hx)) hc (SameAt.refl _ c)

theorem foldl_missing_self {seenIds : List ConditionId} {l : List RegistryRecord}
    (hnd : (l.map RegistryRecord.conditionId).Nodup) {r : RegistryRecord} (hmem : r ∈ l)
    (hr : acc.1.registry.records.get? r.conditionId = some r) :
    (l.foldl (missing now seenIds) acc).1.registry.records.get? r.conditionId =
      some (if r.conditionId ∈ seenIds then r else acc.1.afterMiss now r) := by
  refine Lib.Table.foldl_own (P := fun t : SafeSync × SyncResult => SameAt acc.1 t.1 r.conditionId)
    (Q := fun t => t.1.registry.records.get? r.conditionId =
      some (if r.conditionId ∈ seenIds then r else acc.1.afterMiss now r))
    (fun _ _ hx hsame => hsame.trans (missing_other hx)) (fun t hsame => ?_)
    (fun _ _ hx hafter => (missing_other hx).record.trans hafter) hnd hmem (SameAt.refl _ _)
  rw [missing_self (hsame.record.trans hr), afterMiss_congr hsame]

/-! ### The whole sync -/

section Sync

variable {events : List DiscoveredEvent}

/-- The records after the sync: those of the first phase, missed where the scan has not found them. -/
theorem get?_sync (events : List DiscoveredEvent) (now : Time) (c : ConditionId) :
    (s.sync events now).1.registry.records.get? c =
      ((events.foldl (seen now) (s, {})).1.registry.records.get? c).map (fun r =>
        if c ∈ events.map DiscoveredEvent.conditionId then r
        else (events.foldl (seen now) (s, {})).1.afterMiss now r) := by
  unfold sync
  dsimp only
  generalize hacc : events.foldl (seen now) (s, {}) = acc
  cases hr : acc.1.registry.records.get? c with
  | none => exact (foldl_missing_other (Lib.Table.not_mem_map_key hr)).record.trans hr
  | some r =>
    obtain rfl : r.conditionId = c := Lib.Table.key_of_get? hr
    exact foldl_missing_self (Lib.Table.nodup_map_key _) (Lib.Table.mem_records_of_get? hr) hr

theorem status_sync_seen (h : c ∈ events.map DiscoveredEvent.conditionId) :
    (s.sync events now).1.status c = some (statusWhenSeen (s.status c)) := by
  have hseen : (events.foldl (seen now) (s, {})).1.status c = _ := status_foldl_seen events (s, {})
  rw [if_pos h] at hseen
  rw [status, EventRegistry.status, get?_sync, Option.map_map, ← hseen, status, EventRegistry.status]
  simp only [if_pos h]
  rfl

/-- **What a scan misses** stays as it is, or becomes inactive. -/
theorem get?_sync_unseen (h : c ∉ events.map DiscoveredEvent.conditionId) :
    (s.sync events now).1.registry.records.get? c = (s.registry.records.get? c).map (s.afterMiss now) := by
  have hsame : SameAt s (events.foldl (seen now) (s, {})).1 c := foldl_seen_other (s, {}) h
  rw [get?_sync, hsame.record]
  cases hr : s.registry.records.get? c with
  | none => rfl
  | some r =>
    have hkey : r.conditionId = c := Lib.Table.key_of_get? hr
    rw [Option.map_some, Option.map_some, if_neg h, afterMiss_congr (hkey ▸ hsame)]

theorem status_sync_unseen (h : c ∉ events.map DiscoveredEvent.conditionId) :
    (s.sync events now).1.status c =
      (s.registry.records.get? c).map (fun r => if s.Removes r then .inactive else r.status) := by
  rw [status, EventRegistry.status, get?_sync_unseen h, Option.map_map]
  exact congrArg (fun f => (s.registry.records.get? c).map f) (funext status_afterMiss)

/-- An event becomes inactive exactly if its record is missed and nothing keeps it. -/
theorem sync_removes_iff (events : List DiscoveredEvent) (now : Time) (c : ConditionId) :
    (s.status c ≠ some .inactive ∧ (s.sync events now).1.status c = some .inactive) ↔
      c ∉ events.map DiscoveredEvent.conditionId ∧ ∃ r, s.registry.records.get? c = some r ∧ s.Removes r := by
  by_cases hc : c ∈ events.map DiscoveredEvent.conditionId
  · rw [status_sync_seen hc]
    refine iff_of_false (fun h => statusWhenSeen_ne_inactive _ (Option.some.inj h.2)) fun h => h.1 hc
  · rw [status_sync_unseen hc, status, EventRegistry.status, and_iff_right hc]
    cases hr : s.registry.records.get? c with
    | none => simp
    | some r =>
      have hneeds : s.Removes r → r.status ≠ .inactive := by
        rintro ⟨-, -, hcan⟩ hin
        simp [RegistryRecord.canTransitionTo, hin, EventStatus.allowedTransitions] at hcan
      by_cases hrem : s.Removes r
      · simp [hrem, hneeds hrem]
      · simp [hrem]

/-- No sync flags a record. -/
theorem sync_unflagged (h : ∀ c r, s.registry.records.get? c = some r → r.hasOpenPosition = false)
    {r : RegistryRecord} (hr : (s.sync events now).1.registry.records.get? c = some r) : r.hasOpenPosition = false := by
  have hfold : ∀ (l : List DiscoveredEvent) (acc : SafeSync × SyncResult),
      (∀ c r, acc.1.registry.records.get? c = some r → r.hasOpenPosition = false) →
      ∀ c r, (l.foldl (seen now) acc).1.registry.records.get? c = some r → r.hasOpenPosition = false := by
    intro l
    induction l with
    | nil => exact fun acc hacc => hacc
    | cons e l ih =>
      intro acc hacc
      refine ih _ fun c r hr => ?_
      obtain ⟨r', hreg, hid, -, hflag⟩ := seen_writes acc e now
      rw [hreg, EventRegistry.write, Lib.Table.get?_put] at hr
      split_ifs at hr
      · rw [← Option.some.inj hr, Bool.eq_false_iff]
        intro hopen
        obtain ⟨r₀, hr₀, hopen₀⟩ := hflag hopen
        rw [hacc _ r₀ hr₀] at hopen₀
        cases hopen₀
      · exact hacc c r hr
  rw [get?_sync] at hr
  obtain ⟨r₀, hr₀, rfl⟩ := Option.map_eq_some_iff.mp hr
  have hflag := hfold events (s, {}) h c r₀ hr₀
  split_ifs
  · exact hflag
  · rw [hasOpenPosition_afterMiss]
    exact hflag

end Sync

end SafeSync

end Polyfast
