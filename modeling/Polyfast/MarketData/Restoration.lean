import Polyfast.Lib.Run
import Polyfast.MarketData.SafeSync

/-!
# Restored events

A sync restores an inactive record as active, whatever it was before it was removed. `History` remembers beside
the registry what each record was removed from, and which have gone from validating to active.

* `History.Step`: syncs, transitions and expiries in any order;
* `Restores`, `Validated`: a restored record is what it was, an active one has been validated;
* `restoration_iff`: the runs in which both hold.
-/

namespace Polyfast

/-! ### Transitions and expiry -/

namespace EventRegistry

variable {g g' : EventRegistry} {c : ConditionId}

/-- A transition that goes through is one of the table, and changes one record. -/
theorem status_transitionEvent {target : EventStatus} {now : Time} {r : RegistryRecord} {k : ConditionId}
    (h : g.transitionEvent k target now = .ok (g', r)) :
    (∃ old, g.status k = some old ∧ target ∈ old.allowedTransitions) ∧
      g'.status c = if k = c then some target else g.status c := by
  unfold transitionEvent at h
  cases hr : g.records.get? k with
  | none => simp [hr] at h
  | some r₀ =>
    have hkey : r₀.conditionId = k := Lib.Table.key_of_get? hr
    simp only [hr, RegistryRecord.transitionTo] at h
    by_cases hcan : r₀.canTransitionTo target = true
    · simp only [hcan, if_true, Except.ok.injEq, Prod.mk.injEq] at h
      obtain ⟨rfl, -⟩ := h
      refine ⟨⟨r₀.status, by rw [status, hr, Option.map_some], of_decide_eq_true hcan⟩, ?_⟩
      have hid : (r₀.inStatus target now).conditionId = k := hkey
      rw [status_write, hid]
      rfl
    · simp [hcan] at h

theorem status_expireOne (now : Time) (acc : EventRegistry × List ConditionId) (r : RegistryRecord) :
    (expireOne now acc r).1.status c = acc.1.status c ∨ (expireOne now acc r).1.status c = some .expired := by
  unfold expireOne
  split_ifs with hdone hend
  · exact .inl rfl
  · unfold RegistryRecord.transitionTo
    split_ifs
    · change (acc.1.write (r.inStatus .expired now)).status c = _ ∨ (acc.1.write (r.inStatus .expired now)).status c = _
      rw [status_write]
      split_ifs
      · exact .inr rfl
      · exact .inl rfl
    · exact .inl rfl
  · exact .inl rfl

/-- An expiry leaves a record as it is, or expires it. -/
theorem status_expireEvents (now : Time) :
    (g.expireEvents now).1.status c = g.status c ∨ (g.expireEvents now).1.status c = some .expired := by
  have hfold : ∀ (l : List RegistryRecord) (acc : EventRegistry × List ConditionId),
      (l.foldl (expireOne now) acc).1.status c = acc.1.status c ∨
        (l.foldl (expireOne now) acc).1.status c = some .expired := by
    intro l
    induction l with
    | nil => exact fun acc => .inl rfl
    | cons r l ih =>
      intro acc
      rcases ih (expireOne now acc r) with hrest | hrest
      · rcases status_expireOne (c := c) now acc r with hone | hone
        · exact .inl (hrest.trans hone)
        · exact .inr (hrest.trans hone)
      · exact .inr hrest
  exact hfold g.records.records (g, [])

end EventRegistry

/-! ### Where records come from -/

structure History where
  sync : SafeSync := {}
  /-- The status that the last sync has removed an inactive record from. -/
  removedFrom : ConditionId → Option EventStatus := fun _ => none
  /-- The record has gone from validating to active. -/
  validated : ConditionId → Bool := fun _ => false

namespace History

/-- The history goes on with a sync, or with something else. -/
def after (h : History) (sync : SafeSync) (bySync : Bool) : History where
  sync := sync
  removedFrom c :=
    if sync.status c = some .inactive then
      if h.sync.status c = some .inactive then h.removedFrom c
      else if bySync then h.sync.status c else none
    else none
  validated c := h.validated c || (h.sync.status c = some .validating && sync.status c = some .active)

inductive Label
  | sync (events : List DiscoveredEvent) (now : Time)
  | transition (conditionId : ConditionId) (target : EventStatus) (now : Time)
  | expire (now : Time)

inductive Step : History → Label → History → Prop
  | sync (h : History) (events : List DiscoveredEvent) (now : Time) :
      Step h (.sync events now) (h.after (h.sync.sync events now).1 true)
  | transition (h : History) (conditionId : ConditionId) (target : EventStatus) (now : Time)
      (g : EventRegistry) (r : RegistryRecord)
      (hok : h.sync.registry.transitionEvent conditionId target now = .ok (g, r)) :
      Step h (.transition conditionId target now) (h.after { h.sync with registry := g } false)
  | expire (h : History) (now : Time) :
      Step h (.expire now) (h.after { h.sync with registry := (h.sync.registry.expireEvents now).1 } false)

/-- A record that a sync restores after a sync has removed it gets back the status it was removed from. -/
def Restores (x : Lib.Taken History Label) : Prop :=
  ∀ events now, x.label = .sync events now → ∀ c status, x.pre.removedFrom c = some status →
    x.post.sync.status c ≠ some .inactive → x.post.sync.status c = some status

/-- Every active record has gone from validating to active. -/
def Validated (h : History) : Prop := ∀ c, h.sync.status c = some .active → h.validated c = true

/-- The inactive records that come back were active when they were removed, and validated before. -/
def MayReturn (h : History) : Label → Prop
  | .sync events _ => ∀ c ∈ events.map DiscoveredEvent.conditionId, h.sync.status c = some .inactive →
      h.validated c = true ∧ ∀ status ∈ h.removedFrom c, status = .active
  | .transition c target _ => target = .active → h.sync.status c = some .inactive → h.validated c = true
  | .expire _ => True

/-- What the history keeps as long as the active records are validated. -/
structure Sound (h : History) : Prop where
  validated : h.Validated
  suspended : ∀ c, h.sync.status c = some .suspended → h.validated c = true
  removed : ∀ c status, h.removedFrom c = some status → h.sync.status c = some .inactive

variable {h h' : History} {l : Label} {c : ConditionId}

theorem removed_after (sync : SafeSync) (bySync : Bool) {status : EventStatus}
    (hr : (h.after sync bySync).removedFrom c = some status) : sync.status c = some .inactive := by
  by_contra hne
  simp only [after, if_neg hne] at hr
  cases hr

theorem validated_after (sync : SafeSync) (bySync : Bool) (hv : h.validated c = true) :
    (h.after sync bySync).validated c = true := by
  simp [after, hv]

theorem validated_of_validating {sync : SafeSync} {bySync : Bool} (hpre : h.sync.status c = some .validating)
    (hpost : sync.status c = some .active) : (h.after sync bySync).validated c = true := by
  simp [after, hpre, hpost]

/-- A record that was not validating is validated afterwards only if it was before. -/
theorem validated_of_after {sync : SafeSync} {bySync : Bool} (hs : h.sync.status c ≠ some .validating)
    (hv : (h.after sync bySync).validated c = true) : h.validated c = true := by
  simpa [after, hs] using hv

/-- How a sync changes the status of an event. -/
theorem status_sync_cases (s : SafeSync) (events : List DiscoveredEvent) (now : Time) (c : ConditionId) :
    (c ∈ events.map DiscoveredEvent.conditionId ∧
        (s.sync events now).1.status c = some (SafeSync.statusWhenSeen (s.status c))) ∨
      (c ∉ events.map DiscoveredEvent.conditionId ∧ ((s.sync events now).1.status c = s.status c ∨
        s.status c ≠ some .inactive ∧ (s.sync events now).1.status c = some .inactive)) := by
  by_cases hc : c ∈ events.map DiscoveredEvent.conditionId
  · exact .inl ⟨hc, SafeSync.status_sync_seen hc⟩
  · refine .inr ⟨hc, ?_⟩
    by_cases hrem : ∃ r, s.registry.records.get? c = some r ∧ s.Removes r
    · exact .inr ((SafeSync.sync_removes_iff events now c).mpr ⟨hc, hrem⟩)
    · left
      rw [SafeSync.status_sync_unseen hc, SafeSync.status, EventRegistry.status]
      cases hr : s.registry.records.get? c with
      | none => rfl
      | some r => rw [Option.map_some, Option.map_some, if_neg fun h => hrem ⟨r, hr, h⟩]

theorem status_of_whenSeen {o : Option EventStatus} {status : EventStatus}
    (ho : SafeSync.statusWhenSeen o = status) (hd : status ≠ .discovered) :
    o = some status ∨ o = some .inactive ∧ status = .active := by
  cases o with
  | none => exact absurd ho.symm hd
  | some old =>
    by_cases hin : old = .inactive
    · subst hin
      exact .inr ⟨rfl, ho.symm⟩
    · rw [SafeSync.statusWhenSeen_some hin] at ho
      exact .inl (congrArg some ho)

theorem sync_iff (hs : h.Sound) (events : List DiscoveredEvent) (now : Time) :
    (Restores ⟨h, .sync events now, h.after (h.sync.sync events now).1 true⟩ ∧
      (h.after (h.sync.sync events now).1 true).Validated) ↔ h.MayReturn (.sync events now) := by
  constructor
  · rintro ⟨hrestores, hvalid⟩ c hc hin
    have hpost : (h.sync.sync events now).1.status c = some .active := by
      rw [SafeSync.status_sync_seen hc, hin]
      rfl
    refine ⟨validated_of_after (by simp [hin]) (hvalid c hpost), fun status hr => ?_⟩
    have hback := hrestores events now rfl c status hr (by simp [after, hpost])
    exact Option.some.inj (hback.symm.trans hpost)
  · intro hmay
    constructor
    · intro events' now' hl c status hr hpost
      cases hl
      have hin := hs.removed c status hr
      rcases status_sync_cases h.sync events now c with ⟨hc, hseen⟩ | ⟨-, hsame | ⟨hne, -⟩⟩
      · obtain ⟨-, hactive⟩ := hmay c hc hin
        have hst : (h.sync.sync events now).1.status c = some .active := by
          rw [hseen, hin]
          rfl
        exact hst.trans (congrArg some (hactive status hr).symm)
      · exact absurd (hsame.trans hin) hpost
      · exact absurd hin hne
    · intro c hactive
      change (h.sync.sync events now).1.status c = some .active at hactive
      refine validated_after _ _ ?_
      rcases status_sync_cases h.sync events now c with ⟨hc, hseen⟩ | ⟨-, hsame | ⟨-, hin⟩⟩
      · rw [hseen] at hactive
        rcases status_of_whenSeen (Option.some.inj hactive) (by simp) with hold | ⟨hold, -⟩
        · exact hs.validated c hold
        · exact (hmay c hc hold).1
      · exact hs.validated c (hsame.symm.trans hactive)
      · rw [hin] at hactive
        cases hactive

theorem transition_iff (hs : h.Sound) {k : ConditionId} {target : EventStatus} {now : Time} {g : EventRegistry}
    {r : RegistryRecord} (hok : h.sync.registry.transitionEvent k target now = .ok (g, r)) :
    (h.after { h.sync with registry := g } false).Validated ↔ h.MayReturn (.transition k target now) := by
  constructor
  · rintro hvalid rfl hin
    have hpost := (EventRegistry.status_transitionEvent (c := k) hok).2
    rw [if_pos rfl] at hpost
    exact validated_of_after (by simp [hin]) (hvalid k hpost)
  · intro hmay c hactive
    obtain ⟨⟨old, hold, htarget⟩, hpost⟩ := EventRegistry.status_transitionEvent (c := c) hok
    change g.status c = some .active at hactive
    change h.sync.status k = some old at hold
    rw [hpost] at hactive
    split_ifs at hactive with hk
    · subst hk
      obtain rfl := Option.some.inj hactive
      -- active is reached from validating, from inactive and from suspended
      cases old with
      | validating => exact validated_of_validating hold (hpost.trans (if_pos rfl))
      | inactive => exact validated_after _ _ (hmay rfl hold)
      | suspended => exact validated_after _ _ (hs.suspended k hold)
      | discovered => simp [EventStatus.allowedTransitions] at htarget
      | active => simp [EventStatus.allowedTransitions] at htarget
      | expired => simp [EventStatus.allowedTransitions] at htarget
      | closed => simp [EventStatus.allowedTransitions] at htarget
    · exact validated_after _ _ (hs.validated c hactive)

theorem expire_validated (hs : h.Sound) (now : Time) :
    (h.after { h.sync with registry := (h.sync.registry.expireEvents now).1 } false).Validated := by
  intro c hactive
  change (h.sync.registry.expireEvents now).1.status c = some .active at hactive
  rcases h.sync.registry.status_expireEvents (c := c) now with hsame | hexp
  · exact validated_after _ _ (hs.validated c (hsame.symm.trans hactive))
  · rw [hexp] at hactive
    cases hactive

/-- Suspended records have been active. -/
theorem Step.suspended (hs : h.Sound) (hst : Step h l h') (hc : h'.sync.status c = some .suspended) :
    h'.validated c = true := by
  cases hst with
  | sync events now =>
    refine validated_after _ _ (hs.suspended c ?_)
    change (h.sync.sync events now).1.status c = some .suspended at hc
    rcases status_sync_cases h.sync events now c with ⟨-, hseen⟩ | ⟨-, hsame | ⟨-, hin⟩⟩
    · rw [hseen] at hc
      rcases status_of_whenSeen (Option.some.inj hc) (by simp) with hold | ⟨-, hbad⟩
      · exact hold
      · cases hbad
    · exact hsame.symm.trans hc
    · rw [hin] at hc
      cases hc
  | transition k target now g r hok =>
    obtain ⟨⟨old, hold, htarget⟩, hpost⟩ := EventRegistry.status_transitionEvent (c := c) hok
    change g.status c = some .suspended at hc
    change h.sync.status k = some old at hold
    rw [hpost] at hc
    split_ifs at hc with hk
    · subst hk
      obtain rfl := Option.some.inj hc
      have hactive : old = .active := by cases old <;> simp [EventStatus.allowedTransitions] at htarget ⊢
      exact validated_after _ _ (hs.validated k (hactive ▸ hold))
    · exact validated_after _ _ (hs.suspended c hc)
  | expire now =>
    change (h.sync.registry.expireEvents now).1.status c = some .suspended at hc
    rcases h.sync.registry.status_expireEvents (c := c) now with hsame | hexp
    · exact validated_after _ _ (hs.suspended c (hsame.symm.trans hc))
    · rw [hexp] at hc
      cases hc

theorem Step.removed (hst : Step h l h') {status : EventStatus} (hr : h'.removedFrom c = some status) :
    h'.sync.status c = some .inactive := by
  cases hst with
  | sync events now => exact removed_after _ _ hr
  | transition k target now g r hok => exact removed_after _ _ hr
  | expire now => exact removed_after _ _ hr

theorem Step.restores_iff (hs : h.Sound) (hst : Step h l h') :
    (Restores ⟨h, l, h'⟩ ∧ h'.Validated) ↔ h.MayReturn l := by
  cases hst with
  | sync events now => exact sync_iff hs events now
  | transition k target now g r hok =>
    have hrestores : Restores ⟨h, .transition k target now, h.after { h.sync with registry := g } false⟩ := by
      intro events now' hl
      cases hl
    exact (and_iff_right hrestores).trans (transition_iff hs hok)
  | expire now =>
    refine iff_of_true ⟨?_, expire_validated hs now⟩ trivial
    intro events now' hl
    cases hl

theorem sound_start (n : ℕ) : Sound { sync := { delistThreshold := n } } where
  validated := fun c hc => by cases hc
  suspended := fun c hc => by cases hc
  removed := fun c status hr => by cases hr

/-- **Restoration.** In a run from an empty registry restored records get their status back and active records have
been validated, iff every inactive record that comes back was validated, and active when a sync removed it. -/
theorem restoration_iff {n : ℕ} {tr : List (Lib.Taken History Label)}
    (hrun : Lib.Run Step { sync := { delistThreshold := n } } tr h) :
    (∀ x ∈ tr, Restores x ∧ x.post.Validated) ↔ ∀ x ∈ tr, x.pre.MayReturn x.label := by
  refine Lib.Run.forall_iff (I := Sound) (P := fun x => Restores x ∧ x.post.Validated) (fun t l u ht hst => ?_)
    (sound_start n) hrun
  refine ⟨hst.restores_iff ht, fun hP => ?_⟩
  exact ⟨hP.2, fun c hc => hst.suspended ht hc, fun c status hr => hst.removed hr⟩

/-! ### One event that comes and goes -/

def comesAndGoes : DiscoveredEvent := firstEvent

def stays : DiscoveredEvent := secondEvent

/-- An empty registry that removes what is missed once. -/
def start : History := { sync := { delistThreshold := 1 } }

def next (h : History) (events : List DiscoveredEvent) : History := h.after (h.sync.sync events 0).1 true

/-- The event has been found, and then missed. -/
def gone : History := (start.next [comesAndGoes]).next [stays]

/-- An event that was validated is missed, and comes back as active. -/
theorem restoration_returned : ∃ h tr, Lib.Run Step start tr h ∧
    (h.sync.status "first" = some .active ∧ h.sync.registry.records.records.length = 2) ∧
    ∀ x ∈ tr, Restores x ∧ x.post.Validated := by
  have hrun : Lib.Run Step start _ _ := ((((Lib.Run.single
    (.sync _ [comesAndGoes] 0)).snoc
    (.transition _ "first" .validating 1 _ _ rfl)).snoc
    (.transition _ "first" .active 2 _ _ rfl)).snoc
    (.sync _ [stays] 3)).snoc
    (.sync _ [comesAndGoes, stays] 4)
  refine ⟨_, _, hrun, by decide +kernel, (restoration_iff hrun).mpr ?_⟩
  simp only [List.forall_mem_append, List.forall_mem_singleton, MayReturn]
  decide +kernel

/-- **Restored as active**: an event that was only discovered is missed, and active once it is found again. -/
theorem restored_active :
    ∃ h tr, Lib.Run Step start tr h ∧ ¬∀ x ∈ tr, Restores x ∧ x.post.Validated := by
  refine ⟨_, _, ((Lib.Run.single (Step.sync start [comesAndGoes] 0)).snoc
    (Step.sync (start.next [comesAndGoes]) [stays] 0)).snoc (Step.sync gone [comesAndGoes] 0), fun hall => ?_⟩
  have hlast := (hall ⟨gone, .sync [comesAndGoes] 0, gone.next [comesAndGoes]⟩
    (List.mem_append_right _ (List.mem_singleton_self _))).1
  have hback := hlast _ _ rfl "first" .discovered (by decide) (by decide)
  exact absurd hback (by decide)

end History

end Polyfast
