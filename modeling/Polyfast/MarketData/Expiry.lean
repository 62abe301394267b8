import Polyfast.MarketData.SafeSync

/-!
# Expiry of events

`expire_events` goes through the records once and tries to expire every one that is over and neither expired nor
closed. The table of transitions has no way to `EXPIRED` from a record that is only discovered, validating or
suspended, and a transition that is refused is passed over.

* `RegistryRecord.Expires`, `get?_expireEvents`, `expireEvents_ids`: what one call does, record by record;
* `EventRegistry.ExpiresAll`: what an expiry is for;
* `expiresAll_iff`: the registries whose expiry does that.
-/

namespace Polyfast

namespace RegistryRecord

variable {r : RegistryRecord} {now : Time}

/-- The record is over, and may be expired. -/
def Expires (r : RegistryRecord) (now : Time) : Prop := r.endDate ≤ now ∧ r.canTransitionTo .expired = true

instance (r : RegistryRecord) (now : Time) : Decidable (r.Expires now) := inferInstanceAs (Decidable (_ ∧ _))

/-- The record after an expiry. -/
def afterExpiry (r : RegistryRecord) (now : Time) : RegistryRecord :=
  if r.Expires now then r.inStatus .expired now else r

theorem canExpire_iff : r.canTransitionTo .expired = true ↔ r.status = .active ∨ r.status = .inactive := by
  cases h : r.status <;> simp [canTransitionTo, h, EventStatus.allowedTransitions]

/-- What has been through an expiry does not expire again. -/
theorem not_expires_afterExpiry : ¬(r.afterExpiry now).Expires now := by
  unfold afterExpiry
  split_ifs with h
  · rintro ⟨-, hcan⟩
    rcases canExpire_iff.mp hcan with hst | hst <;> cases hst
  · exact h

theorem status_afterExpiry_ne : (r.afterExpiry now).status ≠ r.status ↔ r.Expires now := by
  unfold afterExpiry
  split_ifs with h
  · refine iff_of_true ?_ h
    rcases canExpire_iff.mp h.2 with hst | hst <;> simp [inStatus, hst]
  · simp [h]

end RegistryRecord

namespace EventRegistry

variable {g : EventRegistry} {now : Time} {c : ConditionId} {acc : EventRegistry × List ConditionId}

/-! ### One call -/

theorem expireOne_eq (now : Time) (acc : EventRegistry × List ConditionId) (r : RegistryRecord) :
    expireOne now acc r =
      if r.Expires now then (acc.1.write (r.inStatus .expired now), acc.2 ++ [r.conditionId]) else acc := by
  unfold expireOne RegistryRecord.transitionTo
  by_cases hdone : r.status = .expired ∨ r.status = .closed
  · have hstays : ¬r.Expires now := by
      rintro ⟨-, hcan⟩
      rcases RegistryRecord.canExpire_iff.mp hcan with hst | hst <;> simp [hst] at hdone
    rw [if_pos hdone, if_neg hstays]
  · rw [if_neg hdone]
    by_cases hend : r.endDate ≤ now
    · by_cases hcan : r.canTransitionTo .expired = true
      · simp only [hend, hcan, if_true, RegistryRecord.Expires, and_self]
        rfl
      · simp only [hend, hcan, if_true, RegistryRecord.Expires, and_false, if_false, Bool.false_eq_true]
    · rw [if_neg hend, if_neg fun h => hend h.1]

theorem foldl_expireOne_ids (l : List RegistryRecord) (acc : EventRegistry × List ConditionId) :
    (l.foldl (expireOne now) acc).2 =
      acc.2 ++ (l.filter (fun r => r.Expires now)).map RegistryRecord.conditionId := by
  induction l generalizing acc with
  | nil => simp
  | cons r l ih =>
    rw [List.foldl_cons, ih, expireOne_eq]
    by_cases hr : r.Expires now
    · simp only [if_pos hr, List.filter_cons, decide_eq_true hr, if_true, List.map_cons, List.append_assoc,
        List.singleton_append]
    · simp only [if_neg hr, List.filter_cons, decide_eq_false hr, Bool.false_eq_true, if_false]

theorem expireOne_other {r : RegistryRecord} (hc : r.conditionId ≠ c) :
    (expireOne now acc r).1.records.get? c = acc.1.records.get? c := by
  rw [expireOne_eq]
  split_ifs
  · exact Lib.Table.get?_put_ne _ hc
  · rfl

theorem foldl_expireOne_other {l : List RegistryRecord} (hc : c ∉ l.map RegistryRecord.conditionId) :
    (l.foldl (expireOne now) acc).1.records.get? c = acc.1.records.get? c :=
  Lib.Table.foldl_apart
    (P := fun t : EventRegistry × List ConditionId => t.1.records.get? c = acc.1.records.get? c)
    (fun _ _ hx hsame => (expireOne_other hx).trans hsame) hc rfl

theorem foldl_expireOne_self {l : List RegistryRecord} (hnd : (l.map RegistryRecord.conditionId).Nodup)
    {r : RegistryRecord} (hmem : r ∈ l) (hr : acc.1.records.get? r.conditionId = some r) :
    (l.foldl (expireOne now) acc).1.records.get? r.conditionId = some (r.afterExpiry now) := by
  refine Lib.Table.foldl_own
    (P := fun t : EventRegistry × List ConditionId => t.1.records.get? r.conditionId = some r)
    (Q := fun t => t.1.records.get? r.conditionId = some (r.afterExpiry now))
    (fun _ _ hx hsame => (expireOne_other hx).trans hsame) (fun t ht => ?_)
    (fun _ _ hx hsame => (expireOne_other hx).trans hsame) hnd hmem hr
  rw [expireOne_eq, RegistryRecord.afterExpiry]
  split_ifs
  · exact Lib.Table.get?_put_self _ (r.inStatus .expired now)
  · exact ht

/-- **The records after an expiry.** -/
theorem get?_expireEvents (g : EventRegistry) (now : Time) (c : ConditionId) :
    (g.expireEvents now).1.records.get? c = (g.records.get? c).map (fun r => r.afterExpiry now) := by
  unfold expireEvents
  cases hr : g.records.get? c with
  | none => exact (foldl_expireOne_other (Lib.Table.not_mem_map_key hr)).trans hr
  | some r =>
    obtain rfl : r.conditionId = c := Lib.Table.key_of_get? hr
    exact foldl_expireOne_self (Lib.Table.nodup_map_key g.records) (Lib.Table.mem_records_of_get? hr) hr

/-- **The events that an expiry returns.** -/
theorem expireEvents_ids (g : EventRegistry) (now : Time) :
    (g.expireEvents now).2 =
      (g.records.records.filter (fun r => r.Expires now)).map RegistryRecord.conditionId := by
  unfold expireEvents
  rw [foldl_expireOne_ids, List.nil_append]

theorem mem_expireEvents_ids :
    c ∈ (g.expireEvents now).2 ↔ ∃ r, g.records.get? c = some r ∧ r.Expires now := by
  rw [expireEvents_ids, List.mem_map]
  constructor
  · rintro ⟨r, hr, rfl⟩
    rw [List.mem_filter, decide_eq_true_eq] at hr
    exact ⟨r, Lib.Table.mem_records.mp hr.1, hr.2⟩
  · rintro ⟨r, hr, hexp⟩
    refine ⟨r, List.mem_filter.mpr ⟨Lib.Table.mem_records_of_get? hr, decide_eq_true hexp⟩, ?_⟩
    exact Lib.Table.key_of_get? hr

/-- An expiry that finds nothing to expire leaves the registry as it is. -/
theorem expireEvents_of_none (h : ∀ c r, g.records.get? c = some r → ¬r.Expires now) :
    g.expireEvents now = (g, []) := by
  have hfold : ∀ l : List RegistryRecord, (∀ r ∈ l, ¬r.Expires now) → l.foldl (expireOne now) (g, []) = (g, []) := by
    intro l hl
    induction l with
    | nil => rfl
    | cons r l ih =>
      rw [List.forall_mem_cons] at hl
      rw [List.foldl_cons, expireOne_eq, if_neg hl.1]
      exact ih hl.2
  exact hfold _ fun r hr => h _ r (Lib.Table.mem_records.mp hr)

/-! ### What an expiry is for -/

/-- The promise of an expiry: all that is over is expired or closed, what is not over is as it was, the events
returned are those whose status changed, each once, and the same call again changes nothing. -/
structure ExpiresAll (g : EventRegistry) (now : Time) : Prop where
  complete : ∀ c r, (g.expireEvents now).1.records.get? c = some r → r.status ≠ .expired → r.status ≠ .closed →
    now < r.endDate
  later : ∀ c r, g.records.get? c = some r → now < r.endDate → (g.expireEvents now).1.records.get? c = some r
  changed : ∀ c, c ∈ (g.expireEvents now).2 ↔ (g.expireEvents now).1.status c ≠ g.status c
  nodup : (g.expireEvents now).2.Nodup
  again : (g.expireEvents now).1.expireEvents now = ((g.expireEvents now).1, [])

theorem expireEvents_later {r : RegistryRecord} (hr : g.records.get? c = some r) (hend : now < r.endDate) :
    (g.expireEvents now).1.records.get? c = some r := by
  rw [get?_expireEvents, hr, Option.map_some, RegistryRecord.afterExpiry, if_neg fun h => not_le.mpr hend h.1]

theorem mem_expireEvents_iff : c ∈ (g.expireEvents now).2 ↔ (g.expireEvents now).1.status c ≠ g.status c := by
  rw [mem_expireEvents_ids, status, status, get?_expireEvents]
  cases hr : g.records.get? c with
  | none => simp
  | some r => simpa using RegistryRecord.status_afterExpiry_ne.symm

theorem nodup_expireEvents : (g.expireEvents now).2.Nodup := by
  rw [expireEvents_ids]
  exact (Lib.Table.nodup_map_key g.records).sublist (List.filter_sublist.map _)

theorem expireEvents_again : (g.expireEvents now).1.expireEvents now = ((g.expireEvents now).1, []) := by
  refine expireEvents_of_none fun c r hr => ?_
  rw [get?_expireEvents] at hr
  obtain ⟨r₀, -, rfl⟩ := Option.map_eq_some_iff.mp hr
  exact RegistryRecord.not_expires_afterExpiry

/-- **Complete expiry.** An expiry keeps its promise exactly if every record that is over is in one of the states that
have a transition to `EXPIRED`, or is expired or closed already. -/
theorem expiresAll_iff (g : EventRegistry) (now : Time) :
    g.ExpiresAll now ↔ ∀ c r, g.records.get? c = some r → r.endDate ≤ now →
      r.status ∈ [.active, .inactive, .expired, .closed] := by
  constructor
  · rintro ⟨hcomplete, -, -, -, -⟩ c r hr hend
    by_contra hst
    simp only [List.mem_cons, List.not_mem_nil, or_false, not_or] at hst
    obtain ⟨hactive, hinactive, hexpired, hclosed⟩ := hst
    have hstays : ¬r.Expires now := by
      rintro ⟨-, hcan⟩
      rcases RegistryRecord.canExpire_iff.mp hcan with h | h
      · exact hactive h
      · exact hinactive h
    have hpost : (g.expireEvents now).1.records.get? c = some r := by
      rw [get?_expireEvents, hr, Option.map_some, RegistryRecord.afterExpiry, if_neg hstays]
    exact not_lt.mpr hend (hcomplete c r hpost hexpired hclosed)
  · intro hstates
    refine ⟨fun c r hr hexpired hclosed => ?_, fun _ _ => expireEvents_later, fun _ => mem_expireEvents_iff,
      nodup_expireEvents, expireEvents_again⟩
    rw [get?_expireEvents] at hr
    obtain ⟨r₀, hr₀, rfl⟩ := Option.map_eq_some_iff.mp hr
    unfold RegistryRecord.afterExpiry at hexpired hclosed ⊢
    split_ifs at hexpired hclosed ⊢ with hexp
    · exact absurd rfl hexpired
    · by_contra hlt
      have hend : r₀.endDate ≤ now := not_lt.mp hlt
      have hmay := hstates c r₀ hr₀ hend
      simp only [List.mem_cons, List.not_mem_nil, or_false] at hmay
      rcases hmay with h | h | h | h
      · exact hexp ⟨hend, RegistryRecord.canExpire_iff.mpr (.inl h)⟩
      · exact hexp ⟨hend, RegistryRecord.canExpire_iff.mpr (.inr h)⟩
      · exact hexpired h
      · exact hclosed h

/-- A registry that has just been told of an event, which ends at 0. -/
def justTold : EventRegistry := (({} : EventRegistry).registerCandidate firstEvent 0 0).1

/-- **Not expired**: an event that was only discovered stays discovered after its end. -/
theorem discovered_not_expired : ¬justTold.ExpiresAll 300 := by
  rintro ⟨hcomplete, -, -, -, -⟩
  exact absurd (hcomplete "first" (newRecord firstEvent 0) rfl (by decide) (by decide)) (by decide)

end EventRegistry

end Polyfast
