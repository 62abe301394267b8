import Polyfast.Lib.Dict

/-!
# Tables of records

`Table key`: a dictionary in which every record is stored under its own key, `key r`. Storing a
record replaces the one with the same key, or appends.

* `get?_put`, `get?_erase`, `get?_foldl_put`: the lookup laws;
* `key_of_get?`: what is found under `k` has key `k`;
* `mem_records`: a record is listed iff it is found under its own key;
* `count_put`, `count_put_new`, `total_put`, `total_put_new`: what storing does to counts and sums;
* `foldl_own`: a fold over records of different keys deals with each record once.
-/

namespace Lib

/-- Records under their own keys, in the order the keys were first stored. -/
structure Table {κ α : Type*} (key : α → κ) where
  dict : Dict κ α
  keyed : ∀ e ∈ dict.entries, key e.2 = e.1

namespace Table

variable {κ α β : Type*} {key : α → κ}

/-- No records. -/
def empty : Table key := ⟨Dict.empty, by simp [Dict.empty]⟩

instance : Inhabited (Table key) := ⟨empty⟩

/-- The records in order. -/
def records (t : Table key) : List α := t.dict.values

/-- The keys in order. -/
def keys (t : Table key) : List κ := t.dict.keys

/-- The number of records with property `p`. -/
def count (t : Table key) (p : α → Bool) : ℕ := t.dict.count p

/-- The sum of `f` over the records. -/
def total [AddCommMonoid β] (t : Table key) (f : α → β) : β := t.dict.total f

@[simp] theorem keys_empty : (empty : Table key).keys = [] := rfl

@[simp] theorem count_empty (p : α → Bool) : (empty : Table key).count p = 0 := rfl

@[simp] theorem total_empty [AddCommMonoid β] (f : α → β) : (empty : Table key).total f = 0 := rfl

theorem map_key_records (t : Table key) : t.records.map key = t.keys := by
  unfold records keys Dict.values Dict.keys
  rw [List.map_map]
  exact List.map_congr_left t.keyed

theorem nodup_map_key (t : Table key) : (t.records.map key).Nodup := by
  rw [map_key_records]
  exact t.dict.keys_nodup

section Ops

variable [DecidableEq κ]

/-- The record with key `k`. -/
def get? (t : Table key) (k : κ) : Option α := t.dict.get? k

/-- Store a record under its key. -/
def put (t : Table key) (r : α) : Table key where
  dict := t.dict.set (key r) r
  keyed := by
    rintro ⟨k, v⟩ he
    rw [Dict.mem_entries, Dict.get?_set] at he
    split_ifs at he with h
    · rw [← Option.some.inj he, h]
    · exact t.keyed (k, v) (Dict.mem_entries.mpr he)

/-- Forget the record with key `k`. -/
def erase (t : Table key) (k : κ) : Table key where
  dict := t.dict.erase k
  keyed := fun e he => t.keyed e (List.mem_of_mem_filter he)

@[simp] theorem get?_empty (k : κ) : (empty : Table key).get? k = none := rfl

theorem get?_put (t : Table key) (r : α) (k : κ) :
    (t.put r).get? k = if key r = k then some r else t.get? k := Dict.get?_set _ _ _ _

@[simp] theorem get?_put_self (t : Table key) (r : α) : (t.put r).get? (key r) = some r := by
  rw [get?_put, if_pos rfl]

/-- Records that are stored one after the other leave the other keys. -/
theorem get?_foldl_put_notMem (rs : List α) {k : κ} (hk : k ∉ rs.map key) : ∀ t : Table key,
    (rs.foldl put t).get? k = t.get? k := by
  induction rs with
  | nil => exact fun t => rfl
  | cons r rs ih =>
    intro t
    rw [List.map_cons, List.mem_cons, not_or] at hk
    rw [List.foldl_cons, ih hk.2, get?_put, if_neg (Ne.symm hk.1)]

/-- Of records with different keys each is stored. -/
theorem get?_foldl_put {rs : List α} (hnodup : (rs.map key).Nodup) {r : α} (hr : r ∈ rs) : ∀ t : Table key,
    (rs.foldl put t).get? (key r) = some r := by
  induction rs with
  | nil => cases hr
  | cons u rs ih =>
    intro t
    rw [List.map_cons, List.nodup_cons] at hnodup
    rw [List.foldl_cons]
    rcases List.mem_cons.mp hr with rfl | hr
    · rw [get?_foldl_put_notMem rs hnodup.1, get?_put_self]
    · exact ih hnodup.2 hr _

/-- Of two records stored under one key the second stays. -/
theorem put_put {r u : α} (h : key u = key r) (t : Table key) : (t.put u).put r = t.put r := by
  unfold put
  simp only [h, Dict.set_set]

theorem get?_put_ne (t : Table key) {r : α} {k : κ} (h : key r ≠ k) :
    (t.put r).get? k = t.get? k := by
  rw [get?_put, if_neg h]

theorem get?_erase (t : Table key) (k k' : κ) :
    (t.erase k).get? k' = if k = k' then none else t.get? k' := Dict.get?_erase _ _ _

theorem key_of_get? {t : Table key} {k : κ} {r : α} (h : t.get? k = some r) : key r = k :=
  t.keyed (k, r) (Dict.mem_entries.mpr h)

theorem mem_records {t : Table key} {r : α} : r ∈ t.records ↔ t.get? (key r) = some r := by
  constructor
  · intro h
    obtain ⟨k, hk⟩ := Dict.mem_values.mp h
    have hkey : key r = k := key_of_get? hk
    rw [hkey]
    exact hk
  · intro h
    exact Dict.mem_values_of_get? h

theorem mem_records_of_get? {t : Table key} {k : κ} {r : α} (h : t.get? k = some r) :
    r ∈ t.records := Dict.mem_values_of_get? h

/-- What a search through the records finds is stored, and has the property. -/
theorem find?_spec {t : Table key} {P : α → Prop} [DecidablePred P] {r : α}
    (h : t.records.find? (fun r => decide (P r)) = some r) : t.get? (key r) = some r ∧ P r := by
  have hprop := List.find?_some h
  exact ⟨mem_records.mp (List.mem_of_find?_eq_some h), of_decide_eq_true hprop⟩

/-- A lookup is a search through the records. -/
theorem get?_eq_find? (t : Table key) (k : κ) :
    t.get? k = t.records.find? (fun r => key r = k) := by
  cases h : t.get? k with
  | none =>
    symm
    rw [List.find?_eq_none]
    intro r hr hk
    have hr' := mem_records.mp hr
    rw [of_decide_eq_true hk, h] at hr'
    cases hr'
  | some r =>
    cases hf : t.records.find? (fun r => key r = k) with
    | none =>
      have hr := List.find?_eq_none.mp hf r (mem_records_of_get? h)
      exact absurd (decide_eq_true (key_of_get? h)) hr
    | some u =>
      obtain ⟨hu, hk⟩ := find?_spec hf
      rw [hk, h] at hu
      exact hu

theorem mem_keys {t : Table key} {k : κ} : k ∈ t.keys ↔ ∃ r, t.get? k = some r := Dict.mem_keys

theorem get?_eq_none_iff {t : Table key} {k : κ} : t.get? k = none ↔ k ∉ t.keys :=
  Dict.get?_eq_none_iff

theorem not_mem_map_key {t : Table key} {k : κ} (h : t.get? k = none) : k ∉ t.records.map key := by
  rw [map_key_records]
  exact get?_eq_none_iff.mp h

/-- Replacing a record leaves the others and the order. -/
theorem records_put_old {t : Table key} {r u : α} (h : t.get? (key r) = some u) :
    (t.put r).records = t.records.map (fun x => if key x = key r then r else x) := by
  unfold records Dict.values put Dict.set
  dsimp only
  rw [Dict.put_eq_map h t.dict.nodup, List.map_map, List.map_map]
  refine List.map_congr_left fun e he => ?_
  simp only [Function.comp_apply, t.keyed e he]
  split_ifs <;> rfl

theorem records_put_new {t : Table key} {r : α} (h : t.get? (key r) = none) : (t.put r).records = t.records ++ [r] :=
  Dict.values_set_new r h

theorem count_put_new {t : Table key} {r : α} (p : α → Bool) (h : t.get? (key r) = none) :
    (t.put r).count p = t.count p + (p r).toNat := Dict.count_set_new r p h

theorem count_put {t : Table key} {r u : α} (p : α → Bool) (h : t.get? (key r) = some u) :
    (t.put r).count p + (p u).toNat = t.count p + (p r).toNat := Dict.count_set r p h

theorem total_put_new [AddCommMonoid β] {t : Table key} {r : α} (f : α → β)
    (h : t.get? (key r) = none) : (t.put r).total f = t.total f + f r := Dict.total_set_new r f h

theorem total_put [AddCommMonoid β] {t : Table key} {r u : α} (f : α → β)
    (h : t.get? (key r) = some u) : (t.put r).total f + f u = t.total f + f r :=
  Dict.total_set r f h

theorem count_pos {t : Table key} {k : κ} {r : α} {p : α → Bool} (h : t.get? k = some r)
    (hp : p r = true) : 0 < t.count p := Dict.count_pos h hp

end Ops

/-! ### Folds over records of different keys -/

section Folds

variable {σ : Type*} {f : σ → α → σ} {l : List α} {s : σ}

/-- Records of other keys keep what they keep one by one. -/
theorem foldl_apart {k : κ} {P : σ → Prop} (hother : ∀ s x, key x ≠ k → P s → P (f s x)) (hk : k ∉ l.map key)
    (h : P s) : P (l.foldl f s) :=
  List.foldlRecOn l f h fun s hs x hx => hother s x (fun heq => hk (heq ▸ List.mem_map_of_mem hx)) hs

/-- The turn of a record takes `P` to `Q`, and the others keep both. -/
theorem foldl_own {r : α} {P Q : σ → Prop} (hbefore : ∀ s x, key x ≠ key r → P s → P (f s x))
    (hown : ∀ s, P s → Q (f s r)) (hafter : ∀ s x, key x ≠ key r → Q s → Q (f s x)) (hnd : (l.map key).Nodup)
    (hmem : r ∈ l) (h : P s) : Q (l.foldl f s) := by
  obtain ⟨l₁, l₂, rfl⟩ := List.append_of_mem hmem
  rw [List.map_append, List.map_cons, List.nodup_middle, List.nodup_cons, List.mem_append, not_or] at hnd
  rw [List.foldl_append, List.foldl_cons]
  exact foldl_apart hafter hnd.1.2 (hown _ (foldl_apart hbefore hnd.1.1 h))

end Folds

end Table

end Lib
