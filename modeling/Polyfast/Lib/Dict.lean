import Mathlib.Data.List.Nodup
import Mathlib.Data.List.Perm.Basic
import Mathlib.Algebra.BigOperators.Group.List.Basic

/-!
# Insertion-ordered dictionaries

`Dict κ α` is a list of key/value pairs with pairwise distinct keys, in the order the keys were
first stored: storing under an old key keeps its place, storing under a new one appends.

* `get?` / `set` / `erase` and the lookup laws (`get?_set`, `get?_erase`, `foldl_lookup`);
* `mem_values`: a value is listed iff some key is bound to it;
* `values_perm`: the values are the value of one key followed by the values without that key, hence
  `values_set_perm` (what `set` does to the values up to order) and the counting and summing rules
  `count_set_new`, `count_set`, `total_set_new`, `total_set` that invariants over all values need.
-/

namespace Lib

/-- A finite map whose keys are listed once, in insertion order. -/
structure Dict (κ α : Type*) where
  entries : List (κ × α)
  nodup : (entries.map Prod.fst).Nodup
  deriving DecidableEq

namespace Dict

variable {κ α β : Type*}

/-- The empty dictionary. -/
def empty : Dict κ α := ⟨[], List.nodup_nil⟩

instance : Inhabited (Dict κ α) := ⟨empty⟩

/-- The keys in insertion order. -/
def keys (d : Dict κ α) : List κ := d.entries.map Prod.fst

/-- The values in insertion order. -/
def values (d : Dict κ α) : List α := d.entries.map Prod.snd

@[simp] theorem keys_empty : (empty : Dict κ α).keys = [] := rfl

theorem keys_nodup (d : Dict κ α) : d.keys.Nodup := d.nodup

/-- The number of values with property `p`. -/
def count (d : Dict κ α) (p : α → Bool) : ℕ := d.values.countP p

/-- The sum of `f` over the values. -/
def total [AddCommMonoid β] (d : Dict κ α) (f : α → β) : β := (d.values.map f).sum

@[simp] theorem count_empty (p : α → Bool) : (empty : Dict κ α).count p = 0 := rfl

@[simp] theorem total_empty [AddCommMonoid β] (f : α → β) : (empty : Dict κ α).total f = 0 := rfl

section Ops

variable [DecidableEq κ]

/-- The value bound to `k` in a list of entries. -/
def find (k : κ) : List (κ × α) → Option α
  | [] => none
  | (k', v) :: l => if k' = k then some v else find k l

/-- Entries with `k` bound to `v`, at the old place of `k` or at the end. -/
def put (k : κ) (v : α) : List (κ × α) → List (κ × α)
  | [] => [(k, v)]
  | (k', v') :: l => if k' = k then (k, v) :: l else (k', v') :: put k v l

theorem find_eq_none_iff {k : κ} {l : List (κ × α)} : find k l = none ↔ k ∉ l.map Prod.fst := by
  induction l with
  | nil => simp [find]
  | cons e l ih =>
    obtain ⟨k', v⟩ := e
    by_cases h : k' = k
    · simp [find, h]
    · simp [find, h, ih, Ne.symm h]

theorem mem_of_find {k : κ} {v : α} {l : List (κ × α)} (h : find k l = some v) : (k, v) ∈ l := by
  induction l with
  | nil => simp [find] at h
  | cons e l ih =>
    obtain ⟨k', v'⟩ := e
    by_cases hk : k' = k
    · simp only [find, hk, if_true, Option.some.injEq] at h
      simp [hk, h]
    · simp only [find, hk, if_false] at h
      exact List.mem_cons_of_mem _ (ih h)

theorem find_of_mem {k : κ} {v : α} {l : List (κ × α)} (hnd : (l.map Prod.fst).Nodup)
    (h : (k, v) ∈ l) : find k l = some v := by
  induction l with
  | nil => simp at h
  | cons e l ih =>
    obtain ⟨k', v'⟩ := e
    rw [List.map_cons, List.nodup_cons] at hnd
    rcases List.mem_cons.mp h with heq | hmem
    · obtain ⟨rfl, rfl⟩ := Prod.mk.inj heq
      simp [find]
    · have hne : k' ≠ k := by
        rintro rfl
        exact hnd.1 (List.mem_map.mpr ⟨_, hmem, rfl⟩)
      simp [find, hne, ih hnd.2 hmem]

theorem map_fst_put (k : κ) (v : α) (l : List (κ × α)) :
    (put k v l).map Prod.fst = if k ∈ l.map Prod.fst then l.map Prod.fst
      else l.map Prod.fst ++ [k] := by
  induction l with
  | nil => simp [put]
  | cons e l ih =>
    obtain ⟨k', v'⟩ := e
    by_cases h : k' = k
    · simp [put, h]
    · rw [put, if_neg h, List.map_cons, ih]
      by_cases hm : k ∈ l.map Prod.fst
      · rw [if_pos hm, List.map_cons, if_pos (List.mem_cons_of_mem _ hm)]
      · rw [if_neg hm, List.map_cons, if_neg (by simp [Ne.symm h, hm]), List.cons_append]

theorem find_put (k k' : κ) (v : α) (l : List (κ × α)) :
    find k' (put k v l) = if k = k' then some v else find k' l := by
  induction l with
  | nil => simp [put, find]
  | cons e l ih =>
    obtain ⟨k₀, v₀⟩ := e
    by_cases h : k₀ = k
    · subst h
      rw [put, if_pos rfl]
      by_cases hk : k₀ = k' <;> simp [find, hk]
    · rw [put, if_neg h]
      by_cases hk : k₀ = k'
      · subst hk
        simp [find, Ne.symm h]
      · simp only [find, if_neg hk, ih]

theorem put_put (k : κ) (u v : α) (l : List (κ × α)) : put k v (put k u l) = put k v l := by
  induction l with
  | nil => simp [put]
  | cons e l ih =>
    obtain ⟨k', v'⟩ := e
    by_cases h : k' = k
    · simp [put, h]
    · simp only [put, if_neg h, ih]

/-- `d.get(k)`. -/
def get? (d : Dict κ α) (k : κ) : Option α := find k d.entries

/-- `d.get(k, v)`. -/
def getD (d : Dict κ α) (k : κ) (v : α) : α := (d.get? k).getD v

/-- `k in d`. -/
def contains (d : Dict κ α) (k : κ) : Bool := (d.get? k).isSome

/-- `d[k] = v`. -/
def set (d : Dict κ α) (k : κ) (v : α) : Dict κ α where
  entries := put k v d.entries
  nodup := by
    rw [map_fst_put]
    split_ifs with h
    · exact d.nodup
    · rw [List.nodup_append]
      refine ⟨d.nodup, by simp, ?_⟩
      rintro a ha b hb rfl
      rw [List.mem_singleton] at hb
      subst hb
      exact h ha

/-- `d.pop(k, None)`. -/
def erase (d : Dict κ α) (k : κ) : Dict κ α where
  entries := d.entries.filter (fun e => e.1 ≠ k)
  nodup := d.nodup.sublist (List.filter_sublist.map Prod.fst)

@[simp] theorem get?_empty (k : κ) : (empty : Dict κ α).get? k = none := rfl

theorem get?_set (d : Dict κ α) (k k' : κ) (v : α) :
    (d.set k v).get? k' = if k = k' then some v else d.get? k' := find_put k k' v d.entries

@[simp] theorem set_set (d : Dict κ α) (k : κ) (u v : α) : (d.set k u).set k v = d.set k v := by
  simp only [set, put_put]

theorem get?_set_ne (d : Dict κ α) {k k' : κ} (h : k ≠ k') (v : α) :
    (d.set k v).get? k' = d.get? k' := by
  rw [get?_set, if_neg h]

/-- Turns that each bind one key to the value of that key bind every key of the list. -/
theorem foldl_lookup {σ : Type*} (look : σ → κ → Option α) (v : κ → Option α) {turn : σ → κ → σ}
    (hturn : ∀ s k k', look (turn s k) k' = if k = k' then v k' else look s k') (l : List κ) (s : σ) (k' : κ) :
    look (l.foldl turn s) k' = if k' ∈ l then v k' else look s k' := by
  induction l generalizing s with
  | nil => simp
  | cons k l ih =>
    rw [List.foldl_cons, ih, hturn]
    by_cases hl : k' ∈ l
    · rw [if_pos hl, if_pos (List.mem_cons_of_mem _ hl)]
    · by_cases hk : k = k'
      · rw [if_neg hl, if_pos hk, if_pos (hk ▸ List.mem_cons_self)]
      · rw [if_neg hl, if_neg hk, if_neg (by simp [hl, Ne.symm hk])]

theorem get?_eq_none_iff {d : Dict κ α} {k : κ} : d.get? k = none ↔ k ∉ d.keys := find_eq_none_iff

theorem mem_entries {d : Dict κ α} {k : κ} {v : α} : (k, v) ∈ d.entries ↔ d.get? k = some v :=
  ⟨find_of_mem d.nodup, mem_of_find⟩

theorem mem_keys {d : Dict κ α} {k : κ} : k ∈ d.keys ↔ ∃ v, d.get? k = some v := by
  rw [← not_iff_not, ← get?_eq_none_iff, Option.eq_none_iff_forall_ne_some]
  simp

theorem mem_values {d : Dict κ α} {v : α} : v ∈ d.values ↔ ∃ k, d.get? k = some v := by
  constructor
  · intro h
    obtain ⟨⟨k, v'⟩, he, rfl⟩ := List.mem_map.mp h
    exact ⟨k, mem_entries.mp he⟩
  · rintro ⟨k, h⟩
    exact List.mem_map.mpr ⟨(k, v), mem_entries.mpr h, rfl⟩

theorem mem_values_of_get? {d : Dict κ α} {k : κ} {v : α} (h : d.get? k = some v) :
    v ∈ d.values := mem_values.mpr ⟨k, h⟩

theorem get?_erase (d : Dict κ α) (k k' : κ) :
    (d.erase k).get? k' = if k = k' then none else d.get? k' := by
  by_cases h : k = k'
  · subst h
    rw [if_pos rfl, get?_eq_none_iff]
    simp [keys, erase]
  · rw [if_neg h]
    cases hk : d.get? k' with
    | some v =>
      refine mem_entries.mp (List.mem_filter.mpr ⟨mem_entries.mpr hk, ?_⟩)
      simpa using Ne.symm h
    | none =>
      rw [get?_eq_none_iff] at hk ⊢
      intro hm
      exact hk ((List.filter_sublist.map Prod.fst).subset hm)

theorem get?_erase_ne (d : Dict κ α) {k k' : κ} (h : k ≠ k') :
    (d.erase k).get? k' = d.get? k' := by
  rw [get?_erase, if_neg h]

/-! ### Counting and summing over the values -/

theorem put_perm {k : κ} {u v : α} {l : List (κ × α)} (h : find k l = some u) :
    ∃ rest, l.Perm ((k, u) :: rest) ∧ (put k v l).Perm ((k, v) :: rest) := by
  induction l with
  | nil => simp [find] at h
  | cons e l ih =>
    obtain ⟨k', v'⟩ := e
    by_cases hk : k' = k
    · subst hk
      simp only [find, if_true, Option.some.injEq] at h
      subst h
      exact ⟨l, List.Perm.refl _, by rw [put, if_pos rfl]⟩
    · simp only [find, if_neg hk] at h
      obtain ⟨rest, h₁, h₂⟩ := ih h
      refine ⟨(k', v') :: rest, ?_, ?_⟩
      · exact (h₁.cons _).trans (List.Perm.swap _ _ _)
      · rw [put, if_neg hk]
        exact (h₂.cons _).trans (List.Perm.swap _ _ _)

theorem put_of_find_none {k : κ} {v : α} {l : List (κ × α)} (h : find k l = none) :
    put k v l = l ++ [(k, v)] := by
  induction l with
  | nil => rfl
  | cons e l ih =>
    obtain ⟨k', v'⟩ := e
    by_cases hk : k' = k
    · simp [find, hk] at h
    · simp only [find, if_neg hk] at h
      rw [put, if_neg hk, ih h, List.cons_append]

theorem put_eq_map {k : κ} {u v : α} {l : List (κ × α)} (h : find k l = some u)
    (hnd : (l.map Prod.fst).Nodup) :
    put k v l = l.map (fun e => if e.1 = k then (k, v) else e) := by
  induction l with
  | nil => simp [find] at h
  | cons e l ih =>
    obtain ⟨k', v'⟩ := e
    rw [List.map_cons, List.nodup_cons] at hnd
    by_cases hk : k' = k
    · subst hk
      have hrest : l.map (fun e => if e.1 = k' then (k', v) else e) = l.map id := by
        refine List.map_congr_left fun e he => if_neg ?_
        rintro rfl
        exact hnd.1 (List.mem_map.mpr ⟨e, he, rfl⟩)
      rw [put, if_pos rfl, List.map_cons, if_pos rfl, hrest, List.map_id]
    · simp only [find, if_neg hk] at h
      rw [put, if_neg hk, List.map_cons, if_neg hk, ih h hnd.2]

/-- Storing under a new key appends the value. -/
theorem values_set_new {d : Dict κ α} {k : κ} (v : α) (h : d.get? k = none) :
    (d.set k v).values = d.values ++ [v] := by
  unfold values set
  dsimp only
  rw [put_of_find_none h, List.map_append]
  rfl

/-- Storing under an old key exchanges one value. -/
theorem values_set_perm {d : Dict κ α} {k : κ} {u : α} (v : α) (h : d.get? k = some u) :
    ∃ rest, d.values.Perm (u :: rest) ∧ (d.set k v).values.Perm (v :: rest) := by
  obtain ⟨rest, h₁, h₂⟩ := put_perm (v := v) h
  exact ⟨rest.map Prod.snd, h₁.map _, h₂.map _⟩

theorem count_set_new {d : Dict κ α} {k : κ} (v : α) (p : α → Bool) (h : d.get? k = none) :
    (d.set k v).count p = d.count p + (p v).toNat := by
  unfold count
  rw [values_set_new v h, List.countP_append]
  cases hp : p v <;> simp [hp]

theorem count_set {d : Dict κ α} {k : κ} {u : α} (v : α) (p : α → Bool) (h : d.get? k = some u) :
    (d.set k v).count p + (p u).toNat = d.count p + (p v).toNat := by
  obtain ⟨rest, h₁, h₂⟩ := values_set_perm v h
  unfold count
  rw [h₁.countP_eq, h₂.countP_eq, List.countP_cons, List.countP_cons]
  cases hu : p u <;> cases hv : p v <;> simp

theorem total_set_new [AddCommMonoid β] {d : Dict κ α} {k : κ} (v : α) (f : α → β)
    (h : d.get? k = none) : (d.set k v).total f = d.total f + f v := by
  unfold total
  rw [values_set_new v h, List.map_append, List.sum_append]
  simp

theorem total_set [AddCommMonoid β] {d : Dict κ α} {k : κ} {u : α} (v : α) (f : α → β)
    (h : d.get? k = some u) : (d.set k v).total f + f u = d.total f + f v := by
  obtain ⟨rest, h₁, h₂⟩ := values_set_perm v h
  unfold total
  rw [(h₁.map f).sum_eq, (h₂.map f).sum_eq, List.map_cons, List.map_cons, List.sum_cons,
    List.sum_cons, add_right_comm, add_comm (f v), add_right_comm, add_comm (f u)]

theorem count_pos {d : Dict κ α} {k : κ} {v : α} {p : α → Bool} (h : d.get? k = some v)
    (hp : p v = true) : 0 < d.count p :=
  List.countP_pos_iff.mpr ⟨v, mem_values_of_get? h, hp⟩

end Ops

end Dict

end Lib
