import Mathlib.Data.List.Basic

/-!
# Loops that an exception ends

`forEach turn s is` takes the turns of a loop one after the other, from the state `s`, until one of them raises. What
was done before stays done.

* `forEach_preserves`: what every turn keeps, the loop keeps, however it ends;
* `forEach_map`, `forEach_flatMap`: a loop over what other elements stand for, and a loop of loops;
* `forEach_congr`: turns that do the same where an invariant holds.
-/

namespace Lib

variable {σ ι κ ε : Type*}

/-- A loop over the elements; the second part is what was raised. -/
def forEach (turn : σ → ι → σ × Option ε) (s : σ) : List ι → σ × Option ε
  | [] => (s, none)
  | i :: is =>
    match turn s i with
    | (s', none) => forEach turn s' is
    | (s', some e) => (s', some e)

variable {turn turn' : σ → ι → σ × Option ε}

/-- What a turn that raises leaves, the loop leaves. -/
theorem forEach_cons (s : σ) (i : ι) (is : List ι) :
    forEach turn s (i :: is) = if (turn s i).2.isSome then turn s i else forEach turn (turn s i).1 is := by
  rw [forEach]
  rcases turn s i with ⟨s', _ | e⟩ <;> rfl

theorem forEach_singleton (s : σ) (i : ι) : forEach turn s [i] = turn s i := by
  rw [forEach]
  rcases turn s i with ⟨s', _ | e⟩ <;> rfl

theorem forEach_preserves {I : σ → Prop} (is : List ι) (hturn : ∀ s, ∀ i ∈ is, I s → I (turn s i).1) :
    ∀ s, I s → I (forEach turn s is).1 := by
  induction is with
  | nil => exact fun s h => h
  | cons i is ih =>
    intro s h
    rw [forEach_cons]
    have hi := hturn s i List.mem_cons_self h
    split_ifs
    · exact hi
    · exact ih (fun t j hj => hturn t j (List.mem_cons_of_mem _ hj)) _ hi

theorem forEach_map (f : κ → ι) (ks : List κ) : ∀ s : σ,
    forEach turn s (ks.map f) = forEach (fun s k => turn s (f k)) s ks := by
  induction ks with
  | nil => exact fun s => rfl
  | cons k ks ih =>
    intro s
    rw [List.map_cons, forEach_cons, forEach_cons, ih]

theorem forEach_append (is js : List ι) : ∀ s : σ, forEach turn s (is ++ js) =
    if (forEach turn s is).2.isSome then forEach turn s is else forEach turn (forEach turn s is).1 js := by
  induction is with
  | nil => exact fun s => rfl
  | cons i is ih =>
    intro s
    rw [List.cons_append, forEach_cons, forEach_cons, ih]
    by_cases hraise : (turn s i).2.isSome = true
    · simp only [if_pos hraise]
    · simp only [if_neg hraise]

/-- A loop of loops is one loop. -/
theorem forEach_flatMap (f : κ → List ι) (ks : List κ) : ∀ s : σ,
    forEach turn s (ks.flatMap f) = forEach (fun s k => forEach turn s (f k)) s ks := by
  induction ks with
  | nil => exact fun s => rfl
  | cons k ks ih =>
    intro s
    rw [List.flatMap_cons, forEach_append, forEach_cons, ih]

/-- Turns that do the same, and keep what makes them do the same. -/
theorem forEach_congr {I : σ → Prop} (is : List ι) (hsame : ∀ s, ∀ i ∈ is, I s → turn s i = turn' s i)
    (hkeep : ∀ s, ∀ i ∈ is, I s → I (turn s i).1) : ∀ s, I s → forEach turn s is = forEach turn' s is := by
  induction is with
  | nil => exact fun s _ => rfl
  | cons i is ih =>
    intro s h
    have hrest := ih (fun t j hj => hsame t j (List.mem_cons_of_mem _ hj))
      (fun t j hj => hkeep t j (List.mem_cons_of_mem _ hj)) _ (hkeep s i List.mem_cons_self h)
    rw [forEach_cons, forEach_cons, ← hsame s i List.mem_cons_self h, hrest]

end Lib
