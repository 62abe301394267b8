import Mathlib.Order.Nat

/-!
# Replacing matches in a text

`sub m s` goes through `s` from left to right: where the matcher `m` matches it writes the replacement and
goes on after the match, elsewhere it copies a character.

* `sub_cons_none`, `sub_cons_some`: one turn;
* `Shrinks.induct`: induction along the turns;
* `Shrinks.count_le_sub`: a character that no match removes is still there.
-/

namespace Lib

variable {α : Type*}

/-- A match at the start of a text: the replacement and the text after the match. -/
abbrev Matcher (α : Type*) := List α → Option (List α × List α)

/-- A match takes at least one character. -/
def Shrinks (m : Matcher α) : Prop :=
  m [] = none ∧ ∀ c t out rest, m (c :: t) = some (out, rest) → rest.length ≤ t.length

/-- The turns, at most `n` of them. -/
def subTurns (m : Matcher α) : ℕ → List α → List α
  | 0, _ => []
  | _ + 1, [] => []
  | n + 1, c :: t =>
    match m (c :: t) with
    | none => c :: subTurns m n t
    | some (out, rest) => out ++ subTurns m n rest

/-- Replace every match. -/
def sub (m : Matcher α) (s : List α) : List α := subTurns m s.length s

variable {m : Matcher α}

/-- Every turn takes a character, so as many turns as characters are enough. -/
theorem subTurns_eq (hm : Shrinks m) : ∀ n s, s.length ≤ n → subTurns m n s = sub m s := by
  suffices h : ∀ n k s, s.length ≤ n → s.length ≤ k → subTurns m n s = subTurns m k s from
    fun n s hn => h n s.length s hn le_rfl
  intro n
  induction n with
  | zero =>
    intro k s hn _
    obtain rfl := List.eq_nil_of_length_eq_zero (Nat.le_zero.mp hn)
    cases k <;> rfl
  | succ n ih =>
    intro k s hn hk
    cases s with
    | nil => cases k <;> rfl
    | cons c t =>
      cases k with
      | zero => simp at hk
      | succ k =>
        rw [List.length_cons] at hn hk
        simp only [subTurns]
        cases hmatch : m (c :: t) with
        | none => rw [ih k t (by omega) (by omega)]
        | some x =>
          have hle := hm.2 c t x.1 x.2 hmatch
          dsimp only
          rw [ih k x.2 (by omega) (by omega)]

theorem sub_cons_none {c : α} {t : List α} (h : m (c :: t) = none) : sub m (c :: t) = c :: sub m t := by
  rw [sub, List.length_cons, subTurns, h]
  rfl

theorem sub_cons_some (hm : Shrinks m) {c : α} {t out rest : List α} (h : m (c :: t) = some (out, rest)) :
    sub m (c :: t) = out ++ sub m rest := by
  rw [sub, List.length_cons, subTurns, h]
  exact congrArg (out ++ ·) (subTurns_eq hm _ _ (hm.2 c t out rest h))

/-- **Induction along the turns.** -/
theorem Shrinks.induct (hm : Shrinks m) {P : List α → Prop} (nil : P [])
    (skip : ∀ c t, m (c :: t) = none → P t → P (c :: t))
    (take : ∀ c t out rest, m (c :: t) = some (out, rest) → P rest → P (c :: t)) (s : List α) : P s := by
  suffices h : ∀ n, ∀ s : List α, s.length ≤ n → P s from h s.length s le_rfl
  intro n
  induction n with
  | zero =>
    intro s hs
    obtain rfl := List.eq_nil_of_length_eq_zero (Nat.le_zero.mp hs)
    exact nil
  | succ n ih =>
    intro s hs
    cases s with
    | nil => exact nil
    | cons c t =>
      rw [List.length_cons] at hs
      cases hmatch : m (c :: t) with
      | none => exact skip c t hmatch (ih t (by omega))
      | some x => exact take c t x.1 x.2 hmatch (ih x.2 ((hm.2 c t x.1 x.2 hmatch).trans (by omega)))

/-- **What no match removes is still there.** -/
theorem Shrinks.count_le_sub [BEq α] (hm : Shrinks m) {a : α}
    (hkeep : ∀ s out rest, m s = some (out, rest) → s.count a ≤ out.count a + rest.count a) (s : List α) :
    s.count a ≤ (sub m s).count a := by
  refine hm.induct (P := fun s => s.count a ≤ (sub m s).count a) le_rfl (fun c t h ih => ?_)
    (fun c t out rest h ih => ?_) s
  · rw [sub_cons_none h, List.count_cons, List.count_cons]
    exact Nat.add_le_add_right ih _
  · rw [sub_cons_some hm h, List.count_append]
    exact (hkeep _ out rest h).trans (Nat.add_le_add_left ih _)

end Lib
