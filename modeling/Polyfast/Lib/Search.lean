import Mathlib.Data.List.Basic

/-!
# Searching a text

`search m s` tries the matcher `m` at one place of `s` after the other, from left to right, and stops at the first
match.

* `search_eq_some_iff`: what is found is the match that has no other before it;
* `after`: the text after a given beginning.
-/

namespace Lib

variable {α β : Type*}

/-- The first match. -/
def search (m : List α → Option β) : List α → Option β
  | [] => m []
  | c :: s =>
    match m (c :: s) with
    | some b => some b
    | none => search m s

/-- What follows `p` in `s`, if `s` begins with it. -/
def after [DecidableEq α] (p s : List α) : Option (List α) := if p <+: s then some (s.drop p.length) else none

theorem after_eq_some_iff [DecidableEq α] {p s rest : List α} : after p s = some rest ↔ s = p ++ rest := by
  unfold after
  constructor
  · intro h
    obtain ⟨⟨t, rfl⟩, hdrop⟩ := Option.ite_none_right_eq_some.mp h
    rw [List.drop_left] at hdrop
    rw [Option.some.inj hdrop]
  · rintro rfl
    rw [if_pos (List.prefix_append p rest), List.drop_left]

variable {m : List α → Option β} {s : List α} {b : β}

/-- The text `s` is `pre ++ rest`, `rest` matches with `b`, and nothing matches before. -/
structure FirstMatch (m : List α → Option β) (s pre rest : List α) (b : β) : Prop where
  split : s = pre ++ rest
  found : m rest = some b
  first : ∀ p q, s = p ++ q → p.length < pre.length → m q = none

/-- A first match in the rest of a text is one in the text, unless the text matches itself. -/
theorem FirstMatch.cons {pre rest : List α} {c : α} (h : FirstMatch m s pre rest b) (hc : m (c :: s) = none) :
    FirstMatch m (c :: s) (c :: pre) rest b := by
  refine ⟨by rw [h.split]; rfl, h.found, fun p q hpq hlt => ?_⟩
  cases p with
  | nil =>
    obtain rfl : c :: s = q := hpq
    exact hc
  | cons d p =>
    obtain ⟨-, hs⟩ := List.cons.inj hpq
    exact h.first p q hs (Nat.lt_of_succ_lt_succ hlt)

theorem FirstMatch.of_cons {pre rest : List α} {c d : α} (h : FirstMatch m (c :: s) (d :: pre) rest b) :
    m (c :: s) = none ∧ FirstMatch m s pre rest b := by
  obtain ⟨hsplit, hfound, hfirst⟩ := h
  obtain ⟨-, hs⟩ := List.cons.inj hsplit
  refine ⟨hfirst [] (c :: s) rfl (Nat.succ_pos _), hs, hfound, fun p q hpq hlt => ?_⟩
  exact hfirst (c :: p) q (by rw [hpq]; rfl) (Nat.succ_lt_succ hlt)

theorem search_eq_some_iff : search m s = some b ↔ ∃ pre rest, FirstMatch m s pre rest b := by
  induction s with
  | nil =>
    constructor
    · exact fun h => ⟨[], [], rfl, h, fun p q _ hlt => absurd hlt (Nat.not_lt_zero _)⟩
    · rintro ⟨pre, rest, hsplit, hfound, -⟩
      obtain ⟨-, rfl⟩ := List.append_eq_nil_iff.mp hsplit.symm
      exact hfound
  | cons c s ih =>
    unfold search
    cases hc : m (c :: s) with
    | some a =>
      constructor
      · exact fun h => ⟨[], c :: s, rfl, hc.trans h, fun p q _ hlt => absurd hlt (Nat.not_lt_zero _)⟩
      · rintro ⟨pre, rest, h⟩
        cases pre with
        | nil =>
          obtain rfl : c :: s = rest := h.split
          exact hc.symm.trans h.found
        | cons d pre => exact absurd (hc.symm.trans h.of_cons.1) (by simp)
    | none =>
      refine ih.trans ⟨?_, ?_⟩
      · rintro ⟨pre, rest, h⟩
        exact ⟨c :: pre, rest, h.cons hc⟩
      · rintro ⟨pre, rest, h⟩
        cases pre with
        | nil =>
          obtain rfl : c :: s = rest := h.split
          exact absurd (hc.symm.trans h.found) (by simp)
        | cons d pre => exact ⟨pre, rest, h.of_cons.2⟩

end Lib
