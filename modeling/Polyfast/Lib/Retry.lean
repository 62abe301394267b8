import Mathlib.Data.List.Range
import Mathlib.Order.Bounds.Defs
import Mathlib.Order.MinMax

/-!
# Bounded retries

Attempts are numbered, and `final k` says that attempt `k` is not followed by another one whatever the budget is: it
has succeeded, or it has failed for good. `lastAttempt final budget k` is the last attempt that is made when attempt
`k` is made and `budget` more are allowed.

* `lastAttempt_eq_min`: it is the first final attempt, or the last one allowed if that comes before;
* `attemptLog`: the attempts, and the pause after each but the last.
-/

namespace Lib

variable {α : Type*} {final : ℕ → Bool} {k n i : ℕ}

def lastAttempt (final : ℕ → Bool) : ℕ → ℕ → ℕ
  | 0, k => k
  | budget + 1, k => if final k then k else lastAttempt final budget (k + 1)

theorem lastAttempt_of_final (h : final k = true) (budget : ℕ) : lastAttempt final budget k = k := by
  cases budget with
  | zero => rfl
  | succ budget => exact if_pos h

theorem lastAttempt_succ (h : final k = false) (budget : ℕ) :
    lastAttempt final (budget + 1) k = lastAttempt final budget (k + 1) :=
  if_neg (by rw [h]; exact Bool.false_ne_true)

theorem le_lastAttempt (budget : ℕ) : ∀ k, k ≤ lastAttempt final budget k := by
  induction budget with
  | zero => exact fun k => le_rfl
  | succ budget ih =>
    intro k
    cases h : final k with
    | true => exact (lastAttempt_of_final h _).ge
    | false =>
      rw [lastAttempt_succ h]
      exact (Nat.le_succ k).trans (ih (k + 1))

/-- **The first final attempt is the last one**, unless the budget is used up before. -/
theorem lastAttempt_eq_min (budget : ℕ) : ∀ k, IsLeast {j | k ≤ j ∧ final j = true} i →
    lastAttempt final budget k = min i (k + budget) := by
  induction budget with
  | zero => exact fun k h => (min_eq_right h.1.1).symm
  | succ budget ih =>
    intro k h
    cases hk : final k with
    | true =>
      have hi : i = k := le_antisymm (h.2 ⟨le_rfl, hk⟩) h.1.1
      rw [lastAttempt_of_final hk, hi]
      exact (min_eq_left (Nat.le_add_right k _)).symm
    | false =>
      have hne : k ≠ i := by
        rintro rfl
        rw [h.1.2] at hk
        cases hk
      have hnext : IsLeast {j | k + 1 ≤ j ∧ final j = true} i :=
        ⟨⟨Nat.lt_of_le_of_ne h.1.1 hne, h.1.2⟩, fun j hj => h.2 ⟨Nat.le_of_succ_le hj.1, hj.2⟩⟩
      rw [lastAttempt_succ hk, ih (k + 1) hnext, Nat.succ_add_eq_add_succ]

theorem lastAttempt_le (final : ℕ → Bool) (budget : ℕ) : ∀ k, lastAttempt final budget k ≤ k + budget := by
  induction budget with
  | zero => exact fun k => le_rfl
  | succ budget ih =>
    intro k
    cases h : final k with
    | true =>
      rw [lastAttempt_of_final h]
      exact Nat.le_add_right k _
    | false =>
      rw [lastAttempt_succ h]
      exact (ih (k + 1)).trans (by omega)

/-- The last attempt is final, or the budget is used up. -/
theorem lastAttempt_final_or_eq (final : ℕ → Bool) (budget : ℕ) : ∀ k,
    final (lastAttempt final budget k) = true ∨ lastAttempt final budget k = k + budget := by
  induction budget with
  | zero => exact fun k => .inr rfl
  | succ budget ih =>
    intro k
    cases h : final k with
    | true =>
      rw [lastAttempt_of_final h]
      exact .inl h
    | false =>
      rw [lastAttempt_succ h]
      exact (ih (k + 1)).imp_right fun heq => heq.trans (by omega)

/-- Before the last attempt there is no final one. -/
theorem final_of_lt_lastAttempt (budget : ℕ) {j : ℕ} : ∀ k, k ≤ j → j < lastAttempt final budget k →
    final j = false := by
  induction budget with
  | zero => exact fun k hk hj => absurd hj (not_lt_of_ge hk)
  | succ budget ih =>
    intro k hk hj
    cases h : final k with
    | true =>
      rw [lastAttempt_of_final h] at hj
      exact absurd hj (not_lt_of_ge hk)
    | false =>
      rw [lastAttempt_succ h] at hj
      rcases hk.eq_or_lt with rfl | hlt
      · exact h
      · exact ih (k + 1) hlt hj

/-- Where no attempt is final, all that are allowed are made. -/
theorem lastAttempt_of_forall (budget : ℕ) : ∀ k, (∀ j, k ≤ j → final j = false) →
    lastAttempt final budget k = k + budget := by
  induction budget with
  | zero => exact fun k _ => rfl
  | succ budget ih =>
    intro k h
    rw [lastAttempt_succ (h k le_rfl), ih (k + 1) fun j hj => h j (Nat.le_of_succ_le hj), Nat.succ_add_eq_add_succ]

/-- The attempts `k` to `n`, with a pause after each but the last. -/
def attemptLog (attempt pause : ℕ → α) (k n : ℕ) : List α :=
  (List.range' k (n - k)).flatMap (fun j => [attempt j, pause j]) ++ [attempt n]

theorem attemptLog_self (attempt pause : ℕ → α) (k : ℕ) : attemptLog attempt pause k k = [attempt k] := by
  rw [attemptLog, Nat.sub_self]
  rfl

theorem attemptLog_of_lt (attempt pause : ℕ → α) (h : k < n) :
    attemptLog attempt pause k n = attempt k :: pause k :: attemptLog attempt pause (k + 1) n := by
  have hn : n - k = (n - (k + 1)) + 1 := by omega
  rw [attemptLog, hn, List.range'_succ, List.flatMap_cons]
  rfl

/-- There are as many attempts in it as there are numbers from `k` to `n`. -/
theorem countP_attemptLog {attempt pause : ℕ → α} {p : α → Bool} (hattempt : ∀ j, p (attempt j) = true)
    (hpause : ∀ j, p (pause j) = false) (h : k ≤ n) : (attemptLog attempt pause k n).countP p = n + 1 - k := by
  have hpair : ∀ j, [attempt j, pause j].countP p = 1 := by
    intro j
    rw [List.countP_cons_of_pos (hattempt j), List.countP_cons_of_neg (by rw [hpause]; exact Bool.false_ne_true)]
    rfl
  have hsum : ((List.range' k (n - k)).map (List.countP p ∘ fun j => [attempt j, pause j])).sum = n - k := by
    have hone : (List.countP p ∘ fun j => [attempt j, pause j]) = fun _ => 1 := funext hpair
    simp [hone]
  rw [attemptLog, List.countP_append, List.countP_flatMap, hsum, List.countP_singleton, if_pos (hattempt n)]
  omega

end Lib
