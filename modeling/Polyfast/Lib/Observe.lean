import Mathlib.Data.List.Basic

/-!
# What answers give away

A machine takes inputs, changes its state and answers. Who sees the answers alone learns of two states only what
some session tells apart. Which inputs look the same to him may depend on the states they come in.

* `answers`: the answers to a session;
* `AlikeSessions`: sessions whose inputs look the same, one after the other;
* `answers_eq`: a relation that makes answers equal and that inputs of the same look keep, makes sessions answer equal;
* `indistinguishable_iff`: where unrelated states are told apart by one input, it is exactly what no session tells.
-/

namespace Lib

variable {σ ι ο : Type*} {step : σ → ι → σ × ο} {R P : σ → σ → Prop} {A : σ → σ → ι → ι → Prop}

/-- The answers to the inputs of a session. -/
def answers (step : σ → ι → σ × ο) (s : σ) : List ι → List ο
  | [] => []
  | i :: is => (step s i).2 :: answers step (step s i).1 is

/-- Sessions from two states whose inputs look the same where they come in. -/
inductive AlikeSessions (step : σ → ι → σ × ο) (A : σ → σ → ι → ι → Prop) : σ → List ι → σ → List ι → Prop
  | nil (s s' : σ) : AlikeSessions step A s [] s' []
  | cons {s s' : σ} {i i' : ι} {is is' : List ι} (h : A s s' i i')
      (rest : AlikeSessions step A (step s i).1 is (step s' i').1 is') : AlikeSessions step A s (i :: is) s' (i' :: is')

/-- No two sessions that look the same are answered differently. -/
def Indistinguishable (step : σ → ι → σ × ο) (A : σ → σ → ι → ι → Prop) (s s' : σ) : Prop :=
  ∀ is is', AlikeSessions step A s is s' is' → answers step s is = answers step s' is'

/-- **Unwinding.** What one step shows and keeps, a session shows. -/
theorem answers_eq {s s' : σ} {is is' : List ι}
    (hstep : ∀ s s' i i', R s s' → A s s' i i' → (step s i).2 = (step s' i').2 ∧ R (step s i).1 (step s' i').1)
    (h : AlikeSessions step A s is s' is') (hR : R s s') : answers step s is = answers step s' is' := by
  induction h with
  | nil => rfl
  | cons hinput _ ih =>
    obtain ⟨hanswer, hnext⟩ := hstep _ _ _ _ hR hinput
    rw [answers, answers, hanswer, ih hnext]

/-- **What is given away**, among the states that `P` relates. -/
theorem indistinguishable_iff {s s' : σ} (hP : P s s')
    (hstep : ∀ s s' i i', P s s' ∧ R s s' → A s s' i i' →
      (step s i).2 = (step s' i').2 ∧ P (step s i).1 (step s' i').1 ∧ R (step s i).1 (step s' i').1)
    (htell : ∀ s s', P s s' → (∀ i i', A s s' i i' → (step s i).2 = (step s' i').2) → R s s') :
    Indistinguishable step A s s' ↔ R s s' := by
  constructor
  · intro h
    refine htell s s' hP fun i i' hinput => ?_
    have hone := h [i] [i'] (.cons hinput (.nil _ _))
    exact (List.cons.inj hone).1
  · intro hR is is' hsessions
    exact answers_eq (R := fun s s' => P s s' ∧ R s s') hstep hsessions ⟨hP, hR⟩

end Lib
