import Mathlib.Data.List.TakeDrop
import Mathlib.Data.List.TakeWhile

/-!
# Scanners

A scanner takes elements from the front of a text and leaves the rest.

* `Scanner.run`, `optional`, `behind`, `both`, `andThen`: how scanners are put together;
* `Takes`: what all the elements that a scanner takes have in common;
* `StopsAt`: what a scanner takes from a text is what it takes where `rest` stands behind the text. It is so for the
  scanners above when `rest` does not go on where they would.
-/

namespace Lib

/-- What is taken from the front of a text, and what is left of it. -/
abbrev Scanner (α : Type*) := List α → List α × List α

namespace Scanner

variable {α : Type*} {p : α → Bool} {f g : Scanner α} {rest : List α}

/-- As long as `p` holds. -/
def run (p : α → Bool) : Scanner α := fun s => (s.takeWhile p, s.dropWhile p)

/-- One element, if `p` holds of it. -/
def optional (p : α → Bool) : Scanner α
  | [] => ([], [])
  | c :: s => if p c then ([c], s) else ([], c :: s)

/-- `f` behind an element of which `p` holds, or nothing where `f` takes nothing there. -/
def behind (p : α → Bool) (f : Scanner α) : Scanner α
  | [] => ([], [])
  | c :: s => if p c && !(f s).1.isEmpty then (c :: (f s).1, (f s).2) else ([], c :: s)

/-- One after the other. -/
def andThen (f g : Scanner α) : Scanner α := fun s => ((f s).1 ++ (g (f s).2).1, (g (f s).2).2)

/-- One after the other, or nothing where the second takes nothing. -/
def both (f g : Scanner α) : Scanner α := fun s => if (g (f s).2).1.isEmpty then ([], s) else f.andThen g s

/-- What is taken from a text does not change where `rest` stands behind it. -/
def StopsAt (f : Scanner α) (rest : List α) : Prop := ∀ s, f (s ++ rest) = ((f s).1, (f s).2 ++ rest)

theorem stopsAt_run (h : ∀ c ∈ rest.head?, p c = false) : (run p).StopsAt rest := by
  intro s
  induction s with
  | nil =>
    cases rest with
    | nil => rfl
    | cons c rest =>
      have hc : p c = false := h c rfl
      simp [run, hc]
  | cons c s ih =>
    unfold run at ih ⊢
    cases hc : p c with
    | false => simp [hc]
    | true =>
      obtain ⟨htaken, hleft⟩ := Prod.mk.inj ih
      simp [hc, htaken, hleft]

theorem stopsAt_optional (h : ∀ c ∈ rest.head?, p c = false) : (optional p).StopsAt rest := by
  intro s
  cases s with
  | nil =>
    cases rest with
    | nil => rfl
    | cons c rest =>
      have hc : p c = false := h c rfl
      simp [optional, hc]
  | cons c s =>
    rw [List.cons_append, optional, optional]
    split_ifs <;> rfl

theorem StopsAt.behind (hf : f.StopsAt rest) (h : ∀ c ∈ rest.head?, p c = false) : (behind p f).StopsAt rest := by
  intro s
  cases s with
  | nil =>
    cases rest with
    | nil => rfl
    | cons c rest =>
      have hc : p c = false := h c rfl
      simp [Scanner.behind, hc]
  | cons c s =>
    rw [List.cons_append, Scanner.behind, Scanner.behind, hf s]
    split_ifs <;> rfl

theorem StopsAt.andThen (hf : f.StopsAt rest) (hg : g.StopsAt rest) : (f.andThen g).StopsAt rest := by
  intro s
  rw [Scanner.andThen, hf s, hg (f s).2]
  rfl

theorem StopsAt.both (hf : f.StopsAt rest) (hg : g.StopsAt rest) : (f.both g).StopsAt rest := by
  intro s
  rw [Scanner.both, Scanner.both, hf.andThen hg s, hf s, hg (f s).2]
  split_ifs <;> rfl

/-- All that is taken has the property `q`. -/
def Takes (f : Scanner α) (q : α → Prop) : Prop := ∀ s, ∀ c ∈ (f s).1, q c

variable {q : α → Prop}

theorem takes_run (h : ∀ c, p c = true → q c) : (run p).Takes q :=
  fun _ c hc => h c (List.mem_takeWhile_imp hc)

theorem takes_optional (h : ∀ c, p c = true → q c) : (optional p).Takes q := by
  intro s c hc
  cases s with
  | nil => cases hc
  | cons d s =>
    rw [optional] at hc
    split_ifs at hc with hd
    · rw [List.mem_singleton.mp hc]
      exact h d hd
    · cases hc

theorem Takes.behind (hf : f.Takes q) (h : ∀ c, p c = true → q c) : (behind p f).Takes q := by
  intro s c hc
  cases s with
  | nil => cases hc
  | cons d s =>
    rw [Scanner.behind] at hc
    split_ifs at hc with hd
    · rcases List.mem_cons.mp hc with rfl | hc
      · exact h c (Bool.and_eq_true_iff.mp hd).1
      · exact hf s c hc
    · cases hc

theorem Takes.andThen (hf : f.Takes q) (hg : g.Takes q) : (f.andThen g).Takes q := by
  intro s c hc
  rcases List.mem_append.mp hc with hc | hc
  · exact hf s c hc
  · exact hg (f s).2 c hc

theorem Takes.both (hf : f.Takes q) (hg : g.Takes q) : (f.both g).Takes q := by
  intro s c hc
  rw [Scanner.both] at hc
  split_ifs at hc
  · cases hc
  · exact hf.andThen hg s c hc

end Scanner

end Lib
