import Mathlib.Data.List.Nodup

/-!
# Runs of labelled transition systems

`Run step s tr t`: the steps recorded in `tr`, taken one after the other, lead from `s` to `t`.
A record keeps the state before, the label (which carries what the environment chose) and the
state after, so a property of a run can speak about every step taken in it.

* `Run.step_of_mem`: what is recorded are steps;
* `Run.of_foldlM`: the run of a list of labels, where a function makes the steps;
* `Run.invariant` / `Run.invariant_under`: what every step preserves (under a condition on the state
  before and the label) holds at the end and at both ends of every recorded step;
* `Run.forall_iff`, `Run.always_iff`: where a condition says exactly which steps have (or keep) a property,
  the property holds all along a run iff every step of it meets the condition;
* `Stays`, `Run.stays_iff`: what is never lost again once it holds is what no step loses;
* `Run.marked`: what one step of a kind establishes for the rest of the run;
* `Run.caused`: what holds at the end but not at the start comes from a step;
* `Run.arisen`: it has come up at some step and held ever since;
* `Run.simulate`: a relation that every step respects carries a run to a run;
* `since`, `Run.counter_eq_since`: a counter that some steps set back counts the others since the last of these;
* `Run.worked_off`: what leaves a work list has been done;
* `Run.copied_since`: a copy is what there was to copy at some moment since it was taken;
* `Run.last_set_iff`: a mark that some steps set and others clear is there iff it was set and not cleared since;
* `Run.register_taken_iff`: a register that steps set and that checks clear holds what was set last, if it passed every
  check since;
* `Within`: what can be reached in so many steps;
* `split_sublist`, `not_mem_split`, `concat_split`, `map_split`: a step often takes one of several pending calls.
-/

namespace Lib

/-- A step that was taken. -/
structure Taken (σ ℓ : Type*) where
  pre : σ
  label : ℓ
  post : σ

/-- Finite runs of `step`, with the steps taken. -/
inductive Run {σ ℓ : Type*} (step : σ → ℓ → σ → Prop) : σ → List (Taken σ ℓ) → σ → Prop
  | nil (s : σ) : Run step s [] s
  | snoc {s t u : σ} {tr : List (Taken σ ℓ)} {l : ℓ} :
      Run step s tr t → step t l u → Run step s (tr ++ [⟨t, l, u⟩]) u

/-- Once `P` holds, it holds at every later point of the run. -/
def Stays {σ ℓ : Type*} (P : σ → Prop) (tr : List (Taken σ ℓ)) : Prop :=
  ∀ tr₁ x tr₂, tr = tr₁ ++ x :: tr₂ → P x.pre → ∀ y ∈ x :: tr₂, P y.post

/-- How many elements count, back to the last one that resets. -/
def since {α : Type*} (resets counts : α → Bool) (l : List α) : ℕ :=
  (l.reverse.takeWhile (fun x => !resets x)).countP counts

theorem since_concat {α : Type*} (resets counts : α → Bool) (l : List α) (x : α) :
    since resets counts (l ++ [x]) = if resets x then 0 else since resets counts l + (counts x).toNat := by
  unfold since
  rw [List.reverse_append, List.reverse_singleton, List.singleton_append, List.takeWhile_cons]
  cases resets x with
  | true => rfl
  | false => cases hx : counts x <;> simp [hx]

/-! ### Taking one element out of a list -/

section Split

variable {α β : Type*} {l l₁ l₂ : List α} {a : α}

theorem split_sublist (h : l = l₁ ++ a :: l₂) : (l₁ ++ l₂).Sublist l := by
  rw [h]
  exact (List.sublist_cons_self a l₂).append_left l₁

theorem not_mem_split (h : l = l₁ ++ a :: l₂) (hnd : l.Nodup) : a ∉ l₁ ++ l₂ := by
  rw [h, List.nodup_middle, List.nodup_cons] at hnd
  exact hnd.1

/-- The chosen element is the last one, or the last one comes after it. -/
theorem concat_split {b : α} (h : l ++ [b] = l₁ ++ a :: l₂) :
    (a = b ∧ l₂ = [] ∧ l = l₁) ∨ ∃ mid, l₂ = mid ++ [b] ∧ l = l₁ ++ a :: mid := by
  rcases List.eq_nil_or_concat l₂ with rfl | ⟨mid, c, rfl⟩
  · obtain ⟨hl, hb⟩ := List.append_inj' h rfl
    exact .inl ⟨(List.cons.inj hb).1.symm, rfl, hl⟩
  · rw [List.concat_eq_append, ← List.cons_append, ← List.append_assoc] at h
    obtain ⟨hl, hb⟩ := List.append_inj' h rfl
    obtain rfl := (List.cons.inj hb).1
    exact .inr ⟨mid, List.concat_eq_append, hl⟩

theorem map_split (f : α → β) (h : l = l₁ ++ a :: l₂) : l.map f = l₁.map f ++ f a :: l₂.map f := by
  rw [h, List.map_append, List.map_cons]

end Split

namespace Run

variable {σ σ' ℓ ℓ' : Type*} {step : σ → ℓ → σ → Prop} {s t u : σ} {tr tr' : List (Taken σ ℓ)}

theorem step_of_mem (h : Run step s tr t) {x : Taken σ ℓ} (hx : x ∈ tr) :
    step x.pre x.label x.post := by
  induction h with
  | nil => simp at hx
  | snoc _ hs ih =>
    rcases List.mem_append.mp hx with hx | hx
    · exact ih hx
    · rw [List.mem_singleton] at hx
      subst hx
      exact hs

theorem single {l : ℓ} (h : step s l t) : Run step s [⟨s, l, t⟩] t := (Run.nil s).snoc h

theorem append (h : Run step s tr t) (h' : Run step t tr' u) : Run step s (tr ++ tr') u := by
  induction h' with
  | nil => simpa using h
  | snoc _ hs ih =>
    rw [← List.append_assoc]
    exact ih.snoc hs

/-- Where a function makes the steps, the labels give the run. -/
theorem of_foldlM {next : σ → ℓ → Option σ} {labels : List ℓ} (h : labels.foldlM next s = some t) :
    ∃ tr, Run (fun s l t => next s l = some t) s tr t := by
  induction labels generalizing s with
  | nil =>
    cases h
    exact ⟨[], .nil _⟩
  | cons l labels ih =>
    rw [List.foldlM_cons] at h
    obtain ⟨u, hl, hlabels⟩ := Option.bind_eq_some_iff.mp h
    obtain ⟨tr, hrun⟩ := ih hlabels
    exact ⟨_, (single hl).append hrun⟩

/-- A run whose labels are all of one kind is a run of the steps of that kind. -/
theorem restrict {K : ℓ → Prop} (h : Run step s tr t) (hK : ∀ x ∈ tr, K x.label) :
    Run (fun s l t => step s l t ∧ K l) s tr t := by
  induction h with
  | nil => exact .nil _
  | snoc _ hst ih =>
    rw [List.forall_mem_append, List.forall_mem_singleton] at hK
    exact (ih hK.1).snoc ⟨hst, hK.2⟩

/-- **Conditional invariants.** If every step whose state before and label meet `C` preserves `I`,
then `I` holds all along every run whose steps all meet `C`. -/
theorem invariant_under {I : σ → Prop} {C : σ → ℓ → Prop}
    (hstep : ∀ t l u, I t → C t l → step t l u → I u) (hs : I s) (h : Run step s tr t)
    (hC : ∀ x ∈ tr, C x.pre x.label) : I t ∧ ∀ x ∈ tr, I x.pre ∧ I x.post := by
  induction h with
  | nil => exact ⟨hs, by simp⟩
  | @snoc t u tr l hrun hst ih =>
    obtain ⟨ht, hmem⟩ := ih (fun x hx => hC x (List.mem_append_left _ hx))
    have hu : I u := hstep t l u ht (hC ⟨t, l, u⟩ (by simp)) hst
    refine ⟨hu, fun x hx => ?_⟩
    rcases List.mem_append.mp hx with hx | hx
    · exact hmem x hx
    · rw [List.mem_singleton] at hx
      subst hx
      exact ⟨ht, hu⟩

/-- **Invariants.** What every step preserves holds all along every run. -/
theorem invariant {I : σ → Prop} (hstep : ∀ t l u, I t → step t l u → I u) (hs : I s)
    (h : Run step s tr t) : I t ∧ ∀ x ∈ tr, I x.pre ∧ I x.post :=
  invariant_under (C := fun _ _ => True) (fun t l u ht _ hst => hstep t l u ht hst) hs h
    (fun _ _ => trivial)

/-- **Exact conditions.** If, where `I` holds, `C` says exactly which steps have the property `P`, and these
keep `I`, then all steps of a run have the property iff they all meet `C`. -/
theorem forall_iff {I : σ → Prop} {C : σ → ℓ → Prop} {P : Taken σ ℓ → Prop}
    (hstep : ∀ t l u, I t → step t l u → (P ⟨t, l, u⟩ ↔ C t l) ∧ (P ⟨t, l, u⟩ → I u)) (hI : I s)
    (h : Run step s tr t) : (∀ x ∈ tr, P x) ↔ ∀ x ∈ tr, C x.pre x.label := by
  suffices hboth : ((∀ x ∈ tr, P x) ↔ ∀ x ∈ tr, C x.pre x.label) ∧ ((∀ x ∈ tr, P x) → I t) from hboth.1
  induction h with
  | nil => exact ⟨by simp, fun _ => hI⟩
  | @snoc t u tr l _ hst ih =>
    obtain ⟨hiff, hend⟩ := ih
    have hall : (∀ x ∈ tr, P x) → (P ⟨t, l, u⟩ ↔ C t l) ∧ (P ⟨t, l, u⟩ → I u) := fun hP =>
      hstep t l u (hend hP) hst
    simp only [List.forall_mem_append, List.forall_mem_singleton]
    refine ⟨⟨fun ⟨hP, hlast⟩ => ⟨hiff.mp hP, (hall hP).1.mp hlast⟩, fun ⟨hcond, hl⟩ => ?_⟩,
      fun ⟨hP, hlast⟩ => (hall hP).2 hlast⟩
    have hP := hiff.mpr hcond
    exact ⟨hP, (hall hP).1.mpr hl⟩

/-- If `C` says exactly when a step keeps `I` (where `J` holds), then `I` holds all along a run iff all its steps
meet `C`. -/
theorem always_iff {I J : σ → Prop} {C : σ → ℓ → Prop}
    (hstep : ∀ t l u, J t → I t → step t l u → J u ∧ (I u ↔ C t l)) (hJ : J s) (hI : I s)
    (h : Run step s tr t) : (∀ x ∈ tr, I x.post) ↔ ∀ x ∈ tr, C x.pre x.label := by
  refine forall_iff (I := fun t => J t ∧ I t) (P := fun x => I x.post) (fun t l u ht hst => ?_) ⟨hJ, hI⟩ h
  obtain ⟨hu, hiff⟩ := hstep t l u ht.1 ht.2 hst
  exact ⟨hiff, fun hI => ⟨hu, hI⟩⟩

theorem nil_inv (h : Run step s [] t) : s = t := by
  generalize htr : ([] : List (Taken σ ℓ)) = tr at h
  cases h with
  | nil => rfl
  | snoc _ _ => simp at htr

theorem cons_inv {x : Taken σ ℓ} (h : Run step s (x :: tr) t) :
    x.pre = s ∧ step s x.label x.post ∧ Run step x.post tr t := by
  generalize htr : x :: tr = tr' at h
  induction h generalizing tr with
  | nil => cases htr
  | @snoc t u tr' l hrun hst ih =>
    cases tr' with
    | nil =>
      obtain ⟨rfl, rfl⟩ := List.cons.inj htr
      obtain rfl := nil_inv hrun
      exact ⟨rfl, hst, .nil _⟩
    | cons y ys =>
      obtain ⟨rfl, rfl⟩ := List.cons.inj htr
      obtain ⟨hpre, hstep, hrest⟩ := ih rfl
      exact ⟨hpre, hstep, hrest.snoc hst⟩

theorem split (h : Run step s (tr ++ tr') u) : ∃ t, Run step s tr t ∧ Run step t tr' u := by
  induction tr generalizing s with
  | nil => exact ⟨s, .nil s, h⟩
  | cons x tr ih =>
    obtain ⟨rfl, hst, hrest⟩ := cons_inv h
    obtain ⟨t, h₁, h₂⟩ := ih hrest
    exact ⟨t, (single hst).append h₁, h₂⟩

/-- What no step loses is there all along, if it is there at the start. -/
theorem kept {P : σ → Prop} (h : Run step s tr t) (hkeep : ∀ x ∈ tr, P x.pre → P x.post)
    (hs : P s) : P t ∧ ∀ x ∈ tr, P x.post := by
  induction h with
  | nil => exact ⟨hs, by simp⟩
  | snoc _ _ ih =>
    rw [List.forall_mem_append, List.forall_mem_singleton] at hkeep
    obtain ⟨ht, hmem⟩ := ih hkeep.1
    have hu := hkeep.2 ht
    rw [List.forall_mem_append, List.forall_mem_singleton]
    exact ⟨hu, hmem, hu⟩

/-- What a marked step establishes and no step loses is there at the end of a run with such a step. -/
theorem marked {M : Taken σ ℓ → Prop} {Q : σ → Prop} (h : Run step s tr t)
    (hmark : ∀ x ∈ tr, M x → Q x.post) (hkeep : ∀ x ∈ tr, Q x.pre → Q x.post) (hex : ∃ x ∈ tr, M x) : Q t := by
  obtain ⟨x, hx, hm⟩ := hex
  obtain ⟨tr₁, tr₂, rfl⟩ := List.append_of_mem hx
  obtain ⟨m, -, hrest⟩ := split h
  obtain ⟨-, -, hlast⟩ := cons_inv hrest
  refine (kept hlast (fun y hy => hkeep y ?_) (hmark x hx hm)).1
  exact List.mem_append_right _ (List.mem_cons_of_mem x hy)

/-- What only steps of a kind can bring about comes from such a step, if it does not hold at first. -/
theorem caused {P : σ → Prop} {M : Taken σ ℓ → Prop} (hstep : ∀ t l u, step t l u → P u → P t ∨ M ⟨t, l, u⟩)
    (hs : ¬P s) (h : Run step s tr t) (ht : P t) : ∃ x ∈ tr, M x := by
  induction h with
  | nil => exact absurd ht hs
  | @snoc t u tr l _ hst ih =>
    obtain hbefore | hnow := hstep t l u hst ht
    · obtain ⟨x, hx, hM⟩ := ih hbefore
      exact ⟨x, List.mem_append_left _ hx, hM⟩
    · exact ⟨⟨t, l, u⟩, List.mem_append_right _ List.mem_cons_self, hnow⟩

/-- What holds at the end but not at the start has come up at some step and held ever since. -/
theorem arisen {P : σ → Prop} (hs : ¬P s) (h : Run step s tr t) (ht : P t) :
    ∃ tr₁ x tr₂, tr = tr₁ ++ x :: tr₂ ∧ ¬P x.pre ∧ ∀ y ∈ x :: tr₂, P y.post := by
  induction h with
  | nil => exact absurd ht hs
  | @snoc t u tr l _ _ ih =>
    by_cases hbefore : P t
    · obtain ⟨tr₁, x, tr₂, rfl, hpre, hsince⟩ := ih hbefore
      refine ⟨tr₁, x, tr₂ ++ [⟨t, l, u⟩], by simp, hpre, ?_⟩
      rw [← List.cons_append, List.forall_mem_append, List.forall_mem_singleton]
      exact ⟨hsince, ht⟩
    · refine ⟨tr, ⟨t, l, u⟩, [], rfl, hbefore, ?_⟩
      rw [List.forall_mem_singleton]
      exact ht

/-- **What stays.** A property is never lost again iff no step of the run loses it. -/
theorem stays_iff {P : σ → Prop} (h : Run step s tr t) :
    Stays P tr ↔ ∀ x ∈ tr, P x.pre → P x.post := by
  constructor
  · intro hstays x hx hpre
    obtain ⟨tr₁, tr₂, rfl⟩ := List.append_of_mem hx
    exact hstays tr₁ x tr₂ rfl hpre x List.mem_cons_self
  · rintro hkeep tr₁ x tr₂ rfl hpre
    obtain ⟨m, -, hrest⟩ := split h
    obtain ⟨hm, -, -⟩ := cons_inv hrest
    exact (kept hrest (fun y hy => hkeep y (List.mem_append_right _ hy)) (hm ▸ hpre)).2

/-- **Counters.** A number that is 0 at first, and that every step sets back or raises by what it counts, is what has
been counted since the last step that sets it back. -/
theorem counter_eq_since {f : σ → ℕ} {resets counts : Taken σ ℓ → Bool} (h : Run step s tr t) (hs : f s = 0)
    (hstep : ∀ t l u, step t l u → f u = if resets ⟨t, l, u⟩ then 0 else f t + (counts ⟨t, l, u⟩).toNat) :
    f t = since resets counts tr := by
  induction h with
  | nil => exact hs
  | snoc _ hst ih => rw [since_concat, hstep _ _ _ hst, ih]

/-- **Work lists.** What is to be done at first is to be done still, or a step has done it. -/
theorem worked_off {κ : Type*} (todo : σ → List κ) (done : κ → Taken σ ℓ → Prop) (h : Run step s tr t)
    (hstep : ∀ t l u, step t l u → ∀ k ∈ todo t, k ∈ todo u ∨ done k ⟨t, l, u⟩) :
    ∀ k ∈ todo s, k ∈ todo t ∨ ∃ x ∈ tr, done k x := by
  induction h with
  | nil => exact fun k hk => .inl hk
  | @snoc t u tr l _ hst ih =>
    intro k hk
    obtain htodo | ⟨x, hx, hdone⟩ := ih k hk
    · refine (hstep t l u hst k htodo).imp_right fun hdone => ?_
      exact ⟨⟨t, l, u⟩, List.mem_append_right _ List.mem_cons_self, hdone⟩
    · exact .inr ⟨x, List.mem_append_left _ hx, hdone⟩

/-- **Copies.** Where every step leaves a copy alone or takes it anew, the copy is what there was to copy at some moment
since it was taken. -/
theorem copied_since {β : Type*} (copy orig : σ → β) (h : Run step s tr t)
    (hstep : ∀ t l u, step t l u → copy u = copy t ∨ copy u = orig t)
    (htaken : ∃ x ∈ tr, copy x.post = orig x.pre) : ∃ x ∈ tr, copy t = orig x.pre := by
  induction h with
  | nil =>
    obtain ⟨x, hx, -⟩ := htaken
    cases hx
  | @snoc t u tr l _ hst ih =>
    have hlast : (⟨t, l, u⟩ : Taken σ ℓ) ∈ tr ++ [⟨t, l, u⟩] := List.mem_append_right _ List.mem_cons_self
    obtain hsame | hnow := hstep t l u hst
    · obtain ⟨x, hx, hcopy⟩ := htaken
      rcases List.mem_append.mp hx with hx | hx
      · obtain ⟨y, hy, hcopied⟩ := ih ⟨x, hx, hcopy⟩
        exact ⟨y, List.mem_append_left _ hy, hsame.trans hcopied⟩
      · obtain rfl := List.mem_singleton.mp hx
        exact ⟨_, hlast, hcopy⟩
    · exact ⟨_, hlast, hnow⟩

/-- **What was set last.** Where a step sets a mark (`S`), or keeps it unless it clears it (`C`), the mark is there
at the end iff some step set it and no later step clears it. -/
theorem last_set_iff {I P : σ → Prop} {S C : Taken σ ℓ → Prop}
    (hstep : ∀ t l u, I t → step t l u → I u ∧ (P u ↔ S ⟨t, l, u⟩ ∨ (P t ∧ ¬C ⟨t, l, u⟩)))
    (hI : I s) (hs : ¬P s) (h : Run step s tr t) :
    P t ↔ ∃ tr₁ x tr₂, tr = tr₁ ++ x :: tr₂ ∧ S x ∧ ∀ y ∈ tr₂, ¬C y := by
  suffices hboth : I t ∧ (P t ↔ ∃ tr₁ x tr₂, tr = tr₁ ++ x :: tr₂ ∧ S x ∧ ∀ y ∈ tr₂, ¬C y) from hboth.2
  induction h with
  | nil =>
    refine ⟨hI, iff_of_false hs ?_⟩
    rintro ⟨tr₁, x, tr₂, htr, -⟩
    simp at htr
  | @snoc t u tr l _ hst ih =>
    obtain ⟨ht, ih⟩ := ih
    obtain ⟨hu, hmark⟩ := hstep _ _ _ ht hst
    refine ⟨hu, ?_⟩
    rw [hmark, ih]
    constructor
    · rintro (hset | ⟨⟨tr₁, x, tr₂, rfl, hx, hlater⟩, hkeep⟩)
      · exact ⟨tr, ⟨t, l, u⟩, [], rfl, hset, by simp⟩
      · refine ⟨tr₁, x, tr₂ ++ [⟨t, l, u⟩], by simp, hx, ?_⟩
        rw [List.forall_mem_append, List.forall_mem_singleton]
        exact ⟨hlater, hkeep⟩
    · rintro ⟨tr₁, x, tr₂, htr, hx, hlater⟩
      obtain ⟨rfl, rfl, -⟩ | ⟨mid, rfl, rfl⟩ := concat_split htr
      · exact .inl hx
      · rw [List.forall_mem_append, List.forall_mem_singleton] at hlater
        exact .inr ⟨⟨tr₁, x, mid, rfl, hx, hlater.1⟩, hlater.2⟩

/-- **Registers.** Where a step sets a register, or keeps what is in it if that passes a check, the register holds `b`
at the end iff some step set it to `b`, and no later step sets it or finds that `b` does not pass. -/
theorem register_taken_iff {β : Type*} {I : σ → Prop} (reg : σ → Option β) (sets : Taken σ ℓ → Option β)
    (keeps : Taken σ ℓ → β → Bool)
    (hstep : ∀ t l u, I t → step t l u → I u ∧ reg u = (sets ⟨t, l, u⟩).or ((reg t).filter (keeps ⟨t, l, u⟩)))
    (hI : I s) (hs : reg s = none) (h : Run step s tr t) {b : β} :
    reg t = some b ↔ ∃ tr₁ x tr₂, tr = tr₁ ++ x :: tr₂ ∧ sets x = some b ∧
      ∀ y ∈ tr₂, sets y = none ∧ keeps y b = true := by
  have hmark := h.last_set_iff (P := fun t => reg t = some b) (S := fun x => sets x = some b)
    (C := fun y => ¬(sets y = none ∧ keeps y b = true)) (fun t l u ht hst => ?_) hI
    (by rw [hs]; simp)
  · simpa only [not_not] using hmark
  · obtain ⟨hu, hreg⟩ := hstep t l u ht hst
    refine ⟨hu, ?_⟩
    cases hset : sets ⟨t, l, u⟩ with
    | some c => simp [hreg, hset]
    | none => simp [hreg, hset, Option.filter_eq_some_iff]

/-- Registers that steps set by their labels. -/
theorem register_iff {β : Type*} {I : σ → Prop} {reg : σ → Option β} {sets : ℓ → Option β} {keeps : ℓ → β → Bool}
    (hstep : ∀ t l u, I t → step t l u → I u ∧ reg u = (sets l).or ((reg t).filter (keeps l)))
    (hI : I s) (hs : reg s = none) (h : Run step s tr t) {b : β} :
    reg t = some b ↔ ∃ tr₁ x tr₂, tr = tr₁ ++ x :: tr₂ ∧ sets x.label = some b ∧
      ∀ y ∈ tr₂, sets y.label = none ∧ keeps y.label b = true :=
  h.register_taken_iff reg (fun x => sets x.label) (fun x => keeps x.label) hstep hI hs

/-- **Simulation.** If `R` is respected by single steps up to runs of `step'`, it is respected by
runs. -/
theorem simulate {step' : σ' → ℓ' → σ' → Prop} {R : σ → σ' → Prop}
    (hstep : ∀ t l u a, R t a → step t l u → ∃ b tr', Run step' a tr' b ∧ R u b) {a : σ'}
    (hR : R s a) (h : Run step s tr t) : ∃ b tr', Run step' a tr' b ∧ R t b := by
  induction h with
  | nil => exact ⟨a, [], .nil a, hR⟩
  | snoc _ hs ih =>
    obtain ⟨b, tr₁, h₁, hb⟩ := ih
    obtain ⟨c, tr₂, h₂, hc⟩ := hstep _ _ _ b hb hs
    exact ⟨c, tr₁ ++ tr₂, h₁.append h₂, hc⟩

end Run

/-! ### What can be reached -/

section Within

variable {σ ℓ : Type*} {step : σ → ℓ → σ → Prop} {s t : σ} {l : ℓ} {P : σ → Prop} {n m : ℕ}

/-- Some run of at most `n` steps leads from `s` to a state with `P`. -/
def Within (step : σ → ℓ → σ → Prop) (n : ℕ) (s : σ) (P : σ → Prop) : Prop :=
  ∃ tr t, Run step s tr t ∧ tr.length ≤ n ∧ P t

theorem Within.now (h : P s) : Within step 0 s P := ⟨[], s, .nil s, Nat.le_refl 0, h⟩

theorem Within.cons (h : step s l t) (ht : Within step n t P) : Within step (n + 1) s P := by
  obtain ⟨tr, u, hrun, hlen, hu⟩ := ht
  exact ⟨_, u, (Run.single h).append hrun, by simpa using hlen, hu⟩

theorem Within.mono (h : Within step n s P) (hle : n ≤ m) : Within step m s P := by
  obtain ⟨tr, u, hrun, hlen, hu⟩ := h
  exact ⟨tr, u, hrun, Nat.le_trans hlen hle, hu⟩

end Within

end Lib
