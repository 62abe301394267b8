import Polyfast.Lib.Loop

/-!
# Scripts that are run again after an interruption

A script comes in chunks: effects, and a mark that says that they are done. A run performs the chunks that are not
marked yet, and may be cut after any write. If performing an effect again changes nothing, nor does performing it
again after others, then whatever was interrupted before, a complete run leaves what one run does.

* `Resumable`: what is asked of the effects;
* `Reached`: what interrupted runs leave;
* `Valid.forEach_take`: a run of the next chunks, cut anywhere, leaves such a state;
* `Valid.forEach_all`: a complete run from there.
-/

namespace Lib

variable {σ ε μ ξ : Type*}

/-- Effects with the mark that follows them. -/
structure Chunk (ε μ : Type*) where
  effects : List ε
  mark : μ

inductive Write (ε μ : Type*)
  | effect (e : ε)
  | mark (x : μ)

/-- The writes of a chunk, in order. -/
def Chunk.writes (c : Chunk ε μ) : List (Write ε μ) := c.effects.map .effect ++ [.mark c.mark]

/-- The mark of a write that is one. -/
def Write.mark? : Write ε μ → Option μ
  | effect _ => none
  | mark x => some x

/-- What effects do, and what refuses a mark. -/
structure Writer (σ ε μ ξ : Type*) where
  step : σ → ε → Except ξ σ
  refuses : σ → List μ → μ → Option ξ

namespace Writer

variable (w : Writer σ ε μ ξ)

/-- One write on a state with its marks. A write that fails changes nothing. -/
def write (s : σ × List μ) : Write ε μ → (σ × List μ) × Option ξ
  | .effect e =>
    match w.step s.1 e with
    | .ok t => ((t, s.2), none)
    | .error x => (s, some x)
  | .mark x =>
    match w.refuses s.1 s.2 x with
    | none => ((s.1, s.2 ++ [x]), none)
    | some y => (s, some y)

/-- Effects one after the other. -/
def performs (es : List ε) (s : σ) : Except ξ σ := es.foldlM w.step s

/-- An effect that was performed can be performed again, now or after others, and changes nothing. -/
structure Resumable : Prop where
  again : ∀ {s e t}, w.step s e = .ok t → w.step t e = .ok t
  stays : ∀ {s e f t}, w.step s e = .ok s → w.step s f = .ok t → w.step t e = .ok t

/-- The chunks of `done` are marked, and of the next one the effects `begun` are performed. -/
structure Reached (start : σ) (chunks : List (Chunk ε μ)) (s : σ × List μ) (done rest : List (Chunk ε μ))
    (begun : List ε) : Prop where
  split : chunks = done ++ rest
  marks : s.2 = done.map Chunk.mark
  next : begun <+: rest.head?.elim [] Chunk.effects
  state : w.performs (done.flatMap Chunk.effects ++ begun) start = .ok s.1

/-- From `start` all effects can be performed, and no mark is refused whose effects are. -/
structure Valid (start : σ) (chunks : List (Chunk ε μ)) (final : σ) : Prop where
  resumable : w.Resumable
  runs : w.performs (chunks.flatMap Chunk.effects) start = .ok final
  accepts : ∀ done c rest s, chunks = done ++ c :: rest →
    w.performs ((done ++ [c]).flatMap Chunk.effects) start = .ok s → w.refuses s (done.map Chunk.mark) c.mark = none

variable {w} {s t start final : σ} {e : ε} {es fs : List ε} {chunks done rest more : List (Chunk ε μ)}

theorem performs_append : w.performs (es ++ fs) s = w.performs es s >>= w.performs fs := List.foldlM_append

/-- What can be performed can be performed up to anywhere. -/
theorem performs_left (h : w.performs (es ++ fs) s = .ok t) :
    ∃ u, w.performs es s = .ok u ∧ w.performs fs u = .ok t := by
  rw [performs_append] at h
  cases hu : w.performs es s with
  | error x =>
    rw [hu] at h
    cases h
  | ok u =>
    rw [hu] at h
    exact ⟨u, rfl, h⟩

theorem performs_cons : w.performs (e :: es) s = w.step s e >>= w.performs es := List.foldlM_cons

namespace Resumable

variable (hw : w.Resumable)

include hw

theorem stays_performs (he : w.step s e = .ok s) (h : w.performs es s = .ok t) : w.step t e = .ok t := by
  induction es generalizing s with
  | nil =>
    cases h
    exact he
  | cons f es ih =>
    rw [performs_cons] at h
    cases hf : w.step s f with
    | error x =>
      rw [hf] at h
      cases h
    | ok u =>
      rw [hf] at h
      exact ih (hw.stays he hf) h

/-- What was performed changes nothing any more. -/
theorem settled (h : w.performs es s = .ok t) (he : e ∈ es) : w.step t e = .ok t := by
  obtain ⟨l₁, l₂, rfl⟩ := List.append_of_mem he
  obtain ⟨u, -, hu⟩ := performs_left h
  rw [performs_cons] at hu
  cases hv : w.step u e with
  | error x =>
    rw [hv] at hu
    cases hu
  | ok v =>
    rw [hv] at hu
    exact hw.stays_performs (hw.again hv) hu

end Resumable

/-- **An effect of a run.** The run has performed `before` of the next chunk, where `begun` was performed already. -/
theorem Valid.step_effect (hv : w.Valid start chunks final) {c : Chunk ε μ} {before after begun : List ε}
    (hsplit : chunks = done ++ c :: rest) (hc : c.effects = before ++ e :: after) (hbefore : before <+: begun)
    (hbegun : begun <+: c.effects) (hs : w.performs (done.flatMap Chunk.effects ++ begun) start = .ok s) :
    ∃ u begun', w.step s e = .ok u ∧ before ++ [e] <+: begun' ∧ begun' <+: c.effects ∧
      w.performs (done.flatMap Chunk.effects ++ begun') start = .ok u := by
  obtain ⟨ahead, rfl⟩ := hbefore
  rw [hc, List.prefix_append_right_inj] at hbegun
  cases ahead with
  | cons f ahead =>
    -- the effect was performed in an earlier run
    obtain rfl := (List.cons_prefix_cons.mp hbegun).1
    refine ⟨s, before ++ f :: ahead, hv.resumable.settled hs (by simp), ⟨ahead, by simp⟩, ?_, hs⟩
    rw [hc, List.prefix_append_right_inj]
    exact hbegun
  | nil =>
    rw [List.append_nil] at hs
    have hall := hv.runs
    rw [hsplit, List.flatMap_append, List.flatMap_cons, hc] at hall
    have hnext : done.flatMap Chunk.effects ++ (before ++ e :: after ++ rest.flatMap Chunk.effects) =
        (done.flatMap Chunk.effects ++ before) ++ ([e] ++ (after ++ rest.flatMap Chunk.effects)) := by simp
    rw [hnext] at hall
    obtain ⟨u, hu, hrest⟩ := performs_left hall
    obtain rfl : s = u := Except.ok.inj (hs.symm.trans hu)
    obtain ⟨v, hstep, -⟩ := performs_left hrest
    have hstep' : w.step s e = .ok v := by simpa [performs] using hstep
    refine ⟨v, before ++ [e], hstep', List.prefix_rfl, ⟨after, by rw [hc]; simp⟩, ?_⟩
    rw [← List.append_assoc, performs_append, hs]
    exact hstep

/-- The writes go through; they leave a state that runs can leave, with the marks among them. -/
structure Leaves (w : Writer σ ε μ ξ) (start : σ) (chunks : List (Chunk ε μ)) (s : σ × List μ)
    (writes : List (Write ε μ)) : Prop where
  fine : (forEach w.write s writes).2 = none
  reached : ∃ done rest begun, w.Reached start chunks (forEach w.write s writes).1 done rest begun
  marks : (forEach w.write s writes).1.2 = s.2 ++ writes.filterMap Write.mark?

/-- A write that goes through, and then writes that leave such a state. -/
theorem Leaves.cons {s s' : σ × List μ} {x : Write ε μ} {writes : List (Write ε μ)} (hx : w.write s x = (s', none))
    (hmarks : s'.2 = s.2 ++ [x].filterMap Write.mark?) (h : w.Leaves start chunks s' writes) :
    w.Leaves start chunks s (x :: writes) := by
  have hall : forEach w.write s (x :: writes) = forEach w.write s' writes := by
    rw [forEach_cons, hx]
    rfl
  refine ⟨by rw [hall]; exact h.fine, by rw [hall]; exact h.reached, ?_⟩
  rw [hall, h.marks, hmarks, List.append_assoc, ← List.filterMap_append]
  rfl

theorem Leaves.nil {s : σ × List μ} {begun : List ε} (h : w.Reached start chunks s done rest begun) :
    w.Leaves start chunks s [] := ⟨rfl, ⟨done, rest, begun, h⟩, (List.append_nil _).symm⟩

/-- **A run in the middle of a chunk**, cut anywhere. -/
theorem Valid.leaves_take (hv : w.Valid start chunks final) (k : ℕ) : ∀ {done pending more : List (Chunk ε μ)}
    {c : Chunk ε μ} {before after begun : List ε} {s : σ}, chunks = done ++ c :: (pending ++ more) →
    c.effects = before ++ after → before <+: begun → begun <+: c.effects →
    w.performs (done.flatMap Chunk.effects ++ begun) start = .ok s →
    w.Leaves start chunks (s, done.map Chunk.mark)
      ((after.map Write.effect ++ Write.mark c.mark :: pending.flatMap Chunk.writes).take k) := by
  induction k with
  | zero =>
    intro done pending more c before after begun s hsplit hc hbefore hbegun hs
    exact .nil ⟨hsplit, rfl, hbegun, hs⟩
  | succ k ih =>
    intro done pending more c before after begun s hsplit hc hbefore hbegun hs
    cases after with
    | cons e after =>
      obtain ⟨u, begun', hstep, hbefore', hbegun', hu⟩ := hv.step_effect hsplit hc hbefore hbegun hs
      have hwrite : w.write (s, done.map Chunk.mark) (.effect e) = ((u, done.map Chunk.mark), none) := by
        simp only [write, hstep]
      exact .cons hwrite (List.append_nil _).symm (ih hsplit (by rw [hc]; simp) hbefore' hbegun' hu)
    | nil =>
      -- all effects of the chunk are performed, so its mark is not refused
      rw [List.append_nil] at hc
      have hfull : begun = c.effects := hbegun.eq_of_length_le (by rw [hc]; exact hbefore.length_le)
      subst hfull
      have hdone : w.performs ((done ++ [c]).flatMap Chunk.effects) start = .ok s := by
        rw [List.flatMap_append, List.flatMap_singleton]
        exact hs
      have hsplit' : chunks = (done ++ [c]) ++ (pending ++ more) := by rw [hsplit]; simp
      have hmark : w.write (s, done.map Chunk.mark) (.mark c.mark) = ((s, (done ++ [c]).map Chunk.mark), none) := by
        simp only [write, hv.accepts done c _ s hsplit hdone, List.map_append, List.map_singleton]
      refine .cons hmark (by simp [Write.mark?]) ?_
      cases pending with
      | nil =>
        have hreached : w.Reached start chunks (s, (done ++ [c]).map Chunk.mark) (done ++ [c]) more [] :=
          ⟨hsplit', rfl, List.nil_prefix, by rw [List.append_nil]; exact hdone⟩
        rw [List.flatMap_nil, List.take_nil]
        exact .nil hreached
      | cons c' pending =>
        have hwrites : (c' :: pending).flatMap Chunk.writes =
            c'.effects.map Write.effect ++ Write.mark c'.mark :: pending.flatMap Chunk.writes := by
          simp [Chunk.writes]
        rw [hwrites]
        have hdone' : w.performs ((done ++ [c]).flatMap Chunk.effects ++ []) start = .ok s := by
          rw [List.append_nil]
          exact hdone
        exact ih (hsplit'.trans rfl) rfl List.prefix_rfl List.nil_prefix hdone'

/-- **A run**, cut anywhere, from where interrupted runs lead. -/
theorem Valid.run_take (hv : w.Valid start chunks final) {s : σ × List μ} {begun : List ε}
    (h : w.Reached start chunks s done rest begun) (pending more : List (Chunk ε μ)) (hrest : rest = pending ++ more)
    (k : ℕ) : w.Leaves start chunks s ((pending.flatMap Chunk.writes).take k) := by
  cases pending with
  | nil =>
    rw [List.flatMap_nil, List.take_nil]
    exact .nil h
  | cons c pending =>
    obtain ⟨hsplit, hmarks, hnext, hstate⟩ := h
    subst hrest
    have hwrites : (c :: pending).flatMap Chunk.writes =
        c.effects.map Write.effect ++ Write.mark c.mark :: pending.flatMap Chunk.writes := by
      simp [Chunk.writes]
    have hs : s = (s.1, done.map Chunk.mark) := by rw [← hmarks]
    rw [hwrites, hs]
    exact hv.leaves_take k hsplit rfl List.nil_prefix hnext hstate

theorem filterMap_mark?_writes (cs : List (Chunk ε μ)) :
    (cs.flatMap Chunk.writes).filterMap Write.mark? = cs.map Chunk.mark := by
  induction cs with
  | nil => rfl
  | cons c cs ih =>
    have heffects : (c.effects.map (Write.effect (μ := μ))).filterMap Write.mark? = [] :=
      List.filterMap_eq_nil_iff.mpr fun x hx => by
        obtain ⟨e, -, rfl⟩ := List.mem_map.mp hx
        rfl
    rw [List.flatMap_cons, List.filterMap_append, ih, Chunk.writes, List.filterMap_append, heffects]
    rfl

/-- **A complete run** leaves what one run leaves, and every chunk is marked once. -/
theorem Valid.run_all (hv : w.Valid start chunks final) {s : σ × List μ} {begun : List ε}
    (h : w.Reached start chunks s done rest begun) :
    forEach w.write s (rest.flatMap Chunk.writes) = ((final, chunks.map Chunk.mark), none) := by
  have hrun := hv.run_take h rest [] (List.append_nil rest).symm (rest.flatMap Chunk.writes).length
  rw [List.take_length] at hrun
  obtain ⟨hfine, ⟨done', rest', begun', hreached⟩, hmarks⟩ := hrun
  rw [filterMap_mark?_writes, h.marks, ← List.map_append, ← h.split] at hmarks
  -- all chunks are marked, so nothing is left that could have been begun
  have hlength := congrArg List.length (hreached.marks.symm.trans hmarks)
  rw [List.length_map, List.length_map, hreached.split, List.length_append] at hlength
  obtain rfl : rest' = [] := List.eq_nil_of_length_eq_zero (by omega)
  obtain rfl : begun' = [] := List.prefix_nil.mp hreached.next
  have hall := hreached.state
  rw [List.append_nil, ← (hreached.split.trans (List.append_nil _)), hv.runs] at hall
  refine Prod.ext (Prod.ext (Except.ok.inj hall).symm hmarks) hfine

/-- Nothing is performed yet. -/
theorem reached_start (chunks : List (Chunk ε μ)) (start : σ) : w.Reached start chunks (start, []) [] chunks [] :=
  ⟨rfl, rfl, List.nil_prefix, rfl⟩

end Writer

end Lib
