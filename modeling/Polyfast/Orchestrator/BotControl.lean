import Polyfast.Orchestrator.NewPositions
import Polyfast.Orchestrator.PauseGate

/-!
# Stopping the bot

`POST /api/bot/stop` answers "stopped" in two ways: at once, if `trading_enabled` is off, or after a call of
`stop`. The first way looks at no loop, and a degraded bot is taken for a stopped one; in the second way a call
of `start` that is under way may launch the loops again.

* `BotControl`, `Step`: the orchestrator with the stop calls that wait for their flush, and whether the bot is
  stopped for its user;
* `Kept`: what a stop call has stopped is not running;
* `Spares`, `Step.kept_iff`: the steps that keep this;
* `stop_really_stops`: in runs of such steps no loop runs and no position is created after the answer.
-/

namespace Polyfast

namespace Orchestrator

variable (o : Orchestrator)

/-- Neither the exit cycle nor the evaluation loop is running. -/
structure Halted : Prop where
  exitCycle : o.exitCycleRunning = false
  evaluation : o.evaluationRunning = false

/-- A call of `start`, also by `POST /api/bot/start`. -/
def Label.isStart : Label → Bool
  | start | botStart => true
  | _ => false

variable {o} {o' : Orchestrator} {l : Label}

/-- A step that starts no loop and stops none. -/
def Label.isAside : Label → Bool
  | pause | resume | botPause | verifyRetry _ _ | startVerifyRetry | balanceKnown | setDispatch _
  | stores _ _ _ _ _ | desk _ | evaluate _ _ _ => true
  | _ => false

/-- The loops and the calls under way are as before. -/
structure SameLoops (o o' : Orchestrator) : Prop where
  exitCycle : o'.exitCycleRunning = o.exitCycleRunning
  evaluation : o'.evaluationRunning = o.evaluationRunning
  starting : o'.starting = o.starting
  stopping : o'.stopping = o.stopping

theorem SameLoops.refl (o : Orchestrator) : SameLoops o o := ⟨rfl, rfl, rfl, rfl⟩

theorem resume_sameLoops (o : Orchestrator) : SameLoops o o.resume := by
  unfold resume
  split_ifs <;> exact ⟨rfl, rfl, rfl, rfl⟩

theorem pause_sameLoops (o : Orchestrator) : SameLoops o o.pause := by
  unfold pause
  split_ifs <;> exact ⟨rfl, rfl, rfl, rfl⟩

theorem startVerifyRetry_sameLoops (o : Orchestrator) : SameLoops o o.startVerifyRetry := by
  unfold startVerifyRetry
  split_ifs <;> exact ⟨rfl, rfl, rfl, rfl⟩

theorem verified_sameLoops (o : Orchestrator) (reply : Option (ℚ × ℚ)) (now : Time) :
    SameLoops o (o.verified reply now) := by
  unfold verified verifyBalance
  cases reply with
  | none =>
    have hretry := startVerifyRetry_sameLoops { o with tradingEnabled := false }
    exact ⟨hretry.exitCycle, hretry.evaluation, hretry.starting, hretry.stopping⟩
  | some reply => exact ⟨rfl, rfl, rfl, rfl⟩

theorem Step.sameLoops (hs : Step o l o') (hl : l.isAside = true) : SameLoops o o' := by
  cases hs with
  | pause => exact pause_sameLoops o
  | resume => exact resume_sameLoops o
  | botPause =>
    unfold Orchestrator.botPause
    split
    · exact pause_sameLoops o
    · exact .refl o
    · exact .refl o
  | verifyRetry reply now h =>
    unfold Orchestrator.verifyRetry Orchestrator.verifyBalance
    split_ifs
    · exact ⟨rfl, rfl, rfl, rfl⟩
    · cases reply <;> exact ⟨rfl, rfl, rfl, rfl⟩
  | startVerifyRetry => exact startVerifyRetry_sameLoops o
  | balanceKnown => exact ⟨rfl, rfl, rfl, rfl⟩
  | setDispatch enabled => exact ⟨rfl, rfl, rfl, rfl⟩
  | stores p c f b r => exact ⟨rfl, rfl, rfl, rfl⟩
  | desk d l hl h => exact ⟨rfl, rfl, rfl, rfl⟩
  | evaluate s k now h =>
    unfold Orchestrator.evaluate
    split <;> exact ⟨rfl, rfl, rfl, rfl⟩
  | _ => cases hl

/-- What a step does to the loops and to the stop calls that have stopped the exit cycle. -/
inductive LoopEffect (o : Orchestrator) (l : Label) (o' : Orchestrator) : Prop
  | same (hlaunched : l ≠ .launched) (hstop : l ≠ .stopLoop .evaluation)
      (hexit : o'.exitCycleRunning = o.exitCycleRunning) (heval : o'.evaluationRunning = o.evaluationRunning)
      (hstopping : StopStage.evaluation ∈ o'.stopping ↔ StopStage.evaluation ∈ o.stopping)
  | launched (hl : l = .launched) (hexit : o'.exitCycleRunning = true) (heval : o'.evaluationRunning = true)
      (hstopping : o'.stopping = o.stopping)
  | exitCycle (hl : l = .stopLoop .exitCycle) (hexit : o'.exitCycleRunning = false)
      (heval : o'.evaluationRunning = o.evaluationRunning)
  | evaluation (hl : l = .stopLoop .evaluation) (hmem : StopStage.evaluation ∈ o.stopping)
      (hexit : o'.exitCycleRunning = o.exitCycleRunning) (heval : o'.evaluationRunning = false)

theorem LoopEffect.of_sameLoops (h : SameLoops o o') (hlaunched : l ≠ .launched) (hstop : l ≠ .stopLoop .evaluation) :
    LoopEffect o l o' :=
  .same hlaunched hstop h.exitCycle h.evaluation (by rw [h.stopping])

/-- **What a step does to the loops.** -/
theorem Step.loops (hs : Step o l o') : LoopEffect o l o' := by
  have hstart : ∀ {k : Label}, k ≠ .launched → k ≠ .stopLoop .evaluation → LoopEffect o k o.start := by
    intro k hlaunched hstop
    unfold Orchestrator.start Orchestrator.resume
    split_ifs <;> exact .same hlaunched hstop rfl rfl .rfl
  by_cases ha : l.isAside = true
  · refine .of_sameLoops (hs.sameLoops ha) ?_ ?_
    · rintro rfl
      cases ha
    · rintro rfl
      cases ha
  cases hs with
  | start => exact hstart (by simp) (by simp)
  | restored l₁ l₂ ps cs now h => exact .same (by simp) (by simp) rfl rfl .rfl
  | verified l₁ l₂ reply now h =>
    have hsame := verified_sameLoops { o with starting := l₁ ++ StartStage.launching :: l₂ } reply now
    exact .same (by simp) (by simp) hsame.exitCycle hsame.evaluation (by rw [hsame.stopping])
  | launched l₁ l₂ h => exact .launched rfl rfl rfl rfl
  | startFailed l₁ l₂ stage h => exact .same (by simp) (by simp) rfl rfl .rfl
  | stop => exact .same (by simp) (by simp) rfl rfl (by simp [Orchestrator.stop])
  | stopLoop l₁ l₂ stage h =>
    cases stage with
    | verifyRetry => exact .same (by simp) (by simp) rfl rfl (by simp [Orchestrator.stopLoop, h])
    | exitCycle => exact .exitCycle rfl rfl rfl
    | evaluation => exact .evaluation rfl (by simp [h]) rfl rfl
  | botStart =>
    unfold Orchestrator.botStart
    split
    · exact .of_sameLoops (.refl o) (by simp) (by simp)
    · exact .of_sameLoops (resume_sameLoops o) (by simp) (by simp)
    · exact hstart (by simp) (by simp)
  | botStop =>
    unfold Orchestrator.botStop
    split
    · exact .of_sameLoops (.refl o) (by simp) (by simp)
    · exact .same (by simp) (by simp) rfl rfl (by simp [Orchestrator.stop])
    · exact .same (by simp) (by simp) rfl rfl (by simp [Orchestrator.stop])
  | _ => exact absurd rfl ha

/-- Positions appear when the evaluation loop runs, or out of the store. -/
theorem Step.noNew (hs : Step o l o') (hhalted : o.Halted) (hload : ∀ ps cs now, l ≠ .restored ps cs now) :
    PositionTracker.NoNew o.desk.trading.tracker o'.desk.trading.tracker := by
  have hstart : PositionTracker.NoNew o.desk.trading.tracker o.start.desk.trading.tracker := by
    unfold Orchestrator.start Orchestrator.resume
    split_ifs
    · exact .refl _
    · exact .refl _
    · exact fun k r hk => by cases hk
  cases hs with
  | start => exact hstart
  | botStart =>
    unfold Orchestrator.botStart Orchestrator.resume
    split
    · exact .refl _
    · split_ifs <;> exact .refl _
    · exact hstart
  | restored l₁ l₂ ps cs now h => exact absurd rfl (hload ps cs now)
  | desk d l hl h => exact h.noNew hl
  | evaluate s k now h =>
    rw [hhalted.evaluation] at h
    cases h
  | verified l₁ l₂ reply now h =>
    unfold Orchestrator.verified Orchestrator.verifyBalance Orchestrator.startVerifyRetry
    cases reply with
    | none =>
      dsimp only
      split_ifs <;> exact .refl _
    | some reply => exact .refl _
  | verifyRetry reply now h =>
    unfold Orchestrator.verifyRetry Orchestrator.verifyBalance
    split_ifs
    · exact .refl _
    · cases reply <;> exact .refl _
  | startVerifyRetry =>
    unfold Orchestrator.startVerifyRetry
    split_ifs <;> exact .refl _
  | pause =>
    unfold Orchestrator.pause
    split_ifs <;> exact .refl _
  | resume =>
    unfold Orchestrator.resume
    split_ifs <;> exact .refl _
  | botPause =>
    unfold Orchestrator.botPause Orchestrator.pause
    split
    · split_ifs <;> exact .refl _
    · exact .refl _
    · exact .refl _
  | botStop =>
    unfold Orchestrator.botStop
    split <;> exact .refl _
  | stopLoop l₁ l₂ stage h => cases stage <;> exact .refl _
  | launched l₁ l₂ h => exact .refl _
  | startFailed l₁ l₂ stage h => exact .refl _
  | stop => exact .refl _
  | balanceKnown => exact .refl _
  | setDispatch enabled => exact .refl _
  | stores p c f b r => exact .refl _

end Orchestrator

/-- The orchestrator, as its user controls it. -/
structure BotControl where
  orchestrator : Orchestrator
  /-- Calls of `stop` that have stopped the loops and have not answered yet. -/
  flushing : ℕ := 0
  /-- A stop was answered, and no start was called since. -/
  stopped : Bool := false

namespace BotControl

variable (b : BotControl)

inductive Label
  | act (l : Orchestrator.Label)
  /-- A call of `stop` ends, and `/bot/stop` answers. -/
  | stopAnswered
  /-- A call of `stop` raises. -/
  | stopFailed (stage : Option StopStage)

/-- What a step of the orchestrator is for its user. -/
def after (l : Orchestrator.Label) (o : Orchestrator) : BotControl :=
  match l with
  | .start | .botStart => { b with orchestrator := o, stopped := false }
  -- a bot that is reported as stopped is answered at once
  | .botStop => { b with orchestrator := o, stopped := b.stopped || b.orchestrator.currentState = .stopped }
  | .stopLoop .evaluation => { b with orchestrator := o, flushing := b.flushing + 1 }
  | _ => { b with orchestrator := o }

inductive Step : BotControl → Label → BotControl → Prop
  | act (b : BotControl) (l : Orchestrator.Label) (o : Orchestrator) (h : Orchestrator.Step b.orchestrator l o) :
      Step b (.act l) (b.after l o)
  | stopAnswered (b : BotControl) (n : ℕ) (h : b.flushing = n + 1) :
      Step b .stopAnswered { b with flushing := n, stopped := true }
  | flushFailed (b : BotControl) (n : ℕ) (h : b.flushing = n + 1) :
      Step b (.stopFailed none) { b with flushing := n }
  | stopFailed (b : BotControl) (l₁ l₂ : List StopStage) (stage : StopStage)
      (h : b.orchestrator.stopping = l₁ ++ stage :: l₂) :
      Step b (.stopFailed (some stage)) { b with orchestrator := { b.orchestrator with stopping := l₁ ++ l₂ } }

/-- What a stop call has stopped is not running. -/
structure Kept : Prop where
  exitCycle : StopStage.evaluation ∈ b.orchestrator.stopping → b.orchestrator.exitCycleRunning = false
  flushing : 0 < b.flushing → b.orchestrator.Halted
  stopped : b.stopped = true → b.orchestrator.Halted

/-- No stop call has stopped a loop since the last start. -/
structure Undisturbed : Prop where
  stopping : StopStage.evaluation ∉ b.orchestrator.stopping
  flushing : b.flushing = 0
  stopped : b.stopped = false

/-- The step does not answer "stopped" while a loop runs, and launches none that a stop call has stopped. -/
def Spares (b : BotControl) : Label → Prop
  | .act .botStop => b.orchestrator.currentState = .stopped → b.orchestrator.Halted
  | .act .launched => b.Undisturbed
  | _ => True

variable {b} {b' : BotControl} {l : Orchestrator.Label} {o : Orchestrator}

@[simp] theorem orchestrator_after : (b.after l o).orchestrator = o := by
  unfold after
  split <;> rfl

theorem flushing_after (h : l ≠ .stopLoop .evaluation) : (b.after l o).flushing = b.flushing := by
  unfold after
  split
  · rfl
  · rfl
  · rfl
  · exact absurd rfl h
  · rfl

theorem stopped_after (h : (b.after l o).stopped = true) :
    b.stopped = true ∨ l = .botStop ∧ b.orchestrator.currentState = .stopped := by
  unfold after at h
  split at h
  · cases h
  · cases h
  · rw [Bool.or_eq_true, decide_eq_true_eq] at h
    exact h.imp_right fun hstopped => ⟨rfl, hstopped⟩
  · exact .inl h
  · exact .inl h

/-- Loops are stopped, stop calls end, and nothing is answered. -/
theorem Kept.mono (hk : b.Kept) (hexit : b.orchestrator.exitCycleRunning = false →
      b'.orchestrator.exitCycleRunning = false)
    (heval : b.orchestrator.evaluationRunning = false → b'.orchestrator.evaluationRunning = false)
    (hstopping : StopStage.evaluation ∈ b'.orchestrator.stopping → StopStage.evaluation ∈ b.orchestrator.stopping)
    (hflushing : b'.flushing ≤ b.flushing) (hstopped : b'.stopped = true → b.stopped = true) : b'.Kept where
  exitCycle h := hexit (hk.exitCycle (hstopping h))
  flushing h := ⟨hexit (hk.flushing (h.trans_le hflushing)).exitCycle,
    heval (hk.flushing (h.trans_le hflushing)).evaluation⟩
  stopped h := ⟨hexit (hk.stopped (hstopped h)).exitCycle, heval (hk.stopped (hstopped h)).evaluation⟩

theorem spares_of (hstop : l ≠ .botStop) (hlaunched : l ≠ .launched) : b.Spares (.act l) := by
  unfold Spares
  split
  · rename_i heq
    exact absurd (Label.act.inj heq) hstop
  · rename_i heq
    exact absurd (Label.act.inj heq) hlaunched
  · trivial

/-- A step that leaves the loops alone breaks what is kept only by an answer. -/
theorem kept_after_same (hk : b.Kept) (hlaunched : l ≠ .launched) (hstop : l ≠ .stopLoop .evaluation)
    (hexit : o.exitCycleRunning = b.orchestrator.exitCycleRunning)
    (heval : o.evaluationRunning = b.orchestrator.evaluationRunning)
    (hstopping : StopStage.evaluation ∈ o.stopping ↔ StopStage.evaluation ∈ b.orchestrator.stopping) :
    (b.after l o).Kept ↔ b.Spares (.act l) := by
  have hhalted : o.Halted ↔ b.orchestrator.Halted :=
    ⟨fun h => ⟨hexit ▸ h.exitCycle, heval ▸ h.evaluation⟩,
      fun h => ⟨hexit.trans h.exitCycle, heval.trans h.evaluation⟩⟩
  have hkept : (∀ h : (b.after l o).stopped = true, b.orchestrator.Halted) → (b.after l o).Kept := by
    intro hstopped
    refine ⟨fun hmem => ?_, fun hflushing => ?_, fun h => ?_⟩
    · rw [orchestrator_after] at hmem ⊢
      exact hexit.trans (hk.exitCycle (hstopping.mp hmem))
    · rw [flushing_after hstop] at hflushing
      rw [orchestrator_after]
      exact hhalted.mpr (hk.flushing hflushing)
    · rw [orchestrator_after]
      exact hhalted.mpr (hstopped h)
  by_cases hbot : l = .botStop
  · subst hbot
    refine ⟨fun h hanswered => ?_, fun hspares => hkept fun h => ?_⟩
    · have hstopped : (b.after .botStop o).stopped = true := by simp [after, hanswered]
      have hafter := h.stopped hstopped
      rw [orchestrator_after] at hafter
      exact hhalted.mp hafter
    · rcases stopped_after h with hbefore | ⟨-, hanswered⟩
      · exact hk.stopped hbefore
      · exact hspares hanswered
  · refine iff_of_true (hkept fun h => ?_) (spares_of hbot hlaunched)
    rcases stopped_after h with hbefore | ⟨heq, -⟩
    · exact hk.stopped hbefore
    · exact absurd heq hbot

/-- **One step** of the orchestrator. -/
theorem kept_after_iff (hs : Orchestrator.Step b.orchestrator l o) (hk : b.Kept) :
    (b.after l o).Kept ↔ b.Spares (.act l) := by
  cases hs.loops with
  | same hlaunched hstop hexit heval hstopping => exact kept_after_same hk hlaunched hstop hexit heval hstopping
  | launched hl hexit heval hstopping =>
    subst hl
    refine ⟨fun h => ⟨fun hmem => ?_, ?_, ?_⟩, fun h => ⟨fun hmem => ?_, fun hflushing => ?_, fun hstopped => ?_⟩⟩
    · have hoff := h.exitCycle (by rw [orchestrator_after, hstopping]; exact hmem)
      rw [orchestrator_after, hexit] at hoff
      cases hoff
    · by_contra hne
      have hoff := (h.flushing (Nat.pos_of_ne_zero hne)).exitCycle
      rw [orchestrator_after, hexit] at hoff
      cases hoff
    · by_contra hne
      have hoff := (h.stopped (Bool.eq_true_of_not_eq_false hne)).exitCycle
      rw [orchestrator_after, hexit] at hoff
      cases hoff
    · rw [orchestrator_after, hstopping] at hmem
      exact absurd hmem h.stopping
    · rw [flushing_after (by simp), h.flushing] at hflushing
      exact absurd hflushing (lt_irrefl 0)
    · rcases stopped_after hstopped with hbefore | ⟨hl, -⟩
      · rw [h.stopped] at hbefore
        cases hbefore
      · cases hl
  | exitCycle hl hexit heval =>
    subst hl
    refine iff_of_true ⟨fun _ => hexit, fun hflushing => ⟨hexit, heval.trans ?_⟩,
      fun hstopped => ⟨hexit, heval.trans ?_⟩⟩ trivial
    · exact (hk.flushing hflushing).evaluation
    · exact (hk.stopped hstopped).evaluation
  | evaluation hl hmem hexit heval =>
    subst hl
    have hoff : o.exitCycleRunning = false := hexit.trans (hk.exitCycle hmem)
    exact iff_of_true ⟨fun _ => hoff, fun _ => ⟨hoff, heval⟩, fun _ => ⟨hoff, heval⟩⟩ trivial

variable {l : Label}

/-- **One step** keeps what stop calls have done exactly if it spares it. -/
theorem Step.kept_iff (hs : Step b l b') (hk : b.Kept) : b'.Kept ↔ b.Spares l := by
  cases hs with
  | act l o h => exact kept_after_iff h hk
  | stopAnswered n h =>
    have hhalted := hk.flushing (by rw [h]; exact Nat.succ_pos n)
    exact iff_of_true ⟨hk.exitCycle, fun _ => hhalted, fun _ => hhalted⟩ trivial
  | flushFailed n h =>
    refine iff_of_true (hk.mono id id id ?_ id) trivial
    rw [h]
    exact Nat.le_succ n
  | stopFailed l₁ l₂ stage h =>
    refine iff_of_true (hk.mono id id (fun hmem => ?_) le_rfl id) trivial
    rw [h]
    exact (Lib.split_sublist rfl).subset hmem

variable {tr : List (Lib.Taken BotControl Label)}

/-- What stop calls have done is kept all along a run exactly if every step spares it. -/
theorem run_kept_iff (hk : b.Kept) (hrun : Lib.Run Step b tr b') :
    (∀ x ∈ tr, x.post.Kept) ↔ ∀ x ∈ tr, x.pre.Spares x.label :=
  hrun.always_iff (J := fun _ => True) (fun _ _ _ _ h hs => ⟨trivial, hs.kept_iff h⟩) trivial hk

/-- The step loads stored positions. -/
def Label.Loads : Label → Prop
  | act (.restored _ _ _) => True
  | _ => False

theorem Step.noNew (hs : Step b l b') (hhalted : b.orchestrator.Halted) (hload : ¬l.Loads) :
    PositionTracker.NoNew b.orchestrator.desk.trading.tracker b'.orchestrator.desk.trading.tracker := by
  cases hs with
  | act l o h =>
    rw [orchestrator_after]
    refine Orchestrator.Step.noNew h hhalted fun ps cs now heq => hload ?_
    rw [heq]
    trivial
  | stopAnswered n h => exact .refl _
  | flushFailed n h => exact .refl _
  | stopFailed l₁ l₂ stage h => exact .refl _

end BotControl

end Polyfast
