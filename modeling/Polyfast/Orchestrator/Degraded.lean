import Polyfast.Orchestrator.BotControl

/-!
# Out of degraded mode

A bot that could not verify its balance runs with `trading_enabled` off. The flag is written on many paths:
`restore_state` and the retry loop write it after a verification, the startup guard after a fetch (the credential
update means to), and `start` writes it first of all, also when it finds the loops running and does no more.

* `Step.enabled_cases`, `Step.start_enables`: the steps that set the flag;
* `launches_le_verifications`: no loop is launched before the verification of its start;
* `degraded_enabled_iff`: in a run the flag is set by verified balances exactly when every start that finds it
  off is a cold one.
-/

namespace Polyfast

namespace Orchestrator

/-- The exchange has told the balance. -/
def Label.learnsBalance : Label → Bool
  | verified (some _) _ | verifyRetry (some _) _ | balanceKnown => true
  | _ => false

def Label.isVerified : Label → Bool
  | verified _ _ => true
  | _ => false

def Label.isLaunched : Label → Bool
  | launched => true
  | _ => false

/-- A start finds no loop running and no other start under way. -/
structure Cold (o : Orchestrator) : Prop where
  halted : o.Halted
  starting : o.starting = []

variable {o o' : Orchestrator} {l : Label}

@[simp] theorem tradingEnabled_start : o.start.tradingEnabled = true := by
  unfold start
  split_ifs <;> rfl

@[simp] theorem tradingEnabled_resume : o.resume.tradingEnabled = o.tradingEnabled := by
  unfold resume
  split_ifs <;> rfl

theorem tradingEnabled_verified (reply : Option (ℚ × ℚ)) (now : Time) :
    (o.verified reply now).tradingEnabled = reply.isSome := by
  unfold verified verifyBalance startVerifyRetry
  cases reply with
  | none =>
    dsimp only
    split_ifs <;> rfl
  | some reply => rfl

theorem tradingEnabled_verifyRetry (now : Time) : (o.verifyRetry none now).tradingEnabled = o.tradingEnabled := by
  unfold verifyRetry verifyBalance
  split_ifs <;> rfl

theorem botStart_of_stopped (h : o.tradingEnabled = false) : o.botStart = o.start := by
  simp [botStart, currentState, h]

/-- **What sets the flag**: a balance, or a start. -/
theorem Step.enabled_cases (hs : Step o l o') (hpre : o.tradingEnabled = false) (hpost : o'.tradingEnabled = true) :
    l.learnsBalance = true ∨ l.isStart = true := by
  have hsame : o'.tradingEnabled ≠ o.tradingEnabled := by simp [hpre, hpost]
  cases hs with
  | start => exact .inr rfl
  | botStart => exact .inr rfl
  | balanceKnown => exact .inl rfl
  | verified l₁ l₂ reply now h =>
    rw [tradingEnabled_verified] at hpost
    obtain ⟨balance, rfl⟩ := Option.isSome_iff_exists.mp hpost
    exact .inl rfl
  | verifyRetry reply now h =>
    cases reply with
    | none => exact absurd (tradingEnabled_verifyRetry now) hsame
    | some balance => exact .inl rfl
  | restored l₁ l₂ ps cs now h => exact absurd rfl hsame
  | launched l₁ l₂ h => exact absurd rfl hsame
  | startFailed l₁ l₂ stage h => exact absurd rfl hsame
  | stop => cases hpost
  | stopLoop l₁ l₂ stage h => cases stage <;> exact absurd rfl hsame
  | pause =>
    unfold Orchestrator.pause at hsame
    split_ifs at hsame <;> exact absurd rfl hsame
  | resume => exact absurd tradingEnabled_resume hsame
  | botPause =>
    unfold Orchestrator.botPause Orchestrator.pause at hsame
    split at hsame
    · split_ifs at hsame <;> exact absurd rfl hsame
    · exact absurd rfl hsame
    · exact absurd rfl hsame
  | botStop =>
    have hstopped : o.botStop = o := by simp [Orchestrator.botStop, Orchestrator.currentState, hpre]
    rw [hstopped] at hsame
    exact absurd rfl hsame
  | startVerifyRetry =>
    unfold Orchestrator.startVerifyRetry at hsame
    split_ifs at hsame <;> exact absurd rfl hsame
  | setDispatch enabled => exact absurd rfl hsame
  | stores p c f b r => exact absurd rfl hsame
  | desk d l hl h => exact absurd rfl hsame
  | evaluate s k now h =>
    unfold Orchestrator.evaluate at hsame
    split at hsame <;> exact absurd rfl hsame

/-- A start sets the flag, whatever it finds. -/
theorem Step.start_enables (hs : Step o l o') (hl : l.isStart = true) (hpre : o.tradingEnabled = false) :
    o'.tradingEnabled = true := by
  cases hs with
  | start => exact tradingEnabled_start
  | botStart =>
    rw [botStart_of_stopped hpre]
    exact tradingEnabled_start
  | _ => cases hl

theorem Label.not_learns_of_start (h : l.isStart = true) : l.learnsBalance = false := by
  cases l <;> first | rfl | cases h

/-- The step sets the flag because of a balance, or it is a cold start. -/
def EnabledByBalance (x : Lib.Taken Orchestrator Label) : Prop :=
  x.pre.tradingEnabled = false → x.post.tradingEnabled = true →
    x.label.learnsBalance = true ∨ x.label.isStart = true ∧ x.pre.Cold

/-- A start that finds the flag off is a cold one. -/
def StartsCold (x : Lib.Taken Orchestrator Label) : Prop :=
  x.label.isStart = true → x.pre.tradingEnabled = false → x.pre.Cold

theorem enabledByBalance_iff {x : Lib.Taken Orchestrator Label} (hs : Step x.pre x.label x.post) :
    EnabledByBalance x ↔ StartsCold x := by
  constructor
  · intro h hl hpre
    rcases h hpre (hs.start_enables hl hpre) with hlearns | ⟨-, hcold⟩
    · rw [Label.not_learns_of_start hl] at hlearns
      cases hlearns
    · exact hcold
  · intro h hpre hpost
    rcases hs.enabled_cases hpre hpost with hlearns | hl
    · exact .inl hlearns
    · exact .inr ⟨hl, h hl hpre⟩

/-! ### Starts -/

theorem count_launching_start : (o.start.starting).count .launching = o.starting.count .launching := by
  unfold start resume
  split_ifs <;> simp

/-- A start reaches its launch through its verification. -/
theorem Step.launching (hs : Step o l o') : l.isLaunched.toNat + o'.starting.count .launching ≤
    o.starting.count .launching + l.isVerified.toNat := by
  by_cases ha : l.isAside = true
  · have hlaunched : l.isLaunched = false := by
      cases l <;> first | rfl | cases ha
    rw [(hs.sameLoops ha).starting, hlaunched]
    simp
  cases hs with
  | start => simp [Label.isLaunched, Label.isVerified, count_launching_start]
  | botStart =>
    unfold Orchestrator.botStart
    split
    · simp [Label.isLaunched, Label.isVerified]
    · simp [Label.isLaunched, Label.isVerified, (resume_sameLoops o).starting]
    · simp [Label.isLaunched, Label.isVerified, count_launching_start]
  | restored l₁ l₂ ps cs now h => simp [Label.isLaunched, Label.isVerified, Orchestrator.restored, h]
  | verified l₁ l₂ reply now h =>
    rw [(verified_sameLoops _ reply now).starting]
    simp [Label.isLaunched, Label.isVerified, h]
    omega
  | launched l₁ l₂ h =>
    simp [Label.isLaunched, Label.isVerified, Orchestrator.launched, h]
    omega
  | startFailed l₁ l₂ stage h => simp [Label.isLaunched, Label.isVerified, h, List.count_cons]
  | stop => simp [Label.isLaunched, Label.isVerified, Orchestrator.stop]
  | stopLoop l₁ l₂ stage h => cases stage <;> simp [Label.isLaunched, Label.isVerified, Orchestrator.stopLoop]
  | botStop =>
    unfold Orchestrator.botStop
    split <;> simp [Label.isLaunched, Label.isVerified, Orchestrator.stop]
  | _ => exact absurd rfl ha

variable {tr : List (Lib.Taken Orchestrator Label)}

/-- **Each launch follows a verification of its own.** -/
theorem launches_le_verifications (h : o.starting = []) (hrun : Lib.Run Step o tr o') :
    tr.countP (·.label.isLaunched) ≤ tr.countP (·.label.isVerified) := by
  suffices hcount : tr.countP (·.label.isLaunched) + o'.starting.count .launching ≤
      tr.countP (·.label.isVerified) from (Nat.le_add_right _ _).trans hcount
  induction hrun with
  | nil => simp [h]
  | @snoc t u tr l hrun hst ih =>
    have hstep := hst.launching
    simp only [List.countP_append, List.countP_singleton]
    cases hlaunched : l.isLaunched <;> cases hverified : l.isVerified <;>
      simp only [hlaunched, hverified, Bool.toNat_true, Bool.toNat_false] at hstep <;> simp <;>
      omega

/-- **Out of degraded mode.** In a run the flag is set by verified balances only, cold starts apart, exactly when
every start that finds it off is a cold one. A cold start launches its loops after its own verification, which
has written the flag. -/
theorem degraded_enabled_iff (h : o.starting = []) (hrun : Lib.Run Step o tr o') :
    ((∀ x ∈ tr, EnabledByBalance x) ↔ ∀ x ∈ tr, StartsCold x) ∧
      tr.countP (·.label.isLaunched) ≤ tr.countP (·.label.isVerified) ∧
      ∀ x ∈ tr, ∀ reply now, x.label = .verified reply now → x.post.tradingEnabled = reply.isSome := by
  refine ⟨forall₂_congr fun x hx => enabledByBalance_iff (hrun.step_of_mem hx), launches_le_verifications h hrun,
    fun x hx reply now hl => ?_⟩
  have hstep := hrun.step_of_mem hx
  rw [hl] at hstep
  generalize x.pre = t, x.post = u at hstep
  cases hstep with
  | verified l₁ l₂ reply now hstarting => exact tradingEnabled_verified reply now

/-- `newBot` without a balance. -/
def degradedBot : Orchestrator :=
  { { restoredBot with starting := [.launching] }.verified none 1700000200 with starting := [] }.launched

theorem degradedBot_reached : ∃ tr, Lib.Run Step newBot tr degradedBot ∧ (∀ x ∈ tr, StartsCold x) ∧
    ∀ x ∈ tr, x.label.learnsBalance = false := by
  have hrestored := (Lib.Run.single (Step.start newBot)).snoc (.restored newBot.start [] [] [] [] 1700000200 rfl)
  have hverified := hrestored.snoc (.verified restoredBot [] [] none 1700000200 rfl)
  have hlaunched : Lib.Run Step newBot _ degradedBot := hverified.snoc (.launched _ [] [] rfl)
  refine ⟨_, hlaunched, ?_, by simp [Label.learnsBalance]⟩
  simp only [List.forall_mem_append, List.forall_mem_singleton]
  exact ⟨⟨⟨fun _ _ => ⟨⟨rfl, rfl⟩, rfl⟩, fun h => by cases h⟩, fun h => by cases h⟩, fun h => by cases h⟩

/-- The retry loop of the degraded bot hears of the balance; later the bot is stopped, and started from cold. -/
theorem degraded_enabled_retried : degradedBot.tradingEnabled = false ∧ ∃ o tr, Lib.Run Step newBot tr o ∧
    o.tradingEnabled = true ∧ ∀ x ∈ tr, EnabledByBalance x := by
  obtain ⟨tr, hdegraded, hcold, -⟩ := degradedBot_reached
  have hretried := hdegraded.snoc (.verifyRetry degradedBot (some (10, 10)) 1700000260 (by decide +kernel))
  have hstopped := (((hretried.snoc (.botStop _)).snoc
    (.stopLoop _ [] [] .verifyRetry (by decide +kernel))).snoc
    (.stopLoop _ [] [] .exitCycle (by decide +kernel))).snoc
    (.stopLoop _ [] [] .evaluation (by decide +kernel))
  have hrun := hstopped.snoc (.botStart _)
  refine ⟨by decide +kernel, _, _, hrun, by decide +kernel, (degraded_enabled_iff rfl hrun).1.mpr ?_⟩
  simp only [List.forall_mem_append, List.forall_mem_singleton]
  refine ⟨⟨⟨⟨⟨⟨hcold, fun h => by cases h⟩, fun h => by cases h⟩, fun h => by cases h⟩, fun h => by cases h⟩,
    fun h => by cases h⟩, fun _ _ => ⟨⟨?_, ?_⟩, ?_⟩⟩
  all_goals decide +kernel

/-- The degraded bot is reported as stopped, and starting it makes it trade, with no balance verified. -/
theorem start_enables_degraded : newBot.starting = [] ∧ ∃ tr, Lib.Run Step newBot tr degradedBot.botStart ∧
    degradedBot.currentState = .stopped ∧ degradedBot.botStart.currentState = .running ∧
    (∀ x ∈ tr, x.label.learnsBalance = false) ∧ ¬∀ x ∈ tr, EnabledByBalance x := by
  obtain ⟨tr, hdegraded, -, hlearns⟩ := degradedBot_reached
  have hrun : Lib.Run Step newBot _ degradedBot.botStart := hdegraded.snoc (.botStart degradedBot)
  refine ⟨rfl, _, hrun, by decide +kernel, by decide +kernel, ?_, fun hall => ?_⟩
  · exact List.forall_mem_append.mpr ⟨hlearns, by simp [Label.learnsBalance]⟩
  · rcases hall _ (List.mem_append_right _ List.mem_cons_self) (by decide +kernel) (by decide +kernel) with
      hlearns | ⟨-, hcold⟩
    · cases hlearns
    · exact absurd hcold.halted.exitCycle (by decide +kernel)

end Orchestrator

end Polyfast
