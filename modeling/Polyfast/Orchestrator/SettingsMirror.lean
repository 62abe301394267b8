import Polyfast.Orchestrator.ClaimGate

/-!
# Settings and their copies

The bot maximum lives in three places, the configuration, the evaluation loop and the order executor; a settings
update writes two of them. It writes the exit thresholds into the configuration and the evaluator, as they come:
the bounds of the schema are only checked when a configuration is loaded.

* `TradingConfig.InBounds`: the bounds of the schema;
* `Bot.Mirror`: the copies agree, and the configuration keeps its bounds;
* `Bot.update_mirror_iff`, `Bot.settings_mirror_iff`: the updates under which it stays so.
-/

namespace Polyfast

/-- `Field(ge=lo, le=hi)`. -/
def Within {α : Type*} [LE α] (lo hi v : α) : Prop := lo ≤ v ∧ v ≤ hi

/-- The bounds of the schema. -/
structure TradingConfig.InBounds (cfg : TradingConfig) : Prop where
  botMax : Within 1 50 cfg.botMaxPositions
  tpPercentage : Within (1 / 10) 100 cfg.tpPercentage
  slPercentage : Within (1 / 10) 100 cfg.slPercentage
  slJumpThreshold : Within (1 / 100) 1 cfg.slJumpThreshold
  fsTimeRemainingSeconds : Within 1 299 cfg.fsTimeRemainingSeconds
  fsPnlLossPercentage : Within (1 / 10) 100 cfg.fsPnlLossPercentage

/-- **The defaults** are in bounds. -/
theorem TradingConfig.inBounds_default : TradingConfig.InBounds {} := by
  constructor <;> norm_num [Within]

/-- What the request sets is within the bounds of the schema. -/
structure GlobalSettingsUpdateRequest.InBounds (body : GlobalSettingsUpdateRequest) : Prop where
  botMax : ∀ n ∈ body.botMaxPositions, Within 1 50 n
  tpPercentage : ∀ q ∈ body.tpPercentage, Within (1 / 10) 100 q
  slPercentage : ∀ q ∈ body.slPercentage, Within (1 / 10) 100 q
  fsTimeSeconds : ∀ n ∈ body.fsTimeSeconds, Within 1 299 n
  fsPnlPct : ∀ q ∈ body.fsPnlPct, Within (1 / 10) 100 q

/-- A field that may be set is within its bounds iff what it is set to is. -/
theorem within_getD {α : Type*} [LE α] {lo hi old : α} (h : Within lo hi old) (new : Option α) :
    Within lo hi (new.getD old) ↔ ∀ v ∈ new, Within lo hi v := by
  cases new with
  | none => simpa using h
  | some v => simp

/-- **Bounds are not checked**: the configuration keeps its bounds iff what the request sets is within them. -/
theorem GlobalSettingsUpdateRequest.apply_inBounds_iff {cfg : TradingConfig} (h : cfg.InBounds)
    (body : GlobalSettingsUpdateRequest) : (body.apply cfg).InBounds ↔ body.InBounds := by
  have hmax := within_getD h.botMax body.botMaxPositions
  have htp := within_getD h.tpPercentage body.tpPercentage
  have hsl := within_getD h.slPercentage body.slPercentage
  have htime := within_getD h.fsTimeRemainingSeconds body.fsTimeSeconds
  have hpnl := within_getD h.fsPnlLossPercentage body.fsPnlPct
  constructor
  · intro hnew
    exact ⟨hmax.mp hnew.botMax, htp.mp hnew.tpPercentage, hsl.mp hnew.slPercentage,
      htime.mp hnew.fsTimeRemainingSeconds, hpnl.mp hnew.fsPnlLossPercentage⟩
  · intro hbody
    exact ⟨hmax.mpr hbody.botMax, htp.mpr hbody.tpPercentage, hsl.mpr hbody.slPercentage, h.slJumpThreshold,
      htime.mpr hbody.fsTimeSeconds, hpnl.mpr hbody.fsPnlPct⟩

/-- The exit evaluator of a new process. -/
def TradingConfig.evaluator (cfg : TradingConfig) : ExitEvaluator where
  tpPct := cfg.tpPercentage
  slEnabled := cfg.slEnabled
  slPct := cfg.slPercentage
  slJumpThreshold := cfg.slJumpThreshold
  tpReevaluate := cfg.tpReevaluateOnRetry
  fsTimeEnabled := cfg.fsTimeEnabled
  fsTimeSeconds := cfg.fsTimeRemainingSeconds
  fsPnlEnabled := cfg.fsPnlEnabled
  fsPnlPct := cfg.fsPnlLossPercentage

namespace Bot

/-- `Orchestrator.__init__`. -/
def create (cfg : TradingConfig) : Bot where
  desk := { trading := { executor := { botMax := cfg.botMaxPositions }, evaluator := cfg.evaluator } }
  config := cfg
  botMaxPositions := cfg.botMaxPositions

/-- The executor enforces the bot maximum that the rule engine reads and the configuration says, the evaluator says
what the configuration says, and the configuration is within the bounds of its schema. -/
structure Mirror (b : Bot) : Prop where
  executor : b.desk.trading.executor.botMax = b.config.botMaxPositions
  ruleEngine : b.botMaxPositions = b.config.botMaxPositions
  evaluator : b.config.Mirrors b.desk.trading.evaluator
  bounds : b.config.InBounds

theorem create_mirror {cfg : TradingConfig} (h : cfg.InBounds) : (create cfg).Mirror where
  executor := rfl
  ruleEngine := rfl
  evaluator := ⟨rfl, rfl, rfl, rfl, rfl, rfl, rfl, rfl, rfl⟩
  bounds := h

/-- A request is posted. -/
inductive Posts : Bot → GlobalSettingsUpdateRequest → Bot → Prop
  | mk (b : Bot) (body : GlobalSettingsUpdateRequest) : Posts b body (b.globalSettingsUpdate body).1

/-- The request sets the bot maximum to what it is, if at all, and stays within the bounds of the schema. -/
def Keeps (b : Bot) (body : GlobalSettingsUpdateRequest) : Prop :=
  (∀ n ∈ body.botMaxPositions, n = b.config.botMaxPositions) ∧ body.InBounds

variable {b b' : Bot}

theorem update_mirror_iff (h : b.Mirror) (body : GlobalSettingsUpdateRequest) :
    (b.globalSettingsUpdate body).1.Mirror ↔ b.Keeps body := by
  have hexec : (b.globalSettingsUpdate body).1.desk.trading.executor.botMax = b.config.botMaxPositions := h.executor
  have hmax : (∀ n ∈ body.botMaxPositions, n = b.config.botMaxPositions) ↔
      b.config.botMaxPositions = (body.apply b.config).botMaxPositions := by
    cases hb : body.botMaxPositions with
    | none => simp [GlobalSettingsUpdateRequest.apply, hb]
    | some n => simp [GlobalSettingsUpdateRequest.apply, hb, eq_comm]
  constructor
  · intro hnew
    exact ⟨hmax.mpr (hexec.symm.trans hnew.executor), (body.apply_inBounds_iff h.bounds).mp hnew.bounds⟩
  · rintro ⟨hsame, hbounds⟩
    exact {
      executor := hexec.trans (hmax.mp hsame)
      ruleEngine := congrArg (body.botMaxPositions.getD ·) h.ruleEngine
      evaluator := applyEvaluator_mirrors body h.evaluator
      bounds := (body.apply_inBounds_iff h.bounds).mpr hbounds }

/-- **Settings mirror.** The copies agree and the bounds hold after every request of a run iff no request sets
another bot maximum or a value out of bounds. -/
theorem settings_mirror_iff {tr : List (Lib.Taken Bot GlobalSettingsUpdateRequest)} (h : b.Mirror)
    (hrun : Lib.Run Posts b tr b') : (∀ x ∈ tr, x.post.Mirror) ↔ ∀ x ∈ tr, x.pre.Keeps x.label := by
  refine hrun.always_iff (J := fun _ => True) (fun t l u _ ht hst => ?_) trivial h
  cases hst
  exact ⟨trivial, update_mirror_iff ht l⟩

/-- Two requests within bounds that leave the bot maximum alone. -/
theorem settings_mirror_exits :
    let b := create {}
    let tp : GlobalSettingsUpdateRequest := { tpPercentage := some 12 }
    let fs : GlobalSettingsUpdateRequest := { fsTimeSeconds := some 45, botMaxPositions := some 3 }
    let b' := (b.globalSettingsUpdate tp).1
    let tr : List (Lib.Taken Bot GlobalSettingsUpdateRequest) := [⟨b, tp, b'⟩, ⟨b', fs, (b'.globalSettingsUpdate fs).1⟩]
    (∀ x ∈ tr, x.post.Mirror) ↔ ∀ x ∈ tr, x.pre.Keeps x.label :=
  settings_mirror_iff (create_mirror TradingConfig.inBounds_default)
    ((Lib.Run.single (Posts.mk _ _)).snoc (Posts.mk _ _))

/-- **The forgotten copy**: a request raises the bot maximum from 3 to 5 and the executor goes on enforcing 3. -/
theorem executor_not_updated :
    (create {}).Mirror ∧ ∃ b tr, Lib.Run Posts (create {}) tr b ∧ ¬∀ x ∈ tr, x.post.Mirror := by
  refine ⟨create_mirror TradingConfig.inBounds_default, _, _,
    Lib.Run.single (Posts.mk (create {}) { botMaxPositions := some 5 }), fun hall => ?_⟩
  have hlast := (hall _ (List.mem_singleton_self _)).executor
  exact absurd hlast (by decide)

end Bot

end Polyfast
