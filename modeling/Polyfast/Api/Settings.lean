import Polyfast.Execution.ExitEvaluator

/-!
# Global settings

`POST /settings/global` changes the fields that the body sets, in the configuration and in the parts that
keep a copy: the exit evaluator and the evaluation loop. The claim gate is changed in the configuration
only.

* `GlobalSettingsUpdateRequest.apply`, `applyEvaluator`, `changed`, `response`;
* `applyEvaluator_mirrors`: the evaluator goes on saying what the configuration says.
-/

namespace Polyfast

/-- The part of the trading configuration behind the global settings. -/
structure TradingConfig where
  autoStartBotOnStartup : Bool := false
  botMaxPositions : ℤ := 3
  waitForClaimBeforeNewTrade : Bool := true
  tpPercentage : ℚ := 5
  tpReevaluateOnRetry : Bool := true
  slEnabled : Bool := true
  slPercentage : ℚ := 3
  slJumpThreshold : ℚ := 15 / 100
  fsTimeEnabled : Bool := true
  fsTimeRemainingSeconds : ℤ := 30
  fsPnlEnabled : Bool := false
  fsPnlLossPercentage : ℚ := 5

/-- The body of the request; what is not set is not changed. -/
structure GlobalSettingsUpdateRequest where
  autoStartBotOnStartup : Option Bool := none
  botMaxPositions : Option ℤ := none
  blockNewEntriesWhenClaimPending : Option Bool := none
  tpPercentage : Option ℚ := none
  tpReevaluate : Option Bool := none
  slEnabled : Option Bool := none
  slPercentage : Option ℚ := none
  fsTimeEnabled : Option Bool := none
  fsTimeSeconds : Option ℤ := none
  fsPnlEnabled : Option Bool := none
  fsPnlPct : Option ℚ := none

structure GlobalSettingsUpdateResponse where
  success : Bool
  message : String
  hasOpenPositions : Bool

namespace GlobalSettingsUpdateRequest

variable (body : GlobalSettingsUpdateRequest)

/-- The configuration after the request. -/
def apply (cfg : TradingConfig) : TradingConfig :=
  { cfg with
    autoStartBotOnStartup := body.autoStartBotOnStartup.getD cfg.autoStartBotOnStartup
    botMaxPositions := body.botMaxPositions.getD cfg.botMaxPositions
    waitForClaimBeforeNewTrade :=
      body.blockNewEntriesWhenClaimPending.getD cfg.waitForClaimBeforeNewTrade
    tpPercentage := body.tpPercentage.getD cfg.tpPercentage
    tpReevaluateOnRetry := body.tpReevaluate.getD cfg.tpReevaluateOnRetry
    slEnabled := body.slEnabled.getD cfg.slEnabled
    slPercentage := body.slPercentage.getD cfg.slPercentage
    fsTimeEnabled := body.fsTimeEnabled.getD cfg.fsTimeEnabled
    fsTimeRemainingSeconds := body.fsTimeSeconds.getD cfg.fsTimeRemainingSeconds
    fsPnlEnabled := body.fsPnlEnabled.getD cfg.fsPnlEnabled
    fsPnlLossPercentage := body.fsPnlPct.getD cfg.fsPnlLossPercentage }

/-- The exit evaluator after the request. -/
def applyEvaluator (e : ExitEvaluator) : ExitEvaluator :=
  { e with
    tpPct := body.tpPercentage.getD e.tpPct
    tpReevaluate := body.tpReevaluate.getD e.tpReevaluate
    slEnabled := body.slEnabled.getD e.slEnabled
    slPct := body.slPercentage.getD e.slPct
    fsTimeEnabled := body.fsTimeEnabled.getD e.fsTimeEnabled
    fsTimeSeconds := (body.fsTimeSeconds.map (fun n => (n : ℚ))).getD e.fsTimeSeconds
    fsPnlEnabled := body.fsPnlEnabled.getD e.fsPnlEnabled
    fsPnlPct := body.fsPnlPct.getD e.fsPnlPct }

/-- The names of the fields that are set, in the order they are applied. -/
def changed : List String :=
  [("auto_start_bot_on_startup", body.autoStartBotOnStartup.isSome),
    ("bot_max_positions", body.botMaxPositions.isSome),
    ("block_new_entries_when_claim_pending", body.blockNewEntriesWhenClaimPending.isSome),
    ("tp_percentage", body.tpPercentage.isSome),
    ("tp_reevaluate", body.tpReevaluate.isSome),
    ("sl_enabled", body.slEnabled.isSome),
    ("sl_percentage", body.slPercentage.isSome),
    ("fs_time_enabled", body.fsTimeEnabled.isSome),
    ("fs_time_seconds", body.fsTimeSeconds.isSome),
    ("fs_pnl_enabled", body.fsPnlEnabled.isSome),
    ("fs_pnl_pct", body.fsPnlPct.isSome)].filterMap (fun (name, set) =>
      if set then some name else none)

def response (t : PositionTracker) : GlobalSettingsUpdateResponse where
  success := true
  message := if body.changed.isEmpty then "Değişiklik yok"
    else toString body.changed.length ++ " ayar güncellendi"
  hasOpenPositions := decide (t.openPositionCount > 0)

end GlobalSettingsUpdateRequest

/-- The evaluator says what the configuration says. -/
structure TradingConfig.Mirrors (cfg : TradingConfig) (e : ExitEvaluator) : Prop where
  tpPct : e.tpPct = cfg.tpPercentage
  tpReevaluate : e.tpReevaluate = cfg.tpReevaluateOnRetry
  slEnabled : e.slEnabled = cfg.slEnabled
  slPct : e.slPct = cfg.slPercentage
  slJumpThreshold : e.slJumpThreshold = cfg.slJumpThreshold
  fsTimeEnabled : e.fsTimeEnabled = cfg.fsTimeEnabled
  fsTimeSeconds : e.fsTimeSeconds = cfg.fsTimeRemainingSeconds
  fsPnlEnabled : e.fsPnlEnabled = cfg.fsPnlEnabled
  fsPnlPct : e.fsPnlPct = cfg.fsPnlLossPercentage

/-- **A request reaches the evaluator as it reaches the configuration.** -/
theorem applyEvaluator_mirrors {cfg : TradingConfig} {e : ExitEvaluator}
    (body : GlobalSettingsUpdateRequest) (h : cfg.Mirrors e) :
    (body.apply cfg).Mirrors (body.applyEvaluator e) where
  tpPct := congrArg (body.tpPercentage.getD ·) h.tpPct
  tpReevaluate := congrArg (body.tpReevaluate.getD ·) h.tpReevaluate
  slEnabled := congrArg (body.slEnabled.getD ·) h.slEnabled
  slPct := congrArg (body.slPercentage.getD ·) h.slPct
  slJumpThreshold := h.slJumpThreshold
  fsTimeEnabled := congrArg (body.fsTimeEnabled.getD ·) h.fsTimeEnabled
  fsTimeSeconds := by
    unfold GlobalSettingsUpdateRequest.apply GlobalSettingsUpdateRequest.applyEvaluator
    cases body.fsTimeSeconds with
    | none => exact h.fsTimeSeconds
    | some n => rfl
  fsPnlEnabled := congrArg (body.fsPnlEnabled.getD ·) h.fsPnlEnabled
  fsPnlPct := congrArg (body.fsPnlPct.getD ·) h.fsPnlPct

end Polyfast
