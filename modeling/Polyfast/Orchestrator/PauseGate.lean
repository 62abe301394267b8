import Polyfast.Orchestrator.Desk
import Polyfast.Orchestrator.Dispatch
import Polyfast.Orchestrator.Restore

/-!
# Pause, degraded mode and new positions

The orchestrator keeps the flags `trading_enabled` and `paused`; the evaluation loop, which sends the orders,
looks at neither.

* `Orchestrator`, `Step`: the flags, the calls that are under way and the evaluation loop, cut at the awaits;
* `Gated`, `evaluate_noEntry_iff`: when a turn taken while the bot is paused or degraded creates no position;
* `pause_gate_iff`: the same for runs;
* `evaluateAllEligible_run`: a whole evaluation cycle is a run of turns.
-/

namespace Polyfast

/-- What a call of `start` still has to do. -/
inductive StartStage
  /-- It loads the stored state. -/
  | restoring
  /-- It verifies the balance. -/
  | verifying
  /-- It starts the loops. -/
  | launching
  deriving DecidableEq

/-- The loop that a call of `stop` stops next. -/
inductive StopStage
  | verifyRetry
  | exitCycle
  | evaluation
  deriving DecidableEq

structure Orchestrator where
  tradingEnabled : Bool := true
  paused : Bool := false
  exitCycleRunning : Bool := false
  verifyRetryRunning : Bool := false
  /-- The task of `_verify_retry_loop` is alive. -/
  verifyRetryTask : Bool := false
  evaluationRunning : Bool := false
  /-- Calls of `start` under way. -/
  starting : List StartStage := []
  /-- Calls of `stop` under way. -/
  stopping : List StopStage := []
  evaluationLoop : EvaluationLoop := {}
  desk : Desk

namespace Orchestrator

variable (o : Orchestrator)

def pause : Orchestrator := if o.paused then o else { o with paused := true }

def resume : Orchestrator := if o.paused then { o with paused := false } else o

/-- `start` up to its first await: a running orchestrator only resumes. -/
def start : Orchestrator :=
  if o.exitCycleRunning then { o.resume with tradingEnabled := true }
  else
    { o with
      tradingEnabled := true
      paused := false
      starting := o.starting ++ [.restoring]
      desk := { o.desk with
        trading := { o.desk.trading with tracker := o.desk.trading.tracker.reset } } }

/-- The first half of `restore_state`. -/
def restored (ps : List PositionRecord) (cs : List ClaimRecord) (now : Time) : Orchestrator :=
  { o with desk := { o.desk with trading := o.desk.trading.restoreState ps cs now } }

/-- `_start_verify_retry`. -/
def startVerifyRetry : Orchestrator :=
  if o.verifyRetryRunning then o
  else { o with verifyRetryRunning := true, verifyRetryTask := true }

/-- `_verify_balance`: the balance, if the exchange tells it, and whether it does. -/
def verifyBalance (reply : Option (ℚ × ℚ)) (now : Time) : Orchestrator × Bool :=
  match reply with
  | none => (o, false)
  | some (available, total) =>
    ({ o with desk := { o.desk with trading := { o.desk.trading with
        balance := o.desk.trading.balance.update available (some total) now } } }, true)

/-- The second half of `restore_state`: without a balance the bot starts in degraded mode. -/
def verified (reply : Option (ℚ × ℚ)) (now : Time) : Orchestrator :=
  match o.verifyBalance reply now with
  | (o, true) => { o with tradingEnabled := true }
  | (o, false) => { o with tradingEnabled := false }.startVerifyRetry

/-- The end of `start`. -/
def launched : Orchestrator := { o with evaluationRunning := true, exitCycleRunning := true }

/-- One turn of `_verify_retry_loop`. -/
def verifyRetry (reply : Option (ℚ × ℚ)) (now : Time) : Orchestrator :=
  if !o.verifyRetryRunning then { o with verifyRetryTask := false }
  else match o.verifyBalance reply now with
    | (o, true) =>
      { o with tradingEnabled := true, verifyRetryRunning := false, verifyRetryTask := false }
    | (o, false) => { o with verifyRetryTask := !o.tradingEnabled }

/-- `stop` up to its first await. -/
def stop : Orchestrator :=
  { o with tradingEnabled := false, paused := false, stopping := o.stopping ++ [.verifyRetry] }

/-- What `stop` does between two awaits; the flush at its end changes nothing here. -/
def stopLoop (stage : StopStage) : Orchestrator :=
  match stage with
  | .verifyRetry =>
    { o with verifyRetryRunning := false, verifyRetryTask := false
             stopping := o.stopping ++ [.exitCycle] }
  | .exitCycle => { o with exitCycleRunning := false, stopping := o.stopping ++ [.evaluation] }
  | .evaluation => { o with evaluationRunning := false }

/-! ### The API -/

inductive BotState
  | running
  | paused
  | stopped
  deriving DecidableEq

/-- `_current_state`. -/
def currentState : BotState :=
  if !o.tradingEnabled then .stopped else if o.paused then .paused else .running

/-- `POST /api/bot/start`. -/
def botStart : Orchestrator :=
  match o.currentState with
  | .running => o
  | .paused => o.resume
  | .stopped => o.start

/-- `POST /api/bot/pause`; a stopped bot is answered with 409. -/
def botPause : Orchestrator :=
  match o.currentState with
  | .running => o.pause
  | .paused | .stopped => o

/-- `POST /api/bot/stop`. -/
def botStop : Orchestrator :=
  match o.currentState with
  | .stopped => o
  | .running | .paused => o.stop

/-! ### Evaluation -/

/-- One turn of the evaluation loop, with the call of the executor up to its first await. -/
def evaluate (s : CoinSettings) (k : TurnClock) (now : Time) : Orchestrator :=
  match o.evaluationLoop.turn s o.desk.trading.tracker k with
  | (l, none) => { o with evaluationLoop := l }
  | (l, some i) =>
    { o with evaluationLoop := l, desk := o.desk.afterExecute i (o.desk.trading.execute i now) }

/-- `_evaluate_all_eligible`, if no call of the executor waits: a turn for each eligible coin. -/
def evaluateAllEligible (settings : SettingsStore) (k : CoinSettings → TurnClock)
    (now : CoinSettings → Time) : Orchestrator :=
  settings.getEligibleCoins.foldl (fun o s => o.evaluate s (k s) (now s)) o

inductive Label
  | start
  | restored (ps : List PositionRecord) (cs : List ClaimRecord) (now : Time)
  | verified (reply : Option (ℚ × ℚ)) (now : Time)
  | launched
  | startFailed (stage : StartStage)
  | stop
  | stopLoop (stage : StopStage)
  | pause
  | resume
  | botStart
  | botPause
  | botStop
  | verifyRetry (reply : Option (ℚ × ℚ)) (now : Time)
  | startVerifyRetry
  /-- The startup guard sets `trading_enabled`; the credential update means to, and does not get there. -/
  | balanceKnown
  | setDispatch (enabled : Bool)
  | stores (p : LivePricePipeline) (c : CoinPriceClient) (f : PTBFetcher) (b : WSPriceBridge)
      (r : EventRegistry)
  | desk (l : Desk.Label)
  | evaluate (s : CoinSettings) (k : TurnClock) (now : Time)

/-- One step between awaits. The stores change as they like; orders are sent by the evaluation loop only. -/
inductive Step : Orchestrator → Label → Orchestrator → Prop
  | start (o : Orchestrator) : Step o .start o.start
  | restored (o : Orchestrator) (l₁ l₂ : List StartStage) (ps : List PositionRecord)
      (cs : List ClaimRecord) (now : Time) (h : o.starting = l₁ ++ .restoring :: l₂) :
      Step o (.restored ps cs now) ({ o with starting := l₁ ++ StartStage.verifying :: l₂ }.restored ps cs now)
  | verified (o : Orchestrator) (l₁ l₂ : List StartStage) (reply : Option (ℚ × ℚ)) (now : Time)
      (h : o.starting = l₁ ++ .verifying :: l₂) :
      Step o (.verified reply now) ({ o with starting := l₁ ++ StartStage.launching :: l₂ }.verified reply now)
  | launched (o : Orchestrator) (l₁ l₂ : List StartStage) (h : o.starting = l₁ ++ .launching :: l₂) :
      Step o .launched { o with starting := l₁ ++ l₂ }.launched
  | startFailed (o : Orchestrator) (l₁ l₂ : List StartStage) (stage : StartStage)
      (h : o.starting = l₁ ++ stage :: l₂) :
      Step o (.startFailed stage) { o with starting := l₁ ++ l₂ }
  | stop (o : Orchestrator) : Step o .stop o.stop
  | stopLoop (o : Orchestrator) (l₁ l₂ : List StopStage) (stage : StopStage)
      (h : o.stopping = l₁ ++ stage :: l₂) :
      Step o (.stopLoop stage) ({ o with stopping := l₁ ++ l₂ }.stopLoop stage)
  | pause (o : Orchestrator) : Step o .pause o.pause
  | resume (o : Orchestrator) : Step o .resume o.resume
  | botStart (o : Orchestrator) : Step o .botStart o.botStart
  | botPause (o : Orchestrator) : Step o .botPause o.botPause
  | botStop (o : Orchestrator) : Step o .botStop o.botStop
  | verifyRetry (o : Orchestrator) (reply : Option (ℚ × ℚ)) (now : Time)
      (h : o.verifyRetryTask = true) : Step o (.verifyRetry reply now) (o.verifyRetry reply now)
  | startVerifyRetry (o : Orchestrator) : Step o .startVerifyRetry o.startVerifyRetry
  | balanceKnown (o : Orchestrator) : Step o .balanceKnown { o with tradingEnabled := true }
  | setDispatch (o : Orchestrator) (enabled : Bool) :
      Step o (.setDispatch enabled)
        { o with evaluationLoop := { o.evaluationLoop with orderDispatchEnabled := enabled } }
  | stores (o : Orchestrator) (p : LivePricePipeline) (c : CoinPriceClient) (f : PTBFetcher)
      (b : WSPriceBridge) (r : EventRegistry) :
      Step o (.stores p c f b r)
        { o with evaluationLoop := { o.evaluationLoop with
            pipeline := p, coinClient := c, ptbFetcher := f, bridge := b, registry := r } }
  | desk (o : Orchestrator) (d : Desk) (l : Desk.Label) (hl : l.isExecute = false)
      (h : Desk.Step o.desk l d) : Step o (.desk l) { o with desk := d }
  | evaluate (o : Orchestrator) (s : CoinSettings) (k : TurnClock) (now : Time)
      (h : o.evaluationRunning = true) : Step o (.evaluate s k now) (o.evaluate s k now)

/-- The states in which no order may be sent. -/
def Gated : Prop := o.paused = true ∨ o.tradingEnabled = false

/-- No position is created: `create_pending` is not called, and the tracker is as before. -/
structure NoEntry (o o' : Orchestrator) : Prop where
  uuids : o'.desk.trading.uuids = o.desk.trading.uuids
  tracker : o'.desk.trading.tracker = o.desk.trading.tracker

/-- A turn of the coin finds no order, or one that the executor's own checks turn down. -/
def Refused (s : CoinSettings) (k : TurnClock) (now : Time) : Prop :=
  ∀ i, o.evaluationLoop.Dispatches s o.desk.trading.tracker k i → ¬o.desk.trading.mayCreate i now

variable {o} {o' : Orchestrator} {s : CoinSettings} {k : TurnClock} {now : Time}

/-- **One turn** creates no position exactly when it finds no order that passes the executor's checks; the
flags of the orchestrator do not come into it. -/
theorem evaluate_noEntry_iff : NoEntry o (o.evaluate s k now) ↔ o.Refused s k now := by
  unfold evaluate Refused
  generalize hturn : o.evaluationLoop.turn s o.desk.trading.tracker k = out
  obtain ⟨l, sent⟩ := out
  have hsent : ∀ i, o.evaluationLoop.Dispatches s o.desk.trading.tracker k i ↔ sent = some i := by
    intro i
    rw [← EvaluationLoop.turn_eq_some_iff, hturn]
  simp only [hsent]
  cases sent with
  | none => exact iff_of_true ⟨rfl, rfl⟩ (by simp)
  | some i =>
    constructor
    · rintro h i' hi hmay
      obtain rfl := Option.some.inj hi
      have huuids := h.uuids
      rw [Desk.trading_afterExecute, Trading.execute_uuids hmay] at huuids
      omega
    · intro h
      obtain ⟨x, r, heq, -⟩ := Trading.execute_of_not_mayCreate (h i rfl)
      refine ⟨?_, ?_⟩
      · rw [Desk.trading_afterExecute, heq]
      · rw [Desk.trading_afterExecute, heq]

/-- A turn taken while the bot is paused or degraded has the property `P`. -/
def WhenGated (P : Lib.Taken Orchestrator Label → CoinSettings → TurnClock → Time → Prop)
    (x : Lib.Taken Orchestrator Label) : Prop :=
  ∀ s k now, x.label = .evaluate s k now → x.pre.Gated → P x s k now

theorem Step.evaluated (h : Step o (.evaluate s k now) o') : o' = o.evaluate s k now := by
  generalize hl : Label.evaluate s k now = l at h
  cases h with
  | evaluate =>
    obtain ⟨rfl, rfl, rfl⟩ := Label.evaluate.inj hl
    rfl
  | _ => cases hl

/-- **Pause gate.** In a run no turn creates a position while the bot is paused or degraded exactly when every
such turn finds no order that passes the executor's checks. -/
theorem pause_gate_iff {tr : List (Lib.Taken Orchestrator Label)} (hrun : Lib.Run Step o tr o') :
    (∀ x ∈ tr, WhenGated (fun x _ _ _ => NoEntry x.pre x.post) x) ↔
      ∀ x ∈ tr, WhenGated (fun x s k now => x.pre.Refused s k now) x := by
  refine forall₂_congr fun x hx => ?_
  have hstep := hrun.step_of_mem hx
  refine forall₅_congr fun s k now hlabel _ => ?_
  rw [hlabel] at hstep
  dsimp only
  rw [hstep.evaluated]
  exact evaluate_noEntry_iff

@[simp] theorem evaluationRunning_evaluate :
    (o.evaluate s k now).evaluationRunning = o.evaluationRunning := by
  unfold evaluate
  split <;> rfl

/-- **A whole cycle** is a run of turns of eligible coins. -/
theorem evaluateAllEligible_run (settings : SettingsStore) (k : CoinSettings → TurnClock)
    (now : CoinSettings → Time) (h : o.evaluationRunning = true) :
    ∃ tr, Lib.Run Step o tr (o.evaluateAllEligible settings k now) ∧
      ∀ x ∈ tr, ∃ s, s.isTradeEligible = true ∧ x.label = .evaluate s (k s) (now s) := by
  have hcoins : ∀ s ∈ settings.getEligibleCoins, s.isTradeEligible = true := fun s hs =>
    (List.mem_filter.mp hs).2
  unfold evaluateAllEligible
  generalize settings.getEligibleCoins = coins at hcoins
  induction coins generalizing o with
  | nil => exact ⟨[], .nil o, by simp⟩
  | cons s coins ih =>
    rw [List.forall_mem_cons] at hcoins
    have hrunning : (o.evaluate s (k s) (now s)).evaluationRunning = true := by
      rw [evaluationRunning_evaluate]
      exact h
    obtain ⟨tr, hrun, hlabels⟩ := ih hrunning hcoins.2
    refine ⟨_, (Lib.Run.single (.evaluate o s (k s) (now s) h)).append hrun, ?_⟩
    intro x hx
    rcases List.mem_append.mp hx with hx | hx
    · obtain rfl := List.mem_singleton.mp hx
      exact ⟨s, hcoins.1, rfl⟩
    · exact hlabels x hx

/-- A bot in paper mode before its start. -/
def newBot : Orchestrator where
  evaluationLoop := EvaluationLoop.btcLoop
  desk := Desk.startDesk .paper 3

/-- Nothing was stored. -/
def restoredBot : Orchestrator :=
  { newBot.start with starting := [.verifying] }.restored [] [] 1700000200

/-- The exchange knows of ten dollars. -/
def verifiedBot : Orchestrator :=
  { restoredBot with starting := [.launching] }.verified (some (10, 10)) 1700000200

def runningBot : Orchestrator := { verifiedBot with starting := [] }.launched

theorem runningBot_reached : ∃ tr, Lib.Run Step newBot tr runningBot :=
  ⟨_, (((Lib.Run.single (.start newBot)).snoc
    (.restored newBot.start [] [] [] [] 1700000200 rfl)).snoc
    (.verified restoredBot [] [] (some (10, 10)) 1700000200 rfl)).snoc (.launched verifiedBot [] [] rfl)⟩

def pausedBot : Orchestrator := runningBot.botPause

/-- A turn of the paused bot. -/
def pausedTurn : Lib.Taken Orchestrator Label where
  pre := pausedBot
  label := .evaluate EvaluationLoop.btcSettings (.at 1700000200) 1700000200
  post := pausedBot.evaluate EvaluationLoop.btcSettings (.at 1700000200) 1700000200

theorem pause_gate_paused :
    (∀ x ∈ [pausedTurn], WhenGated (fun x _ _ _ => NoEntry x.pre x.post) x) ↔
      ∀ x ∈ [pausedTurn], WhenGated (fun x s k now => x.pre.Refused s k now) x :=
  pause_gate_iff (.single (.evaluate pausedBot EvaluationLoop.btcSettings (.at 1700000200) 1700000200 rfl))

/-- The paused bot buys. -/
theorem paused_bot_buys : ∃ o' tr, Lib.Run Step newBot tr o' ∧ o'.paused = true ∧
    (o'.desk.trading.tracker.positions.get? 0).map (·.state) = some .openConfirmed ∧
    ¬∀ x ∈ tr, WhenGated (fun x _ _ _ => NoEntry x.pre x.post) x := by
  obtain ⟨tr, hrun⟩ := runningBot_reached
  have hpaused : Lib.Run Step newBot _ pausedBot := hrun.snoc (.botPause runningBot)
  have hbuys := hpaused.snoc
    (.evaluate pausedBot EvaluationLoop.btcSettings (.at 1700000200) 1700000200 rfl)
  refine ⟨_, _, hbuys, by decide +kernel, by decide +kernel, fun hall => ?_⟩
  have hnone := hall _ (List.mem_append_right _ List.mem_cons_self) _ _ _ rfl (.inl (by decide +kernel))
  exact absurd hnone.uuids (by decide +kernel)

end Orchestrator

end Polyfast
