import Polyfast.Execution.NetValue
import Polyfast.Orchestrator.ExitRuns

/-!
# Take profit on a retry

The take-profit condition is looked at again before a sale, but only for a position in `CLOSING_REQUESTED`. A
retry starts from `CLOSE_FAILED` and passes by the check.

* `executeClose_goesOn`: a call for a position in `CLOSE_FAILED` never opens it again;
* `take_profit_retry_iff`: when a take profit whose condition is gone is taken back.
-/

namespace Polyfast

namespace CloseDesk

variable {s : Trading} {id : PositionId} {r : PositionRecord} {price : ℚ} {w : World} {reason : CloseReason}
  {triggers : List ForceSellTrigger}

/-- A whole call goes on with the close, if no take profit of its position is taken back. -/
theorem executeClose_goesOn (h : LatchedIn s id reason triggers)
    (hkeep : ∀ r, s.tracker.positions.get? id = some r → ¬s.Cancels r price) (w : World) :
    LatchedIn (s.executeClose w id price).state id reason triggers := by
  have hbegin := closeBegin_goesOn h hkeep (s.instant w).now
  unfold Trading.executeClose
  generalize s.closeBegin id price (s.instant w).now = out at hbegin
  obtain ⟨t, status⟩ := out
  cases status with
  | done result => exact hbegin
  | awaitingBalance k => exact hbegin
  | awaitingSell k =>
    have hsell := sellAnswered_latched hbegin id (t.instant w).sell ((t.answered (.sell id)).instant w).now
    dsimp only
    generalize t.sellAnswered id (t.instant w).sell ((t.answered (.sell id)).instant w).now = out at hsell
    obtain ⟨u, status⟩ := out
    cases status with
    | done result => exact hsell
    | awaitingSell j => exact hsell
    | awaitingBalance j => exact hsell

/-- Nothing is sold: no order goes out, and no paper sale is booked. -/
structure SellsNothing (s s' : Trading) : Prop where
  trace : s'.trace = s.trace
  balance : s'.balance = s.balance
  closeCount : s'.exitExecutor.closeCount = s.exitExecutor.closeCount

/-- The call sells nothing, and the position is open again with its close request cleared. -/
def TakenBack (s : Trading) (w : World) (id : PositionId) (price : ℚ) : Prop :=
  SellsNothing s (s.executeClose w id price).state ∧
    ∃ r, (s.executeClose w id price).state.tracker.positions.get? id = some r ∧ r.state = .openConfirmed ∧
      r.closeReason = none ∧ r.closeTriggerSet = [] ∧ r.closeTriggeredAt = none

/-- **Take profit on a retry.** A position is being closed for take profit, its cooldown is over, and its PnL is
below the take-profit percentage: with reevaluation on, a call of `execute_close` takes the close back exactly if
the position is in `CLOSING_REQUESTED`; from `CLOSE_FAILED` it goes on to the sale. -/
theorem take_profit_retry_iff (h : s.tracker.positions.get? id = some r) (hclosing : Trading.isClosing r = true)
    (hcool : ¬s.CoolsDown r (s.instant w).now) (hreason : r.closeReason = some .takeProfit)
    (hre : s.evaluator.tpReevaluate = true) (hbelow : ExitEvaluator.pnlPct r price < s.evaluator.tpPct) :
    (TakenBack s w id price ↔ r.state = .closingRequested) ∧
      (r.state = .closeFailed → s.Sends r price (s.instant w).now) := by
  refine ⟨⟨?_, ?_⟩, fun hfailed => ⟨hclosing, hcool, fun hc => ?_⟩⟩
  · rintro ⟨-, r', hr', hopen, -⟩
    by_contra hstate
    have hfailed : r.state = .closeFailed := (Trading.isClosing_iff.mp hclosing).resolve_left hstate
    have hlatched : LatchedIn s id .takeProfit r.closeTriggerSet :=
      ⟨r, h, .inr (.inr (.inl hfailed)), hreason, rfl⟩
    obtain ⟨u, hu, hleaving, -⟩ := executeClose_goesOn hlatched (fun v hv => by
      obtain rfl := Option.some.inj (h.symm.trans hv)
      exact fun hc => hstate hc.1) w
    obtain rfl := Option.some.inj (hr'.symm.trans hu)
    have hnot := hleaving.not_open
    rw [PositionRecord.isOpen_iff.mpr hopen] at hnot
    cases hnot
  · intro hstate
    have hcancels : s.Cancels r price := by
      refine ⟨hstate, hreason, ?_⟩
      unfold ExitEvaluator.shouldCancelClose
      simp [hreason, hre, hbelow]
    have hcall : (s.executeClose w id price).state = s.writePosition r.cancelClose := by
      unfold Trading.executeClose
      rw [Trading.closeBegin_cancels h hcancels]
    have hkey : r.positionId = id := Lib.Table.key_of_get? h
    unfold TakenBack
    rw [hcall]
    refine ⟨⟨rfl, rfl, rfl⟩, r.cancelClose, ?_, rfl, rfl, rfl, rfl⟩
    rw [← hkey]
    exact Lib.Table.get?_put_self _ r.cancelClose
  · have hrequested := hc.1
    rw [hfailed] at hrequested
    cases hrequested

/-- The trial position with a take profit requested. -/
def takingProfit (state : PositionState) : PositionRecord :=
  { PositionTracker.trialPosition with state := state, closeReason := some .takeProfit }

/-- A desk with that position and nothing else. -/
def takingDesk (state : PositionState) : Trading :=
  { tracker := ({} : PositionTracker).write (takingProfit state) }

/-- One moment, without answers. -/
def momentOf (now : Time) : World := fun _ => { now := now }

theorem take_profit_retry_requested :
    (TakenBack (takingDesk .closingRequested) (momentOf 5) 0 (1 / 2) ↔
        (takingProfit .closingRequested).state = .closingRequested) ∧
      ((takingProfit .closingRequested).state = .closeFailed →
        (takingDesk .closingRequested).Sends (takingProfit .closingRequested) (1 / 2) 5) :=
  take_profit_retry_iff (r := takingProfit .closingRequested) (by decide +kernel) rfl
    (fun h => by cases h.1) rfl rfl (by decide +kernel)

/-- A take profit whose sale failed is tried again at the price of the fill, where the PnL is negative: the retry
sells the position. -/
theorem take_profit_retry_sells :
    (takingDesk .closeFailed).tracker.positions.get? 0 = some (takingProfit .closeFailed) ∧
      ¬(takingDesk .closeFailed).CoolsDown (takingProfit .closeFailed) 5 ∧
      (takingDesk .closeFailed).evaluator.tpReevaluate = true ∧
      ExitEvaluator.pnlPct (takingProfit .closeFailed) (1 / 2) < 0 ∧
      (((takingDesk .closeFailed).executeClose (momentOf 5) 0 (1 / 2)).state.tracker.positions.get? 0).map
        PositionRecord.state = some .closed := by
  refine ⟨?_, ?_, rfl, ?_, ?_⟩
  all_goals decide +kernel

end CloseDesk

end Polyfast
