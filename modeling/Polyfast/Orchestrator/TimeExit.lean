import Polyfast.Execution.NetValue
import Polyfast.Orchestrator.ExitSales

/-!
# Force sell by time

The time condition of force sell needs no price. The evaluator knows that, the trigger phase does not: without a
positive price it leaves a position before any evaluation. And the seconds that the exit loop hands over are those of
the running slot, whatever event the position is of.

* `decision_isSome_iff`: when the trigger phase decides to close, where time alone is selected;
* `closeRequested_iff`: what it decides it requests;
* `time_exit_iff`: when a position whose event is about to end is closed.
-/

namespace Polyfast

namespace Trading

variable {s : Trading} {w : World} {x : CycleInput} {m : Market} {now : Time} {id : PositionId} {r : PositionRecord}
  {start : ℕ}

/-- Time is the only condition of force sell. -/
structure TimeOnly (e : ExitEvaluator) : Prop where
  time : e.fsTimeEnabled = true
  pnl : e.fsPnlEnabled = false

/-- The position's event is of the slot that begins at `start`, the one that the registry gives if it knows the event,
and no more seconds are left of that slot than force sell waits for. -/
structure TimeUp (s : Trading) (m : Market) (now : Time) (r : PositionRecord) (start : ℕ) : Prop where
  slot : ∀ known ∈ m.ownSlotStart r, known = start
  secs : (start : ℚ) + slotSeconds - now ≤ s.evaluator.fsTimeSeconds

/-- A close of the position is requested. -/
def CloseRequested (s : Trading) (id : PositionId) : Prop :=
  ∃ r, s.tracker.positions.get? id = some r ∧ r.state = .closingRequested ∧ r.closeReason.isSome = true

/-- The record found for the position's asset has a positive bid on the side of the last open position of the asset;
and the position's event is of the running slot, or the running slot is about to end as well, or take profit or stop
loss asks for the exit at that bid, and it is not stale. -/
def ClosesInTime (s : Trading) (m : Market) (now : Time) (r : PositionRecord) (start : ℕ) : Prop :=
  ∃ q, Market.lastOpen s.tracker.getAllPositions r.asset = some q ∧
    0 < Market.bidOf (m.selected now r.asset) q.side ∧
    (start + slotSeconds = slotEnd now ∨ slotEnd now - now ≤ s.evaluator.fsTimeSeconds ∨
      (m.selected now r.asset).any (·.isStale now) = false ∧
        (s.evaluator.evaluate r (Market.bidOf (m.selected now r.asset) q.side)).2.shouldExit = true)

/-- Force sell by time alone, whether the price is fresh or stale. -/
theorem forceDecision_isSome_iff {e : ExitEvaluator} (he : TimeOnly e) (hopen : r.isOpen = true) (fresh : Bool) :
    (x.forceDecision e r fresh).isSome = true ↔ x.secs r ≤ e.fsTimeSeconds := by
  by_cases hsecs : x.secs r ≤ e.fsTimeSeconds
  · simp [CycleInput.forceDecision, ExitEvaluator.evaluateForceSell, hopen, he.time, he.pnl, hsecs]
  · simp [CycleInput.forceDecision, ExitEvaluator.evaluateForceSell, hopen, he.time, he.pnl, hsecs]

/-- With a price, the trigger phase decides to close by time, or by take profit or stop loss at a fresh price. -/
theorem decision_isSome_iff {e : ExitEvaluator} (he : TimeOnly e) (hopen : r.isOpen = true) :
    (x.decision e r).isSome = true ↔ 0 < x.price r ∧ (x.secs r ≤ e.fsTimeSeconds ∨
      x.isStale r = false ∧ (e.evaluate r (x.price r)).2.shouldExit = true) := by
  unfold CycleInput.decision
  by_cases hprice : x.price r ≤ 0
  · rw [if_pos hprice]
    exact iff_of_false (by simp) fun h => absurd h.1 (not_lt.mpr hprice)
  · rw [if_neg hprice, and_iff_right (not_le.mp hprice)]
    cases hstale : x.isStale r with
    | true =>
      rw [if_pos rfl, forceDecision_isSome_iff he hopen]
      simp
    | false =>
      rw [if_neg Bool.false_ne_true]
      dsimp only
      by_cases hexit : (e.evaluate r (x.price r)).2.shouldExit = true
      · rw [if_pos hexit]
        refine iff_of_true ?_ (.inr ⟨rfl, hexit⟩)
        rcases ExitEvaluator.evaluate_reason hexit with ⟨hreason, -⟩ | hreason
        · simp [hreason]
        · simp [hreason]
      · rw [if_neg hexit, forceDecision_isSome_iff he hopen]
        simp [hexit]

/-- The trigger phase requests what it decides. -/
theorem closeRequested_iff (h : s.tracker.positions.get? id = some r) (hopen : r.isOpen = true) :
    CloseRequested (s.triggerPhase w x).state id ↔ (x.decision s.evaluator r).isSome = true := by
  obtain ⟨-, hphase⟩ := triggerPhase_spec s w x
  have hafter : (s.triggerPhase w x).state.tracker.positions.get? id =
      some (r.decided (x.decision s.evaluator r) (s.instant w).now) := by
    rw [hphase.positions id, if_neg (by simp), h, Option.map_some, afterTrigger, if_pos hopen]
  cases hdecision : x.decision s.evaluator r with
  | none =>
    rw [hdecision] at hafter
    refine iff_of_false ?_ (by simp)
    rintro ⟨r', hr', hstate, -⟩
    -- no decision, and the position is as open as before
    obtain rfl : r = r' := Option.some.inj (hafter.symm.trans hr')
    rw [PositionRecord.isOpen_iff.mp hopen] at hstate
    cases hstate
  | some d =>
    rw [hdecision] at hafter
    exact iff_of_true ⟨_, hafter, rfl, rfl⟩ rfl

/-- **When the time condition closes a position.** Time alone is selected, and the position's event is about to end:
the trigger phase of a turn of the exit loop requests the close of the open position exactly if the loop finds a price
for it, and either the seconds of the running slot are up as well, or the price itself asks for the exit. -/
theorem time_exit_iff (h : s.tracker.positions.get? id = some r) (hopen : r.isOpen = true)
    (he : TimeOnly s.evaluator) (hup : TimeUp s m (s.instant w).now r start) :
    CloseRequested (s.triggerPhase w (s.collected w m)).state id ↔ ClosesInTime s m (s.instant w).now r start := by
  obtain ⟨q, hq, hprice, hstale, hsecs⟩ :=
    Market.collected_uses m (s.instant w).now (Lib.Table.mem_records_of_get? h) hopen
  rw [closeRequested_iff h hopen, decision_isSome_iff he hopen]
  unfold collected PositionTracker.getAllPositions
  rw [hprice, hstale, hsecs]
  constructor
  · rintro ⟨hpos, hwhy⟩
    exact ⟨q, hq, hpos, .inr hwhy⟩
  · rintro ⟨q', hq', hpos, hwhy⟩
    obtain rfl : q = q' := Option.some.inj (hq.symm.trans hq')
    refine ⟨hpos, ?_⟩
    rcases hwhy with hslot | hwhy
    · -- in the running slot the seconds handed over are the event's own
      have hend : (slotEnd (s.instant w).now : ℚ) = (start : ℚ) + slotSeconds := by exact_mod_cast hslot.symm
      rw [hend]
      exact .inl hup.secs
    · exact hwhy

/-- A desk with the trial position, filled and open. -/
def trialDesk : Trading :=
  { tracker := (PositionTracker.trialTracker.confirmFill 0 (1 / 2) (some defaultCryptoFeeRate) 1).state }

/-- One moment, without answers. -/
def worldAt (now : Time) : World := fun _ => { now := now }

/-- The event without any price. -/
def unpriced : Market := { registry := Market.oneEvent.registry }

/-- Five seconds before the end of the event the price is stale, and time closes the position. -/
theorem time_exit_trial :
    CloseRequested (trialDesk.triggerPhase (worldAt 1700000395)
      (trialDesk.collected (worldAt 1700000395) Market.oneEvent)).state 0 := by
  have hup : TimeUp trialDesk Market.oneEvent 1700000395 PositionTracker.trialPosition 1700000100 :=
    ⟨by decide +kernel, by decide +kernel⟩
  refine (time_exit_iff (w := worldAt 1700000395) (by decide +kernel) rfl ⟨rfl, rfl⟩ hup).mpr
    ⟨PositionTracker.trialPosition, ?_, ?_, .inl ?_⟩
  all_goals decide +kernel

/-- Five seconds before the end of the event a position without a price stays open; and so does one whose event has
ended, while the next slot has long to run, although there is a price. -/
theorem time_exit_blocked :
    trialDesk.tracker.positions.get? 0 = some PositionTracker.trialPosition ∧
      PositionTracker.trialPosition.isOpen = true ∧ TimeOnly trialDesk.evaluator ∧
      (TimeUp trialDesk unpriced 1700000395 PositionTracker.trialPosition 1700000100 ∧
        ¬CloseRequested (trialDesk.triggerPhase (worldAt 1700000395)
          (trialDesk.collected (worldAt 1700000395) unpriced)).state 0) ∧
      TimeUp trialDesk Market.oneEvent 1700000450 PositionTracker.trialPosition 1700000100 ∧
        ¬CloseRequested (trialDesk.triggerPhase (worldAt 1700000450)
          (trialDesk.collected (worldAt 1700000450) Market.oneEvent)).state 0 := by
  have hget : trialDesk.tracker.positions.get? 0 = some PositionTracker.trialPosition := by decide +kernel
  refine ⟨hget, rfl, ⟨rfl, rfl⟩, ⟨⟨by decide +kernel, by decide +kernel⟩, ?_⟩,
    ⟨by decide +kernel, by decide +kernel⟩, ?_⟩
  · rw [closeRequested_iff hget rfl]
    decide +kernel
  · rw [closeRequested_iff hget rfl]
    decide +kernel

end Trading

end Polyfast
