import Polyfast.Execution.PositionTracker

/-!
# The exit evaluator

Take profit, stop loss with its jump filter, and force sell, all on the rounded net PnL percentage.
`evaluate` also remembers the price it saw, the only thing it changes.
-/

namespace Polyfast

/-- The detail dictionary of an exit signal. -/
inductive ExitDetail
  | takeProfit (tpPct currentPnlPct currentPrice : ℚ) (reevaluate : Bool)
  | jumpThreshold (dropPct threshold : ℚ)
  | stopLoss (slPct currentPnlPct currentPrice : ℚ)
  | forceSell (triggerSet : List ForceSellTrigger) (secondsRemaining : ℚ) (safetyOverride : Bool)

structure ExitSignal where
  shouldExit : Bool
  reason : Option CloseReason := none
  pnlPct : ℚ := 0
  detail : Option ExitDetail := none

structure ExitEvaluator where
  tpPct : ℚ := 5
  slEnabled : Bool := true
  slPct : ℚ := 3
  slJumpThreshold : ℚ := 15 / 100
  tpReevaluate : Bool := true
  fsTimeEnabled : Bool := true
  fsTimeSeconds : ℚ := 30
  fsPnlEnabled : Bool := false
  fsPnlPct : ℚ := 5
  lastPrices : Lib.Dict PositionId ℚ := .empty

namespace ExitEvaluator

variable (e : ExitEvaluator) (p : PositionRecord)

/-- The live net PnL in percent. -/
def pnlPct (currentPrice : ℚ) : ℚ := (p.calculateUnrealizedPnl currentPrice).netUnrealizedPnlPct

/-- The price has a meaning for the position. -/
def isPriced : Bool := decide (0 < p.fillPrice ∧ 0 < p.netPositionShares)

/-- Take profit, then stop loss; a fall of more than the jump threshold in one tick is skipped. -/
def evaluate (currentPrice : ℚ) : ExitEvaluator × ExitSignal :=
  if !p.isOpen then (e, { shouldExit := false })
  else if p.fillPrice ≤ 0 ∨ p.netPositionShares ≤ 0 then (e, { shouldExit := false })
  else
    let pct := pnlPct p currentPrice
    let prev := e.lastPrices.getD p.positionId currentPrice
    let e := { e with lastPrices := e.lastPrices.set p.positionId currentPrice }
    if pct ≥ e.tpPct then
      (e, { shouldExit := true, reason := some .takeProfit, pnlPct := pct
            detail := some (.takeProfit e.tpPct pct currentPrice e.tpReevaluate) })
    else if e.slEnabled && decide (pct ≤ -e.slPct) then
      if 0 < prev ∧ (prev - currentPrice) / prev > e.slJumpThreshold then
        (e, { shouldExit := false
              detail := some (.jumpThreshold ((prev - currentPrice) / prev) e.slJumpThreshold) })
      else
        (e, { shouldExit := true, reason := some .stopLoss, pnlPct := pct
              detail := some (.stopLoss e.slPct pct currentPrice) })
    else (e, { shouldExit := false, pnlPct := pct })

/-- A requested take profit is taken back when its condition no longer holds. -/
def shouldCancelClose (currentPrice : ℚ) : Bool :=
  if p.closeReason ≠ some .takeProfit then false
  else if !e.tpReevaluate then false
  else decide (pnlPct p currentPrice < e.tpPct)

/-- All selected conditions must hold; a PnL that cannot be computed does not hold up the time
condition. -/
def evaluateForceSell (currentPrice secondsRemaining : ℚ) (outcomeFresh : Bool := true) :
    ExitSignal :=
  if !p.isOpen then { shouldExit := false }
  else if !e.fsTimeEnabled && !e.fsPnlEnabled then { shouldExit := false }
  else
    let timeMet := e.fsTimeEnabled && decide (secondsRemaining ≤ e.fsTimeSeconds)
    let pnlWaiting := e.fsPnlEnabled && !outcomeFresh
    let pnlMet := e.fsPnlEnabled && outcomeFresh && isPriced p &&
      decide (pnlPct p currentPrice ≤ -e.fsPnlPct)
    let triggerSet := (if timeMet then [ForceSellTrigger.time] else []) ++
      (if pnlMet then [ForceSellTrigger.pnl] else [])
    let conditionsRequired := e.fsTimeEnabled.toNat + e.fsPnlEnabled.toNat
    if pnlWaiting && timeMet then
      { shouldExit := true, reason := some .forceSell
        detail := some (.forceSell [.time] secondsRemaining true) }
    else if triggerSet.length ≥ conditionsRequired ∧ conditionsRequired > 0 then
      { shouldExit := true, reason := some .forceSell
        detail := some (.forceSell triggerSet secondsRemaining false) }
    else { shouldExit := false }

/-! ### What a decision depends on -/

variable {e p}

/-- Take profit and stop loss look at the last price of their own position only. -/
theorem evaluate_congr {l : Lib.Dict PositionId ℚ} {price : ℚ}
    (h : l.get? p.positionId = e.lastPrices.get? p.positionId) :
    ({ e with lastPrices := l }.evaluate p price).2 = (e.evaluate p price).2 := by
  have hprev : l.getD p.positionId price = e.lastPrices.getD p.positionId price := by
    rw [Lib.Dict.getD, Lib.Dict.getD, h]
  simp only [evaluate, hprev]
  split_ifs <;> rfl

/-- Evaluating a position remembers its price and nothing else. -/
theorem evaluate_fst (e : ExitEvaluator) (p : PositionRecord) (price : ℚ) :
    ∃ l, (e.evaluate p price).1 = { e with lastPrices := l } ∧
      ∀ k, k ≠ p.positionId → l.get? k = e.lastPrices.get? k := by
  have hset : ∀ k, k ≠ p.positionId →
      (e.lastPrices.set p.positionId price).get? k = e.lastPrices.get? k :=
    fun k hk => Lib.Dict.get?_set_ne _ hk.symm _
  unfold evaluate
  dsimp only
  split_ifs
  · exact ⟨e.lastPrices, rfl, fun _ _ => rfl⟩
  · exact ⟨e.lastPrices, rfl, fun _ _ => rfl⟩
  all_goals exact ⟨_, rfl, hset⟩

/-- An exit signal names its reason: take profit, at a PnL that reaches it, or stop loss. -/
theorem evaluate_reason {price : ℚ} (h : (e.evaluate p price).2.shouldExit = true) :
    ((e.evaluate p price).2.reason = some .takeProfit ∧ e.tpPct ≤ pnlPct p price) ∨
      (e.evaluate p price).2.reason = some .stopLoss := by
  unfold evaluate at h ⊢
  dsimp only at h ⊢
  split_ifs at h ⊢ with _ _ htp
  · exact .inl ⟨rfl, htp⟩
  · exact .inr rfl

/-- The guard of `evaluate`. -/
theorem isPriced_iff : isPriced p = true ↔ ¬(p.fillPrice ≤ 0 ∨ p.netPositionShares ≤ 0) := by
  simp [isPriced]

/-- The fall from the last price, in parts of it, is more than the jump threshold. -/
def Jumps (e : ExitEvaluator) (p : PositionRecord) (price : ℚ) : Prop :=
  0 < e.lastPrices.getD p.positionId price ∧
    (e.lastPrices.getD p.positionId price - price) / e.lastPrices.getD p.positionId price > e.slJumpThreshold

/-- Take profit is signalled exactly when the PnL of a priced open position reaches it. -/
theorem evaluate_takeProfit_iff (e : ExitEvaluator) (p : PositionRecord) (price : ℚ) :
    (e.evaluate p price).2.reason = some .takeProfit ↔
      p.isOpen = true ∧ isPriced p = true ∧ e.tpPct ≤ pnlPct p price := by
  rw [isPriced_iff]
  unfold evaluate
  dsimp only
  split_ifs with hopen hpriced htp
  · rw [Bool.not_eq_true'] at hopen
    simp [hopen]
  · simp [hpriced]
  · rw [Bool.not_eq_true', Bool.not_eq_false] at hopen
    exact iff_of_true rfl ⟨hopen, hpriced, htp⟩
  all_goals exact iff_of_false (by simp) fun h => htp h.2.2

/-- Stop loss is signalled exactly when the PnL of a priced open position is below take profit and at the stop,
and the price did not jump. -/
theorem evaluate_stopLoss_iff (e : ExitEvaluator) (p : PositionRecord) (price : ℚ) :
    (e.evaluate p price).2.reason = some .stopLoss ↔
      p.isOpen = true ∧ isPriced p = true ∧ pnlPct p price < e.tpPct ∧ e.slEnabled = true ∧
        pnlPct p price ≤ -e.slPct ∧ ¬e.Jumps p price := by
  rw [isPriced_iff]
  unfold evaluate Jumps
  dsimp only
  split_ifs with hopen hpriced htp hstop hjump
  · rw [Bool.not_eq_true'] at hopen
    simp [hopen]
  · simp [hpriced]
  · exact iff_of_false (by simp) fun h => absurd htp (not_le.mpr h.2.2.1)
  · exact iff_of_false (by simp) fun h => h.2.2.2.2.2 hjump
  · rw [Bool.not_eq_true', Bool.not_eq_false] at hopen
    rw [Bool.and_eq_true, decide_eq_true_iff] at hstop
    exact iff_of_true rfl ⟨hopen, hpriced, not_le.mp htp, hstop.1, hstop.2, hjump⟩
  · rw [Bool.and_eq_true, decide_eq_true_iff] at hstop
    exact iff_of_false (by simp) fun h => hstop ⟨h.2.2.2.1, h.2.2.2.2.1⟩

end ExitEvaluator

/-- The trigger set a force-sell signal carries. -/
def ExitSignal.triggerSet (s : ExitSignal) : List ForceSellTrigger :=
  match s.detail with
  | some (.forceSell triggers _ _) => triggers
  | _ => []

end Polyfast
