import Mathlib.Data.List.Chain
import Polyfast.Lib.Run
import Polyfast.Execution.PnlRegions

/-!
# The jump filter over a history of prices

A stop loss is suppressed when the price fell by more than the threshold since the last evaluation; the price is
remembered all the same. So what an evaluation compares with is the last price of the history.

* `lastPrice_run`: what a run of evaluations remembers of a position;
* `not_jumps_of_steady`: a history that does not fall too fast suppresses nothing;
* `jump_filter`: at most one evaluation is delayed at one price, and a gradual fall is never hidden.
-/

namespace Polyfast

namespace ExitEvaluator

/-- A call of `evaluate`: a position and its price. -/
abbrev Evaluation := PositionRecord × ℚ

/-- A call of `evaluate` as a step of the evaluator. -/
def Evaluates (e : ExitEvaluator) (l : Evaluation) (e' : ExitEvaluator) : Prop :=
  e' = (e.evaluate l.1 l.2).1

/-- The evaluation is of the position and gets past the guards. -/
def sees (id : PositionId) (l : Evaluation) : Bool :=
  l.1.positionId = id && (l.1.isOpen && isPriced l.1)

/-- The prices at which a position was evaluated. -/
def pricesSeen (id : PositionId) (tr : List (Lib.Taken ExitEvaluator Evaluation)) : List ℚ :=
  (tr.filter (fun x => sees id x.label)).map (fun x => x.label.2)

/-- The same with the price remembered at the start, if there is one. -/
def history (e : ExitEvaluator) (id : PositionId) (tr : List (Lib.Taken ExitEvaluator Evaluation)) : List ℚ :=
  (e.lastPrices.get? id).toList ++ pricesSeen id tr

/-- A fall from `a` to `b` of the threshold at most, in parts of `a`. -/
def Steady (threshold a b : ℚ) : Prop := (a - b) / a ≤ threshold

/-- The evaluation is of an open, priced position whose PnL is at the stop. -/
def AtStop (e : ExitEvaluator) (l : Evaluation) : Prop :=
  l.1.isOpen = true ∧ isPriced l.1 = true ∧ pnlPct l.1 l.2 ≤ -e.slPct

/-- The evaluation answers `STOP_LOSS`. -/
def StopsOut (x : Lib.Taken ExitEvaluator Evaluation) : Prop :=
  (x.pre.evaluate x.label.1 x.label.2).2.reason = some .stopLoss

/-- The stop loss is on and its numbers are positive. -/
structure Armed (e : ExitEvaluator) : Prop where
  enabled : e.slEnabled = true
  stop : 0 < e.slPct
  profit : 0 < e.tpPct
  threshold : 0 < e.slJumpThreshold

variable {e e₀ : ExitEvaluator} {tr : List (Lib.Taken ExitEvaluator Evaluation)}

/-! ### What is remembered -/

/-- An evaluation that sees the price of a position remembers it; any other leaves its last price alone. -/
theorem lastPrice_evaluate (e : ExitEvaluator) (l : Evaluation) (id : PositionId) :
    (e.evaluate l.1 l.2).1.lastPrices.get? id =
      if sees id l = true then some l.2 else e.lastPrices.get? id := by
  by_cases hid : l.1.positionId = id
  · subst hid
    unfold evaluate sees
    dsimp only
    by_cases hopen : l.1.isOpen = true
    · by_cases hpriced : isPriced l.1 = true
      · have hguard := isPriced_iff.mp hpriced
        have hset : (e.lastPrices.set l.1.positionId l.2).get? l.1.positionId = some l.2 := by
          rw [Lib.Dict.get?_set, if_pos rfl]
        simp only [hopen, hpriced, hguard, Bool.not_true, Bool.false_eq_true, if_false, decide_true,
          Bool.and_self, if_true]
        split_ifs <;> exact hset
      · have hguard := not_not.mp (isPriced_iff.not.mp hpriced)
        simp [hopen, hpriced, hguard]
    · simp [hopen]
  · have hsees : sees id l = false := by simp [sees, hid]
    obtain ⟨d, heq, hothers⟩ := evaluate_fst e l.1 l.2
    rw [heq, hsees]
    exact hothers id (Ne.symm hid)

/-- A run of evaluations keeps the settings, and remembers the last price of the history. -/
theorem lastPrice_run (h : Lib.Run Evaluates e₀ tr e) (id : PositionId) :
    (∃ d, e = { e₀ with lastPrices := d }) ∧ e.lastPrices.get? id = (history e₀ id tr).getLast? := by
  induction h with
  | nil =>
    refine ⟨⟨_, rfl⟩, ?_⟩
    unfold history pricesSeen
    cases e₀.lastPrices.get? id <;> rfl
  | @snoc t u tr l _ hstep ih =>
    obtain ⟨⟨d, hd⟩, hlast⟩ := ih
    obtain ⟨d', hd', -⟩ := evaluate_fst t l.1 l.2
    unfold Evaluates at hstep
    refine ⟨⟨d', by rw [hstep, hd', hd]⟩, ?_⟩
    rw [hstep, lastPrice_evaluate, hlast]
    unfold history pricesSeen
    rw [List.filter_append, List.map_append, ← List.append_assoc]
    by_cases hsees : sees id l = true
    · simp [hsees]
    · simp [hsees]

/-! ### What is suppressed -/

/-- A history that ends without a jump suppresses nothing. -/
theorem not_jumps_of_steady {p : PositionRecord} {prices : List ℚ} {price : ℚ} (hthr : 0 < e.slJumpThreshold)
    (hlast : e.lastPrices.get? p.positionId = prices.getLast?)
    (hsteady : ∀ a ∈ prices.getLast?, Steady e.slJumpThreshold a price) : ¬e.Jumps p price := by
  cases ha : prices.getLast? with
  | none => exact not_jumps_first (hlast.trans ha) hthr.le
  | some a =>
    have hprev : e.lastPrices.getD p.positionId price = a := by
      rw [Lib.Dict.getD, hlast, ha]
      rfl
    unfold Jumps
    rw [hprev]
    exact fun h => absurd h.2 (not_lt.mpr (hsteady a ha))

/-- At the stop, an armed evaluator that sees no jump stops out: take profit cannot mask it. -/
theorem stops_out {l : Evaluation} (h : Armed e) (hstop : AtStop e l) (hjump : ¬e.Jumps l.1 l.2) :
    (e.evaluate l.1 l.2).2.reason = some .stopLoss := by
  obtain ⟨hopen, hpriced, hpnl⟩ := hstop
  have hbelow : pnlPct l.1 l.2 < e.tpPct := by
    have hstop := h.stop
    have hprofit := h.profit
    linarith
  rw [evaluate_stopLoss_iff]
  exact ⟨hopen, hpriced, hbelow, h.enabled, hpnl, hjump⟩

/-- An evaluation at the stop, in a run whose history up to it ends without a jump. -/
theorem stops_out_run {y : Lib.Taken ExitEvaluator Evaluation}
    {tr₁ tr₂ : List (Lib.Taken ExitEvaluator Evaluation)} (hrun : Lib.Run Evaluates e₀ (tr₁ ++ y :: tr₂) e)
    (harmed : Armed e₀) (hstop : AtStop e₀ y.label)
    (hsteady : ∀ a ∈ (history e₀ y.label.1.positionId tr₁).getLast?,
      Steady e₀.slJumpThreshold a y.label.2) : StopsOut y := by
  obtain ⟨m, hbefore, hrest⟩ := hrun.split
  obtain ⟨hpre, -, -⟩ := hrest.cons_inv
  obtain ⟨⟨d, hd⟩, hlast⟩ := lastPrice_run hbefore y.label.1.positionId
  have harmed' : Armed m := by
    rw [hd]
    exact ⟨harmed.enabled, harmed.stop, harmed.profit, harmed.threshold⟩
  have hthr : m.slJumpThreshold = e₀.slJumpThreshold := by rw [hd]
  have hstop' : AtStop m y.label := by
    rw [hd]
    exact hstop
  unfold StopsOut
  rw [hpre]
  refine stops_out harmed' hstop' (not_jumps_of_steady harmed'.threshold hlast ?_)
  rw [hthr]
  exact hsteady

/-- **The jump filter.** Over every run of evaluations of whatever positions: of two consecutive evaluations of a
position at one price at the stop, one answers `STOP_LOSS`; and an evaluation at the stop, the first one as
any other, answers it if no consecutive pair of prices of the position up to it falls too fast. -/
theorem jump_filter (hrun : Lib.Run Evaluates e₀ tr e) (harmed : Armed e₀) (id : PositionId) :
    (∀ tr₁ x tr₂ y tr₃, tr = tr₁ ++ x :: (tr₂ ++ y :: tr₃) → x.label.1.positionId = id →
      y.label.1.positionId = id → (∀ z ∈ tr₂, z.label.1.positionId ≠ id) → x.label.2 = y.label.2 →
      AtStop e₀ x.label → AtStop e₀ y.label → StopsOut x ∨ StopsOut y) ∧
    ∀ tr₁ y tr₂, tr = tr₁ ++ y :: tr₂ → y.label.1.positionId = id → AtStop e₀ y.label →
      (history e₀ id tr₁ ++ [y.label.2]).IsChain (Steady e₀.slJumpThreshold) → StopsOut y := by
  refine ⟨?_, ?_⟩
  · rintro tr₁ x tr₂ y tr₃ rfl hx rfl hbetween hprice hstopx hstopy
    right
    have hsees : sees y.label.1.positionId x.label = true := by
      simp [sees, hx, hstopx.1, hstopx.2.1]
    have hnone : tr₂.filter (fun z => sees y.label.1.positionId z.label) = [] := by
      rw [List.filter_eq_nil_iff]
      intro z hz
      simp [sees, hbetween z hz]
    rw [← List.cons_append, ← List.append_assoc] at hrun
    refine stops_out_run hrun harmed hstopy fun a ha => ?_
    -- the price remembered is the one of the evaluation before
    have hlast : (history e₀ y.label.1.positionId (tr₁ ++ x :: tr₂)).getLast? = some x.label.2 := by
      unfold history pricesSeen
      rw [List.filter_append, List.filter_cons, if_pos hsees, hnone, List.map_append, ← List.append_assoc]
      simp
    rw [hlast, Option.mem_some_iff] at ha
    unfold Steady
    rw [← ha, hprice, sub_self, zero_div]
    exact harmed.threshold.le
  · rintro tr₁ y tr₂ rfl rfl hstop hchain
    refine stops_out_run hrun harmed hstop fun a ha => ?_
    rw [List.isChain_append] at hchain
    exact hchain.2.2 a ha y.label.2 (by simp)

/-- The evaluator has seen the trial position at 0.50, and then at 0.40. -/
def seenHalf : ExitEvaluator := (({} : ExitEvaluator).evaluate PositionTracker.trialPosition (1 / 2)).1

def seenFall : ExitEvaluator := (seenHalf.evaluate PositionTracker.trialPosition (2 / 5)).1

def seenTwice : ExitEvaluator := (seenFall.evaluate PositionTracker.trialPosition (2 / 5)).1

/-- The fall from 0.50 to 0.40 is held back for one evaluation, and the second one at 0.40 stops out. -/
theorem jump_filter_trial : ¬StopsOut ⟨seenHalf, (PositionTracker.trialPosition, 2 / 5), seenFall⟩ ∧
    StopsOut ⟨seenFall, (PositionTracker.trialPosition, 2 / 5), seenTwice⟩ := by
  have hrun : Lib.Run Evaluates {} _ _ := ((Lib.Run.single
    (show Evaluates {} (PositionTracker.trialPosition, 1 / 2) seenHalf from rfl)).snoc
    (show Evaluates seenHalf (PositionTracker.trialPosition, 2 / 5) seenFall from rfl)).snoc
    (show Evaluates seenFall (PositionTracker.trialPosition, 2 / 5) seenTwice from rfl)
  have hheld : ¬StopsOut ⟨seenHalf, (PositionTracker.trialPosition, 2 / 5), seenFall⟩ := by
    unfold StopsOut
    decide +kernel
  have hstop : AtStop {} (PositionTracker.trialPosition, 2 / 5) :=
    ⟨by decide +kernel, by decide +kernel, by decide +kernel⟩
  obtain ⟨hpair, -⟩ := jump_filter hrun ⟨rfl, by norm_num, by norm_num, by norm_num⟩ 0
  have hone := hpair [_] ⟨seenHalf, _, _⟩ [] ⟨seenFall, _, _⟩ [] rfl rfl rfl (by simp) rfl hstop hstop
  exact ⟨hheld, hone.resolve_left hheld⟩

end ExitEvaluator

end Polyfast
