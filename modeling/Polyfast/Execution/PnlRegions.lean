import Mathlib.Order.CompletePartialOrder
import Mathlib.Order.Interval.Set.Basic
import Mathlib.Order.Monotone.Defs
import Polyfast.Execution.NetValue
import Polyfast.Execution.ExitEvaluator

/-!
# The prices that take profit and the prices that stop out

Take profit and stop loss both look at the rounded net PnL percentage, which grows with the price.

* `pnlPct_mono`: the percentage is monotone in the price;
* `pnl_regions`: the two sets of prices are ordered and disjoint, and a requested take profit is taken back
  exactly outside the first;
* `unmoved_stop_iff`: when a position is stopped out at the price of its own fill.
-/

namespace Polyfast

namespace ExitEvaluator

variable {e : ExitEvaluator} {p : PositionRecord} {price rate x y : ℚ}

/-- The percentage in terms of the value after the fee. -/
theorem pnlPct_eq (hA : 0 < p.requestedAmountUsd) (x : ℚ) : pnlPct p x = Lib.roundTo 2
    ((netValue p.netPositionShares p.feeRate x - p.requestedAmountUsd) / p.requestedAmountUsd * 100) :=
  if_pos hA

/-- **The percentage grows with the price.** -/
theorem pnlPct_mono (hA : 0 < p.requestedAmountUsd) (hN : 0 ≤ p.netPositionShares) (hr : 0 ≤ p.feeRate)
    (hr1 : p.feeRate ≤ 1) (hx : 0 ≤ x) (hxy : x ≤ y) : pnlPct p x ≤ pnlPct p y := by
  rw [pnlPct_eq hA, pnlPct_eq hA]
  have hvalue := netValue_mono hN hr hr1 hx hxy
  refine Lib.roundTo_mono 2 (mul_le_mul_of_nonneg_right ?_ (by norm_num))
  exact div_le_div_of_nonneg_right (sub_le_sub_right hvalue _) hA.le

/-! ### The two regions -/

/-- The prices whose PnL reaches the take-profit percentage. -/
def takeProfitSet (e : ExitEvaluator) (p : PositionRecord) : Set ℚ :=
  {x | x ∈ Set.Icc 0 1 ∧ e.tpPct ≤ pnlPct p x}

/-- The prices whose PnL falls to the stop-loss percentage. -/
def stopLossSet (e : ExitEvaluator) (p : PositionRecord) : Set ℚ :=
  {x | x ∈ Set.Icc 0 1 ∧ pnlPct p x ≤ -e.slPct}

/-- The position as it is while it is open. -/
def whileOpen (p : PositionRecord) : PositionRecord := p.inState .openConfirmed

/-- The position with a take profit requested. -/
def takingProfit (p : PositionRecord) (triggers : List ForceSellTrigger) (requestedPrice : ℚ) (now : Time) :
    PositionRecord :=
  (p.inState .closingRequested).withCloseRequest .takeProfit triggers requestedPrice now

/-- **Ordered and disjoint regions.** The percentage is monotone on `[0, 1]`; the prices that take profit are
closed upwards, those of the stop loss downwards; no price is in both; an evaluation of the open position
takes profit exactly in the first set and stops out only in the second; and a requested take profit is taken
back exactly outside the first. -/
theorem pnl_regions (hA : 0 < p.requestedAmountUsd) (hN : 0 < p.netPositionShares) (hr : 0 < p.feeRate)
    (hr1 : p.feeRate ≤ 1) (htp : 0 < e.tpPct) (hsl : 0 < e.slPct) (hre : e.tpReevaluate = true) :
    MonotoneOn (pnlPct p) (Set.Icc 0 1) ∧
      (∀ x ∈ e.takeProfitSet p, ∀ y ∈ Set.Icc (0 : ℚ) 1, x ≤ y → y ∈ e.takeProfitSet p) ∧
      (∀ y ∈ e.stopLossSet p, ∀ x ∈ Set.Icc (0 : ℚ) 1, x ≤ y → x ∈ e.stopLossSet p) ∧
      Disjoint (e.takeProfitSet p) (e.stopLossSet p) ∧
      (∀ x ∈ Set.Icc (0 : ℚ) 1,
        ((e.evaluate (whileOpen p) x).2.reason = some .takeProfit ↔
          0 < p.fillPrice ∧ x ∈ e.takeProfitSet p) ∧
        ((e.evaluate (whileOpen p) x).2.reason = some .stopLoss → x ∈ e.stopLossSet p)) ∧
      ∀ x ∈ Set.Icc (0 : ℚ) 1, ∀ triggers requestedPrice now,
        e.shouldCancelClose (takingProfit p triggers requestedPrice now) x = true ↔
          x ∉ e.takeProfitSet p := by
  have hmono : MonotoneOn (pnlPct p) (Set.Icc 0 1) := fun x hx y _ hxy =>
    pnlPct_mono hA hN.le hr.le hr1 hx.1 hxy
  refine ⟨hmono, ?_, ?_, ?_, ?_, ?_⟩
  · intro x hx y hy hxy
    exact ⟨hy, hx.2.trans (hmono hx.1 hy hxy)⟩
  · intro y hy x hx hxy
    exact ⟨hx, (hmono hx hy.1 hxy).trans hy.2⟩
  · rw [Set.disjoint_left]
    intro x hprofit hloss
    have h₁ := hprofit.2
    have h₂ := hloss.2
    linarith
  · intro x hx
    have hpriced : isPriced (whileOpen p) = true ↔ 0 < p.fillPrice := by
      rw [isPriced_iff, not_or, not_le, not_le]
      exact and_iff_left hN
    constructor
    · rw [evaluate_takeProfit_iff, hpriced]
      exact ⟨fun h => ⟨h.2.1, hx, h.2.2⟩, fun h => ⟨rfl, h.1, h.2.2⟩⟩
    · intro h
      exact ⟨hx, ((evaluate_stopLoss_iff e (whileOpen p) x).mp h).2.2.2.2.1⟩
  · intro x hx triggers requestedPrice now
    have hcancel : e.shouldCancelClose (takingProfit p triggers requestedPrice now) x =
        decide (pnlPct p x < e.tpPct) := by
      unfold shouldCancelClose
      rw [if_neg (fun h => h rfl), hre]
      rfl
    rw [hcancel, decide_eq_true_iff, ← not_le]
    exact not_congr ⟨fun h => ⟨hx, h⟩, fun h => h.2⟩

/-- A filled position has a price of its own, so the guard of `evaluate` is met. -/
theorem fillPrice_pos {r : PositionRecord} (hA : 0 < r.requestedAmountUsd) (hp : price ≠ 0) (hr : 0 ≤ rate)
    (hN : 0 < (PositionTracker.entryOf r price rate).netPositionShares) : 0 < price := by
  by_contra hle
  have hneg : price < 0 := lt_of_le_of_ne (not_lt.mp hle) hp
  have hgross : r.requestedAmountUsd / price < 0 := div_neg_of_pos_of_neg hA hneg
  have hkeep : rate * (price * (1 - price)) ≤ 0 :=
    mul_nonpos_of_nonneg_of_nonpos hr (mul_nonpos_of_nonpos_of_nonneg hneg.le (by linarith))
  have hnet : r.requestedAmountUsd / price - r.requestedAmountUsd / price * rate * price * (1 - price) =
      r.requestedAmountUsd / price * (1 - rate * (price * (1 - price))) := by ring
  have hround : (PositionTracker.entryOf r price rate).netPositionShares ≤ Lib.roundTo 8 0 := by
    rw [PositionTracker.entryOf_eq r rate hp]
    refine Lib.roundTo_mono 8 ?_
    rw [hnet]
    exact mul_nonpos_of_nonpos_of_nonneg hgross.le (by linarith)
  rw [Lib.roundTo_zero] at hround
  linarith

theorem pnl_regions_trial :
    MonotoneOn (pnlPct PositionTracker.trialPosition) (Set.Icc 0 1) ∧
      (∀ x ∈ ({} : ExitEvaluator).takeProfitSet PositionTracker.trialPosition, ∀ y ∈ Set.Icc (0 : ℚ) 1,
        x ≤ y → y ∈ ({} : ExitEvaluator).takeProfitSet PositionTracker.trialPosition) ∧
      Disjoint (({} : ExitEvaluator).takeProfitSet PositionTracker.trialPosition)
        (({} : ExitEvaluator).stopLossSet PositionTracker.trialPosition) := by
  obtain ⟨hmono, hup, -, hdisjoint, -⟩ := pnl_regions (e := {}) (p := PositionTracker.trialPosition)
    (by decide +kernel) (by decide +kernel) (by decide +kernel) (by decide +kernel) (by decide +kernel)
    (by decide +kernel) rfl
  exact ⟨hmono, hup, hdisjoint⟩

/-! ### A position at the price of its fill -/

/-- The percentage is at most −3 exactly where the value is at most 97.005% of the amount. -/
theorem pnlPct_le_three (hA : 0 < p.requestedAmountUsd) (x : ℚ) :
    pnlPct p x ≤ -3 ↔
      netValue p.netPositionShares p.feeRate x ≤ 97005 / 100000 * p.requestedAmountUsd := by
  rw [pnlPct_eq hA]
  generalize netValue p.netPositionShares p.feeRate x = v
  have hround : ∀ q : ℚ, Lib.roundTo 2 q ≤ -3 ↔ q ≤ -2995 / 1000 := by
    intro q
    have heven := Lib.roundEven_le_iff (x := q * 10 ^ 2) (k := -300) (by decide)
    have hcast : Lib.roundEven (q * 10 ^ 2) ≤ -300 ↔ (Lib.roundEven (q * 10 ^ 2) : ℚ) ≤ -300 := by
      norm_cast
    unfold Lib.roundTo
    rw [div_le_iff₀ (by positivity)]
    norm_num at heven hcast ⊢
    rw [← hcast, heven]
    constructor <;> intro h <;> linarith
  rw [hround, div_mul_eq_mul_div, div_le_iff₀ hA]
  constructor <;> intro h <;> linarith

/-- A first evaluation sees no jump. -/
theorem not_jumps_first (hnew : e.lastPrices.get? p.positionId = none) (hjump : 0 ≤ e.slJumpThreshold) :
    ¬e.Jumps p x := by
  have hprev : e.lastPrices.getD p.positionId x = x := by
    rw [Lib.Dict.getD, hnew]
    rfl
  unfold Jumps
  rw [hprev, sub_self, zero_div]
  exact fun h => absurd h.2 (not_lt.mpr hjump)

/-- **Stopped out at the price of the fill.** A position just filled and evaluated at the price of its fill is
left alone exactly when the stop loss is off, its shares were rounded to 0, or more than 97.005% of the
amount is left after both fees. -/
theorem unmoved_stop_iff {t : PositionTracker} {id : PositionId} {now : Time}
    (hget : t.positions.get? id = some p)
    (ha : PositionState.openConfirmed ∈ allowedTransitions p.state) (hA : 0 < p.requestedAmountUsd)
    (hp : 0 < price) (hsl : e.slPct = 3) (htp : 0 < e.tpPct) (hjump : 0 ≤ e.slJumpThreshold)
    (hnew : e.lastPrices.get? p.positionId = none) :
    ∃ q, (t.confirmFill id price (some rate) now).result = .ok q ∧
      ((e.evaluate q price).2.reason ≠ some .stopLoss ↔
        e.slEnabled = false ∨ filledShares p.requestedAmountUsd price rate ≤ 0 ∨
          97005 / 100000 * p.requestedAmountUsd <
            netValue (filledShares p.requestedAmountUsd price rate) rate price) := by
  refine ⟨_, PositionTracker.confirmFill_returns hget ha hp.ne', ?_⟩
  generalize hq : (p.withEntry price (PositionTracker.entryOf p price rate) now).inState .openConfirmed = q
  have hid : q.positionId = p.positionId := by rw [← hq]; rfl
  have hopen : q.isOpen = true := by rw [← hq]; rfl
  have hfill : q.fillPrice = price := by rw [← hq]; rfl
  have hamount : q.requestedAmountUsd = p.requestedAmountUsd := by rw [← hq]; rfl
  have hrate : q.feeRate = rate := by
    rw [← hq, PositionTracker.entryOf_eq p rate hp.ne']
    rfl
  have hshares : q.netPositionShares = filledShares p.requestedAmountUsd price rate := by
    rw [← hq, PositionTracker.entryOf_eq p rate hp.ne']
    rfl
  have hvalue := pnlPct_le_three (p := q) (hamount ▸ hA) price
  rw [hshares, hrate, hamount] at hvalue
  rw [ne_eq, evaluate_stopLoss_iff, isPriced_iff, hfill, hshares, hsl, hvalue]
  have hjumps : ¬e.Jumps q price := not_jumps_first (hid ▸ hnew) hjump
  constructor
  · intro h
    by_contra hno
    push Not at hno
    refine h ⟨hopen, ?_, ?_, by simpa using hno.1, hno.2.2, hjumps⟩
    · exact not_or.mpr ⟨not_le.mpr hp, not_le.mpr hno.2.1⟩
    · have hloss := hvalue.mpr hno.2.2
      linarith
  · rintro h ⟨-, hpriced, -, hen, hle, -⟩
    rcases h with hoff | hnone | hleft
    · rw [hen] at hoff
      cases hoff
    · exact hpriced (.inr hnone)
    · exact absurd hle (not_le.mpr hleft)

theorem unmoved_stop_trial :
    ∃ q, (PositionTracker.trialTracker.confirmFill 0 (9 / 10) (some defaultCryptoFeeRate) 1).result = .ok q ∧
      ((({} : ExitEvaluator).evaluate q (9 / 10)).2.reason ≠ some .stopLoss ↔
        ({} : ExitEvaluator).slEnabled = false ∨ filledShares 10 (9 / 10) defaultCryptoFeeRate ≤ 0 ∨
          97005 / 100000 * 10 < netValue (filledShares 10 (9 / 10) defaultCryptoFeeRate)
            defaultCryptoFeeRate (9 / 10)) :=
  unmoved_stop_iff (p := PositionTracker.trialOrder) (by decide) (by decide)
    (by norm_num [PositionTracker.trialOrder, PositionTracker.newRecord]) (by norm_num) rfl (by norm_num)
    (by norm_num) rfl

/-- At the default rate both fees together reach the default stop-loss percentage at every price up to 0.83, and at
none from 0.84 on. -/
theorem unmoved_default {amount : ℚ} (hA : 1 / 1000 ≤ amount) :
    (51 / 100 ≤ price → price ≤ 83 / 100 →
      netValue (filledShares amount price defaultCryptoFeeRate) defaultCryptoFeeRate price ≤
        97005 / 100000 * amount) ∧
    (84 / 100 ≤ price → price ≤ 99 / 100 → 97005 / 100000 * amount <
      netValue (filledShares amount price defaultCryptoFeeRate) defaultCryptoFeeRate price) := by
  unfold defaultCryptoFeeRate
  have herr : 0 < price → price ≤ 1 → |netValue (filledShares amount price (1 / 10)) (1 / 10) price -
      amount * ((1 - 1 / 10 * price * (1 - price)) * (1 - 1 / 10 * (1 - price)))| ≤ 1 / 2 / 10 ^ 8 :=
    fun hp hp1 => abs_netValue_filledShares amount hp hp1 (by norm_num) (by norm_num)
  refine ⟨fun hlo hhi => ?_, fun hlo hhi => ?_⟩
  · have hvalue := (abs_le.mp (herr (by linarith) (by linarith))).2
    have hspread : 1411 / 10000 ≤ price * (1 - price) := by nlinarith
    have hboth : (1 - 1 / 10 * price * (1 - price)) * (1 - 1 / 10 * (1 - price)) ≤
        (1 - 1411 / 100000) * (983 / 1000) :=
      mul_le_mul (by linarith) (by linarith) (by linarith) (by norm_num)
    have hleft := mul_le_mul_of_nonneg_left hboth (show 0 ≤ amount by linarith)
    norm_num at hvalue hleft ⊢
    linarith
  · have hvalue := (abs_le.mp (herr (by linarith) (by linarith))).1
    have hspread : price * (1 - price) ≤ 1344 / 10000 := by nlinarith
    have hboth : (1 - 1344 / 100000) * (984 / 1000) ≤
        (1 - 1 / 10 * price * (1 - price)) * (1 - 1 / 10 * (1 - price)) :=
      mul_le_mul (by linarith) (by linarith) (by norm_num) (by linarith)
    have hleft := mul_le_mul_of_nonneg_left hboth (show 0 ≤ amount by linarith)
    norm_num at hvalue hleft ⊢
    linarith

/-- Ten dollars filled at 0.51 at the default rate are stopped out by an evaluation at 0.51. -/
theorem unmoved_stopped_out :
    (PositionTracker.trialTracker.confirmFill 0 (51 / 100) (some defaultCryptoFeeRate) 1).result.map
      (fun q => (({} : ExitEvaluator).evaluate q (51 / 100)).2.reason) = .ok (some .stopLoss) := by
  decide +kernel

end ExitEvaluator

end Polyfast
