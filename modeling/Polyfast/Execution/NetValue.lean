import Mathlib.Tactic.Linarith
import Mathlib.Tactic.FieldSimp
import Polyfast.Execution.PositionTracker

/-!
# What a position is worth after fees

Both fee formulas take `rate · price · (1 − price)` of the shares, the buy fee in shares and the sell fee in
USDC. `netValue` is the value after the sell fee, without roundings.

* `netValue_mono`: it grows with the price on `[0, 1]`, for every rate up to 1;
* `confirmFill_returns`, `confirmClose_returns`: the record of a fill and of a close, in closed form;
* `round_trip_no_profit`: filled and closed at one price and rate, a position never gains;
* `pnl_agree_iff`: when the live estimate and the booked PnL agree.
-/

namespace Polyfast

/-- What `shares` bring in at `price` when the fee is taken off. -/
def netValue (shares rate price : ℚ) : ℚ := shares * price - shares * rate * price * (1 - price)

section NetValue

variable {shares rate price x y : ℚ}

theorem netValue_eq (shares rate price : ℚ) :
    netValue shares rate price = shares * (price * (1 - rate * (1 - price))) := by
  unfold netValue
  ring

/-- At most the whole price is taken as a fee. -/
theorem keeps_nonneg (hr : 0 ≤ rate) (hr1 : rate ≤ 1) (hp : 0 ≤ price) (hp1 : price ≤ 1) :
    0 ≤ 1 - rate * (1 - price) ∧ 1 - rate * (1 - price) ≤ 1 := by
  have hfee : 0 ≤ rate * (1 - price) := mul_nonneg hr (sub_nonneg.mpr hp1)
  have hle : rate * (1 - price) ≤ 1 * 1 :=
    mul_le_mul hr1 (by linarith) (sub_nonneg.mpr hp1) zero_le_one
  constructor <;> linarith

theorem netValue_nonneg (hs : 0 ≤ shares) (hr : 0 ≤ rate) (hr1 : rate ≤ 1) (hp : 0 ≤ price)
    (hp1 : price ≤ 1) : 0 ≤ netValue shares rate price := by
  rw [netValue_eq]
  exact mul_nonneg hs (mul_nonneg hp (keeps_nonneg hr hr1 hp hp1).1)

theorem netValue_le_gross (hs : 0 ≤ shares) (hr : 0 ≤ rate) (hp : 0 ≤ price) (hp1 : price ≤ 1) :
    netValue shares rate price ≤ shares * price := by
  have hfee : 0 ≤ shares * rate * price * (1 - price) :=
    mul_nonneg (mul_nonneg (mul_nonneg hs hr) hp) (sub_nonneg.mpr hp1)
  unfold netValue
  linarith

/-- **The value after the fee grows with the price**: the slope is at least `1 − rate`. -/
theorem netValue_mono (hs : 0 ≤ shares) (hr : 0 ≤ rate) (hr1 : rate ≤ 1) (hx : 0 ≤ x) (hxy : x ≤ y) :
    netValue shares rate x ≤ netValue shares rate y := by
  have hslope : netValue shares rate y - netValue shares rate x =
      shares * ((y - x) * (1 - rate + rate * (x + y))) := by
    unfold netValue
    ring
  have hsum : 0 ≤ rate * (x + y) := mul_nonneg hr (by linarith)
  have hgain : 0 ≤ shares * ((y - x) * (1 - rate + rate * (x + y))) :=
    mul_nonneg hs (mul_nonneg (by linarith) (by linarith))
  linarith

/-- The shares that a fill for `amount` leaves, as recorded. -/
def filledShares (amount price rate : ℚ) : ℚ :=
  Lib.roundTo 8 (amount / price - amount / price * rate * price * (1 - price))

/-- **What a fill is worth at its own price**: the amount less both fees, but for the rounding of the shares. -/
theorem abs_netValue_filledShares (amount : ℚ) (hp : 0 < price) (hp1 : price ≤ 1) (hr : 0 ≤ rate)
    (hr1 : rate ≤ 1) :
    |netValue (filledShares amount price rate) rate price -
      amount * ((1 - rate * price * (1 - price)) * (1 - rate * (1 - price)))| ≤ 1 / 2 / 10 ^ 8 := by
  obtain ⟨hkeep, hkeep1⟩ := keeps_nonneg hr hr1 hp.le hp1
  have hfactor : |price * (1 - rate * (1 - price))| ≤ 1 := by
    rw [abs_of_nonneg (mul_nonneg hp.le hkeep)]
    exact mul_le_one₀ hp1 hkeep hkeep1
  have herr := Lib.abs_roundTo_sub_le 8 (amount / price - amount / price * rate * price * (1 - price))
  have hsplit : netValue (filledShares amount price rate) rate price -
      amount * ((1 - rate * price * (1 - price)) * (1 - rate * (1 - price))) =
      (filledShares amount price rate - (amount / price - amount / price * rate * price * (1 - price))) *
        (price * (1 - rate * (1 - price))) := by
    rw [netValue_eq]
    field_simp
  rw [hsplit, abs_mul]
  calc |filledShares amount price rate - (amount / price - amount / price * rate * price * (1 - price))| *
        |price * (1 - rate * (1 - price))|
      ≤ 1 / 2 / 10 ^ 8 * 1 := mul_le_mul herr hfactor (abs_nonneg _) (by norm_num)
    _ = 1 / 2 / 10 ^ 8 := mul_one _

end NetValue

/-! ### The records of a fill and of a close -/

namespace PositionTracker

variable {t : PositionTracker} {id : PositionId} {r : PositionRecord} {price rate : ℚ} {now : Time}

/-- The shares of a fill before rounding. -/
theorem entryOf_eq (r : PositionRecord) (rate : ℚ) (hp : price ≠ 0) :
    entryOf r price rate =
      { grossFillShares := Lib.roundTo 8 (r.requestedAmountUsd / price)
        entryFeeShares := Lib.roundTo 8 (r.requestedAmountUsd / price * rate * price * (1 - price))
        netPositionShares := filledShares r.requestedAmountUsd price rate
        feeRate := rate } := by
  simp only [entryOf, FeeCalculator.calculateEntry, if_neg hp]
  rfl

/-- A fill of a position that may be opened returns its record. -/
theorem confirmFill_returns (h : t.positions.get? id = some r)
    (ha : PositionState.openConfirmed ∈ allowedTransitions r.state) (hp : price ≠ 0) :
    (t.confirmFill id price (some rate) now).result =
      .ok ((r.withEntry price (entryOf r price rate) now).inState .openConfirmed) := by
  obtain ⟨e, -, hzero⟩ | ⟨u, hu, -, ⟨hno, -⟩ | ⟨-, heq⟩⟩ := confirmFill_outcome t id price (some rate) now
  · exact absurd (hzero r h) hp
  · obtain rfl := Option.some.inj (h.symm.trans hu)
    exact absurd ha hno
  · obtain rfl := Option.some.inj (h.symm.trans hu)
    rw [heq]
    rfl

/-- A close of a position that may be closed returns its record. -/
theorem confirmClose_returns (h : t.positions.get? id = some r) (hc : closable r.state = true) :
    (t.confirmClose id price (some rate) now).result = .ok (sold r price rate now) := by
  obtain ⟨hnone, -⟩ | ⟨u, hu, ⟨hno, -⟩ | ⟨-, heq⟩⟩ := confirmClose_outcome t id price (some rate) now
  · rw [h] at hnone
    cases hnone
  · obtain rfl := Option.some.inj (h.symm.trans hu)
    rw [hc] at hno
    cases hno
  · obtain rfl := Option.some.inj (h.symm.trans hu)
    rw [heq]
    rfl

theorem sold_netExitUsdc (r : PositionRecord) (price rate : ℚ) (now : Time) :
    (sold r price rate now).netExitUsdc = Lib.roundTo 8 (netValue r.netPositionShares rate price) := rfl

theorem sold_exitGrossUsdc (r : PositionRecord) (price rate : ℚ) (now : Time) :
    (sold r price rate now).exitGrossUsdc = Lib.roundTo 8 (r.netPositionShares * price) := rfl

theorem sold_netRealizedPnl (r : PositionRecord) (price rate : ℚ) (now : Time) :
    (sold r price rate now).netRealizedPnl = Lib.roundTo 4
      (Lib.roundTo 8 (netValue r.netPositionShares rate price) - r.requestedAmountUsd) := rfl

/-! ### A round trip at one price -/

/-- The shares after the buy fee: not negative, at most those of the fill. -/
theorem entryOf_bounds (hA : 0 < r.requestedAmountUsd) (hp : 0 < price) (hp1 : price ≤ 1) (hr : 0 ≤ rate)
    (hr1 : rate ≤ 1) :
    0 ≤ (entryOf r price rate).netPositionShares ∧
      (entryOf r price rate).netPositionShares ≤ (entryOf r price rate).grossFillShares := by
  have hgross : 0 ≤ r.requestedAmountUsd / price := (div_pos hA hp).le
  have hfee : 0 ≤ r.requestedAmountUsd / price * rate * price * (1 - price) :=
    mul_nonneg (mul_nonneg (mul_nonneg hgross hr) hp.le) (sub_nonneg.mpr hp1)
  have hnet : r.requestedAmountUsd / price - r.requestedAmountUsd / price * rate * price * (1 - price) =
      r.requestedAmountUsd / price * (1 - rate * price * (1 - price)) := by ring
  have hkeep : rate * price * (1 - price) ≤ 1 := by
    have hrp : rate * price ≤ 1 * 1 := mul_le_mul hr1 hp1 hp.le zero_le_one
    have hrest : rate * price * (1 - price) ≤ 1 * 1 :=
      mul_le_mul (by linarith) (by linarith) (sub_nonneg.mpr hp1) zero_le_one
    linarith
  rw [entryOf_eq r rate hp.ne']
  constructor
  · refine Lib.roundTo_nonneg 8 ?_
    rw [hnet]
    exact mul_nonneg hgross (by linarith)
  · exact Lib.roundTo_mono 8 (by linarith)

/-- At the price of the fill its shares bring in the amount paid at most, but for their rounding. -/
theorem netValue_entryOf_le (hA : 0 < r.requestedAmountUsd) (hp : 0 < price) (hp1 : price ≤ 1) (hr : 0 ≤ rate)
    (hr1 : rate ≤ 1) :
    netValue (entryOf r price rate).netPositionShares rate price ≤
      r.requestedAmountUsd + 1 / 2 / 10 ^ 8 := by
  have hvalue := (abs_le.mp (abs_netValue_filledShares r.requestedAmountUsd hp hp1 hr hr1)).2
  obtain ⟨hkeep, hkeep1⟩ := keeps_nonneg hr hr1 hp.le hp1
  have hfee : 0 ≤ rate * price * (1 - price) := mul_nonneg (mul_nonneg hr hp.le) (sub_nonneg.mpr hp1)
  have hboth : (1 - rate * price * (1 - price)) * (1 - rate * (1 - price)) ≤ 1 := by
    have hfirst := mul_le_mul_of_nonneg_right (sub_le_self (1 : ℚ) hfee) hkeep
    linarith
  have hle : r.requestedAmountUsd * ((1 - rate * price * (1 - price)) * (1 - rate * (1 - price))) ≤
      r.requestedAmountUsd := mul_le_of_le_one_right hA.le hboth
  rw [entryOf_eq r rate hp.ne']
  show netValue (filledShares r.requestedAmountUsd price rate) rate price ≤ _
  linarith

/-- The record still has what a fill wrote about its size. -/
structure SameSize (r q : PositionRecord) : Prop where
  shares : r.netPositionShares = q.netPositionShares
  amount : r.requestedAmountUsd = q.requestedAmountUsd

/-- **No profit from a round trip.** A fill at a price and a rate leaves at most its own shares; whenever the
position is closed at the same price and rate, the proceeds are between 0 and the gross, and the PnL is not
positive. -/
theorem round_trip_no_profit {p : PositionRecord} (hget : t.positions.get? id = some p)
    (ha : PositionState.openConfirmed ∈ allowedTransitions p.state) (hA : 0 < p.requestedAmountUsd)
    (hp : 0 < price) (hp1 : price ≤ 1) (hr : 0 ≤ rate) (hr1 : rate ≤ 1) :
    ∃ q, (t.confirmFill id price (some rate) now).result = .ok q ∧
      0 ≤ q.netPositionShares ∧ q.netPositionShares ≤ q.grossFillShares ∧
      ∀ (u : PositionTracker) (r : PositionRecord) (later : Time), u.positions.get? id = some r →
        closable r.state = true → SameSize r q →
        ∃ z, (u.confirmClose id price (some rate) later).result = .ok z ∧
          0 ≤ z.netExitUsdc ∧ z.netExitUsdc ≤ z.exitGrossUsdc ∧ z.netRealizedPnl ≤ 0 := by
  obtain ⟨hnonneg, hle⟩ := entryOf_bounds (r := p) hA hp hp1 hr hr1
  refine ⟨_, confirmFill_returns hget ha hp.ne', hnonneg, hle, ?_⟩
  intro u r later hr' hc hsize
  have hshares : r.netPositionShares = (entryOf p price rate).netPositionShares := hsize.shares
  have hamount : r.requestedAmountUsd = p.requestedAmountUsd := hsize.amount
  refine ⟨_, confirmClose_returns hr' hc, ?_, ?_, ?_⟩
  · rw [sold_netExitUsdc, hshares]
    exact Lib.roundTo_nonneg 8 (netValue_nonneg hnonneg hr hr1 hp.le hp1)
  · rw [sold_netExitUsdc, sold_exitGrossUsdc, hshares]
    exact Lib.roundTo_mono 8 (netValue_le_gross hnonneg hr hp.le hp1)
  · -- two roundings at eight decimals stay below half a unit of the fourth
    rw [sold_netRealizedPnl, hshares, hamount]
    have hvalue := netValue_entryOf_le (r := p) hA hp hp1 hr hr1
    have herr := abs_le.mp (Lib.abs_roundTo_sub_le 8
      (netValue (entryOf p price rate).netPositionShares rate price))
    refine Lib.roundTo_le_zero_of_lt ?_
    have hup := herr.2
    norm_num at hup hvalue ⊢
    linarith

/-- An order of ten dollars, sent and waiting for its fill. -/
def trialOrder : PositionRecord := newRecord 0 "BTC" .up "event" "token" 10 0

/-- The tracker with the order. -/
def trialTracker : PositionTracker := ({} : PositionTracker).createPending trialOrder

/-- The position of the order, filled at 0.50 at the default rate. -/
def trialPosition : PositionRecord :=
  (trialOrder.withEntry (1 / 2) (entryOf trialOrder (1 / 2) defaultCryptoFeeRate) 1).inState .openConfirmed

theorem round_trip_no_profit_trial :
    ∃ q, (trialTracker.confirmFill 0 (1 / 2) (some defaultCryptoFeeRate) 1).result = .ok q ∧
      0 ≤ q.netPositionShares ∧ q.netPositionShares ≤ q.grossFillShares ∧
      ∀ (u : PositionTracker) (r : PositionRecord) (later : Time), u.positions.get? 0 = some r →
        closable r.state = true → SameSize r q →
        ∃ z, (u.confirmClose 0 (1 / 2) (some defaultCryptoFeeRate) later).result = .ok z ∧
          0 ≤ z.netExitUsdc ∧ z.netExitUsdc ≤ z.exitGrossUsdc ∧ z.netRealizedPnl ≤ 0 :=
  round_trip_no_profit (p := trialOrder) (by decide) (by decide) (by norm_num [trialOrder, newRecord])
    (by norm_num) (by norm_num) (by norm_num [defaultCryptoFeeRate]) (by norm_num [defaultCryptoFeeRate])

/-! ### The live estimate and the booked PnL -/

/-- The live estimate of a position at a price and a rate, and the PnL booked whenever it is closed at them, are
at most 0.0001 apart. -/
def PnlAgrees (p : PositionRecord) (price rate : ℚ) : Prop :=
  ∀ (u : PositionTracker) (id : PositionId) (r : PositionRecord) (now : Time),
    u.positions.get? id = some r → closable r.state = true → SameSize r p →
    ∃ z, (u.confirmClose id price (some rate) now).result = .ok z ∧
      |(p.calculateUnrealizedPnl price (some rate)).netUnrealizedPnlEstimate - z.netRealizedPnl| ≤
        1 / 10 ^ 4

/-- The rate of the estimate: 0 stands for the rate of the entry. -/
def estimateRate (p : PositionRecord) (rate : ℚ) : ℚ := if rate = 0 then p.feeRate else rate

theorem estimate_eq (p : PositionRecord) (price rate : ℚ) :
    (p.calculateUnrealizedPnl price (some rate)).netUnrealizedPnlEstimate = Lib.roundTo 4
      (netValue p.netPositionShares (estimateRate p rate) price - p.requestedAmountUsd) := rfl

theorem pnlAgrees_iff {p : PositionRecord} : PnlAgrees p price rate ↔
    |Lib.roundTo 4 (netValue p.netPositionShares (estimateRate p rate) price - p.requestedAmountUsd) -
      Lib.roundTo 4 (Lib.roundTo 8 (netValue p.netPositionShares rate price) - p.requestedAmountUsd)| ≤
        1 / 10 ^ 4 := by
  constructor
  · intro h
    have hget : (({} : PositionTracker).write (p.inState .closePending)).positions.get? p.positionId =
        some (p.inState .closePending) := Lib.Table.get?_put_self _ (p.inState .closePending)
    obtain ⟨z, hz, hle⟩ := h _ _ _ 0 hget rfl ⟨rfl, rfl⟩
    rw [confirmClose_returns hget rfl] at hz
    obtain rfl := Except.ok.inj hz
    rw [estimate_eq, sold_netRealizedPnl] at hle
    exact hle
  · intro h u id r now hget hc hsize
    refine ⟨_, confirmClose_returns hget hc, ?_⟩
    rw [estimate_eq, sold_netRealizedPnl, hsize.shares, hsize.amount]
    exact h

/-- What the estimate takes off and the close does not, if the close is at rate 0. -/
def estimatedFee (p : PositionRecord) (price : ℚ) : ℚ :=
  p.netPositionShares * p.feeRate * price * (1 - price)

/-- Before rounding, estimate and booking are a fee and half a unit of the eighth decimal apart. -/
theorem unrounded_apart (p : PositionRecord) (price rate : ℚ) :
    |netValue p.netPositionShares (estimateRate p rate) price - p.requestedAmountUsd -
      (Lib.roundTo 8 (netValue p.netPositionShares rate price) - p.requestedAmountUsd) +
      (if rate = 0 then estimatedFee p price else 0)| ≤ 1 / 2 / 10 ^ 8 := by
  have herr := Lib.abs_roundTo_sub_le 8 (netValue p.netPositionShares rate price)
  rw [abs_sub_comm] at herr
  have hsame : netValue p.netPositionShares (estimateRate p rate) price - p.requestedAmountUsd -
      (Lib.roundTo 8 (netValue p.netPositionShares rate price) - p.requestedAmountUsd) +
      (if rate = 0 then estimatedFee p price else 0) =
      netValue p.netPositionShares rate price -
        Lib.roundTo 8 (netValue p.netPositionShares rate price) := by
    unfold estimateRate
    split_ifs with h
    · rw [h]
      unfold netValue estimatedFee
      ring
    · ring
  rw [hsame]
  exact herr

/-- Where the same rate is used, or the fee is lost in the rounding, they agree. -/
theorem pnlAgrees_of {p : PositionRecord} (h : rate ≠ 0 ∨ |estimatedFee p price| ≤ 9 / 100000) :
    PnlAgrees p price rate := by
  have hapart := abs_le.mp (unrounded_apart p price rate)
  rw [pnlAgrees_iff]
  refine Lib.abs_roundTo_sub_roundTo_le ?_
  have hfee : |if rate = 0 then estimatedFee p price else 0| ≤ 9 / 100000 := by
    split_ifs with hzero
    · exact h.resolve_left fun hne => hne hzero
    · norm_num
  have hbound := abs_le.mp hfee
  rw [abs_lt]
  norm_num at hapart hbound ⊢
  constructor <;> linarith

/-- At rate 0 a fee that shows sets them apart. -/
theorem not_pnlAgrees {p : PositionRecord} (h : 21 / 100000 ≤ |estimatedFee p price|) :
    ¬PnlAgrees p price 0 := by
  have hapart := abs_le.mp (unrounded_apart p price 0)
  rw [if_pos rfl] at hapart
  rw [pnlAgrees_iff, not_le]
  have hest := abs_le.mp (Lib.abs_roundTo_sub_le 4
    (netValue p.netPositionShares (estimateRate p 0) price - p.requestedAmountUsd))
  have hbooked := abs_le.mp (Lib.abs_roundTo_sub_le 4
    (Lib.roundTo 8 (netValue p.netPositionShares 0 price) - p.requestedAmountUsd))
  rw [lt_abs]
  rcases le_abs.mp h with h | h
  · right
    norm_num at hapart hest hbooked ⊢
    linarith
  · left
    norm_num at hapart hest hbooked ⊢
    linarith

/-- **Estimate and booking.** Over all open positions with a given rate and all prices they agree exactly when the
close is at a rate other than 0, or the position's own rate is 0. At rate 0 a single position is set apart by
the fee at its own rate, as soon as that fee shows. -/
theorem pnl_agree_iff (rate entryRate : ℚ) :
    ((∀ p : PositionRecord, p.isOpen = true → p.feeRate = entryRate → ∀ price, 0 ≤ price → price ≤ 1 →
        PnlAgrees p price rate) ↔ rate ≠ 0 ∨ entryRate = 0) ∧
      ∀ p : PositionRecord, p.isOpen = true → p.feeRate = entryRate → ∀ price, 0 ≤ price → price ≤ 1 →
        (rate ≠ 0 ∨ |p.netPositionShares * entryRate * price * (1 - price)| ≤ 9 / 100000 →
          PnlAgrees p price rate) ∧
        (rate = 0 → 21 / 100000 ≤ |p.netPositionShares * entryRate * price * (1 - price)| →
          ¬PnlAgrees p price rate) := by
  refine ⟨⟨fun hall => ?_, fun h p _ hrate price _ _ => ?_⟩, fun p _ hrate price _ _ => ⟨fun h => ?_, ?_⟩⟩
  · by_contra hno
    rw [not_or, not_not] at hno
    obtain ⟨rfl, hne⟩ := hno
    -- so many shares that the fee at 0.50 is a quarter of a dollar at least
    refine not_pnlAgrees (p := { trialPosition with
      netPositionShares := entryRate⁻¹, feeRate := entryRate }) ?_
      (hall _ rfl rfl (1 / 2) (by norm_num) (by norm_num))
    have hfee : estimatedFee { trialPosition with
        netPositionShares := entryRate⁻¹, feeRate := entryRate } (1 / 2) = 1 / 4 := by
      unfold estimatedFee
      rw [inv_mul_cancel₀ hne]
      norm_num
    rw [hfee]
    norm_num
  · refine pnlAgrees_of (h.imp id fun hzero => ?_)
    unfold estimatedFee
    rw [hrate, hzero]
    norm_num
  · refine pnlAgrees_of (h.imp id fun hfee => ?_)
    unfold estimatedFee
    rw [hrate]
    exact hfee
  · rintro rfl hfee
    refine not_pnlAgrees ?_
    unfold estimatedFee
    rw [hrate]
    exact hfee

/-- Ten dollars filled at 0.50 at the default rate and closed at 0.50 at rate 0: the estimate says a loss of
0.7375, the close books one of 0.25. -/
theorem zero_rate_disagrees :
    (trialTracker.confirmFill 0 (1 / 2) (some defaultCryptoFeeRate) 1).state.positions.get? 0 =
        some trialPosition ∧
      trialPosition.isOpen = true ∧
      (trialPosition.calculateUnrealizedPnl (1 / 2) (some 0)).netUnrealizedPnlEstimate = -7375 / 10000 ∧
      (((trialTracker.confirmFill 0 (1 / 2) (some defaultCryptoFeeRate) 1).state.requestClose 0
          .manualClose [] 0 2).state.confirmClose 0 (1 / 2) (some 0) 3).result.map
        PositionRecord.netRealizedPnl = .ok (-1 / 4) := by
  refine ⟨?_, ?_, ?_, ?_⟩
  all_goals decide +kernel

end PositionTracker

end Polyfast
