import Polyfast.Lib.Table
import Polyfast.Execution.PositionRecord

/-!
# Coin settings

The trade settings of a coin and the store that holds them. A coin takes part in trading when it is
enabled and every field a rule needs is set.
-/

namespace Polyfast

inductive SideMode
  | dominantOnly
  | upOnly
  | downOnly
  deriving DecidableEq

structure CoinSettings where
  coin : Asset
  coinEnabled : Bool := false
  sideMode : SideMode := .dominantOnly
  deltaThreshold : ℚ := 0
  priceMin : ℤ := 0
  priceMax : ℤ := 0
  spreadMax : ℚ := 0
  timeMin : ℤ := 0
  timeMax : ℤ := 0
  eventMax : ℤ := 1
  orderAmount : ℚ := 0
  reactivateOnReturn : Bool := true
  deriving DecidableEq

namespace CoinSettings

variable (s : CoinSettings)

def isConfigured : Bool :=
  decide (s.deltaThreshold > 0 ∧ s.priceMin > 0 ∧ s.priceMax > 0 ∧ s.priceMin < s.priceMax ∧
    s.timeMin > 0 ∧ s.timeMax > 0 ∧ s.timeMin < s.timeMax ∧ s.orderAmount > 0)

def isTradeEligible : Bool := s.coinEnabled && s.isConfigured

variable {s} in
/-- The rules on time, price and delta are on for an eligible coin. -/
theorem rules_of_eligible (h : s.isTradeEligible = true) :
    0 < s.deltaThreshold ∧ 0 < s.priceMin ∧ 0 < s.timeMin := by
  simp only [isTradeEligible, isConfigured, Bool.and_eq_true, decide_eq_true_eq] at h
  obtain ⟨-, hdelta, hmin, -, -, htime, -⟩ := h
  exact ⟨hdelta, hmin, htime⟩

/-- The key the store keeps the settings under. -/
def storeKey : Asset := s.coin.toUpper

end CoinSettings

structure SettingsStore where
  settings : Lib.Table CoinSettings.storeKey := .empty

def SettingsStore.getEligibleCoins (s : SettingsStore) : List CoinSettings :=
  s.settings.records.filter CoinSettings.isTradeEligible

end Polyfast
