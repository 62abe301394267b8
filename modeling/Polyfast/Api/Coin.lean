import Polyfast.Strategy.Settings

/-!
# Coin settings over the API

`POST /coin/{symbol}/toggle` flips a coin on or off, `POST /coin/{symbol}/settings` saves its rule parameters.
Both change the settings object that the store holds, which is the one the evaluation loop has been given.

* `SettingsStore.toggleCoin`, `updateSettings`: what the store does;
* `coinToggle`, `coinSettingsSave`: the endpoints with their checks;
* `checkMissingFields_eq_nil_iff`: a coin is configured exactly when no field is reported as missing;
* `coinSettingsSave_refused`: a refused save leaves the store as it was;
* `toggleCoin_toggles`, `get?_toggleCoin`: a toggle flips its coin and leaves the others alone.
-/

namespace Polyfast

/-- The fields that `update_settings` is given; what is not set is not changed. -/
structure CoinFields where
  sideMode : Option SideMode := none
  deltaThreshold : Option ℚ := none
  priceMin : Option ℤ := none
  priceMax : Option ℤ := none
  spreadMax : Option ℚ := none
  timeMin : Option ℤ := none
  timeMax : Option ℤ := none
  eventMax : Option ℤ := none
  orderAmount : Option ℚ := none
  reactivateOnReturn : Option Bool := none

/-- The settings with the fields written. -/
def CoinFields.write (fields : CoinFields) (s : CoinSettings) : CoinSettings :=
  { s with
    sideMode := fields.sideMode.getD s.sideMode
    deltaThreshold := fields.deltaThreshold.getD s.deltaThreshold
    priceMin := fields.priceMin.getD s.priceMin
    priceMax := fields.priceMax.getD s.priceMax
    spreadMax := fields.spreadMax.getD s.spreadMax
    timeMin := fields.timeMin.getD s.timeMin
    timeMax := fields.timeMax.getD s.timeMax
    eventMax := fields.eventMax.getD s.eventMax
    orderAmount := fields.orderAmount.getD s.orderAmount
    reactivateOnReturn := fields.reactivateOnReturn.getD s.reactivateOnReturn }

/-- The coin switched on or off. -/
def CoinSettings.toggled (s : CoinSettings) : CoinSettings := { s with coinEnabled := !s.coinEnabled }

namespace SettingsStore

variable (st : SettingsStore)

def get (coin : Asset) : Option CoinSettings := st.settings.get? coin.toUpper

def set (s : CoinSettings) : SettingsStore := { st with settings := st.settings.put s }

/-- `toggle_coin`; a coin without settings is not there to be toggled. -/
def toggleCoin (symbol : Asset) : SettingsStore × Option CoinSettings :=
  match st.get symbol with
  | none => (st, none)
  | some s => (st.set s.toggled, some s.toggled)

/-- `update_settings`; a new coin starts disabled. -/
def updateSettings (symbol : Asset) (fields : CoinFields) : SettingsStore × CoinSettings :=
  let sym := symbol.toUpper
  let existing := (st.get sym).getD { coin := sym }
  let s := fields.write existing
  (st.set s, s)

end SettingsStore

/-! ### Requests -/

def SideMode.value : SideMode → String
  | .dominantOnly => "dominant_only"
  | .upOnly => "up_only"
  | .downOnly => "down_only"

def SideMode.ofValue? (v : String) : Option SideMode :=
  [SideMode.dominantOnly, .upOnly, .downOnly].find? (fun m => m.value = v)

/-- The body of a save; what is not set is not changed. -/
structure CoinSettingsRequest where
  sideMode : Option String := none
  deltaThreshold : Option ℚ := none
  priceMin : Option ℤ := none
  priceMax : Option ℤ := none
  spreadMax : Option ℚ := none
  timeMin : Option ℤ := none
  timeMax : Option ℤ := none
  eventMax : Option ℤ := none
  orderAmount : Option ℚ := none
  reactivateOnReturn : Option Bool := none

/-- `validate_side_mode`. -/
def validateSideMode (v : Option String) : Option String :=
  match v with
  | none => none
  | some v =>
    if (SideMode.ofValue? v).isSome then none
    else some s!"Geçersiz side_mode: {v}. Geçerli: ['dominant_only', 'up_only', 'down_only']"

/-- `validate_positive_float` and `validate_non_negative_int`. -/
def validateNonNegative (negative : Option Bool) : Option String :=
  if negative = some true then some "Negatif değer kabul edilmez" else none

/-- `validate_order_amount`. -/
def validateOrderAmount (v : Option ℚ) : Option String :=
  match v with
  | none => none
  | some v =>
    if v < 0 then some "Negatif değer kabul edilmez"
    else if 0 < v ∧ v < 1 then some "İşlem tutarı en az $1.00 olmalı"
    else none

namespace CoinSettingsRequest

variable (body : CoinSettingsRequest)

/-- The fields that are refused, with the reasons, in the order of the model's fields. -/
def errors : List (String × String) :=
  [("side_mode", validateSideMode body.sideMode),
    ("delta_threshold", validateNonNegative (body.deltaThreshold.map (decide <| · < 0))),
    ("price_min", validateNonNegative (body.priceMin.map (decide <| · < 0))),
    ("price_max", validateNonNegative (body.priceMax.map (decide <| · < 0))),
    ("spread_max", validateNonNegative (body.spreadMax.map (decide <| · < 0))),
    ("time_min", validateNonNegative (body.timeMin.map (decide <| · < 0))),
    ("time_max", validateNonNegative (body.timeMax.map (decide <| · < 0))),
    ("event_max", validateNonNegative (body.eventMax.map (decide <| · < 0))),
    ("order_amount", validateOrderAmount body.orderAmount)].filterMap (fun (field, reason) =>
      reason.map (field, ·))

/-- The fields as the store takes them. -/
def fields : CoinFields where
  sideMode := body.sideMode.bind SideMode.ofValue?
  deltaThreshold := body.deltaThreshold
  priceMin := body.priceMin
  priceMax := body.priceMax
  spreadMax := body.spreadMax
  timeMin := body.timeMin
  timeMax := body.timeMax
  eventMax := body.eventMax
  orderAmount := body.orderAmount
  reactivateOnReturn := body.reactivateOnReturn

end CoinSettingsRequest

inductive CoinApiError
  /-- 422 by the request model. -/
  | invalid (errors : List (String × String))
  | http (status : ℕ) (detail : String)

structure CoinToggleResponse where
  success : Bool
  symbol : String
  enabled : Bool
  message : String

structure CoinSettingsResponse where
  success : Bool
  symbol : String
  configured : Bool
  message : String
  missingFields : List String := []

/-- `_check_missing_fields`. -/
def checkMissingFields (s : CoinSettings) : List String :=
  [("delta_threshold", decide (s.deltaThreshold ≤ 0)),
    ("price_min", decide (s.priceMin ≤ 0)),
    ("price_max", decide (s.priceMax ≤ 0)),
    ("price_min < price_max", decide (s.priceMin ≥ s.priceMax ∧ s.priceMin > 0)),
    ("time_min", decide (s.timeMin ≤ 0)),
    ("time_max", decide (s.timeMax ≤ 0)),
    ("time_min < time_max", decide (s.timeMin ≥ s.timeMax ∧ s.timeMin > 0)),
    ("order_amount", decide (s.orderAmount ≤ 0))].filterMap (fun (field, missing) =>
      if missing then some field else none)

/-- `POST /coin/{symbol}/toggle`. -/
def coinToggle (st : SettingsStore) (symbol : String) : SettingsStore × Except CoinApiError CoinToggleResponse :=
  let symbolUpper := symbol.toUpper
  match st.toggleCoin symbolUpper with
  | (st, none) => (st, .error (.http 404 s!"Coin ayarı bulunamadı: {symbolUpper}"))
  | (st, some s) =>
    let action := if s.coinEnabled then "etkinleştirildi" else "devre dışı bırakıldı"
    (st, .ok { success := true, symbol := symbolUpper, enabled := s.coinEnabled
               message := s!"{symbolUpper} {action}" })

/-- `POST /coin/{symbol}/settings`. -/
def coinSettingsSave (st : SettingsStore) (symbol : String) (body : CoinSettingsRequest) :
    SettingsStore × Except CoinApiError CoinSettingsResponse :=
  if body.errors ≠ [] then (st, .error (.invalid body.errors))
  else
    let symbolUpper := symbol.toUpper
    let existing := st.get symbolUpper
    let pMin := body.priceMin.getD (existing.elim 0 (·.priceMin))
    let pMax := body.priceMax.getD (existing.elim 0 (·.priceMax))
    if pMin > 0 ∧ pMax > 0 ∧ pMin ≥ pMax then
      (st, .error (.http 422 "price_min, price_max'tan küçük olmalı"))
    else
      let tMin := body.timeMin.getD (existing.elim 0 (·.timeMin))
      let tMax := body.timeMax.getD (existing.elim 0 (·.timeMax))
      if tMin > 0 ∧ tMax > 0 ∧ tMin ≥ tMax then
        (st, .error (.http 422 "time_min, time_max'tan küçük olmalı"))
      else
        let (st, result) := st.updateSettings symbolUpper body.fields
        let missing := checkMissingFields result
        let msg := s!"{symbolUpper} ayarları kaydedildi"
        (st, .ok { success := true, symbol := symbolUpper, configured := result.isConfigured
                   message := if result.isConfigured then msg
                     else s!"{msg} — {missing.length} eksik alan var"
                   missingFields := missing })

variable {st : SettingsStore} {symbol : String} {body : CoinSettingsRequest} {k : Asset}

theorem checkMissingFields_eq_nil_iff (s : CoinSettings) : checkMissingFields s = [] ↔ s.isConfigured = true := by
  simp only [checkMissingFields, CoinSettings.isConfigured, List.filterMap_eq_nil_iff, List.forall_mem_cons,
    decide_eq_true_eq]
  simp only [ite_eq_right_iff, reduceCtorEq, imp_false, not_le, not_and, List.not_mem_nil,
    IsEmpty.forall_iff, implies_true, and_true]
  constructor
  · rintro ⟨hdelta, hmin, hmax, hprice, htmin, htmax, htime, horder⟩
    exact ⟨hdelta, hmin, hmax, by omega, htmin, htmax, by omega, horder⟩
  · rintro ⟨hdelta, hmin, hmax, hprice, htmin, htmax, htime, horder⟩
    exact ⟨hdelta, hmin, hmax, by omega, htmin, htmax, by omega, horder⟩

/-- **A refused save changes nothing.** -/
theorem coinSettingsSave_refused {e : CoinApiError} (h : (coinSettingsSave st symbol body).2 = .error e) :
    (coinSettingsSave st symbol body).1 = st := by
  unfold coinSettingsSave at h ⊢
  dsimp only at h ⊢
  split_ifs at h ⊢ with herrors hprice htime
  · rfl
  · rfl
  · rfl

theorem toggleCoin_of_get {s : CoinSettings} (hs : st.get symbol = some s) :
    st.toggleCoin symbol = (st.set s.toggled, some s.toggled) := by
  simp only [SettingsStore.toggleCoin, hs]

/-- What the toggle does to its coin. -/
theorem toggleCoin_toggles {s : CoinSettings} (hs : st.get symbol = some s) :
    (st.toggleCoin symbol).1.get symbol = some s.toggled := by
  have hkey : s.toggled.storeKey = symbol.toUpper := (Lib.Table.key_of_get? hs : s.storeKey = symbol.toUpper)
  rw [toggleCoin_of_get hs, SettingsStore.get, ← hkey]
  exact Lib.Table.get?_put_self st.settings s.toggled

/-- The toggle of a coin leaves the others alone. -/
theorem get?_toggleCoin (hk : symbol.toUpper ≠ k) :
    (st.toggleCoin symbol).1.settings.get? k = st.settings.get? k := by
  cases hs : st.get symbol with
  | none => simp only [SettingsStore.toggleCoin, hs]
  | some s =>
    have hkey : s.toggled.storeKey = symbol.toUpper := (Lib.Table.key_of_get? hs : s.storeKey = symbol.toUpper)
    rw [toggleCoin_of_get hs]
    exact Lib.Table.get?_put_ne st.settings fun heq => hk (hkey.symm.trans heq)

end Polyfast
