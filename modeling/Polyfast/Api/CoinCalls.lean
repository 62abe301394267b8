import Polyfast.Api.Coin
import Polyfast.Lib.Run
import Polyfast.Lib.Text

/-!
# Coin settings under any calls

The two endpoints that change coin settings, called in any order. A save may send any of the fields, and its
check of a pair of bounds takes from the store what was not sent, where 0 stands for "not set".

* `CoinCall`, `coinStep`: the calls, as steps of the store;
* `SettingsStore.Ordered`: bounds that are both set are in order;
* `coinSettingsSave_ok`: what an accepted save has checked, and what it answers;
* `coin_settings_coherent`: what holds after every call, and of every answer.
-/

namespace Polyfast

/-- Bounds that are both set are in order. -/
def CoinSettings.Ordered (s : CoinSettings) : Prop :=
  (0 < s.priceMin → 0 < s.priceMax → s.priceMin < s.priceMax) ∧
    (0 < s.timeMin → 0 < s.timeMax → s.timeMin < s.timeMax)

def SettingsStore.Ordered (st : SettingsStore) : Prop := ∀ k s, st.settings.get? k = some s → s.Ordered

/-- Whether the coin kept under a key is enabled; a coin that is not there is not. -/
def SettingsStore.enabled (st : SettingsStore) (k : Asset) : Bool := (st.settings.get? k).elim false (·.coinEnabled)

/-- A call of one of the endpoints that change coin settings. -/
inductive CoinCall
  | save (symbol : String) (body : CoinSettingsRequest)
  | toggle (symbol : String)

inductive CoinAnswer
  | saved (response : CoinSettingsResponse)
  | toggled (response : CoinToggleResponse)

/-- The store after a call, and the answer. -/
def CoinCall.serve (st : SettingsStore) : CoinCall → SettingsStore × Except CoinApiError CoinAnswer
  | .save symbol body =>
    let (st, answer) := coinSettingsSave st symbol body
    (st, answer.map .saved)
  | .toggle symbol =>
    let (st, answer) := coinToggle st symbol
    (st, answer.map .toggled)

def coinStep (st : SettingsStore) (c : CoinCall) (st' : SettingsStore) : Prop := st' = (c.serve st).1

variable {st st' : SettingsStore} {symbol : String} {body : CoinSettingsRequest} {k : Asset}

/-! ### One save -/

/-- The settings that a save works on. -/
def SettingsStore.held (st : SettingsStore) (symbol : String) : CoinSettings :=
  (st.settings.get? symbol.toUpper).getD { coin := symbol.toUpper }

theorem get_toUpper (st : SettingsStore) (symbol : String) :
    st.get symbol.toUpper = st.settings.get? symbol.toUpper := by
  rw [SettingsStore.get, Lib.toUpper_toUpper]

theorem storeKey_write (fields : CoinFields) (s : CoinSettings) : (fields.write s).storeKey = s.storeKey := rfl

theorem storeKey_held (st : SettingsStore) (symbol : String) : (st.held symbol).storeKey = symbol.toUpper := by
  unfold SettingsStore.held
  cases hs : st.settings.get? symbol.toUpper with
  | none => exact Lib.toUpper_toUpper symbol
  | some s => exact Lib.Table.key_of_get? hs

theorem updateSettings_toUpper (fields : CoinFields) :
    st.updateSettings symbol.toUpper fields =
      (st.set (fields.write (st.held symbol)), fields.write (st.held symbol)) := by
  simp only [SettingsStore.updateSettings, SettingsStore.held, get_toUpper, Lib.toUpper_toUpper]

/-- A value of the settings at hand, as the checks read it: 0 where the coin is new. -/
theorem elim_held (f : CoinSettings → ℤ) (hf : f { coin := symbol.toUpper } = 0) :
    (st.settings.get? symbol.toUpper).elim 0 f = f (st.held symbol) := by
  unfold SettingsStore.held
  cases st.settings.get? symbol.toUpper with
  | none => exact hf.symm
  | some s => rfl

/-- The two checks of a save, for the settings that it would store. -/
theorem ordered_of_checks {s : CoinSettings} (hprice : ¬(s.priceMin > 0 ∧ s.priceMax > 0 ∧ s.priceMin ≥ s.priceMax))
    (htime : ¬(s.timeMin > 0 ∧ s.timeMax > 0 ∧ s.timeMin ≥ s.timeMax)) : s.Ordered := by
  refine ⟨fun hmin hmax => ?_, fun hmin hmax => ?_⟩
  · exact not_le.mp fun hle => hprice ⟨hmin, hmax, hle⟩
  · exact not_le.mp fun hle => htime ⟨hmin, hmax, hle⟩

/-- What an accepted save has checked, what it stores and what it answers. -/
theorem coinSettingsSave_ok {response : CoinSettingsResponse}
    (h : (coinSettingsSave st symbol body).2 = .ok response) :
    (body.fields.write (st.held symbol)).Ordered ∧
      (coinSettingsSave st symbol body).1 = st.set (body.fields.write (st.held symbol)) ∧
      response.configured = (body.fields.write (st.held symbol)).isConfigured ∧
      response.missingFields = checkMissingFields (body.fields.write (st.held symbol)) := by
  unfold coinSettingsSave at h ⊢
  dsimp only at h ⊢
  simp only [get_toUpper, elim_held CoinSettings.priceMin rfl, elim_held CoinSettings.priceMax rfl,
    elim_held CoinSettings.timeMin rfl, elim_held CoinSettings.timeMax rfl, updateSettings_toUpper] at h ⊢
  by_cases herrors : body.errors = []
  · rw [if_neg (not_not.mpr herrors)] at h ⊢
    split_ifs at h ⊢ with hprice htime
    all_goals
      obtain rfl := Except.ok.inj h
      exact ⟨ordered_of_checks hprice htime, rfl, rfl, rfl⟩
  · rw [if_pos herrors] at h
    cases h

theorem enabled_set {s : CoinSettings} (h : s.coinEnabled = st.enabled s.storeKey) (k : Asset) :
    (st.set s).enabled k = st.enabled k := by
  unfold SettingsStore.enabled SettingsStore.set
  rw [Lib.Table.get?_put]
  split_ifs with hk
  · subst hk
    exact h
  · rfl

theorem enabled_held (st : SettingsStore) (symbol : String) :
    (st.held symbol).coinEnabled = st.enabled symbol.toUpper := by
  unfold SettingsStore.held SettingsStore.enabled
  cases st.settings.get? symbol.toUpper <;> rfl

/-- **A save leaves every coin enabled or disabled as it was.** -/
theorem enabled_coinSettingsSave (st : SettingsStore) (symbol : String) (body : CoinSettingsRequest) (k : Asset) :
    (coinSettingsSave st symbol body).1.enabled k = st.enabled k := by
  cases h : (coinSettingsSave st symbol body).2 with
  | error e => rw [coinSettingsSave_refused h]
  | ok response =>
    rw [(coinSettingsSave_ok h).2.1]
    refine enabled_set ?_ k
    rw [storeKey_write, storeKey_held]
    exact enabled_held st symbol

/-! ### Any calls -/

theorem SettingsStore.Ordered.set (h : st.Ordered) {s : CoinSettings} (hs : s.Ordered) : (st.set s).Ordered := by
  intro k u hu
  unfold SettingsStore.set at hu
  rw [Lib.Table.get?_put] at hu
  split_ifs at hu with hk
  · obtain rfl := Option.some.inj hu
    exact hs
  · exact h k u hu

theorem coinToggle_store (st : SettingsStore) (symbol : String) :
    (coinToggle st symbol).1 = (st.toggleCoin symbol.toUpper).1 := by
  unfold coinToggle
  dsimp only
  split <;> simp_all only

/-- **One call keeps the bounds in order.** -/
theorem ordered_coinStep {c : CoinCall} (h : st.Ordered) (hst : coinStep st c st') : st'.Ordered := by
  obtain rfl := hst
  cases c with
  | save symbol body =>
    change (coinSettingsSave st symbol body).1.Ordered
    cases hans : (coinSettingsSave st symbol body).2 with
    | error e =>
      rw [coinSettingsSave_refused hans]
      exact h
    | ok response =>
      obtain ⟨hordered, hset, -⟩ := coinSettingsSave_ok hans
      rw [hset]
      exact h.set hordered
  | toggle symbol =>
    change (coinToggle st symbol).1.Ordered
    rw [coinToggle_store]
    cases hs : st.get symbol.toUpper with
    | none =>
      simp only [SettingsStore.toggleCoin, hs]
      exact h
    | some s =>
      rw [toggleCoin_of_get hs]
      exact h.set (h _ s hs)

/-- Only a toggle of the coin itself changes whether a coin is enabled. -/
theorem enabled_coinStep {c : CoinCall} (hst : coinStep st c st') (hne : st'.enabled k ≠ st.enabled k) :
    ∃ symbol, c = .toggle symbol ∧ symbol.toUpper = k := by
  obtain rfl := hst
  cases c with
  | save symbol body => exact absurd (enabled_coinSettingsSave st symbol body k) hne
  | toggle symbol =>
    refine ⟨symbol, rfl, ?_⟩
    by_contra hk
    refine hne ?_
    change (coinToggle st symbol).1.enabled k = st.enabled k
    rw [coinToggle_store]
    unfold SettingsStore.enabled
    rw [get?_toggleCoin]
    rwa [Lib.toUpper_toUpper]

theorem coinToggle_refused {e : CoinApiError} (h : (coinToggle st symbol).2 = .error e) :
    (coinToggle st symbol).1 = st := by
  cases hs : st.get symbol.toUpper with
  | none => simp only [coinToggle, SettingsStore.toggleCoin, hs]
  | some s =>
    simp only [coinToggle, toggleCoin_of_get hs] at h
    cases h

/-- A call that is answered with an error changes nothing. -/
theorem coinStep_refused {c : CoinCall} {e : CoinApiError} (hst : coinStep st c st')
    (h : (c.serve st).2 = .error e) : st' = st := by
  obtain rfl := hst
  cases c with
  | save symbol body =>
    change (coinSettingsSave st symbol body).2.map CoinAnswer.saved = .error e at h
    cases hans : (coinSettingsSave st symbol body).2 with
    | error e' => exact coinSettingsSave_refused hans
    | ok response =>
      rw [hans] at h
      cases h
  | toggle symbol =>
    change (coinToggle st symbol).2.map CoinAnswer.toggled = .error e at h
    cases hans : (coinToggle st symbol).2 with
    | error e' => exact coinToggle_refused hans
    | ok response =>
      rw [hans] at h
      cases h

/-- **The settings stay coherent.** From an empty store, after any calls: bounds that are both set are in order;
only a toggle of the coin changed whether a coin is enabled; a call answered with an error changed nothing; and a
save that was answered reports no missing field exactly if it reports the coin as configured, which is what the
stored settings say. -/
theorem coin_settings_coherent {tr : List (Lib.Taken SettingsStore CoinCall)} (h : Lib.Run coinStep {} tr st) :
    st.Ordered ∧ ∀ x ∈ tr, x.post.Ordered ∧
      (∀ k, x.post.enabled k ≠ x.pre.enabled k → ∃ symbol, x.label = .toggle symbol ∧ symbol.toUpper = k) ∧
      (∀ e, (x.label.serve x.pre).2 = .error e → x.post = x.pre) ∧
      ∀ symbol body response, x.label = .save symbol body →
        (coinSettingsSave x.pre symbol body).2 = .ok response →
          (response.missingFields = [] ↔ response.configured = true) ∧
            ∃ s, x.post.get symbol = some s ∧ response.configured = s.isConfigured := by
  obtain ⟨hend, hall⟩ := Lib.Run.invariant (I := SettingsStore.Ordered)
    (fun _ _ _ ht hst => ordered_coinStep ht hst) (fun _ _ hs => by cases hs) h
  refine ⟨hend, fun x hx => ?_⟩
  have hst := Lib.Run.step_of_mem h hx
  refine ⟨(hall x hx).2, fun k => enabled_coinStep hst, fun e => coinStep_refused hst, ?_⟩
  intro symbol body response hlabel hok
  obtain ⟨-, hset, hconf, hmissing⟩ := coinSettingsSave_ok hok
  rw [hconf, hmissing, checkMissingFields_eq_nil_iff]
  refine ⟨Iff.rfl, body.fields.write (x.pre.held symbol), ?_, rfl⟩
  have hpost : x.post = (coinSettingsSave x.pre symbol body).1 := by
    rw [hst, hlabel]
    rfl
  rw [hpost, hset, SettingsStore.get, SettingsStore.set, Lib.Table.get?_put, if_pos]
  rw [storeKey_write, storeKey_held]

/-- A coin with a least price, and a highest price below it. -/
def btcMin : CoinCall := .save "btc" { priceMin := some 60 }

def btcMax : CoinCall := .save "BTC" { priceMax := some 50 }

theorem coin_settings_coherent_btc :
    (btcMin.serve {}).1.Ordered ∧ (btcMax.serve (btcMin.serve {}).1).1 = (btcMin.serve {}).1 := by
  obtain ⟨-, hall⟩ := coin_settings_coherent (((Lib.Run.nil _).snoc (l := btcMin) rfl).snoc (l := btcMax) rfl)
  simp only [List.nil_append, List.cons_append, List.forall_mem_cons] at hall
  obtain ⟨hfirst, ⟨-, -, hrefused, -⟩, -⟩ := hall
  refine ⟨hfirst.1, ?_⟩
  cases hans : (btcMax.serve (btcMin.serve {}).1).2 with
  | error e => exact hrefused e hans
  | ok answer =>
    have hok : (btcMax.serve (btcMin.serve {}).1).2.isOk = false := by decide +kernel
    rw [hans] at hok
    cases hok

end Polyfast
