import Polyfast.Api.Coin
import Polyfast.AuthClients.CredentialStore
import Polyfast.Discovery.Models

/-!
# The eligibility gate

`filter` splits the events of a scan into those that may be traded and the others. Without trading
credentials, and not in paper mode, nothing may be traded.
-/

namespace Polyfast

structure EligibilityResult where
  eligible : List DiscoveredEvent := []
  ineligible : List DiscoveredEvent := []
  /-- Why the events of an asset are not eligible; of several the last one stays. -/
  reasons : Lib.Dict String String := .empty

structure EligibilityGate where
  store : SettingsStore := {}
  credentialStore : CredentialStore := {}
  paperMode : Bool := false

namespace EligibilityGate

variable (g : EligibilityGate)

/-- Why an event is not eligible; an asset that is not known has no text of its own here. -/
def refusal (event : DiscoveredEvent) : Option String :=
  if event.asset = "" then some "asset_unknown"
  else match g.store.get event.asset with
    | none => some "no_settings"
    | some settings =>
      if !settings.coinEnabled then some "coin_disabled"
      else if !settings.isConfigured then some "config_incomplete"
      else if !settings.isTradeEligible then some "not_eligible"
      else none

/-- The credential gate lets events through. -/
def hasCredentials : Bool := g.paperMode || g.credentialStore.credentials.hasTradingCredentials

/-- One event is filed. -/
def file (result : EligibilityResult) (event : DiscoveredEvent) : EligibilityResult :=
  match g.refusal event with
  | some reason => { result with
      ineligible := result.ineligible ++ [event]
      reasons := result.reasons.set event.asset reason }
  | none => { result with eligible := result.eligible ++ [event] }

def filter (discoveredEvents : List DiscoveredEvent) : EligibilityResult :=
  if !g.hasCredentials then
    { ineligible := discoveredEvents
      reasons := discoveredEvents.foldl (fun reasons event => reasons.set event.asset "no_credentials") .empty }
  else discoveredEvents.foldl g.file {}

/-- The event passes the gate. -/
def Accepts (event : DiscoveredEvent) : Prop := g.hasCredentials = true ∧ g.refusal event = none

instance (event : DiscoveredEvent) : Decidable (g.Accepts event) := inferInstanceAs (Decidable (_ ∧ _))

theorem eligible_foldl (result : EligibilityResult) (events : List DiscoveredEvent) :
    (events.foldl g.file result).eligible =
      result.eligible ++ events.filter (fun event => g.refusal event = none) := by
  induction events generalizing result with
  | nil => simp
  | cons event events ih =>
    rw [List.foldl_cons, ih]
    unfold file
    cases hr : g.refusal event with
    | some reason => simp [hr]
    | none => simp [hr]

/-- **The eligible events** are the accepted ones, in the order of the scan. -/
theorem eligible_filter (events : List DiscoveredEvent) :
    (g.filter events).eligible = events.filter (fun event => g.Accepts event) := by
  unfold filter Accepts
  by_cases hc : g.hasCredentials = true
  · simp [hc, eligible_foldl]
  · simp [hc]

theorem refusal_eq_none_iff {event : DiscoveredEvent} {settings : CoinSettings} (hasset : event.asset ≠ "")
    (h : g.store.get event.asset = some settings) : g.refusal event = none ↔ settings.isTradeEligible = true := by
  unfold refusal CoinSettings.isTradeEligible
  rw [if_neg hasset]
  simp only [h]
  cases settings.coinEnabled <;> cases settings.isConfigured <;> simp

/-- **What is accepted**: with credentials, the events of a coin that is enabled and configured. -/
theorem accepts_iff {event : DiscoveredEvent} :
    g.Accepts event ↔ g.hasCredentials = true ∧ event.asset ≠ "" ∧
      ∃ settings, g.store.get event.asset = some settings ∧ settings.isTradeEligible = true := by
  refine and_congr_right fun _ => ?_
  by_cases hasset : event.asset = ""
  · simp [refusal, hasset]
  · cases hs : g.store.get event.asset with
    | none => simp [refusal, hasset, hs]
    | some settings => simp [g.refusal_eq_none_iff hasset hs, hasset]

end EligibilityGate

end Polyfast
