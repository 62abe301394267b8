import Polyfast.Api.Coin
import Polyfast.Orchestrator.PauseGate

/-!
# An evaluation cycle and the API

`_evaluate_all_eligible` takes the list of eligible coins once and then visits them one after the other. It is
suspended only in the order call of a coin, and there the API may change the settings of the coins that it has
still to visit: the list holds the settings objects, so a turn sees the change, but it does not ask again
whether the coin is eligible.

* `EvaluationCycle`, `Step`: the cycle, cut at the awaits, with the API calls in between;
* `Due`, `Spares`, `Step.due_iff`: the coins still to be visited are eligible;
* `orders_eligible`: where they are whenever an order call returns, no order goes out for another coin.
-/

namespace Polyfast

/-- A turn of the evaluation loop. -/
def Orchestrator.Label.isEvaluate : Orchestrator.Label → Bool
  | evaluate _ _ _ => true
  | _ => false

inductive CyclePhase
  /-- The loop sleeps between two cycles. -/
  | idle
  | visiting
  /-- The cycle waits for the order call of a coin. -/
  | ordering
  deriving DecidableEq

structure EvaluationCycle where
  orchestrator : Orchestrator
  store : SettingsStore
  phase : CyclePhase := .idle
  /-- The coins that the cycle has still to visit, by the keys of their settings. -/
  remaining : List Asset := []

namespace EvaluationCycle

variable (c : EvaluationCycle)

/-- The settings of the coin are trade-eligible now. -/
def Eligible (key : Asset) : Prop := ∃ s, c.store.settings.get? key = some s ∧ s.isTradeEligible = true

/-- A turn with these settings, up to the call of the executor if it makes one. -/
def visit (s : CoinSettings) (rest : List Asset) (k : TurnClock) (now : Time) : EvaluationCycle :=
  { c with
    orchestrator := c.orchestrator.evaluate s k now
    phase := if (c.orchestrator.evaluationLoop.turn s c.orchestrator.desk.trading.tracker k).2.isSome then .ordering
      else .visiting
    remaining := rest }

inductive Label
  | begin
  | turn (key : Asset) (k : TurnClock) (now : Time)
  /-- The order call returns. -/
  | returned
  /-- A turn raises, or the loop is stopped. -/
  | failed
  | finish
  | toggle (symbol : String)
  | save (symbol : String) (body : CoinSettingsRequest)
  | act (l : Orchestrator.Label)

/-- One step between awaits; while the cycle visits coins, nothing else runs. -/
inductive Step : EvaluationCycle → Label → EvaluationCycle → Prop
  | begin (c : EvaluationCycle) (h : c.phase = .idle) (hrunning : c.orchestrator.evaluationRunning = true) :
      Step c .begin { c with
        phase := .visiting
        remaining := c.store.getEligibleCoins.map CoinSettings.storeKey }
  | turn (c : EvaluationCycle) (s : CoinSettings) (key : Asset) (rest : List Asset) (k : TurnClock) (now : Time)
      (h : c.phase = .visiting) (hremaining : c.remaining = key :: rest)
      (hs : c.store.settings.get? key = some s) : Step c (.turn key k now) (c.visit s rest k now)
  | returned (c : EvaluationCycle) (h : c.phase = .ordering) : Step c .returned { c with phase := .visiting }
  | failed (c : EvaluationCycle) : Step c .failed { c with phase := .idle, remaining := [] }
  | finish (c : EvaluationCycle) (h : c.phase = .visiting) (hremaining : c.remaining = []) :
      Step c .finish { c with phase := .idle }
  | toggle (c : EvaluationCycle) (symbol : String) (h : c.phase ≠ .visiting) :
      Step c (.toggle symbol) { c with store := (coinToggle c.store symbol).1 }
  | save (c : EvaluationCycle) (symbol : String) (body : CoinSettingsRequest) (h : c.phase ≠ .visiting) :
      Step c (.save symbol body) { c with store := (coinSettingsSave c.store symbol body).1 }
  | act (c : EvaluationCycle) (l : Orchestrator.Label) (o : Orchestrator) (h : c.phase ≠ .visiting)
      (hl : l.isEvaluate = false) (hs : Orchestrator.Step c.orchestrator l o) :
      Step c (.act l) { c with orchestrator := o }

/-- The turn of the coin sends the order `i`. -/
def Sends (key : Asset) (k : TurnClock) (i : OrderIntent) : Prop :=
  ∃ s, c.store.settings.get? key = some s ∧
    (c.orchestrator.evaluationLoop.turn s c.orchestrator.desk.trading.tracker k).2 = some i

/-- A cycle that visits coins has eligible ones before it. -/
def Due : Prop := c.phase = .visiting → ∀ key ∈ c.remaining, c.Eligible key

/-- When an order call returns, the coins that the cycle has still to visit are eligible. -/
def Spares (c : EvaluationCycle) : Label → Prop
  | .returned => ∀ key ∈ c.remaining, c.Eligible key
  | _ => True

/-- If the step sends an order, the settings of its coin are trade-eligible. -/
def OrdersEligible (x : Lib.Taken EvaluationCycle Label) : Prop :=
  ∀ key k now i, x.label = .turn key k now → x.pre.Sends key k i →
    ∃ s, x.pre.store.get i.asset = some s ∧ s.isTradeEligible = true

variable {c} {c' : EvaluationCycle} {l : Label}

/-- The order of a turn is for the coin of the turn. -/
theorem Sends.get {key : Asset} {k : TurnClock} {i : OrderIntent} (h : c.Sends key k i) :
    c.store.get i.asset = c.store.settings.get? key := by
  obtain ⟨s, hs, hsent⟩ := h
  have hasset : i.asset = s.coin := (EvaluationLoop.turn_eq_some_iff.mp hsent).orders.asset
  have hkey : s.storeKey = key := Lib.Table.key_of_get? hs
  rw [SettingsStore.get, hasset]
  exact congrArg c.store.settings.get? hkey

theorem eligible_captured {key : Asset} (h : key ∈ c.store.getEligibleCoins.map CoinSettings.storeKey) :
    c.Eligible key := by
  obtain ⟨s, hs, rfl⟩ := List.mem_map.mp h
  obtain ⟨hmem, heligible⟩ := List.mem_filter.mp hs
  exact ⟨s, Lib.Table.mem_records.mp hmem, heligible⟩

/-- **One step.** -/
theorem Step.due_iff (hs : Step c l c') (h : c.Due) : c'.Due ↔ c.Spares l := by
  cases hs with
  | begin hidle hrunning => exact iff_of_true (fun _ key hkey => eligible_captured hkey) trivial
  | turn s key rest k now hvisiting hremaining hset =>
    have hrest : ∀ key' ∈ rest, c.Eligible key' := fun key' hkey' =>
      h hvisiting key' (hremaining ▸ List.mem_cons_of_mem key hkey')
    exact iff_of_true (fun _ => hrest) trivial
  | returned hordering =>
    exact ⟨fun hdue => hdue rfl, fun hspares _ => hspares⟩
  | failed => exact iff_of_true (fun _ key hkey => by cases hkey) trivial
  | finish hvisiting hremaining => exact iff_of_true (fun hphase => by cases hphase) trivial
  | toggle symbol hphase => exact iff_of_true (fun hvisiting => absurd hvisiting hphase) trivial
  | save symbol body hphase => exact iff_of_true (fun hvisiting => absurd hvisiting hphase) trivial
  | act l o hphase hl hact => exact iff_of_true (fun hvisiting => absurd hvisiting hphase) trivial

/-- An eligible coin is visited. -/
theorem Step.ordersEligible {x : Lib.Taken EvaluationCycle Label} (hs : Step x.pre x.label x.post) (h : x.pre.Due) :
    OrdersEligible x := by
  intro key k now i hlabel hsends
  rw [hlabel] at hs
  rw [hsends.get]
  generalize x.pre = c, x.post = c' at hs h
  cases hs with
  | turn s key rest k now hvisiting hremaining hset => exact h hvisiting key (hremaining ▸ List.mem_cons_self)

variable {tr : List (Lib.Taken EvaluationCycle Label)}

/-- All along a run the coins before a cycle are eligible exactly if they are whenever an order call returns. -/
theorem run_due_iff (h : c.Due) (hrun : Lib.Run Step c tr c') :
    (∀ x ∈ tr, x.post.Due) ↔ ∀ x ∈ tr, x.pre.Spares x.label :=
  hrun.always_iff (J := fun _ => True) (fun _ _ _ _ hdue hs => ⟨trivial, hs.due_iff hdue⟩) trivial h

/-- **No order for a coin that is switched off.** In a run in which, whenever an order call returns, the coins
that the cycle has still to visit are eligible, every order is for a coin that is eligible when it is sent. -/
theorem orders_eligible (h : c.Due) (hrun : Lib.Run Step c tr c') (hspares : ∀ x ∈ tr, x.pre.Spares x.label) :
    ∀ x ∈ tr, OrdersEligible x := by
  intro x hx
  obtain ⟨hpre, -⟩ := (hrun.invariant_under (C := Spares) (fun _ _ _ hdue hc hs => (hs.due_iff hdue).mpr hc) h
    hspares).2 x hx
  exact (hrun.step_of_mem hx).ordersEligible hpre

/-! ### Two coins -/

def ethSettings : CoinSettings := { EvaluationLoop.btcSettings with coin := "ETH" }

def ethQuote : LivePriceRecord := { EvaluationLoop.upQuote with conditionId := "ether", asset := "ETH" }

def ethPrice : CoinPriceRecord := { EvaluationLoop.btcPrice with coin := "ETH" }

def ethPTB : PTBRecord := { EvaluationLoop.lockedPTB "ether" with asset := "ETH" }

def ethRoute : TokenRoute :=
  { EvaluationLoop.upRoute with tokenId := "ether-token", conditionId := "ether", asset := "ETH" }

def ethEvent : RegistryRecord :=
  { Market.slotEvent with conditionId := "ether", asset := "ETH", slug := "eth-updown-5m-1700000100" }

/-- `btcLoop` with a second coin. -/
def twoCoinLoop : EvaluationLoop where
  pipeline := { records := (Lib.Table.empty.put EvaluationLoop.upQuote).put ethQuote }
  coinClient := { records := (Lib.Table.empty.put EvaluationLoop.btcPrice).put ethPrice }
  ptbFetcher := { records := (Lib.Table.empty.put (EvaluationLoop.lockedPTB "event")).put ethPTB }
  bridge := { tokenRoutes := (Lib.Table.empty.put EvaluationLoop.upRoute).put ethRoute }
  registry := { records := (Lib.Table.empty.put Market.slotEvent).put ethEvent }
  orderDispatchEnabled := true

/-- A bot that trades both coins live, with ten dollars. -/
def twoCoinBot : Orchestrator where
  exitCycleRunning := true
  evaluationRunning := true
  evaluationLoop := twoCoinLoop
  desk := { Desk.startDesk .live 3 with
    trading := { (Desk.startDesk .live 3).trading with
      balance := (Desk.startDesk .live 3).trading.balance.update 10 (some 10) 1700000200 } }

def twoCoins : EvaluationCycle where
  orchestrator := twoCoinBot
  store := { settings := (Lib.Table.empty.put EvaluationLoop.btcSettings).put ethSettings }

/-- The order for the second coin. -/
def ethOrder : OrderIntent :=
  { EvaluationLoop.upOrder with asset := "ETH", conditionId := "ether", tokenId := "ether-token" }

/-- A cycle has begun. -/
def begun : EvaluationCycle :=
  { twoCoins with phase := .visiting, remaining := twoCoins.store.getEligibleCoins.map CoinSettings.storeKey }

/-- The first coin's order is out. -/
def ordering : EvaluationCycle := begun.visit EvaluationLoop.btcSettings ["ETH"] (.at 1700000200) 1700000200

/-- Meanwhile the second coin was switched off. -/
def switchedOff : EvaluationCycle :=
  { ordering with store := (coinToggle ordering.store "eth").1, phase := .visiting }

theorem twoCoins_due : twoCoins.Due := fun h => by cases h

/-- While the order for the first coin is out, that coin is switched off; the call returns, and the order for the
second coin follows. -/
theorem orders_eligible_second : ∃ c tr, Lib.Run Step twoCoins tr c ∧
    c.orchestrator.desk.orders.map (fun o => o.1.asset) = ["BTC", "ETH"] ∧ ∀ x ∈ tr, OrdersEligible x := by
  have hfirst : Lib.Run Step twoCoins _ ordering := (Lib.Run.single (Step.begin twoCoins rfl rfl)).snoc
    (.turn begun EvaluationLoop.btcSettings "BTC" ["ETH"] (.at 1700000200) 1700000200 rfl (by decide +kernel)
      (by decide +kernel))
  have hrun := ((hfirst.snoc (.toggle ordering "btc" (by decide +kernel))).snoc
    (.returned _ (by decide +kernel))).snoc
    (.turn _ ethSettings "ETH" [] (.at 1700000200) 1700000200 rfl (by decide +kernel) (by decide +kernel))
  refine ⟨_, _, hrun, by decide +kernel, orders_eligible twoCoins_due hrun ?_⟩
  simp only [List.forall_mem_append, List.forall_mem_singleton]
  refine ⟨⟨⟨⟨trivial, trivial⟩, trivial⟩, fun key hkey => ?_⟩, trivial⟩
  obtain rfl : key = "ETH" := List.mem_singleton.mp hkey
  exact ⟨ethSettings, by decide +kernel, by decide +kernel⟩

theorem switchedOff_reached : ∃ tr, Lib.Run Step twoCoins tr switchedOff := by
  have hbegin := Lib.Run.single (Step.begin twoCoins rfl rfl)
  have hfirst : Lib.Run Step twoCoins _ ordering := hbegin.snoc (.turn begun EvaluationLoop.btcSettings "BTC" ["ETH"]
    (.at 1700000200) 1700000200 rfl (by decide +kernel) (by decide +kernel))
  have htoggle := hfirst.snoc (.toggle ordering "eth" (by decide +kernel))
  exact ⟨_, htoggle.snoc (.returned _ (by decide +kernel))⟩

/-- While the first order waits for the exchange, the second coin is switched off; its order follows. -/
theorem switched_off_coin_ordered : twoCoins.Due ∧ ordering.orchestrator.desk.orders.length = 1 ∧
    ∃ c tr, Lib.Run Step twoCoins tr c ∧ ∃ x ∈ tr, ¬OrdersEligible x := by
  obtain ⟨tr, hreached⟩ := switchedOff_reached
  have hrun := hreached.snoc (.turn switchedOff ethSettings.toggled "ETH" [] (.at 1700000200) 1700000200 rfl rfl
    (by decide +kernel))
  refine ⟨twoCoins_due, by decide +kernel, _, _, hrun, _, List.mem_append_right _ List.mem_cons_self, fun h => ?_⟩
  have hsends : switchedOff.Sends "ETH" (.at 1700000200) ethOrder :=
    ⟨ethSettings.toggled, by decide +kernel, by decide +kernel⟩
  obtain ⟨s, hs, heligible⟩ := h "ETH" (.at 1700000200) 1700000200 ethOrder rfl hsends
  rw [hsends.get] at hs
  have hoff : s = ethSettings.toggled := Option.some.inj (hs.symm.trans (by decide +kernel))
  rw [hoff] at heligible
  exact absurd heligible (by decide +kernel)

end EvaluationCycle

end Polyfast
