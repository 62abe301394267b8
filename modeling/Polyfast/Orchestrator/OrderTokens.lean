import Polyfast.Orchestrator.Dispatch
import Polyfast.Orchestrator.EventChain

/-!
# Where the token of an order comes from

Gamma lists the tokens of an event with their outcomes. The scan that takes the event up registers them, and an order
buys one of those that are registered.

* `DiscoveredEvent.Offers`: an event lists a token for a side;
* `SubscriptionManager.Sourced`: a diff registers only what the event map lists;
* `EventChain.Step.registered`: only scans register, and only what an eligible event lists;
* `order_token`: the token of an order was listed for its side in an eligible event, for which its asset has been
  subscribed ever since.
-/

namespace Polyfast

/-- The event lists the token; a token without an outcome is an up token. -/
def EventData.Lists (d : EventData) (tokenId : TokenId) (side : String) : Prop :=
  ∃ j : ℕ, d.tokenIds[j]? = some tokenId ∧ (d.sides[j]?).getD "up" = side

/-- The event lists the token for the side. -/
def DiscoveredEvent.Offers (e : DiscoveredEvent) (tokenId : TokenId) (side : OrderSide) : Prop :=
  ∃ outcome, e.eventData.Lists tokenId outcome ∧ outcome.toUpper = side.value

/-! ### What a diff registers -/

namespace SubscriptionManager

variable {m old : SubscriptionManager} {eventMap : EventMap} {asset : Asset} {route : TokenRoute}

theorem route_of_mem_foldl {b : WSPriceBridge} {c : ConditionId} (side : ℕ → String) (l : List (TokenId × ℕ))
    (h : route ∈ (l.foldl (fun b (id, i) => b.registerToken id c asset (side i)) b).tokenRoutes.records) :
    route ∈ b.tokenRoutes.records ∨ ∃ e ∈ l, route = ⟨e.1, c, asset, side e.2⟩ := by
  induction l generalizing b with
  | nil => exact .inl h
  | cons e l ih =>
    obtain hold | ⟨e', he', rfl⟩ := ih h
    · rcases b.mem_registerToken hold with hold | rfl
      · exact .inl hold
      · exact .inr ⟨e, List.mem_cons_self, rfl⟩
    · exact .inr ⟨e', List.mem_cons_of_mem _ he', rfl⟩

/-- The event map has the route. -/
structure FromMap (eventMap : EventMap) (route : TokenRoute) : Prop where
  conditionId : (eventMap.data route.asset).conditionId = route.conditionId
  lists : (eventMap.data route.asset).Lists route.tokenId route.side

theorem fromMap_of_mem_takeOn (h : route ∈ (m.takeOn eventMap asset).bridge.tokenRoutes.records) :
    route ∈ m.bridge.tokenRoutes.records ∨ FromMap eventMap route := by
  refine (route_of_mem_foldl (fun i => ((eventMap.data asset).sides[i]?).getD "up") _ h).imp_right ?_
  rintro ⟨⟨id, j⟩, hmem, rfl⟩
  exact ⟨rfl, j, List.mem_zipIdx_iff_getElem?.mp hmem, rfl⟩

/-- What is routed was routed before, or the event map has it. -/
def Sourced (eventMap : EventMap) (old m : SubscriptionManager) : Prop :=
  ∀ route ∈ m.bridge.tokenRoutes.records, route ∈ old.bridge.tokenRoutes.records ∨ FromMap eventMap route

theorem Sourced.takeOn (h : Sourced eventMap old m) (asset : Asset) :
    Sourced eventMap old (m.takeOn eventMap asset) := by
  intro route hroute
  rcases fromMap_of_mem_takeOn hroute with hbefore | hnew
  · exact h route hbefore
  · exact .inr hnew

theorem Sourced.unsubscribe (h : Sourced eventMap old m) (asset : Asset) :
    Sourced eventMap old (m.unsubscribeAsset asset) := fun route hroute =>
  h route (mem_unsubscribeAsset.mp hroute).1

theorem Sourced.refresh (h : Sourced eventMap old m) (asset : Asset) :
    Sourced eventMap old (m.refresh eventMap asset) := by
  unfold SubscriptionManager.refresh
  split_ifs
  · exact (h.unsubscribe asset).takeOn asset
  · exact h

/-- **A diff registers** only what the event map lists. -/
theorem sourced_applyDiff (m : SubscriptionManager) (eventMap : EventMap) (diff : SubscriptionDiff) (sent : Bool) :
    Sourced eventMap m (m.applyDiff eventMap diff sent) := by
  have htake : Sourced eventMap m (diff.toSubscribe.foldl (fun m asset => m.takeOn eventMap asset) m) :=
    List.foldlRecOn diff.toSubscribe _ (fun _ hroute => .inl hroute) fun _ h asset _ => h.takeOn asset
  have hdrop : Sourced eventMap m (diff.toUnsubscribe.foldl SubscriptionManager.drop
      (diff.toSubscribe.foldl (fun m asset => m.takeOn eventMap asset) m)) :=
    List.foldlRecOn diff.toUnsubscribe _ htake fun _ h asset _ => h.unsubscribe asset
  have hrefresh : Sourced eventMap m (diff.unchanged.foldl (refreshAll eventMap) (diff.toUnsubscribe.foldl
      SubscriptionManager.drop (diff.toSubscribe.foldl (fun m asset => m.takeOn eventMap asset) m), false)).1 :=
    List.foldlRecOn (motive := fun acc : SubscriptionManager × Bool => Sourced eventMap m acc.1) diff.unchanged _
      hdrop fun _ h asset _ => h.refresh asset
  unfold applyDiff
  dsimp only
  split_ifs
  · exact hrefresh
  · exact hrefresh

end SubscriptionManager

namespace EventChain

open SubscriptionManager (FromMap)

variable {s s' : EventChain} {route : TokenRoute}

/-- An entry of the event map comes from an eligible event. -/
theorem exists_event {eligible : List DiscoveredEvent} {now : Time}
    (h : FromMap (chooseEvents eligible now).eventMap route) : ∃ e ∈ eligible,
      e.asset = route.asset ∧ e.conditionId = route.conditionId ∧ e.eventData.Lists route.tokenId route.side := by
  obtain ⟨hcond, hlists⟩ := h
  cases hget : (chooseEvents eligible now).eventMap.get? route.asset with
  | none =>
    -- an asset without an entry has no tokens
    obtain ⟨j, hj, -⟩ := hlists
    rw [EventMap.data, Lib.Dict.getD, hget] at hj
    cases hj
  | some d =>
    obtain ⟨e, he, hasset, rfl⟩ := source_of_get? hget
    rw [EventMap.data, Lib.Dict.getD, hget] at hcond hlists
    exact ⟨e, he, hasset, hcond, hlists⟩

/-- The step is a scan that finds the event eligible while the bot is not paused. -/
structure TakesUp (s : EventChain) (l : Label) (e : DiscoveredEvent) : Prop where
  scan : ∃ events now sent, l = .discovered events now sent ∧ e ∈ events
  running : s.paused = false
  accepts : s.gate.Accepts e

/-- **What a step registers** is listed by an eligible event of a scan. -/
theorem Step.registered {l : Label} (h : Step s l s') (hroute : route ∈ s'.subscriptions.bridge.tokenRoutes.records) :
    route ∈ s.subscriptions.bridge.tokenRoutes.records ∨ ∃ e, TakesUp s l e ∧
      e.asset = route.asset ∧ e.conditionId = route.conditionId ∧ e.eventData.Lists route.tokenId route.side := by
  cases h
  cases l with
  | discovered events now sent =>
    by_cases hpaused : s.paused = true
    · rw [apply, handleDiscoveredEvents, if_pos hpaused] at hroute
      exact .inl hroute
    · rw [Bool.not_eq_true] at hpaused
      by_cases hempty : (s.gate.filter events).eligible = []
      · rw [apply, handle_of_empty hempty] at hroute
        exact .inl hroute
      · rw [apply, handle_of_eligible hpaused hempty] at hroute
        have hsourced := s.subscriptions.sourced_applyDiff
          (chooseEvents (s.gate.filter events).eligible now).eventMap _ sent route hroute
        refine hsourced.imp_right fun hmap => ?_
        obtain ⟨e, he, hsource⟩ := exists_event hmap
        rw [EligibilityGate.eligible_filter, List.mem_filter, decide_eq_true_eq] at he
        exact ⟨e, ⟨⟨events, now, sent, rfl, he.1⟩, hpaused, he.2⟩, hsource⟩
  | toggle symbol => exact .inl hroute
  | updateSettings symbol fields => exact .inl hroute
  | load credentials => exact .inl hroute
  | pause => exact .inl hroute
  | resume => exact .inl hroute
  | connection state hasWs => exact .inl hroute
  | resubscribe sent => exact .inl hroute
  | market pipeline ptbFetcher => exact .inl hroute

/-! ### Orders -/

inductive TurnLabel
  | chain (l : Label)
  | turn (settings : CoinSettings) (t : PositionTracker) (k : TurnClock) (sent : Option OrderIntent)

/-- The event chain, and turns of an evaluation loop over its prices and routes, each with the order it sends. -/
inductive TurnStep : EventChain → TurnLabel → EventChain → Prop
  | chain (s s' : EventChain) (l : Label) (h : Step s l s') : TurnStep s (.chain l) s'
  | turn (s : EventChain) (l : EvaluationLoop) (hp : l.pipeline = s.pipeline) (hb : l.bridge = s.subscriptions.bridge)
      (hf : l.ptbFetcher = s.ptbFetcher) (settings : CoinSettings) (t : PositionTracker) (k : TurnClock) :
      TurnStep s (.turn settings t k (l.turn settings t k).2) { s with pipeline := (l.turn settings t k).1.pipeline }

variable {l : TurnLabel} {tr : List (Lib.Taken EventChain TurnLabel)}

theorem Sound.turnStep (h : s.Sound) (hs : TurnStep s l s') : s'.Sound := by
  cases hs with
  | chain _ l hstep => exact h.step hstep
  | turn l hp hb hf settings t k => exact ⟨h.represents, h.named⟩

/-- An order is for a token that is routed for its side of its event. -/
theorem TurnStep.routed {settings : CoinSettings} {t : PositionTracker} {k : TurnClock} {i : OrderIntent}
    (h : TurnStep s l s') (hl : l = .turn settings t k (some i)) :
    ∃ route ∈ s.subscriptions.bridge.tokenRoutes.records, route.tokenId = i.tokenId ∧
      route.asset.toUpper = i.asset.toUpper ∧ route.side.toUpper = i.side.value ∧
      route.conditionId = i.conditionId := by
  cases h with
  | chain _ l hstep => cases hl
  | turn loop hp hb hf settings t k =>
    obtain ⟨rfl, rfl, rfl, hsent⟩ := TurnLabel.turn.inj hl
    have horders := (EvaluationLoop.turn_eq_some_iff.mp hsent).orders
    obtain ⟨route, hroute, hrest⟩ := WSPriceBridge.findToken_spec horders.token horders.routed
    rw [hb] at hroute
    rw [← horders.asset] at hrest
    exact ⟨route, Lib.Table.mem_records_of_get? hroute, Lib.Table.key_of_get? hroute, hrest⟩

/-- **The token of an order.** In every run from a state in which nothing is subscribed, the token of an order was
listed for its side by its event, which passed the gate in a scan while the bot was not paused; and the asset has been
subscribed for that event from this scan up to the order. -/
theorem order_token (hs : s.subscriptions = {}) (h : Lib.Run TurnStep s tr s')
    {before after : List (Lib.Taken EventChain TurnLabel)} {x : Lib.Taken EventChain TurnLabel}
    (htr : tr = before ++ x :: after) {settings : CoinSettings} {t : PositionTracker} {k : TurnClock} {i : OrderIntent}
    (hx : x.label = .turn settings t k (some i)) :
    ∃ older y newer l e, before = older ++ y :: newer ∧ y.label = .chain l ∧ TakesUp y.pre l e ∧
      e.conditionId = i.conditionId ∧ e.asset = i.asset.toUpper ∧ e.Offers i.tokenId i.side ∧
      ∀ z ∈ y :: newer, z.post.subscriptions.activeEvents.get? e.asset = some i.conditionId := by
  rw [htr] at h
  obtain ⟨u, hbefore, hafter⟩ := h.split
  obtain ⟨rfl, hstep, -⟩ := hafter.cons_inv
  obtain ⟨route, hroute, htoken, hasset, hside, hcond⟩ := hstep.routed hx
  have hnone : route ∉ s.subscriptions.bridge.tokenRoutes.records := by
    rw [hs]
    exact List.not_mem_nil
  have hsound := (hbefore.invariant (fun _ _ _ ht hst => ht.turnStep hst) (sound_of_unsubscribed hs)).2
  obtain ⟨older, y, newer, rfl, hnew, hsince⟩ := hbefore.arisen
    (P := fun t => route ∈ t.subscriptions.bridge.tokenRoutes.records) hnone hroute
  have hy := hbefore.step_of_mem (List.mem_append_right older (List.mem_cons_self (a := y)))
  have hthere := hsince y List.mem_cons_self
  generalize hlabel : y.label = l, y.post = post at hy hthere
  cases hy with
  | chain _ l hchain =>
    obtain hold | ⟨e, htakes, heasset, hecond, hlists⟩ := hchain.registered hthere
    · exact absurd hold hnew
    · have hupper : e.asset = i.asset.toUpper := by
        rw [← hasset, ← heasset, e.asset_upper]
      refine ⟨older, y, newer, l, e, rfl, hlabel, htakes, hecond.trans hcond, hupper,
        ⟨route.side, htoken ▸ hlists, hside⟩, fun z hz => ?_⟩
      have hz' := (hsound z (List.mem_append_right older hz)).2.represents.routed.route route (hsince z hz)
      rw [heasset, ← hcond]
      exact hz'
  | turn loop hp hb hf settings t k => exact absurd hthere hnew

/-! ### An order after a scan -/

/-- Prices of the running event, and its price to beat. -/
def quoted : EventChain :=
  running.apply (.market { records := Lib.Table.empty.put { EvaluationLoop.upQuote with conditionId := "first" } }
    { records := Lib.Table.empty.put (EvaluationLoop.lockedPTB "first") })

def quotedLoop : EvaluationLoop where
  pipeline := quoted.pipeline
  coinClient := { records := Lib.Table.empty.put EvaluationLoop.btcPrice }
  ptbFetcher := quoted.ptbFetcher
  bridge := quoted.subscriptions.bridge
  registry := { records := Lib.Table.empty.put { Market.slotEvent with conditionId := "first" } }
  paperMode := true

/-- The up token of the event is bought. -/
def firstOrder : OrderIntent := { EvaluationLoop.upOrder with conditionId := "first", tokenId := "first-up" }

theorem order_token_first : ∃ older y newer l e,
    [(⟨tradable, .chain (.discovered [firstEvent] 1700000150 true), running⟩ : Lib.Taken EventChain TurnLabel),
      ⟨running, .chain (.market quoted.pipeline quoted.ptbFetcher), quoted⟩] = older ++ y :: newer ∧
    y.label = .chain l ∧ TakesUp y.pre l e ∧ e.conditionId = "first" ∧ e.asset = "BTC".toUpper ∧
    e.Offers "first-up" .up ∧ ∀ z ∈ y :: newer, z.post.subscriptions.activeEvents.get? e.asset = some "first" := by
  have hscan := Lib.Run.single (TurnStep.chain tradable running _
    (.mk tradable (.discovered [firstEvent] 1700000150 true)))
  have hquoted := hscan.snoc (.chain running quoted _ (.mk running (.market quoted.pipeline quoted.ptbFetcher)))
  have hrun := hquoted.snoc (.turn quoted quotedLoop rfl rfl rfl EvaluationLoop.btcSettings {} (.at 1700000200))
  have hsent : (quotedLoop.turn EvaluationLoop.btcSettings {} (.at 1700000200)).2 = some firstOrder := by
    decide +kernel
  exact order_token rfl hrun rfl (congrArg (TurnLabel.turn _ _ _) hsent)

end EventChain

end Polyfast
