import Mathlib.Data.List.Induction
import Mathlib.Data.Rat.Floor
import Polyfast.MarketData.PTBTasks
import Polyfast.Orchestrator.EligibilityGate
import Polyfast.Orchestrator.SubscriptionManager

/-!
# The event chain

`_handle_discovered_events` runs after every scan that found events: eligibility, one event for every asset,
subscriptions, PTB fetches. The event of the running slot comes before others of its asset.

* `EventChain.handleDiscoveredEvents`: the handler; the tasks it starts are queued;
* `EventChain.Step`: scans, settings and credentials, pause and resume, the connection, in any order;
* `data_eventMap`: which event the map holds for an asset;
* `subscriptions_follow_iff`: when the subscribed assets are the eligible ones;
* `current_slot_owner`: the running slot's event is the one that is subscribed, in whatever order the events come.
-/

namespace Polyfast

namespace DiscoveredEvent

variable (event : DiscoveredEvent)

/-- The slug is of the slot that contains `now`. -/
def isCurrent (now : Time) : Bool := slugIsCurrent event.slug now

/-- `event_data`. -/
def eventData : EventData where
  conditionId := event.conditionId
  tokenIds := event.clobTokenIds
  sides := event.outcomes
  slug := event.slug

end DiscoveredEvent

/-- The first loop of the handler: `event_map` and `current_slot_cids`. -/
structure EventChoice where
  eventMap : EventMap := .empty
  currentSlotCids : Lib.Dict Asset ConditionId := .empty

/-- An event of the running slot always wins, another one only if the asset has none yet. -/
def EventChoice.add (now : Time) (c : EventChoice) (event : DiscoveredEvent) : EventChoice :=
  if event.isCurrent now then
    { eventMap := c.eventMap.set event.asset event.eventData
      currentSlotCids := c.currentSlotCids.set event.asset event.conditionId }
  else if c.eventMap.contains event.asset then c
  else { c with eventMap := c.eventMap.set event.asset event.eventData }

def chooseEvents (eligible : List DiscoveredEvent) (now : Time) : EventChoice :=
  eligible.foldl (EventChoice.add now) {}

/-- The parts of the orchestrator that a scan reaches. -/
structure EventChain where
  paused : Bool := false
  gate : EligibilityGate := {}
  subscriptions : SubscriptionManager := {}
  pipeline : LivePricePipeline := {}
  ptbFetcher : PTBFetcher := {}
  /-- The PTB tasks started. -/
  ptbTasks : List PTBRetry := []

/-- The Gamma prices of an event, if it comes with some. -/
def LivePricePipeline.seed (p : LivePricePipeline) (now : Time) (event : DiscoveredEvent) : LivePricePipeline :=
  match event.outcomePrices with
  | some raw => (p.updateFromGamma event.conditionId event.asset raw 0 now).1
  | none => p

/-- The PTB task for the event of a running slot, unless its value is locked or it has no slug. -/
def PTBFetcher.taskFor (f : PTBFetcher) (eventMap : EventMap) (now : Time) (entry : Asset × ConditionId) :
    Option PTBRetry :=
  let slug := (eventMap.data entry.1).slug
  if f.isLocked entry.2 || slug.isEmpty then none
  else
    let eventEndTs : ℤ := match slugStart slug with
      | some start => start + slotSeconds
      | none => ⌊now⌋ + slotSeconds
    some { conditionId := entry.2, asset := entry.1, eventSlug := slug, eventEndTs := eventEndTs }

namespace EventChain

variable (s : EventChain)

/-- The manager after the diff with the eligible events. -/
def subscribe (eligible : List DiscoveredEvent) (now : Time) (sent : Bool) : SubscriptionManager :=
  s.subscriptions.applyDiff (chooseEvents eligible now).eventMap
    (s.subscriptions.computeDiff (eligible.map DiscoveredEvent.asset)) sent

/-- The handler from step 2 on, with at least one eligible event. -/
def takeUp (eligible : List DiscoveredEvent) (now : Time) (sent : Bool) : EventChain :=
  let choice := chooseEvents eligible now
  let m := s.subscribe eligible now sent
  { s with
    pipeline := eligible.foldl (LivePricePipeline.seed · now ·) s.pipeline
    subscriptions := { m with coinClient := m.coinClient.setCoins (eligible.map DiscoveredEvent.asset) }
    ptbTasks := s.ptbTasks ++ choice.currentSlotCids.entries.filterMap (s.ptbFetcher.taskFor choice.eventMap now) }

/-- `_handle_discovered_events` at time `now`, where `sent` says whether the subscribe message can be sent. -/
def handleDiscoveredEvents (events : List DiscoveredEvent) (now : Time) (sent : Bool) : EventChain :=
  if s.paused then s
  else
    let result := s.gate.filter events
    if result.eligible.isEmpty then s else s.takeUp result.eligible now sent

inductive Label
  | discovered (events : List DiscoveredEvent) (now : Time) (sent : Bool)
  | toggle (symbol : Asset)
  | updateSettings (symbol : Asset) (fields : CoinFields)
  | load (credentials : Credentials)
  | pause
  | resume
  | connection (state : ConnectionState) (hasWs : Bool)
  | resubscribe (sent : Bool)
  /-- Prices and PTB values change. -/
  | market (pipeline : LivePricePipeline) (ptbFetcher : PTBFetcher)

def apply : Label → EventChain
  | .discovered events now sent => s.handleDiscoveredEvents events now sent
  | .toggle symbol => { s with gate := { s.gate with store := (s.gate.store.toggleCoin symbol).1 } }
  | .updateSettings symbol fields =>
    { s with gate := { s.gate with store := (s.gate.store.updateSettings symbol fields).1 } }
  | .load credentials => { s with gate := { s.gate with credentialStore := s.gate.credentialStore.load credentials } }
  | .pause => { s with paused := true }
  | .resume => { s with paused := false }
  | .connection state hasWs =>
    { s with subscriptions := { s.subscriptions with
        rtdsClient := { s.subscriptions.rtdsClient with state := state, hasWs := hasWs } } }
  | .resubscribe sent =>
    { s with subscriptions := { s.subscriptions with
        rtdsClient := (s.subscriptions.rtdsClient.resubscribe sent).1 } }
  | .market pipeline ptbFetcher => { s with pipeline := pipeline, ptbFetcher := ptbFetcher }

inductive Step : EventChain → Label → EventChain → Prop
  | mk (s : EventChain) (l : Label) : Step s l (s.apply l)

variable {s}

/-! ### One event for every asset -/

section Choice

variable {eligible : List DiscoveredEvent} {event : DiscoveredEvent} {now : Time}

theorem chooseEvents_concat :
    chooseEvents (eligible ++ [event]) now = (chooseEvents eligible now).add now event := by
  rw [chooseEvents, List.foldl_append]
  rfl

/-- What an event does to the entry of an asset. -/
theorem get?_add (c : EventChoice) (a : Asset) :
    (c.add now event).eventMap.get? a =
      if event.asset = a ∧ (event.isCurrent now = true ∨ c.eventMap.get? a = none) then some event.eventData
      else c.eventMap.get? a := by
  unfold EventChoice.add
  by_cases hcur : event.isCurrent now = true
  · rw [if_pos hcur, Lib.Dict.get?_set]
    simp [hcur]
  · rw [if_neg hcur]
    cases hget : c.eventMap.get? event.asset with
    | some d =>
      rw [if_pos (by simp [Lib.Dict.contains, hget]), if_neg]
      rintro ⟨rfl, hcur' | hnone⟩
      · exact hcur hcur'
      · rw [hget] at hnone
        cases hnone
    | none =>
      rw [if_neg (by simp [Lib.Dict.contains, hget])]
      dsimp only
      rw [Lib.Dict.get?_set]
      by_cases ha : event.asset = a
      · subst ha
        simp [hget]
      · simp [ha]

/-- An entry is an event of its asset. -/
theorem source_of_get? {a : Asset} {d : EventData} (h : (chooseEvents eligible now).eventMap.get? a = some d) :
    ∃ e ∈ eligible, e.asset = a ∧ d = e.eventData := by
  induction eligible using List.reverseRecOn with
  | nil => simp [chooseEvents] at h
  | append_singleton l last ih =>
    rw [chooseEvents_concat, get?_add] at h
    split_ifs at h with hlast
    · exact ⟨last, by simp, hlast.1, (Option.some.inj h).symm⟩
    · obtain ⟨e, he, hasset, hd⟩ := ih h
      exact ⟨e, List.mem_append_left _ he, hasset, hd⟩

theorem get?_ne_none (h : event ∈ eligible) : (chooseEvents eligible now).eventMap.get? event.asset ≠ none := by
  induction eligible using List.reverseRecOn with
  | nil => simp at h
  | append_singleton l last ih =>
    rw [chooseEvents_concat, get?_add]
    split_ifs with hlast
    · simp
    · rcases List.mem_append.mp h with hmem | hmem
      · exact ih hmem
      · -- the last event is skipped, so its asset had an event before
        rw [List.mem_singleton] at hmem
        subst hmem
        exact fun hnone => hlast ⟨rfl, .inr hnone⟩

/-- Every asset of the list has one of its events. -/
theorem exists_data (now : Time) (h : event ∈ eligible) :
    ∃ e ∈ eligible, e.asset = event.asset ∧
      (chooseEvents eligible now).eventMap.data event.asset = e.eventData := by
  cases hget : (chooseEvents eligible now).eventMap.get? event.asset with
  | none => exact absurd hget (get?_ne_none h)
  | some d =>
    obtain ⟨e, he, hasset, rfl⟩ := source_of_get? hget
    exact ⟨e, he, hasset, by rw [EventMap.data, Lib.Dict.getD, hget, Option.getD_some]⟩

/-- **The running slot first**: an asset with an event of the running slot has one in the map. -/
theorem current_get? (h : event ∈ eligible) (hcur : event.isCurrent now = true) :
    ∃ e ∈ eligible, e.isCurrent now = true ∧ e.asset = event.asset ∧
      (chooseEvents eligible now).eventMap.get? event.asset = some e.eventData := by
  induction eligible using List.reverseRecOn with
  | nil => simp at h
  | append_singleton l last ih =>
    rw [chooseEvents_concat, get?_add]
    by_cases hlast : last.asset = event.asset ∧ last.isCurrent now = true
    · rw [if_pos ⟨hlast.1, .inl hlast.2⟩]
      exact ⟨last, by simp, hlast.2, hlast.1, rfl⟩
    · rcases List.mem_append.mp h with hmem | hmem
      · obtain ⟨e, he, hecur, hasset, hget⟩ := ih hmem
        refine ⟨e, List.mem_append_left _ he, hecur, hasset, ?_⟩
        rw [if_neg, hget]
        rintro ⟨ha, hc | hnone⟩
        · exact hlast ⟨ha, hc⟩
        · rw [hget] at hnone
          cases hnone
      · rw [List.mem_singleton] at hmem
        subst hmem
        exact absurd ⟨rfl, hcur⟩ hlast

end Choice

/-! ### Subscribed and eligible -/

section Follows

variable {events : List DiscoveredEvent} {now : Time} {sent : Bool}

theorem mem_upperSet_assets {eligible : List DiscoveredEvent} {a : Asset} :
    a ∈ SubscriptionManager.upperSet (eligible.map DiscoveredEvent.asset) ↔ ∃ e ∈ eligible, e.asset = a := by
  rw [SubscriptionManager.mem_upperSet]
  constructor
  · rintro ⟨x, hx, rfl⟩
    obtain ⟨e, he, rfl⟩ := List.mem_map.mp hx
    exact ⟨e, he, e.asset_upper.symm⟩
  · rintro ⟨e, he, rfl⟩
    exact ⟨e.asset, List.mem_map_of_mem he, e.asset_upper⟩

theorem handle_of_empty (h : (s.gate.filter events).eligible = []) :
    s.handleDiscoveredEvents events now sent = s := by
  unfold handleDiscoveredEvents
  simp [h]

theorem handle_of_eligible (hpaused : s.paused = false) (h : (s.gate.filter events).eligible ≠ []) :
    s.handleDiscoveredEvents events now sent = s.takeUp (s.gate.filter events).eligible now sent := by
  unfold handleDiscoveredEvents
  rw [if_neg (by simp [hpaused]), if_neg (by simpa using h)]

/-- The event of an eligible asset after the handler. -/
theorem get?_handle (hpaused : s.paused = false) {e : DiscoveredEvent} (he : e ∈ (s.gate.filter events).eligible) :
    (s.handleDiscoveredEvents events now sent).subscriptions.activeEvents.get? e.asset =
      some (SubscriptionManager.eventAfter (chooseEvents (s.gate.filter events).eligible now).eventMap e.asset
        (s.subscriptions.activeEvents.get? e.asset)) := by
  rw [handle_of_eligible hpaused (List.ne_nil_of_mem he)]
  exact (SubscriptionManager.get?_applyDiff _ sent e.asset).trans (if_pos (mem_upperSet_assets.mpr ⟨e, he, rfl⟩))

theorem get?_handle_none (hpaused : s.paused = false) (h : (s.gate.filter events).eligible ≠ []) {a : Asset}
    (ha : ¬∃ e ∈ (s.gate.filter events).eligible, e.asset = a) :
    (s.handleDiscoveredEvents events now sent).subscriptions.activeEvents.get? a = none := by
  rw [handle_of_eligible hpaused h]
  exact (SubscriptionManager.get?_applyDiff _ sent a).trans (if_neg fun hmem => ha (mem_upperSet_assets.mp hmem))

theorem mem_subscribedAssets {a : Asset} :
    a ∈ s.subscriptions.subscribedAssets ↔ (s.subscriptions.activeEvents.get? a).isSome = true := by
  rw [SubscriptionManager.subscribedAssets, Lib.Dict.mem_keys, Option.isSome_iff_exists]

/-- A scan while the bot is not paused leaves exactly the eligible assets subscribed. -/
def Follows (x : Lib.Taken EventChain Label) : Prop :=
  ∀ events now sent, x.label = .discovered events now sent → x.pre.paused = false →
    ∀ a, a ∈ x.post.subscriptions.subscribedAssets ↔
      ∃ e ∈ (x.pre.gate.filter events).eligible, e.asset = a

/-- Some event of the scan is eligible, or nothing was subscribed. -/
def AnyEligible (s : EventChain) (l : Label) : Prop :=
  ∀ events now sent, l = .discovered events now sent → s.paused = false →
    (s.gate.filter events).eligible = [] → s.subscriptions.subscribedAssets = []

theorem follows_iff (l : Label) : Follows ⟨s, l, s.apply l⟩ ↔ AnyEligible s l := by
  constructor
  · intro h events now sent hl hpaused hempty
    have hall := h events now sent hl hpaused
    subst hl
    simp only [apply, handle_of_empty hempty, hempty] at hall
    rw [List.eq_nil_iff_forall_not_mem]
    intro a ha
    obtain ⟨e, he, -⟩ := (hall a).mp ha
    simp at he
  · rintro h events now sent hl hpaused a
    dsimp only at hl hpaused ⊢
    subst hl
    by_cases hempty : (s.gate.filter events).eligible = []
    · simp only [apply, handle_of_empty hempty, hempty, h events now sent rfl hpaused hempty]
      simp
    · rw [mem_subscribedAssets, apply]
      by_cases he : ∃ e ∈ (s.gate.filter events).eligible, e.asset = a
      · obtain ⟨e, hmem, rfl⟩ := he
        rw [get?_handle hpaused hmem]
        exact iff_of_true rfl ⟨e, hmem, rfl⟩
      · rw [get?_handle_none hpaused hempty he]
        exact iff_of_false (by simp) he

/-- **Subscription follows eligibility** in a run iff no scan finds everything ineligible while something is
subscribed. -/
theorem subscriptions_follow_iff {s' : EventChain} {tr : List (Lib.Taken EventChain Label)}
    (h : Lib.Run Step s tr s') : (∀ x ∈ tr, Follows x) ↔ ∀ x ∈ tr, AnyEligible x.pre x.label := by
  refine Lib.Run.forall_iff (I := fun _ => True) (fun t l u _ hst => ?_) trivial h
  cases hst
  exact ⟨follows_iff l, fun _ => trivial⟩

end Follows

/-! ### The running slot -/

/-- What every history keeps: routes follow the events, and every subscribed asset has one. -/
structure Sound (s : EventChain) : Prop where
  represents : s.subscriptions.Represents
  named : ∀ a c, s.subscriptions.activeEvents.get? a = some c → c ≠ ""

theorem eventAfter_ne {eligible : List DiscoveredEvent} {e : DiscoveredEvent} (he : e ∈ eligible) (now : Time)
    {old : Option ConditionId} (hold : ∀ c, old = some c → c ≠ "") :
    SubscriptionManager.eventAfter (chooseEvents eligible now).eventMap e.asset old =
      ((chooseEvents eligible now).eventMap.data e.asset).conditionId := by
  obtain ⟨e', -, -, hdata⟩ := exists_data now he
  cases old with
  | none => rfl
  | some c => exact if_pos ⟨by rw [hdata]; exact e'.conditionId_ne, hold c rfl⟩

theorem Sound.handle (h : s.Sound) (events : List DiscoveredEvent) (now : Time) (sent : Bool) :
    (s.handleDiscoveredEvents events now sent).Sound := by
  by_cases hpaused : s.paused = true
  · unfold handleDiscoveredEvents
    rw [if_pos hpaused]
    exact h
  · rw [Bool.not_eq_true] at hpaused
    by_cases hempty : (s.gate.filter events).eligible = []
    · rw [handle_of_empty hempty]
      exact h
    · refine ⟨?_, fun a c hget => ?_⟩
      · rw [handle_of_eligible hpaused hempty]
        have hrouted : (s.subscribe (s.gate.filter events).eligible now sent).Routed :=
          h.represents.routed.applyDiff _ sent
        exact ⟨⟨hrouted.route, hrouted.upper⟩, h.represents.tracks.applyDiff _ sent⟩
      · by_cases hmem : ∃ e ∈ (s.gate.filter events).eligible, e.asset = a
        · obtain ⟨e, he, rfl⟩ := hmem
          rw [get?_handle hpaused he, eventAfter_ne he now (h.named _)] at hget
          obtain ⟨e', -, -, hdata⟩ := exists_data now he
          rw [← Option.some.inj hget, hdata]
          exact e'.conditionId_ne
        · rw [get?_handle_none hpaused hempty hmem] at hget
          cases hget

theorem Sound.step {s' : EventChain} {l : Label} (h : s.Sound) (hs : Step s l s') : s'.Sound := by
  cases hs
  cases l with
  | discovered events now sent => exact h.handle events now sent
  | connection state hasWs => exact ⟨h.represents.step (.connection _ state hasWs), h.named⟩
  | resubscribe sent => exact ⟨h.represents.step (.resubscribe _ sent), h.named⟩
  | toggle symbol => exact ⟨h.represents, h.named⟩
  | updateSettings symbol fields => exact ⟨h.represents, h.named⟩
  | load credentials => exact ⟨h.represents, h.named⟩
  | pause => exact ⟨h.represents, h.named⟩
  | resume => exact ⟨h.represents, h.named⟩
  | market pipeline ptbFetcher => exact ⟨h.represents, h.named⟩

theorem sound_of_unsubscribed (h : s.subscriptions = {}) : s.Sound where
  represents := h ▸ SubscriptionManager.represents_empty
  named := by
    intro a c hget
    rw [h] at hget
    cases hget

/-- **Ownership of the running slot.** In whatever order the events of a scan come and whatever was subscribed
before, an asset with one event of the running slot is subscribed for it, and its routes lead to it. -/
theorem current_slot_owner {s₀ : EventChain} {tr : List (Lib.Taken EventChain Label)} (h₀ : s₀.subscriptions = {})
    (h : Lib.Run Step s₀ tr s) (hpaused : s.paused = false) {events scan : List DiscoveredEvent}
    (hperm : scan.Perm events) {now : Time}
    (hone : ∀ e ∈ (s.gate.filter events).eligible, ∀ e' ∈ (s.gate.filter events).eligible,
      e.isCurrent now = true → e'.isCurrent now = true → e.asset = e'.asset → e = e')
    (sent : Bool) {e : DiscoveredEvent} (he : e ∈ (s.gate.filter events).eligible) (hcur : e.isCurrent now = true) :
    (s.handleDiscoveredEvents scan now sent).subscriptions.activeEvents.get? e.asset = some e.conditionId ∧
      ∀ route ∈ (s.handleDiscoveredEvents scan now sent).subscriptions.bridge.tokenRoutes.records,
        route.asset = e.asset → route.conditionId = e.conditionId := by
  have hsound := (h.invariant (I := Sound) (fun _ _ _ ht hst => ht.step hst) (sound_of_unsubscribed h₀)).1
  have hmem : ∀ x, x ∈ (s.gate.filter scan).eligible ↔ x ∈ (s.gate.filter events).eligible := fun x => by
    rw [EligibilityGate.eligible_filter, EligibilityGate.eligible_filter]
    exact (hperm.filter _).mem_iff
  have hscan := (hmem e).mpr he
  have hevent : (s.handleDiscoveredEvents scan now sent).subscriptions.activeEvents.get? e.asset =
      some e.conditionId := by
    rw [get?_handle hpaused hscan, eventAfter_ne hscan now (hsound.named _)]
    obtain ⟨e', he', hcur', hasset, hget⟩ := current_get? hscan hcur
    have hsame : e' = e := hone e' ((hmem e').mp he') e he hcur' hcur hasset
    rw [EventMap.data, Lib.Dict.getD, hget, hsame]
    rfl
  refine ⟨hevent, fun route hroute hasset => ?_⟩
  have hroute' := (hsound.handle scan now sent).represents.routed.route route hroute
  rw [hasset, hevent] at hroute'
  exact (Option.some.inj hroute').symm

@[simp] theorem paused_handle (events : List DiscoveredEvent) (now : Time) (sent : Bool) :
    (s.handleDiscoveredEvents events now sent).paused = s.paused := by
  unfold handleDiscoveredEvents
  dsimp only
  split_ifs <;> rfl

@[simp] theorem gate_handle (events : List DiscoveredEvent) (now : Time) (sent : Bool) :
    (s.handleDiscoveredEvents events now sent).gate = s.gate := by
  unfold handleDiscoveredEvents
  dsimp only
  split_ifs <;> rfl

/-! ### One coin -/

def btcSettings : CoinSettings :=
  { coin := "BTC", coinEnabled := true, deltaThreshold := 50, priceMin := 60, priceMax := 90, timeMin := 30
    timeMax := 240, orderAmount := 5 }

/-- Paper mode with one coin enabled. -/
def tradable : EventChain := { gate := { store := ({} : SettingsStore).set btcSettings, paperMode := true } }

def laterEvent : DiscoveredEvent := btcEvent "later" "btc-updown-5m-1700000700" (by decide)

theorem get_tradable : tradable.gate.store.get "BTC" = some btcSettings := Lib.Table.get?_put_self _ btcSettings

theorem tradable_accepts (conditionId : ConditionId) (slug : String) (h : conditionId ≠ "") :
    tradable.gate.Accepts (btcEvent conditionId slug h) :=
  tradable.gate.accepts_iff.mpr ⟨rfl, (by decide : "BTC" ≠ ""), btcSettings, get_tradable, by decide⟩

theorem eligible_tradable (events : List DiscoveredEvent) (h : ∀ e ∈ events, tradable.gate.Accepts e) :
    (tradable.gate.filter events).eligible = events := by
  rw [EligibilityGate.eligible_filter, List.filter_eq_self]
  exact fun e he => decide_eq_true (h e he)

/-- The first slot is running and its event is subscribed. -/
def running : EventChain := tradable.handleDiscoveredEvents [firstEvent] 1700000150 true

/-- Later the coin is switched off. -/
def switchedOff : EventChain := running.apply (.toggle "BTC")

theorem running_subscribed : "BTC" ∈ running.subscriptions.subscribedAssets := by
  have helig : firstEvent ∈ (tradable.gate.filter [firstEvent]).eligible := by
    rw [eligible_tradable _ (by simp [firstEvent, tradable_accepts])]
    exact List.mem_singleton_self _
  have hget : running.subscriptions.activeEvents.get? "BTC" = some _ := get?_handle (s := tradable) rfl helig
  rw [mem_subscribedAssets, hget]
  rfl

/-- A second coin, and its event of the running slot. -/
def tradableBoth : EventChain :=
  { tradable with gate := { tradable.gate with store := tradable.gate.store.set { btcSettings with coin := "ETH" } } }

def ethEvent : DiscoveredEvent :=
  { btcEvent "ether" "eth-updown-5m-1700000100" (by decide) with
    asset := "ETH", asset_upper := Lib.toUpper_eq_self (by decide) }

/-- Both coins are found, one of them is switched off, and the next two scans find the other one. -/
theorem subscriptions_follow_both : ∃ s tr, Lib.Run Step tradableBoth tr s ∧
    ((tradableBoth.apply (.discovered [firstEvent, ethEvent] 1700000150 true)).subscriptions.subscribedAssets =
      ["BTC", "ETH"] ∧ s.subscriptions.subscribedAssets = ["BTC"]) ∧ ∀ x ∈ tr, Follows x := by
  have hrun : Lib.Run Step tradableBoth _ _ := (((Lib.Run.single
    (.mk _ (.discovered [firstEvent, ethEvent] 1700000150 true))).snoc
    (.mk _ (.toggle "ETH"))).snoc
    (.mk _ (.discovered [firstEvent, ethEvent] 1700000250 true))).snoc
    (.mk _ (.discovered [secondEvent] 1700000450 true))
  refine ⟨_, _, hrun, by decide +kernel, (subscriptions_follow_iff hrun).mpr ?_⟩
  simp only [List.forall_mem_append, List.forall_mem_singleton]
  refine ⟨⟨⟨?_, ?_⟩, ?_⟩, ?_⟩
  · rintro _ _ _ ⟨⟩ - hnone
    exact absurd (congrArg List.isEmpty hnone) (by decide +kernel)
  · rintro _ _ _ ⟨⟩
  · rintro _ _ _ ⟨⟩ - hnone
    exact absurd (congrArg List.isEmpty hnone) (by decide +kernel)
  · rintro _ _ _ ⟨⟩ - hnone
    exact absurd (congrArg List.isEmpty hnone) (by decide +kernel)

/-- **Switched off and still subscribed**: when the only coin is switched off, the next scan finds nothing eligible
and leaves it subscribed. -/
theorem subscriptions_stay :
    ∃ s tr, tradable.subscriptions = {} ∧ Lib.Run Step tradable tr s ∧ ¬∀ x ∈ tr, Follows x := by
  refine ⟨_, _, rfl, ((Lib.Run.single (Step.mk tradable (.discovered [firstEvent] 1700000150 true))).snoc
    (Step.mk running (.toggle "BTC"))).snoc (Step.mk switchedOff (.discovered [firstEvent] 1700000450 true)),
    fun hall => ?_⟩
  have hlast := hall ⟨switchedOff, .discovered [firstEvent] 1700000450 true,
    switchedOff.apply (.discovered [firstEvent] 1700000450 true)⟩ (List.mem_append_right _ (List.mem_singleton_self _))
  have hoff : switchedOff.gate.store.get "BTC" = some btcSettings.toggled := by
    have hgate : running.gate = tradable.gate := gate_handle _ _ _
    refine toggleCoin_toggles ?_
    rw [hgate]
    exact get_tradable
  have hnone : (switchedOff.gate.filter [firstEvent]).eligible = [] := by
    rw [EligibilityGate.eligible_filter, List.filter_eq_nil_iff]
    intro e he hacc
    rw [List.mem_singleton.mp he, decide_eq_true_eq, EligibilityGate.accepts_iff] at hacc
    obtain ⟨-, -, settings, hget, helig⟩ := hacc
    rw [Option.some.inj (hget.symm.trans hoff)] at helig
    exact absurd helig (by decide)
  have hpaused : switchedOff.paused = false := paused_handle (s := tradable) [firstEvent] 1700000150 true
  have hempty := (follows_iff _).mp hlast _ _ _ rfl hpaused hnone
  have hsub : "BTC" ∈ switchedOff.subscriptions.subscribedAssets := running_subscribed
  rw [hempty] at hsub
  cases hsub

/-- In the next slot its event comes after one of the slot after it. -/
theorem current_slot_owner_second :
    (running.handleDiscoveredEvents [laterEvent, secondEvent] 1700000450 false).subscriptions.activeEvents.get? "BTC" =
        some "second" ∧
      ∀ route ∈ (running.handleDiscoveredEvents [laterEvent, secondEvent] 1700000450
          false).subscriptions.bridge.tokenRoutes.records, route.asset = "BTC" → route.conditionId = "second" := by
  have helig : (running.gate.filter [secondEvent, laterEvent]).eligible = [secondEvent, laterEvent] := by
    have hgate : running.gate = tradable.gate := gate_handle _ _ _
    rw [hgate]
    exact eligible_tradable _ (by simp [secondEvent, laterEvent, tradable_accepts])
  have hlater : laterEvent.isCurrent 1700000450 = false := by decide +kernel
  have hfresh : tradable.subscriptions = {} := rfl
  have hrun : Lib.Run Step tradable _ running :=
    Lib.Run.single (Step.mk tradable (.discovered [firstEvent] 1700000150 true))
  have hpaused : running.paused = false := paused_handle (s := tradable) [firstEvent] 1700000150 true
  refine current_slot_owner hfresh hrun hpaused (List.Perm.swap secondEvent laterEvent [])
    (fun e he e' he' hcur hcur' _ => ?_) false (e := secondEvent) (by rw [helig]; simp) (by decide +kernel)
  rw [helig] at he he'
  have honly : ∀ x ∈ [secondEvent, laterEvent], x.isCurrent 1700000450 = true → x = secondEvent := by
    intro x hx hxcur
    rcases List.mem_cons.mp hx with rfl | hx
    · rfl
    · rw [List.mem_singleton.mp hx, hlater] at hxcur
      cases hxcur
  rw [honly e he hcur, honly e' he' hcur']

/-- The next slot begins while the bot is paused: its event is eligible, and the asset stays with that of the slot
before. -/
theorem paused_keeps_old_slot :
    ∃ s tr, Lib.Run Step tradable tr s ∧ s.paused = true ∧ (s.gate.filter [secondEvent]).eligible = [secondEvent] ∧
      secondEvent.isCurrent 1700000450 = true ∧
      (s.handleDiscoveredEvents [secondEvent] 1700000450 true).subscriptions.activeEvents.get? secondEvent.asset ≠
        some secondEvent.conditionId := by
  refine ⟨running.apply .pause, _, (Lib.Run.single (Step.mk tradable (.discovered [firstEvent] 1700000150 true))).snoc
    (Step.mk running .pause), rfl, ?_, ?_, ?_⟩
  · have hgate : running.gate = tradable.gate := gate_handle _ _ _
    change (running.gate.filter _).eligible = _
    rw [hgate]
    exact eligible_tradable _ (by simp [secondEvent, tradable_accepts])
  · decide +kernel
  · decide +kernel

end EventChain

end Polyfast
