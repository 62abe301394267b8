import Mathlib.Data.List.Dedup
import Mathlib.Data.List.Sort
import Polyfast.Lib.Run
import Polyfast.Lib.Text
import Polyfast.MarketData.Subscriptions

/-!
# The subscription manager

Every asset has at most one event that it is subscribed for, `active_events`. `compute_diff` compares these
assets with the eligible ones, `apply_diff` takes on, drops and rotates.

* `get?_applyDiff`: the event an asset is subscribed for afterwards;
* `Routed`, `Routed.applyDiff`: the bridge routes tokens of these events only;
* `represents`: so it stays whatever is applied, and the RTDS client tracks the tokens that are routed.
-/

namespace Polyfast

/-- The `event_data` of an asset. -/
structure EventData where
  conditionId : ConditionId := ""
  tokenIds : List TokenId := []
  sides : List String := []
  slug : String := ""
  deriving DecidableEq

abbrev EventMap := Lib.Dict Asset EventData

/-- `event_map.get(asset, {})`. -/
def EventMap.data (eventMap : EventMap) (asset : Asset) : EventData := eventMap.getD asset {}

structure SubscriptionDiff where
  toSubscribe : List Asset := []
  toUnsubscribe : List Asset := []
  unchanged : List Asset := []
  deriving DecidableEq

structure SubscriptionManager where
  bridge : WSPriceBridge := {}
  coinClient : CoinSubscription := {}
  rtdsClient : RTDSClient := {}
  activeEvents : Lib.Dict Asset ConditionId := .empty

namespace SubscriptionManager

variable (m : SubscriptionManager)

def subscribedAssets : List Asset := m.activeEvents.keys

/-- `set(a.upper() for a in assets)`. -/
def upperSet (assets : List Asset) : List Asset := (assets.map String.toUpper).dedup

def computeDiff (newEligibleAssets : List Asset) : SubscriptionDiff :=
  let newSet := upperSet newEligibleAssets
  let oldSet := m.activeEvents.keys
  { toSubscribe := (newSet.filter (· ∉ oldSet)).insertionSort (· ≤ ·)
    toUnsubscribe := (oldSet.filter (· ∉ newSet)).insertionSort (· ≤ ·)
    unchanged := (newSet.filter (· ∈ oldSet)).insertionSort (· ≤ ·) }

/-- `_subscribe_asset`. -/
def subscribeAsset (asset : Asset) (eventData : EventData) : SubscriptionManager :=
  { m with
    bridge := eventData.tokenIds.zipIdx.foldl (fun b (tokenId, i) =>
      b.registerToken tokenId eventData.conditionId asset ((eventData.sides[i]?).getD "up")) m.bridge
    coinClient :=
      if asset.toUpper ∈ m.coinClient.coins.map String.toUpper then m.coinClient
      else m.coinClient.setCoins (m.coinClient.coins ++ [asset.toUpper]) }

/-- `_unsubscribe_asset`. -/
def unsubscribeAsset (asset : Asset) : SubscriptionManager :=
  let tokenIdsToRemove :=
    (m.bridge.tokenRoutes.records.filter (fun route => route.asset.toUpper = asset.toUpper)).map TokenRoute.tokenId
  { m with bridge := tokenIdsToRemove.foldl WSPriceBridge.unregisterToken m.bridge }

section Diff

variable (eventMap : EventMap)

/-- A new asset. -/
def takeOn (asset : Asset) : SubscriptionManager :=
  { m.subscribeAsset asset (eventMap.data asset) with
    activeEvents := m.activeEvents.set asset (eventMap.data asset).conditionId }

/-- An asset that is no longer eligible. -/
def drop (asset : Asset) : SubscriptionManager :=
  { m.unsubscribeAsset asset with activeEvents := m.activeEvents.erase asset }

/-- The asset has come to another event. -/
def Rotates (asset : Asset) : Prop :=
  (eventMap.data asset).conditionId ≠ "" ∧ m.activeEvents.getD asset "" ≠ "" ∧
    (eventMap.data asset).conditionId ≠ m.activeEvents.getD asset ""

instance (asset : Asset) : Decidable (m.Rotates eventMap asset) := inferInstanceAs (Decidable (_ ∧ _ ∧ _))

/-- An asset that stays eligible: rotated if it has come to another event. -/
def refresh (asset : Asset) : SubscriptionManager :=
  if m.Rotates eventMap asset then (m.unsubscribeAsset asset).takeOn eventMap asset else m

/-- The assets that stay, one after the other; the flag says whether one has been rotated. -/
def refreshAll (acc : SubscriptionManager × Bool) (asset : Asset) : SubscriptionManager × Bool :=
  (acc.1.refresh eventMap asset, acc.2 || acc.1.Rotates eventMap asset)

/-- The RTDS client is told what the bridge routes. -/
def resubscribe (sent : Bool) : SubscriptionManager :=
  let allTokens := m.bridge.registeredTokenIds
  let client := m.rtdsClient.updateSubscription allTokens
  { m with rtdsClient := if client.isConnected then (client.subscribe allTokens sent).1 else client }

/-- `apply_diff`, where `sent` says whether the subscribe message can be sent. -/
def applyDiff (diff : SubscriptionDiff) (sent : Bool) : SubscriptionManager :=
  let m := diff.toSubscribe.foldl (fun m asset => m.takeOn eventMap asset) m
  let m := diff.toUnsubscribe.foldl drop m
  let (m, rotated) := diff.unchanged.foldl (refreshAll eventMap) (m, false)
  let changed := !diff.toSubscribe.isEmpty || !diff.toUnsubscribe.isEmpty || rotated
  if changed then m.resubscribe sent else m

end Diff

/-! ### The event an asset is subscribed for -/

variable {m}

theorem mem_upperSet {assets : List Asset} {a : Asset} : a ∈ upperSet assets ↔ ∃ x ∈ assets, x.toUpper = a := by
  simp [upperSet]

theorem toUpper_of_mem_upperSet {assets : List Asset} {a : Asset} (h : a ∈ upperSet assets) : a.toUpper = a := by
  obtain ⟨x, -, rfl⟩ := mem_upperSet.mp h
  exact Lib.toUpper_toUpper x

theorem mem_toSubscribe {assets : List Asset} {a : Asset} :
    a ∈ (m.computeDiff assets).toSubscribe ↔ a ∈ upperSet assets ∧ a ∉ m.activeEvents.keys := by
  simp [computeDiff]

theorem mem_toUnsubscribe {assets : List Asset} {a : Asset} :
    a ∈ (m.computeDiff assets).toUnsubscribe ↔ a ∈ m.activeEvents.keys ∧ a ∉ upperSet assets := by
  simp [computeDiff]

theorem mem_unchanged {assets : List Asset} {a : Asset} :
    a ∈ (m.computeDiff assets).unchanged ↔ a ∈ upperSet assets ∧ a ∈ m.activeEvents.keys := by
  simp [computeDiff]

theorem nodup_toSubscribe (assets : List Asset) : (m.computeDiff assets).toSubscribe.Nodup :=
  (List.perm_insertionSort _ _).nodup_iff.mpr ((List.nodup_dedup _).filter _)

variable {eventMap : EventMap}

/-- The event of a subscribed asset that stays eligible, where `old` was its event. -/
def nextEvent (eventMap : EventMap) (asset : Asset) (old : ConditionId) : ConditionId :=
  if (eventMap.data asset).conditionId ≠ "" ∧ old ≠ "" then (eventMap.data asset).conditionId else old

theorem nextEvent_nextEvent (asset : Asset) (old : ConditionId) :
    nextEvent eventMap asset (nextEvent eventMap asset old) = nextEvent eventMap asset old := by
  unfold nextEvent
  by_cases h : (eventMap.data asset).conditionId ≠ "" ∧ old ≠ ""
  · rw [if_pos h, if_pos ⟨h.1, h.1⟩]
  · rw [if_neg h, if_neg h]

/-- The event of an eligible asset, where `old` was its event if it had one. -/
def eventAfter (eventMap : EventMap) (asset : Asset) : Option ConditionId → ConditionId
  | none => (eventMap.data asset).conditionId
  | some old => nextEvent eventMap asset old

theorem get?_foldl_takeOn (l : List Asset) (a : Asset) :
    (l.foldl (fun m asset => m.takeOn eventMap asset) m).activeEvents.get? a =
      if a ∈ l then some (eventMap.data a).conditionId else m.activeEvents.get? a := by
  refine Lib.Dict.foldl_lookup (fun m a => m.activeEvents.get? a)
    (fun a => some (eventMap.data a).conditionId) (fun m x a => ?_) l m a
  rw [takeOn, Lib.Dict.get?_set]
  split_ifs with hx
  · rw [hx]
  · rfl

theorem get?_foldl_drop (l : List Asset) (a : Asset) :
    (l.foldl drop m).activeEvents.get? a = if a ∈ l then none else m.activeEvents.get? a := by
  refine Lib.Dict.foldl_lookup (fun m a => m.activeEvents.get? a) (fun _ => none) (fun m x a => ?_) l m a
  rw [drop, Lib.Dict.get?_erase]

theorem get?_refresh (x a : Asset) :
    (m.refresh eventMap x).activeEvents.get? a =
      if x = a then (m.activeEvents.get? a).map (nextEvent eventMap a) else m.activeEvents.get? a := by
  unfold refresh
  by_cases hx : x = a
  · subst hx
    rw [if_pos rfl]
    by_cases hrot : m.Rotates eventMap x
    · rw [if_pos hrot]
      obtain ⟨hnew, hold, -⟩ := hrot
      rw [takeOn, Lib.Dict.get?_set, if_pos rfl]
      cases hget : m.activeEvents.get? x with
      | none => simp [Lib.Dict.getD, hget] at hold
      | some old =>
        rw [Lib.Dict.getD, hget] at hold
        rw [Option.map_some, nextEvent, if_pos ⟨hnew, hold⟩]
    · rw [if_neg hrot]
      cases hget : m.activeEvents.get? x with
      | none => rfl
      | some old =>
        rw [Option.map_some, nextEvent]
        split_ifs with hne
        · have hsame : (eventMap.data x).conditionId = old := by
            by_contra hdiff
            exact hrot ⟨hne.1, by simpa [Lib.Dict.getD, hget] using hne.2, by simpa [Lib.Dict.getD, hget] using hdiff⟩
          rw [hsame]
        · rfl
  · rw [if_neg hx]
    split_ifs
    · rw [takeOn, Lib.Dict.get?_set, if_neg hx]
      rfl
    · rfl

theorem get?_foldl_refreshAll (l : List Asset) (acc : SubscriptionManager × Bool) (a : Asset) :
    (l.foldl (refreshAll eventMap) acc).1.activeEvents.get? a =
      if a ∈ l then (acc.1.activeEvents.get? a).map (nextEvent eventMap a) else acc.1.activeEvents.get? a := by
  induction l generalizing acc with
  | nil => simp
  | cons x l ih =>
    rw [List.foldl_cons, ih, refreshAll, get?_refresh]
    by_cases hx : x = a
    · subst hx
      rw [if_pos rfl, if_pos List.mem_cons_self, Option.map_map]
      have hidem : nextEvent eventMap x ∘ nextEvent eventMap x = nextEvent eventMap x :=
        funext (nextEvent_nextEvent x)
      rw [hidem, ite_self]
    · rw [if_neg hx]
      by_cases hl : a ∈ l
      · rw [if_pos hl, if_pos (List.mem_cons_of_mem _ hl)]
      · rw [if_neg hl, if_neg (by simp [hl, Ne.symm hx])]

@[simp] theorem activeEvents_resubscribe (sent : Bool) : (m.resubscribe sent).activeEvents = m.activeEvents := rfl

theorem get?_applyDiff_diff (diff : SubscriptionDiff) (sent : Bool) (a : Asset) :
    (m.applyDiff eventMap diff sent).activeEvents.get? a =
      let got := if a ∈ diff.toUnsubscribe then none
        else if a ∈ diff.toSubscribe then some (eventMap.data a).conditionId else m.activeEvents.get? a
      if a ∈ diff.unchanged then got.map (nextEvent eventMap a) else got := by
  unfold applyDiff
  dsimp only
  split_ifs with hchanged
  all_goals
    simp only [activeEvents_resubscribe, get?_foldl_refreshAll, get?_foldl_drop, get?_foldl_takeOn, *, if_true,
      if_false]

/-- **Afterwards** the eligible assets are subscribed, and no others: a new one for its event in the map, an old one
for that event if both have a condition id, else for its old event. -/
theorem get?_applyDiff (assets : List Asset) (sent : Bool) (a : Asset) :
    (m.applyDiff eventMap (m.computeDiff assets) sent).activeEvents.get? a =
      if a ∈ upperSet assets then some (eventAfter eventMap a (m.activeEvents.get? a)) else none := by
  rw [get?_applyDiff_diff]
  simp only [mem_unchanged, mem_toUnsubscribe, mem_toSubscribe]
  cases hget : m.activeEvents.get? a with
  | none =>
    have hkey : a ∉ m.activeEvents.keys := Lib.Dict.get?_eq_none_iff.mp hget
    by_cases hnew : a ∈ upperSet assets <;> simp [hkey, hnew, eventAfter]
  | some old =>
    have hkey : a ∈ m.activeEvents.keys := Lib.Dict.mem_keys.mpr ⟨old, hget⟩
    by_cases hnew : a ∈ upperSet assets <;> simp [hkey, hnew, eventAfter]

/-! ### What the bridge routes -/

theorem mem_foldl_unregister {b : WSPriceBridge} (ids : List TokenId) {route : TokenRoute} :
    route ∈ (ids.foldl WSPriceBridge.unregisterToken b).tokenRoutes.records ↔
      route ∈ b.tokenRoutes.records ∧ route.tokenId ∉ ids := by
  induction ids generalizing b with
  | nil => simp
  | cons id ids ih =>
    rw [List.foldl_cons, ih, WSPriceBridge.mem_unregisterToken, List.mem_cons, not_or, and_assoc]

/-- Only routes of other assets are left. -/
theorem mem_unsubscribeAsset {asset : Asset} {route : TokenRoute} :
    route ∈ (m.unsubscribeAsset asset).bridge.tokenRoutes.records ↔
      route ∈ m.bridge.tokenRoutes.records ∧ route.asset.toUpper ≠ asset.toUpper := by
  unfold unsubscribeAsset
  dsimp only
  rw [mem_foldl_unregister]
  refine and_congr_right fun hroute => ?_
  rw [← not_iff_not, not_not, not_not, List.mem_map]
  constructor
  · rintro ⟨route', hroute', hid⟩
    obtain ⟨hmem, hasset⟩ := List.mem_filter.mp hroute'
    have hsame : route' = route := by
      rw [Lib.Table.mem_records] at hmem hroute
      rw [hid, hroute] at hmem
      exact (Option.some.inj hmem).symm
    rw [← hsame]
    exact of_decide_eq_true hasset
  · intro hasset
    exact ⟨route, List.mem_filter.mpr ⟨hroute, decide_eq_true hasset⟩, rfl⟩

theorem mem_foldl_register {b : WSPriceBridge} {c : ConditionId} {asset : Asset} (side : ℕ → String)
    (l : List (TokenId × ℕ)) {route : TokenRoute}
    (h : route ∈ (l.foldl (fun b (id, i) => b.registerToken id c asset (side i)) b).tokenRoutes.records) :
    route ∈ b.tokenRoutes.records ∨ route.asset = asset ∧ route.conditionId = c := by
  induction l generalizing b with
  | nil => exact .inl h
  | cons e l ih =>
    rcases ih h with hold | hnew
    · rcases b.mem_registerToken hold with hold | rfl
      · exact .inl hold
      · exact .inr ⟨rfl, rfl⟩
    · exact .inr hnew

/-- The new routes are the asset's and lead to its event. -/
theorem mem_subscribeAsset {asset : Asset} {eventData : EventData} {route : TokenRoute}
    (h : route ∈ (m.subscribeAsset asset eventData).bridge.tokenRoutes.records) :
    route ∈ m.bridge.tokenRoutes.records ∨ route.asset = asset ∧ route.conditionId = eventData.conditionId :=
  mem_foldl_register (fun i => (eventData.sides[i]?).getD "up") _ h

/-- Every route leads to the event that its asset is subscribed for. -/
structure Routed (m : SubscriptionManager) : Prop where
  route : ∀ route ∈ m.bridge.tokenRoutes.records, m.activeEvents.get? route.asset = some route.conditionId
  upper : ∀ a ∈ m.activeEvents.keys, a.toUpper = a

theorem Routed.asset_upper (h : m.Routed) {route : TokenRoute} (hroute : route ∈ m.bridge.tokenRoutes.records) :
    route.asset.toUpper = route.asset :=
  h.upper _ (Lib.Dict.mem_keys.mpr ⟨_, h.route route hroute⟩)

/-- No route is left for an asset that is not subscribed. -/
theorem Routed.no_route (h : m.Routed) {a : Asset} (ha : m.activeEvents.get? a = none) {route : TokenRoute}
    (hroute : route ∈ m.bridge.tokenRoutes.records) : route.asset ≠ a := by
  rintro rfl
  rw [h.route route hroute] at ha
  cases ha

theorem Routed.takeOn (h : m.Routed) {asset : Asset} (hupper : asset.toUpper = asset)
    (hnone : ∀ route ∈ m.bridge.tokenRoutes.records, route.asset ≠ asset) : (m.takeOn eventMap asset).Routed where
  route := by
    intro route hroute
    change Lib.Dict.get? (m.activeEvents.set _ _) _ = _
    rcases mem_subscribeAsset hroute with hold | ⟨hasset, hcond⟩
    · rw [Lib.Dict.get?_set_ne _ (Ne.symm (hnone route hold))]
      exact h.route route hold
    · rw [hasset, hcond, Lib.Dict.get?_set, if_pos rfl]
  upper := by
    intro a ha
    obtain ⟨c, hc⟩ := Lib.Dict.mem_keys.mp ha
    change Lib.Dict.get? (m.activeEvents.set _ _) _ = _ at hc
    rw [Lib.Dict.get?_set] at hc
    split_ifs at hc with hasset
    · rw [← hasset]
      exact hupper
    · exact h.upper a (Lib.Dict.mem_keys.mpr ⟨c, hc⟩)

/-- The routes of an asset go before its event does. -/
theorem Routed.unsubscribe (h : m.Routed) (asset : Asset) : (m.unsubscribeAsset asset).Routed where
  route := fun route hroute => h.route route (mem_unsubscribeAsset.mp hroute).1
  upper := h.upper

theorem ne_of_mem_unsubscribeAsset {asset : Asset} {route : TokenRoute}
    (h : route ∈ (m.unsubscribeAsset asset).bridge.tokenRoutes.records) : route.asset ≠ asset := by
  rintro rfl
  exact (mem_unsubscribeAsset.mp h).2 rfl

theorem Routed.drop (h : m.Routed) (asset : Asset) : (m.drop asset).Routed where
  route := by
    intro route hroute
    change Lib.Dict.get? (m.activeEvents.erase _) _ = _
    rw [Lib.Dict.get?_erase_ne _ (Ne.symm (ne_of_mem_unsubscribeAsset hroute))]
    exact h.route route (mem_unsubscribeAsset.mp hroute).1
  upper := by
    intro a ha
    obtain ⟨c, hc⟩ := Lib.Dict.mem_keys.mp ha
    change Lib.Dict.get? (m.activeEvents.erase _) _ = _ at hc
    rw [Lib.Dict.get?_erase] at hc
    split_ifs at hc
    exact h.upper a (Lib.Dict.mem_keys.mpr ⟨c, hc⟩)

theorem Routed.refresh (h : m.Routed) {asset : Asset} (hupper : asset.toUpper = asset) :
    (m.refresh eventMap asset).Routed := by
  unfold SubscriptionManager.refresh
  split_ifs
  · exact (h.unsubscribe asset).takeOn hupper fun route hroute => ne_of_mem_unsubscribeAsset hroute
  · exact h

theorem Routed.foldl_takeOn {l : List Asset} (hnd : l.Nodup) (h : m.Routed)
    (hl : ∀ a ∈ l, a.toUpper = a ∧ m.activeEvents.get? a = none) :
    (l.foldl (fun m asset => m.takeOn eventMap asset) m).Routed := by
  induction l generalizing m with
  | nil => exact h
  | cons x l ih =>
    obtain ⟨hx, hnd⟩ := List.nodup_cons.mp hnd
    obtain ⟨hupper, hnone⟩ := hl x List.mem_cons_self
    refine ih hnd (h.takeOn hupper fun route => h.no_route hnone) fun a ha => ?_
    obtain ⟨haupper, hanone⟩ := hl a (List.mem_cons_of_mem _ ha)
    have hne : x ≠ a := by
      rintro rfl
      exact hx ha
    exact ⟨haupper, (Lib.Dict.get?_set_ne _ hne _).trans hanone⟩

theorem Routed.foldl_drop (h : m.Routed) (l : List Asset) :
    (l.foldl SubscriptionManager.drop m).Routed := by
  induction l generalizing m with
  | nil => exact h
  | cons x l ih => exact ih (h.drop x)

theorem Routed.foldl_refreshAll {l : List Asset} {acc : SubscriptionManager × Bool} (h : acc.1.Routed)
    (hl : ∀ a ∈ l, a.toUpper = a) : (l.foldl (refreshAll eventMap) acc).1.Routed := by
  induction l generalizing acc with
  | nil => exact h
  | cons x l ih =>
    refine ih ?_ fun a ha => hl a (List.mem_cons_of_mem _ ha)
    exact h.refresh (hl x List.mem_cons_self)

theorem Routed.resubscribe (h : m.Routed) (sent : Bool) : (m.resubscribe sent).Routed := ⟨h.route, h.upper⟩

/-- **Routes stay with the events**, whatever becomes eligible. -/
theorem Routed.applyDiff (h : m.Routed) (assets : List Asset) (sent : Bool) :
    (m.applyDiff eventMap (m.computeDiff assets) sent).Routed := by
  have htake : ((m.computeDiff assets).toSubscribe.foldl (fun m asset => m.takeOn eventMap asset) m).Routed := by
    refine h.foldl_takeOn (nodup_toSubscribe assets) fun a ha => ?_
    obtain ⟨hnew, hold⟩ := mem_toSubscribe.mp ha
    exact ⟨toUpper_of_mem_upperSet hnew, Lib.Dict.get?_eq_none_iff.mpr hold⟩
  have hdrop := htake.foldl_drop (m.computeDiff assets).toUnsubscribe
  have hupper : ∀ a ∈ (m.computeDiff assets).unchanged, a.toUpper = a := fun a ha =>
    toUpper_of_mem_upperSet (mem_unchanged.mp ha).1
  unfold SubscriptionManager.applyDiff
  dsimp only
  split_ifs
  · exact Routed.resubscribe (Routed.foldl_refreshAll hdrop hupper) sent
  · exact Routed.foldl_refreshAll hdrop hupper

/-! ### What the RTDS client tracks -/

/-- The RTDS client tracks the tokens that are routed. -/
def Tracks (m : SubscriptionManager) : Prop := m.rtdsClient.subscribedTokens = m.bridge.registeredTokenIds

theorem resubscribe_tracks (m : SubscriptionManager) (sent : Bool) : (m.resubscribe sent).Tracks := by
  unfold Tracks resubscribe
  dsimp only
  split_ifs
  · exact (m.rtdsClient.updateSubscription m.bridge.registeredTokenIds).subscribedTokens_subscribe sent
  · rfl

theorem foldl_refreshAll_flag (l : List Asset) (acc : SubscriptionManager × Bool)
    (h : (l.foldl (refreshAll eventMap) acc).2 = false) :
    (l.foldl (refreshAll eventMap) acc).1 = acc.1 ∧ acc.2 = false := by
  induction l generalizing acc with
  | nil => exact ⟨rfl, h⟩
  | cons x l ih =>
    obtain ⟨hsame, hflag⟩ := ih (refreshAll eventMap acc x) h
    obtain ⟨hacc, hrot⟩ := Bool.or_eq_false_iff.mp hflag
    rw [List.foldl_cons, hsame]
    exact ⟨if_neg (of_decide_eq_false hrot), hacc⟩

/-- Where nothing changed the tokens are those of before, elsewhere the client is told. -/
theorem Tracks.applyDiff (h : m.Tracks) (diff : SubscriptionDiff) (sent : Bool) :
    (m.applyDiff eventMap diff sent).Tracks := by
  unfold SubscriptionManager.applyDiff
  dsimp only
  split_ifs with hchanged
  · exact resubscribe_tracks _ sent
  · simp only [Bool.or_eq_true, Bool.not_eq_true', List.isEmpty_eq_false_iff, not_or, not_not, Bool.not_eq_true]
      at hchanged
    obtain ⟨⟨hsub, hunsub⟩, hrot⟩ := hchanged
    rw [(foldl_refreshAll_flag _ _ hrot).1, hsub, hunsub]
    exact h

/-! ### Whatever is applied -/

inductive Label
  /-- A diff is computed and applied. -/
  | apply (newEligibleAssets : List Asset) (eventMap : EventMap) (sent : Bool)
  /-- The connection comes or goes. -/
  | connection (state : ConnectionState) (hasWs : Bool)
  /-- The tokens are sent again after a reconnect. -/
  | resubscribe (sent : Bool)

inductive Step : SubscriptionManager → Label → SubscriptionManager → Prop
  | apply (m : SubscriptionManager) (newEligibleAssets : List Asset) (eventMap : EventMap) (sent : Bool) :
      Step m (.apply newEligibleAssets eventMap sent) (m.applyDiff eventMap (m.computeDiff newEligibleAssets) sent)
  | connection (m : SubscriptionManager) (state : ConnectionState) (hasWs : Bool) :
      Step m (.connection state hasWs)
        { m with rtdsClient := { m.rtdsClient with state := state, hasWs := hasWs } }
  | resubscribe (m : SubscriptionManager) (sent : Bool) :
      Step m (.resubscribe sent) { m with rtdsClient := (m.rtdsClient.resubscribe sent).1 }

/-- Routes and tracked tokens are those of the events that the assets are subscribed for. -/
structure Represents (m : SubscriptionManager) : Prop where
  routed : m.Routed
  tracks : m.Tracks

theorem represents_empty : Represents {} where
  routed := ⟨by simp [Lib.Table.records, Lib.Table.empty, Lib.Dict.values, Lib.Dict.empty], by simp⟩
  tracks := rfl

theorem Represents.step {m' : SubscriptionManager} {l : Label} (h : m.Represents) (hs : Step m l m') :
    m'.Represents := by
  cases hs with
  | apply assets eventMap sent => exact ⟨h.routed.applyDiff assets sent, h.tracks.applyDiff _ sent⟩
  | connection state hasWs => exact ⟨⟨h.routed.route, h.routed.upper⟩, h.tracks⟩
  | resubscribe sent =>
    exact ⟨⟨h.routed.route, h.routed.upper⟩, (m.rtdsClient.subscribedTokens_resubscribe sent).trans h.tracks⟩

/-- **Representation.** Whatever is applied, and however the connection fares, every route leads to the event its
asset is subscribed for, and the RTDS client tracks the tokens of the routes. -/
theorem subscriptions_represent {tr : List (Lib.Taken SubscriptionManager Label)} (h : Lib.Run Step {} tr m) :
    (∀ route ∈ m.bridge.tokenRoutes.records, m.activeEvents.get? route.asset = some route.conditionId) ∧
      m.rtdsClient.subscribedTokens = m.bridge.registeredTokenIds := by
  have hall := (h.invariant (I := Represents) (fun _ _ _ hm hs => hm.step hs) represents_empty).1
  exact ⟨hall.routed.route, hall.tracks⟩

/-- One coin with the two tokens of an event. -/
def oneCoin (conditionId : ConditionId) (up down : TokenId) : EventMap :=
  Lib.Dict.empty.set "BTC" { conditionId := conditionId, tokenIds := [up, down], sides := ["Up", "Down"] }

/-- The coin is subscribed for its first event. -/
def subscribed : SubscriptionManager :=
  ({} : SubscriptionManager).applyDiff (oneCoin "first" "1" "2") (({} : SubscriptionManager).computeDiff ["BTC"]) true

/-- It comes to its second event, with the socket closed. -/
def rotated : SubscriptionManager :=
  subscribed.applyDiff (oneCoin "second" "3" "4") (subscribed.computeDiff ["BTC"]) false

theorem rotated_represents :
    (∀ route ∈ rotated.bridge.tokenRoutes.records, rotated.activeEvents.get? route.asset = some route.conditionId) ∧
      rotated.rtdsClient.subscribedTokens = rotated.bridge.registeredTokenIds :=
  subscriptions_represent ((Lib.Run.single (Step.apply {} ["BTC"] (oneCoin "first" "1" "2") true)).snoc
    (Step.apply subscribed ["BTC"] (oneCoin "second" "3" "4") false))

end SubscriptionManager

end Polyfast
