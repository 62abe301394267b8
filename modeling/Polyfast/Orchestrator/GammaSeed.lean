import Polyfast.MarketData.WsRouting
import Polyfast.Orchestrator.EventChain

/-!
# The Gamma seed of an event

An event comes with three lists: tokens, outcomes and prices. The routes of the tokens take the side from the outcome
at the same index; the seed takes the first price for Up and the second one for Down, whatever the outcomes are.

* `listedPrice`, `sideAt`: what the lists say about an index;
* `get?_subscribeAsset`: the route of a token has the outcome at its index;
* `get?_seed`: what the handler leaves in the record of an event;
* `gamma_seed_iff`: when the two agree.
-/

namespace Polyfast

/-- The list that the prices are, if they are one. -/
def OutcomePricesRaw.items : OutcomePricesRaw → Option (List PyValue)
  | .text (some (.list items)) | .value (.list items) => some items
  | _ => none

/-- Where `update_from_gamma` reads the price of a side. -/
def OrderSide.gammaIndex : OrderSide → ℕ
  | .up => 0
  | .down => 1

namespace DiscoveredEvent

variable (e : DiscoveredEvent)

def prices : List PyValue := (e.outcomePrices.bind OutcomePricesRaw.items).getD []

/-- The price that is listed at an index. -/
def listedPrice (i : ℕ) : Option ℚ := e.prices[i]?.bind (fun v => v.toFloat.toOption)

/-- The side of the outcome at an index. -/
def sideAt (i : ℕ) : Option OrderSide := e.outcomes[i]?.bind outcomeSide

/-- Tokens, outcomes and prices are lists of one length, and no token is there twice. -/
structure Aligned : Prop where
  prices : ∃ raw items, e.outcomePrices = some raw ∧ raw.items = some items ∧ items.length = e.outcomes.length
  tokens : e.clobTokenIds.length = e.outcomes.length
  nodup : e.clobTokenIds.Nodup

/-- Both sides have a price in range. -/
def Priced : Prop := ∀ side, ∃ i q, e.sideAt i = some side ∧ e.listedPrice i = some q ∧ isValidPrice q = true

/-- The first two prices that are listed are in range. -/
def FirstTwoValid : Prop := ∃ first second, e.listedPrice 0 = some first ∧ e.listedPrice 1 = some second ∧
  isValidPrice first = true ∧ isValidPrice second = true

/-- If the first two prices are in range, the outcomes Up list the first one and the outcomes Down the second one; if
not, one of the sides has no price in range either. -/
def InGammaOrder : Prop :=
  (e.FirstTwoValid → ∀ i side, e.sideAt i = some side → e.listedPrice i = e.listedPrice side.gammaIndex) ∧
    (e.Priced → e.FirstTwoValid)

/-- The seed agrees with the routes that the tokens get: prices of both sides are taken up, and what is taken up of a
side is listed at the indices of the tokens that are routed to it. -/
structure SeedAgrees (m : SubscriptionManager) (p : LivePricePipeline) : Prop where
  seeded : e.Priced → ∃ r, p.records.get? e.conditionId = some r ∧ r.status = .fresh
  sides : ∀ r, p.records.get? e.conditionId = some r → r.status = .fresh → ∀ i token route side,
    e.clobTokenIds[i]? = some token →
    (m.subscribeAsset e.asset e.eventData).bridge.tokenRoutes.get? token = some route → route.writes = some side →
    e.listedPrice i = some (r.bid side) ∧ e.listedPrice i = some (r.ask side)

variable {e}

/-- What Gamma prices are accepted, by the lists of the event. -/
theorem gammaAccepts_iff {raw : OutcomePricesRaw} {items : List PyValue} (hraw : e.outcomePrices = some raw)
    (hitems : raw.items = some items) {first second : ℚ} : gammaAccepts raw = some (first, second) ↔
      e.listedPrice 0 = some first ∧ e.listedPrice 1 = some second ∧ isValidPrice first = true ∧
        isValidPrice second = true := by
  have hprices : e.prices = items := by
    unfold prices
    rw [hraw, Option.bind_some, hitems]
    rfl
  have hparse : parseOutcomePrices raw = some (first, second) ↔
      e.listedPrice 0 = some first ∧ e.listedPrice 1 = some second := by
    have hlist : parseOutcomePrices raw = parseOutcomePrices (.value (.list items)) := by
      cases raw with
      | text loaded =>
        cases loaded with
        | none => cases hitems
        | some v =>
          cases v with
          | list l =>
            obtain rfl := Option.some.inj hitems
            rfl
          | other => cases hitems
      | value v =>
        cases v with
        | list l =>
          obtain rfl := Option.some.inj hitems
          rfl
        | other => cases hitems
    rw [hlist]
    unfold listedPrice
    rw [hprices]
    rcases items with _ | ⟨up, _ | ⟨down, rest⟩⟩
    · simp [parseOutcomePrices]
    · simp [parseOutcomePrices]
    · simp only [parseOutcomePrices]
      cases hup : up.toFloat with
      | error err => simp [hup, Except.toOption]
      | ok u =>
        cases hdown : down.toFloat with
        | error err => simp [hup, hdown, Except.toOption]
        | ok d => simp [hup, hdown, Except.toOption]
  unfold gammaAccepts
  rw [Option.filter_eq_some_iff, hparse]
  simp [and_assoc]

end DiscoveredEvent

/-! ### The routes of the tokens -/

namespace SubscriptionManager

variable {m : SubscriptionManager} {e : DiscoveredEvent}

theorem tokenRoutes_foldl (c : ConditionId) (asset : Asset) (side : ℕ → String) (l : List (TokenId × ℕ)) :
    ∀ b : WSPriceBridge, (l.foldl (fun b (id, i) => b.registerToken id c asset (side i)) b).tokenRoutes =
      (l.map (fun x => (⟨x.1, c, asset, side x.2⟩ : TokenRoute))).foldl Lib.Table.put b.tokenRoutes := by
  induction l with
  | nil => exact fun b => rfl
  | cons x l ih => exact fun b => ih _

/-- **The route of a token** has the outcome at its index. -/
theorem get?_subscribeAsset (h : e.Aligned) {i : ℕ} {token : TokenId} {outcome : String}
    (htoken : e.clobTokenIds[i]? = some token) (houtcome : e.outcomes[i]? = some outcome) :
    (m.subscribeAsset e.asset e.eventData).bridge.tokenRoutes.get? token =
      some ⟨token, e.conditionId, e.asset, outcome⟩ := by
  let routes : List TokenRoute := e.clobTokenIds.zipIdx.map
    (fun x => ⟨x.1, e.conditionId, e.asset, (e.outcomes[x.2]?).getD "up"⟩)
  have hroutes : (m.subscribeAsset e.asset e.eventData).bridge.tokenRoutes =
      routes.foldl Lib.Table.put m.bridge.tokenRoutes :=
    tokenRoutes_foldl e.conditionId e.asset (fun i => (e.outcomes[i]?).getD "up") e.clobTokenIds.zipIdx m.bridge
  have hkeys : routes.map TokenRoute.tokenId = e.clobTokenIds := by
    rw [List.map_map]
    exact List.zipIdx_map_fst 0 e.clobTokenIds
  have hmem : (⟨token, e.conditionId, e.asset, outcome⟩ : TokenRoute) ∈ routes := by
    refine List.mem_map.mpr ⟨(token, i), List.mem_zipIdx_iff_getElem?.mpr htoken, ?_⟩
    rw [houtcome, Option.getD_some]
  rw [hroutes]
  exact Lib.Table.get?_foldl_put (hkeys ▸ h.nodup) hmem _

/-- The side that the token at an index is routed to is that of the outcome there. -/
theorem routed_iff (h : e.Aligned) {i : ℕ} {side : OrderSide} :
    (∃ token route, e.clobTokenIds[i]? = some token ∧
      (m.subscribeAsset e.asset e.eventData).bridge.tokenRoutes.get? token = some route ∧ route.writes = some side) ↔
      e.sideAt i = some side := by
  constructor
  · rintro ⟨token, route, htoken, hroute, hwrites⟩
    have hlt : i < e.outcomes.length := by
      rw [← h.tokens]
      exact (List.getElem?_eq_some_iff.mp htoken).1
    have houtcome := List.getElem?_eq_getElem hlt
    rw [get?_subscribeAsset h htoken houtcome] at hroute
    obtain rfl := Option.some.inj hroute
    unfold DiscoveredEvent.sideAt
    rw [houtcome]
    exact hwrites
  · intro hside
    obtain ⟨outcome, houtcome, hlabel⟩ := Option.bind_eq_some_iff.mp hside
    have hlt : i < e.clobTokenIds.length := by
      rw [h.tokens]
      exact (List.getElem?_eq_some_iff.mp houtcome).1
    exact ⟨_, _, List.getElem?_eq_getElem hlt, get?_subscribeAsset h (List.getElem?_eq_getElem hlt) houtcome, hlabel⟩

end SubscriptionManager

/-! ### What the handler leaves -/

theorem LivePriceRecord.conditionId_applyGamma (r : LivePriceRecord) (raw : OutcomePricesRaw) (spread : ℚ)
    (now : Time) : (r.applyGamma raw spread now).conditionId = r.conditionId := by
  cases haccepts : gammaAccepts raw with
  | none => rw [applyGamma_refused r spread now haccepts]
  | some prices => exact (applyGamma_accepted r spread now haccepts).conditionId

/-- **A seed is accepted** where the first two listed prices are valid. -/
theorem LivePriceRecord.fresh_applyGamma_iff {e : DiscoveredEvent} {raw : OutcomePricesRaw} {items : List PyValue}
    (hraw : e.outcomePrices = some raw) (hitems : raw.items = some items) (r : LivePriceRecord) (now : Time) :
    (r.applyGamma raw 0 now).status = .fresh ↔ e.FirstTwoValid := by
  cases hgamma : gammaAccepts raw with
  | none =>
    rw [applyGamma_refused r 0 now hgamma]
    refine iff_of_false (fun hstatus => by cases hstatus) ?_
    rintro ⟨first, second, hboth⟩
    rw [(DiscoveredEvent.gammaAccepts_iff hraw hitems).mpr hboth] at hgamma
    cases hgamma
  | some prices =>
    rw [(applyGamma_accepted r 0 now hgamma).status]
    exact iff_of_true rfl ⟨prices.1, prices.2, (DiscoveredEvent.gammaAccepts_iff hraw hitems).mp hgamma⟩

/-- **What is seeded**: the first listed price for Up, the second for Down. -/
theorem LivePriceRecord.listed_applyGamma {e : DiscoveredEvent} {raw : OutcomePricesRaw} {items : List PyValue}
    (hraw : e.outcomePrices = some raw) (hitems : raw.items = some items) (hvalid : e.FirstTwoValid)
    (r : LivePriceRecord) (now : Time) (side : OrderSide) :
    e.listedPrice side.gammaIndex = some ((r.applyGamma raw 0 now).bid side) ∧
      e.listedPrice side.gammaIndex = some ((r.applyGamma raw 0 now).ask side) := by
  obtain ⟨first, second, hboth⟩ := hvalid
  obtain ⟨hup, hupAsk, hdown, hdownAsk⟩ :=
    r.applyGamma_quotes 0 now ((DiscoveredEvent.gammaAccepts_iff hraw hitems).mpr hboth)
  cases side with
  | up =>
    constructor
    · exact hboth.1.trans (congrArg some hup.symm)
    · exact hboth.1.trans (congrArg some hupAsk.symm)
  | down =>
    constructor
    · exact hboth.2.1.trans (congrArg some hdown.symm)
    · exact hboth.2.1.trans (congrArg some hdownAsk.symm)

namespace LivePricePipeline

variable {p : LivePricePipeline} {e : DiscoveredEvent} {now : Time} {raw : OutcomePricesRaw}

theorem get?_seed_ne {c : ConditionId} (h : e.conditionId ≠ c) : (p.seed now e).records.get? c = p.records.get? c := by
  unfold seed
  cases e.outcomePrices with
  | none => rfl
  | some raw =>
    refine Lib.Table.get?_put_ne _ ?_
    rw [LivePriceRecord.conditionId_applyGamma, conditionId_getOrCreate]
    exact h

theorem get?_foldl_seed_ne {c : ConditionId} (l : List DiscoveredEvent) (h : ∀ e ∈ l, e.conditionId ≠ c) :
    ∀ p : LivePricePipeline, (l.foldl (seed · now ·) p).records.get? c = p.records.get? c := by
  induction l with
  | nil => exact fun p => rfl
  | cons e l ih =>
    intro p
    rw [List.foldl_cons, ih fun e' he' => h e' (List.mem_cons_of_mem _ he'), get?_seed_ne (h e List.mem_cons_self)]

/-- **The seed of an event** is applied to its record. -/
theorem get?_seed (hraw : e.outcomePrices = some raw) : (p.seed now e).records.get? e.conditionId =
    some ((p.getOrCreate e.conditionId e.asset).applyGamma raw 0 now) := by
  unfold seed
  rw [hraw]
  have hkey : ((p.getOrCreate e.conditionId e.asset).applyGamma raw 0 now).conditionId = e.conditionId := by
    rw [LivePriceRecord.conditionId_applyGamma, conditionId_getOrCreate]
  simp only [updateFromGamma, write, Lib.Table.get?_put, hkey, if_true]

end LivePricePipeline

namespace EventChain

open DiscoveredEvent

variable {s : EventChain} {scan l₁ l₂ : List DiscoveredEvent} {e : DiscoveredEvent} {now : Time} {sent : Bool}
  {raw : OutcomePricesRaw}

/-- The record of an event after the scan in which it is the last one with its condition id. -/
theorem get?_handle_seed (hpaused : s.paused = false) (helig : (s.gate.filter scan).eligible = l₁ ++ e :: l₂)
    (hlast : ∀ e' ∈ l₂, e'.conditionId ≠ e.conditionId) (hraw : e.outcomePrices = some raw) :
    ∃ r : LivePriceRecord, (s.handleDiscoveredEvents scan now sent).pipeline.records.get? e.conditionId =
      some (r.applyGamma raw 0 now) := by
  have hne : (s.gate.filter scan).eligible ≠ [] := by
    rw [helig]
    simp
  rw [handle_of_eligible hpaused hne, helig]
  refine ⟨(l₁.foldl (LivePricePipeline.seed · now ·) s.pipeline).getOrCreate e.conditionId e.asset, ?_⟩
  show ((l₁ ++ e :: l₂).foldl (LivePricePipeline.seed · now ·) s.pipeline).records.get? e.conditionId = _
  rw [List.foldl_append, List.foldl_cons, LivePricePipeline.get?_foldl_seed_ne l₂ hlast,
    LivePricePipeline.get?_seed hraw]

/-- **Seed and routes.** After a scan, for an event whose lists are aligned: what is seeded of a side is listed for the
tokens that are routed to it, and prices of both sides are seeded, exactly if the lists are in the order that
`update_from_gamma` reads them in. -/
theorem gamma_seed_iff (hpaused : s.paused = false) (helig : (s.gate.filter scan).eligible = l₁ ++ e :: l₂)
    (hlast : ∀ e' ∈ l₂, e'.conditionId ≠ e.conditionId) (h : e.Aligned) :
    e.SeedAgrees s.subscriptions (s.handleDiscoveredEvents scan now sent).pipeline ↔ e.InGammaOrder := by
  obtain ⟨raw, items, hraw, hitems, hlen⟩ := h.prices
  obtain ⟨r, hr⟩ : ∃ r : LivePriceRecord,
      (s.handleDiscoveredEvents scan now sent).pipeline.records.get? e.conditionId = some (r.applyGamma raw 0 now) :=
    get?_handle_seed hpaused helig hlast hraw
  have hfresh := r.fresh_applyGamma_iff hraw hitems now
  have hlisted := fun hvalid => r.listed_applyGamma hraw hitems hvalid now
  constructor
  · intro hagrees
    refine ⟨fun hvalid i side hside => ?_, fun hpriced => ?_⟩
    · obtain ⟨token, route, htoken, hroute, hwrites⟩ := (SubscriptionManager.routed_iff h).mpr hside
      have hquotes := hagrees.sides _ hr (hfresh.mpr hvalid) i token route side htoken hroute hwrites
      rw [hquotes.1, (hlisted hvalid side).1]
    · obtain ⟨u, hu, hstatus⟩ := hagrees.seeded hpriced
      obtain rfl := Option.some.inj (hr.symm.trans hu)
      exact hfresh.mp hstatus
  · rintro ⟨hsame, hpriced⟩
    refine ⟨fun hp => ⟨_, hr, hfresh.mpr (hpriced hp)⟩, fun u hu hstatus i token route side htoken hroute hwrites => ?_⟩
    obtain rfl := Option.some.inj (hr.symm.trans hu)
    have hvalid := hfresh.mp hstatus
    have hside := (SubscriptionManager.routed_iff h).mp ⟨token, route, htoken, hroute, hwrites⟩
    rw [hsame hvalid i side hside]
    exact hlisted hvalid side

/-- An event whose first outcome is Up, and one whose first outcome is Down. -/
def upFirst : DiscoveredEvent :=
  { btcEvent "event" "btc-updown-5m-1700000100" (by decide) with
    clobTokenIds := ["up", "down"], outcomes := ["Up", "Down"]
    outcomePrices := some (.text (some (.list [.numStr 0.6, .numStr 0.4]))) }

def downFirst : DiscoveredEvent :=
  { btcEvent "event" "btc-updown-5m-1700000100" (by decide) with
    clobTokenIds := ["down", "up"], outcomes := ["Down", "Up"]
    outcomePrices := some (.text (some (.list [.numStr 0.4, .numStr 0.6]))) }

theorem upFirst_aligned : upFirst.Aligned where
  prices := ⟨_, _, rfl, rfl, rfl⟩
  tokens := rfl
  nodup := by decide

theorem downFirst_aligned : downFirst.Aligned where
  prices := ⟨_, _, rfl, rfl, rfl⟩
  tokens := rfl
  nodup := by decide

/-- A scan that finds one event of the coin. -/
theorem eligible_single (hasset : e.asset = "BTC") : (tradable.gate.filter [e]).eligible = [] ++ e :: [] :=
  eligible_tradable [e] fun e' he' => by
    obtain rfl := List.mem_singleton.mp he'
    rw [EligibilityGate.accepts_iff, hasset]
    exact ⟨rfl, (by decide : "BTC" ≠ ""), btcSettings, get_tradable, by decide⟩

theorem upFirst_inGammaOrder : upFirst.InGammaOrder := by
  have hvalid : upFirst.FirstTwoValid :=
    ⟨0.6, 0.4, by decide +kernel, by decide +kernel, by decide +kernel, by decide +kernel⟩
  refine ⟨fun _ i side hside => ?_, fun _ => hvalid⟩
  rcases i with _ | _ | i
  · obtain rfl := Option.some.inj ((show upFirst.sideAt 0 = some .up by decide +kernel).symm.trans hside)
    rfl
  · obtain rfl := Option.some.inj ((show upFirst.sideAt 1 = some .down by decide +kernel).symm.trans hside)
    rfl
  · cases hside

/-- **The right side**: with the outcomes Up, Down each side is seeded with the price that is listed for it. -/
theorem gamma_seed_upFirst :
    upFirst.SeedAgrees {} (tradable.handleDiscoveredEvents [upFirst] 1700000150 true).pipeline :=
  (gamma_seed_iff rfl (eligible_single rfl) (fun _ he => absurd he List.not_mem_nil) upFirst_aligned).mpr
    upFirst_inGammaOrder

/-- **The wrong side**: with the outcomes Down, Up the price of Down is seeded as the price of Up. -/
theorem downFirst_seeded_reversed : downFirst.Aligned ∧ downFirst.sideAt 1 = some .up ∧
    downFirst.listedPrice 1 = some 0.6 ∧
    ((tradable.handleDiscoveredEvents [downFirst] 1700000150 true).pipeline.records.get? "event").map
      LivePriceRecord.upBid = some 0.4 := by
  refine ⟨downFirst_aligned, by decide +kernel, by decide +kernel, ?_⟩
  have hgamma : gammaAccepts (.text (some (.list [.numStr 0.4, .numStr 0.6]))) = some (0.4, 0.6) := by decide +kernel
  obtain ⟨r, hget⟩ : ∃ r : LivePriceRecord,
      (tradable.handleDiscoveredEvents [downFirst] 1700000150 true).pipeline.records.get? "event" =
        some (r.applyGamma (.text (some (.list [.numStr 0.4, .numStr 0.6]))) 0 1700000150) :=
    get?_handle_seed rfl (eligible_single rfl) (fun _ he => absurd he List.not_mem_nil) rfl
  rw [hget, Option.map_some, (r.applyGamma_quotes 0 1700000150 hgamma).1]

end EventChain

end Polyfast
