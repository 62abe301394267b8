import Polyfast.MarketData.PriceFeed
import Polyfast.MarketData.WsMessages

/-!
# What a message leaves alone

A message names tokens, and its prices go to the records that these are routed to. A record that is not there yet is
made first, without prices.

* `RoutedOnly`, `onWsMessage_routedOnly`: only those records change, and in them only the sides of the tokens;
* `InRange`, `Step.inRange`: what every writer of the pipeline keeps;
* `ws_routing_frame`: both, for every message and over every run.
-/

namespace Polyfast

/-! ### The tokens of a message -/

def WsEvent.names (e : WsEvent) (token : TokenId) : Prop := e.assetId = .text token

def WsDict.names (d : WsDict) (token : TokenId) : Prop :=
  d.event.names token ∨ ∃ entries, d.priceChanges = .items entries ∧ ∃ e, some e ∈ entries ∧ e.names token

/-- The message has the token as an `asset_id`. -/
def WsMessage.names (m : WsMessage) (token : TokenId) : Prop :=
  match m with
  | .list items => ∃ d, some d ∈ items ∧ d.names token
  | .dict d => d.names token
  | .other => False

/-! ### What a message leaves alone -/

/-- The side that a label names. -/
def outcomeSide (label : String) : Option OrderSide :=
  if label.toLower = "up" then some .up else if label.toLower = "down" then some .down else none

/-- The side whose prices a token has. -/
def TokenRoute.writes (route : TokenRoute) : Option OrderSide := outcomeSide route.side

/-- One of the tokens is routed to the condition. -/
structure WSPriceBridge.Routes (b : WSPriceBridge) (tokens : TokenId → Prop) (c : ConditionId) (route : TokenRoute) :
    Prop where
  token : tokens route.tokenId
  get : b.tokenRoutes.get? route.tokenId = some route
  condition : route.conditionId = c

/-- Bid and ask are written of these sides only; spread, status, time and source may be. -/
structure LivePriceRecord.WritesSides (sides : OrderSide → Prop) (r r' : LivePriceRecord) : Prop where
  conditionId : r'.conditionId = r.conditionId
  asset : r'.asset = r.asset
  threshold : r'.staleThresholdSec = r.staleThresholdSec
  others : ∀ side, ¬sides side → r'.bid side = r.bid side ∧ r'.ask side = r.ask side

/-- Only the records of conditions that one of the tokens is routed to may change, and in them only the sides that
these routes write. -/
def RoutedOnly (b : WSPriceBridge) (tokens : TokenId → Prop) (p p' : LivePricePipeline) : Prop :=
  p'.staleThreshold = p.staleThreshold ∧ ∀ c, p'.records.get? c = p.records.get? c ∨
    ∃ route, b.Routes tokens c route ∧ ∃ r', p'.records.get? c = some r' ∧
      LivePriceRecord.WritesSides (fun side => ∃ other, b.Routes tokens c other ∧ other.writes = some side)
        (p.getOrCreate c route.asset) r'

variable {b : WSPriceBridge} {tokens tokens' : TokenId → Prop} {p p' p'' : LivePricePipeline} {c : ConditionId}
  {asset : Asset} {side : String} {bestBid bestAsk : ℚ} {now : Time}

theorem LivePriceRecord.WritesSides.trans {sides : OrderSide → Prop} {r r' r'' : LivePriceRecord}
    (h : WritesSides sides r r') (h' : WritesSides sides r' r'') : WritesSides sides r r'' where
  conditionId := h'.conditionId.trans h.conditionId
  asset := h'.asset.trans h.asset
  threshold := h'.threshold.trans h.threshold
  others side hside :=
    ⟨(h'.others side hside).1.trans (h.others side hside).1, (h'.others side hside).2.trans (h.others side hside).2⟩

theorem RoutedOnly.refl (b : WSPriceBridge) (tokens : TokenId → Prop) (p : LivePricePipeline) :
    RoutedOnly b tokens p p := ⟨rfl, fun _ => .inl rfl⟩

theorem RoutedOnly.trans (h : RoutedOnly b tokens p p') (h' : RoutedOnly b tokens p' p'') :
    RoutedOnly b tokens p p'' := by
  refine ⟨h'.1.trans h.1, fun c => ?_⟩
  rcases h'.2 c with hsame' | ⟨route', hroute', r'', hr'', hwrites'⟩
  · rw [hsame']
    exact h.2 c
  · rcases h.2 c with hsame | ⟨route, hroute, r', hr', hwrites⟩
    · refine .inr ⟨route', hroute', r'', hr'', ?_⟩
      unfold LivePricePipeline.getOrCreate at hwrites' ⊢
      rw [hsame, h.1] at hwrites'
      exact hwrites'
    · rw [Feed.getOrCreate_of_get? _ hr'] at hwrites'
      exact .inr ⟨route, hroute, r'', hr'', hwrites.trans hwrites'⟩

theorem LivePricePipeline.conditionId_getOrCreate (p : LivePricePipeline) (c : ConditionId) (asset : Asset) :
    (p.getOrCreate c asset).conditionId = c := by
  unfold getOrCreate
  cases hget : p.records.get? c with
  | none => rfl
  | some r => exact Lib.Table.key_of_get? hget

/-- An update writes the side that it accepts. -/
theorem LivePriceRecord.applyWs_writes (r : LivePriceRecord) (side : String) (bestBid bestAsk : ℚ) (now : Time) :
    WritesSides (fun s => wsAccepts side bestBid bestAsk = some s) r (r.applyWs side bestBid bestAsk now) := by
  cases haccepts : wsAccepts side bestBid bestAsk with
  | none =>
    rcases applyWs_refused r now haccepts with hsame | ⟨-, hinvalid⟩
    · rw [hsame]
      exact ⟨rfl, rfl, rfl, fun _ _ => ⟨rfl, rfl⟩⟩
    · rw [hinvalid]
      exact ⟨rfl, rfl, rfl, fun s _ => by cases s <;> exact ⟨rfl, rfl⟩⟩
  | some s =>
    rw [applyWs_accepted r now haccepts]
    cases s with
    | up =>
      refine ⟨rfl, rfl, rfl, fun s hs => ?_⟩
      cases s with
      | up => exact absurd rfl hs
      | down => exact ⟨rfl, rfl⟩
    | down =>
      refine ⟨rfl, rfl, rfl, fun s hs => ?_⟩
      cases s with
      | up => exact ⟨rfl, rfl⟩
      | down => exact absurd rfl hs

theorem wsAccepts_writes {s : OrderSide} {route : TokenRoute} (h : wsAccepts route.side bestBid bestAsk = some s) :
    route.writes = some s := by
  unfold wsAccepts at h
  unfold TokenRoute.writes outcomeSide
  split_ifs at h ⊢ with hvalid hup hdown
  · exact h
  · exact h

/-- **A routed update** writes the record of its condition. -/
theorem updateFromWs_routedOnly {route : TokenRoute} (hroute : b.Routes tokens route.conditionId route) :
    RoutedOnly b tokens p (p.updateFromWs route.conditionId route.asset route.side bestBid bestAsk now).1 := by
  refine ⟨rfl, fun c => ?_⟩
  have hwrites := (p.getOrCreate route.conditionId route.asset).applyWs_writes route.side bestBid bestAsk now
  have hkey : ((p.getOrCreate route.conditionId route.asset).applyWs route.side bestBid bestAsk now).conditionId =
      route.conditionId := hwrites.conditionId.trans (p.conditionId_getOrCreate _ _)
  simp only [LivePricePipeline.updateFromWs, LivePricePipeline.write, Lib.Table.get?_put, hkey]
  split_ifs with hc
  · subst hc
    refine .inr ⟨route, hroute, _, rfl, hwrites.conditionId, hwrites.asset, hwrites.threshold, fun side hside => ?_⟩
    exact hwrites.others side fun haccepts => hside ⟨route, hroute, wsAccepts_writes haccepts⟩
  · exact .inl rfl

namespace WsFeed

variable {s t : WsFeed}

/-- What an event leaves alone. -/
theorem processSingleEvent_routedOnly (item : Option WsEvent) (hnames : ∀ e, item = some e → ∀ k, e.names k → tokens k)
    (now : Time) (h : t.bridge = s.bridge ∧ RoutedOnly s.bridge tokens s.pipeline t.pipeline) :
    (t.processSingleEvent now item).1.bridge = s.bridge ∧
      RoutedOnly s.bridge tokens s.pipeline (t.processSingleEvent now item).1.pipeline := by
  cases item with
  | none => exact h
  | some e =>
    rcases t.processSingleEvent_cases now e with hsame | hskip | ⟨route, bestBid, bestAsk, hid, hget, hrouted⟩
    · rw [hsame]
      exact h
    · rw [hskip]
      exact h
    · rw [hrouted]
      have hroute : s.bridge.Routes tokens route.conditionId route := by
        refine ⟨hnames e rfl route.tokenId hid, ?_, rfl⟩
        rw [← h.1, hget]
      exact ⟨h.1, h.2.trans (updateFromWs_routedOnly hroute)⟩

/-- **A message** changes only what its tokens are routed to. -/
theorem onWsMessage_routedOnly (s : WsFeed) (m : WsMessage) (now : Time) :
    (s.onWsMessage now m).1.bridge = s.bridge ∧
      RoutedOnly s.bridge m.names s.pipeline (s.onWsMessage now m).1.pipeline := by
  have hstart : s.bridge = s.bridge ∧ RoutedOnly s.bridge m.names s.pipeline s.pipeline := ⟨rfl, .refl _ _ _⟩
  cases m with
  | list items =>
    refine Lib.forEach_preserves (I := fun t => t.bridge = s.bridge ∧ RoutedOnly s.bridge _ s.pipeline t.pipeline) _
      (fun t item hitem ht => processSingleEvent_routedOnly item (fun e he k hk => ?_) now ht) s hstart
    obtain ⟨d, hd, rfl⟩ := List.mem_map.mp hitem
    obtain ⟨d, rfl, rfl⟩ := Option.map_eq_some_iff.mp he
    exact ⟨d, hd, .inl hk⟩
  | dict d =>
    unfold onWsMessage
    dsimp only
    split_ifs
    · cases hchanges : d.priceChanges with
      | notIterable => exact hstart
      | items entries =>
        refine Lib.forEach_preserves (I := fun t => t.bridge = s.bridge ∧ RoutedOnly s.bridge _ s.pipeline t.pipeline) _
          (fun t item hitem ht => processSingleEvent_routedOnly item (fun e he k hk => ?_) now ht) s hstart
        subst he
        exact .inr ⟨entries, hchanges, e, hitem, hk⟩
    · refine processSingleEvent_routedOnly (some d.event) (fun e he k hk => ?_) now hstart
      obtain rfl := Option.some.inj he
      exact .inl hk
  | other => exact hstart

end WsFeed

/-! ### The range of the prices -/

/-- There is no price, or it is one. -/
def PriceInRange (q : ℚ) : Prop := q = 0 ∨ 0 < q ∧ q ≤ 1

/-- Bid and ask of both sides are in range. -/
def LivePriceRecord.InRange (r : LivePriceRecord) : Prop :=
  ∀ side, PriceInRange (r.bid side) ∧ PriceInRange (r.ask side)

def LivePricePipeline.InRange (p : LivePricePipeline) : Prop := ∀ c r, p.records.get? c = some r → r.InRange

theorem isValidPrice_inRange {q : ℚ} (h : isValidPrice q = true) : PriceInRange q := .inr (of_decide_eq_true h)

namespace LivePriceRecord

variable {r : LivePriceRecord}

theorem InRange.withQuote (h : r.InRange) {bid ask : ℚ} (side : OrderSide) (hbid : PriceInRange bid)
    (hask : PriceInRange ask) : (r.withQuote side bid ask).InRange := by
  intro s
  cases side with
  | up =>
    cases s with
    | up => exact ⟨hbid, hask⟩
    | down => exact h .down
  | down =>
    cases s with
    | up => exact h .up
    | down => exact ⟨hbid, hask⟩

/-- What does not write bids and asks keeps them. -/
theorem InRange.congr (h : r.InRange) {r' : LivePriceRecord} (hsame : ∀ side, r'.bid side = r.bid side ∧
    r'.ask side = r.ask side) : r'.InRange := by
  intro side
  rw [(hsame side).1, (hsame side).2]
  exact h side

theorem InRange.applyWs (h : r.InRange) (side : String) (bid ask : ℚ) (now : Time) :
    (r.applyWs side bid ask now).InRange := by
  cases haccepts : wsAccepts side bid ask with
  | none =>
    rcases applyWs_refused r now haccepts with hsame | ⟨-, hinvalid⟩
    · rw [hsame]
      exact h
    · rw [hinvalid]
      exact h.congr fun side => by cases side <;> exact ⟨rfl, rfl⟩
  | some s =>
    have hvalid : isValidWsPrice bid = true ∧ isValidWsPrice ask = true := by
      unfold wsAccepts at haccepts
      split_ifs at haccepts with hbad
      · simpa using hbad
      · simpa using hbad
    rw [applyWs_accepted r now haccepts]
    have hquote := h.withQuote s (isValidPrice_inRange hvalid.1) (isValidPrice_inRange hvalid.2)
    exact hquote.congr fun side => by cases side <;> exact ⟨rfl, rfl⟩

theorem InRange.applyGamma (h : r.InRange) (raw : OutcomePricesRaw) (spread : ℚ) (now : Time) :
    (r.applyGamma raw spread now).InRange := by
  unfold LivePriceRecord.applyGamma
  cases parseOutcomePrices raw with
  | none => exact h.congr fun side => by cases side <;> exact ⟨rfl, rfl⟩
  | some prices =>
    dsimp only
    split_ifs with hbad
    · exact h.congr fun side => by cases side <;> exact ⟨rfl, rfl⟩
    · have hvalid : isValidPrice prices.1 = true ∧ isValidPrice prices.2 = true := by simpa using hbad
      have hup := isValidPrice_inRange hvalid.1
      have hdown := isValidPrice_inRange hvalid.2
      have hquotes := (h.withQuote .up hup hup).withQuote .down hdown hdown
      exact hquotes.congr fun side => by cases side <;> exact ⟨rfl, rfl⟩

theorem InRange.checkFreshness (h : r.InRange) (now : Time) : (r.checkFreshness now).InRange := by
  unfold LivePriceRecord.checkFreshness
  split_ifs
  · exact h
  · exact h.congr fun side => by cases side <;> exact ⟨rfl, rfl⟩
  · exact h

end LivePriceRecord

namespace LivePricePipeline

variable {p p' : LivePricePipeline}

theorem InRange.getOrCreate (h : p.InRange) (c : ConditionId) (asset : Asset) : (p.getOrCreate c asset).InRange := by
  unfold LivePricePipeline.getOrCreate
  cases hget : p.records.get? c with
  | none => exact fun side => by cases side <;> exact ⟨.inl rfl, .inl rfl⟩
  | some r => exact h c r hget

theorem InRange.write (h : p.InRange) {r : LivePriceRecord} (hr : r.InRange) : (p.write r).InRange := by
  intro c u hu
  rw [LivePricePipeline.write, Lib.Table.get?_put] at hu
  split_ifs at hu
  · rw [← Option.some.inj hu]
    exact hr
  · exact h c u hu

theorem InRange.clearEvent (h : p.InRange) (c : ConditionId) : (p.clearEvent c).InRange := by
  intro k u hu
  rw [LivePricePipeline.clearEvent, Lib.Table.get?_erase] at hu
  split_ifs at hu
  exact h k u hu

theorem InRange.marksOnly (h : p.InRange) {now : Time} (hp : p.MarksOnly p' now) : p'.InRange := by
  intro c u hu
  rcases hp c with hsame | hmarked
  · exact h c u (hsame ▸ hu)
  · rw [hu] at hmarked
    obtain ⟨r, hr, rfl⟩ := Option.map_eq_some_iff.mp hmarked.symm
    exact (h c r hr).checkFreshness now

end LivePricePipeline

namespace WsFeed

inductive Label
  | message (m : WsMessage) (now : Time)
  | gamma (c : ConditionId) (asset : Asset) (raw : OutcomePricesRaw) (spread : ℚ) (now : Time)
  | mark (p : LivePricePipeline) (now : Time)
  | clear (c : ConditionId)
  | routes (b : WSPriceBridge) (lastMessageAt : Lib.Dict TokenId Time)

/-- Messages and whatever else writes to the pipeline or to the table of routes. -/
inductive Step : WsFeed → Label → WsFeed → Prop
  | message (s : WsFeed) (m : WsMessage) (now : Time) : Step s (.message m now) (s.onWsMessage now m).1
  | gamma (s : WsFeed) (c : ConditionId) (asset : Asset) (raw : OutcomePricesRaw) (spread : ℚ) (now : Time) :
      Step s (.gamma c asset raw spread now)
        { s with pipeline := (s.pipeline.updateFromGamma c asset raw spread now).1 }
  | mark (s : WsFeed) (p : LivePricePipeline) (now : Time) (h : s.pipeline.MarksOnly p now) :
      Step s (.mark p now) { s with pipeline := p }
  | clear (s : WsFeed) (c : ConditionId) : Step s (.clear c) { s with pipeline := s.pipeline.clearEvent c }
  | routes (s : WsFeed) (b : WSPriceBridge) (lastMessageAt : Lib.Dict TokenId Time) :
      Step s (.routes b lastMessageAt) { s with bridge := b, lastMessageAt := lastMessageAt }

variable {s s' : WsFeed}

theorem processSingleEvent_inRange (item : Option WsEvent) (now : Time) (h : s.pipeline.InRange) :
    (s.processSingleEvent now item).1.pipeline.InRange := by
  cases item with
  | none => exact h
  | some e =>
    rcases s.processSingleEvent_cases now e with hsame | hskip | ⟨route, bestBid, bestAsk, -, -, hrouted⟩
    · rw [hsame]
      exact h
    · rw [hskip]
      exact h
    · rw [hrouted]
      exact h.write ((h.getOrCreate _ _).applyWs _ _ _ _)

theorem onWsMessage_inRange (m : WsMessage) (now : Time) (h : s.pipeline.InRange) :
    (s.onWsMessage now m).1.pipeline.InRange := by
  cases m with
  | list items =>
    exact Lib.forEach_preserves (I := fun t => t.pipeline.InRange) _
      (fun t item _ ht => processSingleEvent_inRange item now ht) s h
  | dict d =>
    unfold onWsMessage
    dsimp only
    split_ifs
    · cases d.priceChanges with
      | notIterable => exact h
      | items entries =>
        exact Lib.forEach_preserves (I := fun t => t.pipeline.InRange) _
          (fun t item _ ht => processSingleEvent_inRange item now ht) s h
    · exact processSingleEvent_inRange _ now h
  | other => exact h

theorem Step.inRange {l : Label} (hs : Step s l s') (h : s.pipeline.InRange) : s'.pipeline.InRange := by
  cases hs with
  | message m now => exact onWsMessage_inRange m now h
  | gamma c asset raw spread now => exact h.write ((h.getOrCreate _ _).applyGamma _ _ _)
  | mark p now hp => exact h.marksOnly hp
  | clear c => exact h.clearEvent c
  | routes b lastMessageAt => exact h

/-- **The frame of WebSocket routing.** Whatever the routes, the pipeline and the message, only records of conditions
that its tokens are routed to change, and in them only the sides of these tokens; and in every run every bid and ask
that is stored is 0 or in (0, 1]. -/
theorem ws_routing_frame :
    (∀ (s : WsFeed) (m : WsMessage) (now : Time),
      RoutedOnly s.bridge m.names s.pipeline (s.onWsMessage now m).1.pipeline) ∧
    ∀ (s s' : WsFeed) (tr : List (Lib.Taken WsFeed Label)), s.pipeline.InRange → Lib.Run Step s tr s' →
      s'.pipeline.InRange ∧ ∀ x ∈ tr, x.post.pipeline.InRange := by
  refine ⟨fun s m now => (s.onWsMessage_routedOnly m now).2, fun s s' tr h hrun => ?_⟩
  obtain ⟨hend, hall⟩ := hrun.invariant (I := fun t => t.pipeline.InRange) (fun t l u ht hst => hst.inRange ht) h
  exact ⟨hend, fun x hx => (hall x hx).2⟩

/-- Prices for the token that is known and for another one. -/
def quotes : WsMessage :=
  .list [some { eventType := "best_bid_ask"
                event := { assetId := .text "token", bestBid := some (.text (.num 0.51))
                           bestAsk := some (.text (.num 0.55)) } },
    some { eventType := "best_bid_ask", event := { assetId := .text "unknown", price := some (.text .nan) } }]

theorem ws_routing_frame_quotes :
    RoutedOnly upRouted.bridge quotes.names upRouted.pipeline (upRouted.onWsMessage 0 quotes).1.pipeline ∧
      (upRouted.onWsMessage 0 quotes).1.pipeline.InRange :=
  ⟨ws_routing_frame.1 upRouted quotes 0,
    (ws_routing_frame.2 upRouted _ _ (fun c r hr => by cases hr) (.single (.message upRouted quotes 0))).1⟩

end WsFeed

end Polyfast
