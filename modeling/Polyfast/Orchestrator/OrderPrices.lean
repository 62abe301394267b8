import Polyfast.MarketData.WsRouting
import Polyfast.Orchestrator.Dispatch

/-!
# Where the price of an order comes from

The messages of the WebSocket quote tokens, and the routes say which side of which event a token is. The pipeline
keeps bid and ask of each side, from the WebSocket or from Gamma, and an order takes its price from there.

* `WsFeed.quotesOf`, `Label.quotes`: what a message or another step quotes, in its order;
* `TurnStep.quoted`: bid and ask of a side are what the step quotes last for it, or else what they were;
* `quoted_iff`: over a run, they are what was quoted last;
* `order_price`: the price of an order is the ask that was quoted last for its side of its event.
-/

namespace Polyfast

/-- Bid and ask of a side of an event. -/
structure Quote where
  conditionId : ConditionId
  side : OrderSide
  bid : ℚ
  ask : ℚ
  deriving DecidableEq

/-- What is quoted last for a side. -/
def lastQuote (quotes : List Quote) (c : ConditionId) (side : OrderSide) : Option (ℚ × ℚ) :=
  (quotes.reverse.find? (fun q => q.conditionId = c ∧ q.side = side)).map (fun q => (q.bid, q.ask))

section LastQuote

variable {quotes : List Quote} {c : ConditionId} {side : OrderSide} {bid ask : ℚ}

theorem lastQuote_append (older newer : List Quote) (c : ConditionId) (side : OrderSide) :
    lastQuote (older ++ newer) c side = (lastQuote newer c side).or (lastQuote older c side) := by
  unfold lastQuote
  rw [List.reverse_append, List.find?_append, Option.map_or]

theorem lastQuote_singleton (q : Quote) (c : ConditionId) (side : OrderSide) :
    lastQuote [q] c side = if q.conditionId = c ∧ q.side = side then some (q.bid, q.ask) else none := by
  unfold lastQuote
  rw [List.reverse_singleton, List.find?_singleton]
  split_ifs with h h' h'
  · rfl
  · exact absurd (of_decide_eq_true h) h'
  · exact absurd (decide_eq_true h') h
  · rfl

theorem mem_of_lastQuote (h : lastQuote quotes c side = some (bid, ask)) : ⟨c, side, bid, ask⟩ ∈ quotes := by
  obtain ⟨q, hq, hprices⟩ := Option.map_eq_some_iff.mp h
  obtain ⟨rfl, rfl⟩ := Prod.mk.inj hprices
  obtain ⟨rfl, rfl⟩ : q.conditionId = c ∧ q.side = side := by simpa using List.find?_some hq
  exact List.mem_reverse.mp (List.mem_of_find?_eq_some hq)

end LastQuote

/-! ### What the pipeline has -/

/-- Bid and ask of a side, if there is a quote of it. -/
def LivePriceRecord.quote (r : LivePriceRecord) (side : OrderSide) : Option (ℚ × ℚ) :=
  if r.bid side = 0 ∧ r.ask side = 0 then none else some (r.bid side, r.ask side)

/-- Bid and ask that the pipeline has for a side of an event. -/
def LivePricePipeline.quoted (p : LivePricePipeline) (c : ConditionId) (side : OrderSide) : Option (ℚ × ℚ) :=
  (p.records.get? c).bind (fun r => r.quote side)

theorem isValidPrice_ne_zero {q : ℚ} (h : isValidPrice q = true) : q ≠ 0 := (of_decide_eq_true h).1.ne'

/-- What a WebSocket update accepts is valid. -/
theorem valid_of_wsAccepts {label : String} {bid ask : ℚ} {side : OrderSide}
    (h : wsAccepts label bid ask = some side) : isValidPrice bid = true ∧ isValidPrice ask = true := by
  unfold wsAccepts at h
  split_ifs at h with hbad hup hdown
  · simpa [isValidWsPrice] using hbad
  · simpa [isValidWsPrice] using hbad

namespace LivePriceRecord

variable {r r' : LivePriceRecord} {side : OrderSide}

theorem quote_congr (hbid : r'.bid side = r.bid side) (hask : r'.ask side = r.ask side) :
    r'.quote side = r.quote side := by
  unfold quote
  rw [hbid, hask]

theorem quote_of_valid {bid ask : ℚ} (hbid : r.bid side = bid) (hask : r.ask side = ask)
    (h : isValidPrice bid = true) : r.quote side = some (bid, ask) := by
  unfold quote
  rw [hbid, hask, if_neg fun hzero => isValidPrice_ne_zero h hzero.1]

theorem quote_unmarked (r : LivePriceRecord) (side : OrderSide) : r.unmarked.quote side = r.quote side :=
  quote_congr (by cases side <;> rfl) (by cases side <;> rfl)

theorem quote_checkFreshness (r : LivePriceRecord) (now : Time) (side : OrderSide) :
    (r.checkFreshness now).quote side = r.quote side := by
  rw [← quote_unmarked, r.unmarked_checkFreshness, quote_unmarked]

/-- **A WebSocket update** quotes the side that it accepts. -/
theorem quote_applyWs (r : LivePriceRecord) (label : String) (bid ask : ℚ) (now : Time) (side : OrderSide) :
    (r.applyWs label bid ask now).quote side =
      if wsAccepts label bid ask = some side then some (bid, ask) else r.quote side := by
  have hwrites := (r.applyWs_writes label bid ask now).others side
  split_ifs with haccepts
  · have hvalid := (valid_of_wsAccepts haccepts).1
    rw [applyWs_accepted r now haccepts]
    cases side with
    | up => exact quote_of_valid rfl rfl hvalid
    | down => exact quote_of_valid rfl rfl hvalid
  · exact quote_congr (hwrites haccepts).1 (hwrites haccepts).2

/-- **A Gamma update** quotes both sides. -/
theorem quote_applyGamma (r : LivePriceRecord) (raw : OutcomePricesRaw) (spread : ℚ) (now : Time) (side : OrderSide) :
    (r.applyGamma raw spread now).quote side =
      ((gammaAccepts raw).map (fun (up, down) => match side with | .up => (up, up) | .down => (down, down))).or
        (r.quote side) := by
  cases haccepts : gammaAccepts raw with
  | none =>
    rw [applyGamma_refused r spread now haccepts]
    exact quote_congr (by cases side <;> rfl) (by cases side <;> rfl)
  | some prices =>
    obtain ⟨up, down⟩ := prices
    have hvalid := (Option.filter_eq_some_iff.mp haccepts).2
    rw [Bool.and_eq_true] at hvalid
    obtain ⟨hupBid, hupAsk, hdownBid, hdownAsk⟩ := applyGamma_quotes r spread now haccepts
    cases side with
    | up => exact quote_of_valid hupBid hupAsk hvalid.1
    | down => exact quote_of_valid hdownBid hdownAsk hvalid.2

end LivePriceRecord

namespace LivePricePipeline

variable {p p' : LivePricePipeline} {c k : ConditionId} {side : OrderSide}

theorem quote_getOrCreate (p : LivePricePipeline) (c : ConditionId) (asset : Asset) (side : OrderSide) :
    (p.getOrCreate c asset).quote side = p.quoted c side := by
  unfold getOrCreate quoted
  cases p.records.get? c with
  | none => cases side <;> rfl
  | some r => rfl

theorem quoted_write {r : LivePriceRecord} (hr : r.conditionId = c) :
    (p.write r).quoted k side = if k = c then r.quote side else p.quoted k side := by
  unfold quoted write
  rw [Lib.Table.get?_put, hr]
  split_ifs with hck hkc hkc
  · rfl
  · exact absurd hck.symm hkc
  · exact absurd hkc.symm hck
  · rfl

theorem quoted_updateFromWs (p : LivePricePipeline) (c : ConditionId) (asset : Asset) (label : String) (bid ask : ℚ)
    (now : Time) (k : ConditionId) (side : OrderSide) : (p.updateFromWs c asset label bid ask now).1.quoted k side =
      if k = c ∧ wsAccepts label bid ask = some side then some (bid, ask) else p.quoted k side := by
  have hkey : ((p.getOrCreate c asset).applyWs label bid ask now).conditionId = c :=
    ((p.getOrCreate c asset).applyWs_writes label bid ask now).conditionId.trans (p.conditionId_getOrCreate c asset)
  rw [updateFromWs, quoted_write hkey, LivePriceRecord.quote_applyWs, quote_getOrCreate]
  by_cases hk : k = c
  · subst hk
    simp only [if_true, true_and]
  · simp only [hk, false_and, if_false]

theorem quoted_updateFromGamma (p : LivePricePipeline) (c : ConditionId) (asset : Asset) (raw : OutcomePricesRaw)
    (spread : ℚ) (now : Time) : (p.updateFromGamma c asset raw spread now).1.quoted k side =
      if k = c then
        ((gammaAccepts raw).map (fun (up, down) => match side with | .up => (up, up) | .down => (down, down))).or
          (p.quoted k side)
      else p.quoted k side := by
  have hkey : ((p.getOrCreate c asset).applyGamma raw spread now).conditionId = c := by
    have hold := p.conditionId_getOrCreate c asset
    cases haccepts : gammaAccepts raw with
    | none =>
      rw [LivePriceRecord.applyGamma_refused _ spread now haccepts]
      exact hold
    | some prices => exact (LivePriceRecord.applyGamma_accepted _ spread now haccepts).conditionId.trans hold
  rw [updateFromGamma, quoted_write hkey, LivePriceRecord.quote_applyGamma, quote_getOrCreate]
  by_cases hk : k = c
  · subst hk
    rfl
  · simp only [if_neg hk]

theorem quoted_clearEvent (p : LivePricePipeline) (c : ConditionId) :
    (p.clearEvent c).quoted k side = if k = c then none else p.quoted k side := by
  unfold quoted clearEvent
  rw [Lib.Table.get?_erase]
  split_ifs with hck hkc hkc
  · rfl
  · exact absurd hck.symm hkc
  · exact absurd hkc.symm hck
  · rfl

theorem MarksOnly.quoted {now : Time} (h : p.MarksOnly p' now) : p'.quoted c side = p.quoted c side := by
  unfold LivePricePipeline.quoted
  rcases h c with hsame | hmarked
  · rw [hsame]
  · rw [hmarked]
    cases p.records.get? c with
    | none => rfl
    | some r => exact r.quote_checkFreshness now side

theorem SamePrices.quoted (h : p.SamePrices p') : p'.quoted c side = p.quoted c side := by
  have hget := h.find? (fun r => r.conditionId = c) fun _ => rfl
  rw [← Lib.Table.get?_eq_find?, ← Lib.Table.get?_eq_find?] at hget
  have hquoted : ∀ q : LivePricePipeline,
      q.quoted c side = ((q.records.get? c).map LivePriceRecord.unmarked).bind (fun r => r.quote side) := by
    intro q
    unfold LivePricePipeline.quoted
    cases q.records.get? c with
    | none => rfl
    | some r => exact (r.quote_unmarked side).symm
  rw [hquoted p', hquoted p, hget]

end LivePricePipeline

/-! ### What a message quotes -/

/-- The items of a message, as they are processed. -/
def WsMessage.events : WsMessage → List (Option WsEvent)
  | .list items => items.map (Option.map WsDict.event)
  | .dict d =>
    if d.isNested then
      match d.priceChanges with
      | .items entries => entries
      | .notIterable => []
    else [some d.event]
  | .other => []

namespace WsFeed

variable (s : WsFeed)

/-- What an item of a message quotes, or what reading it raises. -/
def quoteOf : Option WsEvent → Except WsError (Option Quote)
  | none => .error .attributeError
  | some e =>
    if !e.assetId.truthy then .ok none
    else match s.findRoute e.assetId with
      | .error err => .error err
      | .ok none => .ok none
      | .ok (some route) =>
        match e.extractPrices with
        | .error err => .error err
        | .ok none => .ok none
        | .ok (some (bestBid, bestAsk)) =>
          .ok ((wsAccepts route.side bestBid.price bestAsk.price).map
            (fun side => ⟨route.conditionId, side, bestBid.price, bestAsk.price⟩))

/-- What the items quote, in their order, up to the first that raises. -/
def quotesOf : List (Option WsEvent) → List Quote
  | [] => []
  | item :: rest =>
    match s.quoteOf item with
    | .error _ => []
    | .ok quote => quote.toList ++ quotesOf rest

/-- What a step quotes. -/
def Label.quotes (s : WsFeed) : Label → List Quote
  | .message m _ => s.quotesOf m.events
  | .gamma c _ raw _ _ =>
    match gammaAccepts raw with
    | some (up, down) => [⟨c, .up, up, up⟩, ⟨c, .down, down, down⟩]
    | none => []
  | .mark _ _ | .clear _ | .routes _ _ => []

/-- The record of the event is dropped. -/
def Label.clears (c : ConditionId) : Label → Bool
  | .clear k => decide (c = k)
  | _ => false

variable {s t : WsFeed} {now : Time} {c : ConditionId} {side : OrderSide} {item : Option WsEvent}

theorem filter_kept {α : Type*} (o : Option α) : o.filter (fun _ => true) = o := by cases o <;> rfl

theorem quoteOf_congr (h : t.bridge = s.bridge) (item : Option WsEvent) : t.quoteOf item = s.quoteOf item := by
  have hroute : t.findRoute = s.findRoute := by
    funext key
    unfold findRoute
    rw [h]
  unfold quoteOf
  rw [hroute]

/-- A refused item leaves the prices as they are. -/
theorem processSingleEvent_error (now : Time) {err : WsError} (h : s.quoteOf item = .error err) :
    (s.processSingleEvent now item).2.isSome = true ∧ (s.processSingleEvent now item).1 = s := by
  cases item with
  | none => exact ⟨rfl, rfl⟩
  | some e =>
    unfold quoteOf at h
    unfold processSingleEvent
    dsimp only at h ⊢
    split_ifs at h ⊢
    cases hroute : s.findRoute e.assetId with
    | error err' => exact ⟨rfl, rfl⟩
    | ok found =>
      rw [hroute] at h
      cases found with
      | none => cases h
      | some route =>
        dsimp only at h ⊢
        cases hprices : e.extractPrices with
        | error err' => exact ⟨rfl, rfl⟩
        | ok prices =>
          rw [hprices] at h
          cases prices <;> cases h

/-- **An item** that is read puts its quote into the pipeline. -/
theorem processSingleEvent_ok (now : Time) (c : ConditionId) (side : OrderSide) {quote : Option Quote}
    (h : s.quoteOf item = .ok quote) :
    (s.processSingleEvent now item).2 = none ∧ (s.processSingleEvent now item).1.bridge = s.bridge ∧
      (s.processSingleEvent now item).1.pipeline.quoted c side =
        (lastQuote quote.toList c side).or (s.pipeline.quoted c side) := by
  cases item with
  | none => cases h
  | some e =>
    unfold quoteOf at h
    unfold processSingleEvent
    dsimp only at h ⊢
    split_ifs at h ⊢
    · obtain rfl := Except.ok.inj h
      exact ⟨rfl, rfl, rfl⟩
    · cases hroute : s.findRoute e.assetId with
      | error err =>
        rw [hroute] at h
        cases h
      | ok found =>
        rw [hroute] at h
        cases found with
        | none =>
          obtain rfl := Except.ok.inj h
          exact ⟨rfl, rfl, rfl⟩
        | some route =>
          dsimp only at h ⊢
          cases hprices : e.extractPrices with
          | error err =>
            rw [hprices] at h
            cases h
          | ok prices =>
            rw [hprices] at h
            cases prices with
            | none =>
              obtain rfl := Except.ok.inj h
              exact ⟨rfl, rfl, rfl⟩
            | some prices =>
              obtain rfl := Except.ok.inj h
              refine ⟨rfl, rfl, ?_⟩
              have hupdate := s.pipeline.quoted_updateFromWs route.conditionId route.asset route.side prices.1.price
                prices.2.price now c side
              refine hupdate.trans ?_
              cases haccepts : wsAccepts route.side prices.1.price prices.2.price with
              | none => simp [lastQuote]
              | some accepted =>
                rw [Option.map_some, Option.toList_some, lastQuote_singleton]
                simp only [Option.some.injEq, eq_comm (a := c)]
                split_ifs <;> rfl

/-- **A message** leaves what it quotes last. -/
theorem forEach_quoted (items : List (Option WsEvent)) : ∀ t : WsFeed, t.bridge = s.bridge →
    (Lib.forEach (processSingleEvent now) t items).1.bridge = s.bridge ∧
      (Lib.forEach (processSingleEvent now) t items).1.pipeline.quoted c side =
        (lastQuote (s.quotesOf items) c side).or (t.pipeline.quoted c side) := by
  induction items with
  | nil => exact fun t ht => ⟨ht, rfl⟩
  | cons item rest ih =>
    intro t ht
    have hquote := quoteOf_congr ht item
    rw [Lib.forEach_cons, quotesOf]
    cases hread : s.quoteOf item with
    | error err =>
      rw [hread] at hquote
      obtain ⟨hraised, hsame⟩ := processSingleEvent_error now hquote
      rw [if_pos hraised, hsame]
      exact ⟨ht, rfl⟩
    | ok quote =>
      rw [hread] at hquote
      obtain ⟨hnone, hbridge, hquoted⟩ := processSingleEvent_ok now c side hquote
      rw [hnone, if_neg (by simp)]
      obtain ⟨hend, hlast⟩ := ih _ (hbridge.trans ht)
      refine ⟨hend, ?_⟩
      rw [hlast, hquoted, lastQuote_append, Option.or_assoc]

theorem onWsMessage_quoted (s : WsFeed) (m : WsMessage) (now : Time) : (s.onWsMessage now m).1.pipeline.quoted c side =
    (lastQuote (s.quotesOf m.events) c side).or (s.pipeline.quoted c side) := by
  have hall : (s.onWsMessage now m).1 = (Lib.forEach (processSingleEvent now) s m.events).1 := by
    unfold onWsMessage WsMessage.events
    cases m with
    | list items => rfl
    | other => rfl
    | dict d =>
      dsimp only
      split_ifs
      · cases d.priceChanges <;> rfl
      · rw [Lib.forEach_singleton]
  rw [hall]
  exact (forEach_quoted m.events s rfl).2

/-- **A step** leaves what it quotes last. -/
theorem Step.quoted {l : Label} {s' : WsFeed} (h : Step s l s') : s'.pipeline.quoted c side =
    (lastQuote (l.quotes s) c side).or ((s.pipeline.quoted c side).filter (fun _ => !l.clears c)) := by
  cases h with
  | message m now =>
    rw [onWsMessage_quoted]
    simp [Label.quotes, Label.clears, filter_kept]
  | gamma k asset raw spread now =>
    rw [LivePricePipeline.quoted_updateFromGamma, Label.quotes]
    cases haccepts : gammaAccepts raw with
    | none => simp [lastQuote, Label.clears, filter_kept]
    | some prices =>
      obtain ⟨up, down⟩ := prices
      dsimp only
      rw [← List.singleton_append, lastQuote_append, lastQuote_singleton, lastQuote_singleton]
      by_cases hk : c = k
      · subst hk
        cases side <;> simp [Label.clears]
      · simp [hk, Ne.symm hk, Label.clears, filter_kept]
  | mark p now hp =>
    rw [hp.quoted]
    simp [Label.quotes, Label.clears, lastQuote, filter_kept]
  | clear k =>
    rw [LivePricePipeline.quoted_clearEvent]
    by_cases hk : c = k
    · simp [Label.quotes, Label.clears, lastQuote, hk]
    · simp [Label.quotes, Label.clears, lastQuote, hk, filter_kept]
  | routes b lastMessageAt => simp [Label.quotes, Label.clears, lastQuote, filter_kept]

end WsFeed

/-! ### The prices of orders -/

namespace EvaluationLoop

variable (l : EvaluationLoop) (s : CoinSettings) (t : PositionTracker) (k : TurnClock)

theorem samePrices_dispatchEntry {p : LivePricePipeline} (h : p.SamePrices l.pipeline) (result : EvaluationResult) :
    p.SamePrices (l.dispatchEntry s k result).1.pipeline := by
  have hget := (LivePricePipeline.getRecord_spec h
    (l.registry.findCurrentSlotConditionId s.coin k.dispatchLookup) k.dispatchPrice).1
  unfold dispatchEntry
  dsimp only
  by_cases hcid : l.registry.findCurrentSlotConditionId s.coin k.dispatchLookup = ""
  · rw [if_pos hcid]
    exact h
  · rw [if_neg hcid]
    cases hfound : l.pipeline.getRecord (l.registry.findCurrentSlotConditionId s.coin k.dispatchLookup)
      k.dispatchPrice with
    | mk pipeline found =>
      rw [hfound] at hget
      cases found with
      | none => exact hget
      | some r =>
        dsimp only
        split_ifs <;> exact hget

/-- A turn changes no price. -/
theorem samePrices_turn : l.pipeline.SamePrices (l.turn s t k).1.pipeline := by
  have hsame := (priceRecord_spec l k s.coin).1
  unfold turn evaluateSingle
  dsimp only
  split_ifs
  · exact samePrices_dispatchEntry _ s k hsame _
  · exact hsame
  · exact hsame

end EvaluationLoop

namespace WsFeed

inductive TurnLabel
  | feed (l : Label)
  | turn (settings : CoinSettings) (t : PositionTracker) (k : TurnClock) (sent : Option OrderIntent)

/-- The feed, and turns of an evaluation loop over its prices and routes, each with the order it sends. -/
inductive TurnStep : WsFeed → TurnLabel → WsFeed → Prop
  | feed (s s' : WsFeed) (l : Label) (h : Step s l s') : TurnStep s (.feed l) s'
  | turn (s : WsFeed) (l : EvaluationLoop) (hp : l.pipeline = s.pipeline) (hb : l.bridge = s.bridge)
      (settings : CoinSettings) (t : PositionTracker) (k : TurnClock) :
      TurnStep s (.turn settings t k (l.turn settings t k).2) { s with pipeline := (l.turn settings t k).1.pipeline }

def TurnLabel.quotes (s : WsFeed) : TurnLabel → List Quote
  | .feed l => l.quotes s
  | .turn _ _ _ _ => []

def TurnLabel.clears (c : ConditionId) : TurnLabel → Bool
  | .feed l => l.clears c
  | .turn _ _ _ _ => false

/-- The step's last quote of the side is this. -/
def Quotes (x : Lib.Taken WsFeed TurnLabel) (c : ConditionId) (side : OrderSide) (bid ask : ℚ) : Prop :=
  lastQuote (x.label.quotes x.pre) c side = some (bid, ask)

/-- The step neither quotes the side nor drops the record of the event. -/
def Leaves (x : Lib.Taken WsFeed TurnLabel) (c : ConditionId) (side : OrderSide) : Prop :=
  lastQuote (x.label.quotes x.pre) c side = none ∧ x.label.clears c = false

/-- Where the step has read a quote. -/
inductive ReadFrom (x : Lib.Taken WsFeed TurnLabel) (c : ConditionId) (side : OrderSide) (bid ask : ℚ) : Prop
  | message (m : WsMessage) (now : Time) (e : WsEvent) (route : TokenRoute) (bestBid bestAsk : PyFloat)
      (label : x.label = .feed (.message m now)) (item : some e ∈ m.events)
      (token : e.assetId = .text route.tokenId) (routed : x.pre.bridge.tokenRoutes.get? route.tokenId = some route)
      (condition : route.conditionId = c) (prices : e.extractPrices = .ok (some (bestBid, bestAsk)))
      (hbid : bestBid.price = bid) (hask : bestAsk.price = ask) (accepts : wsAccepts route.side bid ask = some side)
  | gamma (asset : Asset) (raw : OutcomePricesRaw) (spread : ℚ) (now : Time) (up down : ℚ)
      (label : x.label = .feed (.gamma c asset raw spread now)) (accepts : gammaAccepts raw = some (up, down))
      (price : ask = match side with | .up => up | .down => down) (same : bid = ask)

variable {s s' : WsFeed} {l : TurnLabel} {c : ConditionId} {side : OrderSide} {bid ask : ℚ}

theorem TurnStep.quoted (h : TurnStep s l s') : s'.pipeline.quoted c side =
    (lastQuote (l.quotes s) c side).or ((s.pipeline.quoted c side).filter (fun _ => !l.clears c)) := by
  cases h with
  | feed _ l hstep => exact hstep.quoted
  | turn l hp hb settings t k =>
    have hsame := l.samePrices_turn settings t k
    rw [hp] at hsame
    rw [hsame.quoted]
    simp [TurnLabel.quotes, TurnLabel.clears, lastQuote, filter_kept]

theorem mem_quotesOf {q : Quote} : ∀ {items : List (Option WsEvent)}, q ∈ s.quotesOf items →
    ∃ item ∈ items, s.quoteOf item = .ok (some q)
  | item :: rest, h => by
    rw [quotesOf] at h
    cases hread : s.quoteOf item with
    | error err =>
      rw [hread] at h
      cases h
    | ok quote =>
      rw [hread] at h
      rcases List.mem_append.mp h with hq | hq
      · rw [Option.mem_toList.mp hq] at hread
        exact ⟨item, List.mem_cons_self, hread⟩
      · obtain ⟨item', hmem, hitem'⟩ := mem_quotesOf hq
        exact ⟨item', List.mem_cons_of_mem _ hmem, hitem'⟩

/-- An item that quotes names a token that is routed. -/
theorem quoteOf_some {item : Option WsEvent} {q : Quote} (h : s.quoteOf item = .ok (some q)) :
    ∃ e route bestBid bestAsk, item = some e ∧ e.assetId = .text route.tokenId ∧
      s.bridge.tokenRoutes.get? route.tokenId = some route ∧ e.extractPrices = .ok (some (bestBid, bestAsk)) ∧
      ∃ side, wsAccepts route.side bestBid.price bestAsk.price = some side ∧
        q = ⟨route.conditionId, side, bestBid.price, bestAsk.price⟩ := by
  cases item with
  | none => cases h
  | some e =>
    unfold quoteOf at h
    dsimp only at h
    split_ifs at h
    · cases h
    · cases hroute : s.findRoute e.assetId with
      | error err =>
        rw [hroute] at h
        cases h
      | ok found =>
        rw [hroute] at h
        cases found with
        | none => cases h
        | some route =>
          dsimp only at h
          obtain ⟨htoken, hget⟩ := findRoute_some hroute
          cases hprices : e.extractPrices with
          | error err =>
            rw [hprices] at h
            cases h
          | ok prices =>
            rw [hprices] at h
            cases prices with
            | none => cases h
            | some prices =>
              obtain ⟨side, hside, rfl⟩ := Option.map_eq_some_iff.mp (Except.ok.inj h)
              exact ⟨e, route, prices.1, prices.2, rfl, htoken, hget, hprices, side, hside, rfl⟩

theorem Quotes.readFrom {x : Lib.Taken WsFeed TurnLabel} (h : Quotes x c side bid ask) :
    ReadFrom x c side bid ask := by
  have hmem := mem_of_lastQuote h
  cases hlabel : x.label with
  | turn settings t k sent =>
    rw [hlabel] at hmem
    cases hmem
  | feed l =>
    rw [hlabel] at hmem
    cases l with
    | message m now =>
      obtain ⟨item, hitem, hquote⟩ := mem_quotesOf hmem
      obtain ⟨e, route, bestBid, bestAsk, rfl, htoken, hget, hprices, side', haccepts, hq⟩ := quoteOf_some hquote
      obtain ⟨rfl, rfl, rfl, rfl⟩ := Quote.mk.inj hq
      exact .message m now e route bestBid bestAsk hlabel hitem htoken hget rfl hprices rfl rfl haccepts
    | gamma k asset raw spread now =>
      simp only [TurnLabel.quotes, Label.quotes] at hmem
      cases haccepts : gammaAccepts raw with
      | none =>
        rw [haccepts] at hmem
        cases hmem
      | some prices =>
        obtain ⟨up, down⟩ := prices
        rw [haccepts] at hmem
        simp only [List.mem_cons, List.not_mem_nil, or_false, Quote.mk.injEq] at hmem
        rcases hmem with ⟨rfl, rfl, rfl, rfl⟩ | ⟨rfl, rfl, rfl, rfl⟩
        · exact .gamma asset raw spread now _ down hlabel haccepts rfl rfl
        · exact .gamma asset raw spread now up _ hlabel haccepts rfl rfl
    | mark p now => cases hmem
    | clear k => cases hmem
    | routes b lastMessageAt => cases hmem

/-- Only prices are quoted. -/
theorem ReadFrom.ask_pos {x : Lib.Taken WsFeed TurnLabel} (h : ReadFrom x c side bid ask) : 0 < ask := by
  cases h with
  | message m now e route bestBid bestAsk label item token routed condition prices hbid hask accepts =>
    exact (of_decide_eq_true (valid_of_wsAccepts accepts).2).1
  | gamma asset raw spread now up down label accepts price same =>
    have hvalid := (Option.filter_eq_some_iff.mp accepts).2
    rw [Bool.and_eq_true] at hvalid
    rw [price]
    cases side with
    | up => exact (of_decide_eq_true hvalid.1).1
    | down => exact (of_decide_eq_true hvalid.2).1

variable {tr : List (Lib.Taken WsFeed TurnLabel)}

/-- An order is sent at a price that the pipeline has. -/
theorem TurnStep.priced {settings : CoinSettings} {t : PositionTracker} {k : TurnClock} {i : OrderIntent}
    (h : TurnStep s l s') (hl : l = .turn settings t k (some i)) : EvaluationLoop.Priced s.pipeline i := by
  cases h with
  | feed _ l hstep => cases hl
  | turn loop hp hb settings t k =>
    obtain ⟨rfl, rfl, rfl, hsent⟩ := TurnLabel.turn.inj hl
    rw [← hp]
    exact (EvaluationLoop.turn_eq_some_iff.mp hsent).orders.priced

/-- **What the pipeline has** of a side is what was quoted last for it. -/
theorem quoted_iff (hs : s.pipeline.records = .empty) (h : Lib.Run TurnStep s tr s') :
    s'.pipeline.quoted c side = some (bid, ask) ↔ ∃ older x newer, tr = older ++ x :: newer ∧
      Quotes x c side bid ask ∧ ∀ y ∈ newer, Leaves y c side := by
  have hnone : s.pipeline.quoted c side = none := by
    unfold LivePricePipeline.quoted
    rw [hs, Lib.Table.get?_empty]
    rfl
  have hreg := h.register_taken_iff (I := fun _ => True) (b := (bid, ask)) (fun t => t.pipeline.quoted c side)
    (fun x => lastQuote (x.label.quotes x.pre) c side) (fun x _ => !x.label.clears c)
    (fun t l u _ hst => ⟨trivial, hst.quoted⟩) trivial hnone
  simp only [Bool.not_eq_true'] at hreg
  exact hreg

/-- **The price of an order.** In every run from an empty pipeline the price of an order is the ask of the last quote
of its side of its event: of an item of a message whose token was routed there when it came, or the side's price in a
Gamma update. Nothing between that quote and the order has quoted the side again. -/
theorem order_price (hs : s.pipeline.records = .empty) (h : Lib.Run TurnStep s tr s')
    {before after : List (Lib.Taken WsFeed TurnLabel)} {x : Lib.Taken WsFeed TurnLabel}
    (htr : tr = before ++ x :: after) {settings : CoinSettings} {t : PositionTracker} {k : TurnClock} {i : OrderIntent}
    (hx : x.label = .turn settings t k (some i)) :
    ∃ older y newer bid, before = older ++ y :: newer ∧ Quotes y i.conditionId i.side bid i.dominantPrice ∧
      ReadFrom y i.conditionId i.side bid i.dominantPrice ∧ ∀ z ∈ newer, Leaves z i.conditionId i.side := by
  rw [htr] at h
  obtain ⟨u, hbefore, hafter⟩ := h.split
  obtain ⟨rfl, hstep, -⟩ := hafter.cons_inv
  obtain ⟨r, hr, hprice, hpos⟩ := hstep.priced hx
  have hquoted : x.pre.pipeline.quoted i.conditionId i.side = some (r.bid i.side, r.ask i.side) := by
    unfold LivePricePipeline.quoted
    rw [hr, Option.bind_some]
    refine if_neg fun hzero => ?_
    rw [LivePriceRecord.entryPrice, hzero.1, hzero.2, if_neg (lt_irrefl 0)] at hprice
    exact hpos.ne hprice
  obtain ⟨older, y, newer, hsplit, hy, hleaves⟩ := (quoted_iff hs hbefore).mp hquoted
  have hask : r.ask i.side = i.dominantPrice := (if_pos hy.readFrom.ask_pos).symm.trans hprice
  rw [hask] at hy
  exact ⟨older, y, newer, r.bid i.side, hsplit, hy, hy.readFrom, hleaves⟩

/-! ### An order after two quotes -/

/-- Both tokens of an event are routed. -/
def bothRouted : WsFeed where
  bridge := (WSPriceBridge.registerToken {} "token" "event" "BTC" "UP").registerToken "other" "event" "BTC" "DOWN"

/-- Gamma has the event at 52 to 48 cents. -/
def seeded : WsFeed :=
  { bothRouted with pipeline := (bothRouted.pipeline.updateFromGamma "event" "BTC" Feed.gammaPrices 0 1700000190).1 }

/-- A change of the up token, one of the down token, and another one of the up token. -/
def changes : WsMessage :=
  .dict { eventType := "price_change"
          priceChanges := .items [some (change "token" 0.66 0.68), some (change "other" 0.28 0.30),
            some (change "token" 0.70 0.72)] }
where
  change (token : TokenId) (bestBid bestAsk : ℚ) : WsEvent :=
    { assetId := .text token, bestBid := some (.text (.num bestBid)), bestAsk := some (.text (.num bestAsk)) }

def changed : WsFeed := (seeded.onWsMessage 1700000199 changes).1

def changedLoop : EvaluationLoop :=
  { EvaluationLoop.btcLoop with pipeline := changed.pipeline, bridge := changed.bridge }

/-- The order is sent at the last price. -/
theorem order_price_changed : ∃ older y newer bid,
    [(⟨bothRouted, .feed (.gamma "event" "BTC" Feed.gammaPrices 0 1700000190), seeded⟩ :
      Lib.Taken WsFeed TurnLabel), ⟨seeded, .feed (.message changes 1700000199), changed⟩] = older ++ y :: newer ∧
    Quotes y "event" .up bid (72 / 100) ∧ ReadFrom y "event" .up bid (72 / 100) ∧
    ∀ z ∈ newer, Leaves z "event" .up := by
  have hgamma := Lib.Run.single (TurnStep.feed _ _ _
    (.gamma bothRouted "event" "BTC" Feed.gammaPrices 0 1700000190))
  have hchanged := hgamma.snoc (.feed seeded changed _ (.message seeded changes 1700000199))
  have hrun := hchanged.snoc (.turn changed changedLoop rfl rfl EvaluationLoop.btcSettings {} (.at 1700000200))
  have hsent : (changedLoop.turn EvaluationLoop.btcSettings {} (.at 1700000200)).2 = some EvaluationLoop.upOrder := by
    decide +kernel
  exact order_price rfl hrun rfl (congrArg (TurnLabel.turn _ _ _) hsent)

end WsFeed

end Polyfast
