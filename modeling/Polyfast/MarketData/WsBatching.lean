import Polyfast.MarketData.WsMessages

/-!
# Messages in a list

The list branch of `on_ws_message` hands every dictionary to `_process_single_event`, also one whose prices are in
`price_changes`; that one has no `asset_id`, so it is dropped. On its own it is unpacked. The two counters of the
bridge tell the difference: every event of a token counts in one of them, unless it has no prices.

* `Documented`: the messages that the bridge expects; reading them raises nothing;
* `events`, `onWsMessages_eq`: what a dictionary on its own is unpacked to;
* `counted_forEach`: the counters after a list of events;
* `batch_transparent_iff`: when a list does what its dictionaries do on their own.
-/

namespace Polyfast

/-! ### Documented messages -/

/-- A price is a text or a number of the size of a float. -/
def WsValue.Plain (v : WsValue) : Prop := v ≠ .hugeInt

/-- The bids or asks are a list of levels. -/
def WsLevels.Plain : WsLevels → Prop
  | items levels => ∀ level ∈ levels, ∃ price : WsValue, level = some price ∧ price.Plain
  | notIterable _ => False

/-- The token is a text, and the prices are texts or numbers. -/
structure WsEvent.Plain (e : WsEvent) : Prop where
  assetId : ∃ token, e.assetId = .text token
  bestBid : ∀ v, e.bestBid = some v → v.Plain
  bestAsk : ∀ v, e.bestAsk = some v → v.Plain
  bids : e.bids.Plain
  asks : e.asks.Plain
  price : ∀ v, e.price = some v → v.Plain

/-- The dictionaries of `price_changes`. -/
def WsDict.entries (d : WsDict) : List (Option WsEvent) :=
  match d.priceChanges with
  | .items entries => entries
  | .notIterable => []

/-- One of the four kinds: `price_change` and `last_trade_price` name their tokens in `price_changes`, `book` and
`best_bid_ask` are events of one token. -/
structure WsDict.Documented (d : WsDict) : Prop where
  kind : d.eventType ∈ ["book", "price_change", "best_bid_ask", "last_trade_price"]
  nested : d.isNested = true → d.event.assetId = .text "" ∧ d.priceChanges = .items d.entries ∧
    ∀ item ∈ d.entries, ∃ e : WsEvent, item = some e ∧ e.Plain
  single : d.isNested = false → d.event.Plain

/-- What is raised, if anything is, is caught. -/
def Caught {α : Type} (x : Except WsError α) : Prop := ∀ e, x = .error e → e.isCaught = true

theorem Caught.ok {α : Type} (a : α) : Caught (.ok a) := by
  intro e he
  cases he

/-- Two readings, one after the other. -/
theorem Caught.bind {α β : Type} {x : Except WsError α} {f : α → Except WsError β} (hx : Caught x)
    (hf : ∀ a, Caught (f a)) : Caught (x >>= f) := by
  intro e he
  cases x with
  | error e' =>
    cases he
    exact hx _ rfl
  | ok a => exact hf a e he

theorem Caught.catching {α : Type} {x : Except WsError α} (h : Caught x) : ∃ r, catching x = .ok r := by
  cases x with
  | ok a => exact ⟨some a, rfl⟩
  | error e => exact ⟨none, if_pos (h e rfl)⟩

theorem WsValue.Plain.toFloat {v : WsValue} (h : v.Plain) : Caught v.toFloat := by
  intro e he
  cases v with
  | hugeInt => exact absurd rfl h
  | none =>
    cases he
    rfl
  | other t =>
    cases he
    rfl
  | bool b => cases he
  | num x => cases he
  | text x => cases he

theorem WsLevels.Plain.floats {levels : List (Option WsValue)} (h : WsLevels.Plain (.items levels)) :
    Caught (WsLevels.floats levels) := by
  induction levels with
  | nil => exact .ok []
  | cons level levels ih =>
    obtain ⟨price, rfl, hprice⟩ := h level List.mem_cons_self
    have hrest := ih fun l hl => h l (List.mem_cons_of_mem _ hl)
    unfold WsLevels.floats
    split_ifs
    · exact hprice.toFloat.bind fun x => hrest.bind fun xs => .ok (x :: xs)
    · exact hrest

theorem WsLevels.Plain.best {levels : WsLevels} (h : levels.Plain) (better : PyFloat → PyFloat → Bool) :
    Caught (levels.best better) := by
  cases levels with
  | notIterable t => cases h
  | items levels =>
    refine Caught.bind (x := WsLevels.floats levels) h.floats fun xs => ?_
    cases xs with
    | nil =>
      intro e he
      cases he
      rfl
    | cons x xs => exact .ok _

theorem WsEvent.Plain.extractBook {e : WsEvent} (h : e.Plain) : ∃ r, e.extractBook = .ok r := by
  unfold WsEvent.extractBook
  split_ifs
  · exact Caught.catching <| (h.bids.best _).bind fun bid => (h.asks.best _).bind fun ask => .ok (bid, ask)
  · cases hprice : e.price with
    | none => exact ⟨none, rfl⟩
    | some price => exact Caught.catching <| (h.price price hprice).toFloat.bind fun x => .ok (x, x)

/-- **Reading the prices** of a plain event raises nothing. -/
theorem WsEvent.Plain.extractPrices {e : WsEvent} (h : e.Plain) : ∃ r, e.extractPrices = .ok r := by
  unfold WsEvent.extractPrices
  cases hbid : e.bestBid with
  | none => exact h.extractBook
  | some bid =>
    cases hask : e.bestAsk with
    | none => exact h.extractBook
    | some ask =>
      exact Caught.catching <| (h.bestBid bid hbid).toFloat.bind fun x =>
        (h.bestAsk ask hask).toFloat.bind fun y => .ok (x, y)

/-! ### What counts -/

/-- The event counts for the bridge: its token is not routed, or it has prices. -/
def WsEvent.counts (b : WSPriceBridge) (e : WsEvent) : Bool :=
  match e.assetId with
  | .text token =>
    decide (token ≠ "") && ((b.tokenRoutes.get? token).isNone ||
      match e.extractPrices with
      | .ok (some _) => true
      | _ => false)
  | _ => false

/-- The event names no token, or it is plain. -/
def WsEvent.Readable (e : WsEvent) : Prop := e.assetId = .text "" ∨ e.Plain

/-- What an item of a list counts. -/
def itemCounts (b : WSPriceBridge) (item : Option WsEvent) : Bool := item.any (WsEvent.counts b)

/-- The events of a dictionary on its own. -/
def WsDict.events (d : WsDict) : List (Option WsEvent) := if d.isNested then d.entries else [some d.event]

namespace WsFeed

/-- How many events counted. -/
def counted (s : WsFeed) : ℕ := s.totalRouted + s.totalSkipped

/-- `on_ws_message` is called with one dictionary after the other. -/
def onWsMessages (now : Time) (s : WsFeed) (ds : List WsDict) : WsFeed × Option WsError :=
  Lib.forEach (fun s d => s.onWsMessage now (.dict d)) s ds

variable {s : WsFeed} {b : WSPriceBridge} {now : Time} {e : WsEvent} {d : WsDict}

/-- **An event** that can be read is counted, or changes nothing. -/
theorem processSingleEvent_readable (h : e.Readable) (s : WsFeed) (now : Time) :
    (s.processSingleEvent now (some e)).2 = none ∧
    (s.processSingleEvent now (some e)).1.bridge = s.bridge ∧
    (s.processSingleEvent now (some e)).1.counted = s.counted + (e.counts s.bridge).toNat ∧
    (e.counts s.bridge = false → (s.processSingleEvent now (some e)).1 = s) := by
  have hnone : e.assetId = .text "" → s.processSingleEvent now (some e) = (s, none) ∧ e.counts s.bridge = false := by
    intro hid
    constructor
    · unfold processSingleEvent
      dsimp only
      rw [hid]
      rfl
    · unfold WsEvent.counts
      rw [hid]
      rfl
  rcases h with hid | hplain
  · obtain ⟨hsame, hcounts⟩ := hnone hid
    rw [hsame, hcounts]
    exact ⟨rfl, rfl, rfl, fun _ => rfl⟩
  · obtain ⟨token, hid⟩ := hplain.assetId
    by_cases hempty : token = ""
    · subst hempty
      obtain ⟨hsame, hcounts⟩ := hnone hid
      rw [hsame, hcounts]
      exact ⟨rfl, rfl, rfl, fun _ => rfl⟩
    · obtain ⟨prices, hprices⟩ := hplain.extractPrices
      unfold processSingleEvent WsEvent.counts
      dsimp only
      rw [hid, hprices]
      simp only [WsKey.truthy, findRoute, decide_eq_true hempty, Bool.not_true, Bool.false_eq_true, if_false,
        Bool.true_and]
      cases s.bridge.tokenRoutes.get? token with
      | none => exact ⟨rfl, rfl, rfl, fun hcounts => by cases hcounts⟩
      | some route =>
        cases prices with
        | none => exact ⟨rfl, rfl, rfl, fun _ => rfl⟩
        | some prices => exact ⟨rfl, rfl, Nat.succ_add _ _, fun hcounts => by cases hcounts⟩

/-- **A list of events** that can be read raises nothing, and the counters say how many of them count. -/
theorem forEach_readable (now : Time) (items : List (Option WsEvent))
    (h : ∀ item ∈ items, ∃ e : WsEvent, item = some e ∧ e.Readable) : ∀ s : WsFeed,
      (Lib.forEach (processSingleEvent now) s items).1.bridge = s.bridge ∧
      (Lib.forEach (processSingleEvent now) s items).1.counted = s.counted + items.countP (itemCounts s.bridge) ∧
      ((∀ item ∈ items, itemCounts s.bridge item = false) →
        Lib.forEach (processSingleEvent now) s items = (s, none)) := by
  induction items with
  | nil => exact fun s => ⟨rfl, rfl, fun _ => rfl⟩
  | cons item items ih =>
    intro s
    obtain ⟨e, rfl, he⟩ := h item List.mem_cons_self
    obtain ⟨hreturns, hbridge, hcounted, hsame⟩ := processSingleEvent_readable he s now
    obtain ⟨hbridge', hcounted', hsame'⟩ := ih (fun item hitem => h item (List.mem_cons_of_mem _ hitem))
      (s.processSingleEvent now (some e)).1
    rw [Lib.forEach_cons, hreturns, if_neg (by simp)]
    rw [hbridge] at hbridge' hcounted' hsame'
    refine ⟨hbridge', ?_, fun hnone => ?_⟩
    · have hitem : itemCounts s.bridge (some e) = e.counts s.bridge := rfl
      rw [hcounted', hcounted, List.countP_cons, hitem]
      cases e.counts s.bridge with
      | true =>
        simp only [Bool.toNat_true, if_true]
        omega
      | false => rfl
    · have hquiet := hsame (hnone (some e) List.mem_cons_self)
      rw [hquiet] at hsame' ⊢
      exact hsame' fun item hitem => hnone item (List.mem_cons_of_mem _ hitem)

/-! ### A list and its dictionaries -/

theorem events_readable (h : d.Documented) : ∀ item ∈ d.events, ∃ e : WsEvent, item = some e ∧ e.Readable := by
  intro item hitem
  unfold WsDict.events at hitem
  cases hnested : d.isNested with
  | true =>
    rw [hnested, if_pos rfl] at hitem
    obtain ⟨-, -, hplain⟩ := h.nested hnested
    obtain ⟨e, rfl, he⟩ := hplain item hitem
    exact ⟨e, rfl, .inr he⟩
  | false =>
    rw [hnested, if_neg Bool.false_ne_true, List.mem_singleton] at hitem
    exact ⟨d.event, hitem, .inr (h.single hnested)⟩

/-- A dictionary on its own. -/
theorem onWsMessage_dict (h : d.Documented) (s : WsFeed) :
    s.onWsMessage now (.dict d) = Lib.forEach (processSingleEvent now) s d.events := by
  unfold onWsMessage WsDict.events
  dsimp only
  cases hnested : d.isNested with
  | true => rw [if_pos rfl, if_pos rfl, (h.nested hnested).2.1]
  | false => rw [if_neg Bool.false_ne_true, if_neg Bool.false_ne_true, Lib.forEach_singleton]

/-- One dictionary after the other. -/
theorem onWsMessages_eq {ds : List WsDict} (h : ∀ d ∈ ds, d.Documented) (s : WsFeed) :
    s.onWsMessages now ds = Lib.forEach (processSingleEvent now) s (ds.flatMap WsDict.events) := by
  rw [Lib.forEach_flatMap]
  exact Lib.forEach_congr (I := fun _ => True) ds (fun t d hd _ => onWsMessage_dict (h d hd) t)
    (fun _ _ _ _ => trivial) s trivial

theorem onWsMessage_list (s : WsFeed) (ds : List WsDict) : s.onWsMessage now (.list (ds.map some)) =
    Lib.forEach (processSingleEvent now) s (ds.map (fun d => some d.event)) := by
  show Lib.forEach (processSingleEvent now) s ((ds.map some).map (Option.map WsDict.event)) = _
  rw [List.map_map]
  rfl

theorem event_readable (h : d.Documented) : d.event.Readable := by
  cases hnested : d.isNested with
  | true => exact .inl (h.nested hnested).1
  | false => exact .inr (h.single hnested)

/-- In a list a dictionary counts what it counts on its own, except that its `price_changes` do not count. -/
theorem countP_events (h : d.Documented) : d.events.countP (itemCounts b) =
    (itemCounts b (some d.event)).toNat + if d.isNested then d.entries.countP (itemCounts b) else 0 := by
  unfold WsDict.events
  cases hnested : d.isNested with
  | true =>
    have hzero : itemCounts b (some d.event) = false := by
      simp only [itemCounts, Option.any_some, WsEvent.counts, (h.nested hnested).1]
      rfl
    rw [hzero, if_pos rfl, if_pos rfl]
    exact (Nat.zero_add _).symm
  | false =>
    rw [if_neg Bool.false_ne_true, if_neg Bool.false_ne_true]
    cases hcounts : itemCounts b (some d.event) <;> simp [hcounts]

/-- No entry of a `price_change` or `last_trade_price` counts. -/
def NestedIdle (b : WSPriceBridge) (ds : List WsDict) : Prop :=
  ∀ d ∈ ds, d.isNested = true → ∀ item ∈ d.entries, itemCounts b item = false

theorem countP_flatMap_events {ds : List WsDict} (h : ∀ d ∈ ds, d.Documented)
    (heq : (ds.map fun d => some d.event).countP (itemCounts b) = (ds.flatMap WsDict.events).countP (itemCounts b)) :
    NestedIdle b ds := by
  have hle : ∀ ds : List WsDict, (∀ d ∈ ds, d.Documented) →
      (ds.map fun d => some d.event).countP (itemCounts b) ≤ (ds.flatMap WsDict.events).countP (itemCounts b) := by
    intro ds
    induction ds with
    | nil => exact fun _ => le_rfl
    | cons d ds ih =>
      intro h
      have hrest := ih fun d hd => h d (List.mem_cons_of_mem _ hd)
      rw [List.map_cons, List.countP_cons, List.flatMap_cons, List.countP_append,
        countP_events (h d List.mem_cons_self)]
      cases hcounts : itemCounts b (some d.event) <;> simp only [Bool.toNat_true, Bool.toNat_false, if_true,
        Bool.false_eq_true, if_false] <;> omega
  induction ds with
  | nil => exact fun d hd => absurd hd List.not_mem_nil
  | cons d ds ih =>
    have hdocumented : ∀ d ∈ ds, d.Documented := fun d hd => h d (List.mem_cons_of_mem _ hd)
    have hrest := hle ds hdocumented
    rw [List.map_cons, List.countP_cons, List.flatMap_cons, List.countP_append,
      countP_events (h d List.mem_cons_self)] at heq
    have hboth : (ds.map fun d => some d.event).countP (itemCounts b) =
        (ds.flatMap WsDict.events).countP (itemCounts b) ∧
          (if d.isNested then d.entries.countP (itemCounts b) else 0) = 0 := by
      cases hcounts : itemCounts b (some d.event) <;> rw [hcounts] at heq <;> simp only [Bool.toNat_true,
        Bool.toNat_false, if_true, Bool.false_eq_true, if_false] at heq <;> omega
    intro u hu hnested item hitem
    rcases List.mem_cons.mp hu with rfl | hu
    · rw [hnested, if_pos rfl] at hboth
      exact Bool.eq_false_iff.mpr (List.countP_eq_zero.mp hboth.2 item hitem)
    · exact ih hdocumented hboth.1 u hu hnested item hitem

/-- **Batching.** A list of documented messages leaves what its dictionaries leave on their own exactly if no entry of
a `price_change` or `last_trade_price` in it counts. -/
theorem batch_transparent_iff {ds : List WsDict} (h : ∀ d ∈ ds, d.Documented) (s : WsFeed) (now : Time) :
    (s.onWsMessage now (.list (ds.map some))).1 = (s.onWsMessages now ds).1 ↔ NestedIdle s.bridge ds := by
  rw [onWsMessage_list, onWsMessages_eq h]
  constructor
  · intro heq
    have hlist := (forEach_readable now (ds.map fun d => some d.event) (fun item hitem => by
      obtain ⟨d, hd, rfl⟩ := List.mem_map.mp hitem
      exact ⟨d.event, rfl, event_readable (h d hd)⟩) s).2.1
    have halone := (forEach_readable now (ds.flatMap WsDict.events) (fun item hitem => by
      obtain ⟨d, hd, hitem⟩ := List.mem_flatMap.mp hitem
      exact events_readable (h d hd) item hitem) s).2.1
    rw [heq, halone] at hlist
    exact countP_flatMap_events h (Nat.add_left_cancel hlist).symm
  · intro hidle
    rw [Lib.forEach_map, Lib.forEach_flatMap]
    refine congrArg Prod.fst (Lib.forEach_congr (I := fun t => t.bridge = s.bridge) ds (fun t d hd ht => ?_)
      (fun t d hd ht => ?_) s rfl)
    · unfold WsDict.events
      cases hnested : d.isNested with
      | false => rw [if_neg Bool.false_ne_true, Lib.forEach_singleton]
      | true =>
        rw [if_pos rfl]
        obtain ⟨hid, -, hplain⟩ := (h d hd).nested hnested
        have hentries := (forEach_readable now _ (fun item hitem => by
          obtain ⟨e, he, hp⟩ := hplain item hitem
          exact ⟨e, he, .inr hp⟩) t).2.2 (by rw [ht]; exact hidle d hd hnested)
        rw [hentries]
        unfold processSingleEvent
        dsimp only
        rw [hid]
        rfl
    · exact (processSingleEvent_readable (event_readable (h d hd)) _ _).2.1.trans ht

/-- A price change of the token that is known. -/
def priceChange : WsDict where
  eventType := "price_change"
  priceChanges := .items [some { assetId := .text "token", bestBid := some (.text (.num 0.51))
                                 bestAsk := some (.text (.num 0.55)) }]

theorem plain_quote (token : TokenId) (bid ask : Option PyFloat) : WsEvent.Plain
    { assetId := .text token, bestBid := bid.map .text, bestAsk := ask.map .text } where
  assetId := ⟨token, rfl⟩
  bestBid v hv := by
    obtain ⟨x, -, rfl⟩ := Option.map_eq_some_iff.mp hv
    exact WsValue.noConfusion
  bestAsk v hv := by
    obtain ⟨x, -, rfl⟩ := Option.map_eq_some_iff.mp hv
    exact WsValue.noConfusion
  bids l hl := by cases hl
  asks l hl := by cases hl
  price v hv := by cases hv

theorem priceChange_documented : priceChange.Documented where
  kind := by decide
  nested _ := ⟨rfl, rfl, fun _ hitem => ⟨_, List.mem_singleton.mp hitem, plain_quote "token" (some _) (some _)⟩⟩
  single h := by cases h

/-- The best bid and ask of that token, and a trade of it without a price. -/
def bestQuote : WsDict where
  eventType := "best_bid_ask"
  event := { assetId := .text "token", bestBid := some (.text (.num 0.51)), bestAsk := some (.text (.num 0.55)) }

def pricelessTrade : WsDict where
  eventType := "last_trade_price"
  priceChanges := .items [some { assetId := .text "token" }]

theorem bestQuote_documented : bestQuote.Documented where
  kind := by decide
  nested h := by cases h
  single _ := plain_quote "token" (some _) (some _)

theorem pricelessTrade_documented : pricelessTrade.Documented where
  kind := by decide
  nested _ := ⟨rfl, rfl, fun _ hitem => ⟨_, List.mem_singleton.mp hitem, plain_quote "token" none none⟩⟩
  single h := by cases h

/-- A list that leaves what its messages leave on their own. -/
theorem batch_transparent_quotes :
    ((upRouted.onWsMessages 0 [bestQuote, pricelessTrade]).1.pipeline.records.get? "event").map LivePriceRecord.upBid =
      some 0.51 ∧
    (upRouted.onWsMessage 0 (.list ([bestQuote, pricelessTrade].map some))).1 =
      (upRouted.onWsMessages 0 [bestQuote, pricelessTrade]).1 := by
  have hdocumented : ∀ d ∈ [bestQuote, pricelessTrade], d.Documented := by
    simp [bestQuote_documented, pricelessTrade_documented]
  have hidle : NestedIdle upRouted.bridge [bestQuote, pricelessTrade] := by
    unfold NestedIdle
    decide +kernel
  exact ⟨by decide +kernel, (batch_transparent_iff hdocumented upRouted 0).mpr hidle⟩

/-- **A dropped update**: in a list the price change leaves no record, on its own it does. -/
theorem priceChange_dropped_in_list : priceChange.Documented ∧
    (upRouted.onWsMessage 0 (.list [some priceChange])).1 ≠ (upRouted.onWsMessages 0 [priceChange]).1 ∧
    (upRouted.onWsMessage 0 (.list [some priceChange])).1.pipeline.records.get? "event" = none ∧
    ((upRouted.onWsMessages 0 [priceChange]).1.pipeline.records.get? "event").map LivePriceRecord.upBid =
      some 0.51 := by
  have hlist : (upRouted.onWsMessage 0 (.list [some priceChange])).1.totalRouted = 0 := by decide +kernel
  have halone : (upRouted.onWsMessages 0 [priceChange]).1.totalRouted = 1 := by decide +kernel
  refine ⟨priceChange_documented, fun heq => ?_, by decide +kernel, by decide +kernel⟩
  rw [heq, halone] at hlist
  cases hlist

end WsFeed

end Polyfast
