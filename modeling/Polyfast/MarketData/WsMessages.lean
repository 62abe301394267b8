import Polyfast.Lib.Loop
import Polyfast.MarketData.PriceUpdates
import Polyfast.MarketData.Subscriptions

/-!
# WebSocket messages

`on_ws_message` takes what `json.loads` makes of a message: a list of dictionaries, or one. Nothing of it is checked
before it is read, so a field may be missing or of another type, and reading it may raise. A dictionary keeps the
fields that the bridge reads, each with what the bridge can see of it.

* `WsEvent`, `WsDict`, `WsMessage`: messages; `extractPrices`, `processSingleEvent`, `onWsMessage`: what is done;
* `processSingleEvent_cases`: an event is routed, or nothing but a counter changes.
-/

namespace Polyfast

/-- What `float` returns: a text may stand for a value that is no number, or for one beyond all others. -/
inductive PyFloat
  | num (q : ℚ)
  | inf
  | negInf
  | nan
  deriving DecidableEq

namespace PyFloat

/-- `x < y`, which is false where one of them is no number. -/
def lt : PyFloat → PyFloat → Bool
  | num a, num b => decide (a < b)
  | num _, inf | negInf, num _ | negInf, inf => true
  | _, _ => false

/-- `x <= y`. -/
def le (x y : PyFloat) : Bool := x.lt y || (decide (x = y) && decide (x ≠ nan))

/-- The value as a price: one that is not finite is refused, as 0 is. -/
def price : PyFloat → ℚ
  | num q => q
  | _ => 0

end PyFloat

/-- What reading a message can raise. -/
inductive WsError
  | valueError
  | typeError
  | attributeError
  | overflowError
  deriving DecidableEq

/-- A value that is read as a price. `text` is a text that `float` reads, `hugeInt` a whole number beyond the floats,
`other` anything else. -/
inductive WsValue
  | none
  | bool (b : Bool)
  | num (x : PyFloat)
  | text (x : PyFloat)
  | hugeInt
  | other (truthy : Bool)
  deriving DecidableEq

namespace WsValue

/-- `float(v)`. -/
def toFloat : WsValue → Except WsError PyFloat
  | none => .error .typeError
  | bool b => .ok (.num (if b then 1 else 0))
  | num x | text x => .ok x
  | hugeInt => .error .overflowError
  | other _ => .error .valueError

/-- `bool(v)`. -/
def truthy : WsValue → Bool
  | none => false
  | bool b => b
  | num x => decide (x ≠ .num 0)
  | text _ | hugeInt => true
  | other t => t

end WsValue

/-- The two exceptions that `_extract_prices` catches; a key that is missing cannot be reached. -/
def WsError.isCaught : WsError → Bool
  | valueError | typeError => true
  | attributeError | overflowError => false

/-- `try .. except`, with nothing for what is caught. -/
def catching {α : Type} : Except WsError α → Except WsError (Option α)
  | .ok a => .ok (some a)
  | .error e => if e.isCaught then .ok none else .error e

/-- Bids or asks. An item of the list is the `price` of a level, or no dictionary; the items of a text or a dictionary
are none either. -/
inductive WsLevels
  | items (levels : List (Option WsValue))
  | notIterable (truthy : Bool)
  deriving DecidableEq

namespace WsLevels

def truthy : WsLevels → Bool
  | items levels => !levels.isEmpty
  | notIterable t => t

/-- `float(b["price"]) for b in levels if b.get("price")`. -/
def floats : List (Option WsValue) → Except WsError (List PyFloat)
  | [] => .ok []
  | none :: _ => .error .attributeError
  | some price :: rest =>
    if price.truthy then do
      let x ← price.toFloat
      let xs ← floats rest
      pure (x :: xs)
    else floats rest

/-- `max` or `min` of them: the first one that no later one is better than. -/
def best (better : PyFloat → PyFloat → Bool) : WsLevels → Except WsError PyFloat
  | notIterable _ => .error .typeError
  | items levels => do
    match ← floats levels with
    | [] => .error .valueError
    | x :: xs => .ok (xs.foldl (fun m y => if better y m then y else m) x)

end WsLevels

/-- The value of `asset_id`. A list or a dictionary cannot be looked up. -/
inductive WsKey
  | text (s : String)
  | hashable (truthy : Bool)
  | unhashable (truthy : Bool)
  deriving DecidableEq

def WsKey.truthy : WsKey → Bool
  | text s => decide (s ≠ "")
  | hashable t | unhashable t => t

/-- The fields of a dictionary that `_process_single_event` reads, with the defaults it reads them with. -/
structure WsEvent where
  assetId : WsKey := .text ""
  bestBid : Option WsValue := none
  bestAsk : Option WsValue := none
  bids : WsLevels := .items []
  asks : WsLevels := .items []
  price : Option WsValue := none
  deriving DecidableEq

namespace WsEvent

variable (e : WsEvent)

/-- The highest bid and the lowest ask of a book, else the price as both. -/
def extractBook : Except WsError (Option (PyFloat × PyFloat)) :=
  if e.bids.truthy && e.asks.truthy then catching do
    let bestBid ← e.bids.best (fun y m => m.lt y)
    let bestAsk ← e.asks.best (fun y m => y.lt m)
    pure (bestBid, bestAsk)
  else match e.price with
    | some price => catching do
      let price ← price.toFloat
      pure (price, price)
    | none => .ok none

/-- `_extract_prices`. -/
def extractPrices : Except WsError (Option (PyFloat × PyFloat)) :=
  match e.bestBid, e.bestAsk with
  | some bid, some ask => catching do
    let bid ← bid.toFloat
    let ask ← ask.toFloat
    pure (bid, ask)
  | _, _ => e.extractBook

end WsEvent

/-- The value of `price_changes`; an item that is no dictionary is `none`. -/
inductive WsChanges
  | items (entries : List (Option WsEvent))
  | notIterable
  deriving DecidableEq

/-- A dictionary. An event type that is no text is none of those that are looked for. -/
structure WsDict where
  eventType : String := ""
  priceChanges : WsChanges := .items []
  event : WsEvent := {}
  deriving DecidableEq

/-- Its prices are in `price_changes`. -/
def WsDict.isNested (d : WsDict) : Bool := d.eventType = "price_change" || d.eventType = "last_trade_price"

/-- What `on_ws_message` is called with; an item of a list that is no dictionary is `none`. -/
inductive WsMessage
  | list (items : List (Option WsDict))
  | dict (d : WsDict)
  | other

/-! ### The bridge -/

/-- The bridge and the pipeline it writes to. -/
structure WsFeed where
  bridge : WSPriceBridge := {}
  lastMessageAt : Lib.Dict TokenId Time := .empty
  totalRouted : ℕ := 0
  totalSkipped : ℕ := 0
  pipeline : LivePricePipeline := {}

namespace WsFeed

variable (s : WsFeed)

/-- The route of a token. -/
def findRoute : WsKey → Except WsError (Option TokenRoute)
  | .text token => .ok (s.bridge.tokenRoutes.get? token)
  | .hashable _ => .ok none
  | .unhashable _ => .error .typeError

/-- The token's route is not known. -/
def skip : WsFeed := { s with totalSkipped := s.totalSkipped + 1 }

/-- Prices for a token are handed to the pipeline. -/
def routeTo (route : TokenRoute) (bestBid bestAsk : PyFloat) (now : Time) : WsFeed :=
  { s with
    pipeline := (s.pipeline.updateFromWs route.conditionId route.asset route.side bestBid.price bestAsk.price now).1
    lastMessageAt := s.lastMessageAt.set route.tokenId now
    totalRouted := s.totalRouted + 1 }

/-- `_process_single_event`. -/
def processSingleEvent (now : Time) (s : WsFeed) : Option WsEvent → WsFeed × Option WsError
  | none => (s, some .attributeError)
  | some e =>
    if !e.assetId.truthy then (s, none)
    else match s.findRoute e.assetId with
      | .error err => (s, some err)
      | .ok none => (s.skip, none)
      | .ok (some route) =>
        match e.extractPrices with
        | .error err => (s, some err)
        | .ok none => (s, none)
        | .ok (some (bestBid, bestAsk)) => (s.routeTo route bestBid bestAsk now, none)

/-- `on_ws_message`. -/
def onWsMessage (now : Time) (s : WsFeed) : WsMessage → WsFeed × Option WsError
  | .list items => Lib.forEach (processSingleEvent now) s (items.map (Option.map WsDict.event))
  | .dict d =>
    if d.isNested then
      match d.priceChanges with
      | .items entries => Lib.forEach (processSingleEvent now) s entries
      | .notIterable => (s, some .typeError)
    else s.processSingleEvent now (some d.event)
  | .other => (s, none)

variable {s : WsFeed} {now : Time} {e : WsEvent} {route : TokenRoute} {key : WsKey}

theorem findRoute_some (h : s.findRoute key = .ok (some route)) :
    key = .text route.tokenId ∧ s.bridge.tokenRoutes.get? route.tokenId = some route := by
  cases key with
  | text token =>
    have hget : s.bridge.tokenRoutes.get? token = some route := Except.ok.inj h
    have hkey : route.tokenId = token := Lib.Table.key_of_get? hget
    exact ⟨by rw [hkey], by rw [hkey, hget]⟩
  | hashable t => cases h
  | unhashable t => cases h

/-- **An event** of a token that is routed is routed if it has prices; another one at most is counted. -/
theorem processSingleEvent_cases (s : WsFeed) (now : Time) (e : WsEvent) :
    (s.processSingleEvent now (some e)).1 = s ∨ (s.processSingleEvent now (some e)).1 = s.skip ∨
      ∃ route bestBid bestAsk, e.assetId = .text route.tokenId ∧
        s.bridge.tokenRoutes.get? route.tokenId = some route ∧
        (s.processSingleEvent now (some e)).1 = s.routeTo route bestBid bestAsk now := by
  unfold processSingleEvent
  dsimp only
  split_ifs
  · exact .inl rfl
  · cases hroute : s.findRoute e.assetId with
    | error err => exact .inl rfl
    | ok found =>
      cases found with
      | none => exact .inr (.inl rfl)
      | some route =>
        obtain ⟨hid, hget⟩ := findRoute_some hroute
        cases hprices : e.extractPrices with
        | error err => exact .inl rfl
        | ok prices =>
          cases prices with
          | none => exact .inl rfl
          | some prices => exact .inr (.inr ⟨route, prices.1, prices.2, hid, hget, rfl⟩)

/-- A bridge that knows one token. -/
def upRouted : WsFeed where
  bridge := WSPriceBridge.registerToken {} "token" "event" "BTC" "up"

end WsFeed

end Polyfast
