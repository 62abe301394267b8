import Polyfast.Execution.OrderValidator
import Polyfast.Execution.PositionTracker
import Polyfast.Orchestrator.ExitPrices
import Polyfast.Strategy.RuleEngine

/-!
# The evaluation loop

A turn evaluates one coin and, on an entry signal, assembles the order for the event of the running slot.
Both halves look that event up for themselves, and each reads the clock as it goes; nothing else runs in
between, so a turn is one step up to the call of the executor.

* `evaluateSingle`, `dispatchEntry`, `turn`: what the loop computes;
* `priceRecord_spec`: which prices a turn uses;
* `Dispatches`, `turn_eq_some_iff`: when a turn sends an order, and which.
-/

namespace Polyfast

structure EvaluationLoop where
  pipeline : LivePricePipeline := {}
  coinClient : CoinPriceClient := {}
  ptbFetcher : PTBFetcher := {}
  bridge : WSPriceBridge := {}
  registry : EventRegistry := {}
  botMaxPositions : ℤ := 3
  hasExecutor : Bool := true
  paperMode : Bool := false
  orderDispatchEnabled : Bool := false
  evalCount : ℕ := 0
  entryCount : ℕ := 0
  lastResults : Lib.Dict Asset EvaluationResult := .empty

/-- The clock reads of a turn, in order: three of the evaluation's lookups and the remaining seconds, then
the dispatch's two lookups, its slot guard and the stamp of the order. -/
structure TurnClock where
  lookup : Time
  price : Time
  coin : Time
  remaining : Time
  dispatchLookup : Time
  dispatchPrice : Time
  guard : Time
  intent : Time

/-- All reads of a turn at one instant. -/
def TurnClock.at (now : Time) : TurnClock := ⟨now, now, now, now, now, now, now, now⟩

/-- `entry_price`: the ask of the side; without one, the bid. -/
def LivePriceRecord.entryPrice (r : LivePriceRecord) (side : OrderSide) : ℚ :=
  if r.ask side > 0 then r.ask side else r.bid side

/-- The slot guard of a dispatch: the registry knows the event, and its slot is not running. -/
def EventRegistry.outsideSlot (r : EventRegistry) (conditionId : ConditionId) (now : Time) : Bool :=
  match r.getByConditionId conditionId with
  | none => false
  | some reg =>
    match slugStart reg.slug with
    | none => false
    | some start => !inSlot start now

namespace EvaluationLoop

variable (l : EvaluationLoop) (s : CoinSettings) (t : PositionTracker) (k : TurnClock)

/-- The price record of a coin: that of the event of the running slot, else the first of the asset. -/
def priceRecord (asset : Asset) : LivePricePipeline × Option LivePriceRecord :=
  let currentCid := l.registry.findCurrentSlotConditionId asset k.lookup
  if currentCid = "" then l.pipeline.getRecordByAsset asset k.price
  else match l.pipeline.getRecord currentCid k.price with
    | (pipeline, some r) => (pipeline, some r)
    | (pipeline, none) => pipeline.getRecordByAsset asset k.price

/-- The price to beat: that of the event, else one of the asset. -/
def ptbRecord (asset : Asset) (conditionId : ConditionId) : Option PTBRecord :=
  match if conditionId = "" then none else l.ptbFetcher.getRecord conditionId with
  | some r => some r
  | none => l.ptbFetcher.getRecordByAsset asset

/-- What stands in for a price record that is missing: all prices 0, nothing fresh. -/
def noPrices (asset : Asset) : LivePriceRecord := { conditionId := "", asset := asset }

/-- What the evaluation of a coin tells the rules. -/
def context (price : Option LivePriceRecord) (coin : Option CoinPriceRecord) : EvaluationContext :=
  let r := price.getD (noPrices s.coin)
  let ptb := (l.ptbRecord s.coin r.conditionId).filter PTBRecord.isLocked
  { conditionId := r.conditionId
    asset := s.coin
    upPrice := r.upBid
    downPrice := r.downBid
    upBid := r.upBid
    upAsk := r.upAsk
    downBid := r.downBid
    downAsk := r.downAsk
    bestBid := max r.upBid r.downBid
    bestAsk := if r.upBid ≥ r.downBid then r.upAsk else r.downAsk
    outcomeFresh := r.status = .fresh
    sideMode := s.sideMode
    coinUsdPrice := coin.elim 0 (·.usdPrice)
    coinUsdFresh := coin.any (·.status = .fresh)
    ptbValue := (ptb.bind (·.ptbValue)).getD 0
    ptbAcquired := ptb.isSome
    secondsRemaining := slotEnd k.remaining - k.remaining
    eventFillCount := if r.conditionId = "" then 0 else t.getEventFillCount r.conditionId
    openPositionCount := t.openPositionCount
    timeMinSeconds := s.timeMin
    timeMaxSeconds := s.timeMax
    priceMin := s.priceMin
    priceMax := s.priceMax
    deltaThreshold := s.deltaThreshold
    spreadMaxPct := s.spreadMax
    eventMaxPositions := s.eventMax
    botMaxPositions := l.botMaxPositions
    timeEnabled := s.timeMin > 0
    priceEnabled := s.priceMin > 0
    deltaEnabled := s.deltaThreshold > 0
    spreadEnabled := s.spreadMax > 0 }

/-- `_evaluate_single`. -/
def evaluateSingle : EvaluationLoop × EvaluationResult :=
  let (pipeline, price) := l.priceRecord k s.coin
  let (coinClient, coin) := l.coinClient.getPrice s.coin k.coin
  let result := ruleEngineEvaluate (l.context s t k price coin)
  ({ l with
      pipeline := pipeline
      coinClient := coinClient
      lastResults := l.lastResults.set s.coin result }, result)

/-- `_dispatch_entry` up to the call of the executor. -/
def dispatchEntry (result : EvaluationResult) : EvaluationLoop × Option OrderIntent :=
  let side := result.dominantSide
  let conditionId := l.registry.findCurrentSlotConditionId s.coin k.dispatchLookup
  if conditionId = "" then (l, none)
  else match l.pipeline.getRecord conditionId k.dispatchPrice with
    | (pipeline, none) => ({ l with pipeline := pipeline }, none)
    | (pipeline, some r) =>
      let l := { l with pipeline := pipeline }
      if l.registry.outsideSlot conditionId k.guard then (l, none)
      else
        let tokenId := l.bridge.findToken s.coin side.value conditionId
        if tokenId = "" then (l, none)
        else
          let entryPrice := r.entryPrice side
          if entryPrice ≤ 0 then (l, none)
          else (l, some
            { asset := s.coin
              side := side
              amountUsd := s.orderAmount
              conditionId := conditionId
              tokenId := tokenId
              dominantPrice := entryPrice
              eventMax := s.eventMax
              evaluatedAt := k.intent })

/-- The loop may send orders: in paper mode always, live when dispatch is enabled. -/
def canDispatch : Bool := (l.orderDispatchEnabled || l.paperMode) && l.hasExecutor

/-- One turn of `_evaluate_all_eligible`, up to the call of the executor. -/
def turn : EvaluationLoop × Option OrderIntent :=
  let (l, result) := l.evaluateSingle s t k
  let l := { l with evalCount := l.evalCount + 1 }
  if result.decision = .entry then
    let l := { l with entryCount := l.entryCount + 1 }
    if l.canDispatch then l.dispatchEntry s k result else (l, none)
  else (l, none)

/-! ### Which orders a turn sends -/

/-- Prices and events, as the exit loop sees them too. -/
def market : Market := ⟨l.pipeline, l.registry⟩

/-- The context of a turn's evaluation. -/
def turnContext : EvaluationContext :=
  l.context s t k (l.priceRecord k s.coin).2 (l.coinClient.getPrice s.coin k.coin).2

/-- The pipeline has a price for the order. -/
def Priced (p : LivePricePipeline) (i : OrderIntent) : Prop :=
  ∃ r, p.records.get? i.conditionId = some r ∧ r.entryPrice i.side = i.dominantPrice ∧
    0 < i.dominantPrice

/-- The order that follows an evaluation on side `side`. -/
structure Orders (side : OrderSide) (i : OrderIntent) : Prop where
  current : l.registry.findCurrentSlotConditionId s.coin k.dispatchLookup = i.conditionId
  known : i.conditionId ≠ ""
  priced : Priced l.pipeline i
  inside : l.registry.outsideSlot i.conditionId k.guard = false
  token : l.bridge.findToken s.coin i.side.value i.conditionId = i.tokenId
  routed : i.tokenId ≠ ""
  asset : i.asset = s.coin
  side : i.side = side
  amountUsd : i.amountUsd = s.orderAmount
  eventMax : i.eventMax = s.eventMax
  evaluatedAt : i.evaluatedAt = k.intent

variable {l s t k} {p p' : LivePricePipeline} {i : OrderIntent} {side : OrderSide}

theorem entryPrice_unmarked (r : LivePriceRecord) (side : OrderSide) :
    r.unmarked.entryPrice side = r.entryPrice side := by cases side <;> rfl

theorem entryPrice_checkFreshness (r : LivePriceRecord) (now : Time) (side : OrderSide) :
    (r.checkFreshness now).entryPrice side = r.entryPrice side := by
  rw [← entryPrice_unmarked, r.unmarked_checkFreshness now, entryPrice_unmarked]

/-- Status marks do not matter for the price of an order. -/
theorem Priced.congr (h : p.SamePrices p') : Priced p' i ↔ Priced p i := by
  have hget := h.find? (fun r => r.conditionId = i.conditionId) fun _ => rfl
  rw [← Lib.Table.get?_eq_find?, ← Lib.Table.get?_eq_find?] at hget
  have hmap : ∀ q : LivePricePipeline, Priced q i ↔
      ∃ r, (q.records.get? i.conditionId).map LivePriceRecord.unmarked = some r ∧
        r.entryPrice i.side = i.dominantPrice ∧ 0 < i.dominantPrice := by
    intro q
    constructor
    · rintro ⟨r, hr, he, hpos⟩
      exact ⟨r.unmarked, by rw [hr, Option.map_some], (entryPrice_unmarked r i.side).trans he, hpos⟩
    · rintro ⟨u, hu, he, hpos⟩
      obtain ⟨r, hr, rfl⟩ := Option.map_eq_some_iff.mp hu
      exact ⟨r, hr, (entryPrice_unmarked r i.side).symm.trans he, hpos⟩
  rw [hmap, hmap, hget]

theorem dispatchEntry_eq_some_iff (result : EvaluationResult) :
    (l.dispatchEntry s k result).2 = some i ↔ l.Orders s k result.dominantSide i := by
  constructor
  · intro h
    unfold dispatchEntry at h
    dsimp only at h
    by_cases hcid : l.registry.findCurrentSlotConditionId s.coin k.dispatchLookup = ""
    · rw [if_pos hcid] at h
      cases h
    rw [if_neg hcid] at h
    cases hr : l.pipeline.records.get?
        (l.registry.findCurrentSlotConditionId s.coin k.dispatchLookup) with
    | none =>
      rw [LivePricePipeline.getRecord, hr] at h
      cases h
    | some r =>
      rw [LivePricePipeline.getRecord, hr] at h
      dsimp only at h
      rw [entryPrice_checkFreshness] at h
      split_ifs at h with hout htoken hprice
      obtain rfl := Option.some.inj h
      exact
        { current := rfl
          known := hcid
          priced := ⟨r, hr, rfl, not_le.mp hprice⟩
          inside := Bool.eq_false_iff.mpr hout
          token := rfl
          routed := htoken
          asset := rfl
          side := rfl
          amountUsd := rfl
          eventMax := rfl
          evaluatedAt := rfl }
  · rintro ⟨hcurrent, hknown, ⟨r, hr, hprice, hpos⟩, hin, htoken, hrouted, hasset, hside, hamount, hmax,
      hat⟩
    have hin' : ¬l.registry.outsideSlot i.conditionId k.guard = true := by simp [hin]
    unfold dispatchEntry
    dsimp only
    rw [hcurrent, if_neg hknown, LivePricePipeline.getRecord, hr]
    dsimp only
    rw [← hside, htoken, entryPrice_checkFreshness, hprice, if_neg hin', if_neg hrouted,
      if_neg (not_le.mpr hpos), ← hasset, ← hamount, ← hmax, ← hat]

/-- A lookup finds the selected record, a status mark aside, and changes no price. -/
theorem priceRecord_spec (l : EvaluationLoop) (k : TurnClock) (asset : Asset) :
    l.pipeline.SamePrices (l.priceRecord k asset).1 ∧
      (l.priceRecord k asset).2.map LivePriceRecord.unmarked =
        (l.market.selected k.lookup asset).map LivePriceRecord.unmarked := by
  have hbyAsset := LivePricePipeline.getRecordByAsset_spec (p := l.pipeline) rfl asset k.price
  unfold priceRecord Market.selected market
  dsimp only
  split_ifs with hcid
  · exact hbyAsset
  · cases hr : l.pipeline.records.get? (l.registry.findCurrentSlotConditionId asset k.lookup) with
    | none =>
      rw [LivePricePipeline.getRecord, hr]
      exact hbyAsset
    | some r =>
      have hget := LivePricePipeline.getRecord_spec (p := l.pipeline) rfl
        (l.registry.findCurrentSlotConditionId asset k.lookup) k.price
      rw [hr] at hget
      rw [LivePricePipeline.getRecord, hr] at hget ⊢
      exact hget

/-- What a turn that sends the order `i` has found. -/
structure Dispatches (l : EvaluationLoop) (s : CoinSettings) (t : PositionTracker) (k : TurnClock)
    (i : OrderIntent) : Prop where
  decision : (ruleEngineEvaluate (l.turnContext s t k)).decision = .entry
  canDispatch : l.canDispatch = true
  orders : l.Orders s k (l.turnContext s t k).evaluatedSide i

/-- Status marks do not matter for the order. -/
theorem Orders.congr {l' : EvaluationLoop} (hp : l.pipeline.SamePrices l'.pipeline)
    (hr : l'.registry = l.registry) (hb : l'.bridge = l.bridge) :
    l'.Orders s k side i ↔ l.Orders s k side i := by
  constructor
  · intro h
    exact
      { h with
        current := hr ▸ h.current
        priced := (Priced.congr hp).mp h.priced
        inside := hr ▸ h.inside
        token := hb ▸ h.token }
  · intro h
    exact
      { h with
        current := hr ▸ h.current
        priced := (Priced.congr hp).mpr h.priced
        inside := hr ▸ h.inside
        token := hb ▸ h.token }

/-- **Dispatch.** A turn sends an order exactly when it decides for an entry, may dispatch, and finds the
order in the stores as they were before it. -/
theorem turn_eq_some_iff : (l.turn s t k).2 = some i ↔ l.Dispatches s t k i := by
  have hsame := (priceRecord_spec l k s.coin).1
  unfold turn evaluateSingle
  dsimp only
  rw [← turnContext]
  by_cases hentry : (ruleEngineEvaluate (l.turnContext s t k)).decision = .entry
  · rw [if_pos hentry]
    by_cases hcan : l.canDispatch = true
    · rw [canDispatch] at hcan
      rw [canDispatch]
      dsimp only
      rw [if_pos hcan, dispatchEntry_eq_some_iff]
      constructor
      · intro h
        refine ⟨hentry, hcan, Iff.mp (Orders.congr ?_ ?_ ?_) h⟩
        · exact hsame
        · rfl
        · rfl
      · intro h
        refine Iff.mpr (Orders.congr ?_ ?_ ?_) h.orders
        · exact hsame
        · rfl
        · rfl
    · refine iff_of_false (fun h => ?_) fun h => hcan h.canDispatch
      rw [canDispatch] at hcan h
      rw [if_neg hcan] at h
      cases h
  · refine iff_of_false (fun h => ?_) fun h => hentry h.decision
    rw [if_neg hentry] at h
    cases h

end EvaluationLoop

end Polyfast
