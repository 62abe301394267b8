import Polyfast.Lib.Rounding
import Polyfast.MarketData.LivePrice
import Polyfast.Py

/-!
# Writing live prices

The WebSocket sends bid and ask of one token at a time, Gamma the outcome prices of both. An update is accepted
or refused; a refused one writes at most a status.

* `updateFromWs`, `updateFromGamma`: the two writers of the pipeline, each as what it makes of the record;
* `wsAccepts`, `gammaAccepts`: what is accepted;
* `applyWs_accepted`, `applyWs_refused`, `applyGamma_accepted`, `applyGamma_quotes`, `applyGamma_refused`: what is
  written.
-/

namespace Polyfast

inductive PriceSource
  | rtdsWs
  | gammaOutcomePrices
  | none
  deriving DecidableEq

def PriceSource.value : PriceSource → String
  | .rtdsWs => "rtds_ws"
  | .gammaOutcomePrices => "gamma_outcome_prices"
  | .none => "none"

/-- A value of `outcomePrices`. -/
inductive OutcomeValue
  | list (items : List PyValue)
  | other

/-- `outcomePrices` as they come: a text, with what `json.loads` makes of it if it does not raise, or a value. -/
inductive OutcomePricesRaw
  | text (loaded : Option OutcomeValue)
  | value (v : OutcomeValue)

/-- `_parse_outcome_prices`. -/
def parseOutcomePrices (raw : OutcomePricesRaw) : Option (ℚ × ℚ) :=
  let parsed := match raw with
    | .text loaded => loaded
    | .value v => some v
  match parsed with
  | some (.list (up :: down :: _)) =>
    match up.toFloat, down.toFloat with
    | .ok up, .ok down => some (up, down)
    | _, _ => none
  | _ => none

/-- `_is_valid_price`. -/
def isValidPrice (price : ℚ) : Bool := decide (0 < price ∧ price ≤ 1)

/-- `_is_valid_ws_price`, the same range. -/
def isValidWsPrice (price : ℚ) : Bool := isValidPrice price

namespace LivePriceRecord

variable (r : LivePriceRecord)

def bestBid : ℚ := if r.upBid ≥ r.downBid then r.upBid else r.downBid

def bestAsk : ℚ := if r.upBid ≥ r.downBid then r.upAsk else r.downAsk

/-- Bid and ask of a side are written. -/
def withQuote (side : OrderSide) (bestBid bestAsk : ℚ) : LivePriceRecord :=
  match side with
  | .up => { r with upBid := bestBid, upAsk := bestAsk }
  | .down => { r with downBid := bestBid, downAsk := bestAsk }

/-- The end of an accepted WebSocket update. -/
def receivedFromWs (now : Time) : LivePriceRecord :=
  { r with
    spread := if r.bestBid > 0 ∧ r.bestAsk > 0 then Lib.roundTo 4 (r.bestAsk - r.bestBid) else r.spread
    status := .fresh
    updatedAt := some now
    source := PriceSource.rtdsWs.value }

/-- What `update_from_ws` does to the record. -/
def applyWs (side : String) (bestBid bestAsk : ℚ) (now : Time) : LivePriceRecord :=
  if !isValidWsPrice bestBid || !isValidWsPrice bestAsk then
    if r.status = .waiting then { r with status := .invalid } else r
  else if side.toLower = "up" then (r.withQuote .up bestBid bestAsk).receivedFromWs now
  else if side.toLower = "down" then (r.withQuote .down bestBid bestAsk).receivedFromWs now
  else r

/-- What `update_from_gamma` does to the record: bid and ask of a side are its outcome price. -/
def applyGamma (raw : OutcomePricesRaw) (spread : ℚ) (now : Time) : LivePriceRecord :=
  match parseOutcomePrices raw with
  | none => { r with status := .invalid }
  | some (upPrice, downPrice) =>
    if !isValidPrice upPrice || !isValidPrice downPrice then { r with status := .invalid }
    else
      { (r.withQuote .up upPrice upPrice).withQuote .down downPrice downPrice with
        spread := spread
        status := .fresh
        updatedAt := some now
        source := PriceSource.gammaOutcomePrices.value }

end LivePriceRecord

namespace LivePricePipeline

variable (p : LivePricePipeline)

/-- `_get_or_create`. -/
def getOrCreate (conditionId : ConditionId) (asset : Asset) : LivePriceRecord :=
  match p.records.get? conditionId with
  | some r => r
  | none => { conditionId := conditionId, asset := asset, staleThresholdSec := p.staleThreshold }

/-- The record object, changed in place. -/
def write (r : LivePriceRecord) : LivePricePipeline := { p with records := p.records.put r }

def updateFromWs (conditionId : ConditionId) (asset : Asset) (side : String) (bestBid bestAsk : ℚ) (now : Time) :
    LivePricePipeline × LivePriceRecord :=
  let r := (p.getOrCreate conditionId asset).applyWs side bestBid bestAsk now
  (p.write r, r)

def updateFromGamma (conditionId : ConditionId) (asset : Asset) (raw : OutcomePricesRaw) (spread : ℚ) (now : Time) :
    LivePricePipeline × LivePriceRecord :=
  let r := (p.getOrCreate conditionId asset).applyGamma raw spread now
  (p.write r, r)

def clearEvent (conditionId : ConditionId) : LivePricePipeline := { p with records := p.records.erase conditionId }

end LivePricePipeline

/-! ### What is accepted -/

/-- The side that a WebSocket update writes, if it is accepted. -/
def wsAccepts (side : String) (bestBid bestAsk : ℚ) : Option OrderSide :=
  if !isValidWsPrice bestBid || !isValidWsPrice bestAsk then none
  else if side.toLower = "up" then some .up
  else if side.toLower = "down" then some .down
  else none

/-- The outcome prices that a Gamma update writes, if it is accepted. -/
def gammaAccepts (raw : OutcomePricesRaw) : Option (ℚ × ℚ) :=
  (parseOutcomePrices raw).filter (fun (up, down) => isValidPrice up && isValidPrice down)

namespace LivePriceRecord

variable {side : String} {bestBid bestAsk : ℚ} {raw : OutcomePricesRaw}

/-- What every accepted update writes. -/
structure Received (r r' : LivePriceRecord) (source : PriceSource) (now : Time) : Prop where
  conditionId : r'.conditionId = r.conditionId
  threshold : r'.staleThresholdSec = r.staleThresholdSec
  status : r'.status = .fresh
  updatedAt : r'.updatedAt = some now
  source : r'.source = source.value

theorem received_withQuote (r : LivePriceRecord) (s : OrderSide) (bestBid bestAsk : ℚ) (now : Time) :
    Received r ((r.withQuote s bestBid bestAsk).receivedFromWs now) .rtdsWs now := by
  cases s <;> exact ⟨rfl, rfl, rfl, rfl, rfl⟩

theorem applyWs_accepted (r : LivePriceRecord) (now : Time) {s : OrderSide}
    (h : wsAccepts side bestBid bestAsk = some s) :
    r.applyWs side bestBid bestAsk now = (r.withQuote s bestBid bestAsk).receivedFromWs now := by
  unfold wsAccepts at h
  unfold applyWs
  split_ifs at h ⊢ with hvalid hup hdown
  · obtain rfl := Option.some.inj h
    rfl
  · obtain rfl := Option.some.inj h
    rfl

theorem applyWs_refused (r : LivePriceRecord) (now : Time) (h : wsAccepts side bestBid bestAsk = none) :
    r.applyWs side bestBid bestAsk now = r ∨
      r.status = .waiting ∧ r.applyWs side bestBid bestAsk now = { r with status := .invalid } := by
  unfold wsAccepts at h
  unfold applyWs
  split_ifs at h ⊢ with hvalid hwaiting
  · exact .inr ⟨hwaiting, rfl⟩
  · exact .inl rfl
  · exact .inl rfl

theorem applyGamma_accepted (r : LivePriceRecord) (spread : ℚ) (now : Time) {prices : ℚ × ℚ}
    (h : gammaAccepts raw = some prices) :
    Received r (r.applyGamma raw spread now) .gammaOutcomePrices now := by
  unfold gammaAccepts at h
  unfold applyGamma
  cases hparse : parseOutcomePrices raw with
  | none =>
    rw [hparse] at h
    cases h
  | some parsed =>
    rw [hparse, Option.filter_some] at h
    dsimp only at h ⊢
    split_ifs at h with hvalid
    have hgood : ¬(!isValidPrice parsed.1 || !isValidPrice parsed.2) = true := by simpa using hvalid
    rw [if_neg hgood]
    exact ⟨rfl, rfl, rfl, rfl, rfl⟩

/-- Bid and ask of a side are its outcome price. -/
theorem applyGamma_quotes (r : LivePriceRecord) (spread : ℚ) (now : Time) {up down : ℚ}
    (h : gammaAccepts raw = some (up, down)) : (r.applyGamma raw spread now).upBid = up ∧
      (r.applyGamma raw spread now).upAsk = up ∧ (r.applyGamma raw spread now).downBid = down ∧
      (r.applyGamma raw spread now).downAsk = down := by
  obtain ⟨hparse, hvalid⟩ := Option.filter_eq_some_iff.mp h
  have hgood : ¬(!isValidPrice up || !isValidPrice down) = true := by simpa using hvalid
  unfold applyGamma
  rw [hparse]
  dsimp only
  rw [if_neg hgood]
  exact ⟨rfl, rfl, rfl, rfl⟩

theorem applyGamma_refused (r : LivePriceRecord) (spread : ℚ) (now : Time) (h : gammaAccepts raw = none) :
    r.applyGamma raw spread now = { r with status := .invalid } := by
  unfold gammaAccepts at h
  unfold applyGamma
  cases hparse : parseOutcomePrices raw with
  | none => rfl
  | some parsed =>
    rw [hparse, Option.filter_some] at h
    dsimp only at h ⊢
    split_ifs at h with hvalid
    have hbad : (!isValidPrice parsed.1 || !isValidPrice parsed.2) = true := by
      rw [← Bool.not_and, Bool.not_eq_true']
      exact Bool.eq_false_iff.mpr hvalid
    rw [if_pos hbad]

end LivePriceRecord

end Polyfast
