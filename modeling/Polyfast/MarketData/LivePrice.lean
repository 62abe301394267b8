import Polyfast.Lib.Table
import Polyfast.Execution.PositionRecord

/-!
# Live prices, the coin price feed and PTB values

The read side of the market data: what the loops look up. `getRecord` and `getRecordByAsset` mark an
outdated record as stale before they hand it out; nothing but that mark changes (`getRecord_spec`,
`getRecordByAsset_spec`).
-/

namespace Polyfast

inductive PriceStatus
  | fresh
  | stale
  | invalid
  | waiting
  deriving DecidableEq

/-- Outcome prices of one event. -/
structure LivePriceRecord where
  conditionId : ConditionId
  asset : Asset
  upBid : ℚ := 0
  upAsk : ℚ := 0
  downBid : ℚ := 0
  downAsk : ℚ := 0
  spread : ℚ := 0
  status : PriceStatus := .waiting
  updatedAt : Option Time := none
  source : String := ""
  staleThresholdSec : ℚ := 30
  deriving DecidableEq

structure LivePricePipeline where
  records : Lib.Table LivePriceRecord.conditionId := .empty
  staleThreshold : ℚ := 30

namespace LivePriceRecord

variable (r : LivePriceRecord)

def isStale (now : Time) : Bool :=
  match r.updatedAt with
  | none => false
  | some u => decide (now - u > r.staleThresholdSec)

/-- Mark the record as stale if it is. -/
def checkFreshness (now : Time) : LivePriceRecord :=
  if r.status = .invalid ∨ r.status = .waiting then r
  else if r.isStale now then { r with status := .stale } else r

/-- The bid of a side, the price at which the held token can be sold. -/
def bid : OrderSide → ℚ
  | .up => r.upBid
  | .down => r.downBid

def ask : OrderSide → ℚ
  | .up => r.upAsk
  | .down => r.downAsk

end LivePriceRecord

namespace LivePricePipeline

variable (p : LivePricePipeline)

def getRecord (conditionId : ConditionId) (now : Time) :
    LivePricePipeline × Option LivePriceRecord :=
  match p.records.get? conditionId with
  | none => (p, none)
  | some r => ({ p with records := p.records.put (r.checkFreshness now) }, some (r.checkFreshness now))

/-- The first record of the asset. -/
def getRecordByAsset (asset : Asset) (now : Time) : LivePricePipeline × Option LivePriceRecord :=
  match p.records.records.find? (fun r => r.asset.toUpper = asset.toUpper) with
  | none => (p, none)
  | some r => ({ p with records := p.records.put (r.checkFreshness now) }, some (r.checkFreshness now))

end LivePricePipeline

/-! ### What a lookup leaves behind -/

/-- The record without its status mark. -/
def LivePriceRecord.unmarked (r : LivePriceRecord) : LivePriceRecord := { r with status := .waiting }

theorem LivePriceRecord.unmarked_checkFreshness (r : LivePriceRecord) (now : Time) :
    (r.checkFreshness now).unmarked = r.unmarked := by
  unfold checkFreshness
  split_ifs <;> rfl

@[simp] theorem LivePriceRecord.conditionId_checkFreshness (r : LivePriceRecord) (now : Time) :
    (r.checkFreshness now).conditionId = r.conditionId := by
  unfold checkFreshness
  split_ifs <;> rfl

@[simp] theorem LivePriceRecord.staleThresholdSec_checkFreshness (r : LivePriceRecord) (now : Time) :
    (r.checkFreshness now).staleThresholdSec = r.staleThresholdSec := by
  unfold checkFreshness
  split_ifs <;> rfl

/-- A record is handed out as fresh if it was fresh and is not stale. -/
theorem LivePriceRecord.checkFreshness_fresh_iff {r : LivePriceRecord} {now : Time} :
    (r.checkFreshness now).status = .fresh ↔ r.status = .fresh ∧ r.isStale now = false := by
  unfold checkFreshness
  split_ifs with hskip hstale
  · refine iff_of_false (fun h => ?_) fun h => ?_
    · rw [h] at hskip
      exact absurd hskip (by decide)
    · rw [h.1] at hskip
      exact absurd hskip (by decide)
  · exact iff_of_false (fun h => by cases h) fun h => Bool.false_ne_true (h.2.symm.trans hstale)
  · exact (and_iff_left (Bool.eq_false_iff.mpr hstale)).symm

theorem LivePriceRecord.isStale_eq_false_iff {r : LivePriceRecord} {now t : Time} (h : r.updatedAt = some t) :
    r.isStale now = false ↔ now - t ≤ r.staleThresholdSec := by
  simp [isStale, h]

namespace LivePricePipeline

/-- The same records in the same order, status marks aside. -/
def SamePrices (p p' : LivePricePipeline) : Prop :=
  p'.records.records.map LivePriceRecord.unmarked = p.records.records.map LivePriceRecord.unmarked

variable {p p' : LivePricePipeline} {r : LivePriceRecord}

/-- Marking a record that is there changes no price. -/
theorem SamePrices.mark (h : SamePrices p p') {k : ConditionId} {now : Time}
    (hr : p'.records.get? k = some r) :
    SamePrices p { p' with records := p'.records.put (r.checkFreshness now) } := by
  have hkey := r.conditionId_checkFreshness now
  have hget : p'.records.get? r.conditionId = some r := by
    rw [Lib.Table.key_of_get? hr]
    exact hr
  unfold SamePrices at h ⊢
  rw [Lib.Table.records_put_old (by rw [hkey]; exact hget), List.map_map, ← h]
  refine List.map_congr_left fun x hx => ?_
  rw [Function.comp_apply]
  split_ifs with hx'
  · have hxr := Lib.Table.mem_records.mp hx
    rw [hx', hkey, hget] at hxr
    rw [← Option.some.inj hxr]
    exact r.unmarked_checkFreshness now
  · rfl

/-- A search that does not look at status marks finds the same in both. -/
theorem SamePrices.find? (h : SamePrices p p') (f : LivePriceRecord → Bool)
    (hf : ∀ r, f r.unmarked = f r) :
    (p'.records.records.find? f).map LivePriceRecord.unmarked =
      (p.records.records.find? f).map LivePriceRecord.unmarked := by
  have hcomp : f ∘ LivePriceRecord.unmarked = f := funext hf
  have hboth := congrArg (List.find? f) h
  rw [List.find?_map, List.find?_map, hcomp] at hboth
  exact hboth

/-- `get_record` finds what is in the pipeline, and changes no price. -/
theorem getRecord_spec (h : SamePrices p p') (c : ConditionId) (now : Time) :
    SamePrices p (p'.getRecord c now).1 ∧
      (p'.getRecord c now).2.map LivePriceRecord.unmarked =
        (p.records.get? c).map LivePriceRecord.unmarked := by
  have hfind := h.find? (fun r => r.conditionId = c) fun _ => rfl
  rw [← Lib.Table.get?_eq_find?, ← Lib.Table.get?_eq_find?] at hfind
  rw [← hfind]
  unfold getRecord
  cases hr : p'.records.get? c with
  | none => exact ⟨h, rfl⟩
  | some r =>
    exact ⟨h.mark hr, congrArg some (r.unmarked_checkFreshness now)⟩

/-- `get_record_by_asset` finds the first record of the asset, and changes no price. -/
theorem getRecordByAsset_spec (h : SamePrices p p') (asset : Asset) (now : Time) :
    SamePrices p (p'.getRecordByAsset asset now).1 ∧
      (p'.getRecordByAsset asset now).2.map LivePriceRecord.unmarked =
        (p.records.records.find? (fun r => r.asset.toUpper = asset.toUpper)).map
          LivePriceRecord.unmarked := by
  rw [← h.find? (fun r => r.asset.toUpper = asset.toUpper) fun _ => rfl]
  unfold getRecordByAsset
  cases hr : p'.records.records.find? (fun r => r.asset.toUpper = asset.toUpper) with
  | none => exact ⟨h, rfl⟩
  | some r =>
    obtain ⟨hget, -⟩ := Lib.Table.find?_spec hr
    exact ⟨h.mark hget, congrArg some (r.unmarked_checkFreshness now)⟩

end LivePricePipeline

/-! ### Coin prices -/

inductive CoinPriceStatus
  | fresh
  | stale
  | waiting
  | invalid
  deriving DecidableEq

structure CoinPriceRecord where
  coin : Asset
  usdPrice : ℚ := 0
  status : CoinPriceStatus := .waiting
  updatedAt : Option Time := none
  staleThresholdSec : ℚ := 15
  deriving DecidableEq

structure CoinPriceClient where
  records : Lib.Table CoinPriceRecord.coin := .empty

namespace CoinPriceRecord

def isStale (r : CoinPriceRecord) (now : Time) : Bool :=
  match r.updatedAt with
  | none => false
  | some u => decide (now - u > r.staleThresholdSec)

def checkFreshness (r : CoinPriceRecord) (now : Time) : CoinPriceRecord :=
  if r.status = .invalid ∨ r.status = .waiting then r
  else if r.isStale now then { r with status := .stale } else r

end CoinPriceRecord

namespace CoinPriceClient

variable (c : CoinPriceClient)

def getPrice (coin : Asset) (now : Time) : CoinPriceClient × Option CoinPriceRecord :=
  match c.records.get? coin with
  | none => (c, none)
  | some r => ({ c with records := c.records.put (r.checkFreshness now) }, some (r.checkFreshness now))

/-- The price of a fresh record, 0 otherwise. -/
def getUsdPrice (coin : Asset) (now : Time) : ℚ :=
  match (c.getPrice coin now).2 with
  | some r => if r.status = .fresh then r.usdPrice else 0
  | none => 0

end CoinPriceClient

/-! ### Price to beat -/

inductive PTBStatus
  | waiting
  | acquired
  | failed
  deriving DecidableEq

structure PTBRecord where
  conditionId : ConditionId
  asset : Asset
  ptbValue : Option ℚ := none
  status : PTBStatus := .waiting
  sourceName : String := ""
  acquiredAt : Option Time := none
  retryCount : ℕ := 0
  lastError : String := ""
  deriving DecidableEq

def PTBRecord.isLocked (r : PTBRecord) : Bool := r.status = .acquired && r.ptbValue.isSome

structure PTBFetcher where
  records : Lib.Table PTBRecord.conditionId := .empty
  retrySchedule : List ℚ := [2, 4, 8, 16]
  retrySteady : ℚ := 10

namespace PTBFetcher

variable (f : PTBFetcher)

def getRecord (conditionId : ConditionId) : Option PTBRecord := f.records.get? conditionId

/-- The first locked record of the asset, else the last one of the asset. -/
def getRecordByAsset (asset : Asset) : Option PTBRecord :=
  let matching := f.records.records.filter (fun r => r.asset.toUpper = asset.toUpper)
  match matching.find? PTBRecord.isLocked with
  | some r => some r
  | none => matching.getLast?

end PTBFetcher

end Polyfast
