import Polyfast.Lib.Run
import Polyfast.Orchestrator.EvaluationLoop

/-!
# What the evaluation loop orders

* `dispatch_sound`: an order of a turn within one slot has passed every rule on the data of its own event;
* `Agrees`, `agree_iff`: when the order is for the event whose prices, price to beat and fills the decision
  was made on.
-/

namespace Polyfast

namespace TurnClock

/-- The reads of a turn. -/
def reads (k : TurnClock) : List Time :=
  [k.lookup, k.price, k.coin, k.remaining, k.dispatchLookup, k.dispatchPrice, k.guard, k.intent]

/-- Between the reads of a turn no slot of a registered event begins or ends. -/
def WithinSlot (k : TurnClock) (r : EventRegistry) : Prop :=
  ∀ x ∈ k.reads, ∀ reg ∈ r.records.records, slugIsCurrent reg.slug x = slugIsCurrent reg.slug k.lookup

end TurnClock

theorem slugIsCurrent_iff {slug : String} {now : Time} : slugIsCurrent slug now = true ↔
    ∃ start : ℕ, slugStart slug = some start ∧ (start : ℚ) ≤ now ∧ now < start + slotSeconds := by
  unfold slugIsCurrent inSlot
  cases slugStart slug with
  | none => simp
  | some start =>
    simp only [decide_eq_true_eq, Option.some.injEq, exists_eq_left', Int.le_floor, Int.floor_lt]
    push_cast
    exact Iff.rfl

/-- A slug on the grid names the running slot. -/
theorem slotEnd_eq_iff {start : ℕ} (hgrid : (start : ℤ) % slotSeconds = 0) (now : Time) :
    slotEnd now = start + slotSeconds ↔ (start : ℚ) ≤ now ∧ now < start + slotSeconds := by
  have hle : (start : ℚ) ≤ now ↔ (start : ℤ) ≤ ⌊now⌋ := by
    rw [Int.le_floor]
    exact Iff.rfl
  have hlt : now < start + slotSeconds ↔ ⌊now⌋ < start + slotSeconds := by
    rw [Int.floor_lt]
    push_cast
    exact Iff.rfl
  rw [hle, hlt]
  unfold slotEnd slotSeconds at *
  omega

/-- If all registered slots are on the grid, a turn that stays in one slot of the grid is within a slot. -/
theorem TurnClock.WithinSlot.of_grid {k : TurnClock} {r : EventRegistry}
    (hgrid : ∀ reg ∈ r.records.records, ∀ start : ℕ, slugStart reg.slug = some start →
      (start : ℤ) % slotSeconds = 0)
    (hslot : ∀ x ∈ k.reads, slotEnd x = slotEnd k.lookup) : k.WithinSlot r := by
  intro x hx reg hreg
  rw [Bool.eq_iff_iff, slugIsCurrent_iff, slugIsCurrent_iff]
  refine exists_congr fun start => and_congr_right fun hstart => ?_
  rw [← slotEnd_eq_iff (hgrid reg hreg start hstart), ← slotEnd_eq_iff (hgrid reg hreg start hstart),
    hslot x hx]

namespace EventRegistry

variable {r : EventRegistry} {k : TurnClock} {asset : Asset} {now : Time} {c : ConditionId}

/-- The event found has a running slot, and is the one under its identifier. -/
theorem findCurrentSlotConditionId_spec (h : r.findCurrentSlotConditionId asset now = c) (hc : c ≠ "") :
    ∃ reg, r.getByConditionId c = some reg ∧ reg.asset.toUpper = asset.toUpper ∧
      slugIsCurrent reg.slug now = true := by
  unfold findCurrentSlotConditionId at h
  split at h
  · rename_i reg hfind
    obtain ⟨hmem, hprop⟩ := Lib.Table.find?_spec hfind
    rw [h] at hmem
    exact ⟨reg, hmem, hprop⟩
  · exact absurd h.symm hc

/-- Within a slot every lookup of a turn finds the same event. -/
theorem findCurrentSlotConditionId_within (hk : k.WithinSlot r) {x : Time} (hx : x ∈ k.reads) :
    r.findCurrentSlotConditionId asset x = r.findCurrentSlotConditionId asset k.lookup := by
  have hfind : ∀ l : List RegistryRecord, (∀ reg ∈ l, reg ∈ r.records.records) →
      l.find? (fun reg => reg.asset.toUpper = asset.toUpper ∧ slugIsCurrent reg.slug x) =
        l.find? (fun reg => reg.asset.toUpper = asset.toUpper ∧ slugIsCurrent reg.slug k.lookup) := by
    intro l hl
    induction l with
    | nil => rfl
    | cons reg l ih =>
      have htail := ih fun u hu => hl u (List.mem_cons_of_mem _ hu)
      rw [List.find?_cons, List.find?_cons, htail, hk x hx reg (hl reg List.mem_cons_self)]
  unfold findCurrentSlotConditionId
  rw [hfind _ fun _ h => h]

end EventRegistry

theorem WSPriceBridge.findToken_spec {b : WSPriceBridge} {asset : Asset} {side : String}
    {c : ConditionId} {id : TokenId} (h : b.findToken asset side c = id) (hid : id ≠ "") :
    ∃ route, b.tokenRoutes.get? id = some route ∧ route.asset.toUpper = asset.toUpper ∧
      route.side.toUpper = side ∧ route.conditionId = c := by
  unfold findToken at h
  split at h
  · rename_i route hfind
    obtain ⟨hmem, hprop⟩ := Lib.Table.find?_spec hfind
    rw [h] at hmem
    exact ⟨route, hmem, hprop⟩
  · exact absurd h.symm hid

/-! ### Sound orders -/

/-- The side a side mode asks for; the dominant side has the larger bid, up when they tie. -/
def SideMode.side (mode : SideMode) (upBid downBid : ℚ) : OrderSide :=
  match mode with
  | .upOnly => .up
  | .downOnly => .down
  | .dominantOnly => if downBid ≤ upBid then .up else .down

namespace EvaluationLoop

/-- The prices of the order's own event allow it. -/
structure SoundPrice (s : CoinSettings) (i : OrderIntent) (r : LivePriceRecord) : Prop where
  side : i.side = s.sideMode.side r.upBid r.downBid
  ask : i.dominantPrice = r.ask i.side
  low : s.priceMin ≤ 100 * r.ask i.side
  high : 100 * r.ask i.side ≤ s.priceMax
  spread : 0 < s.spreadMax → (r.ask i.side - r.bid i.side) / r.ask i.side * 100 ≤ s.spreadMax

/-- The coin's price and the price to beat used are there, and far enough apart. -/
structure SoundDelta (l : EvaluationLoop) (s : CoinSettings) (k : TurnClock) (i : OrderIntent) (usd ptb : ℚ) :
    Prop where
  coin : ∃ c, l.coinClient.records.get? s.coin = some c ∧ (c.checkFreshness k.coin).status = .fresh ∧
    c.usdPrice = usd
  locked : ∃ p, l.ptbRecord s.coin i.conditionId = some p ∧ p.isLocked = true ∧ p.ptbValue = some ptb
  usd_pos : 0 < usd
  ptb_pos : 0 < ptb
  far : s.deltaThreshold ≤ |usd - ptb|

/-- What an order of the loop can be relied on for. -/
structure SoundOrder (l : EvaluationLoop) (s : CoinSettings) (t : PositionTracker) (k : TurnClock)
    (i : OrderIntent) : Prop where
  asset : i.asset = s.coin
  /-- Its event is registered and its slot is running. -/
  slot : ∃ reg, ∃ start : ℕ, l.registry.getByConditionId i.conditionId = some reg ∧
    slugStart reg.slug = some start ∧ (∀ x ∈ k.reads, (start : ℚ) ≤ x ∧ x < start + slotSeconds) ∧
    ((start : ℤ) % slotSeconds = 0 → slotEnd k.remaining = start + slotSeconds)
  /-- Its token is routed to its asset, side and event. -/
  routed : ∃ route, l.bridge.tokenRoutes.get? i.tokenId = some route ∧
    route.asset.toUpper = i.asset.toUpper ∧ route.side.toUpper = i.side.value ∧
    route.conditionId = i.conditionId
  price : ∃ r, l.pipeline.records.get? i.conditionId = some r ∧ SoundPrice s i r
  early : s.timeMin ≤ slotEnd k.remaining - k.remaining
  late : slotEnd k.remaining - k.remaining ≤ s.timeMax
  delta : ∃ usd ptb, l.SoundDelta s k i usd ptb
  fills : (t.getEventFillCount i.conditionId : ℤ) < s.eventMax
  positions : (t.openPositionCount : ℤ) < l.botMaxPositions

variable {l : EvaluationLoop} {s : CoinSettings} {t : PositionTracker} {k : TurnClock} {i : OrderIntent}

/-- A turn of an event whose prices are in the pipeline decides on them. -/
theorem turnContext_of_record {c : ConditionId} {r : LivePriceRecord}
    (hfind : l.registry.findCurrentSlotConditionId s.coin k.lookup = c) (hc : c ≠ "")
    (hr : l.pipeline.records.get? c = some r) :
    l.turnContext s t k = l.context s t k (some (r.checkFreshness k.price))
      (l.coinClient.getPrice s.coin k.coin).2 := by
  unfold turnContext priceRecord
  simp only [hfind, if_neg hc, LivePricePipeline.getRecord, hr]

section Context

variable (l s t k) (price : LivePriceRecord) (coin : Option CoinPriceRecord)

theorem entryRefPrice_context {side : OrderSide}
    (h : side = (l.context s t k (some price) coin).evaluatedSide) :
    (l.context s t k (some price) coin).entryRefPrice = price.ask side := by
  rw [EvaluationContext.entryRefPrice_eq, ← h]
  cases side <;> rfl

theorem exitRefPrice_context {side : OrderSide}
    (h : side = (l.context s t k (some price) coin).evaluatedSide) :
    (l.context s t k (some price) coin).exitRefPrice = price.bid side := by
  rw [EvaluationContext.exitRefPrice_eq, ← h]
  cases side <;> rfl

variable {l s t k price coin}

/-- An entry decided on prices that are there. -/
theorem soundPrice_of_entry (he : s.isTradeEligible = true)
    (hentry : (ruleEngineEvaluate (l.context s t k (some price) coin)).decision = .entry)
    (hside : i.side = (l.context s t k (some price) coin).evaluatedSide)
    (hprice : price.entryPrice i.side = i.dominantPrice) : SoundPrice s i price := by
  obtain ⟨-, hmin, -⟩ := CoinSettings.rules_of_eligible he
  have hpass := ((ruleEngineEvaluate_entry_iff _).mp hentry).1
  have hask := entryRefPrice_context l s t k price coin hside
  have hbid := exitRefPrice_context l s t k price coin hside
  have hp := hpass priceRule (by simp [defaultRules]) (decide_eq_true hmin)
  rw [priceRule_pass_iff, EvaluationContext.evaluatedPrice100, hask, mul_comm] at hp
  obtain ⟨-, hlow, hhigh⟩ := hp
  have hpos : 0 < price.ask i.side := by
    have hmin' : (0 : ℚ) < s.priceMin := by exact_mod_cast hmin
    have hlow' : (s.priceMin : ℚ) ≤ 100 * price.ask i.side := hlow
    linarith
  refine ⟨hside, ?_, hlow, hhigh, fun hspread => ?_⟩
  · rw [← hprice, LivePriceRecord.entryPrice, if_pos hpos]
  · have hs := hpass spreadRule (by simp [defaultRules]) (decide_eq_true hspread)
    rw [spreadRule_pass_iff, EvaluationContext.spreadPct, hask, hbid, if_pos hpos] at hs
    exact hs.2.2

/-- The fill count is that of the event the prices are of. -/
theorem eventFillCount_context {c : ConditionId} (h : price.conditionId = c) (hc : c ≠ "") :
    (l.context s t k (some price) coin).eventFillCount = t.getEventFillCount c := by
  subst h
  exact if_neg hc

/-- What the evaluation takes as the coin's price. -/
theorem coin_of_fresh
    (h : (l.context s t k (some price) (l.coinClient.getPrice s.coin k.coin).2).coinUsdFresh = true) :
    ∃ c, l.coinClient.records.get? s.coin = some c ∧ (c.checkFreshness k.coin).status = .fresh ∧
      c.usdPrice = (l.context s t k (some price) (l.coinClient.getPrice s.coin k.coin).2).coinUsdPrice := by
  unfold CoinPriceClient.getPrice at h ⊢
  cases hc : l.coinClient.records.get? s.coin with
  | none =>
    rw [hc] at h
    cases h
  | some c =>
    rw [hc] at h
    refine ⟨c, rfl, of_decide_eq_true h, ?_⟩
    change c.usdPrice = (c.checkFreshness k.coin).usdPrice
    unfold CoinPriceRecord.checkFreshness
    split_ifs <;> rfl

/-- What the evaluation takes as the price to beat. -/
theorem ptb_of_acquired (h : (l.context s t k (some price) coin).ptbAcquired = true) :
    ∃ p, l.ptbRecord s.coin price.conditionId = some p ∧ p.isLocked = true ∧
      p.ptbValue = some (l.context s t k (some price) coin).ptbValue := by
  obtain ⟨p, hp⟩ := Option.isSome_iff_exists.mp h
  have hvalue : (l.context s t k (some price) coin).ptbValue = (p.ptbValue).getD 0 :=
    congrArg (fun o : Option PTBRecord => (o.bind (·.ptbValue)).getD 0) hp
  rw [Option.filter_eq_some_iff] at hp
  obtain ⟨hp, hlocked⟩ := hp
  refine ⟨p, hp, hlocked, ?_⟩
  have hsome : p.ptbValue.isSome = true := by
    simp only [PTBRecord.isLocked, Bool.and_eq_true] at hlocked
    exact hlocked.2
  obtain ⟨v, hv⟩ := Option.isSome_iff_exists.mp hsome
  rw [hvalue, hv]
  rfl

/-- An entry decided on a coin price and a price to beat. -/
theorem soundDelta_of_entry (he : s.isTradeEligible = true)
    (hentry : (ruleEngineEvaluate (l.context s t k (some price)
      (l.coinClient.getPrice s.coin k.coin).2)).decision = .entry)
    (hcid : price.conditionId = i.conditionId) : ∃ usd ptb, l.SoundDelta s k i usd ptb := by
  obtain ⟨hthreshold, -, -⟩ := CoinSettings.rules_of_eligible he
  have hpass := ((ruleEngineEvaluate_entry_iff _).mp hentry).1
  have hd := hpass deltaRule (by simp [defaultRules]) (decide_eq_true hthreshold)
  rw [deltaRule_pass_iff] at hd
  obtain ⟨hacquired, hfresh, hfar⟩ := hd
  obtain ⟨husd, hptb, hdelta⟩ := EvaluationContext.delta_of_pos _ (lt_of_lt_of_le hthreshold hfar)
  rw [hdelta] at hfar
  have hlocked := ptb_of_acquired hacquired
  rw [hcid] at hlocked
  exact ⟨_, _, coin_of_fresh hfresh, hlocked, husd, hptb, hfar⟩

end Context

/-- The status mark does not matter. -/
theorem SoundPrice.of_checkFreshness {r : LivePriceRecord} {now : Time}
    (h : SoundPrice s i (r.checkFreshness now)) : SoundPrice s i r := by
  unfold LivePriceRecord.checkFreshness at h
  split_ifs at h with hmark hstale
  · exact h
  · exact ⟨h.side, h.ask, h.low, h.high, h.spread⟩
  · exact h

/-- **Dispatch soundness.** An order of a turn within one slot has passed every rule, on the prices of its
own event. -/
theorem dispatch_sound (he : s.isTradeEligible = true) (hk : k.WithinSlot l.registry)
    (hi : (l.turn s t k).2 = some i) : l.SoundOrder s t k i := by
  obtain ⟨hentry, -, horders⟩ := turn_eq_some_iff.mp hi
  obtain ⟨r, hr, hprice, -⟩ := horders.priced
  have hcurrent := horders.current
  rw [EventRegistry.findCurrentSlotConditionId_within hk (by simp [TurnClock.reads])] at hcurrent
  have hctx := turnContext_of_record (t := t) hcurrent horders.known hr
  have hside := horders.side
  rw [hctx] at hentry hside
  have hpass := ((ruleEngineEvaluate_entry_iff _).mp hentry).1
  obtain ⟨-, -, htime⟩ := CoinSettings.rules_of_eligible he
  obtain ⟨-, hearly, hlate⟩ := (timeRule_pass_iff _).mp
    (hpass timeRule (by simp [defaultRules]) (decide_eq_true htime))
  have hrcid : (r.checkFreshness k.price).conditionId = i.conditionId :=
    (r.conditionId_checkFreshness k.price).trans (Lib.Table.key_of_get? hr)
  refine ⟨horders.asset, ?_, ?_, ⟨r, hr, ?_⟩, hearly, hlate, soundDelta_of_entry he hentry hrcid, ?_, ?_⟩
  · obtain ⟨reg, hreg, -, hslot⟩ := EventRegistry.findCurrentSlotConditionId_spec hcurrent horders.known
    obtain ⟨start, hstart, -⟩ := slugIsCurrent_iff.mp hslot
    have hreads : ∀ x ∈ k.reads, (start : ℚ) ≤ x ∧ x < start + slotSeconds := by
      intro x hx
      rw [← hk x hx reg (Lib.Table.mem_records_of_get? hreg), slugIsCurrent_iff] at hslot
      obtain ⟨start', hstart', hin⟩ := hslot
      rw [hstart, Option.some.injEq] at hstart'
      rw [hstart']
      exact hin
    refine ⟨reg, start, hreg, hstart, hreads, fun hgrid => ?_⟩
    exact (slotEnd_eq_iff hgrid k.remaining).mpr (hreads k.remaining (by simp [TurnClock.reads]))
  · obtain ⟨route, hroute, hrest⟩ := WSPriceBridge.findToken_spec horders.token horders.routed
    rw [← horders.asset] at hrest
    exact ⟨route, hroute, hrest⟩
  · refine SoundPrice.of_checkFreshness (soundPrice_of_entry he hentry hside ?_)
    rw [entryPrice_checkFreshness]
    exact hprice
  · have hmax := (eventMaxRule_pass_iff _).mp (hpass eventMaxRule (by simp [defaultRules]) rfl)
    rw [eventFillCount_context hrcid horders.known] at hmax
    exact hmax
  · exact (botMaxRule_pass_iff _).mp (hpass botMaxRule (by simp [defaultRules]) rfl)

/-- The up token for 0.72, 200 seconds before the end of the slot. -/
def upQuote : LivePriceRecord := { Market.quote with upAsk := 72 / 100, downAsk := 30 / 100 }

def btcSettings : CoinSettings where
  coin := "BTC"
  coinEnabled := true
  deltaThreshold := 50
  priceMin := 51
  priceMax := 85
  timeMin := 30
  timeMax := 270
  orderAmount := 1

def btcPrice : CoinPriceRecord :=
  { coin := "BTC", usdPrice := 50100, status := .fresh, updatedAt := some 1700000200 }

/-- A price to beat of 50000 dollars. -/
def lockedPTB (c : ConditionId) : PTBRecord :=
  { conditionId := c, asset := "BTC", ptbValue := some 50000, status := .acquired }

def upRoute : TokenRoute :=
  { tokenId := "token", conditionId := "event", asset := "BTC", side := "UP" }

def btcLoop : EvaluationLoop where
  pipeline := { records := Lib.Table.empty.put upQuote }
  coinClient := { records := Lib.Table.empty.put btcPrice }
  ptbFetcher := { records := Lib.Table.empty.put (lockedPTB "event") }
  bridge := { tokenRoutes := Lib.Table.empty.put upRoute }
  registry := { records := Lib.Table.empty.put Market.slotEvent }
  paperMode := true

/-- The order for the up token. -/
def upOrder : OrderIntent where
  asset := "BTC"
  side := .up
  amountUsd := 1
  conditionId := "event"
  tokenId := "token"
  dominantPrice := 72 / 100
  evaluatedAt := 1700000200

theorem dispatch_sound_up :
    btcLoop.SoundOrder btcSettings {} (.at 1700000200) upOrder := by
  refine dispatch_sound (by decide +kernel) (.of_grid ?_ ?_) (by decide +kernel)
  · intro reg hreg start hstart
    obtain rfl : reg = Market.slotEvent := List.mem_singleton.mp hreg
    have hslug : slugStart Market.slotEvent.slug = some 1700000100 := by decide +kernel
    rw [hslug, Option.some.injEq] at hstart
    subst hstart
    decide
  · decide +kernel

/-! ### The event of the decision and the event of the order -/

/-- The prices, the fill count and, where the delta rule is on, the locked price to beat that a turn decides
on are those of the order's event. -/
structure Agrees (l : EvaluationLoop) (s : CoinSettings) (t : PositionTracker) (k : TurnClock)
    (i : OrderIntent) : Prop where
  prices : ∃ r, (l.priceRecord k s.coin).2 = some r ∧ r.conditionId = i.conditionId
  fills : (l.turnContext s t k).conditionId = i.conditionId
  ptb : 0 < s.deltaThreshold → ∃ p, l.ptbRecord s.coin (l.turnContext s t k).conditionId = some p ∧
    p.isLocked = true ∧ p.conditionId = i.conditionId

/-- The stores lead the evaluation to the event `c`: it is current for the evaluation too, or nothing is and
it is the asset's first in the pipeline; and it has a record of its own at the price-to-beat fetcher. -/
structure LeadsTo (l : EvaluationLoop) (s : CoinSettings) (k : TurnClock) (c : ConditionId) : Prop where
  prices : l.registry.findCurrentSlotConditionId s.coin k.lookup = c ∨
    (l.registry.findCurrentSlotConditionId s.coin k.lookup = "" ∨
      l.pipeline.records.get? (l.registry.findCurrentSlotConditionId s.coin k.lookup) = none) ∧
    ∃ r, l.pipeline.records.records.find? (fun r => r.asset.toUpper = s.coin.toUpper) = some r ∧
      r.conditionId = c
  ptb : 0 < s.deltaThreshold → ∃ p, l.ptbFetcher.getRecord c = some p

/-- The prices a turn decides on are those of `c` exactly when the pipeline leads there. -/
theorem prices_iff {c : ConditionId} (hc : c ≠ "") (hpriced : ∃ r, l.pipeline.records.get? c = some r) :
    (∃ r, (l.priceRecord k s.coin).2 = some r ∧ r.conditionId = c) ↔
      (l.registry.findCurrentSlotConditionId s.coin k.lookup = c ∨
        (l.registry.findCurrentSlotConditionId s.coin k.lookup = "" ∨
          l.pipeline.records.get? (l.registry.findCurrentSlotConditionId s.coin k.lookup) = none) ∧
        ∃ r, l.pipeline.records.records.find? (fun r => r.asset.toUpper = s.coin.toUpper) = some r ∧
          r.conditionId = c) := by
  have hbyAsset : (∃ r, (l.pipeline.getRecordByAsset s.coin k.price).2 = some r ∧ r.conditionId = c) ↔
      ∃ r, l.pipeline.records.records.find? (fun r => r.asset.toUpper = s.coin.toUpper) = some r ∧
        r.conditionId = c := by
    unfold LivePricePipeline.getRecordByAsset
    cases l.pipeline.records.records.find? (fun r => r.asset.toUpper = s.coin.toUpper) with
    | none => simp
    | some r => simp
  unfold priceRecord
  dsimp only
  generalize l.registry.findCurrentSlotConditionId s.coin k.lookup = e
  by_cases he : e = ""
  · rw [if_pos he, hbyAsset]
    subst he
    simp [hc.symm]
  rw [if_neg he]
  cases hr : l.pipeline.records.get? e with
  | none =>
    have hne : e ≠ c := by
      rintro rfl
      obtain ⟨r, hr'⟩ := hpriced
      rw [hr] at hr'
      cases hr'
    rw [LivePricePipeline.getRecord, hr]
    simp only [hbyAsset, hne, or_true, true_and, false_or]
  | some r =>
    have hkey : r.conditionId = e := Lib.Table.key_of_get? hr
    rw [LivePricePipeline.getRecord, hr]
    simp [hkey, he]

/-- What the fetcher finds for an asset is one of its records. -/
theorem PTBFetcher.get?_of_getRecordByAsset {f : PTBFetcher} {asset : Asset} {p : PTBRecord}
    (h : f.getRecordByAsset asset = some p) : f.getRecord p.conditionId = some p := by
  refine Lib.Table.mem_records.mp ?_
  unfold PTBFetcher.getRecordByAsset at h
  dsimp only at h
  split at h
  · rename_i r hfind
    obtain rfl := Option.some.inj h
    exact (List.mem_filter.mp (List.mem_of_find?_eq_some hfind)).1
  · exact (List.mem_filter.mp (List.mem_of_getLast? h)).1

/-- The price to beat of an event is its own exactly when the fetcher has one. -/
theorem ptbRecord_own_iff {c : ConditionId} (hc : c ≠ "") {asset : Asset} :
    (∃ p, l.ptbRecord asset c = some p ∧ p.conditionId = c) ↔ ∃ p, l.ptbFetcher.getRecord c = some p := by
  unfold ptbRecord
  rw [if_neg hc]
  cases hp : l.ptbFetcher.getRecord c with
  | some p =>
    refine iff_of_true ⟨p, rfl, Lib.Table.key_of_get? hp⟩ ⟨p, rfl⟩
  | none =>
    refine iff_of_false ?_ (by simp)
    rintro ⟨p, hp', hkey⟩
    have hown := PTBFetcher.get?_of_getRecordByAsset hp'
    rw [hkey, hp] at hown
    cases hown

/-- **One turn.** Decision and order are about the same event exactly when the stores lead the evaluation to
the event of the order. -/
theorem agrees_iff (hi : (l.turn s t k).2 = some i) :
    l.Agrees s t k i ↔
      l.LeadsTo s k (l.registry.findCurrentSlotConditionId s.coin k.dispatchLookup) := by
  obtain ⟨hentry, -, horders⟩ := turn_eq_some_iff.mp hi
  obtain ⟨u, hu, -⟩ := horders.priced
  have hprices := prices_iff (s := s) (k := k) horders.known ⟨u, hu⟩
  rw [horders.current]
  constructor
  · intro h
    refine ⟨hprices.mp h.prices, fun hd => ?_⟩
    obtain ⟨p, hp, -, hkey⟩ := h.ptb hd
    rw [h.fills] at hp
    exact (ptbRecord_own_iff horders.known).mp ⟨p, hp, hkey⟩
  · intro h
    obtain ⟨r, hr, hkey⟩ := hprices.mpr h.prices
    have hctx : l.turnContext s t k = l.context s t k (some r) (l.coinClient.getPrice s.coin k.coin).2 := by
      rw [turnContext, hr]
    have hfills : (l.turnContext s t k).conditionId = i.conditionId := by
      rw [hctx]
      exact hkey
    refine ⟨⟨r, hr, hkey⟩, hfills, fun hd => ?_⟩
    obtain ⟨p, hp, hpkey⟩ := (ptbRecord_own_iff horders.known).mpr (h.ptb hd)
    -- The delta rule passed, so the record it looked at is locked.
    rw [hctx] at hentry
    have hdelta := (deltaRule_pass_iff _).mp (((ruleEngineEvaluate_entry_iff _).mp hentry).1 deltaRule
      (by simp [defaultRules]) (decide_eq_true hd))
    obtain ⟨q, hq, hlocked, -⟩ := ptb_of_acquired hdelta.1
    rw [hkey, hp, Option.some.injEq] at hq
    rw [hfills]
    exact ⟨p, hp, hq ▸ hlocked, hpkey⟩

/-- What happens to the loop: a turn, with the order it sends, or anything else that changes the stores. -/
inductive LoopLabel
  | turn (s : CoinSettings) (t : PositionTracker) (k : TurnClock) (sent : Option OrderIntent)
  | update

inductive LoopStep : EvaluationLoop → LoopLabel → EvaluationLoop → Prop
  | turn (l : EvaluationLoop) (s : CoinSettings) (t : PositionTracker) (k : TurnClock) :
      LoopStep l (.turn s t k (l.turn s t k).2) (l.turn s t k).1
  | update (l l' : EvaluationLoop) : LoopStep l .update l'

/-- `P` holds of the order sent in a step, if one is. -/
def OnOrder (P : EvaluationLoop → CoinSettings → PositionTracker → TurnClock → OrderIntent → Prop)
    (x : Lib.Taken EvaluationLoop LoopLabel) : Prop :=
  ∀ s t k i, x.label = .turn s t k (some i) → P x.pre s t k i

theorem LoopStep.sent {l' : EvaluationLoop} (h : LoopStep l (.turn s t k (some i)) l') :
    (l.turn s t k).2 = some i := by
  generalize hsent : some i = sent at h
  cases h with
  | turn => rfl

/-- **Evaluation and dispatch agree** on every order of a run exactly when, at every order, the stores lead
the evaluation to the event that is current at the dispatch. -/
theorem agree_iff {l' : EvaluationLoop} {tr : List (Lib.Taken EvaluationLoop LoopLabel)}
    (hrun : Lib.Run LoopStep l tr l') :
    (∀ x ∈ tr, OnOrder Agrees x) ↔ ∀ x ∈ tr, OnOrder (fun l s _ k _ =>
      l.LeadsTo s k (l.registry.findCurrentSlotConditionId s.coin k.dispatchLookup)) x := by
  refine forall₂_congr fun x hx => ?_
  have hstep := hrun.step_of_mem hx
  refine forall₅_congr fun s t k i hlabel => ?_
  rw [hlabel] at hstep
  exact agrees_iff hstep.sent

theorem agree_iff_up : (∀ x ∈ [(⟨btcLoop, .turn btcSettings {} (.at 1700000200) (some upOrder),
        (btcLoop.turn btcSettings {} (.at 1700000200)).1⟩ : Lib.Taken EvaluationLoop LoopLabel)],
      OnOrder Agrees x) ↔
    ∀ x ∈ [(⟨btcLoop, .turn btcSettings {} (.at 1700000200) (some upOrder),
        (btcLoop.turn btcSettings {} (.at 1700000200)).1⟩ : Lib.Taken EvaluationLoop LoopLabel)],
      OnOrder (fun l s _ k _ =>
        l.LeadsTo s k (l.registry.findCurrentSlotConditionId s.coin k.dispatchLookup)) x := by
  have hsent : (btcLoop.turn btcSettings {} (.at 1700000200)).2 = some upOrder := by decide +kernel
  have hstep := LoopStep.turn btcLoop btcSettings {} (.at 1700000200)
  rw [hsent] at hstep
  exact agree_iff (.single hstep)

/-- The price to beat of the slot before is still there, that of the running slot not yet. -/
def rolloverLoop : EvaluationLoop :=
  { btcLoop with ptbFetcher := { records := Lib.Table.empty.put (lockedPTB "previous") } }

/-- At a rollover an order for the new event is decided on the price to beat of the old one. -/
theorem disagree_at_rollover : btcSettings.isTradeEligible = true ∧
    ∃ l' tr, Lib.Run LoopStep rolloverLoop tr l' ∧ ¬∀ x ∈ tr, OnOrder Agrees x := by
  refine ⟨by decide +kernel, ?_⟩
  have hsent : (rolloverLoop.turn btcSettings {} (.at 1700000200)).2 = some upOrder := by decide +kernel
  have hstep := LoopStep.turn rolloverLoop btcSettings {} (.at 1700000200)
  rw [hsent] at hstep
  refine ⟨_, _, .single hstep, fun hall => ?_⟩
  have hagrees := hall _ List.mem_cons_self _ _ _ _ rfl
  obtain ⟨p, hp, -, hkey⟩ := hagrees.ptb (by decide +kernel)
  have hold : rolloverLoop.ptbRecord "BTC" (rolloverLoop.turnContext btcSettings {}
      (.at 1700000200)).conditionId = some (lockedPTB "previous") := by decide +kernel
  have hp' : lockedPTB "previous" = p := Option.some.inj (hold.symm.trans hp)
  rw [← hp'] at hkey
  exact absurd hkey (by decide)

end EvaluationLoop

end Polyfast
