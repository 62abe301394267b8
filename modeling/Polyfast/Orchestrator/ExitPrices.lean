import Mathlib.Data.List.Induction
import Polyfast.MarketData.LivePrice
import Polyfast.MarketData.Registry
import Polyfast.Orchestrator.ExitOrchestrator

/-!
# The prices of an exit cycle

The exit loop visits the open positions in order and writes price, stale mark and remaining seconds into
dictionaries keyed by asset, so the last open position of an asset decides for all of them.

* `collectPrices`: what the loop hands to `run_cycle`; `exitCycle`: both together;
* `collectPrices_collected`, `collected_uses`: what a cycle uses for a position, in closed form;
* `identity_iff`: when that is the position's own price, staleness and remaining time;
* `looksUpOwn_of_running_slot`: it is for a position of the running slot's event, as long as no open
  position of the same asset is on the other side.
-/

namespace Polyfast

/-- What the exit loop looks things up in. -/
structure Market where
  pipeline : LivePricePipeline := {}
  registry : EventRegistry := {}

namespace Market

variable (m : Market) (now : Time)

/-- The pipeline's answer for an asset: the event of the running slot, else the first record. -/
def lookup (asset : Asset) : LivePricePipeline × Option LivePriceRecord :=
  let currentCid := m.registry.findCurrentSlotConditionId asset now
  if currentCid = "" then m.pipeline.getRecordByAsset asset now
  else match m.pipeline.getRecord currentCid now with
    | (pipeline, some r) => (pipeline, some r)
    | (pipeline, none) => pipeline.getRecordByAsset asset now

/-- One turn of the collection. -/
def collectOne (acc : Market × CycleInput) (p : PositionRecord) : Market × CycleInput :=
  if p.isOpen then
    let (m, x) := acc
    let (pipeline, priceData) := m.lookup now p.asset
    let x := match priceData with
      | some r =>
        { x with
          prices := x.prices.set p.asset (r.bid p.side)
          stale := if r.isStale now then p.asset :: x.stale else x.stale }
      | none => x
    ({ m with pipeline := pipeline },
      { x with remaining := x.remaining.set p.asset (max 0 (slotEnd now - now)) })
  else acc

/-- The first half of a turn of `_run_exit_cycle_loop`. -/
def collectPrices (ps : List PositionRecord) : Market × CycleInput :=
  ps.foldl (collectOne now) (m, {})

end Market

/-- One turn of `_run_exit_cycle_loop`: collect, then run the cycle. An exception of the cycle is
logged. -/
def Trading.exitCycle (s : Trading) (w : World) (m : Market) : Trading :=
  (s.runCycle w (m.collectPrices (s.instant w).now s.tracker.getAllPositions).2).state

/-! ### The collection in closed form -/

namespace Market

variable {m m' : Market} {now : Time} {ps : List PositionRecord} {p : PositionRecord} {asset : Asset}

/-- The record a lookup for an asset finds. -/
def selected (m : Market) (now : Time) (asset : Asset) : Option LivePriceRecord :=
  let byAsset := m.pipeline.records.records.find? (fun r => r.asset.toUpper = asset.toUpper)
  let currentCid := m.registry.findCurrentSlotConditionId asset now
  if currentCid = "" then byAsset
  else match m.pipeline.records.get? currentCid with
    | some r => some r
    | none => byAsset

/-- The last open position of an asset. -/
def lastOpen (ps : List PositionRecord) (asset : Asset) : Option PositionRecord :=
  (ps.filter (fun p => p.isOpen && p.asset = asset)).getLast?

theorem lastOpen_concat (ps : List PositionRecord) (p : PositionRecord) (asset : Asset) :
    lastOpen (ps ++ [p]) asset =
      if p.isOpen = true ∧ p.asset = asset then some p else lastOpen ps asset := by
  unfold lastOpen
  rw [List.filter_append, List.filter_singleton]
  by_cases h : p.isOpen = true ∧ p.asset = asset
  · simp [h]
  · rw [if_neg h]
    have hfalse : (p.isOpen && decide (p.asset = asset)) = false := by
      rw [Bool.and_eq_false_iff, decide_eq_false_iff_not]
      rcases not_and_or.mp h with h | h
      · exact .inl (Bool.eq_false_iff.mpr h)
      · exact .inr h
    rw [hfalse]
    simp

theorem lastOpen_open (h : p.isOpen = true) (asset : Asset) :
    lastOpen (ps ++ [p]) asset = if p.asset = asset then some p else lastOpen ps asset := by
  rw [lastOpen_concat]
  simp only [h, true_and]

/-- The market after some lookups: the same prices. -/
structure SameMarket (m m' : Market) : Prop where
  pipeline : m.pipeline.SamePrices m'.pipeline
  registry : m'.registry = m.registry

/-- A lookup finds the selected record, a status mark aside, whatever was looked up before. -/
theorem lookup_spec (now : Time) (asset : Asset) (h : SameMarket m m') :
    SameMarket m { m' with pipeline := (m'.lookup now asset).1 } ∧
      (m'.lookup now asset).2.map LivePriceRecord.unmarked =
        (m.selected now asset).map LivePriceRecord.unmarked := by
  have hbyAsset := LivePricePipeline.getRecordByAsset_spec h.pipeline asset now
  unfold lookup selected
  rw [h.registry]
  dsimp only
  split_ifs with hcid
  · exact ⟨⟨hbyAsset.1, rfl⟩, hbyAsset.2⟩
  · obtain ⟨hsame, hget⟩ := LivePricePipeline.getRecord_spec h.pipeline
      (m.registry.findCurrentSlotConditionId asset now) now
    generalize m'.pipeline.getRecord (m.registry.findCurrentSlotConditionId asset now) now = out
      at hsame hget
    obtain ⟨pipeline, priceData⟩ := out
    cases hr : m.pipeline.records.get? (m.registry.findCurrentSlotConditionId asset now) with
    | none =>
      rw [hr, Option.map_none, Option.map_eq_none_iff] at hget
      obtain rfl := hget
      have hbyAsset' := LivePricePipeline.getRecordByAsset_spec hsame asset now
      exact ⟨⟨hbyAsset'.1, rfl⟩, hbyAsset'.2⟩
    | some r =>
      rw [hr] at hget
      cases priceData with
      | none => cases hget
      | some r' => exact ⟨⟨hsame, rfl⟩, hget⟩

theorem selected_unmarked {r : LivePriceRecord}
    (h : (some r).map LivePriceRecord.unmarked = (m.selected now asset).map LivePriceRecord.unmarked) :
    ∃ u, m.selected now asset = some u ∧ r.unmarked = u.unmarked := by
  cases hs : m.selected now asset with
  | none => rw [hs] at h; cases h
  | some u =>
    rw [hs] at h
    exact ⟨u, rfl, Option.some.inj h⟩

/-- Bids do not depend on the status mark. -/
theorem selected_bid {r : LivePriceRecord}
    (h : (some r).map LivePriceRecord.unmarked =
      (m.selected now asset).map LivePriceRecord.unmarked) (side : OrderSide) :
    (m.selected now asset).map (·.bid side) = some (r.bid side) := by
  have hbid : ∀ u : LivePriceRecord, u.unmarked.bid side = u.bid side := fun u => by
    cases side <;> rfl
  obtain ⟨u, hs, hru⟩ := selected_unmarked h
  rw [hs, Option.map_some, ← hbid u, ← hbid r, hru]

/-- Staleness does not depend on the status mark. -/
theorem selected_isStale {r : LivePriceRecord}
    (h : (some r).map LivePriceRecord.unmarked =
      (m.selected now asset).map LivePriceRecord.unmarked) (now' : Time) :
    (m.selected now asset).any (·.isStale now') = r.isStale now' := by
  obtain ⟨u, hs, hru⟩ := selected_unmarked h
  rw [hs]
  exact (congrArg (·.isStale now') hru).symm

/-- **What the collection computes**, asset by asset. -/
structure Collected (m : Market) (now : Time) (ps : List PositionRecord) (out : Market × CycleInput) :
    Prop where
  market : SameMarket m out.1
  prices : ∀ a, out.2.prices.get? a =
    (lastOpen ps a).bind fun p => (m.selected now a).map (·.bid p.side)
  stale : ∀ a, a ∈ out.2.stale ↔
    (lastOpen ps a).isSome = true ∧ (m.selected now a).any (·.isStale now) = true
  remaining : ∀ a, out.2.remaining.get? a = (lastOpen ps a).map fun _ => max 0 (slotEnd now - now)

/-- A position that is not open is passed over. -/
theorem Collected.skip {out : Market × CycleInput} (h : Collected m now ps out) (hp : ¬p.isOpen = true) :
    Collected m now (ps ++ [p]) (collectOne now out p) := by
  have hskip : collectOne now out p = out := if_neg hp
  have hlast : ∀ a, lastOpen (ps ++ [p]) a = lastOpen ps a := by
    intro a
    rw [lastOpen_concat, if_neg fun h => hp h.1]
  rw [hskip]
  refine ⟨h.market, ?_, ?_, ?_⟩
  · intro a
    rw [hlast, h.prices]
  · intro a
    rw [hlast, h.stale]
  · intro a
    rw [hlast, h.remaining]

/-- An open position without a record: nothing new is known of its asset. -/
theorem Collected.unpriced {m' : Market} {x : CycleInput} (h : Collected m now ps (m', x))
    (hp : p.isOpen = true) {pipeline : LivePricePipeline}
    (hlookup : m'.lookup now p.asset = (pipeline, none)) :
    Collected m now (ps ++ [p]) (collectOne now (m', x) p) := by
  obtain ⟨hsame, hrec⟩ := lookup_spec now p.asset h.market
  rw [hlookup] at hsame hrec
  have hnone : m.selected now p.asset = none := Option.map_eq_none_iff.mp hrec.symm
  simp only [collectOne, hp, if_true, hlookup]
  refine ⟨hsame, ?_, ?_, ?_⟩
  · intro a
    rw [lastOpen_open hp, h.prices]
    split_ifs with ha
    · rw [← ha, hnone]
      cases lastOpen ps p.asset <;> rfl
    · rfl
  · intro a
    rw [lastOpen_open hp, h.stale]
    split_ifs with ha
    · rw [← ha, hnone]
      simp
    · rfl
  · intro a
    rw [lastOpen_open hp, Lib.Dict.get?_set, h.remaining]
    split_ifs <;> rfl

/-- An open position with a record decides for its asset. -/
theorem Collected.priced {m' : Market} {x : CycleInput} (h : Collected m now ps (m', x))
    (hp : p.isOpen = true) {pipeline : LivePricePipeline} {r : LivePriceRecord}
    (hlookup : m'.lookup now p.asset = (pipeline, some r)) :
    Collected m now (ps ++ [p]) (collectOne now (m', x) p) := by
  obtain ⟨hsame, hrec⟩ := lookup_spec now p.asset h.market
  rw [hlookup] at hsame hrec
  have hstale := selected_isStale hrec now
  simp only [collectOne, hp, if_true, hlookup]
  refine ⟨hsame, ?_, ?_, ?_⟩
  · intro a
    rw [lastOpen_open hp, Lib.Dict.get?_set, h.prices]
    split_ifs with ha
    · rw [← ha]
      exact (selected_bid hrec p.side).symm
    · rfl
  · intro a
    rw [lastOpen_open hp]
    split_ifs with hr ha ha
    · simp [← ha, hstale, hr]
    · rw [List.mem_cons, h.stale]
      simp [Ne.symm ha]
    · rw [h.stale, ← ha, hstale, Bool.eq_false_iff.mpr hr]
      simp
    · rw [h.stale]
  · intro a
    rw [lastOpen_open hp, Lib.Dict.get?_set, h.remaining]
    split_ifs <;> rfl

theorem collectPrices_collected (m : Market) (now : Time) (ps : List PositionRecord) :
    Collected m now ps (m.collectPrices now ps) := by
  induction ps using List.reverseRecOn with
  | nil => exact ⟨⟨rfl, rfl⟩, fun _ => rfl, fun _ => by simp [collectPrices, lastOpen], fun _ => rfl⟩
  | append_singleton ps p ih =>
    have hfold : m.collectPrices now (ps ++ [p]) = collectOne now (m.collectPrices now ps) p := by
      rw [collectPrices, List.foldl_concat]
      rfl
    rw [hfold]
    generalize m.collectPrices now ps = out at ih
    obtain ⟨m', x⟩ := out
    by_cases hopen : p.isOpen = true
    · cases hlookup : m'.lookup now p.asset with
      | mk pipeline priceData =>
        cases priceData with
        | none => exact ih.unpriced hopen hlookup
        | some r => exact ih.priced hopen hlookup
    · exact ih.skip hopen

theorem lastOpen_isSome (hp : p ∈ ps) (hopen : p.isOpen = true) :
    (lastOpen ps p.asset).isSome = true := by
  have hmem : p ∈ ps.filter (fun q => q.isOpen && q.asset = p.asset) := by
    rw [List.mem_filter]
    exact ⟨hp, by simp [hopen]⟩
  unfold lastOpen
  rw [List.getLast?_isSome]
  exact List.ne_nil_of_mem hmem

theorem lastOpen_spec {q : PositionRecord} (hq : lastOpen ps asset = some q) :
    q ∈ ps ∧ q.isOpen = true ∧ q.asset = asset := by
  have hmem := List.mem_of_getLast? hq
  rw [List.mem_filter, Bool.and_eq_true, decide_eq_true_eq] at hmem
  exact hmem

/-! ### A position's own price, staleness and time -/

/-- The bid a record shows for a side; no record, no price. -/
def bidOf (r : Option LivePriceRecord) (side : OrderSide) : ℚ := (r.map (·.bid side)).getD 0

/-- The record of the position's own event. -/
def ownRecord (m : Market) (p : PositionRecord) : Option LivePriceRecord :=
  m.pipeline.records.get? p.conditionId

/-- The start of the slot of the position's own event. -/
def ownSlotStart (m : Market) (p : PositionRecord) : Option ℕ :=
  (m.registry.getByConditionId p.conditionId).bind fun r => slugStart r.slug

/-- The cycle uses the position's own held-side bid, staleness and remaining seconds. -/
structure UsesOwn (m : Market) (now : Time) (x : CycleInput) (p : PositionRecord) : Prop where
  price : x.price p = bidOf (m.ownRecord p) p.side
  stale : x.isStale p = (m.ownRecord p).any (·.isStale now)
  secs : (m.ownSlotStart p).map (fun start : ℕ => max 0 ((start : ℚ) + slotSeconds - now)) =
    some (x.secs p)

/-- What the lookups come to for a position: its event has the running slot, the record found for its
asset is as stale as its own, and shows, on the side of the last open position of the asset, the bid
that its own record shows on its own side. -/
structure LooksUpOwn (m : Market) (now : Time) (ps : List PositionRecord) (p : PositionRecord) :
    Prop where
  slot : ∃ start : ℕ, m.ownSlotStart p = some start ∧ start + slotSeconds = slotEnd now
  stale : (m.selected now p.asset).any (·.isStale now) = (m.ownRecord p).any (·.isStale now)
  bid : ∀ q, lastOpen ps p.asset = some q →
    bidOf (m.selected now p.asset) q.side = bidOf (m.ownRecord p) p.side

theorem lt_slotEnd (now : Time) : now < slotEnd now := by
  have hfloor : now < ⌊now⌋ + 1 := Int.lt_floor_add_one now
  have hslot : ⌊now⌋ + 1 ≤ slotEnd now := by
    unfold slotEnd slotSeconds
    omega
  have hslot' : ((⌊now⌋ + 1 : ℤ) : ℚ) ≤ slotEnd now := by exact_mod_cast hslot
  push_cast at hslot'
  linarith

/-- What the cycle uses for an open position. -/
theorem collected_uses (m : Market) (now : Time) (hp : p ∈ ps) (hopen : p.isOpen = true) :
    ∃ q, lastOpen ps p.asset = some q ∧
      (m.collectPrices now ps).2.price p = bidOf (m.selected now p.asset) q.side ∧
      (m.collectPrices now ps).2.isStale p = (m.selected now p.asset).any (·.isStale now) ∧
      (m.collectPrices now ps).2.secs p = slotEnd now - now := by
  obtain ⟨q, hq⟩ := Option.isSome_iff_exists.mp (lastOpen_isSome hp hopen)
  have hc := collectPrices_collected m now ps
  refine ⟨q, hq, ?_, ?_, ?_⟩
  · rw [CycleInput.price, Lib.Dict.getD, hc.prices, hq]
    rfl
  · rw [CycleInput.isStale, Bool.eq_iff_iff, decide_eq_true_iff, hc.stale, hq]
    simp
  · rw [CycleInput.secs, Lib.Dict.getD, hc.remaining, hq]
    have hpos : 0 ≤ (slotEnd now : ℚ) - now := (sub_pos.mpr (lt_slotEnd now)).le
    exact max_eq_right hpos

/-- **Exit price identity.** A cycle uses an open position's own price, staleness and remaining time
exactly when the lookups come to them. -/
theorem identity_iff (m : Market) (now : Time) (hp : p ∈ ps) (hopen : p.isOpen = true) :
    UsesOwn m now (m.collectPrices now ps).2 p ↔ LooksUpOwn m now ps p := by
  obtain ⟨q, hq, hprice, hstale, hsecs⟩ := collected_uses m now hp hopen
  have hend := lt_slotEnd now
  constructor
  · rintro ⟨hp', hs', ht'⟩
    refine ⟨?_, ?_, ?_⟩
    · rw [hsecs] at ht'
      cases hstart : m.ownSlotStart p with
      | none => rw [hstart] at ht'; cases ht'
      | some start =>
        rw [hstart] at ht'
        have hmax : max 0 ((start : ℚ) + (slotSeconds : ℚ) - now) = slotEnd now - now :=
          Option.some.inj ht'
        have hle : (start : ℚ) + (slotSeconds : ℚ) - now = slotEnd now - now := by
          rcases max_choice 0 ((start : ℚ) + (slotSeconds : ℚ) - now) with h | h
          · rw [h] at hmax
            linarith
          · rw [← hmax, h]
        refine ⟨start, rfl, ?_⟩
        have hq' : (start : ℚ) + (slotSeconds : ℚ) = slotEnd now := by linarith
        exact_mod_cast hq'
    · rw [← hs', hstale]
    · intro q' hq'
      rw [hq] at hq'
      obtain rfl := Option.some.inj hq'
      rw [← hprice, hp']
  · rintro ⟨⟨start, hstart, hslot⟩, hs', hb'⟩
    refine ⟨?_, ?_, ?_⟩
    · rw [hprice, hb' q hq]
    · rw [hstale, hs']
    · have hslot' : (start : ℚ) + (slotSeconds : ℚ) = slotEnd now := by exact_mod_cast hslot
      rw [hstart, hsecs, Option.map_some, hslot']
      exact congrArg some (max_eq_right (sub_pos.mpr hend).le)

/-- It does for a position of the running slot's event, unless an open position of the same asset is on
the other side. -/
theorem looksUpOwn_of_running_slot {r : LivePriceRecord}
    (hcid : m.registry.findCurrentSlotConditionId p.asset now = p.conditionId)
    (hne : p.conditionId ≠ "") (hr : m.ownRecord p = some r)
    (hslot : ∃ start : ℕ, m.ownSlotStart p = some start ∧ start + slotSeconds = slotEnd now)
    (hside : ∀ q ∈ ps, q.isOpen = true → q.asset = p.asset → q.side = p.side) :
    LooksUpOwn m now ps p := by
  have hsel : m.selected now p.asset = m.ownRecord p := by
    have hget : m.pipeline.records.get? p.conditionId = some r := hr
    unfold selected
    simp only [hcid, if_neg hne, hget]
    exact hr.symm
  refine ⟨hslot, by rw [hsel], fun q hq => ?_⟩
  obtain ⟨hqp, hqo, hqa⟩ := lastOpen_spec hq
  rw [hsel, hside q hqp hqo hqa]

/-- A bid of 0.70 for up and 0.28 for down. -/
def quote : LivePriceRecord where
  conditionId := "event"
  asset := "BTC"
  upBid := 7 / 10
  downBid := 28 / 100
  status := .fresh
  updatedAt := some 1700000200

/-- An event of the slot that starts at 1700000100. -/
def slotEvent : RegistryRecord where
  eventId := 1
  conditionId := "event"
  asset := "BTC"
  question := ""
  slug := "btc-updown-5m-1700000100"
  status := .active
  firstSeenAt := 0
  lastSeenAt := 0
  statusChangedAt := 0
  endDate := 1700000400

/-- One event and its prices. -/
def oneEvent : Market where
  pipeline := { records := Lib.Table.empty.put quote }
  registry := { records := Lib.Table.empty.put slotEvent }

/-- An open position of that event. -/
def heldPosition (id : PositionId) (side : OrderSide) : PositionRecord :=
  { positionId := id, asset := "BTC", side := side, conditionId := "event", tokenId := "token"
    state := .openConfirmed, createdAt := 0, openedAt := some 0 }

/-- A second coin. -/
def twoEvents : Market where
  pipeline := { records := (Lib.Table.empty.put quote).put { quote with conditionId := "ether", asset := "ETH" } }
  registry :=
    { records := (Lib.Table.empty.put slotEvent).put
        { slotEvent with conditionId := "ether", asset := "ETH", slug := "eth-updown-5m-1700000100" } }

/-- Two positions of one coin on one side, and one of the other coin on the other side. -/
def threePositions : List PositionRecord :=
  [heldPosition 0 .up, heldPosition 1 .up, { heldPosition 2 .down with asset := "ETH", conditionId := "ether" }]

/-- All of them are valued with their own prices. -/
theorem identity_three : threePositions.map PositionRecord.isOpen = [true, true, true] ∧
    ∀ p ∈ threePositions, UsesOwn twoEvents 1700000200 (twoEvents.collectPrices 1700000200 threePositions).2 p := by
  have hlookups : ∀ p ∈ threePositions, p.isOpen = true ∧ p.conditionId ≠ "" ∧
      twoEvents.registry.findCurrentSlotConditionId p.asset 1700000200 = p.conditionId ∧
      (twoEvents.ownRecord p).isSome = true ∧ twoEvents.ownSlotStart p = some 1700000100 ∧
      ∀ q ∈ threePositions, q.isOpen = true → q.asset = p.asset → q.side = p.side := by
    decide +kernel
  refine ⟨rfl, fun p hp => ?_⟩
  obtain ⟨hopen, hne, hcid, hr, hstart, hside⟩ := hlookups p hp
  obtain ⟨r, hr⟩ := Option.isSome_iff_exists.mp hr
  exact (identity_iff twoEvents 1700000200 hp hopen).mpr
    (looksUpOwn_of_running_slot hcid hne hr ⟨_, hstart, by decide +kernel⟩ hside)

/-- Up and down held together: the up position is valued at the bid of the down token. -/
theorem identity_fails :
    ∃ m now ps, ∃ p ∈ ps, p.isOpen = true ∧ ¬UsesOwn m now (m.collectPrices now ps).2 p := by
  refine ⟨oneEvent, 1700000200, [heldPosition 0 .up, heldPosition 1 .down], heldPosition 0 .up,
    by simp, rfl, fun h => ?_⟩
  have hprice := h.price
  revert hprice
  decide +kernel

end Market

end Polyfast
