import Mathlib.Logic.Function.Basic
import Polyfast.Lib.Run
import Polyfast.MarketData.PriceUpdates

/-!
# The price feed

The pipeline over time: both writers, lookups that mark old records, events that are dropped, and the clock.
Beside it is kept what was accepted last for each event and when each side was written, which the record itself
does not say: it has one time stamp and one source for both sides.

* `Feed`, `Step`: the pipeline and its history;
* `Tracked`, `Step.tracked`: the record has the time and the source of what was accepted last;
* `ws_primary_iff`: no Gamma update changes a record with recent WebSocket data exactly if none arrives for one.
-/

namespace Polyfast

structure Feed where
  pipeline : LivePricePipeline := {}
  now : Time := 0
  /-- What was accepted last for the event, and when. -/
  accepted : ConditionId → Option (PriceSource × Time) := fun _ => none
  /-- When bid and ask of the side were written last. -/
  written : ConditionId → OrderSide → Option Time := fun _ _ => none

namespace Feed

variable (f : Feed)

/-- An update for the event is accepted, and writes these sides. -/
def accept (c : ConditionId) (source : PriceSource) (sides : List OrderSide) : Feed :=
  { f with
    accepted := Function.update f.accepted c (some (source, f.now))
    written := Function.update f.written c (fun side => if side ∈ sides then some f.now else f.written c side) }

/-- `update_from_ws` is called. -/
def ws (c : ConditionId) (asset : Asset) (side : String) (bestBid bestAsk : ℚ) : Feed :=
  let f' := { f with pipeline := (f.pipeline.updateFromWs c asset side bestBid bestAsk f.now).1 }
  match wsAccepts side bestBid bestAsk with
  | some side => f'.accept c .rtdsWs [side]
  | none => f'

/-- `update_from_gamma` is called. -/
def gamma (c : ConditionId) (asset : Asset) (raw : OutcomePricesRaw) (spread : ℚ) : Feed :=
  let f' := { f with pipeline := (f.pipeline.updateFromGamma c asset raw spread f.now).1 }
  match gammaAccepts raw with
  | some _ => f'.accept c .gammaOutcomePrices [.up, .down]
  | none => f'

/-- `clear_event` is called. -/
def clear (c : ConditionId) : Feed :=
  { f with
    pipeline := f.pipeline.clearEvent c
    accepted := Function.update f.accepted c none
    written := Function.update f.written c (fun _ => none) }

end Feed

/-- Records may be marked as stale, and nothing else changes. -/
def LivePricePipeline.MarksOnly (p p' : LivePricePipeline) (now : Time) : Prop :=
  ∀ c, p'.records.get? c = p.records.get? c ∨
    p'.records.get? c = (p.records.get? c).map (·.checkFreshness now)

namespace Feed

inductive Label
  | ws (c : ConditionId) (asset : Asset) (side : String) (bestBid bestAsk : ℚ)
  | gamma (c : ConditionId) (asset : Asset) (raw : OutcomePricesRaw) (spread : ℚ)
  | advance (now : Time)
  | mark (p : LivePricePipeline)
  | clear (c : ConditionId)

inductive Step : Feed → Label → Feed → Prop
  | ws (f : Feed) (c : ConditionId) (asset : Asset) (side : String) (bestBid bestAsk : ℚ) :
      Step f (.ws c asset side bestBid bestAsk) (f.ws c asset side bestBid bestAsk)
  | gamma (f : Feed) (c : ConditionId) (asset : Asset) (raw : OutcomePricesRaw) (spread : ℚ) :
      Step f (.gamma c asset raw spread) (f.gamma c asset raw spread)
  | advance (f : Feed) (now : Time) (h : f.now ≤ now) : Step f (.advance now) { f with now := now }
  | mark (f : Feed) (p : LivePricePipeline) (h : f.pipeline.MarksOnly p f.now) :
      Step f (.mark p) { f with pipeline := p }
  | clear (f : Feed) (c : ConditionId) : Step f (.clear c) (f.clear c)

/-- Nothing was received yet. -/
structure Fresh (f : Feed) : Prop where
  records : f.pipeline.records = .empty
  accepted : f.accepted = fun _ => none

/-- The history and the record of an event belong together. -/
structure TrackedAt (f : Feed) (c : ConditionId) : Prop where
  accepted : ∀ source t, f.accepted c = some (source, t) → ∃ r, f.pipeline.records.get? c = some r ∧
    r.updatedAt = some t ∧ r.source = source.value
  written : ∀ r t, f.pipeline.records.get? c = some r → r.updatedAt = some t → ∃ side, f.written c side = some t
  updated : ∀ r, f.pipeline.records.get? c = some r → r.status = .fresh → r.updatedAt.isSome = true

def Tracked (f : Feed) : Prop := ∀ c, f.TrackedAt c

variable {f f' : Feed} {l : Label} {c : ConditionId}

theorem Fresh.tracked (h : Fresh f) : f.Tracked := fun c =>
  ⟨fun source t ht => by simp [h.accepted] at ht, fun r t hr => by simp [h.records] at hr,
    fun r hr => by simp [h.records] at hr⟩

/-- An event is tracked by what is recorded for it. -/
theorem TrackedAt.congr (h : f.TrackedAt c) (hr : f'.pipeline.records.get? c = f.pipeline.records.get? c)
    (ha : f'.accepted c = f.accepted c) (hw : f'.written c = f.written c) : f'.TrackedAt c where
  accepted source t ht := by
    rw [hr]
    exact h.accepted source t (ha ▸ ht)
  written r t hget ht := by
    rw [hw]
    exact h.written r t (hr ▸ hget) ht
  updated r hget := h.updated r (hr ▸ hget)

variable {p : LivePricePipeline} {r r' : LivePriceRecord} {source : PriceSource}

theorem trackedAt_accept {sides : List OrderSide} (hget : f.pipeline.records.get? c = some r')
    (hreceived : LivePriceRecord.Received r r' source f.now) (hsides : sides ≠ []) :
    (f.accept c source sides).TrackedAt c where
  accepted source' t ht := by
    simp only [accept, Function.update_self, Option.some.injEq, Prod.mk.injEq] at ht
    obtain ⟨rfl, rfl⟩ := ht
    exact ⟨r', hget, hreceived.updatedAt, hreceived.source⟩
  written u t hu ht := by
    obtain rfl := Option.some.inj (hget.symm.trans hu)
    rw [hreceived.updatedAt] at ht
    obtain ⟨side, hside⟩ := List.exists_mem_of_ne_nil sides hsides
    refine ⟨side, ?_⟩
    simp only [accept, Function.update_self, if_pos hside]
    exact ht
  updated u hu _ := by
    obtain rfl := Option.some.inj (hget.symm.trans hu)
    rw [hreceived.updatedAt, Option.isSome_some]

/-- A refused update writes at most a status. -/
structure Refused (r r' : LivePriceRecord) : Prop where
  updatedAt : r'.updatedAt = r.updatedAt
  source : r'.source = r.source
  status : r'.status = .fresh → r.status = .fresh
  threshold : r'.staleThresholdSec = r.staleThresholdSec

theorem getOrCreate_of_get? {u : LivePriceRecord} (asset : Asset) (hu : p.records.get? c = some u) :
    p.getOrCreate c asset = u := by
  simp only [LivePricePipeline.getOrCreate, hu]

theorem trackedAt_refuse (asset : Asset) (h : f.TrackedAt c) (hget : p.records.get? c = some r')
    (hrefused : Refused (f.pipeline.getOrCreate c asset) r') : TrackedAt { f with pipeline := p } c := by
  cases hr : f.pipeline.records.get? c with
  | none =>
    have hnew : (f.pipeline.getOrCreate c asset).updatedAt = none ∧
        (f.pipeline.getOrCreate c asset).status = .waiting := by
      simp only [LivePricePipeline.getOrCreate, hr]
      exact ⟨trivial, trivial⟩
    refine ⟨fun source t ht => ?_, fun u t hu ht => ?_, fun u hu hfresh => ?_⟩
    · obtain ⟨u, hu, -⟩ := h.accepted source t ht
      rw [hr] at hu
      cases hu
    · obtain rfl := Option.some.inj (hget.symm.trans hu)
      rw [hrefused.updatedAt, hnew.1] at ht
      cases ht
    · obtain rfl := Option.some.inj (hget.symm.trans hu)
      have hstatus := hrefused.status hfresh
      rw [hnew.2] at hstatus
      cases hstatus
  | some r =>
    rw [getOrCreate_of_get? asset hr] at hrefused
    refine ⟨fun source t ht => ?_, fun u t hu ht => ?_, fun u hu hfresh => ?_⟩
    · obtain ⟨u, hu, hupdated, hsource⟩ := h.accepted source t ht
      obtain rfl := Option.some.inj (hr.symm.trans hu)
      exact ⟨r', hget, hrefused.updatedAt.trans hupdated, hrefused.source.trans hsource⟩
    · obtain rfl := Option.some.inj (hget.symm.trans hu)
      exact h.written r t hr (hrefused.updatedAt.symm.trans ht)
    · obtain rfl := Option.some.inj (hget.symm.trans hu)
      rw [hrefused.updatedAt]
      exact h.updated r hr (hrefused.status hfresh)

theorem get?_write_self (p : LivePricePipeline) (h : r.conditionId = c) : (p.write r).records.get? c = some r :=
  (Lib.Table.get?_put _ _ _).trans (if_pos h)

theorem get?_write_ne (p : LivePricePipeline) {k : ConditionId} (h : r.conditionId = c) (hk : k ≠ c) :
    (p.write r).records.get? k = p.records.get? k :=
  (Lib.Table.get?_put _ _ _).trans (if_neg fun heq => hk (heq.symm.trans h))

theorem get?_clear_ne {k : ConditionId} (hk : k ≠ c) :
    (f.clear c).pipeline.records.get? k = f.pipeline.records.get? k :=
  (Lib.Table.get?_erase _ _ _).trans (if_neg fun heq => hk heq.symm)

theorem conditionId_getOrCreate (p : LivePricePipeline) (c : ConditionId) (asset : Asset) :
    (p.getOrCreate c asset).conditionId = c := by
  cases hr : p.records.get? c with
  | none => simp only [LivePricePipeline.getOrCreate, hr]
  | some r =>
    simp only [LivePricePipeline.getOrCreate, hr]
    exact Lib.Table.key_of_get? hr

theorem refused_applyWs (r : LivePriceRecord) (now : Time) {side : String} {bestBid bestAsk : ℚ}
    (h : wsAccepts side bestBid bestAsk = none) :
    Refused r (r.applyWs side bestBid bestAsk now) ∧
      (r.applyWs side bestBid bestAsk now).conditionId = r.conditionId := by
  rcases LivePriceRecord.applyWs_refused r now h with heq | ⟨-, heq⟩
  · rw [heq]
    exact ⟨⟨rfl, rfl, id, rfl⟩, rfl⟩
  · rw [heq]
    exact ⟨⟨rfl, rfl, (fun hstatus => by cases hstatus), rfl⟩, rfl⟩

theorem refused_applyGamma (r : LivePriceRecord) (spread : ℚ) (now : Time) {raw : OutcomePricesRaw}
    (h : gammaAccepts raw = none) :
    Refused r (r.applyGamma raw spread now) ∧ (r.applyGamma raw spread now).conditionId = r.conditionId := by
  rw [LivePriceRecord.applyGamma_refused r spread now h]
  exact ⟨⟨rfl, rfl, (fun hstatus => by cases hstatus), rfl⟩, rfl⟩

/-- What a call of a writer does. -/
inductive Update (f : Feed) (c : ConditionId) (f' : Feed) : Prop
  | accepted (asset : Asset) (source : PriceSource) (sides : List OrderSide) (r' : LivePriceRecord)
      (hsides : sides ≠ []) (hreceived : LivePriceRecord.Received (f.pipeline.getOrCreate c asset) r' source f.now)
      (heq : f' = { f with pipeline := f.pipeline.write r' }.accept c source sides)
  | refused (asset : Asset) (r' : LivePriceRecord) (hid : r'.conditionId = c)
      (hrefused : Refused (f.pipeline.getOrCreate c asset) r') (heq : f' = { f with pipeline := f.pipeline.write r' })

theorem ws_update (f : Feed) (c : ConditionId) (asset : Asset) (side : String) (bestBid bestAsk : ℚ) :
    Update f c (f.ws c asset side bestBid bestAsk) := by
  cases hw : wsAccepts side bestBid bestAsk with
  | none =>
    obtain ⟨hrefused, hid⟩ := refused_applyWs (f.pipeline.getOrCreate c asset) f.now hw
    refine .refused asset _ (hid.trans (conditionId_getOrCreate _ _ _)) hrefused ?_
    simp only [ws, hw, LivePricePipeline.updateFromWs]
  | some s =>
    refine .accepted asset .rtdsWs [s] _ (by simp)
      (LivePriceRecord.received_withQuote (f.pipeline.getOrCreate c asset) s bestBid bestAsk f.now) ?_
    simp only [ws, hw, LivePricePipeline.updateFromWs, LivePriceRecord.applyWs_accepted _ _ hw]

theorem gamma_update (f : Feed) (c : ConditionId) (asset : Asset) (raw : OutcomePricesRaw) (spread : ℚ) :
    Update f c (f.gamma c asset raw spread) := by
  cases hg : gammaAccepts raw with
  | none =>
    obtain ⟨hrefused, hid⟩ := refused_applyGamma (f.pipeline.getOrCreate c asset) spread f.now hg
    refine .refused asset _ (hid.trans (conditionId_getOrCreate _ _ _)) hrefused ?_
    simp only [gamma, hg, LivePricePipeline.updateFromGamma]
  | some prices =>
    refine .accepted asset .gammaOutcomePrices [.up, .down] _ (by simp)
      (LivePriceRecord.applyGamma_accepted (f.pipeline.getOrCreate c asset) spread f.now hg) ?_
    simp only [gamma, hg, LivePricePipeline.updateFromGamma]

/-- The data of an event are as before. -/
structure SameAt (f f' : Feed) (k : ConditionId) : Prop where
  record : f'.pipeline.records.get? k = f.pipeline.records.get? k
  accepted : f'.accepted k = f.accepted k
  written : f'.written k = f.written k
  now : f'.now = f.now

/-- Updates for one event leave the data of the others. -/
theorem Update.others (hu : Update f c f') {k : ConditionId} (hk : k ≠ c) : SameAt f f' k := by
  cases hu with
  | accepted asset source sides r' hsides hreceived heq =>
    subst heq
    have hid : r'.conditionId = c := hreceived.conditionId.trans (conditionId_getOrCreate _ _ _)
    exact ⟨get?_write_ne _ hid hk, Function.update_of_ne hk _ _, Function.update_of_ne hk _ _, rfl⟩
  | refused asset r' hid hrefused heq =>
    subst heq
    exact ⟨get?_write_ne _ hid hk, rfl, rfl, rfl⟩

theorem clear_others {k : ConditionId} (hk : k ≠ c) : SameAt f (f.clear c) k :=
  ⟨get?_clear_ne hk, Function.update_of_ne hk _ _, Function.update_of_ne hk _ _, rfl⟩

theorem Tracked.update (h : f.Tracked) (hu : Update f c f') : f'.Tracked := by
  intro k
  by_cases hk : k = c
  · subst hk
    cases hu with
    | accepted asset source sides r' hsides hreceived heq =>
      subst heq
      have hid : r'.conditionId = k := hreceived.conditionId.trans (conditionId_getOrCreate _ _ _)
      exact trackedAt_accept (f := { f with pipeline := f.pipeline.write r' }) (get?_write_self _ hid) hreceived hsides
    | refused asset r' hid hrefused heq =>
      subst heq
      exact trackedAt_refuse asset (h k) (get?_write_self _ hid) hrefused
  · have hsame := hu.others hk
    exact (h k).congr hsame.record hsame.accepted hsame.written

/-- A mark is like a refused update. -/
theorem refused_checkFreshness (r : LivePriceRecord) (now : Time) : Refused r (r.checkFreshness now) where
  updatedAt := by
    unfold LivePriceRecord.checkFreshness
    split_ifs <;> rfl
  source := by
    unfold LivePriceRecord.checkFreshness
    split_ifs <;> rfl
  status h := (LivePriceRecord.checkFreshness_fresh_iff.mp h).1
  threshold := r.staleThresholdSec_checkFreshness now

/-- Marks do not matter for what is tracked. -/
theorem Tracked.mark {now : Time} (h : f.Tracked) (hp : f.pipeline.MarksOnly p now) :
    Tracked { f with pipeline := p } := by
  intro k
  rcases hp k with hsame | hmarked
  · exact (h k).congr hsame rfl rfl
  · cases hr : f.pipeline.records.get? k with
    | none =>
      rw [hr] at hmarked
      exact (h k).congr (hmarked.trans hr.symm) rfl rfl
    | some r =>
      rw [hr, Option.map_some] at hmarked
      refine trackedAt_refuse "" (h k) hmarked ?_
      rw [getOrCreate_of_get? "" hr]
      exact refused_checkFreshness r now

theorem Step.tracked (hs : Step f l f') (h : f.Tracked) : f'.Tracked := by
  cases hs with
  | ws c asset side bestBid bestAsk => exact h.update (ws_update f c asset side bestBid bestAsk)
  | gamma c asset raw spread => exact h.update (gamma_update f c asset raw spread)
  | advance now hle => exact fun k => (h k).congr rfl rfl rfl
  | mark p hp => exact h.mark hp
  | clear c =>
    intro k
    by_cases hk : k = c
    · subst hk
      have hnone : (f.clear k).pipeline.records.get? k = none := by
        simp only [Feed.clear, LivePricePipeline.clearEvent, Lib.Table.get?_erase, if_true]
      refine ⟨fun source t ht => ?_, fun u t hu => ?_, fun u hu => ?_⟩
      · simp only [Feed.clear, Function.update_self] at ht
        cases ht
      · rw [hnone] at hu
        cases hu
      · rw [hnone] at hu
        cases hu
    · have hsame : SameAt f (f.clear c) k := clear_others hk
      exact (h k).congr hsame.record hsame.accepted hsame.written

/-! ### WebSocket first -/

/-- The last accepted data of the record came over the WebSocket, within the stale threshold. -/
def RecentWs (f : Feed) (c : ConditionId) (r : LivePriceRecord) : Prop :=
  f.pipeline.records.get? c = some r ∧ ∃ t, f.accepted c = some (.rtdsWs, t) ∧ f.now - t ≤ r.staleThresholdSec

/-- Records with recent WebSocket data are fresh. -/
def Marked (f : Feed) : Prop := ∀ c r, f.RecentWs c r → r.status = .fresh

/-- Prices, status and source are the same. -/
structure SameData (r r' : LivePriceRecord) : Prop where
  upBid : r'.upBid = r.upBid
  upAsk : r'.upAsk = r.upAsk
  downBid : r'.downBid = r.downBid
  downAsk : r'.downAsk = r.downAsk
  spread : r'.spread = r.spread
  status : r'.status = r.status
  source : r'.source = r.source

/-- If the step is a Gamma update for a record with recent WebSocket data, it leaves the record's data. -/
def KeepsWs (x : Lib.Taken Feed Label) : Prop :=
  ∀ c asset raw spread, x.label = .gamma c asset raw spread → ∀ r, x.pre.RecentWs c r →
    ∃ r', x.post.pipeline.records.get? c = some r' ∧ SameData r r'

/-- A Gamma update is not for a record with recent WebSocket data. -/
def SparesWs (f : Feed) (l : Label) : Prop :=
  ∀ c asset raw spread, l = .gamma c asset raw spread → ∀ r, ¬f.RecentWs c r

theorem RecentWs.congr (h : f'.RecentWs c r) (hr : f'.pipeline.records.get? c = f.pipeline.records.get? c)
    (ha : f'.accepted c = f.accepted c) (hnow : f.now ≤ f'.now) : f.RecentWs c r := by
  obtain ⟨hget, t, ht, hage⟩ := h
  exact ⟨hr ▸ hget, t, ha ▸ ht, (sub_le_sub_right hnow t).trans hage⟩

/-- The record of recent WebSocket data has its time and source. -/
theorem RecentWs.stamped (h : f.RecentWs c r) (htracked : f.Tracked) :
    r.source = PriceSource.rtdsWs.value ∧ ∃ t, r.updatedAt = some t ∧ f.now - t ≤ r.staleThresholdSec := by
  obtain ⟨hget, t, ht, hage⟩ := h
  obtain ⟨u, hu, hupdated, hsource⟩ := (htracked c).accepted _ t ht
  obtain rfl := Option.some.inj (hget.symm.trans hu)
  exact ⟨hsource, t, hupdated, hage⟩

/-- **Gamma overwrites**: a Gamma update changes source or status of a fresh WebSocket record. -/
theorem gamma_changes {asset : Asset} {raw : OutcomePricesRaw} {spread : ℚ} (h : f.RecentWs c r)
    (htracked : f.Tracked) (hmarked : f.Marked) (hget : (f.gamma c asset raw spread).pipeline.records.get? c = some r')
    (hsame : SameData r r') : False := by
  have hold := getOrCreate_of_get? asset h.1
  have hid : r.conditionId = c := Lib.Table.key_of_get? h.1
  cases hg : gammaAccepts raw with
  | none =>
    have hnew : r' = { r with status := .invalid } := by
      simp only [gamma, hg, LivePricePipeline.updateFromGamma, hold,
        LivePriceRecord.applyGamma_refused r spread f.now hg] at hget
      have hkey : { r with status := .invalid }.conditionId = c := hid
      rw [get?_write_self _ hkey] at hget
      exact (Option.some.inj hget).symm
    have hstatus := hsame.status
    rw [hnew, hmarked c r h] at hstatus
    cases hstatus
  | some prices =>
    have hreceived := LivePriceRecord.applyGamma_accepted r spread f.now hg
    have hnew : r' = r.applyGamma raw spread f.now := by
      simp only [gamma, hg, accept, LivePricePipeline.updateFromGamma, hold] at hget
      rw [get?_write_self _ (hreceived.conditionId.trans hid)] at hget
      exact (Option.some.inj hget).symm
    have hsource := hsame.source
    rw [hnew, hreceived.source, (h.stamped htracked).1] at hsource
    exact absurd hsource (by decide)

/-- A refused update leaves recent WebSocket data as recent as they were. -/
theorem RecentWs.of_refused {asset : Asset} (htracked : f.Tracked) (hid : r'.conditionId = c)
    (hrefused : Refused (f.pipeline.getOrCreate c asset) r')
    (h : RecentWs { f with pipeline := f.pipeline.write r' } c r) :
    r = r' ∧ f.RecentWs c (f.pipeline.getOrCreate c asset) := by
  obtain ⟨hget, t, ht, hage⟩ := h
  have hnew : r = r' := by
    rw [get?_write_self _ hid] at hget
    exact (Option.some.inj hget).symm
  obtain ⟨u, hu, -⟩ := (htracked c).accepted _ t ht
  have hold := getOrCreate_of_get? asset hu
  refine ⟨hnew, by rw [hold, hu], t, ht, ?_⟩
  rw [← hrefused.threshold, ← hnew]
  exact hage

theorem RecentWs.of_same {k : ConditionId} (h : f'.RecentWs k r) (hsame : SameAt f f' k) : f.RecentWs k r :=
  h.congr hsame.record hsame.accepted hsame.now.ge

theorem Marked.ws {asset : Asset} {side : String} {bestBid bestAsk : ℚ} (hmarked : f.Marked) (htracked : f.Tracked) :
    (f.ws c asset side bestBid bestAsk).Marked := by
  intro k r h
  by_cases hk : k = c
  · subst hk
    have hid := conditionId_getOrCreate f.pipeline k asset
    cases hw : wsAccepts side bestBid bestAsk with
    | none =>
      simp only [Feed.ws, hw, LivePricePipeline.updateFromWs] at h
      obtain ⟨hrefused, hkey⟩ := refused_applyWs (f.pipeline.getOrCreate k asset) f.now hw
      obtain ⟨rfl, hbefore⟩ := h.of_refused htracked (hkey.trans hid) hrefused
      have hfresh := hmarked k _ hbefore
      rcases LivePriceRecord.applyWs_refused (f.pipeline.getOrCreate k asset) f.now hw with heq | ⟨hwaiting, -⟩
      · rw [heq]
        exact hfresh
      · rw [hwaiting] at hfresh
        cases hfresh
    | some s =>
      have hreceived := LivePriceRecord.received_withQuote (f.pipeline.getOrCreate k asset) s bestBid bestAsk f.now
      have hget := h.1
      simp only [Feed.ws, hw, accept, LivePricePipeline.updateFromWs, LivePriceRecord.applyWs_accepted _ _ hw] at hget
      rw [get?_write_self _ (hreceived.conditionId.trans hid)] at hget
      rw [← Option.some.inj hget]
      exact hreceived.status
  · exact hmarked k r (h.of_same ((ws_update f c asset side bestBid bestAsk).others hk))

/-- A Gamma update leaves no recent WebSocket data where there were none. -/
theorem Marked.gamma {asset : Asset} {raw : OutcomePricesRaw} {spread : ℚ} (hmarked : f.Marked) (htracked : f.Tracked)
    (hspares : ∀ r, ¬f.RecentWs c r) : (f.gamma c asset raw spread).Marked := by
  intro k r h
  by_cases hk : k = c
  · subst hk
    cases hg : gammaAccepts raw with
    | none =>
      simp only [Feed.gamma, hg, LivePricePipeline.updateFromGamma] at h
      obtain ⟨hrefused, hkey⟩ := refused_applyGamma (f.pipeline.getOrCreate k asset) spread f.now hg
      obtain ⟨-, hbefore⟩ := h.of_refused htracked (hkey.trans (conditionId_getOrCreate _ _ _)) hrefused
      exact absurd hbefore (hspares _)
    | some prices =>
      obtain ⟨-, t, ht, -⟩ := h
      simp [Feed.gamma, hg, accept] at ht
  · exact hmarked k r (h.of_same ((gamma_update f c asset raw spread).others hk))

theorem Marked.mark (hmarked : f.Marked) (htracked : f.Tracked) (hp : f.pipeline.MarksOnly p f.now) :
    Marked { f with pipeline := p } := by
  intro k r h
  rcases hp k with hsame | hmark
  · exact hmarked k r (h.congr hsame rfl le_rfl)
  · obtain ⟨hget, t, ht, hage⟩ := h
    rw [hmark] at hget
    obtain ⟨u, hu, rfl⟩ := Option.map_eq_some_iff.mp hget
    rw [u.staleThresholdSec_checkFreshness] at hage
    have hbefore : f.RecentWs k u := ⟨hu, t, ht, hage⟩
    obtain ⟨-, t', hupdated, hage'⟩ := hbefore.stamped htracked
    have hstale := (LivePriceRecord.isStale_eq_false_iff hupdated).mpr hage'
    exact LivePriceRecord.checkFreshness_fresh_iff.mpr ⟨hmarked k u hbefore, hstale⟩

theorem Marked.clear (hmarked : f.Marked) : (f.clear c).Marked := by
  intro k r h
  by_cases hk : k = c
  · subst hk
    obtain ⟨-, t, ht, -⟩ := h
    simp only [Feed.clear, Function.update_self] at ht
    cases ht
  · exact hmarked k r (h.of_same (clear_others hk))

theorem Step.marked (hs : Step f l f') (hmarked : f.Marked) (htracked : f.Tracked) (hspares : f.SparesWs l) :
    f'.Marked := by
  cases hs with
  | ws c asset side bestBid bestAsk => exact hmarked.ws htracked
  | gamma c asset raw spread => exact hmarked.gamma htracked (hspares c asset raw spread rfl)
  | advance now hle => exact fun k r h => hmarked k r (h.congr rfl rfl hle)
  | mark p hp => exact hmarked.mark htracked hp
  | clear c => exact hmarked.clear

/-- **One step** keeps recent WebSocket data exactly if it is no Gamma update for such a record. -/
theorem Step.keepsWs_iff (hs : Step f l f') (hmarked : f.Marked) (htracked : f.Tracked) :
    KeepsWs ⟨f, l, f'⟩ ↔ f.SparesWs l := by
  constructor
  · rintro h c asset raw spread rfl r hrecent
    obtain ⟨r', hget, hsame⟩ := h c asset raw spread rfl r hrecent
    cases hs with
    | gamma => exact gamma_changes hrecent htracked hmarked hget hsame
  · intro h c asset raw spread hl r hrecent
    exact absurd hrecent (h c asset raw spread hl r)

variable {tr : List (Lib.Taken Feed Label)}

/-- **WebSocket first.** In a run from an empty pipeline no Gamma update changes prices, status or source of a
record whose last accepted data came over the WebSocket within the threshold, exactly if no Gamma update comes
for such a record. -/
theorem ws_primary_iff (h : Fresh f) (hrun : Lib.Run Step f tr f') :
    (∀ x ∈ tr, KeepsWs x) ↔ ∀ x ∈ tr, x.pre.SparesWs x.label := by
  have hmarked : f.Marked := fun c r hr => by simp [RecentWs, h.records] at hr
  refine hrun.forall_iff (I := fun f => f.Marked ∧ f.Tracked) (fun f l f' hI hs => ?_) ⟨hmarked, h.tracked⟩
  have hiff := hs.keepsWs_iff hI.1 hI.2
  exact ⟨hiff, fun hkeeps => ⟨hs.marked hI.1 hI.2 (hiff.mp hkeeps), hs.tracked hI.2⟩⟩

/-- A quote of the up token. -/
def quoted : Feed := ({} : Feed).ws "event" "BTC" "up" (55 / 100) (56 / 100)

def quotedRecord : LivePriceRecord :=
  { conditionId := "event", asset := "BTC", upBid := 55 / 100, upAsk := 56 / 100, spread := 1 / 100, status := .fresh
    updatedAt := some 0, source := "rtds_ws" }

def gammaPrices : OutcomePricesRaw := .text (some (.list [.numStr (52 / 100), .numStr (48 / 100)]))

/-- Another event is seeded from Gamma, and a minute passes. -/
def later : Feed := { quoted.gamma "other" "ETH" gammaPrices 0 with now := 60 }

/-- While the quote is recent another event is seeded from Gamma, and a minute later the quoted one. -/
theorem ws_primary_stale : ∃ f tr, Lib.Run Step {} tr f ∧
    f.pipeline.records.records.map LivePriceRecord.source = ["gamma_outcome_prices", "gamma_outcome_prices"] ∧
    ∀ x ∈ tr, KeepsWs x := by
  have hlater : Lib.Run Step {} _ later := ((Lib.Run.single
    (.ws {} "event" "BTC" "up" (55 / 100) (56 / 100))).snoc
    (.gamma quoted "other" "ETH" gammaPrices 0)).snoc
    (.advance _ 60 (by decide +kernel))
  have hrun := hlater.snoc (.gamma later "event" "BTC" gammaPrices 0)
  refine ⟨_, _, hrun, by decide +kernel, (ws_primary_iff ⟨rfl, rfl⟩ hrun).mpr ?_⟩
  simp only [List.forall_mem_append, List.forall_mem_singleton, SparesWs]
  refine ⟨⟨⟨by simp, ?_⟩, by simp⟩, ?_⟩
  · rintro _ _ _ _ ⟨⟩ r ⟨hget, -⟩
    have hnone : quoted.pipeline.records.get? "other" = none := by decide +kernel
    cases hnone.symm.trans hget
  · rintro _ _ _ _ ⟨⟩ r ⟨hget, t, ht, hage⟩
    have hrecord : later.pipeline.records.get? "event" = some quotedRecord := by decide +kernel
    have haccepted : later.accepted "event" = some (.rtdsWs, 0) := by decide +kernel
    obtain rfl := Option.some.inj (hrecord.symm.trans hget)
    obtain rfl := (Prod.mk.inj (Option.some.inj (haccepted.symm.trans ht))).2
    exact absurd hage (by decide +kernel)

/-- One second later the discovery scan seeds the event from Gamma, and the quote is gone. -/
theorem gamma_overwrites_ws : Fresh {} ∧ ∃ f tr, Lib.Run Step {} tr f ∧ ¬∀ x ∈ tr, KeepsWs x := by
  have hquoted := Lib.Run.single (Step.ws {} "event" "BTC" "up" (55 / 100) (56 / 100))
  have hlater := hquoted.snoc (.advance quoted 1 (by decide +kernel))
  have hrun := hlater.snoc (.gamma { quoted with now := 1 } "event" "BTC" gammaPrices 0)
  refine ⟨⟨rfl, rfl⟩, _, _, hrun, fun hall => ?_⟩
  have hkeeps := hall _ (List.mem_append_right _ List.mem_cons_self) "event" "BTC" gammaPrices 0 rfl
  obtain ⟨r', hget, hsame⟩ := hkeeps quotedRecord ⟨by decide +kernel, 0, by decide +kernel, by decide +kernel⟩
  have hseeded : r' = quotedRecord.applyGamma gammaPrices 0 1 := Option.some.inj (hget.symm.trans (by decide +kernel))
  have hsource := hsame.source
  rw [hseeded] at hsource
  exact absurd hsource (by decide +kernel)

end Feed

end Polyfast
