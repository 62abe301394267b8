import Polyfast.MarketData.PriceFeed
import Polyfast.Orchestrator.Dispatch

/-!
# How old the prices of a side are

Up and down tokens are quoted separately, but their record has one status and one time stamp: a quote of either
side makes the record fresh. An evaluation looks at the record's status only.

* `TurnStep`: the feed with evaluation turns;
* `fresh_written`: behind a fresh record one of the sides was written within the threshold;
* `TurnStep.entryFresh_iff`: when the entry of one turn is decided on prices written within the threshold;
* `entry_fresh`: so are all entries of a run iff at each of them the sides that the side mode reads are written within
  the threshold whenever one side of the record is.
-/

namespace Polyfast

/-- The sides whose prices decide about an entry. -/
def SideMode.reads : SideMode → List OrderSide
  | .dominantOnly => [.up, .down]
  | .upOnly => [.up]
  | .downOnly => [.down]

def OrderSide.other : OrderSide → OrderSide
  | .up => .down
  | .down => .up

namespace LivePricePipeline

variable {p : LivePricePipeline} {c : ConditionId} {asset : Asset} {now : Time} {r : LivePriceRecord}

theorem MarksOnly.refl (p : LivePricePipeline) (now : Time) : p.MarksOnly p now := fun _ => .inl rfl

/-- A lookup marks what it finds. -/
theorem marksOnly_put {u : LivePriceRecord} (hu : p.records.get? u.conditionId = some u) (now : Time) :
    p.MarksOnly { p with records := p.records.put (u.checkFreshness now) } now := by
  intro k
  by_cases hk : u.conditionId = k
  · refine .inr ?_
    subst hk
    rw [hu, Option.map_some]
    exact (Lib.Table.get?_put _ _ _).trans (if_pos (u.conditionId_checkFreshness now))
  · refine .inl ?_
    exact (Lib.Table.get?_put _ _ _).trans (if_neg fun heq => hk ((u.conditionId_checkFreshness now).symm.trans heq))

/-- What a lookup finds and leaves behind. -/
structure Looked (p : LivePricePipeline) (out : LivePricePipeline × Option LivePriceRecord) (now : Time) : Prop where
  marks : p.MarksOnly out.1 now
  found : ∀ r, out.2 = some r → ∃ u, p.records.get? u.conditionId = some u ∧ r = u.checkFreshness now

theorem getRecord_looked (p : LivePricePipeline) (c : ConditionId) (now : Time) : p.Looked (p.getRecord c now) now := by
  unfold getRecord
  cases hr : p.records.get? c with
  | none => exact ⟨.refl p now, fun r h => by cases h⟩
  | some u =>
    have hu : p.records.get? u.conditionId = some u := by rw [Lib.Table.key_of_get? hr, hr]
    refine ⟨marksOnly_put hu now, fun r h => ⟨u, hu, ?_⟩⟩
    exact (Option.some.inj h).symm

theorem getRecordByAsset_looked (p : LivePricePipeline) (asset : Asset) (now : Time) :
    p.Looked (p.getRecordByAsset asset now) now := by
  unfold getRecordByAsset
  cases hr : p.records.records.find? (fun r => r.asset.toUpper = asset.toUpper) with
  | none => exact ⟨.refl p now, fun r h => by cases h⟩
  | some u =>
    obtain ⟨hu, -⟩ := Lib.Table.find?_spec hr
    refine ⟨marksOnly_put hu now, fun r h => ⟨u, hu, ?_⟩⟩
    exact (Option.some.inj h).symm

end LivePricePipeline

namespace Feed

/-- A turn marks the record that it looks up. -/
def afterTurn (f : Feed) (l : EvaluationLoop) (s : CoinSettings) (t : PositionTracker) (k : TurnClock) : Feed :=
  { f with pipeline := (l.evaluateSingle s t k).1.pipeline, now := k.price }

inductive TurnLabel
  | feed (l : Label)
  | evaluate (l : EvaluationLoop) (s : CoinSettings) (t : PositionTracker) (k : TurnClock)

/-- The feed, and evaluations of it by a loop whose other stores are as they may be. -/
inductive TurnStep : Feed → TurnLabel → Feed → Prop
  | feed (f f' : Feed) (l : Label) (h : Step f l f') : TurnStep f (.feed l) f'
  | evaluate (f : Feed) (l : EvaluationLoop) (s : CoinSettings) (t : PositionTracker) (k : TurnClock)
      (hl : l.pipeline = f.pipeline) (hk : f.now ≤ k.price) :
      TurnStep f (.evaluate l s t k) (f.afterTurn l s t k)

/-- Bid and ask of the side were written within the stale threshold. -/
def WrittenWithin (f : Feed) (r : LivePriceRecord) (side : OrderSide) (now : Time) : Prop :=
  ∃ t, f.written r.conditionId side = some t ∧ now - t ≤ r.staleThresholdSec

/-- If the turn decides for an entry, the prices of its side were written within the threshold, and with the
dominant side those of the other side too. -/
def EntryFresh (x : Lib.Taken Feed TurnLabel) : Prop :=
  ∀ l s t k, x.label = .evaluate l s t k → (l.evaluateSingle s t k).2.decision = .entry →
    ∃ r, (l.priceRecord k s.coin).2 = some r ∧
      x.pre.WrittenWithin r (l.evaluateSingle s t k).2.dominantSide k.price ∧
      (s.sideMode = .dominantOnly →
        x.pre.WrittenWithin r (l.evaluateSingle s t k).2.dominantSide.other k.price)

/-- If the turn decides for an entry, and one side of the record in use was written within the threshold, so were the
sides that the side mode reads; with the price rule off, which does not look at the status either, there is a record and
they were in any case. -/
def SidesTogether (f : Feed) (label : TurnLabel) : Prop :=
  ∀ l s t k, label = .evaluate l s t k → (l.evaluateSingle s t k).2.decision = .entry →
    (s.priceMin ≤ 0 → (l.priceRecord k s.coin).2.isSome = true) ∧
      ∀ r, (l.priceRecord k s.coin).2 = some r → (0 < s.priceMin → ∃ side, f.WrittenWithin r side k.price) →
        ∀ side ∈ s.sideMode.reads, f.WrittenWithin r side k.price

variable {f f' : Feed} {label : TurnLabel} {l : EvaluationLoop} {s : CoinSettings} {t : PositionTracker} {k : TurnClock}

theorem priceRecord_looked (l : EvaluationLoop) (k : TurnClock) (asset : Asset) :
    l.pipeline.Looked (l.priceRecord k asset) k.price := by
  unfold EvaluationLoop.priceRecord
  dsimp only
  split_ifs with hcid
  · exact LivePricePipeline.getRecordByAsset_looked _ _ _
  · have hlooked := LivePricePipeline.getRecord_looked l.pipeline
      (l.registry.findCurrentSlotConditionId asset k.lookup) k.price
    split
    · rename_i p r heq
      rw [heq] at hlooked
      exact hlooked
    · rename_i p heq
      have hnone : p = l.pipeline := by
        unfold LivePricePipeline.getRecord at heq
        split at heq
        · exact (Prod.mk.inj heq).1.symm
        · cases heq
      rw [hnone]
      exact LivePricePipeline.getRecordByAsset_looked _ _ _

theorem TurnStep.tracked (hs : TurnStep f label f') (h : f.Tracked) : f'.Tracked := by
  cases hs with
  | feed _ _ hstep => exact hstep.tracked h
  | evaluate l s t k hl hk =>
    have hmarks := (priceRecord_looked l k s.coin).marks
    rw [hl] at hmarks
    exact fun c => ((h.mark hmarks) c).congr rfl rfl rfl

/-- **Behind a fresh record** one of the sides was written within the threshold. -/
theorem fresh_written (h : f.Tracked) {r : LivePriceRecord} {now : Time}
    (hfound : ∃ u, f.pipeline.records.get? u.conditionId = some u ∧ r = u.checkFreshness now)
    (hfresh : r.status = .fresh) : ∃ side, f.WrittenWithin r side now := by
  obtain ⟨u, hu, rfl⟩ := hfound
  obtain ⟨hstatus, hstale⟩ := LivePriceRecord.checkFreshness_fresh_iff.mp hfresh
  obtain ⟨t, ht⟩ := Option.isSome_iff_exists.mp ((h u.conditionId).updated u hu hstatus)
  obtain ⟨side, hside⟩ := (h u.conditionId).written u t hu ht
  refine ⟨side, t, ?_, ?_⟩
  · rw [u.conditionId_checkFreshness, hside]
  · rw [u.staleThresholdSec_checkFreshness]
    exact (LivePriceRecord.isStale_eq_false_iff ht).mp hstale

/-- An entry with the price rule on has found a fresh record. -/
theorem entry_found (hmin : 0 < s.priceMin) (hentry : (l.evaluateSingle s t k).2.decision = .entry) :
    ∃ r, (l.priceRecord k s.coin).2 = some r ∧ r.status = .fresh := by
  have hturn : (ruleEngineEvaluate (l.turnContext s t k)).decision = .entry := hentry
  have hpass := ((ruleEngineEvaluate_entry_iff (l.turnContext s t k)).mp hturn).1 priceRule
    (by simp [defaultRules]) (decide_eq_true hmin)
  have hfresh := ((priceRule_pass_iff (l.turnContext s t k)).mp hpass).1
  simp only [EvaluationLoop.turnContext, EvaluationLoop.context] at hfresh
  cases hr : (l.priceRecord k s.coin).2 with
  | none =>
    rw [hr] at hfresh
    exact absurd hfresh (by simp [EvaluationLoop.noPrices])
  | some r =>
    rw [hr] at hfresh
    exact ⟨r, rfl, of_decide_eq_true hfresh⟩

/-- A side mode reads the side of its entries and, to find the dominant one, the other side too. -/
theorem mem_reads_iff (side : OrderSide) : side ∈ s.sideMode.reads ↔
    side = (l.evaluateSingle s t k).2.dominantSide ∨
      s.sideMode = .dominantOnly ∧ side = (l.evaluateSingle s t k).2.dominantSide.other := by
  have hside : (l.evaluateSingle s t k).2.dominantSide = (l.turnContext s t k).evaluatedSide := rfl
  have hmode : (l.turnContext s t k).sideMode = s.sideMode := rfl
  rw [hside]
  unfold EvaluationContext.evaluatedSide
  rw [hmode]
  cases s.sideMode with
  | upOnly => simp [SideMode.reads]
  | downOnly => simp [SideMode.reads]
  | dominantOnly =>
    dsimp only
    split_ifs <;> cases side <;> simp [SideMode.reads, OrderSide.other]

/-- **One turn.** -/
theorem TurnStep.entryFresh_iff {x : Lib.Taken Feed TurnLabel} (hs : TurnStep x.pre x.label x.post)
    (h : x.pre.Tracked) : EntryFresh x ↔ x.pre.SidesTogether x.label := by
  constructor
  · intro hfresh l s t k hlabel hentry
    obtain ⟨r, hr, hside, hother⟩ := hfresh l s t k hlabel hentry
    refine ⟨fun _ => by rw [hr]; rfl, fun r' hr' _ side hread => ?_⟩
    obtain rfl := Option.some.inj (hr.symm.trans hr')
    rcases (mem_reads_iff (l := l) (t := t) (k := k) side).mp hread with rfl | ⟨hmode, rfl⟩
    · exact hside
    · exact hother hmode
  · intro hsides l s t k hlabel hentry
    obtain ⟨hrecord, htogether⟩ := hsides l s t k hlabel hentry
    have hpipeline : l.pipeline = x.pre.pipeline := by
      rw [hlabel] at hs
      generalize x.pre = f, x.post = f' at hs
      cases hs with
      | evaluate _ _ _ _ hl hk => exact hl
    have hfound : ∃ r, (l.priceRecord k s.coin).2 = some r ∧
        (0 < s.priceMin → ∃ side, x.pre.WrittenWithin r side k.price) := by
      rcases lt_or_ge 0 s.priceMin with hmin | hmin
      · obtain ⟨r, hr, hfresh⟩ := entry_found hmin hentry
        have hlooked := (priceRecord_looked l k s.coin).found r hr
        rw [hpipeline] at hlooked
        exact ⟨r, hr, fun _ => fresh_written h hlooked hfresh⟩
      · obtain ⟨r, hr⟩ := Option.isSome_iff_exists.mp (hrecord hmin)
        exact ⟨r, hr, fun hpos => absurd hmin (not_le.mpr hpos)⟩
    obtain ⟨r, hr, hone⟩ := hfound
    have hall := htogether r hr hone
    refine ⟨r, hr, hall _ ((mem_reads_iff _).mpr (.inl rfl)), fun hmode => ?_⟩
    exact hall _ ((mem_reads_iff _).mpr (.inr ⟨hmode, rfl⟩))

variable {tr : List (Lib.Taken Feed TurnLabel)}

/-- **Entries on fresh sides.** In a run from an empty pipeline every entry is decided on prices written within the
threshold iff, at every entry, the sides that the side mode reads were written within the threshold if one side of the
record was. -/
theorem entry_fresh (h : Fresh f) (hrun : Lib.Run TurnStep f tr f') :
    (∀ x ∈ tr, EntryFresh x) ↔ ∀ x ∈ tr, x.pre.SidesTogether x.label := by
  refine forall₂_congr fun x hx => ?_
  obtain ⟨hpre, -⟩ := (hrun.invariant (fun _ _ _ htracked hs => hs.tracked htracked) h.tracked).2 x hx
  exact (hrun.step_of_mem hx).entryFresh_iff hpre

/-- The loop with the prices of the feed. -/
def loop (f : Feed) : EvaluationLoop := { EvaluationLoop.btcLoop with pipeline := f.pipeline }

/-- Up and down are quoted in the same second. -/
def upQuoted : Feed := ({ now := 1700000200 } : Feed).ws "event" "BTC" "up" (70 / 100) (72 / 100)

def bothQuoted : Feed := upQuoted.ws "event" "BTC" "down" (28 / 100) (30 / 100)

/-- Key and threshold of the record that a turn finds. -/
theorem eq_of_found {r : LivePriceRecord} {p : ConditionId × ℚ} {o : Option LivePriceRecord}
    (ho : o.map (fun r => (r.conditionId, r.staleThresholdSec)) = some p) (hr : o = some r) :
    r.conditionId = p.1 ∧ r.staleThresholdSec = p.2 := by
  rw [hr, Option.map_some, Option.some.injEq] at ho
  exact ⟨congrArg Prod.fst ho, congrArg Prod.snd ho⟩

theorem entry_fresh_quoted :
    (bothQuoted.loop.evaluateSingle EvaluationLoop.btcSettings {} (.at 1700000200)).2.decision = .entry ∧
      EntryFresh ⟨bothQuoted, .evaluate bothQuoted.loop EvaluationLoop.btcSettings {} (.at 1700000200),
        bothQuoted.afterTurn bothQuoted.loop EvaluationLoop.btcSettings {} (.at 1700000200)⟩ := by
  have hup := Lib.Run.single (TurnStep.feed _ _ _
    (.ws { now := 1700000200 } "event" "BTC" "up" (70 / 100) (72 / 100)))
  have hboth := hup.snoc (.feed _ _ _ (.ws upQuoted "event" "BTC" "down" (28 / 100) (30 / 100)))
  have hrun := hboth.snoc (.evaluate bothQuoted bothQuoted.loop EvaluationLoop.btcSettings {} (.at 1700000200) rfl
    (by decide +kernel))
  refine ⟨by decide +kernel, (entry_fresh ⟨rfl, rfl⟩ hrun).mpr (fun x hx => ?_) _
    (List.mem_append_right _ List.mem_cons_self)⟩
  simp only [List.cons_append, List.nil_append, List.mem_cons, List.not_mem_nil, or_false] at hx
  rcases hx with rfl | rfl | rfl
  · intro l s t k hl
    cases hl
  · intro l s t k hl
    cases hl
  · intro l s t k hl _
    cases hl
    refine ⟨fun hoff => absurd hoff (by decide), fun r hr _ side _ => ⟨1700000200, ?_, ?_⟩⟩
    · rw [(eq_of_found (p := ("event", 30)) (by decide +kernel) hr).1]
      cases side <;> decide +kernel
    · rw [(eq_of_found (p := ("event", 30)) (by decide +kernel) hr).2]
      decide +kernel

/-- The down token was quoted a minute after the up token. -/
def downLater : Feed :=
  { ({ now := 1700000140 } : Feed).ws "event" "BTC" "up" (70 / 100) (72 / 100) with now := 1700000200 }.ws
    "event" "BTC" "down" (28 / 100) (30 / 100)

/-- The quote of the down token makes the record fresh, and the entry is decided on the old quote of the up token. -/
theorem one_side_refreshes : EvaluationLoop.btcSettings.isTradeEligible = true ∧
    Fresh { now := 1700000140 } ∧ ∃ f tr, Lib.Run TurnStep { now := 1700000140 } tr f ∧ ¬∀ x ∈ tr, EntryFresh x := by
  have hup := Lib.Run.single (TurnStep.feed _ _ _
    (.ws { now := 1700000140 } "event" "BTC" "up" (70 / 100) (72 / 100)))
  have hlater := hup.snoc (.feed _ _ _ (.advance _ 1700000200 (by decide +kernel)))
  have hboth := hlater.snoc (.feed _ _ _ (.ws _ "event" "BTC" "down" (28 / 100) (30 / 100)))
  have hrun := hboth.snoc (.evaluate downLater downLater.loop EvaluationLoop.btcSettings {} (.at 1700000200) rfl
    (by decide +kernel))
  refine ⟨by decide +kernel, ⟨rfl, rfl⟩, _, _, hrun, fun hall => ?_⟩
  obtain ⟨r, hr, ⟨time, hwritten, hage⟩, -⟩ := hall _ (List.mem_append_right _ List.mem_cons_self) _ _ _ _ rfl
    (by decide +kernel)
  obtain ⟨hkey, hthreshold⟩ := eq_of_found (p := ("event", 30)) (by decide +kernel) hr
  have hup : (downLater.loop.evaluateSingle EvaluationLoop.btcSettings {} (.at 1700000200)).2.dominantSide = .up := by
    decide +kernel
  have hold : downLater.written "event" .up = some 1700000140 := by decide +kernel
  rw [hkey, hup] at hwritten
  obtain rfl := Option.some.inj (hold.symm.trans hwritten)
  rw [hthreshold] at hage
  exact absurd hage (by decide +kernel)

end Feed

end Polyfast
