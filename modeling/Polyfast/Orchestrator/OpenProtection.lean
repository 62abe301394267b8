import Polyfast.MarketData.SafeSync
import Polyfast.Orchestrator.SettingsMirror

/-!
# Open positions and the registry

The sync spares records that are flagged as having an open position. Nothing sets the flag: positions live in the
tracker, the records it is read from in the registry, and no step of the bot tells one of the other.

* `RegistryBot.Step`: orders, exits, settlement, starts and scans, in any order;
* `Step.unflagged`: no record is ever flagged;
* `open_protection_iff`: when the sync spares the events with an open position all the same.
-/

namespace Polyfast

/-- The tracker holds a filled position on the event that is not closed. -/
def PositionTracker.HoldsOpen (t : PositionTracker) (c : ConditionId) : Prop :=
  ∃ id p, t.positions.get? id = some p ∧ p.conditionId = c ∧ p.wasFilled = true ∧ p.state ≠ .closed

/-- `load_active`: the stored records that are neither closed nor expired. -/
def loadActive (rows : Lib.Table RegistryRecord.conditionId) : List RegistryRecord :=
  rows.records.filter (fun r => r.status ≠ .closed ∧ r.status ≠ .expired)

/-- The registry with the stored records put into it. -/
def EventRegistry.restore (g : EventRegistry) (rows : Lib.Table RegistryRecord.conditionId) : EventRegistry :=
  (loadActive rows).foldl EventRegistry.write g

/-- The bot with its registry. -/
structure RegistryBot where
  bot : Bot
  sync : SafeSync := {}
  /-- The `registry_records` table. -/
  rows : Lib.Table RegistryRecord.conditionId := .empty

namespace RegistryBot

variable (s : RegistryBot)

/-- The registry after a step of the bot: a start loads the stored records, in a new process into an empty one. -/
def syncAfter : Bot.Label → SafeSync
  | .startAgain _ _ _ => { s.sync with registry := s.sync.registry.restore s.rows }
  | .restart _ _ _ _ => { delistThreshold := s.sync.delistThreshold, registry := ({} : EventRegistry).restore s.rows
                          uuids := s.sync.uuids }
  | _ => s.sync

inductive Label
  | bot (l : Bot.Label)
  | scan (events : List DiscoveredEvent) (now : Time)

inductive Step : RegistryBot → Label → RegistryBot → Prop
  | bot (s : RegistryBot) (l : Bot.Label) (b : Bot) (h : Bot.Step s.bot l b) :
      Step s (.bot l) { s with bot := b, sync := s.syncAfter l }
  | scan (s : RegistryBot) (events : List DiscoveredEvent) (now : Time) (h : events ≠ []) :
      Step s (.scan events now) { s with sync := (s.sync.sync events now).1 }

/-- No record is flagged, stored ones included. -/
structure Unflagged (s : RegistryBot) : Prop where
  registry : ∀ c r, s.sync.registry.records.get? c = some r → r.hasOpenPosition = false
  rows : ∀ r ∈ s.rows.records, r.hasOpenPosition = false

/-- A scan makes no event inactive that the tracker holds a filled position on. -/
def Protects (x : Lib.Taken RegistryBot Label) : Prop :=
  ∀ events now, x.label = .scan events now → ∀ c, x.pre.bot.desk.trading.tracker.HoldsOpen c →
    ¬(x.pre.sync.status c ≠ some .inactive ∧ x.post.sync.status c = some .inactive)

/-- Every such event is among those of the scan, or its record has not been missed often enough yet, or is in a status
that inactive does not follow. -/
def InSight (s : RegistryBot) (l : Label) : Prop :=
  ∀ events now, l = .scan events now → ∀ c, s.bot.desk.trading.tracker.HoldsOpen c →
    c ∉ events.map DiscoveredEvent.conditionId → ∀ r, s.sync.registry.records.get? c = some r →
      r.canTransitionTo .inactive = true → s.sync.missCount c + 1 < s.sync.delistThreshold

variable {s} {s' : RegistryBot} {l : Label}

theorem restore_unflagged {rows : Lib.Table RegistryRecord.conditionId} {g : EventRegistry}
    (hg : ∀ c r, g.records.get? c = some r → r.hasOpenPosition = false)
    (hrows : ∀ r ∈ rows.records, r.hasOpenPosition = false) {c : ConditionId} {r : RegistryRecord}
    (hr : (g.restore rows).records.get? c = some r) : r.hasOpenPosition = false := by
  have hfold : ∀ (l : List RegistryRecord) (g : EventRegistry), (∀ x ∈ l, x.hasOpenPosition = false) →
      (∀ c r, g.records.get? c = some r → r.hasOpenPosition = false) →
      ∀ c r, (l.foldl EventRegistry.write g).records.get? c = some r → r.hasOpenPosition = false := by
    intro l
    induction l with
    | nil => exact fun g _ hg => hg
    | cons x l ih =>
      intro g hl hg
      refine ih _ (fun y hy => hl y (List.mem_cons_of_mem _ hy)) fun c r hr => ?_
      rw [EventRegistry.write, Lib.Table.get?_put] at hr
      split_ifs at hr
      · rw [← Option.some.inj hr]
        exact hl x List.mem_cons_self
      · exact hg c r hr
  exact hfold _ g (fun x hx => hrows x (List.mem_of_mem_filter hx)) hg c r hr

/-- **The flag is never set.** -/
theorem Step.unflagged (hs : s.Unflagged) (hst : Step s l s') : s'.Unflagged := by
  cases hst with
  | bot l b h =>
    refine ⟨fun c r hr => ?_, hs.rows⟩
    change (s.syncAfter l).registry.records.get? c = some r at hr
    cases l with
    | startAgain ps cs now => exact restore_unflagged hs.registry hs.rows hr
    | restart cfg ps cs now => exact restore_unflagged (fun c r h => by cases h) hs.rows hr
    | desk l => exact hs.registry c r hr
    | settings body => exact hs.registry c r hr
  | scan events now h => exact ⟨fun c r hr => SafeSync.sync_unflagged hs.registry hr, hs.rows⟩

theorem Step.protects_iff (hs : s.Unflagged) (hst : Step s l s') : Protects ⟨s, l, s'⟩ ↔ s.InSight l := by
  cases hst with
  | bot l b h =>
    refine iff_of_true ?_ ?_
    · intro events now hl
      cases hl
    · intro events now hl
      cases hl
  | scan events now hne =>
    constructor
    · rintro hp events' now' hl c hopen hc r hr hcan
      cases hl
      by_contra hmiss
      have hkey : r.conditionId = c := Lib.Table.key_of_get? hr
      have hrem : s.sync.Removes r := ⟨hs.registry c r hr, by rw [hkey]; exact Nat.le_of_not_lt hmiss, hcan⟩
      exact hp events now rfl c hopen ((SafeSync.sync_removes_iff events now c).mpr ⟨hc, r, hr, hrem⟩)
    · rintro hsight events' now' hl c hopen hmoved
      cases hl
      obtain ⟨hc, r, hr, -, hmiss, hcan⟩ := (SafeSync.sync_removes_iff events now c).mp hmoved
      have hkey : r.conditionId = c := Lib.Table.key_of_get? hr
      rw [hkey] at hmiss
      exact absurd (hsight events now rfl c hopen hc r hr hcan) (Nat.not_lt.mpr hmiss)

/-- **Protection of open positions** in a run iff every scan that misses such an event misses it too early. -/
theorem open_protection_iff {tr : List (Lib.Taken RegistryBot Label)} (hs : s.Unflagged)
    (hrun : Lib.Run Step s tr s') : (∀ x ∈ tr, Protects x) ↔ ∀ x ∈ tr, x.pre.InSight x.label :=
  hrun.forall_iff (fun _ _ _ ht hst => ⟨hst.protects_iff ht, fun _ => hst.unflagged ht⟩) hs

/-! ### A position on an event that scans no longer find -/

def heldEvent : DiscoveredEvent := firstEvent

def otherEvent : DiscoveredEvent := secondEvent

def heldPosition : PositionRecord :=
  { positionId := 1, asset := "BTC", side := .up, conditionId := "first", tokenId := "first-up"
    state := .openConfirmed, createdAt := 0, requestedAmountUsd := 5, fillPrice := 1 / 2, netPositionShares := 10
    openedAt := some 0 }

/-- A new process that has loaded the position. -/
def holding : RegistryBot :=
  { bot := { desk := { trading := (Bot.create {}).desk.trading.restart [heldPosition] [] 0 } } }

/-- The bot after a scan. -/
def scanned (s : RegistryBot) (e : DiscoveredEvent) : RegistryBot := { s with sync := (s.sync.sync [e] 0).1 }

/-- The event has been found once, and then missed twice. -/
def missedTwice : RegistryBot := ((holding.scanned heldEvent).scanned otherEvent).scanned otherEvent

theorem unflagged_of_empty (b : Bot) (n : ℕ) : Unflagged { bot := b, sync := { delistThreshold := n } } where
  registry := fun c r hr => by cases hr
  rows := fun r hr => by cases hr

theorem holding_started : Step { bot := Bot.create {} } (.bot (.restart {} [heldPosition] [] 0)) holding :=
  .bot _ _ _ (Bot.Step.restart (Bot.create {}) {} [heldPosition] [] 0)

theorem holds_first {c : ConditionId} (h : holding.bot.desk.trading.tracker.HoldsOpen c) : c = "first" := by
  obtain ⟨id, p, hp, rfl, -, -⟩ := h
  have hmem := Lib.Table.mem_records_of_get? hp
  have hrecords : holding.bot.desk.trading.tracker.positions.records = [heldPosition] := by decide +kernel
  rw [hrecords, List.mem_singleton] at hmem
  rw [hmem]
  rfl

/-- A position is restored, its event found, missed twice, and found again. -/
theorem open_protection_found : ∃ s tr, Lib.Run Step { bot := Bot.create {} } tr s ∧
    (s.sync.status "first" = some .discovered ∧ s.sync.missCount "first" = 0) ∧ ∀ x ∈ tr, Protects x := by
  have hmissed : Lib.Run Step { bot := Bot.create {} } _ missedTwice := (((Lib.Run.single holding_started).snoc
    (.scan holding [heldEvent] 0 (by simp))).snoc
    (.scan (holding.scanned heldEvent) [otherEvent] 0 (by simp))).snoc
    (.scan ((holding.scanned heldEvent).scanned otherEvent) [otherEvent] 0 (by simp))
  have hrun := hmissed.snoc (.scan missedTwice [heldEvent, otherEvent] 0 (by simp))
  refine ⟨_, _, hrun, by decide +kernel, (open_protection_iff (unflagged_of_empty _ 3) hrun).mpr ?_⟩
  simp only [List.forall_mem_append, List.forall_mem_singleton, InSight]
  refine ⟨⟨⟨⟨?_, ?_⟩, ?_⟩, ?_⟩, ?_⟩
  · rintro _ _ ⟨⟩
  · rintro _ _ ⟨⟩ c hopen hc
    obtain rfl := holds_first hopen
    exact absurd hc (by decide)
  · rintro _ _ ⟨⟩ c hopen - r - -
    obtain rfl := holds_first hopen
    decide +kernel
  · rintro _ _ ⟨⟩ c hopen - r - -
    obtain rfl := holds_first hopen
    decide +kernel
  · rintro _ _ ⟨⟩ c hopen hc
    obtain rfl := holds_first hopen
    exact absurd hc (by decide)

/-- **Not protected**: a position is restored, its event found and then missed three times in a row. -/
theorem held_event_removed :
    ∃ s tr, Unflagged { bot := Bot.create {} } ∧ Lib.Run Step { bot := Bot.create {} } tr s ∧
      ¬∀ x ∈ tr, Protects x := by
  have hfound := (Lib.Run.single holding_started).snoc (Step.scan holding [heldEvent] 0 (by simp))
  have hmissed := hfound.snoc (Step.scan (holding.scanned heldEvent) [otherEvent] 0 (by simp))
  have htwice := hmissed.snoc (Step.scan ((holding.scanned heldEvent).scanned otherEvent) [otherEvent] 0 (by simp))
  refine ⟨_, _, unflagged_of_empty _ 3, htwice.snoc (Step.scan missedTwice [otherEvent] 0 (by simp)), fun hall => ?_⟩
  have hlast := hall ⟨missedTwice, .scan [otherEvent] 0, missedTwice.scanned otherEvent⟩
    (List.mem_append_right _ (List.mem_singleton_self _))
  have hopen : missedTwice.bot.desk.trading.tracker.HoldsOpen "first" := ⟨1, heldPosition, rfl, rfl, rfl, by decide⟩
  exact hlast _ _ rfl "first" hopen ⟨by decide, by decide⟩

end RegistryBot

end Polyfast
