import Polyfast.Persistence.PositionStore
import Polyfast.Persistence.Stores

/-!
# What the stores give back

Every column gets the value of the field it is read into, so each store is faithful, and each of its loads
gives under every key the record saved last, where the load is for such a record.

* `positionRow`, `claimRow`, `settingsRow`, `registryRow`, `ptbRow`: the row of a record by its columns;
* `positions_faithful` and the like: the statement writes that row, and it reads as the record;
* `stores_round_trip`: the round trip of all stores;
* `loadAll_stored`: the table does what the store of whole records does.
-/

namespace Polyfast.Persistence

open Lib.Sql (Value Row Mapper)

variable {f : Formats}

/-! ### Positions -/

/-- The formats read back what is written of a position. -/
structure Formats.ReadsPosition (f : Formats) (p : PositionRecord) : Prop where
  createdAt : f.ReadsTime p.createdAt
  openedAt : ∀ t ∈ p.openedAt, f.ReadsTime t
  closeTriggerSet : f.ReadsList p.closeTriggerSet
  closeTriggeredAt : ∀ t ∈ p.closeTriggeredAt, f.ReadsTime t
  closedAt : ∀ t ∈ p.closedAt, f.ReadsTime t

/-- The row of a position. -/
def positionRow (f : Formats) (p : PositionRecord) (now : String) : Row PositionColumn
  | .positionId => .text p.positionId
  | .asset => .text p.asset
  | .side => .text p.side
  | .conditionId => .text p.conditionId
  | .tokenId => .text p.tokenId
  | .state => .text p.state.value
  | .createdAt => .text (f.isoformat p.createdAt)
  | .requestedAmountUsd => .real p.requestedAmountUsd
  | .fillPrice => .real p.fillPrice
  | .grossFillShares => .real p.grossFillShares
  | .entryFeeShares => .real p.entryFeeShares
  | .netPositionShares => .real p.netPositionShares
  | .feeRate => .real p.feeRate
  | .openedAt => f.time p.openedAt
  | .exitFillPrice => .real p.exitFillPrice
  | .exitGrossUsdc => .real p.exitGrossUsdc
  | .actualExitFeeUsdc => .real p.actualExitFeeUsdc
  | .netExitUsdc => .real p.netExitUsdc
  | .netRealizedPnl => .real p.netRealizedPnl
  | .closeReason => ofEnum? p.closeReason
  | .closeTriggerSet => .text (f.dumps p.closeTriggerSet)
  | .closeTriggeredAt => f.time p.closeTriggeredAt
  | .closeRequestedPrice => .real p.closeRequestedPrice
  | .closedAt => f.time p.closedAt
  | .updatedAt => .text now

theorem positions_faithful :
    (positions f).Faithful (positionRow f) PositionRecord.positionId f.ReadsPosition where
  accepted p now := by
    refine Lib.Sql.Schema.newRow_eq rfl (fun c => by cases c <;> rfl) ?_
    intro c _ hc hnull
    cases c <;> first | (cases hc; done) | cases hnull
  read p now hp := by
    have hread : (positions f).read (positionRow f p now) = (do
        let state ← asEnum PositionState (.text (Enum.value p.state))
        let createdAt ← f.asTime (.text (f.isoformat p.createdAt))
        let openedAt ← f.asTime? (f.time p.openedAt)
        let closeTriggeredAt ← f.asTime? (f.time p.closeTriggeredAt)
        let closedAt ← f.asTime? (f.time p.closedAt)
        return { p with
          state := state
          createdAt := createdAt
          openedAt := openedAt
          closeReason := asEnum? CloseReason (ofEnum? p.closeReason)
          closeTriggerSet := f.asList (.text (f.dumps p.closeTriggerSet))
          closeTriggeredAt := closeTriggeredAt
          closedAt := closedAt }) := rfl
    rw [hread, asEnum_text, f.asTime_text hp.createdAt, f.asTime?_time hp.openedAt,
      f.asTime?_time hp.closeTriggeredAt, f.asTime?_time hp.closedAt, asEnum?_ofEnum?,
      f.asList_text hp.closeTriggerSet]
    rfl
  key _ _ := rfl

/-! ### Claims -/

/-- The formats read back what is written of a claim. -/
structure Formats.ReadsClaim (f : Formats) (r : ClaimRecord) : Prop where
  claimedAt : ∀ t ∈ r.claimedAt, f.ReadsTime t
  createdAt : f.ReadsTime r.createdAt

/-- The row of a claim. -/
def claimRow (f : Formats) (r : ClaimRecord) (now : String) : Row ClaimColumn
  | .claimId => .text r.claimId
  | .conditionId => .text r.conditionId
  | .positionId => .text r.positionId
  | .asset => .text r.asset
  | .side => .text r.side
  | .claimStatus => .text r.claimStatus.value
  | .outcome => .text r.outcome.value
  | .claimedAmountUsdc => .real r.claimedAmountUsdc
  | .claimedAt => f.time r.claimedAt
  | .retryCount => .integer r.retryCount
  | .lastError => .text r.lastError
  | .createdAt => .text (f.isoformat r.createdAt)
  | .updatedAt => .text now

theorem claims_faithful : (claims f).Faithful (claimRow f) ClaimRecord.claimId f.ReadsClaim where
  accepted r now := by
    refine Lib.Sql.Schema.newRow_eq rfl (fun c => by cases c <;> rfl) ?_
    intro c _ hc hnull
    cases c <;> first | (cases hc; done) | cases hnull
  read r now hr := by
    have hread : (claims f).read (claimRow f r now) = (do
        let claimStatus ← asEnum ClaimStatus (.text (Enum.value r.claimStatus))
        let outcome ← asEnum ClaimOutcome (.text (Enum.value r.outcome))
        let claimedAt ← f.asTime? (f.time r.claimedAt)
        let createdAt ← f.asTime (.text (f.isoformat r.createdAt))
        return { r with
          claimStatus := claimStatus
          outcome := outcome
          claimedAt := claimedAt
          createdAt := createdAt }) := rfl
    rw [hread, asEnum_text, asEnum_text, f.asTime?_time hr.claimedAt, f.asTime_text hr.createdAt]
    rfl
  key _ _ := rfl

/-! ### Coin settings -/

/-- The row of the settings of a coin. -/
def settingsRow (s : CoinSettings) (now : String) : Row SettingsColumn
  | .coin => .text s.coin
  | .coinEnabled => ofBool s.coinEnabled
  | .sideMode => .text s.sideMode.value
  | .deltaThreshold => .real s.deltaThreshold
  | .priceMin => .integer s.priceMin
  | .priceMax => .integer s.priceMax
  | .spreadMax => .real s.spreadMax
  | .timeMin => .integer s.timeMin
  | .timeMax => .integer s.timeMax
  | .eventMax => .integer s.eventMax
  | .orderAmount => .real s.orderAmount
  | .reactivateOnReturn => ofBool s.reactivateOnReturn
  | .updatedAt => .text now

theorem coinSettings_faithful : coinSettings.Faithful settingsRow CoinSettings.coin fun _ => True where
  accepted s now := by
    refine Lib.Sql.Schema.newRow_eq rfl (fun c => by cases c <;> rfl) ?_
    intro c _ hc hnull
    cases c <;> first | (cases hc; done) | cases hnull
  read s now _ := by
    have hread : coinSettings.read (settingsRow s now) = (do
        let sideMode ← asEnum SideMode (.text (Enum.value s.sideMode))
        return { s with
          coinEnabled := truthy (ofBool s.coinEnabled)
          sideMode := sideMode
          reactivateOnReturn := truthy (ofBool s.reactivateOnReturn) }) := rfl
    rw [hread, asEnum_text, truthy_ofBool, truthy_ofBool]
    rfl
  key _ _ := rfl

/-! ### Registry records -/

/-- The formats read back what is written of a registry record. -/
structure Formats.ReadsRegistry (f : Formats) (r : RegistryRecord) : Prop where
  firstSeenAt : f.ReadsTime r.firstSeenAt
  lastSeenAt : f.ReadsTime r.lastSeenAt
  statusChangedAt : f.ReadsTime r.statusChangedAt
  endDate : ∀ t ∈ r.endDate, f.ReadsTime t

/-- The row of a registry record. -/
def registryRow (f : Formats) (r : RegistryRecord) (now : String) : Row RegistryColumn
  | .conditionId => .text r.conditionId
  | .eventId => .text r.eventId
  | .asset => .text r.asset
  | .question => .text r.question
  | .slug => .text r.slug
  | .status => .text r.status.value
  | .firstSeenAt => .text (f.isoformat r.firstSeenAt)
  | .lastSeenAt => .text (f.isoformat r.lastSeenAt)
  | .statusChangedAt => .text (f.isoformat r.statusChangedAt)
  | .endDate => f.time r.endDate
  | .hasOpenPosition => ofBool r.hasOpenPosition
  | .updatedAt => .text now

theorem registryRecords_faithful :
    (registryRecords f).Faithful (registryRow f) RegistryRecord.conditionId f.ReadsRegistry where
  accepted r now := by
    refine Lib.Sql.Schema.newRow_eq rfl (fun c => by cases c <;> rfl) ?_
    intro c _ hc hnull
    cases c <;> first | (cases hc; done) | cases hnull
  read r now hr := by
    have hread : (registryRecords f).read (registryRow f r now) = (do
        let status ← asEnum EventStatus (.text (Enum.value r.status))
        let firstSeenAt ← f.asTime (.text (f.isoformat r.firstSeenAt))
        let lastSeenAt ← f.asTime (.text (f.isoformat r.lastSeenAt))
        let statusChangedAt ← f.asTime (.text (f.isoformat r.statusChangedAt))
        let endDate ← f.asTime? (f.time r.endDate)
        return { r with
          status := status
          firstSeenAt := firstSeenAt
          lastSeenAt := lastSeenAt
          statusChangedAt := statusChangedAt
          endDate := endDate
          hasOpenPosition := truthy (ofBool r.hasOpenPosition) }) := rfl
    rw [hread, asEnum_text, f.asTime_text hr.firstSeenAt, f.asTime_text hr.lastSeenAt,
      f.asTime_text hr.statusChangedAt, f.asTime?_time hr.endDate, truthy_ofBool]
    rfl
  key _ _ := rfl

/-! ### Prices to beat -/

/-- The formats read back what is written of a price to beat. -/
def Formats.ReadsPTB (f : Formats) (r : PTBRecord) : Prop := ∀ t ∈ r.acquiredAt, f.ReadsTime t

/-- The row of a price to beat. -/
def ptbRow (f : Formats) (r : PTBRecord) (now : String) : Row PTBColumn
  | .conditionId => .text r.conditionId
  | .asset => .text r.asset
  | .ptbValue => ofFloat? r.ptbValue
  | .status => .text r.status.value
  | .sourceName => .text r.sourceName
  | .acquiredAt => f.time r.acquiredAt
  | .retryCount => .integer r.retryCount
  | .lastError => .text r.lastError
  | .updatedAt => .text now

theorem ptbCache_faithful : (ptbCache f).Faithful (ptbRow f) PTBRecord.conditionId f.ReadsPTB where
  accepted r now := by
    refine Lib.Sql.Schema.newRow_eq rfl (fun c => by cases c <;> rfl) ?_
    intro c _ hc hnull
    cases c <;> first | (cases hc; done) | cases hnull
  read r now hr := by
    have hread : (ptbCache f).read (ptbRow f r now) = (do
        let ptbValue ← asFloat? (ofFloat? r.ptbValue)
        let acquiredAt ← f.asTime? (f.time r.acquiredAt)
        let status ← asEnum PTBStatus (.text (Enum.value r.status))
        return { r with
          ptbValue := ptbValue
          acquiredAt := acquiredAt
          status := status }) := rfl
    rw [hread, asFloat?_ofFloat?, f.asTime?_time hr, asEnum_text]
    rfl
  key _ _ := rfl

/-! ### All stores -/

/-- **Round trip.** After any sequence of saves, each load of a store gives under every key the record saved
last under it, equal in every field, and one only; `load_non_terminal`, `load_pending`, `load_active` and
`load_locked` give it where it has the status they ask for. -/
theorem stores_round_trip (f : Formats) :
    (positions f).RoundTrips PositionRecord.positionId f.ReadsPosition (fun _ => true) (PositionStore.loadAll f) ∧
    (positions f).RoundTrips PositionRecord.positionId f.ReadsPosition (fun p => p.state ≠ .closed)
      (PositionStore.loadNonTerminal f) ∧
    (claims f).RoundTrips ClaimRecord.claimId f.ReadsClaim (fun _ => true) (ClaimStore.loadAll f) ∧
    (claims f).RoundTrips ClaimRecord.claimId f.ReadsClaim (fun r => r.claimStatus = .pending)
      (ClaimStore.loadPending f) ∧
    coinSettings.RoundTrips CoinSettings.coin (fun _ => True) (fun _ => true) SettingsStoreDB.loadAll ∧
    (registryRecords f).RoundTrips RegistryRecord.conditionId f.ReadsRegistry (fun _ => true)
      (RegistryStore.loadAll f) ∧
    (registryRecords f).RoundTrips RegistryRecord.conditionId f.ReadsRegistry
      (fun r => r.status ≠ .closed ∧ r.status ≠ .expired) (RegistryStore.loadActive f) ∧
    (ptbCache f).RoundTrips PTBRecord.conditionId f.ReadsPTB (fun r => r.status = .acquired)
      (PTBStore.loadLocked f) := by
  refine ⟨positions_faithful.roundTrips (fun _ _ => rfl) _, positions_faithful.roundTrips ?_ _,
    claims_faithful.roundTrips (fun _ _ => rfl) _, claims_faithful.roundTrips ?_ _,
    coinSettings_faithful.roundTrips (fun _ _ => rfl) _, registryRecords_faithful.roundTrips (fun _ _ => rfl) _,
    registryRecords_faithful.roundTrips ?_ _, ptbCache_faithful.roundTrips ?_ _⟩
  · intro p now
    change (Value.text p.state.value).notIn ["closed"] = _
    cases p.state <;> decide
  · intro r now
    change (Value.text r.claimStatus.value).isText "pending" = _
    cases r.claimStatus <;> decide
  · intro r now
    change (Value.text r.status.value).notIn ["closed", "expired"] = _
    cases r.status <;> decide
  · intro r now
    change (Value.text r.status.value).isText "acquired" = _
    cases r.status <;> decide

/-- The formats at one date and the empty list. -/
def epochFormats : Formats where
  isoformat _ := "1970-01-01T00:00:00+00:00"
  fromisoformat s := if s = "1970-01-01T00:00:00+00:00" then some 0 else none
  dumps _ := "[]"
  loads s := if s = "[]" then some [] else none
  fromisoformat_empty := by decide
  loads_empty := by decide

/-- A position that waits for its fill. -/
def waiting : PositionRecord where
  positionId := "p"
  asset := "BTC"
  side := "UP"
  conditionId := "c"
  tokenId := "t"
  createdAt := 0

/-- The position with its fill, and sold. -/
def filled : PositionRecord :=
  { waiting with
    state := .openConfirmed
    fillPrice := 1 / 2
    openedAt := some 0 }

def sold : PositionRecord :=
  { filled with
    state := .closed
    closeReason := some .takeProfit
    closedAt := some 0 }

/-- A claim that waits for its redeem, and paid. -/
def pendingClaim : ClaimRecord where
  claimId := "k"
  conditionId := "c"
  positionId := "p"
  asset := "BTC"
  createdAt := 0

def paidClaim : ClaimRecord :=
  { pendingClaim with
    claimStatus := .success
    outcome := .redeemedWon
    claimedAmountUsdc := 5
    claimedAt := some 0 }

/-- An event that is active, and closed. -/
def activeEvent : RegistryRecord where
  eventId := "e"
  conditionId := "c"
  asset := "BTC"
  question := "Bitcoin Up or Down"
  slug := "btc-updown-5m-0"
  status := .active
  firstSeenAt := 0
  lastSeenAt := 0
  statusChangedAt := 0
  endDate := some 0

def closedEvent : RegistryRecord := { activeEvent with status := .closed }

/-- A price to beat that is not known yet, and locked. -/
def waitingPTB : PTBRecord where
  conditionId := "c"
  asset := "BTC"

def lockedPTB : PTBRecord :=
  { waitingPTB with
    ptbValue := some 67250
    status := .acquired
    acquiredAt := some 0 }

/-- What is saved twice is loaded as it was saved last, in every store. -/
theorem stores_round_trip_twice :
    (∃ rows, (positions epochFormats).saveAll [(waiting, "now"), (filled, "later")] = some rows ∧
      (PositionStore.loadAll epochFormats rows).filter (·.positionId = "p") = [filled]) ∧
    (∃ rows, (positions epochFormats).saveAll [(filled, "now"), (sold, "later")] = some rows ∧
      (PositionStore.loadNonTerminal epochFormats rows).filter (·.positionId = "p") = []) ∧
    (∃ rows, (claims epochFormats).saveAll [(pendingClaim, "now"), (paidClaim, "later")] = some rows ∧
      (ClaimStore.loadAll epochFormats rows).filter (·.claimId = "k") = [paidClaim]) ∧
    (∃ rows, (claims epochFormats).saveAll [(pendingClaim, "now"), (paidClaim, "later")] = some rows ∧
      (ClaimStore.loadPending epochFormats rows).filter (·.claimId = "k") = []) ∧
    (∃ rows, coinSettings.saveAll [({ coin := "BTC" }, "now"), ({ coin := "BTC", orderAmount := 5 }, "later")] =
      some rows ∧ (SettingsStoreDB.loadAll rows).filter (·.coin = "BTC") = [{ coin := "BTC", orderAmount := 5 }]) ∧
    (∃ rows, (registryRecords epochFormats).saveAll [(activeEvent, "now"), (closedEvent, "later")] = some rows ∧
      (RegistryStore.loadAll epochFormats rows).filter (·.conditionId = "c") = [closedEvent]) ∧
    (∃ rows, (registryRecords epochFormats).saveAll [(activeEvent, "now"), (closedEvent, "later")] = some rows ∧
      (RegistryStore.loadActive epochFormats rows).filter (·.conditionId = "c") = []) ∧
    ∃ rows, (ptbCache epochFormats).saveAll [(waitingPTB, "now"), (lockedPTB, "later")] = some rows ∧
      (PTBStore.loadLocked epochFormats rows).filter (·.conditionId = "c") = [lockedPTB] := by
  have hwaiting : epochFormats.ReadsPosition waiting := by
    constructor <;> simp [waiting, Formats.ReadsTime, Formats.ReadsList, epochFormats]
  have hfilled : epochFormats.ReadsPosition filled := by
    constructor <;> simp [filled, waiting, Formats.ReadsTime, Formats.ReadsList, epochFormats]
  have hsold : epochFormats.ReadsPosition sold := by
    constructor <;> simp [sold, filled, waiting, Formats.ReadsTime, Formats.ReadsList, epochFormats]
  have hpending : epochFormats.ReadsClaim pendingClaim := by
    constructor <;> simp [pendingClaim, Formats.ReadsTime, epochFormats]
  have hpaid : epochFormats.ReadsClaim paidClaim := by
    constructor <;> simp [paidClaim, pendingClaim, Formats.ReadsTime, epochFormats]
  have hactive : epochFormats.ReadsRegistry activeEvent := by
    constructor <;> simp [activeEvent, Formats.ReadsTime, epochFormats]
  have hclosed : epochFormats.ReadsRegistry closedEvent := by
    constructor <;> simp [closedEvent, activeEvent, Formats.ReadsTime, epochFormats]
  have hunknown : epochFormats.ReadsPTB waitingPTB := fun _ ht => by cases ht
  have hlocked : epochFormats.ReadsPTB lockedPTB := by
    simp [waitingPTB, lockedPTB, Formats.ReadsPTB, Formats.ReadsTime, epochFormats]
  obtain ⟨hpositions, hopen, hclaims, hpendings, hsettings, hregistry, hactives, hptbs⟩ :=
    stores_round_trip epochFormats
  exact ⟨hpositions.twice hwaiting hfilled _ _, hopen.twice hfilled hsold _ _, hclaims.twice hpending hpaid _ _,
    hpendings.twice hpending hpaid _ _, hsettings.twice trivial trivial _ _, hregistry.twice hactive hclosed _ _,
    hactives.twice hactive hclosed _ _, hptbs.twice hunknown hlocked _ _⟩

/-! ### The store of whole records -/

section Tracker

variable {name : PositionId → String}

theorem records_saveAll (hname : Function.Injective name) (es : List (Polyfast.PositionRecord × String)) :
    ∀ (st : Polyfast.PositionStore) (records : List PositionRecord),
      (st.rows.records.map (PositionRecord.stored name)).Perm records →
      ((st.saveAll (es.map Prod.fst) fun _ => true).rows.records.map (PositionRecord.stored name)).Perm
        ((es.map fun e => PositionRecord.stored name e.1).foldl (Mapper.put PositionRecord.positionId) records) := by
  induction es with
  | nil => exact fun st records h => h
  | cons e es ih =>
    intro st records h
    refine ih (st.save e.1 true).1 _ ?_
    have hput := (Mapper.records_put st.rows e.1).map (PositionRecord.stored name)
    rw [Mapper.map_put (j := PositionRecord.positionId) fun p q => hname.eq_iff] at hput
    exact hput.trans (Mapper.put_perm h _)

/-- **The table refines the store of whole records**: after the same saves both load the same positions. -/
theorem loadAll_stored (hname : Function.Injective name) (es : List (Polyfast.PositionRecord × String))
    (hes : ∀ e ∈ es, f.ReadsPosition (.stored name e.1)) :
    ∃ rows, (positions f).saveAll (es.map fun e => (PositionRecord.stored name e.1, e.2)) = some rows ∧
      (PositionStore.loadAll f rows).Perm
        ((({} : Polyfast.PositionStore).saveAll (es.map Prod.fst) fun _ => true).loadAll true |>.map
          (PositionRecord.stored name)) := by
  have hok : ∀ e ∈ es.map fun e => (PositionRecord.stored name e.1, e.2), f.ReadsPosition e.1 := by
    intro e he
    obtain ⟨x, hx, rfl⟩ := List.mem_map.mp he
    exact hes x hx
  obtain ⟨rows, hsaves, hr⟩ := positions_faithful.saves _ hok [] [] .nil
  obtain ⟨loaded, hload, hperm⟩ := positions_faithful.fetch (fun _ => true) (fun _ => true) (fun _ _ => rfl)
    (fun r r' => (r .createdAt).le (r' .createdAt)) hr
  refine ⟨rows, hsaves, ?_⟩
  have hrecords := records_saveAll hname es {} [] (List.Perm.refl _)
  rw [PositionStore.loadAll, hload, Option.getD_some]
  rw [List.map_map] at hperm
  rw [Polyfast.PositionStore.loadAll, if_pos rfl]
  refine (hperm.trans ?_).trans ((List.mergeSort_perm _ _).map _).symm
  rw [List.filter_true]
  exact hrecords.symm

end Tracker

end Polyfast.Persistence
