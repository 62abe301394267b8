import Polyfast.Persistence.Records

/-!
# The five stores

Each store writes a record by a list of columns and a list of values in their order, and reads a row by the
names of its columns. The tables are those of the migrations. What a store raises while it loads it answers
with the empty list.

* `positions`, `claims`, `coinSettings`, `registryRecords`, `ptbCache`: tables, writers and readers;
* `PositionStore.loadAll`, `loadNonTerminal`, `ClaimStore.loadAll`, `loadPending`, `SettingsStoreDB.loadAll`,
  `RegistryStore.loadAll`, `loadActive`, `PTBStore.loadLocked`: the loads.
-/

namespace Polyfast.Persistence

open Lib.Sql (Value Row Schema Mapper)

/-- The default of `updated_at` is the time of the database, which no INSERT of the stores leaves to it. -/
def atInsert : Value := .null

/-! ### Positions -/

inductive PositionColumn
  | positionId | asset | side | conditionId | tokenId | state | createdAt
  | requestedAmountUsd | fillPrice | grossFillShares | entryFeeShares | netPositionShares | feeRate | openedAt
  | exitFillPrice | exitGrossUsdc | actualExitFeeUsdc | netExitUsdc | netRealizedPnl
  | closeReason | closeTriggerSet | closeTriggeredAt | closeRequestedPrice | closedAt | updatedAt
  deriving DecidableEq

/-- `CREATE TABLE positions`. -/
def positionsTable : Schema PositionColumn where
  columns := [.positionId, .asset, .side, .conditionId, .tokenId, .state, .createdAt,
    .requestedAmountUsd, .fillPrice, .grossFillShares, .entryFeeShares, .netPositionShares, .feeRate, .openedAt,
    .exitFillPrice, .exitGrossUsdc, .actualExitFeeUsdc, .netExitUsdc, .netRealizedPnl,
    .closeReason, .closeTriggerSet, .closeTriggeredAt, .closeRequestedPrice, .closedAt, .updatedAt]
  primaryKey := .positionId
  notNull
    | .positionId | .openedAt | .closeReason | .closeTriggeredAt | .closedAt => false
    | _ => true
  default
    | .state => .text "pending_open"
    | .requestedAmountUsd | .fillPrice | .grossFillShares | .entryFeeShares | .netPositionShares | .feeRate
    | .exitFillPrice | .exitGrossUsdc | .actualExitFeeUsdc | .netExitUsdc | .netRealizedPnl
    | .closeRequestedPrice => .real 0
    | .closeTriggerSet => .text "[]"
    | .updatedAt => atInsert
    | _ => .null

/-- `PositionStore.save` and `_row_to_record`. -/
def positions (f : Formats) : Mapper PositionColumn PositionRecord where
  schema := positionsTable
  columns := [.positionId, .asset, .side, .conditionId, .tokenId, .state, .createdAt,
    .requestedAmountUsd, .fillPrice, .grossFillShares, .entryFeeShares,
    .netPositionShares, .feeRate, .openedAt,
    .exitFillPrice, .exitGrossUsdc, .actualExitFeeUsdc, .netExitUsdc,
    .netRealizedPnl, .closeReason, .closeTriggerSet, .closeTriggeredAt,
    .closeRequestedPrice, .closedAt, .updatedAt]
  values pos now := [
    .text pos.positionId, .text pos.asset, .text pos.side, .text pos.conditionId, .text pos.tokenId,
    .text pos.state.value, .text (f.isoformat pos.createdAt),
    .real pos.requestedAmountUsd, .real pos.fillPrice, .real pos.grossFillShares,
    .real pos.entryFeeShares, .real pos.netPositionShares, .real pos.feeRate,
    f.time pos.openedAt,
    .real pos.exitFillPrice, .real pos.exitGrossUsdc, .real pos.actualExitFeeUsdc,
    .real pos.netExitUsdc, .real pos.netRealizedPnl,
    ofEnum? pos.closeReason,
    .text (f.dumps pos.closeTriggerSet),
    f.time pos.closeTriggeredAt,
    .real pos.closeRequestedPrice,
    f.time pos.closedAt,
    .text now]
  read row := do
    return {
      positionId := ← asText (row .positionId)
      asset := ← asText (row .asset)
      side := ← asText (row .side)
      conditionId := ← asText (row .conditionId)
      tokenId := ← asText (row .tokenId)
      state := ← asEnum PositionState (row .state)
      createdAt := ← f.asTime (row .createdAt)
      requestedAmountUsd := ← asFloat (row .requestedAmountUsd)
      fillPrice := ← asFloat (row .fillPrice)
      grossFillShares := ← asFloat (row .grossFillShares)
      entryFeeShares := ← asFloat (row .entryFeeShares)
      netPositionShares := ← asFloat (row .netPositionShares)
      feeRate := ← asFloat (row .feeRate)
      openedAt := ← f.asTime? (row .openedAt)
      exitFillPrice := ← asFloat (row .exitFillPrice)
      exitGrossUsdc := ← asFloat (row .exitGrossUsdc)
      actualExitFeeUsdc := ← asFloat (row .actualExitFeeUsdc)
      netExitUsdc := ← asFloat (row .netExitUsdc)
      netRealizedPnl := ← asFloat (row .netRealizedPnl)
      closeReason := asEnum? CloseReason (row .closeReason)
      closeTriggerSet := f.asList (row .closeTriggerSet)
      closeTriggeredAt := ← f.asTime? (row .closeTriggeredAt)
      closeRequestedPrice := ← asFloat (row .closeRequestedPrice)
      closedAt := ← f.asTime? (row .closedAt) }

/-- `SELECT * FROM positions ORDER BY created_at`. -/
def PositionStore.loadAll (f : Formats) (rows : List (Row PositionColumn)) : List PositionRecord :=
  ((positions f).fetch (fun _ => true) (fun r r' => (r .createdAt).le (r' .createdAt)) rows).getD []

/-- `SELECT * FROM positions WHERE state NOT IN ('closed') ORDER BY created_at`. -/
def PositionStore.loadNonTerminal (f : Formats) (rows : List (Row PositionColumn)) : List PositionRecord :=
  ((positions f).fetch (fun r => (r .state).notIn ["closed"]) (fun r r' => (r .createdAt).le (r' .createdAt))
    rows).getD []

/-! ### Claims -/

inductive ClaimColumn
  | claimId | conditionId | positionId | asset | side | claimStatus | outcome | claimedAmountUsdc | claimedAt
  | retryCount | lastError | createdAt | updatedAt
  deriving DecidableEq

/-- `CREATE TABLE claims`. -/
def claimsTable : Schema ClaimColumn where
  columns := [.claimId, .conditionId, .positionId, .asset, .side, .claimStatus, .outcome, .claimedAmountUsdc,
    .claimedAt, .retryCount, .lastError, .createdAt, .updatedAt]
  primaryKey := .claimId
  notNull
    | .claimId | .claimedAt => false
    | _ => true
  default
    | .side | .lastError => .text ""
    | .claimStatus | .outcome => .text "pending"
    | .claimedAmountUsdc => .real 0
    | .retryCount => .integer 0
    | .updatedAt => atInsert
    | _ => .null

/-- `ClaimStore.save` and `_row_to_record`. -/
def claims (f : Formats) : Mapper ClaimColumn ClaimRecord where
  schema := claimsTable
  columns := [.claimId, .conditionId, .positionId, .asset, .side,
    .claimStatus, .outcome, .claimedAmountUsdc, .claimedAt,
    .retryCount, .lastError, .createdAt, .updatedAt]
  values claim now := [
    .text claim.claimId, .text claim.conditionId, .text claim.positionId,
    .text claim.asset, .text claim.side,
    .text claim.claimStatus.value, .text claim.outcome.value,
    .real claim.claimedAmountUsdc,
    f.time claim.claimedAt,
    .integer claim.retryCount, .text claim.lastError,
    .text (f.isoformat claim.createdAt),
    .text now]
  read row := do
    return {
      claimId := ← asText (row .claimId)
      conditionId := ← asText (row .conditionId)
      positionId := ← asText (row .positionId)
      asset := ← asText (row .asset)
      side := ← asText (row .side)
      claimStatus := ← asEnum ClaimStatus (row .claimStatus)
      outcome := ← asEnum ClaimOutcome (row .outcome)
      claimedAmountUsdc := ← asFloat (row .claimedAmountUsdc)
      claimedAt := ← f.asTime? (row .claimedAt)
      retryCount := ← asInt (row .retryCount)
      lastError := ← asText (row .lastError)
      createdAt := ← f.asTime (row .createdAt) }

/-- `SELECT * FROM claims ORDER BY created_at`. -/
def ClaimStore.loadAll (f : Formats) (rows : List (Row ClaimColumn)) : List ClaimRecord :=
  ((claims f).fetch (fun _ => true) (fun r r' => (r .createdAt).le (r' .createdAt)) rows).getD []

/-- `SELECT * FROM claims WHERE claim_status = 'pending' ORDER BY created_at`. -/
def ClaimStore.loadPending (f : Formats) (rows : List (Row ClaimColumn)) : List ClaimRecord :=
  ((claims f).fetch (fun r => (r .claimStatus).isText "pending") (fun r r' => (r .createdAt).le (r' .createdAt))
    rows).getD []

/-! ### Coin settings -/

inductive SettingsColumn
  | coin | coinEnabled | sideMode | deltaThreshold | priceMin | priceMax | spreadMax | timeMin | timeMax
  | eventMax | orderAmount | reactivateOnReturn | updatedAt
  deriving DecidableEq

/-- `CREATE TABLE coin_settings`. -/
def coinSettingsTable : Schema SettingsColumn where
  columns := [.coin, .coinEnabled, .sideMode, .deltaThreshold, .priceMin, .priceMax, .spreadMax, .timeMin,
    .timeMax, .eventMax, .orderAmount, .reactivateOnReturn, .updatedAt]
  primaryKey := .coin
  notNull
    | .coin => false
    | _ => true
  default
    | .coinEnabled | .reactivateOnReturn => .integer 0
    | .sideMode => .text "dominant_only"
    | .deltaThreshold => .real 50
    | .priceMin => .integer 51
    | .priceMax => .integer 85
    | .spreadMax => .real 3
    | .timeMin => .integer 30
    | .timeMax => .integer 270
    | .eventMax => .integer 1
    | .orderAmount => .real 5
    | .updatedAt => atInsert
    | _ => .null

/-- `SettingsStoreDB.save` and `_row_to_settings`. -/
def coinSettings : Mapper SettingsColumn CoinSettings where
  schema := coinSettingsTable
  columns := [.coin, .coinEnabled, .sideMode, .deltaThreshold,
    .priceMin, .priceMax, .spreadMax, .timeMin, .timeMax,
    .eventMax, .orderAmount, .reactivateOnReturn, .updatedAt]
  values settings now := [
    .text settings.coin, ofBool settings.coinEnabled,
    .text settings.sideMode.value, .real settings.deltaThreshold,
    .integer settings.priceMin, .integer settings.priceMax, .real settings.spreadMax,
    .integer settings.timeMin, .integer settings.timeMax, .integer settings.eventMax,
    .real settings.orderAmount, ofBool settings.reactivateOnReturn,
    .text now]
  read row := do
    return {
      coin := ← asText (row .coin)
      coinEnabled := truthy (row .coinEnabled)
      sideMode := ← asEnum SideMode (row .sideMode)
      deltaThreshold := ← asFloat (row .deltaThreshold)
      priceMin := ← asInt (row .priceMin)
      priceMax := ← asInt (row .priceMax)
      spreadMax := ← asFloat (row .spreadMax)
      timeMin := ← asInt (row .timeMin)
      timeMax := ← asInt (row .timeMax)
      eventMax := ← asInt (row .eventMax)
      orderAmount := ← asFloat (row .orderAmount)
      reactivateOnReturn := truthy (row .reactivateOnReturn) }

/-- `SELECT * FROM coin_settings ORDER BY coin`. -/
def SettingsStoreDB.loadAll (rows : List (Row SettingsColumn)) : List CoinSettings :=
  (coinSettings.fetch (fun _ => true) (fun r r' => (r .coin).le (r' .coin)) rows).getD []

/-! ### Registry records -/

inductive RegistryColumn
  | conditionId | eventId | asset | question | slug | status | firstSeenAt | lastSeenAt | statusChangedAt
  | endDate | hasOpenPosition | updatedAt
  deriving DecidableEq

/-- `CREATE TABLE registry_records`. -/
def registryTable : Schema RegistryColumn where
  columns := [.conditionId, .eventId, .asset, .question, .slug, .status, .firstSeenAt, .lastSeenAt,
    .statusChangedAt, .endDate, .hasOpenPosition, .updatedAt]
  primaryKey := .conditionId
  notNull
    | .conditionId | .endDate => false
    | _ => true
  default
    | .question | .slug => .text ""
    | .status => .text "discovered"
    | .hasOpenPosition => .integer 0
    | .updatedAt => atInsert
    | _ => .null

/-- `RegistryStore.save` and `_row_to_record`. -/
def registryRecords (f : Formats) : Mapper RegistryColumn RegistryRecord where
  schema := registryTable
  columns := [.conditionId, .eventId, .asset, .question, .slug, .status,
    .firstSeenAt, .lastSeenAt, .statusChangedAt,
    .endDate, .hasOpenPosition, .updatedAt]
  values record now := [
    .text record.conditionId, .text record.eventId, .text record.asset,
    .text record.question, .text record.slug, .text record.status.value,
    .text (f.isoformat record.firstSeenAt),
    .text (f.isoformat record.lastSeenAt),
    .text (f.isoformat record.statusChangedAt),
    f.time record.endDate,
    ofBool record.hasOpenPosition,
    .text now]
  read row := do
    return {
      eventId := ← asText (row .eventId)
      conditionId := ← asText (row .conditionId)
      asset := ← asText (row .asset)
      question := ← asText (row .question)
      slug := ← asText (row .slug)
      status := ← asEnum EventStatus (row .status)
      firstSeenAt := ← f.asTime (row .firstSeenAt)
      lastSeenAt := ← f.asTime (row .lastSeenAt)
      statusChangedAt := ← f.asTime (row .statusChangedAt)
      endDate := ← f.asTime? (row .endDate)
      hasOpenPosition := truthy (row .hasOpenPosition) }

/-- `SELECT * FROM registry_records ORDER BY first_seen_at`. -/
def RegistryStore.loadAll (f : Formats) (rows : List (Row RegistryColumn)) : List RegistryRecord :=
  ((registryRecords f).fetch (fun _ => true) (fun r r' => (r .firstSeenAt).le (r' .firstSeenAt)) rows).getD []

/-- `SELECT * FROM registry_records WHERE status NOT IN ('closed', 'expired')`. -/
def RegistryStore.loadActive (f : Formats) (rows : List (Row RegistryColumn)) : List RegistryRecord :=
  ((registryRecords f).fetch (fun r => (r .status).notIn ["closed", "expired"]) (fun _ _ => true) rows).getD []

/-! ### Prices to beat -/

inductive PTBColumn
  | conditionId | asset | ptbValue | status | sourceName | acquiredAt | retryCount | lastError | updatedAt
  deriving DecidableEq

/-- `CREATE TABLE ptb_cache`. -/
def ptbTable : Schema PTBColumn where
  columns := [.conditionId, .asset, .ptbValue, .status, .sourceName, .acquiredAt, .retryCount, .lastError,
    .updatedAt]
  primaryKey := .conditionId
  notNull
    | .conditionId | .ptbValue | .acquiredAt => false
    | _ => true
  default
    | .status => .text "waiting"
    | .sourceName | .lastError => .text ""
    | .retryCount => .integer 0
    | .updatedAt => atInsert
    | _ => .null

/-- `PTBStore.save` and `_row_to_record`. -/
def ptbCache (f : Formats) : Mapper PTBColumn PTBRecord where
  schema := ptbTable
  columns := [.conditionId, .asset, .ptbValue, .status, .sourceName,
    .acquiredAt, .retryCount, .lastError, .updatedAt]
  values record now := [
    .text record.conditionId, .text record.asset,
    ofFloat? record.ptbValue,
    .text record.status.value, .text record.sourceName,
    f.time record.acquiredAt,
    .integer record.retryCount, .text record.lastError,
    .text now]
  read row := do
    let ptbValue ← asFloat? (row .ptbValue)
    let acquiredAt ← f.asTime? (row .acquiredAt)
    return {
      conditionId := ← asText (row .conditionId)
      asset := ← asText (row .asset)
      status := ← asEnum PTBStatus (row .status)
      sourceName := ← asText (row .sourceName)
      retryCount := ← asInt (row .retryCount)
      lastError := ← asText (row .lastError)
      ptbValue := ptbValue
      acquiredAt := acquiredAt }

/-- `SELECT * FROM ptb_cache WHERE status = 'acquired'`. -/
def PTBStore.loadLocked (f : Formats) (rows : List (Row PTBColumn)) : List PTBRecord :=
  ((ptbCache f).fetch (fun r => (r .status).isText "acquired") (fun _ _ => true) rows).getD []

end Polyfast.Persistence
