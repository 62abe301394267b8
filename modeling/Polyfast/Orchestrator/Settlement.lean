import Polyfast.Execution.Trading

/-!
# Settlement

`processSettlements` first retries what is due (`processRetries`), then scans the closed positions whose
token is still in hand (`scanPositions`): a resolved one gets a claim and a redeem call, and a retry entry
if that fails. In paper mode the redeem is booked by the claim manager, in live mode the relayer is
asked.

* `processSettlements_preserves`: what every turn of the two loops preserves, a whole call preserves;
* `SettleRule`: the same from the five things a turn is made of;
* `processSettlements_frame`: positions, orders and exits are left alone.
-/

namespace Polyfast

/-- A closed position is up for settlement. -/
def PositionRecord.isRedeemable (p : PositionRecord) : Bool :=
  p.isClosed && p.closedAt.isSome && p.needsRedeem

namespace Trading

variable (w : World) (s : Trading)

/-- `_is_settled`: some claim of the position succeeded. -/
def isSettled (id : PositionId) : Bool :=
  (s.claims.getClaimsByPosition id).any ClaimRecord.isSuccess

/-- `_check_resolved`. -/
def checkResolved (conditionId : ConditionId) : Trading × Bool :=
  if s.settlement.hasClob then
    let r := (s.instant w).resolution
    let s := s.answered (.resolution conditionId r.resolved)
    if r.resolved then
      ({ s with settlement := { s.settlement with
          winnerCache := s.settlement.winnerCache.set conditionId r.winningSide } }, true)
    else (s, false)
  else (s, s.settlement.paperMode)

/-- `_get_ptb_value`. -/
def getPtbValue (conditionId : ConditionId) : Option ℚ :=
  if !s.settlement.hasPtbFetcher then none
  else ((s.instant w).ptbFetcher.getRecord conditionId).bind PTBRecord.ptbValue

/-- `_get_coin_usd`. -/
def getCoinUsd (asset : Asset) : ℚ :=
  if !s.settlement.hasCoinPrice then 0
  else (s.instant w).coinPrice.getUsdPrice asset (s.instant w).now

/-- The winner by the coin against its price to beat, else by the PnL. -/
def winnerByPrices (p : PositionRecord) : Bool × ResolutionMethod :=
  let coin := s.getCoinUsd w p.asset
  match s.getPtbValue w p.conditionId with
  | some ptb =>
    if ptb > 0 ∧ coin > 0 then
      (decide (p.side = if coin > ptb then .up else .down), .paperHeuristic)
    else (decide (p.netRealizedPnl > 0), .pnlFallback)
  | none => (decide (p.netRealizedPnl > 0), .pnlFallback)

/-- `_determine_winner`: the cached winner comes first. -/
def determineWinner (p : PositionRecord) : Bool × ResolutionMethod :=
  match s.settlement.winnerCache.get? p.conditionId with
  | some winner =>
    if winner ≠ "" then (decide (p.side.value = winner), .api) else s.winnerByPrices w p
  | none => s.winnerByPrices w p

/-- `_execute_redeem_for_claim`. -/
def executeRedeemForClaim (p : PositionRecord) (claimId : ClaimId) : Call Trading Bool :=
  if s.settlement.paperMode then
    let (won, method) := s.determineWinner w p
    let payout := if won then p.netPositionShares else 0
    let (claims, balance, success) := s.claims.executeRedeem s.balance claimId won
      (Lib.roundTo 4 payout) (s.instant w).now
    let s := { s with
      claims := claims, balance := balance
      settlement := { s.settlement with
        lastResolutionMethod := method
        settlementCount := if success then s.settlement.settlementCount + 1
          else s.settlement.settlementCount } }
    .returns (s.answered (.redeem p.positionId p.conditionId success)) success
  else
    match (s.instant w).redeem with
    | .error e => .raises (s.answered (.redeem p.positionId p.conditionId false)) e
    | .ok r =>
      let s := s.answered (.redeem p.positionId p.conditionId r.success.truthy)
      if r.success.truthy then
        match r.payoutUsdc.gtZero with
        | .error e => .raises s e
        | .ok won =>
          let payout := match r.payoutUsdc.number with
            | .ok q => q
            | .error _ => 0
          -- what `execute_redeem` answers is not looked at
          let (claims, balance, _) := s.claims.executeRedeem s.balance claimId won payout
            (s.instant w).now
          .returns { s with
            claims := claims, balance := balance
            settlement := { s.settlement with
              settlementCount := s.settlement.settlementCount + 1 } } true
      else
        match s.claims.claims.get? claimId with
        | none => .returns s false
        | some c => .returns { s with claims := s.claims.write { c with lastError := r.error } } false

/-- The retry entry, changed in place. -/
def writeRetry (r : SettlementRetryState) : Trading :=
  { s with settlement := { s.settlement with retryStates := s.settlement.retryStates.put r } }

/-- The retry entry is dropped. -/
def dropRetry (id : PositionId) : Trading :=
  { s with settlement := { s.settlement with retryStates := s.settlement.retryStates.erase id } }

/-- `_retry_settle`. -/
def retrySettle (p : PositionRecord) (state : SettlementRetryState) : Call Trading Bool :=
  match s.claims.claims.get? state.claimId with
  | none => .returns (s.writeRetry { state with exhausted := true }) false
  | some c =>
    if c.isSuccess then .returns s true
    else
      let call := s.executeRedeemForClaim w p state.claimId
      match call.result with
      | .error e => .raises call.state e
      | .ok true => .returns call.state true
      | .ok false => .returns (call.state.writeRetry (state.scheduleNext (call.state.instant w).now)) false

/-- One turn of the loop of `_process_retries`: was the position settled, and is its entry to go? -/
def retryOne (id : PositionId) : Call Trading (Bool × Bool) :=
  match s.settlement.retryStates.get? id with
  | none => .returns s (false, false)
  | some state =>
    if state.exhausted then .returns s (false, true)
    else if !state.isReady (s.instant w).now then .returns s (false, false)
    else match s.tracker.positions.get? id with
      | none => .returns s (false, true)
      | some p =>
        let call := s.retrySettle w p state
        match call.result with
        | .error e => .raises call.state e
        | .ok success => .returns call.state (success, success)

/-- The loop of `_process_retries`: how many were settled, and which entries are to go. -/
def retryLoop (s : Trading) : List PositionId → Call Trading (ℕ × List PositionId)
  | [] => .returns s (0, [])
  | id :: ids =>
    let call := s.retryOne w id
    match call.result with
    | .error e => .raises call.state e
    | .ok (settled, gone) =>
      let rest := call.state.retryLoop ids
      match rest.result with
      | .error e => .raises rest.state e
      | .ok (n, ids') =>
        .returns rest.state (settled.toNat + n, if gone then id :: ids' else ids')

/-- `_process_retries`: the loop, then the entries that are done or exhausted are dropped. -/
def processRetries : Call Trading ℕ :=
  let loop := s.retryLoop w s.settlement.retryStates.keys
  match loop.result with
  | .error e => .raises loop.state e
  | .ok (settled, gone) => .returns (gone.foldl dropRetry loop.state) settled

/-- `create_claim` for a position, with the next identifier. -/
def createClaim (p : PositionRecord) (now : Time) : Trading :=
  { s with claims := s.claims.createClaim (ClaimManager.newClaim s.uuids p now), uuids := s.uuids + 1 }

/-- `_settle_position`: a claim, a redeem call, and a retry entry if it fails. -/
def settlePosition (p : PositionRecord) : Call Trading Bool :=
  let claimId := s.uuids
  let call := (s.createClaim p (s.instant w).now).executeRedeemForClaim w p claimId
  match call.result with
  | .error e => .raises call.state e
  | .ok true => .returns call.state true
  | .ok false =>
    let state : SettlementRetryState := { positionId := p.positionId, claimId := claimId }
    .returns (call.state.writeRetry (state.scheduleNext (call.state.instant w).now)) false

/-- One turn of the scan of closed positions. -/
def scanOne (p : PositionRecord) : Call Trading Bool :=
  if (s.settlement.retryStates.get? p.positionId).isSome then .returns s false
  else if s.isSettled p.positionId then .returns s false
  else
    let (s, redeemable) := s.checkResolved w p.conditionId
    if redeemable then s.settlePosition w p else .returns s false

/-- The scan of closed positions. -/
def scanPositions (ps : List PositionRecord) : Call Trading ℕ :=
  Call.countLoop (fun t p => t.scanOne w p) s ps

/-- `process_settlements`. -/
def processSettlements : Call Trading ℕ :=
  let retries := s.processRetries w
  match retries.result with
  | .error e => .raises retries.state e
  | .ok n =>
    let scan := retries.state.scanPositions w
      (retries.state.tracker.positions.records.filter PositionRecord.isRedeemable)
    match scan.result with
    | .error e => .raises scan.state e
    | .ok m => .returns scan.state (n + m)

/-! ### A new claim -/

section NewClaim

variable {s}

theorem claims_createClaim (p : PositionRecord) (now : Time) :
    (s.createClaim p now).claims.claims = s.claims.claims.put (ClaimManager.newClaim s.uuids p now) :=
  ClaimManager.claims_createClaim _ _

theorem get?_createClaim (p : PositionRecord) (now : Time) (k : ClaimId) :
    (s.createClaim p now).claims.claims.get? k =
      if s.uuids = k then some (ClaimManager.newClaim s.uuids p now) else s.claims.claims.get? k := by
  rw [claims_createClaim, Lib.Table.get?_put]
  rfl

theorem get?_createClaim_self (p : PositionRecord) (now : Time) :
    (s.createClaim p now).claims.claims.get? s.uuids = some (ClaimManager.newClaim s.uuids p now) := by
  rw [get?_createClaim, if_pos rfl]

theorem paperMode_createClaim (p : PositionRecord) (now : Time) :
    (s.createClaim p now).claims.paperMode = s.claims.paperMode :=
  ClaimManager.paperMode_persist _ _

end NewClaim

/-! ### What the turns preserve, a call preserves -/

section Preserve

variable {w s} {I : Trading → Prop}

theorem retryLoop_preserves (hretry : ∀ s id, I s → I (s.retryOne w id).state)
    (ids : List PositionId) : ∀ s, I s → I (s.retryLoop w ids).state := by
  induction ids with
  | nil => exact fun s h => h
  | cons id ids ih =>
    intro s h
    have h₁ := hretry s id h
    unfold retryLoop
    dsimp only
    split
    · exact h₁
    · have h₂ := ih _ h₁
      split
      · exact h₂
      · exact h₂

theorem foldl_dropRetry_preserves (hdrop : ∀ s id, I s → I (s.dropRetry id)) (ids : List PositionId) :
    ∀ s, I s → I (ids.foldl dropRetry s) := by
  induction ids with
  | nil => exact fun s h => h
  | cons id ids ih => exact fun s h => ih _ (hdrop s id h)

/-- The drops follow the loop of the retries. -/
theorem processRetries_preserves (hloop : I (s.retryLoop w s.settlement.retryStates.keys).state)
    (hdrops : ∀ n gone, (s.retryLoop w s.settlement.retryStates.keys).result = .ok (n, gone) →
      I (gone.foldl dropRetry (s.retryLoop w s.settlement.retryStates.keys).state)) :
    I (s.processRetries w).state := by
  unfold processRetries
  dsimp only
  cases hres : (s.retryLoop w s.settlement.retryStates.keys).result with
  | error e => exact hloop
  | ok out => exact hdrops out.1 out.2 hres

/-- The scan follows the retries. -/
theorem processSettlements_scans (hretries : I (s.processRetries w).state)
    (hscan : ∀ t, ∀ p ∈ (s.processRetries w).state.tracker.positions.records.filter PositionRecord.isRedeemable,
      I t → I (t.scanOne w p).state) : I (s.processSettlements w).state := by
  unfold processSettlements
  dsimp only
  split
  · exact hretries
  · have hpositions := Call.countLoop_preserves _ hscan _ hretries
    split
    · exact hpositions
    · exact hpositions

/-- **What every turn of the two loops preserves, a call of `process_settlements` preserves.** -/
theorem processSettlements_preserves (hretry : ∀ s id, I s → I (s.retryOne w id).state)
    (hdrop : ∀ s id, I s → I (s.dropRetry id)) (hscan : ∀ s p, I s → I (s.scanOne w p).state)
    (h : I s) : I (s.processSettlements w).state := by
  have hloop := retryLoop_preserves hretry s.settlement.retryStates.keys s h
  have hretries : I (s.processRetries w).state :=
    processRetries_preserves hloop fun n gone _ => foldl_dropRetry_preserves hdrop gone _ hloop
  exact processSettlements_scans hretries fun t p _ ht => hscan t p ht

/-- The five things the turns are made of. -/
structure SettleRule (w : World) (I : Trading → Prop) : Prop where
  resolution : ∀ s c, I s → I (s.checkResolved w c).1
  claim : ∀ s p now, I s → I (s.createClaim p now)
  redeem : ∀ s p id, I s → I (s.executeRedeemForClaim w p id).state
  retry : ∀ s r, I s → I (s.writeRetry r)
  drop : ∀ s id, I s → I (s.dropRetry id)

theorem SettleRule.retryOne (hI : SettleRule w I) (s : Trading) (id : PositionId) (h : I s) :
    I (s.retryOne w id).state := by
  unfold Trading.retryOne
  split
  · exact h
  · split_ifs
    · exact h
    · exact h
    · split
      · exact h
      · have hsettle : ∀ p state, I (s.retrySettle w p state).state := by
          intro p state
          have hcall := hI.redeem s p state.claimId h
          unfold retrySettle
          split
          · exact hI.retry s _ h
          · split_ifs
            · exact h
            · dsimp only
              split
              · exact hcall
              · exact hcall
              · exact hI.retry _ _ hcall
        dsimp only
        split
        · exact hsettle _ _
        · exact hsettle _ _

theorem SettleRule.scanOne (hI : SettleRule w I) (s : Trading) (p : PositionRecord) (h : I s) :
    I (s.scanOne w p).state := by
  unfold Trading.scanOne
  split_ifs
  · exact h
  · exact h
  · have hres := hI.resolution s p.conditionId h
    dsimp only
    split_ifs
    · have hcall := hI.redeem _ p (s.checkResolved w p.conditionId).1.uuids
        (hI.claim _ p ((s.checkResolved w p.conditionId).1.instant w).now hres)
      unfold settlePosition
      dsimp only
      split
      · exact hcall
      · exact hcall
      · exact hI.retry _ _ hcall
    · exact hres

theorem SettleRule.processSettlements (hI : SettleRule w I) (h : I s) :
    I (s.processSettlements w).state :=
  processSettlements_preserves hI.retryOne hI.drop hI.scanOne h

end Preserve

/-- What settlement leaves alone. -/
structure SettleFrame (s s' : Trading) : Prop where
  tracker : s'.tracker = s.tracker
  executor : s'.executor = s.executor
  evaluator : s'.evaluator = s.evaluator
  exitExecutor : s'.exitExecutor = s.exitExecutor
  uuids : s.uuids ≤ s'.uuids

theorem executeRedeemForClaim_frame (w : World) (s : Trading) (p : PositionRecord) (id : ClaimId) :
    SettleFrame s (s.executeRedeemForClaim w p id).state := by
  unfold executeRedeemForClaim
  split_ifs with hpaper
  · exact ⟨rfl, rfl, rfl, rfl, le_rfl⟩
  · split
    · exact ⟨rfl, rfl, rfl, rfl, le_rfl⟩
    · dsimp only
      split_ifs
      · split <;> exact ⟨rfl, rfl, rfl, rfl, le_rfl⟩
      · split <;> exact ⟨rfl, rfl, rfl, rfl, le_rfl⟩

theorem createClaim_frame (s : Trading) (p : PositionRecord) (now : Time) :
    SettleFrame s (s.createClaim p now) := ⟨rfl, rfl, rfl, rfl, Nat.le_succ _⟩

theorem SettleFrame.trans {s t u : Trading} (h : SettleFrame s t) (h' : SettleFrame t u) :
    SettleFrame s u :=
  ⟨h'.tracker.trans h.tracker, h'.executor.trans h.executor, h'.evaluator.trans h.evaluator,
    h'.exitExecutor.trans h.exitExecutor, h.uuids.trans h'.uuids⟩

theorem checkResolved_frame (w : World) (s : Trading) (c : ConditionId) :
    SettleFrame s (s.checkResolved w c).1 := by
  unfold checkResolved
  split_ifs with hclob
  · dsimp only
    split_ifs <;> exact ⟨rfl, rfl, rfl, rfl, le_rfl⟩
  · exact ⟨rfl, rfl, rfl, rfl, le_rfl⟩

theorem settleFrame_rule (w : World) (s : Trading) : SettleRule w (SettleFrame s) where
  resolution t c h := h.trans (checkResolved_frame w t c)
  claim t p now h := h.trans (createClaim_frame t p now)
  redeem t p id h := h.trans (executeRedeemForClaim_frame w t p id)
  retry _ _ h := h.trans ⟨rfl, rfl, rfl, rfl, le_rfl⟩
  drop _ _ h := h.trans ⟨rfl, rfl, rfl, rfl, le_rfl⟩

/-- **Settlement leaves positions, orders and exits alone.** -/
theorem processSettlements_frame (w : World) (s : Trading) :
    SettleFrame s (s.processSettlements w).state :=
  (settleFrame_rule w s).processSettlements ⟨rfl, rfl, rfl, rfl, le_rfl⟩

end Trading

end Polyfast
