import Polyfast.Execution.OrderValidator
import Polyfast.Execution.ExitEvaluator
import Polyfast.Execution.ClaimManager
import Polyfast.MarketData.LivePrice

/-!
# The execution layer as one state

`Trading` holds the objects that wiring creates for orders, exits and settlement; they share the
tracker and the balance. Calls that leave the program are answered by a `World`: its `n`-th `Instant` is
what can be observed after `n` answered calls, so the clock moves only at awaits. `trace` lists the
answered calls and `uuids` counts the identifiers drawn (`uuid4` never repeats one: the `n`-th is `n`).
-/

namespace Polyfast

/-- Reply of `send_market_fok_order`; absent entries have the defaults the code reads. -/
structure OrderReply where
  status : String := "error"
  orderId : String := ""
  feeRateBps : PyValue := .num 0
  makingAmount : PyValue := .num 0
  takingAmount : PyValue := .num 0
  error : String := ""

namespace OrderReply

variable (r : OrderReply)

/-- The fee rate of the reply, the default where it reports none. -/
def feeRate : Except PyError ℚ :=
  match r.feeRateBps.number with
  | .error e => .error e
  | .ok bps => .ok (if bps > 0 then bps / 10000 else defaultCryptoFeeRate)

/-- Making and taking amount, if both are positive; the second is read only if the first is. -/
def amounts : Except PyError (Option (ℚ × ℚ)) :=
  match r.makingAmount.number with
  | .error e => .error e
  | .ok making =>
    if making > 0 then
      match r.takingAmount.number with
      | .error e => .error e
      | .ok taking => .ok (if taking > 0 then some (making, taking) else none)
    else .ok none

variable {r}

/-- Amounts that are used are positive. -/
theorem amounts_pos {making taking : ℚ} (h : r.amounts = .ok (some (making, taking))) :
    0 < making ∧ 0 < taking := by
  unfold amounts at h
  cases hm : r.makingAmount.number with
  | error e => simp [hm] at h
  | ok m =>
    rw [hm] at h
    dsimp only at h
    by_cases hpos : m > 0
    · rw [if_pos hpos] at h
      cases ht : r.takingAmount.number with
      | error e => simp [ht] at h
      | ok t =>
        rw [ht] at h
        by_cases hpos' : t > 0
        · simp only [if_pos hpos', Except.ok.injEq, Option.some.injEq, Prod.mk.injEq] at h
          obtain ⟨rfl, rfl⟩ := h
          exact ⟨hpos, hpos'⟩
        · simp [hpos'] at h
    · simp [hpos] at h

end OrderReply

/-- The code can compute with the answer: it is no fill, or its fee and its amounts are numbers. -/
def Readable (reply : Option OrderReply) : Prop :=
  ∀ r, reply = some r → r.status = "matched" → (∃ rate, r.feeRate = .ok rate) ∧ ∃ a, r.amounts = .ok a

theorem readable_none : Readable none := by
  intro r hr
  cases hr

theorem readable_matched : Readable (some { status := "matched" }) := by
  rintro _ ⟨⟩ -
  exact ⟨⟨_, rfl⟩, _, rfl⟩

/-- Reply of `get_market_resolution`. -/
structure MarketResolution where
  closed : Bool := false
  resolved : Bool := false
  winningSide : String := ""

/-- Reply of the relayer's `redeem_positions`. -/
structure RedeemReply where
  success : PyValue
  payoutUsdc : PyValue := .num 0
  error : String := "unknown"

/-- What can be observed between two answered calls. -/
structure Instant where
  now : Time
  resolution : MarketResolution := {}
  redeem : Except PyError RedeemReply := .error .external
  sell : Except PyError (Option OrderReply) := .ok none
  fetch : FetchReply := .none
  ptbFetcher : PTBFetcher := {}
  coinPrice : CoinPriceClient := {}

/-- The `n`-th instant follows the `n`-th answered call. -/
abbrev World := ℕ → Instant

/-- A call that left the program, with the outcome it reported. -/
inductive ExternalCall
  | resolution (conditionId : ConditionId) (resolved : Bool)
  | redeem (positionId : PositionId) (conditionId : ConditionId) (success : Bool)
  | sell (positionId : PositionId)
  | fetch
  deriving DecidableEq

/-- A redeem call for the position. -/
def ExternalCall.redeems : ExternalCall → PositionId → Bool
  | redeem p _ _, id => p = id
  | _, _ => false

/-- No redeem call at all. -/
def NoRedeem (calls : List ExternalCall) : Prop := ∀ b ∈ calls, ∀ id, b.redeems id = false

theorem NoRedeem.append {l₁ l₂ : List ExternalCall} (h₁ : NoRedeem l₁) (h₂ : NoRedeem l₂) :
    NoRedeem (l₁ ++ l₂) := by
  intro b hb
  rcases List.mem_append.mp hb with hb | hb
  · exact h₁ b hb
  · exact h₂ b hb

/-- The calls that were added redeem nothing. -/
def AsksOnly (before after : List ExternalCall) : Prop :=
  ∃ calls, NoRedeem calls ∧ after = before ++ calls

theorem AsksOnly.refl (l : List ExternalCall) : AsksOnly l l :=
  ⟨[], by simp [NoRedeem], (List.append_nil l).symm⟩

theorem AsksOnly.trans {l₁ l₂ l₃ : List ExternalCall} (h : AsksOnly l₁ l₂) (h' : AsksOnly l₂ l₃) :
    AsksOnly l₁ l₃ := by
  obtain ⟨calls, hno, rfl⟩ := h
  obtain ⟨calls', hno', rfl⟩ := h'
  exact ⟨calls ++ calls', hno.append hno', List.append_assoc _ _ _⟩

theorem AsksOnly.single (l : List ExternalCall) {c : ExternalCall} (h : ∀ id, c.redeems id = false) :
    AsksOnly l (l ++ [c]) := by
  refine ⟨[c], fun b hb => ?_, rfl⟩
  rw [List.mem_singleton] at hb
  rw [hb]
  exact h

/-! ### Orders -/

inductive ExecutionMode
  | paper
  | live
  deriving DecidableEq

structure OrderExecutor where
  validator : OrderValidator := {}
  hasClob : Bool := true
  mode : ExecutionMode := .paper
  botMax : ℤ := 3
  executionCount : ℕ := 0
  fillCount : ℕ := 0
  rejectCount : ℕ := 0

/-! ### Exits -/

structure ExitExecutor where
  hasClob : Bool := true
  paperMode : Bool := true
  retryIntervalsMs : Lib.Dict CloseReason ℕ := .empty
  maxCloseRetries : ℕ := 10
  closeCount : ℕ := 0
  retryCount : ℕ := 0
  closeFailCooldownSec : ℚ := 1
  exitOrderTimeoutSec : ℚ := 5
  lastCloseFailAt : Lib.Dict PositionId Time := .empty

/-- The last failed sale is more recent than the cooldown allows. -/
def ExitExecutor.coolingDown (x : ExitExecutor) (id : PositionId) (now : Time) : Bool :=
  match x.lastCloseFailAt.get? id with
  | some lastFail => decide (now - lastFail < x.closeFailCooldownSec)
  | none => false

/-! ### Settlement -/

/-- `CLAIM_REDEEM_MAX_RETRIES`. -/
def claimRedeemMaxRetries : ℕ := 20

/-- `CLAIM_REDEEM_RETRY_SCHEDULE`. -/
def claimRedeemRetrySchedule : List ℚ := [5, 10]

/-- `CLAIM_REDEEM_RETRY_STEADY`. -/
def claimRedeemRetrySteady : ℚ := 20

structure SettlementRetryState where
  positionId : PositionId
  claimId : ClaimId
  attemptCount : ℕ := 0
  nextRetryAt : Time := 0
  exhausted : Bool := false

namespace SettlementRetryState

variable (s : SettlementRetryState)

def getRetryDelay : ℚ :=
  if s.attemptCount = 0 then 0
  else (claimRedeemRetrySchedule[s.attemptCount - 1]?).getD claimRedeemRetrySteady

/-- Count a failed attempt; the last one exhausts the retries. -/
def scheduleNext (now : Time) : SettlementRetryState :=
  let s := { s with attemptCount := s.attemptCount + 1 }
  if s.attemptCount ≥ claimRedeemMaxRetries then { s with exhausted := true }
  else { s with nextRetryAt := now + s.getRetryDelay }

def isReady (now : Time) : Bool := !s.exhausted && decide (now ≥ s.nextRetryAt)

@[simp] theorem positionId_scheduleNext (now : Time) :
    (s.scheduleNext now).positionId = s.positionId := by
  unfold scheduleNext
  dsimp only
  split_ifs <;> rfl

@[simp] theorem claimId_scheduleNext (now : Time) : (s.scheduleNext now).claimId = s.claimId := by
  unfold scheduleNext
  dsimp only
  split_ifs <;> rfl

end SettlementRetryState

inductive ResolutionMethod
  | none
  | api
  | paperHeuristic
  | pnlFallback
  deriving DecidableEq

structure SettlementOrchestrator where
  paperMode : Bool := true
  hasClob : Bool := true
  hasPtbFetcher : Bool := true
  hasCoinPrice : Bool := true
  settlementCount : ℕ := 0
  retryStates : Lib.Table SettlementRetryState.positionId := .empty
  winnerCache : Lib.Dict ConditionId String := .empty
  lastResolutionMethod : ResolutionMethod := .none

/-- The position has a retry that is not exhausted. -/
def SettlementOrchestrator.isPositionInRetry (s : SettlementOrchestrator) (id : PositionId) : Bool :=
  match s.retryStates.get? id with
  | some r => !r.exhausted
  | none => false

/-! ### The whole layer -/

structure Trading where
  executor : OrderExecutor := {}
  tracker : PositionTracker := {}
  balance : BalanceManager := {}
  evaluator : ExitEvaluator := {}
  exitExecutor : ExitExecutor := {}
  claims : ClaimManager := {}
  settlement : SettlementOrchestrator := {}
  /-- `ExitOrchestrator._cycle_count`. -/
  cycleCount : ℕ := 0
  uuids : ℕ := 0
  trace : List ExternalCall := []

namespace Trading

variable (s : Trading)

/-- What can be observed now. -/
def instant (w : World) : Instant := w s.trace.length

/-- A call was answered. -/
def answered (c : ExternalCall) : Trading := { s with trace := s.trace ++ [c] }

/-- The position object, changed in place by its holder. -/
def writePosition (r : PositionRecord) : Trading := { s with tracker := s.tracker.write r }

/-- The state with its tracker exchanged by a tracker method. -/
def withTracker (t : PositionTracker) : Trading := { s with tracker := t }

end Trading

end Polyfast
