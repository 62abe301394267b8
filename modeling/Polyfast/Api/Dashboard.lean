import Polyfast.Lib.Rounding
import Polyfast.Persistence.Records

/-!
# Claims on the dashboard

`GET /dashboard/claims` lists the pending claims, each with its number of retries and the delay that the retry
schedule of the claim manager has for that number.

* `ClaimRedeemConfig`, `ClaimManager.ofConfig`: the schedule as it is configured and handed to the manager;
* `buildClaimContract`: what is shown of a claim;
* `getClaims`: the whole list.
-/

namespace Polyfast

/-- `ClaimRedeemConfig`, within the bounds of its fields. -/
structure ClaimRedeemConfig where
  waitForClaimBeforeNewTrade : Bool := true
  retryInitialSeconds : ℕ := 5
  retrySecondSeconds : ℕ := 10
  retrySteadySeconds : ℕ := 20
  maxRetryAttempts : ℕ := 20
  initial_bounds : 1 ≤ retryInitialSeconds ∧ retryInitialSeconds ≤ 60 := by decide
  second_bounds : 1 ≤ retrySecondSeconds ∧ retrySecondSeconds ≤ 60 := by decide
  steady_bounds : 5 ≤ retrySteadySeconds ∧ retrySteadySeconds ≤ 120 := by decide
  max_bounds : 1 ≤ maxRetryAttempts ∧ maxRetryAttempts ≤ 50 := by decide

/-- The configured delay after failure number `k`: initial, second, then steady. -/
def ClaimRedeemConfig.delay (cfg : ClaimRedeemConfig) (k : ℕ) : ℕ :=
  if k ≤ 1 then cfg.retryInitialSeconds else if k = 2 then cfg.retrySecondSeconds else cfg.retrySteadySeconds

/-- The claim manager that the orchestrator makes of the configuration. -/
def ClaimManager.ofConfig (cfg : ClaimRedeemConfig) (paperMode hasStore : Bool) : ClaimManager where
  paperMode := paperMode
  hasStore := hasStore
  retrySchedule := [(cfg.retryInitialSeconds : ℚ), (cfg.retrySecondSeconds : ℚ)]
  retrySteady := cfg.retrySteadySeconds
  maxRetries := cfg.maxRetryAttempts

/-! ### Formats -/

/-- Digits, the last one first, with a comma after every third that is followed by more. -/
def groupThousands : List Char → List Char
  | a :: b :: c :: d :: rest => a :: b :: c :: ',' :: groupThousands (d :: rest)
  | digits => digits

/-- `_fmt_usd`: two decimals and thousands separators. -/
def fmtUsd (v : ℚ) : String :=
  let cents := (Lib.roundEven (v * 100)).natAbs
  let whole := String.ofList (groupThousands (toString (cents / 100)).toList.reverse).reverse
  let sign := if v < 0 then "-" else ""
  let fraction := if cents % 100 < 10 then s!"0{cents % 100}" else s!"{cents % 100}"
  s!"${sign}{whole}.{fraction}"

/-- `_format_claim_payout`. -/
def formatClaimPayout (claimedAmountUsdc : ℚ) : Option String :=
  if claimedAmountUsdc ≤ 0 then none else some (fmtUsd claimedAmountUsdc)

/-! ### Summaries -/

inductive ClaimStatusContract
  | retry
  | ok
  | fail
  deriving DecidableEq

/-- `_map_claim_status_to_contract`. -/
def mapClaimStatusToContract : ClaimStatus → ClaimStatusContract
  | .pending => .retry
  | .success => .ok
  | .failed => .fail

/-- `_claim_next_retry_sec`. -/
def claimNextRetrySec (retryCount : ℕ) (schedule : List ℚ) (steady : ℚ) : ℚ := (schedule[retryCount]?).getD steady

structure ClaimSummary where
  claimId : ClaimId
  asset : Asset
  positionId : PositionId
  claimStatus : String
  outcome : String
  claimedAmountUsdc : ℚ
  retryCount : ℕ
  status : Option ClaimStatusContract := none
  retry : Option ℕ := none
  maxRetry : Option ℕ := none
  nextSec : Option ℚ := none
  payout : Option String := none

/-- `_build_claim_contract`. -/
def buildClaimContract (c : ClaimRecord) (claimManager : ClaimManager) : ClaimSummary where
  claimId := c.claimId
  asset := c.asset
  positionId := c.positionId
  claimStatus := c.claimStatus.value
  outcome := c.outcome.value
  claimedAmountUsdc := c.claimedAmountUsdc
  retryCount := c.retryCount
  status := some (mapClaimStatusToContract c.claimStatus)
  retry := some c.retryCount
  maxRetry := some claimManager.maxRetries
  nextSec := some (claimNextRetrySec c.retryCount claimManager.retrySchedule claimManager.retrySteady)
  payout := formatClaimPayout c.claimedAmountUsdc

/-- `GET /dashboard/claims`. -/
def getClaims (claimManager : ClaimManager) : List ClaimSummary :=
  claimManager.getPendingClaims.map (fun c => buildClaimContract c claimManager)

example : fmtUsd 1234567.5 = "$1,234,567.50" := by decide +kernel

/-- **What is shown of a claim** under a configuration: its own count, and the delay after one failure more. -/
theorem nextSec_ofConfig (cfg : ClaimRedeemConfig) (c : ClaimRecord) {m : ClaimManager}
    (hschedule : m.retrySchedule = [(cfg.retryInitialSeconds : ℚ), (cfg.retrySecondSeconds : ℚ)])
    (hsteady : m.retrySteady = cfg.retrySteadySeconds) :
    (buildClaimContract c m).nextSec = some (cfg.delay (c.retryCount + 1) : ℚ) := by
  simp only [buildClaimContract, claimNextRetrySec, hschedule, hsteady, ClaimRedeemConfig.delay]
  rcases c.retryCount with _ | _ | n
  · rfl
  · rfl
  · simp

/-- The pending claims are those on the list. -/
theorem mem_getClaims {m : ClaimManager} {v : ClaimSummary} :
    v ∈ getClaims m ↔ ∃ c, m.claims.get? c.claimId = some c ∧ c.isPending = true ∧ v = buildClaimContract c m := by
  rw [getClaims, List.mem_map]
  constructor
  · rintro ⟨c, hc, rfl⟩
    obtain ⟨hmem, hpending⟩ := List.mem_filter.mp hc
    exact ⟨c, Lib.Table.mem_records.mp hmem, hpending, rfl⟩
  · rintro ⟨c, hc, hpending, rfl⟩
    exact ⟨c, List.mem_filter.mpr ⟨Lib.Table.mem_records.mpr hc, hpending⟩, rfl⟩

end Polyfast
