import Polyfast.Execution.PositionRecord

/-!
# Order intents and their validation

`validate` runs its checks in a fixed order and answers with the first that fails: claim gate, token,
event, minimum amount, balance, event maximum, bot maximum. `validate_valid_iff` says what an accepted
intent has passed.
-/

namespace Polyfast

/-- An order the strategy wants. -/
structure OrderIntent where
  asset : Asset
  side : OrderSide
  amountUsd : ℚ
  conditionId : ConditionId
  tokenId : TokenId
  dominantPrice : ℚ
  eventMax : ℤ := 1
  evaluatedAt : Time := 0
  deriving DecidableEq

inductive RejectReason
  | insufficientBalance
  | belowMinimumAmount
  | eventMaxReached
  | botMaxReached
  | missingTokenId
  | missingConditionId
  | claimPending
  deriving DecidableEq

def RejectReason.value : RejectReason → String
  | insufficientBalance => "insufficient_balance"
  | belowMinimumAmount => "below_minimum_amount"
  | eventMaxReached => "event_max_reached"
  | botMaxReached => "bot_max_reached"
  | missingTokenId => "missing_token_id"
  | missingConditionId => "missing_condition_id"
  | claimPending => "claim_pending"

/-- The detail dictionary of a validation. -/
inductive ValidationDetail
  | claimPending (hasPendingClaims : Bool)
  | missingTokenId (tokenId : TokenId)
  | missingConditionId (conditionId : ConditionId)
  | belowMinimumAmount (amountUsd minimum : ℚ)
  | insufficientBalance (amountUsd availableBalance shortfall : ℚ)
  | eventMaxReached (eventFillCount : ℕ) (eventMax : ℤ)
  | botMaxReached (openPositionCount : ℕ) (botMax : ℤ)
  | valid (asset : Asset) (side : OrderSide) (amountUsd availableBalance : ℚ)

/-- Valid, or rejected for a reason. -/
inductive ValidationStatus
  | valid
  | rejected (reason : RejectReason)
  deriving DecidableEq

structure ValidationResult where
  status : ValidationStatus
  detail : ValidationDetail

structure OrderValidator where
  minOrderUsd : ℚ := 1

/-- What the validator is told besides the intent; the claim flags default to an open gate. -/
structure ValidationInput where
  availableBalance : ℚ
  eventFillCount : ℕ
  eventMax : ℤ
  openPositionCount : ℕ
  botMax : ℤ
  hasPendingClaims : Bool := false
  waitForClaimRedeem : Bool := true

def OrderValidator.validate (v : OrderValidator) (i : OrderIntent) (x : ValidationInput) :
    ValidationResult :=
  if x.waitForClaimRedeem && x.hasPendingClaims then
    ⟨.rejected .claimPending, .claimPending true⟩
  else if i.tokenId = "" then ⟨.rejected .missingTokenId, .missingTokenId i.tokenId⟩
  else if i.conditionId = "" then ⟨.rejected .missingConditionId, .missingConditionId i.conditionId⟩
  else if i.amountUsd < v.minOrderUsd then
    ⟨.rejected .belowMinimumAmount, .belowMinimumAmount i.amountUsd v.minOrderUsd⟩
  else if x.availableBalance < i.amountUsd then
    ⟨.rejected .insufficientBalance, .insufficientBalance i.amountUsd x.availableBalance
      (Lib.roundTo 2 (i.amountUsd - x.availableBalance))⟩
  else if (x.eventFillCount : ℤ) ≥ x.eventMax then
    ⟨.rejected .eventMaxReached, .eventMaxReached x.eventFillCount x.eventMax⟩
  else if (x.openPositionCount : ℤ) ≥ x.botMax then
    ⟨.rejected .botMaxReached, .botMaxReached x.openPositionCount x.botMax⟩
  else ⟨.valid, .valid i.asset i.side i.amountUsd x.availableBalance⟩

/-- What an accepted intent has passed. -/
theorem OrderValidator.validate_valid_iff {v : OrderValidator} {i : OrderIntent}
    {x : ValidationInput} :
    (v.validate i x).status = .valid ↔
      ¬(x.waitForClaimRedeem = true ∧ x.hasPendingClaims = true) ∧ i.tokenId ≠ "" ∧
        i.conditionId ≠ "" ∧ v.minOrderUsd ≤ i.amountUsd ∧ i.amountUsd ≤ x.availableBalance ∧
        (x.eventFillCount : ℤ) < x.eventMax ∧ (x.openPositionCount : ℤ) < x.botMax := by
  unfold validate
  split_ifs <;> simp_all

end Polyfast
