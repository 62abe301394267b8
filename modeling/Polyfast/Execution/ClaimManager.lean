import Polyfast.Lib.Table
import Polyfast.Execution.BalanceManager
import Polyfast.Execution.PositionRecord

/-!
# The claim manager

Claims by id. In paper mode a redeem is booked at once; the live branch marks the claim as failed,
since the relayer call happens elsewhere.

* `createClaim`, `executeRedeem`, `executeClaim`, `markExternallySettled`, `restoreClaim`;
* `executeRedeem_paper`, `executeRedeem_live`, `executeRedeem_success`, `markExternallySettled_open`:
  what they do to the claim they are called for.
-/

namespace Polyfast

abbrev ClaimId := ℕ

inductive ClaimStatus
  | pending
  | success
  | failed
  deriving DecidableEq

inductive ClaimOutcome
  | redeemedWon
  | redeemedLost
  | pending
  | failed
  deriving DecidableEq

structure ClaimRecord where
  claimId : ClaimId
  conditionId : ConditionId
  positionId : PositionId
  asset : Asset
  side : OrderSide
  claimStatus : ClaimStatus := .pending
  outcome : ClaimOutcome := .pending
  claimedAmountUsdc : ℚ := 0
  claimedAt : Option Time := none
  retryCount : ℕ := 0
  lastError : String := ""
  createdAt : Time
  deriving DecidableEq

namespace ClaimRecord

def isPending (r : ClaimRecord) : Bool := r.claimStatus = .pending

def isSuccess (r : ClaimRecord) : Bool := r.claimStatus = .success

end ClaimRecord

abbrev Claims := Lib.Table ClaimRecord.claimId

structure ClaimManager where
  claims : Claims := .empty
  paperMode : Bool := true
  claimCount : ℕ := 0
  hasStore : Bool := false
  pendingSaves : List ClaimId := []
  retrySchedule : List ℚ := [5, 10]
  retrySteady : ℚ := 20
  maxRetries : ℕ := 20

namespace ClaimManager

variable (m : ClaimManager)

def persist (id : ClaimId) : ClaimManager :=
  if m.hasStore then { m with pendingSaves := m.pendingSaves ++ [id] } else m

/-- The claim object, changed in place by its holder. -/
def write (r : ClaimRecord) : ClaimManager := { m with claims := m.claims.put r }

/-- Load a stored claim. -/
def restoreClaim (r : ClaimRecord) : ClaimManager :=
  { m with claims := m.claims.put r
           claimCount := if r.isSuccess then m.claimCount + 1 else m.claimCount }

/-- A pending claim for a position. -/
def newClaim (id : ClaimId) (p : PositionRecord) (now : Time) : ClaimRecord :=
  { claimId := id, conditionId := p.conditionId, positionId := p.positionId, asset := p.asset
    side := p.side, createdAt := now }

def createClaim (r : ClaimRecord) : ClaimManager := (m.write r).persist r.claimId

/-- Book a redeem. In paper mode a won one credits the balance; the live branch books a failure. -/
def executeRedeem (b : BalanceManager) (id : ClaimId) (won : Bool) (payoutAmount : ℚ) (now : Time) :
    ClaimManager × BalanceManager × Bool :=
  match m.claims.get? id with
  | none => (m, b, false)
  | some r =>
    if r.isSuccess then (m, b, true)
    else
      let r := { r with retryCount := r.retryCount + 1 }
      if m.paperMode then
        let r := { r with claimStatus := .success, claimedAt := some now }
        let m := { m with claimCount := m.claimCount + 1 }
        if won then
          ((m.write { r with outcome := .redeemedWon, claimedAmountUsdc := payoutAmount }).persist id,
            b.add payoutAmount now, true)
        else
          ((m.write { r with outcome := .redeemedLost, claimedAmountUsdc := 0 }).persist id, b, true)
      else
        (m.write { r with claimStatus := .failed, lastError := "Relayer redeem not implemented" },
          b, false)

/-- `execute_claim`, kept for old callers: a won redeem of one dollar. -/
def executeClaim (b : BalanceManager) (id : ClaimId) (now : Time) : ClaimManager × BalanceManager × Bool :=
  m.executeRedeem b id true 1 now

/-- A redemption made elsewhere: close the local claim as won. -/
def markExternallySettled (id : ClaimId) (now : Time) : ClaimManager × Bool :=
  match m.claims.get? id with
  | none => (m, false)
  | some r =>
    if r.isSuccess then (m, true)
    else
      let r := { r with claimStatus := .success, outcome := .redeemedWon, claimedAt := some now
                        lastError := "external_settlement_detected" }
      (({ m with claimCount := m.claimCount + 1 }.write r).persist id, true)

def hasPendingClaims : Bool := m.claims.records.any ClaimRecord.isPending

def getPendingClaims : List ClaimRecord := m.claims.records.filter ClaimRecord.isPending

def getClaimsByPosition (id : PositionId) : List ClaimRecord :=
  m.claims.records.filter (fun r => r.positionId = id)

@[simp] theorem claims_persist (id : ClaimId) : (m.persist id).claims = m.claims := by
  unfold persist
  split_ifs <;> rfl

@[simp] theorem paperMode_persist (id : ClaimId) : (m.persist id).paperMode = m.paperMode := by
  unfold persist
  split_ifs <;> rfl

@[simp] theorem claims_write (r : ClaimRecord) : (m.write r).claims = m.claims.put r := rfl

@[simp] theorem claims_createClaim (r : ClaimRecord) :
    (m.createClaim r).claims = m.claims.put r := by
  simp [createClaim]

/-! ### What a booking does -/

/-- The claim after a redeem booked in paper mode. -/
def booked (r : ClaimRecord) (won : Bool) (payoutAmount : ℚ) (now : Time) : ClaimRecord :=
  { r with
    retryCount := r.retryCount + 1
    claimStatus := .success
    claimedAt := some now
    outcome := if won then .redeemedWon else .redeemedLost
    claimedAmountUsdc := if won then payoutAmount else 0 }

/-- The claim after a failed booking of the live branch. -/
def unbooked (r : ClaimRecord) : ClaimRecord :=
  { r with
    retryCount := r.retryCount + 1
    claimStatus := .failed
    lastError := "Relayer redeem not implemented" }

/-- The claim after reconciliation. -/
def reconciled (r : ClaimRecord) (now : Time) : ClaimRecord :=
  { r with
    claimStatus := .success
    outcome := .redeemedWon
    claimedAt := some now
    lastError := "external_settlement_detected" }

variable {m} {b : BalanceManager} {id : ClaimId} {r : ClaimRecord} {won : Bool} {payout : ℚ}
  {now : Time}

theorem executeRedeem_none (h : m.claims.get? id = none) :
    m.executeRedeem b id won payout now = (m, b, false) := by
  simp only [executeRedeem, h]

/-- A claim that succeeded is not booked again. -/
theorem executeRedeem_success (h : m.claims.get? id = some r) (hs : r.isSuccess = true) :
    m.executeRedeem b id won payout now = (m, b, true) := by
  simp only [executeRedeem, h, hs, if_true]

theorem executeRedeem_paper (h : m.claims.get? id = some r) (hs : r.isSuccess = false)
    (hp : m.paperMode = true) :
    (m.executeRedeem b id won payout now).1.claims = m.claims.put (booked r won payout now) ∧
      (m.executeRedeem b id won payout now).1.paperMode = true ∧
      (m.executeRedeem b id won payout now).2.1.available =
        b.available + (if won then payout else 0) ∧
      (m.executeRedeem b id won payout now).2.2 = true := by
  simp only [executeRedeem, h, hs, hp, if_true, Bool.false_eq_true, if_false]
  cases won
  · refine ⟨?_, ?_, ?_, rfl⟩ <;> simp [write, booked]
  · refine ⟨?_, ?_, ?_, rfl⟩ <;> simp [write, booked]

theorem executeRedeem_live (h : m.claims.get? id = some r) (hs : r.isSuccess = false)
    (hp : m.paperMode = false) :
    m.executeRedeem b id won payout now = (m.write (unbooked r), b, false) := by
  simp only [executeRedeem, h, hs, hp, Bool.false_eq_true, if_false]
  rfl

/-- A redeem writes at most the claim it is called for, and only in paper mode makes it a success. -/
theorem executeRedeem_effect (m : ClaimManager) (b : BalanceManager) (id : ClaimId) (won : Bool)
    (payout : ℚ) (now : Time) :
    (m.executeRedeem b id won payout now).1.paperMode = m.paperMode ∧
      (∀ k, k ≠ id →
        (m.executeRedeem b id won payout now).1.claims.get? k = m.claims.get? k) ∧
      ∀ r', (m.executeRedeem b id won payout now).1.claims.get? id = some r' →
        ∃ r, m.claims.get? id = some r ∧ r'.positionId = r.positionId ∧
          (r'.isSuccess = true → r.isSuccess = true ∨ m.paperMode = true ∧
            (m.executeRedeem b id won payout now).2.2 = true) := by
  cases h : m.claims.get? id with
  | none =>
    rw [executeRedeem_none h]
    exact ⟨rfl, fun k _ => rfl, fun r' hr' => absurd (h.symm.trans hr') (by simp)⟩
  | some r =>
    have hkey : r.claimId = id := Lib.Table.key_of_get? h
    have hput : ∀ r' : ClaimRecord, r'.claimId = r.claimId →
        (∀ k, k ≠ id → (m.claims.put r').get? k = m.claims.get? k) ∧
          (m.claims.put r').get? id = some r' := by
      intro r' hr'
      refine ⟨fun k hk => Lib.Table.get?_put_ne _ fun heq => hk ?_, ?_⟩
      · rw [← heq, hr', hkey]
      · rw [Lib.Table.get?_put, if_pos (hr'.trans hkey)]
    cases hs : r.isSuccess with
    | true =>
      rw [executeRedeem_success h hs]
      refine ⟨rfl, fun k _ => rfl, fun r' hr' => ?_⟩
      rw [h] at hr'
      obtain rfl := Option.some.inj hr'
      exact ⟨r, rfl, rfl, Or.inl⟩
    | false =>
      cases hp : m.paperMode with
      | true =>
        obtain ⟨hclaims, hmode, -, hok⟩ :=
          executeRedeem_paper h hs hp
        obtain ⟨hne, hself⟩ := hput (booked r won payout now) rfl
        rw [hclaims]
        refine ⟨hmode, hne, fun r' hr' => ?_⟩
        rw [hself] at hr'
        obtain rfl := Option.some.inj hr'
        exact ⟨r, rfl, rfl, fun _ => .inr ⟨rfl, hok⟩⟩
      | false =>
        rw [executeRedeem_live h hs hp]
        obtain ⟨hne, hself⟩ := hput (unbooked r) rfl
        refine ⟨hp, hne, fun r' hr' => ?_⟩
        rw [claims_write, hself] at hr'
        obtain rfl := Option.some.inj hr'
        exact ⟨r, rfl, rfl, fun hsuccess => by cases hsuccess⟩

theorem markExternallySettled_none (h : m.claims.get? id = none) :
    m.markExternallySettled id now = (m, false) := by
  simp only [markExternallySettled, h]

theorem markExternallySettled_success (h : m.claims.get? id = some r) (hs : r.isSuccess = true) :
    m.markExternallySettled id now = (m, true) := by
  simp only [markExternallySettled, h, hs, if_true]

theorem markExternallySettled_open (now : Time) (h : m.claims.get? id = some r) (hs : r.isSuccess = false) :
    (m.markExternallySettled id now).1.claims = m.claims.put (reconciled r now) ∧
      (m.markExternallySettled id now).1.paperMode = m.paperMode := by
  simp only [markExternallySettled, h, hs, Bool.false_eq_true, if_false]
  exact ⟨claims_persist _ _, paperMode_persist _ _⟩

/-- Marking a claim as settled elsewhere makes it a success and leaves the others. -/
theorem markExternallySettled_get? (m : ClaimManager) (id : ClaimId) (now : Time) (k : ClaimId) :
    (m.markExternallySettled id now).1.claims.get? k =
      (m.claims.get? k).map (fun r => if k = id ∧ r.isSuccess = false then reconciled r now else r) := by
  cases h : m.claims.get? id with
  | none =>
    rw [markExternallySettled_none h]
    by_cases hk : k = id
    · rw [hk, h, Option.map_none]
    · simp [hk]
  | some r =>
    have hkey : r.claimId = id := Lib.Table.key_of_get? h
    cases hs : r.isSuccess with
    | true =>
      rw [markExternallySettled_success h hs]
      by_cases hk : k = id
      · rw [hk, h, Option.map_some, hs]
        simp
      · simp [hk]
    | false =>
      rw [(markExternallySettled_open now h hs).1]
      by_cases hk : k = id
      · rw [hk, h, Option.map_some, hs, Lib.Table.get?_put, if_pos (show (reconciled r now).claimId = id
          from hkey)]
        simp
      · rw [Lib.Table.get?_put_ne _ fun heq : (reconciled r now).claimId = k => hk (heq ▸ hkey)]
        simp [hk]

end ClaimManager

end Polyfast
