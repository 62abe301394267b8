import Polyfast.Execution.ClaimManager
import Polyfast.Lib.Run

/-!
# The number of successful claims

The claim manager counts its successful claims beside the dictionary that holds them. A redeem and a reconciliation
raise the count with the one claim they close; loading a stored claim raises it for every successful claim, also
where it replaces one that has been counted.

* `ManagerCall`, `ClaimManager.Step`: the calls that write claims;
* `counts_restore_iff`: which restores the count survives;
* `total_claimed_iff`: when the count is right all along a run;
* `restoreClaim_foldl_run`: loading all stored claims is such a run.
-/

namespace Polyfast

/-- A call that writes claims. -/
inductive ManagerCall
  | createClaim (id : ClaimId) (p : PositionRecord) (now : Time)
  | executeRedeem (id : ClaimId) (won : Bool) (payoutAmount : ℚ) (now : Time)
  | markExternallySettled (id : ClaimId) (now : Time)
  | restoreClaim (r : ClaimRecord)

namespace ClaimManager

/-- `total_claimed`. -/
def totalClaimed (m : ClaimManager) : ℕ := m.claimCount

/-- A new manager with the same parameters. -/
def fresh (m : ClaimManager) : ClaimManager := { m with claims := .empty, claimCount := 0, pendingSaves := [] }

/-- The number of claims in SUCCESS. -/
def successes (m : ClaimManager) : ℕ := m.claims.count ClaimRecord.isSuccess

/-- A call of a manager with its balance; a new claim gets an id of its own. -/
inductive Step : ClaimManager × BalanceManager → ManagerCall → ClaimManager × BalanceManager → Prop
  | createClaim (m : ClaimManager) (b : BalanceManager) (id : ClaimId) (p : PositionRecord) (now : Time)
      (hnew : m.claims.get? id = none) : Step (m, b) (.createClaim id p now) (m.createClaim (newClaim id p now), b)
  | executeRedeem (m : ClaimManager) (b : BalanceManager) (id : ClaimId) (won : Bool) (payoutAmount : ℚ) (now : Time) :
      Step (m, b) (.executeRedeem id won payoutAmount now)
        ((m.executeRedeem b id won payoutAmount now).1, (m.executeRedeem b id won payoutAmount now).2.1)
  | markExternallySettled (m : ClaimManager) (b : BalanceManager) (id : ClaimId) (now : Time) :
      Step (m, b) (.markExternallySettled id now) ((m.markExternallySettled id now).1, b)
  | restoreClaim (m : ClaimManager) (b : BalanceManager) (r : ClaimRecord) :
      Step (m, b) (.restoreClaim r) (m.restoreClaim r, b)

/-- The count is the number of claims in SUCCESS. -/
def Counts (s : ClaimManager × BalanceManager) : Prop := s.1.totalClaimed = s.1.successes

/-- A stored claim that is loaded replaces none that is in SUCCESS. -/
def LoadsOpen (s : ClaimManager × BalanceManager) : ManagerCall → Prop
  | .restoreClaim r => ∀ u, s.1.claims.get? r.claimId = some u → u.isSuccess = false
  | _ => True

variable {m : ClaimManager} {b : BalanceManager} {id : ClaimId} {r u : ClaimRecord} {won : Bool} {payout : ℚ}
  {now : Time} {s s' : ClaimManager × BalanceManager} {l : ManagerCall}

/-! ### One call -/

@[simp] theorem claimCount_persist (m : ClaimManager) (id : ClaimId) : (m.persist id).claimCount = m.claimCount := by
  unfold persist
  split_ifs <;> rfl

/-- The claims in SUCCESS once a claim that is held has been written. -/
theorem count_put_held (h : m.claims.get? r.claimId = some u) (hu : u.isSuccess = false) :
    (m.claims.put r).count ClaimRecord.isSuccess = m.successes + r.isSuccess.toNat := by
  have hput := Lib.Table.count_put ClaimRecord.isSuccess h
  rw [hu, Bool.toNat_false, Nat.add_zero] at hput
  exact hput

theorem successes_createClaim (h : m.claims.get? id = none) (p : PositionRecord) (now : Time) :
    (m.createClaim (newClaim id p now)).successes = m.successes := by
  rw [successes, claims_createClaim]
  exact Lib.Table.count_put_new (r := newClaim id p now) ClaimRecord.isSuccess h

theorem claimCount_createClaim (m : ClaimManager) (r : ClaimRecord) : (m.createClaim r).claimCount = m.claimCount :=
  claimCount_persist _ _

/-- **A redeem** counts the claim that it makes a success. -/
theorem counts_executeRedeem (h : Counts (m, b)) :
    Counts ((m.executeRedeem b id won payout now).1, (m.executeRedeem b id won payout now).2.1) := by
  change m.claimCount = m.successes at h
  change (m.executeRedeem b id won payout now).1.claimCount = (m.executeRedeem b id won payout now).1.successes
  cases hr : m.claims.get? id with
  | none =>
    rw [executeRedeem_none hr]
    exact h
  | some r =>
    obtain rfl : r.claimId = id := Lib.Table.key_of_get? hr
    cases hs : r.isSuccess with
    | true =>
      rw [executeRedeem_success hr hs]
      exact h
    | false =>
      cases hp : m.paperMode with
      | true =>
        have hcount : (m.executeRedeem b r.claimId won payout now).1.claimCount = m.claimCount + 1 := by
          simp only [executeRedeem, hr, hs, hp, if_true, Bool.false_eq_true, if_false]
          cases won <;> exact claimCount_persist _ _
        rw [hcount, successes, (executeRedeem_paper hr hs hp).1, h]
        exact (count_put_held (r := booked r won payout now) hr hs).symm
      | false =>
        rw [executeRedeem_live hr hs hp, successes, claims_write]
        exact h.trans (count_put_held (r := unbooked r) hr hs).symm

/-- **A reconciliation** counts the claim that it closes. -/
theorem counts_markExternallySettled (h : Counts (m, b)) : Counts ((m.markExternallySettled id now).1, b) := by
  change m.claimCount = m.successes at h
  change (m.markExternallySettled id now).1.claimCount = (m.markExternallySettled id now).1.successes
  cases hr : m.claims.get? id with
  | none =>
    rw [markExternallySettled_none hr]
    exact h
  | some r =>
    obtain rfl : r.claimId = id := Lib.Table.key_of_get? hr
    cases hs : r.isSuccess with
    | true =>
      rw [markExternallySettled_success hr hs]
      exact h
    | false =>
      have hcount : (m.markExternallySettled r.claimId now).1.claimCount = m.claimCount + 1 := by
        simp only [markExternallySettled, hr, hs, Bool.false_eq_true, if_false]
        exact claimCount_persist _ _
      rw [hcount, successes, (markExternallySettled_open now hr hs).1, h]
      exact (count_put_held (r := reconciled r now) hr hs).symm

/-- **A restore** keeps the count right exactly if it replaces no claim in SUCCESS. -/
theorem counts_restore_iff (h : Counts (m, b)) (r : ClaimRecord) :
    Counts (m.restoreClaim r, b) ↔ ∀ u, m.claims.get? r.claimId = some u → u.isSuccess = false := by
  change m.claimCount = m.successes at h
  change (m.restoreClaim r).claimCount = (m.claims.put r).count ClaimRecord.isSuccess ↔ _
  have hcount : (m.restoreClaim r).claimCount = m.successes + r.isSuccess.toNat := by
    unfold restoreClaim
    cases r.isSuccess <;> simp [h]
  rw [hcount]
  cases hu : m.claims.get? r.claimId with
  | none => exact iff_of_true (Lib.Table.count_put_new ClaimRecord.isSuccess hu).symm (fun u hu => by cases hu)
  | some u =>
    have hput := Lib.Table.count_put ClaimRecord.isSuccess hu
    cases hs : u.isSuccess with
    | false => exact iff_of_true (count_put_held hu hs).symm (fun v hv => Option.some.inj hv ▸ hs)
    | true =>
      rw [hs, Bool.toNat_true] at hput
      have hne : m.successes + r.isSuccess.toNat ≠ (m.claims.put r).count ClaimRecord.isSuccess := by
        change _ = m.successes + _ at hput
        omega
      exact iff_of_false hne fun hall => by simpa [hs] using hall u rfl

/-! ### Runs -/

theorem counts_fresh (m : ClaimManager) (b : BalanceManager) : Counts (m.fresh, b) := rfl

theorem Step.counts_iff (h : Counts s) (hst : Step s l s') : Counts s' ↔ LoadsOpen s l := by
  cases hst with
  | createClaim m b id p now hnew =>
    refine iff_of_true ?_ trivial
    change (m.createClaim (newClaim id p now)).claimCount = (m.createClaim (newClaim id p now)).successes
    rw [claimCount_createClaim, successes_createClaim hnew]
    exact h
  | executeRedeem m b id won payout now => exact iff_of_true (counts_executeRedeem h) trivial
  | markExternallySettled m b id now => exact iff_of_true (counts_markExternallySettled h) trivial
  | restoreClaim m b r => exact counts_restore_iff h r

/-- **The count.** From a new claim manager, `total_claimed` is the number of claims in SUCCESS after every call of a
run iff no restore of the run replaces a claim in SUCCESS. -/
theorem total_claimed_iff {tr : List (Lib.Taken (ClaimManager × BalanceManager) ManagerCall)}
    (hrun : Lib.Run Step (m.fresh, b) tr s) : (∀ x ∈ tr, Counts x.post) ↔ ∀ x ∈ tr, LoadsOpen x.pre x.label :=
  hrun.always_iff (I := Counts) (J := fun _ => True) (fun _ _ _ _ hI hst => ⟨trivial, hst.counts_iff hI⟩) trivial
    (counts_fresh m b)

/-- **A start loads the stored claims** with calls of `restore_claim`. -/
theorem restoreClaim_foldl_run (cs : List ClaimRecord) (m : ClaimManager) (b : BalanceManager) :
    ∃ tr, Lib.Run Step (m, b) tr (cs.foldl ClaimManager.restoreClaim m, b) ∧
      tr.map Lib.Taken.label = cs.map ManagerCall.restoreClaim := by
  induction cs generalizing m with
  | nil => exact ⟨[], .nil _, rfl⟩
  | cons r cs ih =>
    obtain ⟨tr, hrun, hlabels⟩ := ih (m.restoreClaim r)
    exact ⟨_, (Lib.Run.single (.restoreClaim m b r)).append hrun, congrArg (ManagerCall.restoreClaim r :: ·) hlabels⟩

/-- A position that wins, its claim created and redeemed. -/
def claimedPosition : PositionRecord :=
  { positionId := 0, asset := "BTC", side := .up, conditionId := "event", tokenId := "token", state := .closed
    createdAt := 0, netPositionShares := 5 }

def claimCreated : ClaimManager := ({} : ClaimManager).createClaim (newClaim 0 claimedPosition 0)

def claimRedeemed : ClaimManager := (claimCreated.executeRedeem {} 0 true 5 1).1

/-- The claim as it was stored then. -/
def storedClaim : ClaimRecord := booked (newClaim 0 claimedPosition 0) true 5 1

/-- A claim of another position that was paid elsewhere. -/
def otherClaim : ClaimRecord := newClaim 1 { claimedPosition with positionId := 1 } 0

/-- An open claim is loaded over itself and then redeemed, a second one is reconciled, and a third one is loaded as a
success. -/
theorem total_claimed_loaded : ∃ s tr, Lib.Run Step (({} : ClaimManager).fresh, {}) tr s ∧ s.1.totalClaimed = 3 ∧
    ∀ x ∈ tr, Counts x.post := by
  have hrun : Lib.Run Step (({} : ClaimManager).fresh, {}) _ _ := (((((Lib.Run.single
    (.createClaim {} {} 0 claimedPosition 0 rfl)).snoc
    (.restoreClaim claimCreated {} (newClaim 0 claimedPosition 0))).snoc
    (.executeRedeem _ {} 0 true 5 1)).snoc
    (.restoreClaim _ _ otherClaim)).snoc
    (.markExternallySettled _ _ 1 2)).snoc
    (.restoreClaim _ _ { storedClaim with claimId := 2 })
  refine ⟨_, _, hrun, by decide +kernel, (total_claimed_iff hrun).mpr ?_⟩
  simp only [List.forall_mem_append, List.forall_mem_singleton, LoadsOpen]
  refine ⟨⟨⟨⟨⟨trivial, fun u hu => ?_⟩, trivial⟩, fun u hu => ?_⟩, trivial⟩, fun u hu => ?_⟩
  · rw [← Option.some.inj hu]
    rfl
  · cases hu
  · cases hu

/-- **Counted twice**: the bot is stopped and started again, and the start loads the redeemed claim once more. -/
theorem restored_counted_twice :
    ∃ s tr, Lib.Run Step ({}, {}) tr s ∧ s.1.totalClaimed = 2 ∧ s.1.successes = 1 :=
  ⟨_, _, ((Lib.Run.single (Step.createClaim {} {} 0 claimedPosition 0 rfl)).snoc
    (Step.executeRedeem claimCreated {} 0 true 5 1)).snoc (Step.restoreClaim claimRedeemed _ storedClaim),
    by decide +kernel, by decide +kernel⟩

end ClaimManager

end Polyfast
