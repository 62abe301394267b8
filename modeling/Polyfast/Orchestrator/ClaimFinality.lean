import Polyfast.Lib.Run
import Polyfast.Orchestrator.ExitOrchestrator

/-!
# Claims that succeeded

What writes claims: `create_claim`, `execute_redeem`, `execute_claim`, `mark_externally_settled`, and the
error text that `_execute_redeem_for_claim` notes after a refused redeem call. They may come in any order,
also between the relayer's answer and what is made of it.

* `ClaimCall.Step`: these five, and what does not touch claims and balance;
* `processSettlements_claimRun`, `reconcileExternal_claimRun`: whole calls as runs of them;
* `Step.final`: a successful claim is not written any more, its error text apart;
* `Step.credits`: a credit makes an open claim a success of that amount;
* `claim_finality`: both, for whole runs.
-/

namespace Polyfast

/-- The fields that a successful claim keeps. -/
structure ClaimRecord.SameFinal (c c' : ClaimRecord) : Prop where
  claimStatus : c'.claimStatus = c.claimStatus
  outcome : c'.outcome = c.outcome
  claimedAmountUsdc : c'.claimedAmountUsdc = c.claimedAmountUsdc
  claimedAt : c'.claimedAt = c.claimedAt

theorem ClaimRecord.SameFinal.refl (c : ClaimRecord) : c.SameFinal c := ⟨rfl, rfl, rfl, rfl⟩

theorem ClaimRecord.SameFinal.trans {c c' c'' : ClaimRecord} (h : c.SameFinal c') (h' : c'.SameFinal c'') :
    c.SameFinal c'' :=
  ⟨h'.claimStatus.trans h.claimStatus, h'.outcome.trans h.outcome,
    h'.claimedAmountUsdc.trans h.claimedAmountUsdc, h'.claimedAt.trans h.claimedAt⟩

theorem ClaimRecord.SameFinal.isSuccess {c c' : ClaimRecord} (h : c.SameFinal c') : c'.isSuccess = c.isSuccess := by
  rw [ClaimRecord.isSuccess, h.claimStatus, ClaimRecord.isSuccess]

/-- What touches claims and balance. -/
inductive ClaimCall
  | createClaim (p : PositionRecord) (now : Time)
  | executeRedeem (id : ClaimId) (won : Bool) (payoutAmount : ℚ) (now : Time)
  | executeClaim (id : ClaimId) (now : Time)
  | markExternallySettled (id : ClaimId) (now : Time)
  | noteError (id : ClaimId) (error : String)
  | aside

/-- The claim that a call may book. -/
def ClaimCall.claim : ClaimCall → Option ClaimId
  | executeRedeem id _ _ _ | executeClaim id _ | markExternallySettled id _ => some id
  | _ => none

namespace Trading

variable (s : Trading)

/-- The state after a booking of the claim manager. -/
def withBooking (out : ClaimManager × BalanceManager × Bool) : Trading :=
  { s with claims := out.1, balance := out.2.1 }

/-- The error text of a claim, noted by its holder. -/
def noteError (id : ClaimId) (error : String) : Trading :=
  match s.claims.claims.get? id with
  | none => s
  | some c => { s with claims := s.claims.write { c with lastError := error } }

/-- Claims and balance are as before. -/
structure KeepsClaims (s s' : Trading) : Prop where
  claims : s'.claims = s.claims
  balance : s'.balance = s.balance
  uuids : s.uuids ≤ s'.uuids

/-- Every claim has an identifier that was drawn. -/
def ClaimsDrawn : Prop := ∀ k c, s.claims.claims.get? k = some c → k < s.uuids

end Trading

namespace ClaimCall

open Trading

inductive Step : Trading → ClaimCall → Trading → Prop
  | createClaim (s : Trading) (p : PositionRecord) (now : Time) : Step s (.createClaim p now) (s.createClaim p now)
  | executeRedeem (s : Trading) (id : ClaimId) (won : Bool) (payoutAmount : ℚ) (now : Time) :
      Step s (.executeRedeem id won payoutAmount now)
        (s.withBooking (s.claims.executeRedeem s.balance id won payoutAmount now))
  | executeClaim (s : Trading) (id : ClaimId) (now : Time) :
      Step s (.executeClaim id now) (s.withBooking (s.claims.executeClaim s.balance id now))
  | markExternallySettled (s : Trading) (id : ClaimId) (now : Time) :
      Step s (.markExternallySettled id now) { s with claims := (s.claims.markExternallySettled id now).1 }
  | noteError (s : Trading) (id : ClaimId) (error : String) : Step s (.noteError id error) (s.noteError id error)
  | aside (s s' : Trading) (h : KeepsClaims s s') : Step s .aside s'

variable {s s' t : Trading} {l : ClaimCall} {k : ClaimId} {c : ClaimRecord}

/-! ### Whole calls -/

/-- The state is reached by a run of such calls. -/
def Reaches (s s' : Trading) : Prop := ∃ tr, Lib.Run Step s tr s'

theorem Reaches.snoc (h : Reaches s t) (hst : Step t l s') : Reaches s s' := by
  obtain ⟨tr, hrun⟩ := h
  exact ⟨_, hrun.snoc hst⟩

theorem Reaches.refl (s : Trading) : Reaches s s := ⟨[], .nil s⟩

theorem Reaches.aside (h : Reaches s t) (ha : KeepsClaims t s') : Reaches s s' := h.snoc (.aside t s' ha)

/-- What `_execute_redeem_for_claim` does: it books the claim, notes the error, or raises. -/
theorem executeRedeemForClaim_claimRun (w : World) (p : PositionRecord) (id : ClaimId) (h : Reaches s t) :
    Reaches s (t.executeRedeemForClaim w p id).state := by
  have hcall : ∀ b, Reaches s (t.answered (.redeem p.positionId p.conditionId b)) :=
    fun _ => h.aside ⟨rfl, rfl, le_rfl⟩
  unfold executeRedeemForClaim
  split_ifs with hpaper
  · have hbook := h.snoc (.executeRedeem t id (t.determineWinner w p).1
      (Lib.roundTo 4 (if (t.determineWinner w p).1 then p.netPositionShares else 0)) (t.instant w).now)
    exact hbook.aside ⟨rfl, rfl, le_rfl⟩
  · split
    · exact hcall false
    · rename_i r hr
      dsimp only
      have hu := hcall r.success.truthy
      by_cases hok : r.success.truthy = true
      · rw [if_pos hok]
        split
        · exact hu
        · rename_i won hwon
          exact (hu.snoc (.executeRedeem _ id won _ _)).aside ⟨rfl, rfl, le_rfl⟩
      · rw [if_neg hok]
        have hnote := hu.snoc (.noteError _ id r.error)
        unfold Trading.noteError at hnote
        cases hc : (t.answered (.redeem p.positionId p.conditionId r.success.truthy)).claims.claims.get? id with
        | none =>
          simp only [hc] at hnote ⊢
          exact hnote
        | some c =>
          simp only [hc] at hnote ⊢
          exact hnote

theorem claimRun_rule (w : World) (s : Trading) : SettleRule w (Reaches s) where
  resolution t c h := by
    refine h.aside ⟨?_, ?_, (checkResolved_frame w t c).uuids⟩
    · unfold checkResolved
      split_ifs
      · dsimp only
        split_ifs <;> rfl
      · rfl
    · unfold checkResolved
      split_ifs
      · dsimp only
        split_ifs <;> rfl
      · rfl
  claim t p now h := h.snoc (.createClaim t p now)
  redeem t p id h := executeRedeemForClaim_claimRun w p id h
  retry _ _ h := h.aside ⟨rfl, rfl, le_rfl⟩
  drop _ _ h := h.aside ⟨rfl, rfl, le_rfl⟩

/-- **A call of `process_settlements` is a run of these calls.** -/
theorem processSettlements_claimRun (w : World) (h : Reaches s t) : Reaches s (t.processSettlements w).state :=
  (claimRun_rule w s).processSettlements h

/-- **A reconciliation is a run of these calls.** -/
theorem reconcileExternal_claimRun (w : World) (h : Reaches s t) : Reaches s (t.reconcileExternal w) := by
  refine reconcileExternal_preserves (I := Reaches s) w (fun u c _ hu => ?_) h
  unfold reconcileOne
  split_ifs
  · exact hu
  · exact hu.snoc (.markExternallySettled u c.claimId _)

/-! ### One step -/

theorem noteError_frame (s : Trading) (id : ClaimId) (error : String) :
    (s.noteError id error).balance = s.balance ∧ (s.noteError id error).uuids = s.uuids := by
  unfold Trading.noteError
  split <;> exact ⟨rfl, rfl⟩

/-- An error text is noted, and nothing else of the claims changes. -/
theorem get?_noteError (s : Trading) (id : ClaimId) (error : String) (k : ClaimId) :
    (s.noteError id error).claims.claims.get? k =
      (s.claims.claims.get? k).map (fun c => if k = id then { c with lastError := error } else c) := by
  unfold Trading.noteError
  by_cases hk : k = id
  · subst hk
    cases hc : s.claims.claims.get? k with
    | none => exact hc
    | some c =>
      have hkey : c.claimId = k := Lib.Table.key_of_get? hc
      simp only [ClaimManager.claims_write, Option.map_some, if_true]
      exact (Lib.Table.get?_put _ _ _).trans (if_pos hkey)
  · simp only [if_neg hk, Option.map_id']
    cases hu : s.claims.claims.get? id with
    | none => rfl
    | some u =>
      have hkey : u.claimId = id := Lib.Table.key_of_get? hu
      simp only [ClaimManager.claims_write]
      exact (Lib.Table.get?_put _ _ _).trans (if_neg fun heq => hk (heq.symm.trans hkey))

/-- A booking of an open claim in paper mode, or nothing of interest. -/
theorem executeRedeem_credit (m : ClaimManager) (b : BalanceManager) (id : ClaimId) (won : Bool) (payout : ℚ)
    (now : Time) (h : (m.executeRedeem b id won payout now).2.1.available ≠ b.available) :
    (∃ c, m.claims.get? id = some c ∧ c.isSuccess = false) ∧
      ∃ c, (m.executeRedeem b id won payout now).1.claims.get? id = some c ∧ c.isSuccess = true ∧
        c.claimedAmountUsdc = (m.executeRedeem b id won payout now).2.1.available - b.available := by
  cases hc : m.claims.get? id with
  | none =>
    rw [ClaimManager.executeRedeem_none hc] at h
    exact absurd rfl h
  | some c =>
    cases hs : c.isSuccess with
    | true =>
      rw [ClaimManager.executeRedeem_success hc hs] at h
      exact absurd rfl h
    | false =>
      refine ⟨⟨c, rfl, hs⟩, ?_⟩
      cases hp : m.paperMode with
      | false =>
        rw [ClaimManager.executeRedeem_live hc hs hp] at h
        exact absurd rfl h
      | true =>
        have hbook : (m.executeRedeem b id won payout now).1.claims =
              m.claims.put (ClaimManager.booked c won payout now) ∧
            (m.executeRedeem b id won payout now).2.1.available = b.available + (if won then payout else 0) := by
          obtain ⟨hclaims, -, hcredit, -⟩ := ClaimManager.executeRedeem_paper hc hs hp
          exact ⟨hclaims, hcredit⟩
        have hkey : c.claimId = id := Lib.Table.key_of_get? hc
        refine ⟨ClaimManager.booked c won payout now, ?_, rfl, ?_⟩
        · rw [hbook.1, Lib.Table.get?_put]
          exact if_pos hkey
        · rw [hbook.2, add_sub_cancel_left]
          rfl

/-- The call credits the claim. -/
def Credits (x : Lib.Taken Trading ClaimCall) (k : ClaimId) : Prop :=
  x.label.claim = some k ∧ x.post.balance.available ≠ x.pre.balance.available

/-- **A credit** makes an open claim a success of that amount. -/
theorem Step.credits {x : Lib.Taken Trading ClaimCall} (hs : Step x.pre x.label x.post) (h : Credits x k) :
    (∃ c, x.pre.claims.claims.get? k = some c ∧ c.isSuccess = false) ∧
      ∃ c, x.post.claims.claims.get? k = some c ∧ c.isSuccess = true ∧
        c.claimedAmountUsdc = x.post.balance.available - x.pre.balance.available := by
  obtain ⟨pre, label, post⟩ := x
  obtain ⟨hclaim, hne⟩ := h
  dsimp only at hs hclaim hne ⊢
  cases hs with
  | executeRedeem id won payout now =>
    obtain rfl := Option.some.inj hclaim
    exact executeRedeem_credit pre.claims pre.balance id won payout now hne
  | executeClaim id now =>
    obtain rfl := Option.some.inj hclaim
    exact executeRedeem_credit pre.claims pre.balance id true 1 now hne
  | markExternallySettled id now => exact absurd rfl hne
  | createClaim p now => cases hclaim
  | noteError id error => cases hclaim
  | aside t ha => cases hclaim

/-- Only a call for a claim moves the balance. -/
theorem Step.balance (hs : Step s l s') (h : l.claim = none) : s'.balance = s.balance := by
  cases hs with
  | createClaim p now => rfl
  | noteError id error => exact (noteError_frame s id error).1
  | aside t ha => exact ha.balance
  | executeRedeem id won payout now => cases h
  | executeClaim id now => cases h
  | markExternallySettled id now => cases h

theorem executeRedeem_final (m : ClaimManager) (b : BalanceManager) (id : ClaimId) (won : Bool) (payout : ℚ)
    (now : Time) (hc : m.claims.get? k = some c) (hs : c.isSuccess = true) :
    (m.executeRedeem b id won payout now).1.claims.get? k = some c := by
  by_cases hk : k = id
  · subst hk
    rw [ClaimManager.executeRedeem_success hc hs]
    exact hc
  · rw [(ClaimManager.executeRedeem_effect m b id won payout now).2.1 k hk, hc]

/-- **A successful claim is final**: no call writes more of it than its error text. -/
theorem Step.final (hs : Step s l s') (hd : s.ClaimsDrawn) (hc : s.claims.claims.get? k = some c)
    (hsuccess : c.isSuccess = true) : ∃ c', s'.claims.claims.get? k = some c' ∧ c.SameFinal c' := by
  cases hs with
  | createClaim p now =>
    refine ⟨c, ?_, .refl c⟩
    rw [Trading.get?_createClaim, if_neg (hd k c hc).ne', hc]
  | executeRedeem id won payout now =>
    exact ⟨c, executeRedeem_final s.claims s.balance id won payout now hc hsuccess, .refl c⟩
  | executeClaim id now => exact ⟨c, executeRedeem_final s.claims s.balance id true 1 now hc hsuccess, .refl c⟩
  | markExternallySettled id now =>
    refine ⟨c, ?_, .refl c⟩
    show (s.claims.markExternallySettled id now).1.claims.get? k = some c
    rw [ClaimManager.markExternallySettled_get?, hc, Option.map_some, hsuccess]
    simp
  | noteError id error =>
    rw [get?_noteError, hc, Option.map_some]
    refine ⟨_, rfl, ?_⟩
    split_ifs
    · exact ⟨rfl, rfl, rfl, rfl⟩
    · exact .refl c
  | aside t ha => exact ⟨c, by rw [ha.claims, hc], .refl c⟩

/-- No call makes a claim up but `create_claim`, under the next identifier. -/
theorem Step.drawn (hs : Step s l s') (hd : s.ClaimsDrawn) : s'.ClaimsDrawn := by
  have hredeem : ∀ (id : ClaimId) (won : Bool) (payout : ℚ) (now : Time),
      (s.withBooking (s.claims.executeRedeem s.balance id won payout now)).ClaimsDrawn := by
    intro id won payout now k c hc
    obtain ⟨-, hothers, hclaim⟩ := ClaimManager.executeRedeem_effect s.claims s.balance id won payout now
    by_cases hk : k = id
    · subst hk
      obtain ⟨u, hu, -⟩ := hclaim c hc
      exact hd k u hu
    · exact hd k c ((hothers k hk).symm.trans hc)
  cases hs with
  | createClaim p now =>
    intro k c hc
    rw [Trading.get?_createClaim] at hc
    show k < s.uuids + 1
    split_ifs at hc with hk
    · rw [← hk]
      exact Nat.lt_succ_self _
    · exact (hd k c hc).trans (Nat.lt_succ_self _)
  | executeRedeem id won payout now => exact hredeem id won payout now
  | executeClaim id now => exact hredeem id true 1 now
  | markExternallySettled id now =>
    intro k c hc
    have hmap : (s.claims.markExternallySettled id now).1.claims.get? k = some c := hc
    rw [ClaimManager.markExternallySettled_get?] at hmap
    obtain ⟨u, hu, -⟩ := Option.map_eq_some_iff.mp hmap
    exact hd k u hu
  | noteError id error =>
    intro k c hc
    rw [get?_noteError] at hc
    obtain ⟨u, hu, -⟩ := Option.map_eq_some_iff.mp hc
    rw [(noteError_frame s id error).2]
    exact hd k u hu
  | aside t ha =>
    intro k c hc
    rw [ha.claims] at hc
    exact (hd k c hc).trans_le ha.uuids

/-! ### Runs -/

variable {tr : List (Lib.Taken Trading ClaimCall)}

/-- The claim is there, and final as `c`. -/
def FinalAt (c : ClaimRecord) (k : ClaimId) (s : Trading) : Prop :=
  ∃ c', s.claims.claims.get? k = some c' ∧ c.SameFinal c'

theorem FinalAt.step (h : FinalAt c k s) (hs : Step s l s') (hd : s.ClaimsDrawn) (hsuccess : c.isSuccess = true) :
    FinalAt c k s' := by
  obtain ⟨u, hu, hsame⟩ := h
  obtain ⟨v, hv, hsame'⟩ := hs.final hd hu (hsame.isSuccess.trans hsuccess)
  exact ⟨v, hv, hsame.trans hsame'⟩

theorem run_drawn (hd : s.ClaimsDrawn) (hrun : Lib.Run Step s tr s') :
    s'.ClaimsDrawn ∧ ∀ x ∈ tr, x.pre.ClaimsDrawn := by
  obtain ⟨hend, hmem⟩ := hrun.invariant (fun _ _ _ h hst => hst.drawn h) hd
  exact ⟨hend, fun x hx => (hmem x hx).1⟩

/-- What was credited for a claim is its amount at the end of the run. -/
theorem run_credits (hd : s.ClaimsDrawn) (hrun : Lib.Run Step s tr s') {x : Lib.Taken Trading ClaimCall}
    (hx : x ∈ tr) (h : Credits x k) : ∃ c, s'.claims.claims.get? k = some c ∧ c.isSuccess = true ∧
      c.claimedAmountUsdc = x.post.balance.available - x.pre.balance.available := by
  obtain ⟨c, hc, hsuccess, hamount⟩ := ((hrun.step_of_mem hx).credits h).2
  have hkeep : ∀ y ∈ tr, FinalAt c k y.pre → FinalAt c k y.post :=
    fun y hy hfinal => hfinal.step (hrun.step_of_mem hy) ((run_drawn hd hrun).2 y hy) hsuccess
  obtain ⟨u, hu, hsame⟩ := hrun.marked (M := fun y => y = x)
    (fun y _ heq => ⟨c, heq ▸ hc, .refl c⟩) hkeep ⟨x, hx, rfl⟩
  exact ⟨u, hu, hsame.isSuccess.trans hsuccess, hsame.claimedAmountUsdc.trans hamount⟩

/-- No two calls of a run credit the same claim. -/
theorem run_credits_once (hd : s.ClaimsDrawn) (hrun : Lib.Run Step s tr s') (k : ClaimId) :
    tr.Pairwise (fun x y => Credits x k → ¬Credits y k) := by
  induction hrun with
  | nil => exact .nil
  | @snoc t u tr l hrun hst ih =>
    refine List.pairwise_append.mpr ⟨ih, List.pairwise_singleton _ _, fun x hx y hy hcredit hagain => ?_⟩
    rw [List.mem_singleton] at hy
    subst hy
    obtain ⟨c, hc, hsuccess, -⟩ := run_credits hd hrun hx hcredit
    obtain ⟨v, hv, hopen⟩ := (hst.credits hagain).1
    obtain rfl := Option.some.inj (hc.symm.trans hv)
    rw [hsuccess] at hopen
    cases hopen

/-- **Claim finality.** Along every run, a successful claim keeps its status, outcome, amount and time; at most
one call credits the balance for a claim, by the amount the claim has then; and no other call moves the
balance. Calls of `process_settlements` and reconciliations are such runs. -/
theorem claim_finality (hd : s.ClaimsDrawn) (hrun : Lib.Run Step s tr s') :
    (∀ k c, c.isSuccess = true → Lib.Stays (FinalAt c k) tr) ∧
      (∀ k, tr.Pairwise (fun x y => Credits x k → ¬Credits y k)) ∧
      (∀ k, ∀ x ∈ tr, Credits x k → ∃ c, s'.claims.claims.get? k = some c ∧ c.isSuccess = true ∧
        c.claimedAmountUsdc = x.post.balance.available - x.pre.balance.available) ∧
      (∀ x ∈ tr, x.label.claim = none → x.post.balance = x.pre.balance) ∧
      ∀ w, Reaches s' (s'.processSettlements w).state ∧ Reaches s' (s'.reconcileExternal w) := by
  refine ⟨fun k c hsuccess => ?_, run_credits_once hd hrun, fun k x hx h => run_credits hd hrun hx h,
    fun x hx h => (hrun.step_of_mem hx).balance h,
    fun w => ⟨processSettlements_claimRun w (.refl s'), reconcileExternal_claimRun w (.refl s')⟩⟩
  rw [hrun.stays_iff]
  exact fun x hx hfinal => hfinal.step (hrun.step_of_mem hx) ((run_drawn hd hrun).2 x hx) hsuccess

/-- A closed position of five shares, which wins. -/
def wonPosition : PositionRecord :=
  { positionId := 0, asset := "BTC", side := .up, conditionId := "event", tokenId := "token", state := .closed
    createdAt := 0, netPositionShares := 5 }

/-- Its claim is created and redeemed. -/
def wonTrading : Trading := ({} : Trading).createClaim wonPosition 0

def redeemedTrading : Trading := wonTrading.withBooking (wonTrading.claims.executeRedeem wonTrading.balance 0 true 5 1)

theorem claim_finality_won :
    redeemedTrading.balance.available = 5 ∧
      ∀ w, Reaches redeemedTrading (redeemedTrading.processSettlements w).state :=
  ⟨by decide +kernel, fun w => ((claim_finality (s := {}) (fun k c hc => by cases hc)
    ((Lib.Run.single (.createClaim {} wonPosition 0)).snoc (.executeRedeem wonTrading 0 true 5 1))).2.2.2.2 w).1⟩

end ClaimCall

end Polyfast
