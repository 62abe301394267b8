import Polyfast.Api.Dashboard
import Polyfast.Orchestrator.ClaimFinality
import Polyfast.Orchestrator.RedeemBound

/-!
# The configured schedule of claim retries

Three places know how often and when a failed redeem is tried again: the retry entry of settlement, which counts the
attempts and has the schedule as constants; the claim manager, which is given the configured schedule; and the
dashboard, which reads the manager's schedule at the claim's own count. A refused redeem call raises the count of
the entry only.

* `Trading.refuse`: what a refused redeem call leaves;
* `Idle`, `Step.idle`: while calls are refused, every claim is pending and counts no retries;
* `failures`, `attempts_run`: the attempts of an entry are the refused calls since the retries were last dropped;
* `retries_never_follow`: what a refused call schedules, and what is then shown.
-/

namespace Polyfast

namespace SettlementRetryState

variable {r : SettlementRetryState} {now : Time}

/-- The delay of settlement's own schedule after failure number `k`. -/
theorem nextRetryAt_scheduleNext (h : r.attemptCount + 1 < claimRedeemMaxRetries) :
    (r.scheduleNext now).nextRetryAt = now + (({} : ClaimRedeemConfig).delay (r.attemptCount + 1) : ℚ) := by
  have hdelay : SettlementRetryState.getRetryDelay { r with attemptCount := r.attemptCount + 1 } =
      (({} : ClaimRedeemConfig).delay (r.attemptCount + 1) : ℚ) := by
    simp only [getRetryDelay, ClaimRedeemConfig.delay, Nat.succ_ne_zero, if_false, Nat.add_sub_cancel,
      claimRedeemRetrySchedule, claimRedeemRetrySteady]
    rcases r.attemptCount with _ | _ | n
    · simp
    · simp
    · simp
  unfold scheduleNext
  dsimp only
  rw [if_neg (Nat.not_le.mpr h), hdelay]

end SettlementRetryState

namespace Trading

variable {s s' : Trading} {w : World} {p : PositionRecord} {id : PositionId} {cfg : ClaimRedeemConfig}
  {r : SettlementRetryState} {e : String}

/-- The state after a refused redeem call of the position, with the entry that is written then. -/
def refuse (s : Trading) (w : World) (p : PositionRecord) (r : SettlementRetryState) (e : String) : Trading :=
  let t := (s.answered (.redeem p.positionId p.conditionId false)).noteError r.claimId e
  t.writeRetry (r.scheduleNext (t.instant w).now)

/-- The attempts that the entry of the position counts. -/
def attempts (s : Trading) (id : PositionId) : ℕ :=
  (s.settlement.retryStates.get? id).elim 0 SettlementRetryState.attemptCount

/-- Live mode, the configured schedule, and only pending claims, whose retries are not counted. -/
structure Idle (cfg : ClaimRedeemConfig) (s : Trading) : Prop where
  live : s.settlement.paperMode = false
  schedule : s.claims.retrySchedule = [(cfg.retryInitialSeconds : ℚ), (cfg.retrySecondSeconds : ℚ)] ∧
    s.claims.retrySteady = cfg.retrySteadySeconds
  claims : ∀ k c, s.claims.claims.get? k = some c → c.isPending = true ∧ c.retryCount = 0

theorem Idle.notSuccess (h : Idle cfg s) {k : ClaimId} {c : ClaimRecord} (hc : s.claims.claims.get? k = some c) :
    c.isSuccess = false := by
  have hpending := (h.claims k c hc).1
  simp only [ClaimRecord.isPending, decide_eq_true_eq] at hpending
  simp [ClaimRecord.isSuccess, hpending]

/-- The dashboard shows no retry of any claim. -/
theorem Idle.retry_shown (h : Idle cfg s) {v : ClaimSummary} (hv : v ∈ getClaims s.claims) : v.retry = some 0 := by
  obtain ⟨c, hc, -, rfl⟩ := mem_getClaims.mp hv
  simp only [buildClaimContract, (h.claims c.claimId c hc).2]

/-- The dashboard shows a claim with no retry and the first delay. -/
theorem Idle.shown (h : Idle cfg s) {k : ClaimId} {c : ClaimRecord} (hc : s.claims.claims.get? k = some c) :
    ∃ v ∈ getClaims s.claims, v.claimId = k ∧ v.retry = some 0 ∧ v.nextSec = some (cfg.retryInitialSeconds : ℚ) := by
  obtain ⟨hpending, hretries⟩ := h.claims k c hc
  have hcid : c.claimId = k := Lib.Table.key_of_get? hc
  have hmem : buildClaimContract c s.claims ∈ getClaims s.claims :=
    mem_getClaims.mpr ⟨c, by rw [hcid]; exact hc, hpending, rfl⟩
  have hsec := nextSec_ofConfig cfg c h.schedule.1 h.schedule.2
  rw [hretries] at hsec
  exact ⟨_, hmem, hcid, h.retry_shown hmem, hsec⟩

/-! ### A refused call -/

theorem noteError_state (s : Trading) (k : ClaimId) (e : String) :
    (s.noteError k e).trace = s.trace ∧ (s.noteError k e).settlement = s.settlement ∧
      (s.noteError k e).tracker = s.tracker ∧ (s.noteError k e).claims.retrySchedule = s.claims.retrySchedule ∧
      (s.noteError k e).claims.retrySteady = s.claims.retrySteady := by
  unfold noteError
  split <;> exact ⟨rfl, rfl, rfl, rfl, rfl⟩

theorem executeRedeemForClaim_noted (hlive : s.settlement.paperMode = false) (hw : RefusesRedeems w)
    (p : PositionRecord) (k : ClaimId) : ∃ e, s.executeRedeemForClaim w p k =
      .returns ((s.answered (.redeem p.positionId p.conditionId false)).noteError k e) false := by
  obtain ⟨reply, hr, hfalse⟩ := hw s.trace.length
  have hreply : (s.instant w).redeem = .ok reply := hr
  refine ⟨reply.error, ?_⟩
  unfold executeRedeemForClaim noteError
  rw [if_neg (by simp [hlive]), hreply]
  dsimp only
  rw [hfalse, if_neg Bool.false_ne_true]
  cases (s.answered (.redeem p.positionId p.conditionId false)).claims.claims.get? k <;> rfl

theorem entry_refuse (hr : r.positionId = p.positionId) (k : PositionId) :
    (s.refuse w p r e).settlement.retryStates.get? k =
      if p.positionId = k then some (r.scheduleNext ((s.refuse w p r e).instant w).now)
      else s.settlement.retryStates.get? k := by
  rw [refuse, get?_writeRetry, SettlementRetryState.positionId_scheduleNext, hr, (noteError_state _ _ _).2.1]
  rfl

theorem claim_refuse (k : ClaimId) : (s.refuse w p r e).claims.claims.get? k =
    (s.claims.claims.get? k).map (fun c => if k = r.claimId then { c with lastError := e } else c) :=
  ClaimCall.get?_noteError _ _ _ k

theorem redeemCalls_refuse (k : PositionId) :
    (s.refuse w p r e).redeemCalls k = s.redeemCalls k + (decide (p.positionId = k)).toNat :=
  redeemCalls_redeem (s := s) (noteError_state _ _ _).1 k

theorem Idle.refuse (h : Idle cfg s) : Idle cfg (s.refuse w p r e) where
  live := (congrArg SettlementOrchestrator.paperMode (noteError_state _ _ _).2.1).trans h.live
  schedule := ⟨(noteError_state _ _ _).2.2.2.1.trans h.schedule.1, (noteError_state _ _ _).2.2.2.2.trans h.schedule.2⟩
  claims k c hc := by
    rw [claim_refuse] at hc
    obtain ⟨u, hu, rfl⟩ := Option.map_eq_some_iff.mp hc
    split_ifs
    · exact h.claims k u hu
    · exact h.claims k u hu

theorem Idle.createClaim (h : Idle cfg s) (p : PositionRecord) (now : Time) : Idle cfg (s.createClaim p now) where
  live := h.live
  schedule := by
    have hpersist : ∀ (m : ClaimManager) (k : ClaimId), (m.persist k).retrySchedule = m.retrySchedule ∧
        (m.persist k).retrySteady = m.retrySteady := by
      intro m k
      unfold ClaimManager.persist
      split_ifs <;> exact ⟨rfl, rfl⟩
    exact ⟨(hpersist _ _).1.trans h.schedule.1, (hpersist _ _).2.trans h.schedule.2⟩
  claims k c hc := by
    rw [Trading.get?_createClaim] at hc
    split_ifs at hc
    · rw [← Option.some.inj hc]
      exact ⟨rfl, rfl⟩
    · exact h.claims k c hc

/-- A refused call: from what entry it was made, and how the state goes on. -/
structure RefusedCall (s : Trading) (w : World) (id : PositionId) (s' : Trading) : Prop where
  calls : ∀ k, s'.redeemCalls k = s.redeemCalls k + (decide (id = k)).toNat
  entries : ∀ k, id ≠ k → s'.settlement.retryStates.get? k = s.settlement.retryStates.get? k
  entry : ∃ r : SettlementRetryState, r.attemptCount = s.attempts id ∧ r.exhausted = false ∧
    s'.settlement.retryStates.get? id = some (r.scheduleNext (s'.instant w).now) ∧
    ∃ c, s'.claims.claims.get? r.claimId = some c

theorem RefusedCall.of_refuse (hr : r.positionId = p.positionId) (hattempts : r.attemptCount = s.attempts p.positionId)
    (hex : r.exhausted = false) (hclaim : ∃ c, s.claims.claims.get? r.claimId = some c) :
    RefusedCall s w p.positionId (s.refuse w p r e) where
  calls := redeemCalls_refuse
  entries k hk := by rw [entry_refuse hr, if_neg hk]
  entry := by
    refine ⟨r, hattempts, hex, by rw [entry_refuse hr, if_pos rfl], ?_⟩
    obtain ⟨c, hc⟩ := hclaim
    exact ⟨_, by rw [claim_refuse, hc, Option.map_some]⟩

/-- Nothing was redeemed, and the attempts are those of before. -/
structure Waited (s s' : Trading) : Prop where
  calls : ∀ k, s'.redeemCalls k = s.redeemCalls k
  attempts : ∀ k, s'.attempts k = s.attempts k

theorem Waited.refl (s : Trading) : Waited s s := ⟨fun _ => rfl, fun _ => rfl⟩

/-- **A retry** waits, or makes a call that is refused. -/
theorem retryOne_refused (h : Idle cfg s) (hw : RefusesRedeems w) (id : PositionId) :
    Idle cfg (s.retryOne w id).state ∧
      (Waited s (s.retryOne w id).state ∨ RefusedCall s w id (s.retryOne w id).state) := by
  rcases retryOne_state s w id with ⟨-, hstate⟩ | ⟨r, p, hr, hready, hp, hstate⟩
  · rw [hstate]
    exact ⟨h, .inl (.refl s)⟩
  · have hrid : r.positionId = id := Lib.Table.key_of_get? hr
    obtain rfl : p.positionId = id := Lib.Table.key_of_get? hp
    rw [hstate]
    cases hc : s.claims.claims.get? r.claimId with
    | none =>
      -- the claim is gone: the entry is given up, its count stays
      have hgone : (s.retrySettle w p r).state = s.writeRetry { r with exhausted := true } := by
        simp only [retrySettle, hc]
        rfl
      rw [hgone]
      refine ⟨⟨h.live, h.schedule, h.claims⟩, .inl ⟨fun _ => rfl, fun k => ?_⟩⟩
      unfold attempts
      rw [get?_writeRetry]
      dsimp only
      rw [hrid]
      split_ifs with hk
      · rw [← hk, hr]
        rfl
      · rfl
    | some c =>
      obtain ⟨e, hcall⟩ := executeRedeemForClaim_noted h.live hw p r.claimId
      have hrefuse : (s.retrySettle w p r).state = s.refuse w p r e := by
        simp only [retrySettle, hc, h.notSuccess hc, Bool.false_eq_true, if_false, hcall]
        rfl
      have hex : r.exhausted = false := by
        simp only [SettlementRetryState.isReady, Bool.and_eq_true, Bool.not_eq_true'] at hready
        exact hready.1
      rw [hrefuse]
      exact ⟨h.refuse, .inr (.of_refuse hrid (by rw [attempts, hr]; rfl) hex ⟨c, hc⟩)⟩

/-- The resolution check redeems nothing and writes no claim and no entry. -/
theorem checkResolved_waits (h : Idle cfg s) (c : ConditionId) :
    Idle cfg (s.checkResolved w c).1 ∧ Waited s (s.checkResolved w c).1 ∧
      (s.checkResolved w c).1.settlement.retryStates = s.settlement.retryStates := by
  obtain ⟨-, hclaims, hretries⟩ := checkResolved_same s w c
  have ha := (checkResolved_aside s w c).1
  refine ⟨⟨ha.settlementMode.trans h.live, by rw [hclaims]; exact h.schedule, by rw [hclaims]; exact h.claims⟩,
    ⟨redeemCalls_asks ha.trace, fun k => ?_⟩, hretries⟩
  rw [attempts, hretries, attempts]

/-- **A scan** waits, or makes a first call that is refused. -/
theorem scanOne_refused (h : Idle cfg s) (hw : RefusesRedeems w) (p : PositionRecord) :
    Idle cfg (s.scanOne w p).state ∧
      (Waited s (s.scanOne w p).state ∨ RefusedCall s w p.positionId (s.scanOne w p).state) := by
  obtain ⟨hidle, hwaited, hretries⟩ := checkResolved_waits (w := w) h p.conditionId
  rcases scanOne_state s w p with ⟨-, hstate | hstate⟩ | ⟨hdue, hstate⟩
  · rw [hstate]
    exact ⟨h, .inl (.refl s)⟩
  · rw [hstate]
    exact ⟨hidle, .inl hwaited⟩
  · rw [hstate]
    have hnone : (s.checkResolved w p.conditionId).1.settlement.retryStates.get? p.positionId = none := by
      rw [hretries, hdue.1]
    generalize (s.checkResolved w p.conditionId).1 = t at hidle hwaited hretries hnone
    have hcreated : Idle cfg (t.createClaim p (t.instant w).now) := hidle.createClaim p _
    obtain ⟨e, hcall⟩ := executeRedeemForClaim_noted hcreated.live hw p t.uuids
    have hrefuse : (t.settlePosition w p).state = (t.createClaim p (t.instant w).now).refuse w p
        { positionId := p.positionId, claimId := t.uuids } e := by
      simp only [settlePosition, hcall]
      rfl
    have hnew : (t.createClaim p (t.instant w).now).claims.claims.get? t.uuids =
        some (ClaimManager.newClaim t.uuids p (t.instant w).now) := get?_createClaim_self p _
    have hzero : s.attempts p.positionId = 0 := by rw [attempts, hdue.1]; rfl
    have hrefused : RefusedCall (t.createClaim p (t.instant w).now) w p.positionId (t.settlePosition w p).state := by
      rw [hrefuse]
      exact .of_refuse rfl (by rw [attempts]; exact (congrArg (Option.elim · 0 _) hnone).symm) rfl ⟨_, hnew⟩
    refine ⟨by rw [hrefuse]; exact hcreated.refuse, .inr ⟨fun k => ?_, fun k hk => ?_, ?_⟩⟩
    · rw [hrefused.calls, ← hwaited.calls]
      rfl
    · rw [hrefused.entries k hk, ← hretries]
      rfl
    · obtain ⟨r, hattempts, hrest⟩ := hrefused.entry
      refine ⟨r, ?_, hrest⟩
      rw [hattempts, hzero]
      exact congrArg (Option.elim · 0 _) hnone

end Trading

namespace SettleDesk

open Trading

/-- What the turn can observe. -/
def Label.world : Label → Option World
  | retry w _ | scan w _ => some w
  | _ => none

/-- The retries of the position are dropped. -/
def drops (id : PositionId) (x : Lib.Taken SettleDesk Label) : Bool :=
  match x.label with
  | .drop k => k = id
  | _ => false

/-- A redeem call is made for the position. -/
def redeems (id : PositionId) (x : Lib.Taken SettleDesk Label) : Bool :=
  x.pre.trading.redeemCalls id < x.post.trading.redeemCalls id

/-- The redeem calls for the position since its retries were last dropped. -/
def failures (id : PositionId) (tr : List (Lib.Taken SettleDesk Label)) : ℕ := Lib.since (drops id) (redeems id) tr

/-- After failure number `k`, at time `t`: the next attempt is scheduled after the configured delay, until the
configured number of attempts exhausts the retries. -/
structure FollowsSchedule (cfg : ClaimRedeemConfig) (s : Trading) (id : PositionId) (k : ℕ) (t : Time) : Prop where
  scheduled : k < cfg.maxRetryAttempts → ∃ r, s.settlement.retryStates.get? id = some r ∧ r.exhausted = false ∧
    r.nextRetryAt = t + cfg.delay k
  exhausted : cfg.maxRetryAttempts ≤ k → ∃ r, s.settlement.retryStates.get? id = some r ∧ r.exhausted = true

/-- Besides, the dashboard lists the claim with that number and that delay. -/
structure FollowsConfig (cfg : ClaimRedeemConfig) (s : Trading) (id : PositionId) (k : ℕ) (t : Time) : Prop
    extends FollowsSchedule cfg s id k t where
  shown : ∀ r, s.settlement.retryStates.get? id = some r → ∃ v ∈ getClaims s.claims, v.claimId = r.claimId ∧
    v.retry = some k ∧ v.nextSec = some (cfg.delay k : ℚ)

variable {d d' : SettleDesk} {l : Label} {cfg : ClaimRedeemConfig} {id : PositionId} {w : World} {k : ℕ} {t : Time}
  {tr tr₁ tr₂ : List (Lib.Taken SettleDesk Label)} {x : Lib.Taken SettleDesk Label}

/-! ### One step -/

/-- What orders, exits and close requests leave alone. -/
theorem Step.waits (hs : Step d l d') (hd : Sound d) (hl : l.Refused) (hturn : l.isTurn = false)
    (h : Idle cfg d.trading) : Idle cfg d'.trading ∧ Waited d.trading d'.trading := by
  obtain ⟨hsettlement, hclaims, htrace, -⟩ := hs.notTurn hd hl hturn
  have hmanager : d'.trading.claims = d.trading.claims := by
    cases hs with
    | trade l e hset hst => exact (hst.tradeFrame hd.desk hset).2 hl
    | requestClose id reason triggers now =>
      show (d.trading.requestClose id reason triggers now).state.claims = _
      rw [requestClose_state]
      rfl
    | retry w id => cases hturn
    | drop id hover => cases hturn
    | scan w p hp hr => cases hturn
    | startAgain ps cs now hnodup hps => cases hl
    | restart ps cs now hnodup hps => cases hl
  refine ⟨⟨by rw [hsettlement]; exact h.live, by rw [hmanager]; exact h.schedule, by rw [hmanager]; exact h.claims⟩,
    redeemCalls_asks htrace, fun k => ?_⟩
  rw [attempts, hsettlement, attempts]

/-- A step waits, drops an entry, or makes a redeem call that is refused. -/
theorem Step.refusedOr (hs : Step d l d') (hd : Sound d) (hl : l.Refused) (h : Idle cfg d.trading) :
    Idle cfg d'.trading ∧ ((∀ k, l ≠ .drop k) ∧ Waited d.trading d'.trading ∨
      (∃ k, l = .drop k ∧ d'.trading = d.trading.dropRetry k) ∨
      ∃ w k, l.world = some w ∧ RefusedCall d.trading w k d'.trading) := by
  have hframe : l.isTurn = false → Idle cfg d'.trading ∧ (∀ k, l ≠ .drop k) ∧ Waited d.trading d'.trading := by
    intro hturn
    obtain ⟨hidle, hwaited⟩ := hs.waits hd hl hturn h
    refine ⟨hidle, fun k hk => ?_, hwaited⟩
    rw [hk] at hturn
    cases hturn
  cases hs with
  | trade l e hset hst => exact ⟨(hframe rfl).1, .inl (hframe rfl).2⟩
  | requestClose id reason triggers now => exact ⟨(hframe rfl).1, .inl (hframe rfl).2⟩
  | retry w id =>
    obtain ⟨hidle, hcase⟩ := retryOne_refused h hl id
    exact ⟨hidle, hcase.elim (fun hwait => .inl ⟨by simp, hwait⟩) (fun hcall => .inr (.inr ⟨w, id, rfl, hcall⟩))⟩
  | drop id hover => exact ⟨⟨h.live, h.schedule, h.claims⟩, .inr (.inl ⟨id, rfl, rfl⟩)⟩
  | scan w p hp hr =>
    obtain ⟨hidle, hcase⟩ := scanOne_refused h hl p
    exact ⟨hidle, hcase.elim (fun hwait => .inl ⟨by simp, hwait⟩)
      (fun hcall => .inr (.inr ⟨w, p.positionId, rfl, hcall⟩))⟩
  | startAgain ps cs now hnodup hps => cases hl
  | restart ps cs now hnodup hps => cases hl

theorem Step.idle (hs : Step d l d') (hd : Sound d) (hl : l.Refused) (h : Idle cfg d.trading) :
    Idle cfg d'.trading := (hs.refusedOr hd hl h).1

theorem drops_false (h : ∀ k, l ≠ .drop k) : drops id ⟨d, l, d'⟩ = false := by
  cases l with
  | drop k => exact absurd rfl (h k)
  | trade l => rfl
  | requestClose k reason triggers now => rfl
  | retry w k => rfl
  | scan w p => rfl
  | startAgain ps cs now => rfl
  | restart ps cs now => rfl

theorem redeems_of_calls {n : ℕ} (h : d'.trading.redeemCalls id = d.trading.redeemCalls id + n) :
    redeems id ⟨d, l, d'⟩ = decide (0 < n) := by
  simp [redeems, h]

/-- **The attempts of an entry** go up with every refused call, and are forgotten when it is dropped. -/
theorem Step.attempts (hs : Step d l d') (hd : Sound d) (hl : l.Refused) (h : Idle cfg d.trading)
    (id : PositionId) : d'.trading.attempts id =
      if drops id ⟨d, l, d'⟩ then 0 else d.trading.attempts id + (redeems id ⟨d, l, d'⟩).toNat := by
  obtain ⟨-, ⟨hno, hwait⟩ | ⟨k, rfl, hdrop⟩ | ⟨w, k, hworld, hcall⟩⟩ := hs.refusedOr hd hl h
  · rw [drops_false hno, redeems_of_calls (n := 0) (hwait.calls id), hwait.attempts]
    rfl
  · have hcalls : d'.trading.redeemCalls id = d.trading.redeemCalls id := by rw [hdrop]; rfl
    rw [redeems_of_calls (n := 0) hcalls, Trading.attempts, hdrop, get?_dropRetry]
    by_cases hk : k = id
    · simp [drops, hk]
    · simp [drops, hk, Trading.attempts]
  · have hno : ∀ j, l ≠ .drop j := by
      rintro j rfl
      cases hworld
    rw [drops_false hno, redeems_of_calls (hcall.calls id)]
    by_cases hk : k = id
    · subst hk
      obtain ⟨r, hattempts, -, hentry, -⟩ := hcall.entry
      rw [Trading.attempts, hentry, Option.elim_some, SettlementRetryState.attemptCount_scheduleNext, hattempts]
      simp
    · rw [Trading.attempts, hcall.entries id hk]
      simp [hk, Trading.attempts]

/-! ### Runs -/

theorem idle_start {store : Bool} (h : Unsettled d) (hclaims : d.trading.claims = .ofConfig cfg false store) :
    Idle cfg d.trading where
  live := h.live
  schedule := by
    rw [hclaims]
    exact ⟨rfl, rfl⟩
  claims k c hc := by
    rw [h.claims] at hc
    cases hc

/-- **The attempts of an entry** are the failures of its position. -/
theorem attempts_run (h : Unsettled d) (hidle : Idle cfg d.trading) (hrun : Lib.Run Step d tr d')
    (hl : ∀ y ∈ tr, y.label.Refused) :
    Sound d' ∧ Idle cfg d'.trading ∧ d'.trading.attempts id = failures id tr := by
  induction hrun with
  | nil =>
    refine ⟨h.sound, hidle, ?_⟩
    rw [Trading.attempts, h.retryStates]
    rfl
  | snoc _ hst ih =>
    rw [List.forall_mem_append, List.forall_mem_singleton] at hl
    obtain ⟨hsound, hidle', hcount⟩ := ih hl.1
    refine ⟨hsound.step hst, hst.idle hsound hl.2 hidle', ?_⟩
    rw [hst.attempts hsound hl.2 hidle', failures, Lib.since_concat, hcount, failures]

/-- What a refused call schedules, by settlement's own constants. -/
theorem followsSchedule_iff {s : Trading} {r : SettlementRetryState} (hex : r.exhausted = false)
    (hentry : s.settlement.retryStates.get? id = some (r.scheduleNext t)) (hk : r.attemptCount + 1 = k) :
    FollowsSchedule cfg s id k t ↔
      (k < cfg.maxRetryAttempts → k < claimRedeemMaxRetries ∧ cfg.delay k = ({} : ClaimRedeemConfig).delay k) ∧
        (cfg.maxRetryAttempts ≤ k → claimRedeemMaxRetries ≤ k) := by
  have hexhausted := r.exhausted_scheduleNext t hex
  rw [hk] at hexhausted
  have hnext : k < claimRedeemMaxRetries →
      (r.scheduleNext t).nextRetryAt = t + (({} : ClaimRedeemConfig).delay k : ℚ) := by
    intro hlt
    subst hk
    exact SettlementRetryState.nextRetryAt_scheduleNext hlt
  constructor
  · rintro ⟨hscheduled, hdone⟩
    refine ⟨fun hlt => ?_, fun hle => ?_⟩
    · obtain ⟨u, hu, hlive, hat⟩ := hscheduled hlt
      obtain rfl := Option.some.inj (hentry.symm.trans hu)
      rw [hexhausted, decide_eq_false_iff_not, not_le] at hlive
      rw [hnext hlive] at hat
      exact ⟨hlive, by exact_mod_cast (add_left_cancel hat).symm⟩
    · obtain ⟨u, hu, hover⟩ := hdone hle
      obtain rfl := Option.some.inj (hentry.symm.trans hu)
      rwa [hexhausted, decide_eq_true_eq] at hover
  · rintro ⟨hscheduled, hdone⟩
    refine ⟨fun hlt => ?_, fun hle => ?_⟩
    · obtain ⟨hlive, hdelay⟩ := hscheduled hlt
      refine ⟨_, hentry, by rw [hexhausted, decide_eq_false_iff_not, not_le]; exact hlive, ?_⟩
      rw [hnext hlive, hdelay]
    · exact ⟨_, hentry, by rw [hexhausted, decide_eq_true_eq]; exact hdone hle⟩

/-- **Claim retries never follow the configuration.** In every run of a live bot from positions of which nothing has
been settled, in which the relayer refuses every redeem call: after failure number `k` of a position the dashboard
shows its claim with no retry and the first delay, so the property fails for every configuration and every `k`. The
part about the schedule holds exactly where the configured delay and limit are settlement's own. -/
theorem retries_never_follow {store : Bool} (h : Unsettled d) (hclaims : d.trading.claims = .ofConfig cfg false store)
    (hrun : Lib.Run Step d tr d') (hl : ∀ y ∈ tr, y.label.Refused) (htr : tr = tr₁ ++ x :: tr₂)
    (hw : x.label.world = some w) (hfails : redeems id x = true) :
    ¬FollowsConfig cfg x.post.trading id (failures id (tr₁ ++ [x])) (x.post.trading.instant w).now ∧
      (FollowsSchedule cfg x.post.trading id (failures id (tr₁ ++ [x])) (x.post.trading.instant w).now ↔
        (failures id (tr₁ ++ [x]) < cfg.maxRetryAttempts → failures id (tr₁ ++ [x]) < claimRedeemMaxRetries ∧
          cfg.delay (failures id (tr₁ ++ [x])) = ({} : ClaimRedeemConfig).delay (failures id (tr₁ ++ [x]))) ∧
        (cfg.maxRetryAttempts ≤ failures id (tr₁ ++ [x]) → claimRedeemMaxRetries ≤ failures id (tr₁ ++ [x]))) ∧
      ∃ r, x.post.trading.settlement.retryStates.get? id = some r ∧
        ∃ v ∈ getClaims x.post.trading.claims, v.claimId = r.claimId ∧ v.retry = some 0 ∧
          v.nextSec = some (cfg.retryInitialSeconds : ℚ) := by
  subst htr
  obtain ⟨m, hfirst, hrest⟩ := Lib.Run.split hrun
  obtain ⟨hm, hst, -⟩ := Lib.Run.cons_inv hrest
  rw [List.forall_mem_append, List.forall_mem_cons] at hl
  obtain ⟨hl₁, hlx, -⟩ := hl
  obtain ⟨pre, label, post⟩ := x
  dsimp only at hm hst hw hlx ⊢
  subst hm
  obtain ⟨hsound, hidle, -⟩ : Sound pre ∧ Idle cfg pre.trading ∧ pre.trading.attempts id = failures id tr₁ :=
    attempts_run h (idle_start h hclaims) hfirst hl₁
  have hcount : post.trading.attempts id = failures id (tr₁ ++ [⟨pre, label, post⟩]) :=
    (attempts_run h (idle_start h hclaims) (hfirst.snoc hst)
      (List.forall_mem_append.mpr ⟨hl₁, List.forall_mem_singleton.mpr hlx⟩)).2.2
  have hidle' := hst.idle hsound hlx hidle
  -- the step makes a call, and the call is for this position
  obtain ⟨-, ⟨-, hwait⟩ | ⟨j, rfl, -⟩ | ⟨w', j, hworld, hcall⟩⟩ := hst.refusedOr hsound hlx hidle
  · rw [redeems_of_calls (n := 0) (hwait.calls id)] at hfails
    cases hfails
  · cases hw
  · obtain rfl := Option.some.inj (hw.symm.trans hworld)
    rw [redeems_of_calls (hcall.calls id)] at hfails
    obtain rfl : j = id := by
      by_contra hj
      simp [hj] at hfails
    obtain ⟨r, -, hex, hentry, c, hc⟩ := hcall.entry
    have hk : r.attemptCount + 1 = failures j (tr₁ ++ [⟨pre, label, post⟩]) := by
      rw [← hcount, Trading.attempts, hentry, Option.elim_some, SettlementRetryState.attemptCount_scheduleNext]
    refine ⟨?_, followsSchedule_iff hex hentry hk, _, hentry, ?_⟩
    · rintro ⟨-, hshown⟩
      obtain ⟨v, hv, -, hretry, -⟩ := hshown _ hentry
      rw [hidle'.retry_shown hv] at hretry
      have hzero := Option.some.inj hretry
      omega
    · rw [SettlementRetryState.claimId_scheduleNext]
      exact hidle'.shown hc

/-! ### The first failure under the default configuration -/

theorem heldDesk_claims : heldDesk.trading.claims = .ofConfig {} false false := by
  simp [ClaimManager.ofConfig, heldDesk, trading]

/-- The scan of the position, whose redeem call is refused. -/
def firstFailure : Lib.Taken SettleDesk Label := ⟨heldDesk, .scan (refusingAt 600) heldPosition, refusedOnce⟩

theorem firstFailure_run : Lib.Run Step heldDesk [firstFailure] refusedOnce :=
  .single (.scan heldDesk (refusingAt 600) heldPosition rfl rfl)

theorem retries_never_follow_first :
    ¬FollowsConfig {} refusedOnce.trading 0 (failures 0 [firstFailure])
      (refusedOnce.trading.instant (refusingAt 600)).now :=
  (retries_never_follow heldDesk_unsettled heldDesk_claims firstFailure_run
    (by simp [firstFailure, Label.Refused, refuses_refusingAt]) (show [firstFailure] = [] ++ [firstFailure] from rfl)
    rfl (by decide +kernel)).1

/-- **Shown as not tried yet**: with the default configuration, after the first failed redeem the dashboard shows the
claim with retry 0. -/
theorem first_failure_not_counted :
    ∃ tr d, Lib.Run Step heldDesk tr d ∧ failures 0 tr = 1 ∧
      (getClaims d.trading.claims).map ClaimSummary.retry = [some 0] ∧ ∀ t, ¬FollowsConfig {} d.trading 0 1 t := by
  refine ⟨_, _, firstFailure_run, by decide +kernel, by decide +kernel, fun t hfollows => ?_⟩
  have hshows : (getClaims refusedOnce.trading.claims).map ClaimSummary.retry = [some 0] := by decide +kernel
  obtain ⟨r, hr, -⟩ := hfollows.scheduled (by decide)
  obtain ⟨v, hv, -, hretry, -⟩ := hfollows.shown r hr
  have hmem := List.mem_map_of_mem (f := ClaimSummary.retry) hv
  rw [hshows, List.mem_singleton, hretry] at hmem
  cases hmem

end SettleDesk

end Polyfast
