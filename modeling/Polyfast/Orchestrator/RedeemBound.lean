import Polyfast.Orchestrator.SettleDesk

/-!
# How often a position is redeemed in vain

The attempts are counted in the retry entry. When they are exhausted, the next call of `process_settlements`
drops the entry and then scans the closed positions; the position has no entry and no successful claim, so it
is settled from the beginning, with a new claim.

* `executeRedeemForClaim_refused`: a redeem call that the relayer refuses;
* `Counted`: the attempts of an entry are the redeem calls of its position;
* `redeem_bounded_iff`: when a position gets at most `CLAIM_REDEEM_MAX_RETRIES` redeem calls.
-/

namespace Polyfast

/-- The relayer answers every redeem call, and reports no success. -/
def RefusesRedeems (w : World) : Prop := ∀ n, ∃ r, (w n).redeem = .ok r ∧ r.success.truthy = false

namespace SettlementRetryState

variable (r : SettlementRetryState)

theorem attemptCount_scheduleNext (now : Time) : (r.scheduleNext now).attemptCount = r.attemptCount + 1 := by
  unfold scheduleNext
  dsimp only
  split_ifs <;> rfl

theorem exhausted_scheduleNext (now : Time) (h : r.exhausted = false) :
    (r.scheduleNext now).exhausted = decide (claimRedeemMaxRetries ≤ r.attemptCount + 1) := by
  unfold scheduleNext
  dsimp only
  split_ifs with hmax
  · exact (decide_eq_true hmax).symm
  · rw [decide_eq_false hmax]
    exact h

end SettlementRetryState

namespace Trading

variable {s s' : Trading} {w : World} {p : PositionRecord} {id : PositionId}

/-- A redeem call for the position was refused: it is recorded, and at most an error text is written. -/
structure Refused (s s' : Trading) (p : PositionRecord) : Prop where
  settlement : s'.settlement = s.settlement
  tracker : s'.tracker = s.tracker
  trace : s'.trace = s.trace ++ [.redeem p.positionId p.conditionId false]
  claims : ∀ k, (s'.claims.claims.get? k).map ClaimRecord.isSuccess = (s.claims.claims.get? k).map ClaimRecord.isSuccess

theorem executeRedeemForClaim_refused (hlive : s.settlement.paperMode = false) (hw : RefusesRedeems w) (c : ClaimId) :
    (s.executeRedeemForClaim w p c).result = .ok false ∧ Refused s (s.executeRedeemForClaim w p c).state p := by
  obtain ⟨r, hr, hfalse⟩ := hw s.trace.length
  have hreply : (s.instant w).redeem = .ok r := hr
  unfold executeRedeemForClaim
  rw [if_neg (by simp [hlive]), hreply]
  dsimp only
  rw [hfalse, if_neg Bool.false_ne_true]
  have hclaims : (s.answered (.redeem p.positionId p.conditionId false)).claims = s.claims := rfl
  rw [hclaims]
  cases hc : s.claims.claims.get? c with
  | none => exact ⟨rfl, rfl, rfl, rfl, fun _ => rfl⟩
  | some u =>
    refine ⟨rfl, rfl, rfl, rfl, fun k => ?_⟩
    simp only [Call.state_returns, ClaimManager.claims_write, Lib.Table.get?_put]
    split_ifs with hk
    · have hkey : u.claimId = c := Lib.Table.key_of_get? hc
      rw [← hk, hkey, hc]
      rfl
    · rfl

theorem Refused.redeemCalls (h : Refused s s' p) (j : PositionId) :
    s'.redeemCalls j = s.redeemCalls j + (decide (p.positionId = j)).toNat := redeemCalls_redeem h.trace j

theorem Refused.wasRedeemed (h : Refused s s' p) (j : PositionId) :
    Polyfast.wasRedeemed s'.trace j = Polyfast.wasRedeemed s.trace j := by
  rw [h.trace, wasRedeemed_redeem, Bool.false_and, Bool.or_false]

/-! ### The attempts are the redeem calls -/

/-- The entry counts the redeem calls of its position; its claim and its position are there. -/
structure CountedEntry (s : Trading) (id : PositionId) (r : SettlementRetryState) : Prop where
  attempts : r.attemptCount = s.redeemCalls id
  bounds : 0 < r.attemptCount ∧ r.attemptCount ≤ claimRedeemMaxRetries
  exhausted : r.exhausted = decide (claimRedeemMaxRetries ≤ r.attemptCount)
  claim : ∃ c, s.claims.claims.get? r.claimId = some c
  position : ∃ q, s.tracker.positions.get? id = some q

/-- What a run keeps while every redeem call is refused. -/
structure Counted (s : Trading) : Prop where
  live : s.settlement.paperMode = false
  noSuccess : ∀ k c, s.claims.claims.get? k = some c → c.isSuccess = false
  unredeemed : ∀ id, wasRedeemed s.trace id = false
  entries : ∀ id r, s.settlement.retryStates.get? id = some r → s.CountedEntry id r
  others : ∀ id, s.settlement.retryStates.get? id = none →
    s.redeemCalls id = 0 ∨ s.redeemCalls id = claimRedeemMaxRetries

theorem Counted.le (h : Counted s) (id : PositionId) : s.redeemCalls id ≤ claimRedeemMaxRetries := by
  cases hr : s.settlement.retryStates.get? id with
  | none =>
    rcases h.others id hr with hz | hm
    · rw [hz]
      exact Nat.zero_le _
    · exact hm.le
  | some r =>
    have hentry := h.entries id r hr
    rw [← hentry.attempts]
    exact hentry.bounds.2

/-- After the last redeem call the position is not in retry. -/
theorem Counted.not_in_retry (h : Counted s) (hmax : s.redeemCalls id = claimRedeemMaxRetries) :
    s.settlement.isPositionInRetry id = false := by
  unfold SettlementOrchestrator.isPositionInRetry
  cases hr : s.settlement.retryStates.get? id with
  | none => rfl
  | some r =>
    have hentry := h.entries id r hr
    simp only [hentry.exhausted, hentry.attempts, hmax, le_refl, decide_true, Bool.not_true]

theorem Counted.isSettled (h : Counted s) (id : PositionId) : s.isSettled id = false := by
  rw [Trading.isSettled, List.any_eq_false]
  intro c hc
  rw [ClaimManager.getClaimsByPosition, List.mem_filter] at hc
  rw [h.noSuccess _ c (Lib.Table.mem_records.mp hc.1)]
  exact Bool.false_ne_true

/-- What redeems nothing and writes no claim and no entry keeps the count. -/
theorem Counted.frame (h : Counted s) (hsettlement : s'.settlement = s.settlement)
    (hclaims : s'.claims.claims = s.claims.claims) (htrace : AsksOnly s.trace s'.trace)
    (hpos : ∀ id, (s.tracker.positions.get? id).isSome = true → (s'.tracker.positions.get? id).isSome = true) :
    Counted s' where
  live := by rw [hsettlement, h.live]
  noSuccess k c hc := h.noSuccess k c (by rw [← hclaims, hc])
  unredeemed id := by rw [htrace.wasRedeemed, h.unredeemed]
  entries id r hr := by
    rw [hsettlement] at hr
    have hentry := h.entries id r hr
    refine ⟨by rw [redeemCalls_asks htrace, hentry.attempts], hentry.bounds, hentry.exhausted, ?_, ?_⟩
    · rw [hclaims]
      exact hentry.claim
    · exact Option.isSome_iff_exists.mp (hpos id (Option.isSome_iff_exists.mpr hentry.position))
  others id hr := by
    rw [redeemCalls_asks htrace]
    exact h.others id (by rw [← hr, hsettlement])

/-- A refused redeem call, and the entry that is then written. -/
theorem Counted.refused (h : Counted s) (hr : Refused s s' p) {r : SettlementRetryState} (now : Time)
    (hid : r.positionId = p.positionId) (hattempts : r.attemptCount = s.redeemCalls p.positionId)
    (hbound : r.attemptCount < claimRedeemMaxRetries) (hex : r.exhausted = false)
    (hclaim : ∃ c, s.claims.claims.get? r.claimId = some c)
    (hp : s.tracker.positions.get? p.positionId = some p) : Counted (s'.writeRetry (r.scheduleNext now)) := by
  have hcalls : ∀ j, (s'.writeRetry (r.scheduleNext now)).redeemCalls j =
      s.redeemCalls j + (decide (p.positionId = j)).toNat := hr.redeemCalls
  have hkept : ∀ k, (∃ c, s.claims.claims.get? k = some c) → ∃ c, s'.claims.claims.get? k = some c := by
    rintro k ⟨c, hc⟩
    have hmap := hr.claims k
    rw [hc, Option.map_some] at hmap
    obtain ⟨c', hc', -⟩ := Option.map_eq_some_iff.mp hmap
    exact ⟨c', hc'⟩
  have hget : ∀ j, (s'.writeRetry (r.scheduleNext now)).settlement.retryStates.get? j =
      if p.positionId = j then some (r.scheduleNext now) else s.settlement.retryStates.get? j := by
    intro j
    rw [get?_writeRetry, SettlementRetryState.positionId_scheduleNext, hid, hr.settlement]
  refine ⟨?_, fun k c hc => ?_, fun j => ?_, fun j u hu => ?_, fun j hu => ?_⟩
  · show s'.settlement.paperMode = false
    rw [hr.settlement, h.live]
  · have hmap := hr.claims k
    rw [show s'.claims.claims.get? k = some c from hc, Option.map_some] at hmap
    obtain ⟨c', hc', heq⟩ := Option.map_eq_some_iff.mp hmap.symm
    rw [← heq]
    exact h.noSuccess k c' hc'
  · show wasRedeemed s'.trace j = false
    rw [hr.wasRedeemed, h.unredeemed]
  · rw [hget] at hu
    split_ifs at hu with hj
    · obtain rfl := Option.some.inj hu
      subst hj
      refine ⟨?_, ?_, ?_, ?_, ⟨p, ?_⟩⟩
      · rw [r.attemptCount_scheduleNext, hcalls, hattempts, decide_eq_true rfl]
        rfl
      · rw [r.attemptCount_scheduleNext]
        exact ⟨Nat.succ_pos _, hbound⟩
      · rw [r.attemptCount_scheduleNext, r.exhausted_scheduleNext now hex]
      · rw [SettlementRetryState.claimId_scheduleNext]
        exact hkept _ hclaim
      · show s'.tracker.positions.get? p.positionId = some p
        rw [hr.tracker, hp]
    · have hentry := h.entries j u hu
      refine ⟨?_, hentry.bounds, hentry.exhausted, hkept _ hentry.claim, ?_⟩
      · rw [hcalls, decide_eq_false hj, hentry.attempts]
        rfl
      · show ∃ q, s'.tracker.positions.get? j = some q
        rw [hr.tracker]
        exact hentry.position
  · rw [hget] at hu
    split_ifs at hu with hj
    rw [hcalls, decide_eq_false hj]
    exact h.others j hu

/-! ### Turns that are refused -/

/-- **A retry** counts the call that is refused. -/
theorem Counted.retryOne (h : Counted s) (hw : RefusesRedeems w) (id : PositionId) :
    Counted (s.retryOne w id).state := by
  rcases retryOne_state s w id with ⟨-, hstate⟩ | ⟨r, p, hr, hready, hp, hstate⟩
  · rw [hstate]
    exact h
  · have hentry := h.entries id r hr
    have hkey : r.positionId = id := Lib.Table.key_of_get? hr
    have hpos : p.positionId = id := Lib.Table.key_of_get? hp
    obtain ⟨c, hc⟩ := hentry.claim
    obtain ⟨hresult, hrefused⟩ := executeRedeemForClaim_refused (p := p) h.live hw r.claimId
    have hex : r.exhausted = false := by
      simp only [SettlementRetryState.isReady, Bool.and_eq_true, Bool.not_eq_true'] at hready
      exact hready.1
    have hsettle : (s.retrySettle w p r).state = (s.executeRedeemForClaim w p r.claimId).state.writeRetry
        (r.scheduleNext ((s.executeRedeemForClaim w p r.claimId).state.instant w).now) := by
      simp only [retrySettle, hc, h.noSuccess _ c hc, Bool.false_eq_true, if_false, hresult]
      rfl
    have hbound : r.attemptCount < claimRedeemMaxRetries := by
      rw [hentry.exhausted, decide_eq_false_iff_not, not_le] at hex
      exact hex
    rw [hstate, hsettle]
    refine h.refused hrefused _ (hkey.trans hpos.symm) ?_ hbound hex ⟨c, hc⟩ ?_
    · rw [hpos]
      exact hentry.attempts
    · rw [hpos, hp]

/-- The check of a market counts nothing. -/
theorem Counted.checkResolved (h : Counted s) (w : World) (c : ConditionId) : Counted (s.checkResolved w c).1 := by
  have ha := (checkResolved_aside s w c).1
  have hretries := (checkResolved_same s w c).2.2
  have htracker := (checkResolved_frame w s c).tracker
  have hsame : Counted { s with trace := (s.checkResolved w c).1.trace } :=
    h.frame rfl rfl ha.trace fun _ hid => hid
  refine ⟨ha.settlementMode.trans h.live, fun k u hu => ?_, hsame.unredeemed, fun id r hr => ?_, fun id hr => ?_⟩
  · rw [ha.claims] at hu
    exact h.noSuccess k u hu
  · rw [hretries] at hr
    have hentry := hsame.entries id r hr
    exact ⟨hentry.attempts, hentry.bounds, hentry.exhausted, by rw [ha.claims]; exact hentry.claim,
      by rw [htracker]; exact hentry.position⟩
  · rw [hretries] at hr
    exact hsame.others id hr

/-- A new claim is open, so the count goes on as before. -/
theorem Counted.createClaim (h : Counted s) (p : PositionRecord) (now : Time) : Counted (s.createClaim p now) := by
  refine ⟨h.live, fun k c hc => ?_, h.unredeemed, fun j r hr => ?_, h.others⟩
  · rw [get?_createClaim] at hc
    split_ifs at hc
    · rw [← Option.some.inj hc]
      rfl
    · exact h.noSuccess k c hc
  · have hentry := h.entries j r hr
    refine ⟨hentry.attempts, hentry.bounds, hentry.exhausted, ?_, hentry.position⟩
    rw [get?_createClaim]
    split_ifs
    · exact ⟨_, rfl⟩
    · exact hentry.claim

/-- **A scan** that settles a position counts its first call. -/
theorem Counted.scanOne (h : Counted s) (hw : RefusesRedeems w)
    (hp : s.tracker.positions.get? p.positionId = some p)
    (hspare : s.redeemCalls p.positionId = claimRedeemMaxRetries → ¬s.ScanDue w p) :
    Counted (s.scanOne w p).state := by
  have hcheck := h.checkResolved w p.conditionId
  rcases scanOne_state s w p with ⟨-, hstate | hstate⟩ | ⟨hdue, hstate⟩
  · rw [hstate]
    exact h
  · rw [hstate]
    exact hcheck
  · have hasks := (checkResolved_aside s w p.conditionId).1.trace
    have hnone : (s.checkResolved w p.conditionId).1.settlement.retryStates.get? p.positionId = none := by
      rw [(checkResolved_same s w p.conditionId).2.2, hdue.1]
    have hget : (s.checkResolved w p.conditionId).1.tracker.positions.get? p.positionId = some p := by
      rw [(checkResolved_frame w s p.conditionId).tracker, hp]
    have hfirst : (s.checkResolved w p.conditionId).1.redeemCalls p.positionId = 0 := by
      refine (hcheck.others _ hnone).resolve_right fun hmax => hspare ?_ hdue
      rw [← redeemCalls_asks hasks, hmax]
    rw [hstate]
    generalize (s.checkResolved w p.conditionId).1 = t at hcheck hget hfirst
    have hclaim := hcheck.createClaim p (t.instant w).now
    obtain ⟨hresult, hrefused⟩ := executeRedeemForClaim_refused (p := p) hclaim.live hw t.uuids
    have hsettle : ∃ now, (t.settlePosition w p).state =
        ((t.createClaim p (t.instant w).now).executeRedeemForClaim w p t.uuids).state.writeRetry
          (SettlementRetryState.scheduleNext { positionId := p.positionId, claimId := t.uuids } now) := by
      unfold settlePosition
      simp only [hresult]
      exact ⟨_, rfl⟩
    obtain ⟨now, hsettle⟩ := hsettle
    rw [hsettle]
    have hnew : ∃ c, (t.createClaim p (t.instant w).now).claims.claims.get? t.uuids = some c :=
      ⟨_, get?_createClaim_self p _⟩
    exact hclaim.refused hrefused now rfl hfirst.symm (show 0 < claimRedeemMaxRetries by decide) rfl hnew hget

/-- **A drop** is of an entry that is exhausted. -/
theorem Counted.dropRetry (h : Counted s) (hover : s.RetryOver id) : Counted (s.dropRetry id) := by
  obtain ⟨r, hr, hwhy⟩ := hover
  have hentry := h.entries id r hr
  have hexhausted : r.exhausted = true := by
    rcases hwhy with hex | hgone | hred | ⟨c, hc, hs⟩
    · exact hex
    · obtain ⟨q, hq⟩ := hentry.position
      rw [hgone] at hq
      cases hq
    · rw [h.unredeemed id] at hred
      cases hred
    · rw [h.noSuccess _ c hc] at hs
      cases hs
  have hmax : s.redeemCalls id = claimRedeemMaxRetries := by
    rw [hentry.exhausted, decide_eq_true_eq, hentry.attempts] at hexhausted
    exact le_antisymm (h.le id) hexhausted
  refine ⟨h.live, h.noSuccess, h.unredeemed, fun j u hu => ?_, fun j hu => ?_⟩
  · rw [get?_dropRetry] at hu
    split_ifs at hu
    have hentry := h.entries j u hu
    exact ⟨hentry.attempts, hentry.bounds, hentry.exhausted, hentry.claim, hentry.position⟩
  · rw [get?_dropRetry] at hu
    split_ifs at hu with hj
    · rw [← hj]
      exact .inr hmax
    · exact h.others j hu

end Trading

namespace SettleDesk

open Trading

/-- The step is no reconciliation and no start, and the relayer refuses. -/
def Label.Refused : Label → Prop
  | trade l => l.isReconcile = false
  | retry w _ | scan w _ => RefusesRedeems w
  | requestClose _ _ _ _ | drop _ => True
  | startAgain _ _ _ | restart _ _ _ => False

/-- The redeem calls of every position are bounded, and a position that has had them all is left alone. -/
def Bounded (x : Lib.Taken SettleDesk Label) : Prop :=
  ∀ id, x.post.trading.redeemCalls id ≤ claimRedeemMaxRetries ∧
    (x.pre.trading.redeemCalls id = claimRedeemMaxRetries → ¬Settles x.pre.trading x.post.trading id) ∧
    (x.post.trading.redeemCalls id = claimRedeemMaxRetries →
      x.post.trading.settlement.isPositionInRetry id = false)

/-- A scan does not settle a position again that has had all its redeem calls. -/
def ScanSpares (d : SettleDesk) (l : Label) : Prop :=
  match l with
  | .scan w p => d.trading.redeemCalls p.positionId = claimRedeemMaxRetries → ¬d.trading.ScanDue w p
  | _ => True

/-- Positions may be there, but nothing of them has been settled. -/
structure Unsettled (d : SettleDesk) : Prop where
  sound : Sound d
  claims : d.trading.claims.claims = .empty
  retryStates : d.trading.settlement.retryStates = .empty
  calls : NoRedeem d.trading.trace
  live : d.trading.settlement.paperMode = false

variable {d d' : SettleDesk} {l : Label}

theorem Unsettled.counted (h : Unsettled d) : Counted d.trading where
  live := h.live
  noSuccess k c hc := by
    rw [h.claims] at hc
    cases hc
  unredeemed id := h.calls.wasRedeemed id
  entries id r hr := by
    rw [h.retryStates] at hr
    cases hr
  others id _ := by
    left
    rw [redeemCalls, List.countP_eq_zero]
    intro b hb
    rw [h.calls b hb id]
    exact Bool.false_ne_true

/-- Positions do not go away. -/
theorem isSome_effect {d d' : Desk} {l : Desk.Label} (he : Desk.Effect d l d') (k : PositionId)
    (hk : (d.trading.tracker.positions.get? k).isSome = true) :
    (d'.trading.tracker.positions.get? k).isSome = true := by
  cases he with
  | create i now t _ _ hc hq =>
    rw [PositionTracker.quiets_isSome hq, hc.positions, Lib.Table.get?_put]
    split_ifs
    · rfl
    · exact hk
  | quiet _ hq =>
    rw [PositionTracker.quiets_isSome hq]
    exact hk

/-- What a step that is no turn does to the settlement of positions. -/
theorem Step.notTurn (hs : Step d l d') (hd : Sound d) (hl : l.Refused) (hturn : l.isTurn = false) :
    d'.trading.settlement = d.trading.settlement ∧ d'.trading.claims.claims = d.trading.claims.claims ∧
      AsksOnly d.trading.trace d'.trading.trace ∧ ∀ id,
        (d.trading.tracker.positions.get? id).isSome = true → (d'.trading.tracker.positions.get? id).isSome = true := by
  cases hs with
  | trade l e hset hst =>
    obtain ⟨hf, hclaims⟩ := hst.tradeFrame hd.desk hset
    exact ⟨hf.settlement, congrArg ClaimManager.claims (hclaims hl), hf.trace,
      isSome_effect (hd.desk.step hst).2.1⟩
  | requestClose id reason triggers now =>
    have hstate := requestClose_state d.trading id reason triggers now
    have he := requestClose_exits (s := d.trading) id reason triggers now
    show (d.trading.requestClose id reason triggers now).state.settlement = _ ∧
      (d.trading.requestClose id reason triggers now).state.claims.claims = _ ∧
      AsksOnly _ (d.trading.requestClose id reason triggers now).state.trace ∧ ∀ k, _ →
        ((d.trading.requestClose id reason triggers now).state.tracker.positions.get? k).isSome = true
    refine ⟨by rw [hstate]; rfl, by rw [hstate]; rfl, by rw [hstate]; exact .refl _, fun k hk => ?_⟩
    rw [PositionTracker.quiets_isSome (PositionTracker.ExitMoves.quiet he.moves)]
    exact hk
  | retry w id => cases hturn
  | drop id hover => cases hturn
  | scan w p hp hr => cases hturn
  | startAgain ps cs now hnodup hps => cases hl
  | restart ps cs now hnodup hps => cases hl

theorem Step.counted (hs : Step d l d') (hd : Sound d) (h : Counted d.trading) (hl : l.Refused)
    (hspare : d.ScanSpares l) : Counted d'.trading := by
  have hframe : l.isTurn = false → Counted d'.trading := by
    intro hturn
    obtain ⟨hsettlement, hclaims, htrace, hpos⟩ := hs.notTurn hd hl hturn
    exact h.frame hsettlement hclaims htrace hpos
  cases hs with
  | retry w id => exact h.retryOne hl id
  | drop id hover => exact h.dropRetry hover
  | scan w p hp hr => exact h.scanOne hl hp hspare
  | trade l e hset hst => exact hframe rfl
  | requestClose id reason triggers now => exact hframe rfl
  | startAgain ps cs now hnodup hps => cases hl
  | restart ps cs now hnodup hps => cases hl

/-- A position that has had all its redeem calls is left alone. -/
theorem Step.not_settles (hs : Step d l d') (hd : Sound d) (h : Counted d.trading) (hl : l.Refused)
    (hspare : d.ScanSpares l) {id : PositionId} (hmax : d.trading.redeemCalls id = claimRedeemMaxRetries) :
    ¬Settles d.trading d'.trading id := by
  have hframe : l.isTurn = false → ¬Settles d.trading d'.trading id := by
    intro hturn
    obtain ⟨-, hclaims, htrace, -⟩ := hs.notTurn hd hl hturn
    rintro (⟨k, c, hc, -, hnone⟩ | hlt)
    · rw [hclaims, hnone] at hc
      cases hc
    · rw [redeemCalls_asks htrace] at hlt
      exact lt_irrefl _ hlt
  cases hs with
  | retry w k =>
    rcases retryOne_cases d.trading w k with ⟨-, ha⟩ | ⟨⟨r, p, c, hr, hready, -⟩, u, ok, -, ht⟩
    · exact ha.not_settles id
    · intro hsettles
      obtain rfl := ht.settles_iff.mp hsettles
      have hentry := h.entries id r hr
      simp only [SettlementRetryState.isReady, hentry.exhausted, hentry.attempts, hmax, le_refl, decide_true,
        Bool.not_true, Bool.false_and] at hready
      cases hready
  | drop k hover => exact (dropRetry_aside d.trading k).not_settles id
  | scan w p hp hr =>
    rcases scanOne_cases d.trading w p with ⟨-, ha⟩ | ⟨hdue, -, ok, ht⟩
    · exact ha.not_settles id
    · intro hsettles
      obtain rfl := ht.settles_iff.mp hsettles
      exact hspare hmax hdue
  | trade l e hset hst => exact hframe rfl
  | requestClose k reason triggers now => exact hframe rfl
  | startAgain ps cs now hnodup hps => cases hl
  | restart ps cs now hnodup hps => cases hl

/-- **Bounded redeem attempts.** While the relayer refuses every redeem call, each position gets at most
`CLAIM_REDEEM_MAX_RETRIES` of them and is then left alone, all along a run exactly if no scan settles a
position again that has had them all. -/
theorem redeem_bounded_iff {tr : List (Lib.Taken SettleDesk Label)} (h : Unsettled d) (hrun : Lib.Run Step d tr d')
    (hl : ∀ x ∈ tr, x.label.Refused) : (∀ x ∈ tr, Bounded x) ↔ ∀ x ∈ tr, x.pre.ScanSpares x.label := by
  constructor
  · intro hall x hx
    have hst := hrun.step_of_mem hx
    have hbounded := hall x hx
    obtain ⟨pre, label, post⟩ := x
    dsimp only at hst ⊢
    cases hst with
    | scan w p hp hr =>
      intro hmax hdue
      rcases scanOne_cases pre.trading w p with ⟨hnot, -⟩ | ⟨-, -, ok, ht⟩
      · exact hnot hdue
      · exact (hbounded p.positionId).2.1 hmax (ht.settles_iff.mpr rfl)
    | _ => trivial
  · intro hspares x hx
    have hinv := (hrun.restrict hl).invariant_under (C := ScanSpares)
      (I := fun u => Sound u ∧ Counted u.trading)
      (fun _ _ _ hu hspare hst => ⟨hu.1.step hst.1, hst.1.counted hu.1 hu.2 hst.2 hspare⟩)
      ⟨h.sound, h.counted⟩ hspares
    obtain ⟨⟨hsound, hcounted⟩, hpost⟩ := hinv.2 x hx
    intro id
    exact ⟨hpost.2.le id,
      fun hmax => (hrun.step_of_mem hx).not_settles hsound hcounted (hl x hx) (hspares x hx) hmax,
      fun hmax => hpost.2.not_in_retry hmax⟩

/-- A position that expired with its token in hand. -/
def heldPosition : PositionRecord :=
  { positionId := 0, asset := "BTC", side := .up, conditionId := "event", tokenId := "token"
    state := .closed, createdAt := 0, openedAt := some 0, closedAt := some 300
    closeReason := some .expiry, netPositionShares := 5 }

/-- Live mode, and that position. -/
def heldDesk : SettleDesk where
  desk := { trading := { tracker := { positions := Lib.Table.empty.put heldPosition }
                         claims := { paperMode := false }
                         settlement := { paperMode := false }
                         uuids := 1 } }

theorem heldDesk_unsettled : Unsettled heldDesk where
  sound := by
    have hget : ∀ k r, heldDesk.trading.tracker.positions.get? k = some r → k = 0 ∧ r = heldPosition := by
      intro k r hr
      rw [show heldDesk.trading.tracker.positions = Lib.Table.empty.put heldPosition from rfl,
        Lib.Table.get?_put] at hr
      split_ifs at hr with hk
      · exact ⟨hk.symm, (Option.some.inj hr).symm⟩
      · cases hr
    refine ⟨⟨fun k r hr => ?_, fun k r hr => ?_, List.nodup_nil, fun _ hid => absurd hid List.not_mem_nil,
      List.nodup_nil, fun _ hid => absurd hid List.not_mem_nil⟩, fun r hr => absurd hr List.not_mem_nil⟩
    · rw [(hget k r hr).1]
      exact Nat.one_pos
    · rw [(hget k r hr).2]
      exact ⟨(fun hs => by cases hs), fun hs => by cases hs⟩
  claims := rfl
  retryStates := rfl
  calls _ hb := absurd hb List.not_mem_nil
  live := rfl

/-- The event is resolved, and the relayer refuses. -/
def refusingAt (now : Time) : World := fun _ =>
  { now := now
    resolution := { closed := true, resolved := true, winningSide := "UP" }
    redeem := .ok { success := .bool false } }

theorem refuses_refusingAt (now : Time) : RefusesRedeems (refusingAt now) := fun _ => ⟨_, rfl, rfl⟩

/-- The first redeem call of the position is refused. -/
def refusedOnce : SettleDesk := heldDesk.afterTurn (heldDesk.trading.scanOne (refusingAt 600) heldPosition).state

theorem redeem_bounded_first :
    (∀ x ∈ [(⟨heldDesk, .scan (refusingAt 600) heldPosition, refusedOnce⟩ : Lib.Taken SettleDesk Label)],
        Bounded x) ↔
      ∀ x ∈ [(⟨heldDesk, .scan (refusingAt 600) heldPosition, refusedOnce⟩ : Lib.Taken SettleDesk Label)],
        x.pre.ScanSpares x.label :=
  redeem_bounded_iff heldDesk_unsettled (.single (.scan heldDesk (refusingAt 600) heldPosition rfl rfl))
    (by simp [Label.Refused, refuses_refusingAt])

/-- After `n` calls of `process_settlements`, a quarter of an hour apart. -/
def settledTimes : ℕ → Trading
  | 0 => heldDesk.trading
  | n + 1 => ((settledTimes n).processSettlements (refusingAt (900 * n))).state

theorem settledTimes_reaches (n : ℕ) : Reaches Label.Refused heldDesk (settledTimes n) := by
  induction n with
  | zero => exact .refl _ heldDesk
  | succ n ih =>
    have hw := refuses_refusingAt (900 * n)
    exact processSettlements_reaches _ (fun _ => hw) (fun _ => trivial) (fun _ => hw) ih

/-- The twenty-first call makes a second claim and a twenty-first redeem call. -/
theorem redeemed_again_after_exhaustion : Unsettled heldDesk ∧ ∃ tr u, Lib.Run Step heldDesk tr u ∧
    (∀ x ∈ tr, x.label.Refused) ∧ u.trading = settledTimes 21 ∧ u.trading.redeemCalls 0 = 21 ∧
    (u.trading.claims.getClaimsByPosition 0).length = 2 ∧ ¬∀ x ∈ tr, Bounded x := by
  obtain ⟨tr, u, hrun, htrading, hall⟩ := settledTimes_reaches 21
  have hcalls : u.trading.redeemCalls 0 = 21 := by
    rw [htrading]
    decide +kernel
  have hclaims : (u.trading.claims.getClaimsByPosition 0).length = 2 := by
    rw [htrading]
    decide +kernel
  refine ⟨heldDesk_unsettled, tr, u, hrun, hall, htrading, hcalls, hclaims, fun hbounded => ?_⟩
  have hend := (hrun.kept (P := fun v => v.trading.redeemCalls 0 ≤ claimRedeemMaxRetries)
    (fun x hx _ => (hbounded x hx 0).1) (by decide)).1
  rw [hcalls] at hend
  exact absurd hend (by decide)

end SettleDesk

end Polyfast
