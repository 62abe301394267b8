import Polyfast.Orchestrator.RedeemEffect

/-!
# One call of `process_settlements` as turns

A call retries what is due, drops the entries that its retries are done with, and scans the redeemable
positions. What it is made of is said more closely here than in `SettleRule`: a drop is of an entry that is
`RetryOver`, and a scan is of a redeemable position that the tracker has.

* `redeemCalls`, `Settles`: the redeem calls made for a position, and whether it gets one or a claim;
* `retryOne_entry_ne`, `retryOne_over`: what a retry does to the entries;
* `processSettlements_turns`: what the turns of a call preserve, the call preserves.
-/

namespace Polyfast

namespace Trading

variable {s s' t : Trading} {w : World} {p : PositionRecord} {id k : PositionId}

/-- The redeem calls made for the position. -/
def redeemCalls (s : Trading) (id : PositionId) : ℕ := s.trace.countP (·.redeems id)

/-- The retries of the position are over: they are exhausted, its position is gone, or it was settled. -/
def RetryOver (s : Trading) (id : PositionId) : Prop :=
  ∃ r, s.settlement.retryStates.get? id = some r ∧
    (r.exhausted = true ∨ s.tracker.positions.get? id = none ∨ wasRedeemed s.trace id = true ∨
      ∃ c, s.claims.claims.get? r.claimId = some c ∧ c.isSuccess = true)

theorem retryOne_frame (s : Trading) (w : World) (id : PositionId) : SettleFrame s (s.retryOne w id).state :=
  (settleFrame_rule w s).retryOne s id ⟨rfl, rfl, rfl, rfl, le_rfl⟩

theorem scanOne_frame (s : Trading) (w : World) (p : PositionRecord) : SettleFrame s (s.scanOne w p).state :=
  (settleFrame_rule w s).scanOne s p ⟨rfl, rfl, rfl, rfl, le_rfl⟩

theorem get?_writeRetry (r : SettlementRetryState) (k : PositionId) :
    (s.writeRetry r).settlement.retryStates.get? k =
      if r.positionId = k then some r else s.settlement.retryStates.get? k :=
  Lib.Table.get?_put _ r k

theorem get?_dropRetry (id k : PositionId) :
    (s.dropRetry id).settlement.retryStates.get? k =
      if id = k then none else s.settlement.retryStates.get? k := by
  simp only [dropRetry, Lib.Table.get?_erase]

/-! ### Claims and redeem calls -/

/-- There is a claim of the position that was not there before. -/
def CreatesClaim (s s' : Trading) (id : PositionId) : Prop :=
  ∃ k c, s'.claims.claims.get? k = some c ∧ c.positionId = id ∧ s.claims.claims.get? k = none

/-- A claim of the position was created, or a redeem call was made for it. -/
def Settles (s s' : Trading) (id : PositionId) : Prop :=
  CreatesClaim s s' id ∨ s.redeemCalls id < s'.redeemCalls id

theorem redeemCalls_asks (h : AsksOnly s.trace s'.trace) (id : PositionId) : s'.redeemCalls id = s.redeemCalls id := by
  obtain ⟨calls, hno, htrace⟩ := h
  have hzero : calls.countP (·.redeems id) = 0 := by
    rw [List.countP_eq_zero]
    intro b hb
    rw [hno b hb id]
    exact Bool.false_ne_true
  rw [redeemCalls, htrace, List.countP_append, hzero, Nat.add_zero, redeemCalls]

/-- A redeem call counts for its position. -/
theorem redeemCalls_redeem {e : ConditionId} {ok : Bool} (htrace : s'.trace = s.trace ++ [.redeem id e ok])
    (j : PositionId) : s'.redeemCalls j = s.redeemCalls j + (decide (id = j)).toNat := by
  rw [redeemCalls, htrace, List.countP_append, List.countP_singleton, redeemCalls]
  by_cases hid : id = j
  · simp [ExternalCall.redeems, hid]
  · simp [ExternalCall.redeems, hid]

/-- A redeem turn makes one redeem call, for its position. -/
theorem RedeemTurn.redeemCalls {c : ClaimId} {ok : Bool} (h : RedeemTurn s id c ok s') (j : PositionId) :
    s'.redeemCalls j = s.redeemCalls j + (decide (id = j)).toNat := by
  obtain ⟨l, e, hasks, htrace⟩ := h.trace
  have hl : Trading.redeemCalls { s with trace := l } j = s.redeemCalls j := redeemCalls_asks hasks j
  rw [← hl]
  exact redeemCalls_redeem htrace j

theorem Aside.not_settles (h : Aside s s') (id : PositionId) : ¬Settles s s' id := by
  rintro (⟨k, c, hc, -, hnone⟩ | hlt)
  · rw [h.claims, hnone] at hc
    cases hc
  · rw [redeemCalls_asks h.trace] at hlt
    exact lt_irrefl _ hlt

/-- A redeem turn settles its own position, and no other. -/
theorem RedeemTurn.settles_iff {j : PositionId} {k : ClaimId} {ok : Bool} (h : RedeemTurn s id k ok s') :
    Settles s s' j ↔ j = id := by
  have hcalls := h.redeemCalls j
  constructor
  · rintro (⟨i, c, hc, hpos, hnone⟩ | hlt)
    · by_cases hi : i = k
      · subst hi
        rcases (h.claim c hc).2 with ⟨u, hu, -⟩ | ⟨-, hcp⟩
        · rw [hnone] at hu
          cases hu
        · exact hpos.symm.trans hcp
      · rw [h.others i hi, hnone] at hc
        cases hc
    · by_contra hne
      rw [decide_eq_false (Ne.symm hne)] at hcalls
      simp only [Bool.toNat_false, Nat.add_zero] at hcalls
      omega
  · rintro rfl
    right
    rw [decide_eq_true rfl] at hcalls
    simp only [Bool.toNat_true] at hcalls
    omega

/-! ### What a retry does to the entries -/

theorem retrySettle_entry_ne {r : SettlementRetryState} (hk : r.positionId ≠ k) :
    (s.retrySettle w p r).state.settlement.retryStates.get? k = s.settlement.retryStates.get? k := by
  obtain ⟨ok, heff⟩ := executeRedeemForClaim_effect s w p r.claimId
  unfold retrySettle
  split
  · rw [Call.state_returns, get?_writeRetry, if_neg hk]
  · split_ifs
    · rfl
    · dsimp only
      split
      · rw [Call.state_raises, heff.retryStates]
      · rw [Call.state_returns, heff.retryStates]
      · rw [Call.state_returns, get?_writeRetry, SettlementRetryState.positionId_scheduleNext, if_neg hk,
          heff.retryStates]

/-- A retry leaves the entries of other positions alone. -/
theorem retryOne_entry_ne (hk : id ≠ k) :
    (s.retryOne w id).state.settlement.retryStates.get? k = s.settlement.retryStates.get? k := by
  rcases retryOne_state s w id with ⟨-, hstate⟩ | ⟨r, p, hr, -, -, hstate⟩
  · rw [hstate]
  · rw [hstate]
    exact retrySettle_entry_ne ((Lib.Table.key_of_get? hr : r.positionId = id) ▸ hk)

/-- A redeem call that settles its claim is recorded as a success. -/
theorem executeRedeemForClaim_true {c : ClaimId} (h : (s.executeRedeemForClaim w p c).result = .ok true) :
    wasRedeemed (s.executeRedeemForClaim w p c).state.trace p.positionId = true := by
  unfold executeRedeemForClaim at h ⊢
  split_ifs at h ⊢ with hpaper
  · dsimp only at h ⊢
    rw [Call.result_returns, Except.ok.injEq] at h
    rw [Call.state_returns]
    simp only [answered, h, wasRedeemed_redeem]
    simp
  · cases hr : (s.instant w).redeem with
    | error e =>
      rw [hr] at h
      cases h
    | ok r =>
      rw [hr] at h
      dsimp only at h ⊢
      cases htruthy : r.success.truthy with
      | true =>
        rw [htruthy, if_pos rfl] at h
        rw [if_pos rfl]
        cases hgt : r.payoutUsdc.gtZero with
        | error e =>
          rw [hgt] at h
          cases h
        | ok won =>
          simp only [answered, Call.state_returns, wasRedeemed_redeem]
          simp
      | false =>
        rw [htruthy, if_neg (by simp)] at h
        split at h
        · cases h
        · cases h

/-- The turn of an entry that is to go leaves it over. -/
theorem retryOne_over {settled : Bool} (h : (s.retryOne w id).result = .ok (settled, true)) :
    (s.retryOne w id).state.RetryOver id := by
  unfold retryOne at h ⊢
  cases hr : s.settlement.retryStates.get? id with
  | none =>
    simp only [hr] at h
    cases h
  | some r =>
    simp only [hr] at h ⊢
    by_cases hex : r.exhausted = true
    · rw [if_pos hex]
      exact ⟨r, hr, .inl hex⟩
    · rw [if_neg hex] at h ⊢
      by_cases hready : r.isReady (s.instant w).now = true
      · simp only [hready, Bool.not_true, Bool.false_eq_true, if_false] at h ⊢
        cases hp : s.tracker.positions.get? id with
        | none => exact ⟨r, hr, .inr (.inl hp)⟩
        | some p =>
          have hkey : p.positionId = id := Lib.Table.key_of_get? hp
          simp only [hp] at h
          cases hres : (s.retrySettle w p r).result with
          | error e =>
            rw [hres] at h
            cases h
          | ok done =>
            rw [hres] at h
            simp only [Call.result_returns, Except.ok.injEq, Prod.mk.injEq] at h
            have hdone : (s.retrySettle w p r).result = .ok true := by rw [hres, h.2]
            unfold retrySettle at hdone ⊢
            cases hc : s.claims.claims.get? r.claimId with
            | none =>
              simp only [hc] at hdone
              cases hdone
            | some c =>
              simp only [hc] at hdone ⊢
              by_cases hs : c.isSuccess = true
              · rw [if_pos hs]
                exact ⟨r, hr, .inr (.inr (.inr ⟨c, hc, hs⟩))⟩
              · rw [if_neg hs] at hdone ⊢
                obtain ⟨ok, heff⟩ := executeRedeemForClaim_effect s w p r.claimId
                cases hcall : (s.executeRedeemForClaim w p r.claimId).result with
                | error e =>
                  rw [hcall] at hdone
                  cases hdone
                | ok b =>
                  rw [hcall] at hdone
                  cases b with
                  | false => cases hdone
                  | true =>
                    refine ⟨r, by rw [← hr]; exact congrArg (·.get? id) heff.retryStates, .inr (.inr (.inl ?_))⟩
                    rw [← hkey]
                    exact executeRedeemForClaim_true hcall
      · simp only [Bool.not_eq_true] at hready
        simp only [hready, Bool.not_false, if_true] at h
        cases h

/-- Retries of other positions leave an entry over. -/
theorem RetryOver.retryOne (h : s.RetryOver k) (hk : id ≠ k) (w : World) :
    (s.retryOne w id).state.RetryOver k := by
  obtain ⟨r, hr, hover⟩ := h
  refine ⟨r, by rw [retryOne_entry_ne hk, hr], ?_⟩
  rw [(retryOne_frame s w id).tracker]
  refine hover.imp_right fun hover => hover.imp_right fun hover => ?_
  rcases retryOne_cases s w id with ⟨-, ha⟩ | ⟨⟨u, p, c, hu, -, -, hc, hs⟩, u', ok, hu', ht⟩
  · rw [ha.trace.wasRedeemed, ha.claims]
    exact hover
  · obtain rfl := Option.some.inj (hu.symm.trans hu')
    rw [ht.wasRedeemed]
    rcases hover with hred | ⟨c', hc', hs'⟩
    · exact .inl (by rw [hred, Bool.true_or])
    · refine .inr ⟨c', ?_, hs'⟩
      rw [ht.others r.claimId, hc']
      intro heq
      rw [heq, hc] at hc'
      rw [Option.some.inj hc', hs'] at hs
      cases hs

theorem RetryOver.dropRetry (h : s.RetryOver k) (hk : id ≠ k) : (s.dropRetry id).RetryOver k := by
  obtain ⟨r, hr, hover⟩ := h
  exact ⟨r, by rw [get?_dropRetry, if_neg hk, hr], hover⟩

/-! ### The loop of the retries -/

theorem RetryOver.retryLoop {ids : List PositionId} : ∀ {s : Trading}, s.RetryOver k → k ∉ ids →
    (s.retryLoop w ids).state.RetryOver k := by
  induction ids with
  | nil => exact fun h _ => h
  | cons id ids ih =>
    intro s h hk
    rw [List.mem_cons, not_or] at hk
    have hturn := h.retryOne (Ne.symm hk.1) w
    have hrest := ih hturn hk.2
    unfold Trading.retryLoop
    dsimp only
    split
    · exact hturn
    · split
      · exact hrest
      · exact hrest

/-- What the loop of the retries wants to drop is over when the loop ends. -/
theorem retryLoop_over {ids : List PositionId} (hnodup : ids.Nodup) : ∀ {s : Trading} {n : ℕ}
    {gone : List PositionId}, (s.retryLoop w ids).result = .ok (n, gone) →
      gone.Sublist ids ∧ ∀ k ∈ gone, (s.retryLoop w ids).state.RetryOver k := by
  induction ids with
  | nil =>
    intro s n gone h
    rw [retryLoop, Call.result_returns, Except.ok.injEq, Prod.mk.injEq] at h
    rw [← h.2]
    exact ⟨.slnil, fun k hk => absurd hk List.not_mem_nil⟩
  | cons id ids ih =>
    intro s n gone h
    rw [List.nodup_cons] at hnodup
    unfold retryLoop at h ⊢
    dsimp only at h ⊢
    cases hturn : (s.retryOne w id).result with
    | error e =>
      rw [hturn] at h
      cases h
    | ok out =>
      obtain ⟨settled, leaves⟩ := out
      rw [hturn] at h
      dsimp only at h ⊢
      cases hrest : ((s.retryOne w id).state.retryLoop w ids).result with
      | error e =>
        rw [hrest] at h
        cases h
      | ok out =>
        obtain ⟨m, gone'⟩ := out
        rw [hrest] at h
        simp only [Call.result_returns, Except.ok.injEq, Prod.mk.injEq] at h
        obtain ⟨hsub, hover⟩ := ih hnodup.2 hrest
        obtain ⟨-, rfl⟩ := h
        simp only [Call.state_returns]
        cases leaves with
        | false => exact ⟨hsub.cons id, hover⟩
        | true =>
          refine ⟨hsub.cons_cons id, fun k hk => ?_⟩
          rcases List.mem_cons.mp hk with rfl | hk
          · exact (retryOne_over hturn).retryLoop hnodup.1
          · exact hover k hk

/-! ### A whole call -/

section Turns

variable {I : Trading → Prop}

/-- **What the turns of a call preserve, the call preserves**: retries, drops of entries that are over, and
scans of redeemable positions. -/
theorem processSettlements_turns (hretry : ∀ t id, I t → I (t.retryOne w id).state)
    (hdrop : ∀ t id, I t → t.RetryOver id → I (t.dropRetry id))
    (hscan : ∀ t p, I t → t.tracker.positions.get? p.positionId = some p → p.isRedeemable = true →
      I (t.scanOne w p).state) (h : I s) : I (s.processSettlements w).state := by
  have hdrops : ∀ (gone : List PositionId) (t : Trading), gone.Nodup → (∀ k ∈ gone, t.RetryOver k) → I t →
      I (gone.foldl dropRetry t) := by
    intro gone
    induction gone with
    | nil => exact fun t _ _ ht => ht
    | cons id gone ih =>
      intro t hnodup hover ht
      rw [List.nodup_cons] at hnodup
      refine ih _ hnodup.2 (fun k hk => ?_) (hdrop t id ht (hover id List.mem_cons_self))
      exact (hover k (List.mem_cons_of_mem id hk)).dropRetry fun heq => hnodup.1 (heq ▸ hk)
  have hloop := retryLoop_preserves hretry s.settlement.retryStates.keys s h
  have hretries : I (s.processRetries w).state := by
    refine processRetries_preserves hloop fun n gone hres => ?_
    obtain ⟨hsub, hover⟩ := retryLoop_over s.settlement.retryStates.dict.keys_nodup hres
    exact hdrops gone _ (s.settlement.retryStates.dict.keys_nodup.sublist hsub) hover hloop
  have hscans : I (s.processSettlements w).state ∧
      (s.processSettlements w).state.tracker = (s.processRetries w).state.tracker := by
    refine processSettlements_scans (I := fun t => I t ∧ t.tracker = (s.processRetries w).state.tracker)
      ⟨hretries, rfl⟩ fun t p hp ht => ?_
    obtain ⟨hmem, hredeemable⟩ := List.mem_filter.mp hp
    refine ⟨hscan t p ht.1 ?_ hredeemable, (scanOne_frame t w p).tracker.trans ht.2⟩
    rw [ht.2]
    exact Lib.Table.mem_records.mp hmem
  exact hscans.1

end Turns

end Trading

end Polyfast
