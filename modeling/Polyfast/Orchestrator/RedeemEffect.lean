import Polyfast.Orchestrator.ExitOrchestrator

/-!
# What settlement does to claims and redeem calls

`executeRedeemForClaim` makes one redeem call and books at most the claim it is called for. A turn of the
retries or of the scan makes at most one such call, for its own position.

* `wasRedeemed`, `RedeemedOnce`: what the list of answered calls says about a position;
* `RedeemEffect`, `executeRedeemForClaim_effect`: one redeem call;
* `Aside`, `RedeemTurn`: a turn that redeems nothing, and one that redeems its position;
* `retryOne_cases`, `scanOne_cases`: which turn is which.
-/

namespace Polyfast

namespace ExternalCall

/-- A redeem call for the position that reported success. -/
def redeemed : ExternalCall → PositionId → Bool
  | redeem p _ success, id => success && p = id
  | _, _ => false

/-- The second call redeems what the first has redeemed. -/
def again : ExternalCall → ExternalCall → Bool
  | redeem p _ true, c => c.redeems p
  | _, _ => false

end ExternalCall

/-- Some redeem call for the position reported success. -/
def wasRedeemed (calls : List ExternalCall) (id : PositionId) : Bool := calls.any (·.redeemed id)

/-- No redeem call is for a position that had been redeemed before. -/
def RedeemedOnce (calls : List ExternalCall) : Prop :=
  calls.Pairwise (fun a b => a.again b = false)

instance (calls : List ExternalCall) : Decidable (RedeemedOnce calls) :=
  inferInstanceAs (Decidable (calls.Pairwise _))

theorem wasRedeemed_append (l₁ l₂ : List ExternalCall) (id : PositionId) :
    wasRedeemed (l₁ ++ l₂) id = (wasRedeemed l₁ id || wasRedeemed l₂ id) := List.any_append

theorem NoRedeem.wasRedeemed {calls : List ExternalCall} (h : NoRedeem calls) (id : PositionId) :
    wasRedeemed calls id = false := by
  rw [Polyfast.wasRedeemed, List.any_eq_false]
  intro b hb
  have hno := h b hb id
  cases b with
  | redeem p c ok =>
    simp only [ExternalCall.redeems, decide_eq_false_iff_not] at hno
    simp [ExternalCall.redeemed, hno]
  | _ => simp [ExternalCall.redeemed]

theorem AsksOnly.wasRedeemed {l l' : List ExternalCall} (h : AsksOnly l l') (id : PositionId) :
    wasRedeemed l' id = wasRedeemed l id := by
  obtain ⟨calls, hno, rfl⟩ := h
  rw [wasRedeemed_append, hno.wasRedeemed id, Bool.or_false]

theorem wasRedeemed_redeem (l : List ExternalCall) (id : PositionId) (c : ConditionId) (ok : Bool)
    (k : PositionId) :
    wasRedeemed (l ++ [.redeem id c ok]) k = (wasRedeemed l k || ok && decide (id = k)) := by
  rw [wasRedeemed_append]
  congr 1
  simp [wasRedeemed, ExternalCall.redeemed]

theorem again_redeem (a : ExternalCall) (id : PositionId) (c : ConditionId) (ok : Bool) :
    a.again (.redeem id c ok) = a.redeemed id := by
  cases a with
  | redeem p _ success =>
    cases success with
    | false => rfl
    | true =>
      simp only [ExternalCall.again, ExternalCall.redeems, ExternalCall.redeemed, Bool.true_and]
      exact decide_eq_decide.mpr eq_comm
  | _ => rfl

/-- A call that redeems nothing redeems nothing again. -/
theorem NoRedeem.again {calls : List ExternalCall} (h : NoRedeem calls) (a : ExternalCall)
    {b : ExternalCall} (hb : b ∈ calls) : a.again b = false := by
  cases a with
  | redeem p _ ok =>
    cases ok with
    | false => rfl
    | true => exact h b hb p
  | _ => rfl

theorem NoRedeem.redeemedOnce {calls : List ExternalCall} (h : NoRedeem calls) :
    RedeemedOnce calls :=
  List.pairwise_of_forall_mem_list fun a _ _ hb => h.again a hb

/-- Calls that redeem nothing may follow. -/
theorem RedeemedOnce.asks {l l' : List ExternalCall} (h : RedeemedOnce l) (hasks : AsksOnly l l') :
    RedeemedOnce l' := by
  obtain ⟨calls, hno, rfl⟩ := hasks
  exact List.pairwise_append.mpr ⟨h, hno.redeemedOnce, fun a _ b hb => hno.again a hb⟩

/-- A redeem call may follow iff its position was not redeemed. -/
theorem redeemedOnce_redeem {calls : List ExternalCall} (h : RedeemedOnce calls) (id : PositionId)
    (c : ConditionId) (ok : Bool) :
    RedeemedOnce (calls ++ [.redeem id c ok]) ↔ wasRedeemed calls id = false := by
  unfold RedeemedOnce
  rw [List.pairwise_append, wasRedeemed, List.any_eq_false]
  constructor
  · rintro ⟨-, -, hall⟩ a ha
    have hagain := hall a ha _ (List.mem_singleton_self _)
    rw [again_redeem] at hagain
    exact Bool.eq_false_iff.mp hagain
  · intro hnot
    refine ⟨h, List.pairwise_singleton _ _, fun a ha b hb => ?_⟩
    rw [List.mem_singleton] at hb
    rw [hb, again_redeem]
    exact Bool.eq_false_iff.mpr (hnot a ha)

namespace Trading

variable {s s' t : Trading} {p : PositionRecord} {id : ClaimId} {w : World} {ok : Bool}

/-- One redeem call for `p` on the claim `id`. -/
structure RedeemEffect (s : Trading) (p : PositionRecord) (id : ClaimId) (ok : Bool) (s' : Trading) :
    Prop where
  trace : s'.trace = s.trace ++ [.redeem p.positionId p.conditionId ok]
  others : ∀ k, k ≠ id → s'.claims.claims.get? k = s.claims.claims.get? k
  claim : ∀ c', s'.claims.claims.get? id = some c' → ∃ c, s.claims.claims.get? id = some c ∧
    c'.positionId = c.positionId ∧
      (c'.isSuccess = true → c.isSuccess = true ∨ s.claims.paperMode = true ∧ ok = true)
  retryStates : s'.settlement.retryStates = s.settlement.retryStates
  uuids : s'.uuids = s.uuids
  claimsMode : s'.claims.paperMode = s.claims.paperMode
  settlementMode : s'.settlement.paperMode = s.settlement.paperMode

/-- A call after which the claim is as before. -/
theorem RedeemEffect.same
    (htrace : s'.trace = s.trace ++ [.redeem p.positionId p.conditionId ok])
    (hclaims : s'.claims = s.claims) (hsettlement : s'.settlement = s.settlement)
    (huuids : s'.uuids = s.uuids) : RedeemEffect s p id ok s' where
  trace := htrace
  others k _ := by rw [hclaims]
  claim c' hc' := ⟨c', by rw [← hclaims]; exact hc', rfl, Or.inl⟩
  retryStates := by rw [hsettlement]
  uuids := huuids
  claimsMode := by rw [hclaims]
  settlementMode := by rw [hsettlement]

/-- A call that the claim manager books. -/
theorem RedeemEffect.booking {b : BalanceManager} {won : Bool} {payout : ℚ} {now : Time}
    (htrace : s'.trace = s.trace ++ [.redeem p.positionId p.conditionId ok])
    (hclaims : s'.claims = (s.claims.executeRedeem b id won payout now).1)
    (hok : (s.claims.executeRedeem b id won payout now).2.2 = true → ok = true)
    (hretry : s'.settlement.retryStates = s.settlement.retryStates)
    (huuids : s'.uuids = s.uuids) (hmode : s'.settlement.paperMode = s.settlement.paperMode) :
    RedeemEffect s p id ok s' := by
  obtain ⟨hm, hothers, hclaim⟩ := ClaimManager.executeRedeem_effect s.claims b id won payout now
  refine ⟨htrace, fun k hk => ?_, fun c' hc' => ?_, hretry, huuids, ?_, hmode⟩
  · rw [hclaims, hothers k hk]
  · rw [hclaims] at hc'
    obtain ⟨c, hc, hpos, hs⟩ := hclaim c' hc'
    refine ⟨c, hc, hpos, fun hs' => ?_⟩
    rcases hs hs' with hs | ⟨hp, hbooked⟩
    · exact .inl hs
    · exact .inr ⟨hp, hok hbooked⟩
  · rw [hclaims, hm]

/-- **One redeem call** is recorded, and books at most the claim it is for. -/
theorem executeRedeemForClaim_effect (s : Trading) (w : World) (p : PositionRecord) (id : ClaimId) :
    ∃ ok, RedeemEffect s p id ok (s.executeRedeemForClaim w p id).state := by
  unfold executeRedeemForClaim
  split_ifs with hpaper
  · exact ⟨_, .booking rfl rfl (fun h => h) rfl rfl rfl⟩
  · split
    · exact ⟨false, .same rfl rfl rfl rfl⟩
    · rename_i r _
      dsimp only
      split_ifs with htruthy
      · refine ⟨true, ?_⟩
        rw [htruthy]
        split
        · exact .same rfl rfl rfl rfl
        · exact .booking rfl rfl (fun _ => rfl) rfl rfl rfl
      · refine ⟨r.success.truthy, ?_⟩
        split
        · exact .same rfl rfl rfl rfl
        · rename_i c hget
          have hkey : c.claimId = id := Lib.Table.key_of_get? hget
          refine ⟨rfl, fun k hk => ?_, fun c' hc' => ?_, rfl, rfl, rfl, rfl⟩
          · exact Lib.Table.get?_put_ne _ fun heq => hk (heq.symm.trans hkey)
          · have hself : (s.claims.claims.put { c with lastError := r.error }).get? id =
                some { c with lastError := r.error } := by
              rw [Lib.Table.get?_put, if_pos hkey]
            obtain rfl := Option.some.inj (hself.symm.trans hc')
            exact ⟨c, hget, rfl, Or.inl⟩

/-! ### Turns -/

/-- No redeem call, and no claim is written. -/
structure Aside (s s' : Trading) : Prop where
  trace : AsksOnly s.trace s'.trace
  claims : s'.claims.claims = s.claims.claims
  retries : ∀ k r', s'.settlement.retryStates.get? k = some r' →
    ∃ r, s.settlement.retryStates.get? k = some r ∧ r'.claimId = r.claimId
  uuids : s.uuids ≤ s'.uuids
  claimsMode : s'.claims.paperMode = s.claims.paperMode
  settlementMode : s'.settlement.paperMode = s.settlement.paperMode

theorem Aside.refl (s : Trading) : Aside s s :=
  ⟨.refl _, rfl, fun _ r' h => ⟨r', h, rfl⟩, le_rfl, rfl, rfl⟩

theorem Aside.trans {s t u : Trading} (h : Aside s t) (h' : Aside t u) : Aside s u := by
  refine ⟨h.trace.trans h'.trace, h'.claims.trans h.claims, fun k r' hr' => ?_,
    h.uuids.trans h'.uuids, h'.claimsMode.trans h.claimsMode,
    h'.settlementMode.trans h.settlementMode⟩
  obtain ⟨r, hr, hrc⟩ := h'.retries k r' hr'
  obtain ⟨u, hu, huc⟩ := h.retries k r hr
  exact ⟨u, hu, hrc.trans huc⟩

/-- One redeem call for the position `id`, on the claim `k`, which is an old claim or a new one of the
position. -/
structure RedeemTurn (s : Trading) (id : PositionId) (k : ClaimId) (ok : Bool) (s' : Trading) :
    Prop where
  trace : ∃ l c, AsksOnly s.trace l ∧ s'.trace = l ++ [.redeem id c ok]
  others : ∀ j, j ≠ k → s'.claims.claims.get? j = s.claims.claims.get? j
  claim : ∀ c', s'.claims.claims.get? k = some c' →
    (c'.isSuccess = true → (∃ c, s.claims.claims.get? k = some c ∧ c.isSuccess = true) ∨
      s.claims.paperMode = true ∧ ok = true) ∧
    ((∃ c, s.claims.claims.get? k = some c ∧ c'.positionId = c.positionId) ∨
      k = s.uuids ∧ c'.positionId = id)
  retries : ∀ j r', s'.settlement.retryStates.get? j = some r' →
    (∃ r, s.settlement.retryStates.get? j = some r ∧ r'.claimId = r.claimId) ∨
      j = id ∧ r'.claimId = k
  uuids : s.uuids ≤ s'.uuids
  claimsMode : s'.claims.paperMode = s.claims.paperMode
  settlementMode : s'.settlement.paperMode = s.settlement.paperMode

theorem RedeemTurn.wasRedeemed {i : PositionId} (h : RedeemTurn s i id ok s') (k : PositionId) :
    wasRedeemed s'.trace k = (wasRedeemed s.trace k || ok && decide (i = k)) := by
  obtain ⟨l, c, hasks, htrace⟩ := h.trace
  rw [htrace, wasRedeemed_redeem, hasks.wasRedeemed k]

/-- A redeem turn keeps "redeemed at most once" iff its position was not redeemed before. -/
theorem RedeemTurn.redeemedOnce_iff {i : PositionId} (h : RedeemTurn s i id ok s')
    (ho : RedeemedOnce s.trace) : RedeemedOnce s'.trace ↔ Polyfast.wasRedeemed s.trace i = false := by
  obtain ⟨l, c, hasks, htrace⟩ := h.trace
  rw [htrace, redeemedOnce_redeem (ho.asks hasks), hasks.wasRedeemed i]

/-- A redeem call on an existing claim, and what is then written to the retry entry. -/
theorem RedeemEffect.turn {p : PositionRecord} (h : RedeemEffect s p id ok t)
    (hr : s' = t ∨ ∃ r : SettlementRetryState, r.positionId = p.positionId ∧ r.claimId = id ∧
      s' = t.writeRetry r) : RedeemTurn s p.positionId id ok s' := by
  have hsame : s'.trace = t.trace ∧ s'.claims = t.claims ∧ s'.uuids = t.uuids ∧
      s'.settlement.paperMode = t.settlement.paperMode := by
    rcases hr with rfl | ⟨r, -, -, rfl⟩
    · exact ⟨rfl, rfl, rfl, rfl⟩
    · exact ⟨rfl, rfl, rfl, rfl⟩
  obtain ⟨htrace, hclaims, huuids, hmode⟩ := hsame
  refine ⟨⟨_, p.conditionId, .refl s.trace, ?_⟩, fun j hj => ?_, fun c' hc' => ?_, fun j r' hj => ?_,
    ?_, ?_, ?_⟩
  · rw [htrace, h.trace]
  · rw [hclaims, h.others j hj]
  · rw [hclaims] at hc'
    obtain ⟨c, hc, hpos, hs⟩ := h.claim c' hc'
    refine ⟨fun hs' => ?_, .inl ⟨c, hc, hpos⟩⟩
    rcases hs hs' with hs | hs
    · exact .inl ⟨c, hc, hs⟩
    · exact .inr hs
  · rcases hr with rfl | ⟨r, hrp, hrc, rfl⟩
    · rw [h.retryStates] at hj
      exact .inl ⟨r', hj, rfl⟩
    · simp only [writeRetry, Lib.Table.get?_put, h.retryStates] at hj
      split_ifs at hj with heq
      · obtain rfl := Option.some.inj hj
        exact .inr ⟨heq.symm.trans hrp, hrc⟩
      · exact .inl ⟨r', hj, rfl⟩
  · rw [huuids, h.uuids]
  · rw [hclaims, h.claimsMode]
  · rw [hmode, h.settlementMode]

/-- The retry of the position will redeem: its entry is due, its claim still open. -/
def RetryDue (s : Trading) (w : World) (id : PositionId) : Prop :=
  ∃ r p c, s.settlement.retryStates.get? id = some r ∧ r.isReady (s.instant w).now = true ∧
    s.tracker.positions.get? id = some p ∧ s.claims.claims.get? r.claimId = some c ∧
      c.isSuccess = false

/-- What the resolution check will report, or the default where there is no client. -/
def reportsResolved (s : Trading) (w : World) : Bool :=
  if s.settlement.hasClob then (s.instant w).resolution.resolved else s.settlement.paperMode

/-- The scan of the position will redeem: no retry entry, no settled claim, reported as resolved. -/
def ScanDue (s : Trading) (w : World) (p : PositionRecord) : Prop :=
  s.settlement.retryStates.get? p.positionId = none ∧ s.isSettled p.positionId = false ∧
    s.reportsResolved w = true

theorem dropRetry_aside (s : Trading) (id : PositionId) : Aside s (s.dropRetry id) := by
  refine ⟨.refl _, rfl, fun k r' h => ?_, le_rfl, rfl, rfl⟩
  simp only [dropRetry, Lib.Table.get?_erase] at h
  split_ifs at h
  exact ⟨r', h, rfl⟩

/-- A retry entry may be written over. -/
theorem writeRetry_aside {r u : SettlementRetryState}
    (h : s.settlement.retryStates.get? r.positionId = some u) (hclaim : r.claimId = u.claimId) :
    Aside s (s.writeRetry r) := by
  refine ⟨.refl _, rfl, fun k r' hk => ?_, le_rfl, rfl, rfl⟩
  simp only [writeRetry, Lib.Table.get?_put] at hk
  split_ifs at hk with heq
  · obtain rfl := Option.some.inj hk
    exact ⟨u, heq ▸ h, hclaim⟩
  · exact ⟨r', hk, rfl⟩

/-- The retry of an entry redeems iff its claim is there and open. -/
theorem retrySettle_cases (w : World) (p : PositionRecord) {r : SettlementRetryState}
    (hr : s.settlement.retryStates.get? p.positionId = some r) :
    (Aside s (s.retrySettle w p r).state ∧
      ∀ c, s.claims.claims.get? r.claimId = some c → c.isSuccess = true) ∨
    ∃ c ok, s.claims.claims.get? r.claimId = some c ∧ c.isSuccess = false ∧
      RedeemTurn s p.positionId r.claimId ok (s.retrySettle w p r).state := by
  have hrid : r.positionId = p.positionId := Lib.Table.key_of_get? hr
  cases hc : s.claims.claims.get? r.claimId with
  | none =>
    refine .inl ⟨?_, fun c h => by cases h⟩
    simp only [retrySettle, hc]
    exact writeRetry_aside (u := r) (by rw [← hr, ← hrid]) rfl
  | some c =>
    cases hs : c.isSuccess with
    | true =>
      refine .inl ⟨?_, fun u h => Option.some.inj h ▸ hs⟩
      simp only [retrySettle, hc, hs, if_true]
      exact .refl s
    | false =>
      obtain ⟨ok, heff⟩ := executeRedeemForClaim_effect s w p r.claimId
      refine .inr ⟨c, ok, rfl, hs, heff.turn ?_⟩
      simp only [retrySettle, hc, hs, Bool.false_eq_true, if_false]
      split
      · exact .inl rfl
      · exact .inl rfl
      · exact .inr ⟨_, by rw [SettlementRetryState.positionId_scheduleNext, hrid],
          SettlementRetryState.claimId_scheduleNext _ _, rfl⟩

/-- A turn of the retries does nothing, or goes on with a due entry and its position. -/
theorem retryOne_state (s : Trading) (w : World) (id : PositionId) :
    (¬s.RetryDue w id ∧ (s.retryOne w id).state = s) ∨
      ∃ r p, s.settlement.retryStates.get? id = some r ∧ r.isReady (s.instant w).now = true ∧
        s.tracker.positions.get? id = some p ∧
          (s.retryOne w id).state = (s.retrySettle w p r).state := by
  unfold retryOne RetryDue
  cases hr : s.settlement.retryStates.get? id with
  | none =>
    refine .inl ⟨?_, rfl⟩
    rintro ⟨r, p, c, h, -⟩
    cases h
  | some r =>
    cases hready : r.isReady (s.instant w).now with
    | false =>
      refine .inl ⟨?_, ?_⟩
      · rintro ⟨u, p, c, h, hu, -⟩
        obtain rfl := Option.some.inj h
        rw [hready] at hu
        cases hu
      · simp only [hready, Bool.not_false, if_true]
        split_ifs <;> rfl
    | true =>
      have hex : r.exhausted = false := by
        simp only [SettlementRetryState.isReady, Bool.and_eq_true, Bool.not_eq_true'] at hready
        exact hready.1
      cases hp : s.tracker.positions.get? id with
      | none =>
        refine .inl ⟨?_, ?_⟩
        · rintro ⟨u, p, c, -, -, h, -⟩
          cases h
        · simp only [hex, hready, Bool.false_eq_true, if_false, Bool.not_true]
          rfl
      | some p =>
        refine .inr ⟨r, p, rfl, hready, rfl, ?_⟩
        simp only [hex, hready, Bool.false_eq_true, if_false, Bool.not_true]
        split <;> rfl

/-- **One turn of the retries** redeems iff its retry is due. -/
theorem retryOne_cases (s : Trading) (w : World) (id : PositionId) :
    (¬s.RetryDue w id ∧ Aside s (s.retryOne w id).state) ∨
      s.RetryDue w id ∧ ∃ r ok, s.settlement.retryStates.get? id = some r ∧
        RedeemTurn s id r.claimId ok (s.retryOne w id).state := by
  rcases retryOne_state s w id with ⟨hnot, hstate⟩ | ⟨r, p, hr, hready, hp, hstate⟩
  · rw [hstate]
    exact .inl ⟨hnot, .refl s⟩
  · obtain rfl : p.positionId = id := Lib.Table.key_of_get? hp
    rw [hstate]
    rcases retrySettle_cases w p hr with ⟨haside, hdone⟩ | ⟨c, ok, hc, hs, hturn⟩
    · refine .inl ⟨?_, haside⟩
      rintro ⟨u, p', c, hu, -, -, hc, hs⟩
      obtain rfl := Option.some.inj (hr.symm.trans hu)
      rw [hdone c hc] at hs
      cases hs
    · exact .inr ⟨⟨r, p, c, hr, hready, hp, hc, hs⟩, r, ok, hr, hturn⟩

theorem checkResolved_aside (s : Trading) (w : World) (c : ConditionId) :
    Aside s (s.checkResolved w c).1 ∧ (s.checkResolved w c).2 = s.reportsResolved w := by
  have hasks : AsksOnly s.trace (s.trace ++ [.resolution c (s.instant w).resolution.resolved]) :=
    .single _ fun _ => rfl
  unfold checkResolved reportsResolved
  split_ifs with hclob
  · dsimp only
    split_ifs with hres
    · exact ⟨⟨hasks, rfl, fun _ r' h => ⟨r', h, rfl⟩, le_rfl, rfl, rfl⟩, hres.symm⟩
    · exact ⟨⟨hasks, rfl, fun _ r' h => ⟨r', h, rfl⟩, le_rfl, rfl, rfl⟩,
        (Bool.eq_false_iff.mpr hres).symm⟩
  · exact ⟨.refl s, rfl⟩

/-- A redeem turn may follow one that redeems nothing and draws no identifier. -/
theorem RedeemTurn.after {i : PositionId} (h : RedeemTurn t i id ok s') (ha : Aside s t)
    (hu : t.uuids = s.uuids) : RedeemTurn s i id ok s' := by
  obtain ⟨l, c, hasks, htrace⟩ := h.trace
  refine ⟨⟨l, c, ha.trace.trans hasks, htrace⟩, fun j hj => ?_, fun c' hc' => ?_, fun j r' hj => ?_,
    ?_, ?_, ?_⟩
  · rw [h.others j hj, ha.claims]
  · have hclaim := h.claim c' hc'
    rw [ha.claims, ha.claimsMode, hu] at hclaim
    exact hclaim
  · rcases h.retries j r' hj with ⟨r, hr, hrc⟩ | hnew
    · obtain ⟨u, hu, huc⟩ := ha.retries j r hr
      exact .inl ⟨u, hu, hrc.trans huc⟩
    · exact .inr hnew
  · exact ha.uuids.trans h.uuids
  · rw [h.claimsMode, ha.claimsMode]
  · rw [h.settlementMode, ha.settlementMode]

/-- A redeem call on a new claim. -/
theorem RedeemTurn.newClaim {p : PositionRecord} {now : Time}
    (h : RedeemTurn (s.createClaim p now) p.positionId s.uuids ok s') :
    RedeemTurn s p.positionId s.uuids ok s' := by
  have hmode := paperMode_createClaim (s := s) p now
  refine ⟨h.trace, fun j hj => ?_, fun c' hc' => ?_, h.retries, ?_, ?_, h.settlementMode⟩
  · rw [h.others j hj, get?_createClaim p now j, if_neg (Ne.symm hj)]
  · obtain ⟨hs, hpos⟩ := h.claim c' hc'
    rw [get?_createClaim_self] at hs hpos
    refine ⟨fun hs' => ?_, .inr ⟨rfl, ?_⟩⟩
    · rcases hs hs' with ⟨c, hc, hcs⟩ | hpaper
      · obtain rfl := Option.some.inj hc
        cases hcs
      · rw [← hmode]
        exact .inr hpaper
    · rcases hpos with ⟨c, hc, hcp⟩ | ⟨-, hcp⟩
      · obtain rfl := Option.some.inj hc
        exact hcp
      · exact hcp
  · exact (Nat.le_succ s.uuids).trans h.uuids
  · rw [h.claimsMode, hmode]

/-- A position that is settled gets a new claim and a redeem call. -/
theorem settlePosition_turn (s : Trading) (w : World) (p : PositionRecord) :
    s.uuids < (s.settlePosition w p).state.uuids ∧
      ∃ ok, RedeemTurn s p.positionId s.uuids ok (s.settlePosition w p).state := by
  obtain ⟨ok, heff⟩ :=
    executeRedeemForClaim_effect (s.createClaim p (s.instant w).now) w p s.uuids
  have hturn : RedeemTurn (s.createClaim p (s.instant w).now) p.positionId s.uuids ok
      (s.settlePosition w p).state := by
    refine heff.turn ?_
    unfold settlePosition
    dsimp only
    split
    · exact .inl rfl
    · exact .inl rfl
    · exact .inr ⟨_, SettlementRetryState.positionId_scheduleNext _ _,
        SettlementRetryState.claimId_scheduleNext _ _, rfl⟩
  exact ⟨(Nat.lt_succ_self s.uuids).trans_le hturn.uuids, ok, hturn.newClaim⟩

/-- What the resolution check leaves. -/
theorem checkResolved_same (s : Trading) (w : World) (c : ConditionId) :
    (s.checkResolved w c).1.uuids = s.uuids ∧ (s.checkResolved w c).1.claims = s.claims ∧
      (s.checkResolved w c).1.settlement.retryStates = s.settlement.retryStates := by
  unfold checkResolved
  split_ifs
  · dsimp only
    split_ifs
    · exact ⟨rfl, rfl, rfl⟩
    · exact ⟨rfl, rfl, rfl⟩
  · exact ⟨rfl, rfl, rfl⟩

/-- A turn of the scan settles its position iff it is due. -/
theorem scanOne_state (s : Trading) (w : World) (p : PositionRecord) :
    (¬s.ScanDue w p ∧ ((s.scanOne w p).state = s ∨
      (s.scanOne w p).state = (s.checkResolved w p.conditionId).1)) ∨
      s.ScanDue w p ∧ (s.scanOne w p).state =
        ((s.checkResolved w p.conditionId).1.settlePosition w p).state := by
  have hres := (checkResolved_aside s w p.conditionId).2
  unfold ScanDue scanOne
  rw [← hres]
  cases hretry : s.settlement.retryStates.get? p.positionId with
  | some r => exact .inl ⟨(fun h => by cases h.1), .inl rfl⟩
  | none =>
    cases hsettled : s.isSettled p.positionId with
    | true => exact .inl ⟨(fun h => by cases h.2.1), .inl rfl⟩
    | false =>
      simp only [Option.isSome_none, Bool.false_eq_true, if_false]
      cases (s.checkResolved w p.conditionId).2 with
      | false => exact .inl ⟨(fun h => by cases h.2.2), .inr rfl⟩
      | true => exact .inr ⟨⟨trivial, trivial, rfl⟩, rfl⟩

/-- **One turn of the scan** redeems iff its position is due. -/
theorem scanOne_cases (s : Trading) (w : World) (p : PositionRecord) :
    (¬s.ScanDue w p ∧ Aside s (s.scanOne w p).state) ∨
      s.ScanDue w p ∧ s.uuids < (s.scanOne w p).state.uuids ∧
        ∃ ok, RedeemTurn s p.positionId s.uuids ok (s.scanOne w p).state := by
  have haside := (checkResolved_aside s w p.conditionId).1
  have huuids := (checkResolved_same s w p.conditionId).1
  rcases scanOne_state s w p with ⟨hnot, hstate | hstate⟩ | ⟨hdue, hstate⟩
  · rw [hstate]
    exact .inl ⟨hnot, .refl s⟩
  · rw [hstate]
    exact .inl ⟨hnot, haside⟩
  · rw [hstate]
    obtain ⟨hdrawn, ok, hturn⟩ := settlePosition_turn (s.checkResolved w p.conditionId).1 w p
    rw [huuids] at hdrawn
    exact .inr ⟨hdue, hdrawn, ok, huuids ▸ hturn.after haside huuids⟩

end Trading

end Polyfast
