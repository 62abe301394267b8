import Polyfast.Orchestrator.Redemption

/-!
# Redeem at most once

The only memory of a finished redeem is the claim. In paper mode it is booked as a success, so that the
scan never comes back to the position; in live mode the claim manager books a failure although the relayer
has succeeded.

* `PaperBooks`, `LiveBooks`: what the turns keep in the two modes;
* `redeemed_once_iff`: when no position is redeemed again.
-/

namespace Polyfast

namespace Trading

variable {s s' : Trading} {p : PositionRecord} {w : World}

theorem isSettled_iff {id : PositionId} :
    s.isSettled id = true ↔ ∃ k c, s.claims.claims.get? k = some c ∧ c.positionId = id ∧
      c.isSuccess = true := by
  unfold isSettled ClaimManager.getClaimsByPosition
  rw [List.any_eq_true]
  constructor
  · rintro ⟨c, hc, hs⟩
    obtain ⟨hmem, hid⟩ := List.mem_filter.mp hc
    exact ⟨c.claimId, c, Lib.Table.mem_records.mp hmem, of_decide_eq_true hid, hs⟩
  · rintro ⟨k, c, hc, hid, hs⟩
    exact ⟨c, List.mem_filter.mpr ⟨Lib.Table.mem_records_of_get? hc, decide_eq_true hid⟩, hs⟩

/-- At most one claim of a position is successful. -/
def SuccessUnique (s : Trading) : Prop :=
  ∀ c ∈ s.claims.claims.records, ∀ u ∈ s.claims.claims.records, c.isSuccess = true →
    u.isSuccess = true → c.positionId = u.positionId → c = u

/-- What the turns keep in paper mode. -/
structure PaperBooks (s : Trading) : Prop where
  settlementMode : s.settlement.paperMode = true
  claimsMode : s.claims.paperMode = true
  drawn : ∀ k c, s.claims.claims.get? k = some c → k < s.uuids
  retryStates : ∀ id, s.settlement.retryStates.get? id = none
  settled : ∀ id, wasRedeemed s.trace id = true → s.isSettled id = true
  unique : SuccessUnique s

/-- What the turns keep in live mode. -/
structure LiveBooks (s : Trading) : Prop where
  claimsMode : s.claims.paperMode = false
  none_success : ∀ k c, s.claims.claims.get? k = some c → c.isSuccess = false

theorem LiveBooks.unique (h : LiveBooks s) : SuccessUnique s := by
  intro c hc u _ hs
  rw [h.none_success _ c (Lib.Table.mem_records.mp hc)] at hs
  cases hs

/-! ### Paper mode -/

/-- In paper mode a redeem call on an open claim makes it a success. -/
theorem executeRedeemForClaim_paper {id : ClaimId} {c : ClaimRecord} (w : World) (p : PositionRecord)
    (hmode : s.settlement.paperMode = true) (hclaims : s.claims.paperMode = true)
    (hget : s.claims.claims.get? id = some c) (hs : c.isSuccess = false) :
    (s.executeRedeemForClaim w p id).result = .ok true ∧
      (∃ c', (s.executeRedeemForClaim w p id).state.claims.claims.get? id = some c' ∧
        c'.positionId = c.positionId ∧ c'.isSuccess = true) ∧
      (s.executeRedeemForClaim w p id).state.settlement.retryStates = s.settlement.retryStates := by
  unfold executeRedeemForClaim
  rw [if_pos hmode]
  dsimp only
  generalize (s.determineWinner w p).1 = won
  generalize Lib.roundTo 4 (if won = true then p.netPositionShares else 0) = payout
  have hpaper : (s.claims.executeRedeem s.balance id won payout (s.instant w).now).1.claims = _ ∧
      _ ∧ _ ∧ _ := ClaimManager.executeRedeem_paper hget hs hclaims
  obtain ⟨hbooked, -, -, hok⟩ := hpaper
  refine ⟨?_, ⟨ClaimManager.booked c won payout (s.instant w).now, ?_, rfl, rfl⟩, rfl⟩
  · rw [hok]
    rfl
  · simp only [Call.state_returns, answered, hbooked]
    rw [Lib.Table.get?_put]
    exact if_pos (Lib.Table.key_of_get? hget)

/-- In paper mode a settled position has a successful claim and no retry entry. -/
theorem settlePosition_paper (hmode : s.settlement.paperMode = true)
    (hclaims : s.claims.paperMode = true) (w : World) (p : PositionRecord) :
    (∃ c, (s.settlePosition w p).state.claims.claims.get? s.uuids = some c ∧
      c.positionId = p.positionId ∧ c.isSuccess = true) ∧
      (s.settlePosition w p).state.settlement.retryStates = s.settlement.retryStates := by
  have hget : (s.createClaim p (s.instant w).now).claims.claims.get? s.uuids =
      some (ClaimManager.newClaim s.uuids p (s.instant w).now) := get?_createClaim_self p _
  have hpaper : (s.createClaim p (s.instant w).now).claims.paperMode = true :=
    (paperMode_createClaim p _).trans hclaims
  have hm : (s.createClaim p (s.instant w).now).settlement.paperMode = true := hmode
  have hretry : (s.createClaim p (s.instant w).now).settlement.retryStates =
      s.settlement.retryStates := rfl
  obtain ⟨hresult, hclaim, hsame⟩ := executeRedeemForClaim_paper w p hm hpaper hget rfl
  have hstate : (s.settlePosition w p).state =
      ((s.createClaim p (s.instant w).now).executeRedeemForClaim w p s.uuids).state := by
    unfold settlePosition
    dsimp only
    rw [hresult]
    rfl
  rw [hstate, hsame]
  exact ⟨hclaim, hretry⟩

theorem PaperBooks.aside (h : PaperBooks s) (ha : Aside s s') : PaperBooks s' where
  settlementMode := ha.settlementMode.trans h.settlementMode
  claimsMode := ha.claimsMode.trans h.claimsMode
  drawn k c hc := by
    rw [ha.claims] at hc
    exact (h.drawn k c hc).trans_le ha.uuids
  retryStates id := by
    rw [Option.eq_none_iff_forall_ne_some]
    intro r hr
    obtain ⟨u, hu, -⟩ := ha.retries id r hr
    rw [h.retryStates id] at hu
    cases hu
  settled id hid := by
    rw [ha.trace.wasRedeemed] at hid
    obtain ⟨k, c, hc, hrest⟩ := isSettled_iff.mp (h.settled id hid)
    exact isSettled_iff.mpr ⟨k, c, by rw [ha.claims]; exact hc, hrest⟩
  unique := by
    unfold SuccessUnique
    rw [ha.claims]
    exact h.unique

/-- The scan of a position that is due books a successful claim for it. -/
theorem PaperBooks.settle (h : PaperBooks s) (hdue : s.isSettled p.positionId = false) :
    PaperBooks (s.settlePosition w p).state := by
  obtain ⟨⟨c₀, hc₀, hpos₀, hs₀⟩, hretry⟩ := settlePosition_paper h.settlementMode h.claimsMode w p
  obtain ⟨hlt, ok, ht⟩ := settlePosition_turn s w p
  have hold : ∀ k c, (s.settlePosition w p).state.claims.claims.get? k = some c →
      c = c₀ ∨ s.claims.claims.get? k = some c := by
    intro k c hc
    by_cases hk : k = s.uuids
    · rw [hk, hc₀] at hc
      exact .inl (Option.some.inj hc).symm
    · rw [ht.others k hk] at hc
      exact .inr hc
  have hkeep : ∀ k c, s.claims.claims.get? k = some c →
      (s.settlePosition w p).state.claims.claims.get? k = some c := by
    intro k c hc
    rw [ht.others k (h.drawn k c hc).ne]
    exact hc
  refine ⟨ht.settlementMode.trans h.settlementMode, ht.claimsMode.trans h.claimsMode,
    fun k c hc => ?_, fun id => by rw [hretry]; exact h.retryStates id, fun id hid => ?_,
    fun c hc u hu hcs hus hpos => ?_⟩
  · by_cases hk : k = s.uuids
    · rw [hk]
      exact hlt
    · rw [ht.others k hk] at hc
      exact (h.drawn k c hc).trans hlt
  · rw [ht.wasRedeemed, Bool.or_eq_true, Bool.and_eq_true] at hid
    rcases hid with hid | ⟨-, hid⟩
    · obtain ⟨k, c, hc, hrest⟩ := isSettled_iff.mp (h.settled id hid)
      exact isSettled_iff.mpr ⟨k, c, hkeep k c hc, hrest⟩
    · exact isSettled_iff.mpr ⟨s.uuids, c₀, hc₀, hpos₀.trans (of_decide_eq_true hid), hs₀⟩
  · -- a second success would be an old claim of the position, which was not settled
    have hnone : ∀ k c, s.claims.claims.get? k = some c → c.isSuccess = true →
        c.positionId ≠ p.positionId := by
      intro k c hc hs heq
      rw [isSettled_iff.mpr ⟨k, c, hc, heq, hs⟩] at hdue
      cases hdue
    rcases hold _ c (Lib.Table.mem_records.mp hc) with rfl | hcold
    · rcases hold _ u (Lib.Table.mem_records.mp hu) with rfl | huold
      · rfl
      · exact absurd (hpos.symm.trans hpos₀) (hnone _ u huold hus)
    · rcases hold _ u (Lib.Table.mem_records.mp hu) with rfl | huold
      · exact absurd (hpos.trans hpos₀) (hnone _ c hcold hcs)
      · exact h.unique c (Lib.Table.mem_records_of_get? hcold) u (Lib.Table.mem_records_of_get? huold)
          hcs hus hpos

/-- **In paper mode no turn redeems a redeemed position.** -/
theorem PaperBooks.retryOne (h : PaperBooks s) (ho : RedeemedOnce s.trace) (w : World)
    (id : PositionId) :
    PaperBooks (s.retryOne w id).state ∧ RedeemedOnce (s.retryOne w id).state.trace := by
  rcases retryOne_cases s w id with ⟨-, ha⟩ | ⟨⟨r, p, c, hr, -⟩, -⟩
  · exact ⟨h.aside ha, ho.asks ha.trace⟩
  · rw [h.retryStates id] at hr
    cases hr

theorem PaperBooks.scanOne (h : PaperBooks s) (ho : RedeemedOnce s.trace) (w : World)
    (p : PositionRecord) :
    PaperBooks (s.scanOne w p).state ∧ RedeemedOnce (s.scanOne w p).state.trace := by
  have ha := (checkResolved_aside s w p.conditionId).1
  rcases scanOne_state s w p with ⟨-, hstate | hstate⟩ | ⟨hdue, hstate⟩
  · rw [hstate]
    exact ⟨h, ho⟩
  · rw [hstate]
    exact ⟨h.aside ha, ho.asks ha.trace⟩
  · have hnot : (s.checkResolved w p.conditionId).1.isSettled p.positionId = false := by
      unfold isSettled
      rw [(checkResolved_same s w p.conditionId).2.1]
      exact hdue.2.1
    have hbooks := h.aside ha
    obtain ⟨-, ok, ht⟩ := settlePosition_turn (s.checkResolved w p.conditionId).1 w p
    rw [hstate]
    refine ⟨hbooks.settle hnot, (ht.redeemedOnce_iff (ho.asks ha.trace)).mpr ?_⟩
    -- a redeemed position would be settled
    rw [Bool.eq_false_iff]
    intro hred
    rw [hbooks.settled _ hred] at hnot
    cases hnot

/-! ### Live mode -/

theorem LiveBooks.aside (h : LiveBooks s) (ha : Aside s s') : LiveBooks s' where
  claimsMode := ha.claimsMode.trans h.claimsMode
  none_success k c hc := by
    rw [ha.claims] at hc
    exact h.none_success k c hc

theorem LiveBooks.redeem {id : PositionId} {k : ClaimId} {ok : Bool} (h : LiveBooks s)
    (ht : RedeemTurn s id k ok s') : LiveBooks s' where
  claimsMode := ht.claimsMode.trans h.claimsMode
  none_success j c hc := by
    by_cases hj : j = k
    · subst hj
      rw [Bool.eq_false_iff]
      intro hs
      rcases (ht.claim c hc).1 hs with ⟨u, hu, hus⟩ | ⟨hpaper, -⟩
      · rw [h.none_success j u hu] at hus
        cases hus
      · rw [h.claimsMode] at hpaper
        cases hpaper
    · rw [ht.others j hj] at hc
      exact h.none_success j c hc

end Trading

namespace Vault

open Trading

/-- The turn does not come to a redeemed position with a redeem call to make. -/
def Spares (v : Vault) : Label → Prop
  | .retry w id => wasRedeemed v.trading.trace id = true → ¬v.trading.RetryDue w id
  | .scan w p => wasRedeemed v.trading.trace p.positionId = true → ¬v.trading.ScanDue w p
  | _ => True

/-- No position is redeemed again, and at most one claim of a position is successful. -/
def AtMostOnce (v : Vault) : Prop := RedeemedOnce v.trading.trace ∧ SuccessUnique v.trading

variable {v v' : Vault} {l : Label}

theorem paper_step (h : PaperBooks v.trading) (ho : AtMostOnce v) (hl : l.isTurn = true)
    (hst : Step v l v') : PaperBooks v'.trading ∧ AtMostOnce v' := by
  cases hst with
  | aside s ha =>
    have hbooks := h.aside ha
    exact ⟨hbooks, ho.1.asks ha.trace, hbooks.unique⟩
  | retry w id =>
    obtain ⟨hbooks, hone⟩ := h.retryOne ho.1 w id
    exact ⟨hbooks, hone, hbooks.unique⟩
  | scan w p =>
    obtain ⟨hbooks, hone⟩ := h.scanOne ho.1 w p
    exact ⟨hbooks, hone, hbooks.unique⟩
  | reconcile w => cases hl
  | startAgain ps cs now hcs => cases hl
  | restart ps cs now hcs => cases hl

/-- A turn that redeems keeps the law iff it spares redeemed positions. -/
theorem live_redeem {id : PositionId} {k : ClaimId} {ok : Bool} {s : Trading} {due : Prop}
    (h : LiveBooks v.trading) (ho : AtMostOnce v) (hdue : due)
    (ht : RedeemTurn v.trading id k ok s) :
    LiveBooks (v.after s).trading ∧
      (AtMostOnce (v.after s) ↔ (wasRedeemed v.trading.trace id = true → ¬due)) := by
  have hbooks := h.redeem ht
  refine ⟨hbooks, ?_⟩
  have hone : AtMostOnce (v.after s) ↔ RedeemedOnce s.trace := and_iff_left hbooks.unique
  rw [hone, ht.redeemedOnce_iff ho.1, Bool.eq_false_iff]
  exact ⟨fun hnot hred => absurd hred hnot, fun hspare hred => hspare hred hdue⟩

theorem live_aside {s : Trading} {due : Prop} {id : PositionId} (h : LiveBooks v.trading)
    (ho : AtMostOnce v) (hnot : ¬due) (ha : Aside v.trading s) :
    LiveBooks (v.after s).trading ∧
      (AtMostOnce (v.after s) ↔ (wasRedeemed v.trading.trace id = true → ¬due)) := by
  have hbooks := h.aside ha
  exact ⟨hbooks, ⟨fun _ _ => hnot, fun _ => ⟨ho.1.asks ha.trace, hbooks.unique⟩⟩⟩

theorem live_step (h : LiveBooks v.trading) (ho : AtMostOnce v) (hl : l.isTurn = true)
    (hst : Step v l v') : LiveBooks v'.trading ∧ (AtMostOnce v' ↔ Spares v l) := by
  cases hst with
  | aside s ha =>
    have hbooks := h.aside ha
    exact ⟨hbooks, ⟨fun _ => trivial, fun _ => ⟨ho.1.asks ha.trace, hbooks.unique⟩⟩⟩
  | retry w id =>
    rcases retryOne_cases v.trading w id with ⟨hnot, ha⟩ | ⟨hdue, r, ok, -, ht⟩
    · exact live_aside h ho hnot ha
    · exact live_redeem h ho hdue ht
  | scan w p =>
    rcases scanOne_cases v.trading w p with ⟨hnot, ha⟩ | ⟨hdue, -, ok, ht⟩
    · exact live_aside h ho hnot ha
    · exact live_redeem h ho hdue ht
  | reconcile w => cases hl
  | startAgain ps cs now hcs => cases hl
  | restart ps cs now hcs => cases hl

/-- **A position is redeemed at most once**, and has at most one successful claim, all along a run of
settlement turns iff the bot is in paper mode or no turn comes to a redeemed position with a redeem call
to make. -/
theorem redeemed_once_iff {tr : List (Lib.Taken Vault Label)} (h : Fresh v)
    (hcalls : NoRedeem v.trading.trace)
    (hmode : v.trading.claims.paperMode = v.trading.settlement.paperMode)
    (hrun : Lib.Run Step v tr v') (hturns : ∀ x ∈ tr, x.label.isTurn = true) :
    (∀ x ∈ tr, AtMostOnce x.post) ↔
      v.trading.settlement.paperMode = true ∨ ∀ x ∈ tr, Spares x.pre x.label := by
  have hrun' := hrun.restrict (K := fun l => l.isTurn = true) hturns
  have hstart : AtMostOnce v := by
    refine ⟨hcalls.redeemedOnce, fun c hc => ?_⟩
    rw [h.claims] at hc
    cases hc
  cases hpaper : v.trading.settlement.paperMode with
  | true =>
    have hbooks : PaperBooks v.trading :=
      { settlementMode := hpaper
        claimsMode := hmode.trans hpaper
        drawn := fun k c hc => by simp [h.claims] at hc
        retryStates := fun id => by simp [h.retryStates]
        settled := fun id hid => by
          rw [hcalls.wasRedeemed id] at hid
          cases hid
        unique := hstart.2 }
    have hall := Lib.Run.invariant (I := fun u => PaperBooks u.trading ∧ AtMostOnce u)
      (fun _ _ _ hI hst => paper_step hI.1 hI.2 hst.2 hst.1) ⟨hbooks, hstart⟩ hrun'
    exact ⟨fun _ => .inl rfl, fun _ x hx => (hall.2 x hx).2.2⟩
  | false =>
    have hbooks : LiveBooks v.trading :=
      { claimsMode := hmode.trans hpaper
        none_success := fun k c hc => by simp [h.claims] at hc }
    rw [Lib.Run.always_iff (I := AtMostOnce) (J := fun u => LiveBooks u.trading) (C := Spares)
      (fun _ _ _ hJ hI hst => live_step hJ hI hst.2 hst.1) hbooks hstart hrun']
    exact ⟨.inr, fun hor => hor.resolve_left (by simp)⟩

/-- Another position of that kind, and both of them in live mode. -/
def secondPosition : PositionRecord := { unredeemedPosition with positionId := 1, conditionId := "other" }

def bothUnsettled : Trading :=
  { unsettled with tracker := { positions := (Lib.Table.empty.put unredeemedPosition).put secondPosition } }

/-- One position is redeemed at the second attempt and the other one at once; a later scan of the first finds its
event not reported as resolved. -/
theorem redeemed_once_both : ∃ tr v', Lib.Run Step ⟨bothUnsettled, []⟩ tr v' ∧
    (wasRedeemed v'.trading.trace 0 = true ∧ wasRedeemed v'.trading.trace 1 = true) ∧
    ∀ x ∈ tr, AtMostOnce x.post := by
  have hrun : Lib.Run Step ⟨bothUnsettled, []⟩ _ _ := (((Lib.Run.single
    (.scan _ (refusing true) unredeemedPosition)).snoc
    (.retry _ paying 0)).snoc
    (.scan _ paying secondPosition)).snoc
    (.scan _ (refusing false) unredeemedPosition)
  refine ⟨_, _, hrun, by decide +kernel, (redeemed_once_iff ⟨rfl, rfl, rfl⟩ (fun _ hb => by cases hb) rfl hrun
    (by simp [Label.isTurn])).mpr (.inr ?_)⟩
  simp only [List.forall_mem_append, List.forall_mem_singleton, Spares]
  refine ⟨⟨⟨?_, ?_⟩, ?_⟩, fun _ hdue => ?_⟩
  · exact fun hred => absurd hred (by decide +kernel)
  · exact fun hred => absurd hred (by decide +kernel)
  · exact fun hred => absurd hred (by decide +kernel)
  · exact absurd hdue.2.2 (by decide +kernel)

/-- After one settlement. -/
def settledOnce : Trading := (unsettled.processSettlements paying).state

/-- After two. -/
def settledTwice : Trading := (settledOnce.processSettlements paying).state

/-- In live mode the second settlement redeems the position that the first has redeemed. -/
theorem redeemed_twice :
    ∃ (tr : List (Lib.Taken Vault Label)) (v' : Vault), Fresh ⟨unsettled, []⟩ ∧
      NoRedeem unsettled.trace ∧ Lib.Run Step ⟨unsettled, []⟩ tr v' ∧
      (∀ x ∈ tr, x.label.isTurn = true) ∧ v'.trading = settledTwice ∧
      ¬RedeemedOnce settledTwice.trace := by
  have honce : Reaches Label.isTurn ⟨unsettled, []⟩ settledOnce :=
    processSettlements_turns paying (fun _ hl => hl) (.start rfl ⟨unsettled, []⟩)
  obtain ⟨tr, u, hrun, hturns⟩ : Reaches Label.isTurn ⟨unsettled, []⟩ settledTwice :=
    processSettlements_turns paying (fun _ hl => hl) honce
  have hfails : ¬RedeemedOnce settledTwice.trace := by decide +kernel
  exact ⟨tr, u.after settledTwice, ⟨rfl, rfl, rfl⟩, (fun _ hb => by cases hb), hrun, hturns, rfl,
    hfails⟩

end Vault

end Polyfast
