import Polyfast.Orchestrator.SettleDesk

/-!
# Settlement of positions that were never filled

A rejected order leaves a closed position without a close reason and without shares, and `needs_redeem` takes
every closed position that was not sold for one with its token in hand. The scan of `process_settlements`
looks at nothing else.

* `OnlyFilled`: the turn does so for a position with shares;
* `only_filled_iff`: when every turn of a run does.
-/

namespace Polyfast

namespace SettleDesk

open Trading

/-- The turn settles positions with shares only. -/
def OnlyFilled (x : Lib.Taken SettleDesk Label) : Prop :=
  x.label.isTurn = true → ∀ id, Settles x.pre.trading x.post.trading id →
    ∃ p, x.pre.trading.tracker.positions.get? id = some p ∧ 0 < p.netPositionShares

/-- A scan that comes to a position with a redeem call to make finds shares. -/
def ScansFilled (d : SettleDesk) (l : Label) : Prop :=
  match l with
  | .scan w p => d.trading.ScanDue w p → 0 < p.netPositionShares
  | _ => True

variable {d d' : SettleDesk}

theorem onlyFilled_of_entries {x : Lib.Taken SettleDesk Label} (hs : Step x.pre x.label x.post)
    (hentries : Entries (fun p => 0 < p.netPositionShares) x.pre) (hscan : x.pre.ScansFilled x.label) :
    OnlyFilled x := by
  obtain ⟨pre, label, post⟩ := x
  intro hturn id hsettles
  dsimp only at hs hentries hscan hturn hsettles ⊢
  cases hs with
  | retry w k =>
    rcases retryOne_cases pre.trading w k with ⟨-, ha⟩ | ⟨⟨r, p, c, hr, -, hp, -⟩, u, ok, -, ht⟩
    · exact absurd hsettles (ha.not_settles id)
    · obtain rfl := ht.settles_iff.mp hsettles
      exact ⟨p, hp, ((hentries id r hr).2 p hp).2⟩
  | drop k hover => exact absurd hsettles ((dropRetry_aside pre.trading k).not_settles id)
  | scan w p hp hr =>
    rcases scanOne_cases pre.trading w p with ⟨-, ha⟩ | ⟨hdue, -, ok, ht⟩
    · exact absurd hsettles (ha.not_settles id)
    · obtain rfl := ht.settles_iff.mp hsettles
      exact ⟨p, hp, hscan hdue⟩
  | trade l e hl hst => cases hturn
  | requestClose k reason triggers now => cases hturn
  | startAgain ps cs now hnodup hps => cases hturn
  | restart ps cs now hnodup hps => cases hturn

theorem scansFilled_of_onlyFilled {x : Lib.Taken SettleDesk Label} (hs : Step x.pre x.label x.post)
    (h : OnlyFilled x) : x.pre.ScansFilled x.label := by
  obtain ⟨pre, label, post⟩ := x
  dsimp only at hs h ⊢
  cases hs with
  | scan w p hp hr =>
    intro hdue
    rcases scanOne_cases pre.trading w p with ⟨hnot, -⟩ | ⟨-, -, ok, ht⟩
    · exact absurd hdue hnot
    · obtain ⟨q, hq, hshares⟩ := h rfl p.positionId (ht.settles_iff.mpr rfl)
      obtain rfl := Option.some.inj (hp.symm.trans hq)
      exact hshares
  | _ => trivial

/-- **Only filled positions are settled** all along a run exactly if no scan comes to a position without
shares with a redeem call to make. -/
theorem only_filled_iff {tr : List (Lib.Taken SettleDesk Label)} (h : Fresh d) (hrun : Lib.Run Step d tr d') :
    (∀ x ∈ tr, OnlyFilled x) ↔ ∀ x ∈ tr, x.pre.ScansFilled x.label := by
  refine ⟨fun hall x hx => scansFilled_of_onlyFilled (hrun.step_of_mem hx) (hall x hx), fun hscans x hx => ?_⟩
  have hinv := hrun.invariant_under (C := ScansFilled)
    (I := fun u => Sound u ∧ Entries (fun p => 0 < p.netPositionShares) u) (by
      intro u l v hu hscan hst
      refine ⟨hu.1.step hst, hst.entries hu.1 hu.2 ?_⟩
      rintro w p rfl hdue
      exact hscan hdue) ⟨h.sound, h.entries⟩ hscans
  exact onlyFilled_of_entries (hrun.step_of_mem hx) (hinv.2 x hx).1.2 (hscans x hx)

/-- A filled position is sold at the end of its event, and a scan settles it. -/
theorem only_filled_expiry : Lib.Run Step paperDesk expirySteps paidTwice ∧
    Settles soldOnExpiry.trading paidTwice.trading 0 ∧ ∀ x ∈ expirySteps, OnlyFilled x := by
  refine ⟨expiry_run, .inl ?_, (only_filled_iff paperDesk_fresh expiry_run).mpr ?_⟩
  · exact ⟨1, (paidTwice.trading.claims.claims.get? 1).get (by decide +kernel), by decide +kernel,
      by decide +kernel, by decide +kernel⟩
  · have hshares : 0 < soldRecord.netPositionShares := by decide +kernel
    simp [expirySteps, ScansFilled, hshares]

/-- An order is at the exchange. -/
def ordering : SettleDesk :=
  liveDesk.after (liveDesk.desk.afterExecute (Desk.orderFor "event")
    (liveDesk.trading.execute (Desk.orderFor "event") 0))

theorem ordering_step : Step liveDesk (.trade (.execute (Desk.orderFor "event") 0)) ordering :=
  .trade liveDesk _ _ rfl (.execute liveDesk.desk (Desk.orderFor "event") 0)

/-- It is not filled. -/
def rejectedOrder : SettleDesk :=
  ordering.after ({ ordering.desk with orders := [] }.afterExecute (Desk.orderFor "event")
    (ordering.trading.orderReply (Desk.orderFor "event") 0 (some { status := "not_matched" }) 1))

/-- The position of the rejected order. -/
def rejectedRecord : PositionRecord := (rejectedOrder.trading.tracker.positions.get? 0).get (by decide +kernel)

/-- The event is reported as resolved, and the relayer refuses. -/
def refusesAll : World := fun _ =>
  { now := 600
    resolution := { closed := true, resolved := true, winningSide := "UP" }
    redeem := .ok { success := .bool false } }

/-- The next scan. -/
def settledRejection : SettleDesk :=
  rejectedOrder.afterTurn (rejectedOrder.trading.scanOne refusesAll rejectedRecord).state

/-- An order is rejected, its event ends, and settlement makes a redeem call for it. -/
theorem rejected_order_redeemed : Fresh liveDesk ∧ ∃ tr, Lib.Run Step liveDesk tr settledRejection ∧
    ¬(∀ x ∈ tr, OnlyFilled x) ∧ rejectedRecord.netPositionShares = 0 ∧
    (settledRejection.trading.claims.getClaimsByPosition 0).length = 1 ∧
    settledRejection.trading.redeemCalls 0 = 1 := by
  have hreject : Step ordering (.trade (.orderReply (Desk.orderFor "event") 0
      (some { status := "not_matched" }) 1)) rejectedOrder :=
    .trade ordering _ _ rfl (.orderReply ordering.desk [] [] _ 0 _ 1 (by decide +kernel))
  have hget : rejectedOrder.trading.tracker.positions.get? rejectedRecord.positionId = some rejectedRecord := by
    decide +kernel
  have hscan : Step rejectedOrder (.scan refusesAll rejectedRecord) settledRejection :=
    .scan rejectedOrder refusesAll rejectedRecord hget (by decide +kernel)
  have hempty : rejectedRecord.netPositionShares = 0 := by decide +kernel
  have hcalls : rejectedOrder.trading.redeemCalls 0 < settledRejection.trading.redeemCalls 0 := by decide +kernel
  refine ⟨liveDesk_fresh, _, ((Lib.Run.single ordering_step).snoc hreject).snoc hscan, fun hall => ?_, hempty,
    by decide +kernel, by decide +kernel⟩
  obtain ⟨p, hp, hshares⟩ := hall ⟨rejectedOrder, .scan refusesAll rejectedRecord, settledRejection⟩ (by simp) rfl 0
    (.inr hcalls)
  have hzero : rejectedRecord.positionId = 0 := by decide +kernel
  rw [hzero] at hget
  obtain rfl := Option.some.inj (hget.symm.trans hp)
  rw [hempty] at hshares
  exact lt_irrefl _ hshares

end SettleDesk

end Polyfast
