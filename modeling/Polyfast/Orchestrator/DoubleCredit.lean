import Polyfast.Orchestrator.SettleDesk

/-!
# Sale proceeds and redeem payouts

Whether a closed position still holds its token is read off its close reason: `was_sold` takes every reason
but `EXPIRY` and `CLAIM` for a sale. `execute_close` sells whatever the reason is, so a position that was
closed for one of the two and sold is redeemed all the same.

* `Sells`, `PaysOut`: the steps that credit a position;
* `sells_closed`, `paysOut_closed`: what they say about the closed position;
* `no_double_credit`: no position is credited both ways if every sale is for a reason of a sale.
-/

namespace Polyfast

/-- Closed for the reason of a sale. -/
theorem PositionRecord.needsRedeem_of_sold {r r' : PositionRecord} (hclosed : r'.state = .closed)
    (hreason : r'.closeReason = r.closeReason) (h : (r.inState .closed).wasSold = true) :
    r'.needsRedeem = false := by
  have hsold : r'.wasSold = (r.inState .closed).wasSold := by
    simp only [wasSold, isClosed, hclosed, hreason]
    rfl
  rw [needsRedeem, hsold, h, Bool.not_true, Bool.and_false]

namespace Trading

variable {s : Trading} {id k : PositionId} {r r' : PositionRecord} {price : ℚ} {now : Time}

/-- A position that a call of `execute_close` closes before any await: the paper sale went through. -/
theorem closeBegin_closes (hr : s.tracker.positions.get? k = some r) (hne : r.state ≠ .closed)
    (hr' : (s.closeBegin id price now).1.tracker.positions.get? k = some r') (hclosed : r'.state = .closed) :
    k = id ∧ s.exitExecutor.paperMode = true ∧ s.Sends r price now ∧ r'.closeReason = r.closeReason := by
  have hid : k = id := by
    by_contra hk
    rw [(closeBegin_exits s id price now).2.1 k hk, hr] at hr'
    exact hne (Option.some.inj hr' ▸ hclosed)
  subst hid
  have hkey : r.positionId = k := Lib.Table.key_of_get? hr
  by_cases hidle : isClosing r = false ∨ s.CoolsDown r now
  · rw [closeBegin_idle hr hidle, hr] at hr'
    exact absurd (Option.some.inj hr' ▸ hclosed) hne
  · rw [not_or, Bool.not_eq_false] at hidle
    by_cases hc : s.Cancels r price
    · rw [closeBegin_cancels hr hc] at hr'
      have hput : (s.tracker.positions.put r.cancelClose).get? k = some r.cancelClose := by
        rw [Lib.Table.get?_put, if_pos (show r.cancelClose.positionId = k from hkey)]
      rw [← Option.some.inj (hput.symm.trans hr')] at hclosed
      cases hclosed
    · have hsends : s.Sends r price now := ⟨hidle.1, hidle.2, hc⟩
      obtain ⟨-, -, hsent⟩ := sent_exits hr hidle.1
      by_cases hp : s.exitExecutor.paperMode = true
      · refine ⟨rfl, hp, hsends, ?_⟩
        rw [(closeBegin_paper hr hsends hp).2.1, Lib.Table.get?_put,
          if_pos (show (PositionTracker.sold r price defaultCryptoFeeRate now).positionId = k from hkey)] at hr'
        exact (congrArg PositionRecord.closeReason (Option.some.inj hr')).symm
      · rw [closeBegin_sends hr hsends, if_neg hp] at hr'
        split_ifs at hr'
        · rw [get?_closeFailed now hsent rfl] at hr'
          rw [← Option.some.inj hr'] at hclosed
          cases hclosed
        · rw [hsent] at hr'
          rw [← Option.some.inj hr'] at hclosed
          cases hclosed

/-- A position that the answer to a sell order closes: the order was filled. -/
theorem sellAnswered_closes {reply : Except PyError (Option OrderReply)}
    (hs : ∃ u, s.tracker.positions.get? id = some u ∧ u.state = .closePending)
    (hr : s.tracker.positions.get? k = some r) (hne : r.state ≠ .closed)
    (hr' : (s.sellAnswered id reply now).1.tracker.positions.get? k = some r') (hclosed : r'.state = .closed) :
    k = id ∧ (∃ a sale, reply = .ok a ∧ sellOutcome r a = .ok (some sale)) ∧ r'.closeReason = r.closeReason := by
  obtain ⟨u, hu, hpending⟩ := hs
  have hid : k = id := by
    by_contra hk
    rw [(sellAnswered_exits reply now hu hpending).2.1 k hk, hr] at hr'
    exact hne (Option.some.inj hr' ▸ hclosed)
  subst hid
  obtain rfl := Option.some.inj (hr.symm.trans hu)
  have hget : (s.answered (.sell k)).tracker.positions.get? k = some r := hr
  cases reply with
  | error e =>
    rw [show (s.sellAnswered k (.error e) now).1.tracker.positions.get? k = some r from hr] at hr'
    exact absurd (Option.some.inj hr' ▸ hclosed) hne
  | ok a =>
    simp only [sellAnswered, closeEnd, hget] at hr'
    cases ho : sellOutcome r a with
    | error e =>
      rw [ho] at hr'
      rw [← Option.some.inj (hget.symm.trans hr')] at hclosed
      exact absurd hclosed hne
    | ok outcome =>
      rw [ho] at hr'
      cases outcome with
      | none =>
        have hfailed := get?_closeFailed now hget hpending
        rw [← Option.some.inj (hfailed.symm.trans hr')] at hclosed
        cases hclosed
      | some sale =>
        refine ⟨rfl, ⟨a, sale, rfl, ho⟩, ?_⟩
        have hconfirm : (s.answered (.sell k)).tracker.confirmClose k sale.1 (some sale.2) now = _ :=
          PositionTracker.confirmClose_of_closePending hget hpending
        have hput : ((s.answered (.sell k)).closeSold k sale.1 sale.2 now).1.tracker.positions.get? k =
            some (PositionTracker.sold r sale.1 sale.2 now) := by
          have hkey : r.positionId = k := Lib.Table.key_of_get? hr
          have hsold : (PositionTracker.sold r sale.1 sale.2 now).positionId = k := hkey
          simp only [closeSold, hconfirm, Call.result_returns, Call.state_returns]
          split_ifs
          · rw [PositionTracker.positions_persist, PositionTracker.positions_write, Lib.Table.get?_put, if_pos hsold]
          · rw [PositionTracker.positions_persist, PositionTracker.positions_write, Lib.Table.get?_put, if_pos hsold]
        exact (congrArg PositionRecord.closeReason (Option.some.inj (hput.symm.trans hr'))).symm

end Trading

namespace SettleDesk

open Trading

/-- A stretch of `execute_close` that may sell. -/
def Label.isExit : Label → Bool
  | trade (.close _ _ _) | trade (.sellReply _ _ _) => true
  | _ => false

/-- The step sells the position: `execute_close` closes it, and its net proceeds are positive. -/
def Sells (x : Lib.Taken SettleDesk Label) (id : PositionId) : Prop :=
  x.label.isExit = true ∧ ∃ r r', x.pre.trading.tracker.positions.get? id = some r ∧ r.state ≠ .closed ∧
    x.post.trading.tracker.positions.get? id = some r' ∧ r'.state = .closed ∧ 0 < r'.netExitUsdc

/-- A turn has paid out: in paper mode the balance has grown, in live mode the relayer reports a payout. -/
def Pays (w : World) (s s' : Trading) (id : PositionId) : Prop :=
  if s.settlement.paperMode = true then s.balance.available < s'.balance.available
  else ∃ l c r q, s'.trace = l ++ [.redeem id c true] ∧ s.trace.length ≤ l.length ∧
    (w l.length).redeem = .ok r ∧ r.payoutUsdc.number = .ok q ∧ 0 < q

/-- The step pays out for the position. -/
def PaysOut (x : Lib.Taken SettleDesk Label) (id : PositionId) : Prop :=
  match x.label with
  | .retry w k => k = id ∧ Pays w x.pre.trading x.post.trading id
  | .scan w p => p.positionId = id ∧ Pays w x.pre.trading x.post.trading id
  | _ => False

/-- The step sells this position. -/
def SaleOf (d : SettleDesk) (l : Label) (r : PositionRecord) : Prop :=
  match l with
  | .trade (.close id price now) => d.trading.tracker.positions.get? id = some r ∧
      d.trading.exitExecutor.paperMode = true ∧ d.trading.Sends r price now
  | .trade (.sellReply id reply _) => d.trading.tracker.positions.get? id = some r ∧
      ∃ a sale, reply = .ok a ∧ sellOutcome r a = .ok (some sale)
  | _ => False

/-- Whatever the step sells, `was_sold` will say so. -/
def SalesShow (d : SettleDesk) (l : Label) : Prop := ∀ r, d.SaleOf l r → (r.inState .closed).wasSold = true

/-- The position is closed, and `needs_redeem` answers `b`. -/
def ClosedNeeding (d : SettleDesk) (b : Bool) (id : PositionId) : Prop :=
  ∃ r, d.trading.tracker.positions.get? id = some r ∧ r.state = .closed ∧ r.needsRedeem = b

variable {d d' : SettleDesk} {l : Label} {id : PositionId} {x : Lib.Taken SettleDesk Label}

/-- **A closed position stays as it is** until the next start. -/
theorem Step.get?_closed (hs : Step d l d') (hd : Sound d) (hl : l.inProcess = true) {r : PositionRecord}
    (hr : d.trading.tracker.positions.get? id = some r) (hclosed : r.state = .closed) :
    d'.trading.tracker.positions.get? id = some r := by
  have hat : Desk.IsClosedAt d.trading.tracker id := by
    intro u hu
    rw [← Option.some.inj (hr.symm.trans hu)]
    exact hclosed
  have hsame : ∀ {s : Trading}, SettleFrame d.trading s → s.tracker.positions.get? id = some r := by
    intro s hf
    rw [hf.tracker, hr]
  cases hs with
  | trade l e hl hst => exact ((hd.desk.step hst).2.1.get?_closed hat (hd.desk.fresh id r hr).ne).trans hr
  | requestClose k reason triggers now =>
    have he := requestClose_exits (s := d.trading) k reason triggers now
    exact (Desk.quiets_closed (PositionTracker.ExitMoves.quiet he.moves) hat).trans hr
  | retry w k => exact hsame (retryOne_frame d.trading w k)
  | drop k hover => exact hr
  | scan w p hp hred => exact hsame (scanOne_frame d.trading w p)
  | startAgain ps cs now hnodup hps => cases hl
  | restart ps cs now hnodup hps => cases hl

theorem ClosedNeeding.step {b : Bool} (h : d.ClosedNeeding b id) (hs : Step d l d') (hd : Sound d)
    (hl : l.inProcess = true) : d'.ClosedNeeding b id := by
  obtain ⟨r, hr, hclosed, hneeds⟩ := h
  exact ⟨r, hs.get?_closed hd hl hr hclosed, hclosed, hneeds⟩

/-- **After a sale** for a reason of a sale the position needs no redeem. -/
theorem sells_closed (hs : Step x.pre x.label x.post) (hd : Sound x.pre) (hshow : x.pre.SalesShow x.label)
    (h : Sells x id) : x.post.ClosedNeeding false id := by
  obtain ⟨pre, label, post⟩ := x
  obtain ⟨hexit, r, r', hr, hne, hr', hclosed, -⟩ := h
  dsimp only at hs hd hshow hexit hr hr'
  refine ⟨r', hr', hclosed, ?_⟩
  suffices hsale : SaleOf pre label r ∧ r'.closeReason = r.closeReason by
    exact PositionRecord.needsRedeem_of_sold hclosed hsale.2 (hshow r hsale.1)
  cases hs with
  | trade l e hl hst =>
    cases hst with
    | close k price now =>
      have hget : (pre.trading.closeBegin k price now).1.tracker.positions.get? id = some r' := by
        rw [← hr']
        exact congrArg (·.tracker.positions.get? id) (Desk.trading_afterClose _).symm
      obtain ⟨rfl, hpaper, hsends, hreason⟩ := closeBegin_closes hr hne hget hclosed
      exact ⟨⟨hr, hpaper, hsends⟩, hreason⟩
    | sellReply l₁ l₂ k reply now hsplit =>
      have hget : (pre.trading.sellAnswered k reply now).1.tracker.positions.get? id = some r' := by
        rw [← hr']
        exact congrArg (·.tracker.positions.get? id) (Desk.trading_afterClose _).symm
      have hpending := hd.desk.sellsPending k (by rw [hsplit]; simp)
      obtain ⟨rfl, hsale, hreason⟩ := sellAnswered_closes hpending hr hne hget hclosed
      exact ⟨⟨hr, hsale⟩, hreason⟩
    | _ => cases hexit
  | _ => cases hexit

theorem not_pays_self (w : World) (s : Trading) (id : PositionId) : ¬Pays w s s id := by
  unfold Pays
  split_ifs
  · exact lt_irrefl _
  · rintro ⟨l, c, r, q, htrace, hle, -⟩
    rw [htrace, List.length_append, List.length_singleton] at hle
    omega

/-- **A payout** is for a closed position that needs its redeem. -/
theorem paysOut_closed (hs : Step x.pre x.label x.post)
    (hentries : Entries (fun p => p.needsRedeem = true) x.pre) (h : PaysOut x id) :
    x.pre.ClosedNeeding true id := by
  obtain ⟨pre, label, post⟩ := x
  dsimp only at hs hentries h
  cases hs with
  | retry w k =>
    obtain ⟨rfl, hpays⟩ := h
    rcases retryOne_state pre.trading w k with ⟨-, hstate⟩ | ⟨r, p, hr, -, hp, -⟩
    · refine absurd hpays ?_
      rw [show (pre.afterTurn (pre.trading.retryOne w k).state).trading = pre.trading from hstate]
      exact not_pays_self w pre.trading k
    · obtain ⟨hclosed, hneeds⟩ := (hentries k r hr).2 p hp
      exact ⟨p, hp, hclosed, hneeds⟩
  | scan w p hp hred =>
    obtain ⟨rfl, -⟩ := h
    simp only [PositionRecord.isRedeemable, Bool.and_eq_true, PositionRecord.isClosed, decide_eq_true_eq] at hred
    exact ⟨p, hp, hred.1.1, hred.2⟩
  | trade l e hl hst => cases h
  | requestClose k reason triggers now => cases h
  | drop k hover => cases h
  | startAgain ps cs now hnodup hps => cases h
  | restart ps cs now hnodup hps => cases h

/-- A sale can be read off the position before and after. -/
theorem sells_of_any (hexit : x.label.isExit = true)
    (hpre : (x.pre.trading.tracker.positions.get? id).any (fun r => decide (r.state ≠ .closed)) = true)
    (hpost : (x.post.trading.tracker.positions.get? id).any
      (fun r => decide (r.state = .closed ∧ 0 < r.netExitUsdc)) = true) : Sells x id := by
  obtain ⟨r, hr, hne⟩ := Option.any_eq_true _ _ |>.mp hpre
  obtain ⟨r', hr', hsold⟩ := Option.any_eq_true _ _ |>.mp hpost
  exact ⟨hexit, r, r', hr, of_decide_eq_true hne, hr', of_decide_eq_true hsold⟩

/-- **No double credit.** In a run in which every sale is for a reason of a sale, no position has both its
sale proceeds and a redeem payout. -/
theorem no_double_credit {tr : List (Lib.Taken SettleDesk Label)} (h : Fresh d) (hrun : Lib.Run Step d tr d')
    (hl : ∀ x ∈ tr, x.label.inProcess = true) (hshow : ∀ x ∈ tr, x.pre.SalesShow x.label) (id : PositionId) :
    ¬((∃ x ∈ tr, Sells x id) ∧ ∃ x ∈ tr, PaysOut x id) := by
  have hinv := hrun.invariant (I := fun u => Sound u ∧ Entries (fun p => p.needsRedeem = true) u) (by
    intro u l v hu hst
    refine ⟨hu.1.step hst, hst.entries hu.1 hu.2 ?_⟩
    rintro w p rfl hdue
    cases hst with
    | scan w p hp hred =>
      rw [PositionRecord.isRedeemable, Bool.and_eq_true] at hred
      exact hred.2) ⟨h.sound, h.entries⟩
  have hkeep : ∀ b, ∀ x ∈ tr, x.pre.ClosedNeeding b id → x.post.ClosedNeeding b id :=
    fun b x hx hc => hc.step (hrun.step_of_mem hx) (hinv.2 x hx).1.1 (hl x hx)
  rintro ⟨hsells, hpays⟩
  obtain ⟨r, hr, -, hneeds⟩ := hrun.marked (M := fun x => Sells x id)
    (Q := fun u => u.ClosedNeeding false id) (fun x hx hsell =>
    sells_closed (hrun.step_of_mem hx) (hinv.2 x hx).1.1 (hshow x hx) hsell) (hkeep false) hsells
  obtain ⟨u, hu, -, hneeds'⟩ := hrun.marked (M := fun x => PaysOut x id)
    (Q := fun u => u.ClosedNeeding true id) (fun x hx hpay =>
    hkeep true x hx (paysOut_closed (hrun.step_of_mem hx) (hinv.2 x hx).1.2 hpay)) (hkeep true) hpays
  obtain rfl := Option.some.inj (hr.symm.trans hu)
  rw [hneeds] at hneeds'
  cases hneeds'

/-- An order and the answer to it. -/
def ordered (d : SettleDesk) (i : OrderIntent) (id : PositionId) (reply : Option OrderReply) (now : Time) :
    SettleDesk :=
  let e := d.after (d.desk.afterExecute i (d.trading.execute i now))
  e.after ({ e.desk with orders := [] }.afterExecute i (e.trading.orderReply i id reply now))

/-- One order is filled, another one rejected. -/
def twoOrders : SettleDesk :=
  (liveDesk.ordered (Desk.orderFor "a") 0 (some { status := "matched" }) 0).ordered (Desk.orderFor "b") 1 none 1

/-- The stop loss of the first is at the exchange. -/
def stopping : SettleDesk :=
  let d := twoOrders.afterTurn (twoOrders.trading.requestClose 0 .stopLoss [] 2).state
  d.after (d.desk.afterClose (d.trading.closeBegin 0 (2 / 5) 2))

/-- It is sold. -/
def stopped : SettleDesk :=
  stopping.after ({ stopping.desk with sells := [] }.afterClose
    (stopping.trading.sellAnswered 0 (.ok (some { status := "matched" })) 3))

/-- The rejected order. -/
def orderRejected : PositionRecord :=
  { liveDesk.trading.pendingRecord (Desk.orderFor "b") 1 with
    positionId := 1, state := .closed, closedAt := some 1 }

/-- Its event is resolved, and the relayer pays a dollar. -/
def paysOne : World := fun _ =>
  { now := 600
    resolution := { closed := true, resolved := true, winningSide := "UP" }
    redeem := .ok { success := .bool true, payoutUsdc := .num 1 } }

/-- The next scan. -/
def redeemed : SettleDesk := stopped.afterTurn (stopped.trading.scanOne paysOne orderRejected).state

/-- A stop loss is sold and another position redeemed: the sold one is not redeemed. -/
theorem no_double_credit_stopLoss : ∃ tr d', Lib.Run Step liveDesk tr d' ∧ (∃ x ∈ tr, Sells x 0) ∧
    (∃ x ∈ tr, PaysOut x 1) ∧ ¬∃ x ∈ tr, PaysOut x 0 := by
  have hbefore : Lib.Run Step liveDesk _ stopping := (((((Lib.Run.single
    (.trade _ _ _ rfl (.execute _ (Desk.orderFor "a") 0))).snoc
    (.trade _ _ _ rfl (.orderReply _ [] [] (Desk.orderFor "a") 0 (some { status := "matched" }) 0
      (by decide +kernel)))).snoc
    (.trade _ _ _ rfl (.execute _ (Desk.orderFor "b") 1))).snoc
    (.trade _ _ _ rfl (.orderReply _ [] [] (Desk.orderFor "b") 1 none 1 (by decide +kernel)))).snoc
    (.requestClose twoOrders 0 .stopLoss [] 2)).snoc
    (.trade _ _ _ rfl (.close _ 0 (2 / 5) 2))
  have hsell : Step stopping (.trade (.sellReply 0 (.ok (some { status := "matched" })) 3)) stopped :=
    .trade stopping _ _ rfl (.sellReply stopping.desk [] [] 0 _ 3 (by decide +kernel))
  have hscan : Step stopped (.scan paysOne orderRejected) redeemed :=
    .scan stopped paysOne orderRejected (by decide +kernel) (by decide +kernel)
  have hrun := (hbefore.snoc hsell).snoc hscan
  have hsells : Sells ⟨stopping, .trade (.sellReply 0 (.ok (some { status := "matched" })) 3), stopped⟩ 0 :=
    sells_of_any rfl (by decide +kernel) (by decide +kernel)
  have hpays : PaysOut ⟨stopped, .scan paysOne orderRejected, redeemed⟩ 1 := by
    refine ⟨rfl, ?_⟩
    rw [Pays, if_neg (by decide +kernel)]
    exact ⟨[.sell 0, .resolution "b" true], "b", _, 1, by decide +kernel, by decide +kernel, rfl, rfl, by decide⟩
  have hcredited := no_double_credit liveDesk_fresh hrun (by simp [Label.inProcess]) ?_ 0
  · refine ⟨_, _, hrun, ⟨_, ?_, hsells⟩, ⟨_, ?_, hpays⟩, fun hpaid => hcredited ⟨⟨_, ?_, hsells⟩, hpaid⟩⟩
    all_goals simp
  · have hreason : (stopping.trading.tracker.positions.get? 0).map (fun r => (r.inState .closed).wasSold) =
        some true := by decide +kernel
    simp only [List.forall_mem_append, List.forall_mem_singleton, SalesShow, SaleOf]
    refine ⟨⟨⟨by simp, ?_⟩, ?_⟩, by simp⟩
    · rintro r ⟨-, hpaper, -⟩
      exact absurd hpaper (by decide +kernel)
    · rintro r ⟨hr, -⟩
      rw [hr] at hreason
      exact Option.some.inj hreason

/-- A position whose close was requested for `EXPIRY` is sold, and then redeemed: the balance is credited
with the proceeds and with the payout. -/
theorem expiry_credited_twice : Fresh paperDesk ∧ ∃ tr, Lib.Run Step paperDesk tr paidTwice ∧
    (∀ x ∈ tr, x.label.inProcess = true) ∧ (∃ x ∈ tr, Sells x 0) ∧ (∃ x ∈ tr, PaysOut x 0) ∧
    bought.trading.balance.available < soldOnExpiry.trading.balance.available ∧
    soldOnExpiry.trading.balance.available < paidTwice.trading.balance.available := by
  have hpayout : soldOnExpiry.trading.balance.available < paidTwice.trading.balance.available := by decide +kernel
  have hsells : Sells ⟨expiring, .trade (.close 0 (1 / 2) 300), soldOnExpiry⟩ 0 :=
    sells_of_any rfl (by decide +kernel) (by decide +kernel)
  have hpays : PaysOut ⟨soldOnExpiry, .scan upWon soldRecord, paidTwice⟩ 0 := by
    refine ⟨by decide +kernel, ?_⟩
    rw [Pays, if_pos (by decide +kernel)]
    exact hpayout
  exact ⟨paperDesk_fresh, _, expiry_run, by simp [expirySteps, Label.inProcess],
    ⟨_, by simp [expirySteps], hsells⟩, ⟨_, by simp [expirySteps], hpays⟩, by decide +kernel, hpayout⟩

end SettleDesk

end Polyfast
