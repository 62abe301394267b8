import Polyfast.Execution.ClobClientWrapper
import Polyfast.Orchestrator.CloseCalls

/-!
# Orders at the exchange and fills in the books

A call of `send_market_fok_order` belongs to a position that waits for its fill or for its sale. The wrapper
posts a second order after a transient error although the first may have been accepted, and turns every other
exception into an error, which its caller takes for "no fill".

* `Requester.Recorded`: the fill, or the sale, is in the books;
* `accounted_iff`: when each accepted order is recorded once.
-/

namespace Polyfast

/-- Who called the wrapper: a buy of `execute`, or a sale of `execute_close`. -/
inductive Requester
  | buy (i : OrderIntent) (id : PositionId)
  | sell (id : PositionId)

namespace Requester

/-- The call ends: with an answer, or without one. -/
def label : Requester → SendOutcome → Time → Desk.Label
  | buy i id, .returned reply, now => .orderReply i id reply now
  | buy i id, .lost, _ => .orderLost i id
  | sell id, .returned reply, now => .sellReply id (.ok reply) now
  | sell id, .lost, _ => .sellLost id

/-- The fill of the position is in the books: it is filled, or sold. -/
def Recorded (s : Trading) : Requester → Prop
  | buy _ id => ∃ r, s.tracker.positions.get? id = some r ∧ r.wasFilled = true
  | sell id => ∃ r, s.tracker.positions.get? id = some r ∧ r.isClosed = true

/-- The position waits for what the call will answer, and nothing is recorded yet. -/
def Waiting (s : Trading) : Requester → Prop
  | buy _ id => ∃ r, s.tracker.positions.get? id = some r ∧ r.state = .pendingOpen ∧ r.openedAt = none
  | sell id => ∃ r, s.tracker.positions.get? id = some r ∧ r.state = .closePending

/-- A buy needs a price: amounts in the answer, or the intent's. -/
def Priced : Requester → Attempt → Prop
  | buy i _, .posted _ _ (.dict r) => 0 < r.amounts.1 ∧ 0 < r.amounts.2 ∨ i.dominantPrice ≠ 0
  | _, _ => True

end Requester

/-- Each accepted order of the call belongs to the attempt that ended it, there is at most one, and it is
recorded where nothing was recorded before. -/
structure Accounted (q : Requester) (b : Sending) (s s' : Trading) : Prop where
  once : b.attempts.countP Attempt.accepted ≤ 1
  recorded : ∀ l₁ a l₂, b.attempts = l₁ ++ a :: l₂ → a.accepted = true →
    l₂ = [] ∧ ¬q.Recorded s ∧ q.Recorded s'

/-- Every order the exchange accepts is answered, in the attempt that posted it, with a fill that has an order
id (and a price, for a buy). -/
def Sending.Answered (q : Requester) : Sending → Prop
  | .posting first woken second =>
    (first.accepted = true → first.Confirms ∧ q.Priced first) ∧
      (first.isTransient = true → woken = true → second.accepted = true →
        second.Confirms ∧ q.Priced second)
  | _ => True

namespace Requester

variable {s : Trading} {d d' : Desk} {q : Requester} {i : OrderIntent} {id : PositionId}

theorem Waiting.not_recorded (h : q.Waiting s) : ¬q.Recorded s := by
  cases q with
  | buy i id =>
    obtain ⟨r, hr, -, hopened⟩ := h
    rintro ⟨u, hu, hfilled⟩
    obtain rfl := Option.some.inj (hr.symm.trans hu)
    simp [PositionRecord.wasFilled, hopened] at hfilled
  | sell id =>
    obtain ⟨r, hr, hs⟩ := h
    rintro ⟨u, hu, hclosed⟩
    obtain rfl := Option.some.inj (hr.symm.trans hu)
    simp [PositionRecord.isClosed, hs] at hclosed

/-! ### Buys -/

theorem rejectOrder_unrecorded (res : ExecutionResult) (now : Time) (h : (buy i id).Waiting s) :
    ¬(buy i id).Recorded (s.rejectOrder id res now).1 := by
  obtain ⟨r, hr, hs, hopened⟩ := h
  have hkey : r.positionId = id := Lib.Table.key_of_get? hr
  unfold Trading.rejectOrder
  rw [PositionTracker.rejectFill_of_pending hr hs]
  rintro ⟨u, hu, hfilled⟩
  have hget : (s.tracker.positions.put (PositionTracker.rejected r now)).get? id =
      some (PositionTracker.rejected r now) := by
    rw [← hkey]
    exact Lib.Table.get?_put_self _ (PositionTracker.rejected r now)
  obtain rfl := Option.some.inj (hget.symm.trans hu)
  have hnone : (PositionTracker.rejected r now).openedAt = none := hopened
  simp [PositionRecord.wasFilled, hnone] at hfilled

theorem confirmFill_records {price rate : ℚ} {now : Time} (h : (buy i id).Waiting s) (hp : price ≠ 0)
    {s' : Trading} (ht : s'.tracker = (s.tracker.confirmFill id price (some rate) now).state) :
    (buy i id).Recorded s' := by
  obtain ⟨r, hr, hs, -⟩ := h
  have hkey : r.positionId = id := Lib.Table.key_of_get? hr
  rw [PositionTracker.confirmFill_of_pending hr hs hp] at ht
  generalize PositionTracker.entryOf r price rate = entry at ht
  refine ⟨(r.withEntry price entry now).inState .openConfirmed, ?_, rfl⟩
  rw [ht]
  simp only [Call.state_returns, PositionTracker.positions_persist, PositionTracker.positions_write]
  rw [← hkey]
  exact Lib.Table.get?_put_self _ ((r.withEntry price entry now).inState .openConfirmed)

/-- The price at which a confirmed buy is recorded. -/
theorem fillPriceOf_ne_zero_iff {a : Attempt} {amounts : Option (ℚ × ℚ)} (hc : a.Confirms)
    (ha : a.reply.amounts = .ok amounts) :
    Trading.fillPriceOf i amounts ≠ 0 ↔ (buy i id).Priced a := by
  cases a with
  | notCreated e => cases hc
  | posted accepted fee answer =>
    cases answer with
    | raised e => cases hc
    | other t => cases hc
    | dict r =>
      obtain ⟨hm, hid⟩ := hc
      obtain ⟨orderId, hid⟩ := Option.isSome_iff_exists.mp hid
      simp only [Attempt.reply, Attempt.result, hm, hid, if_true, OrderReply.amounts,
        PyValue.number] at ha
      unfold Priced
      by_cases hmaking : 0 < r.amounts.1
      · rw [if_pos hmaking] at ha
        by_cases htaking : 0 < r.amounts.2
        · rw [if_pos htaking] at ha
          obtain rfl := Except.ok.inj ha
          exact iff_of_true (div_pos hmaking htaking).ne' (.inl ⟨hmaking, htaking⟩)
        · rw [if_neg htaking] at ha
          obtain rfl := Except.ok.inj ha
          simp [Trading.fillPriceOf, htaking]
      · rw [if_neg hmaking] at ha
        obtain rfl := Except.ok.inj ha
        simp [Trading.fillPriceOf, hmaking]

/-- **The answer to a buy** records a fill exactly when it confirms one at a price. -/
theorem buy_recorded_iff (a : Attempt) (now : Time) (h : (buy i id).Waiting s) :
    (buy i id).Recorded (s.orderReply i id (some a.reply) now).1 ↔
      a.Confirms ∧ (buy i id).Priced a := by
  obtain ⟨⟨rate, hrate⟩, amounts, hamounts⟩ := a.reply_readable
  unfold Trading.orderReply
  dsimp only
  by_cases hm : a.reply.status = "matched"
  · have hc := Attempt.reply_matched.mp hm
    rw [if_pos hm, hrate, hamounts, and_iff_right hc, ← fillPriceOf_ne_zero_iff hc hamounts]
    dsimp only
    by_cases hp : Trading.fillPriceOf i amounts = 0
    · have hnot := h.not_recorded
      obtain ⟨r, hr, -⟩ := h
      rw [hp, PositionTracker.confirmFill_zero hr]
      exact iff_of_false hnot (not_not_intro rfl)
    · refine iff_of_true ?_ hp
      split
      · exact confirmFill_records h hp rfl
      · exact confirmFill_records h hp rfl
  · rw [if_neg hm]
    exact iff_of_false (rejectOrder_unrecorded _ now h) fun hc => hm (Attempt.reply_matched.mpr hc.1)

/-! ### Sales -/

/-- **The answer to a sale** records it exactly when it confirms a fill. -/
theorem sell_recorded_iff (a : Attempt) (now : Time) (h : (sell id).Waiting s) :
    (sell id).Recorded (s.sellAnswered id (.ok (some a.reply)) now).1 ↔ a.Confirms := by
  obtain ⟨r, hr, hs⟩ := h
  have hr' : (s.answered (.sell id)).tracker.positions.get? id = some r := hr
  obtain ⟨⟨rate, hrate⟩, amounts, hamounts⟩ := a.reply_readable
  rw [← Attempt.reply_matched]
  simp only [Trading.sellAnswered, Trading.closeEnd, hr', sellOutcome]
  by_cases hm : a.reply.status = "matched"
  · rw [if_pos hm, hrate, hamounts]
    refine iff_of_true ?_ hm
    have hsold : ∀ price, (sell id).Recorded ((s.answered (.sell id)).closeSold id price rate now).1 := by
      intro price
      obtain ⟨u, hu, hclosed, -⟩ := (Trading.closeSold_sale price rate now hr' hs).closed
      exact ⟨u, hu, PositionRecord.isClosed_iff.mpr hclosed⟩
    cases amounts with
    | none => exact hsold _
    | some amounts => exact hsold _
  · rw [if_neg hm]
    refine iff_of_false ?_ hm
    rintro ⟨u, hu, hclosed⟩
    obtain rfl := Option.some.inj ((Trading.get?_closeFailed now hr' hs).symm.trans hu)
    simp [PositionRecord.isClosed] at hclosed

/-! ### The call and its requester -/

/-- On a well-formed desk the position of a call that ends is waiting for it. -/
theorem waiting_of_step {out : SendOutcome} {now : Time} (hw : d.WellFormed)
    (hs : Desk.Step d (q.label out now) d') : q.Waiting d.trading := by
  have hbuy : ∀ {l₁ l₂ : List (OrderIntent × PositionId)} {i : OrderIntent} {id : PositionId},
      d.orders = l₁ ++ (i, id) :: l₂ → (buy i id).Waiting d.trading := by
    intro l₁ l₂ i id hsplit
    obtain ⟨r, hr, hpending⟩ := hw.ordersPending id (by rw [hsplit]; simp)
    exact ⟨r, hr, hpending, (hw.coherent id r hr).1 hpending⟩
  have hsell : ∀ {l₁ l₂ : List PositionId} {id : PositionId},
      d.sells = l₁ ++ id :: l₂ → (sell id).Waiting d.trading := by
    intro l₁ l₂ id hsplit
    exact hw.sellsPending id (by rw [hsplit]; simp)
  cases q with
  | buy i id =>
    cases out with
    | returned reply => cases hs with | orderReply l₁ l₂ i id reply now hsplit => exact hbuy hsplit
    | lost => cases hs with | orderLost l₁ l₂ i id hsplit => exact hbuy hsplit
  | sell id =>
    cases out with
    | returned reply => cases hs with | sellReply l₁ l₂ id reply now hsplit => exact hsell hsplit
    | lost => cases hs with | sellLost l₁ l₂ id hsplit => exact hsell hsplit

/-- The end of a call whose last attempt is `a`. -/
theorem recorded_iff {a : Attempt} {now : Time} (hw : d.WellFormed)
    (hs : Desk.Step d (q.label (.returned (some a.reply)) now) d') :
    q.Recorded d'.trading ↔ a.Confirms ∧ q.Priced a := by
  have h := waiting_of_step hw hs
  cases q with
  | buy i id =>
    cases hs with
    | orderReply l₁ l₂ i id reply now hsplit =>
      rw [← buy_recorded_iff a now h, Desk.trading_afterExecute]
  | sell id =>
    have hpriced : (sell id).Priced a := trivial
    cases hs with
    | sellReply l₁ l₂ id reply now hsplit =>
      rw [and_iff_left hpriced, ← sell_recorded_iff a now h, Desk.trading_afterClose]

/-- A call that ends without an answer records nothing. -/
theorem lost_unrecorded {now : Time} (hw : d.WellFormed) (hs : Desk.Step d (q.label .lost now) d') :
    ¬q.Recorded d'.trading := by
  have h := (waiting_of_step hw hs).not_recorded
  cases q with
  | buy i id => cases hs with | orderLost l₁ l₂ i id hsplit => exact h
  | sell id => cases hs with | sellLost l₁ l₂ id hsplit => exact h

end Requester

variable {d₀ d d' : Desk} {q : Requester}

/-- A call that makes one attempt. -/
theorem accounted_one {b : Sending} {a : Attempt} (hb : b.attempts = [a]) (hw : q.Waiting d.trading) :
    Accounted q b d.trading d'.trading ↔ (a.accepted = true → q.Recorded d'.trading) := by
  constructor
  · intro h ha
    exact (h.recorded [] a [] hb ha).2.2
  · intro h
    refine ⟨?_, fun l₁ x l₂ hsplit hx => ?_⟩
    · rw [hb, List.countP_singleton]
      split_ifs <;> omega
    · rw [hb] at hsplit
      obtain ⟨rfl, rfl, rfl⟩ : l₁ = [] ∧ a = x ∧ l₂ = [] := by
        cases l₁ with
        | nil =>
          obtain ⟨rfl, rfl⟩ := List.cons.inj hsplit
          exact ⟨rfl, rfl, rfl⟩
        | cons y ys =>
          have hlen := congrArg List.length hsplit
          simp at hlen
      exact ⟨rfl, hw.not_recorded, h hx⟩

/-- A call that makes both attempts. -/
theorem accounted_two {b : Sending} {a₁ a₂ : Attempt} (hb : b.attempts = [a₁, a₂])
    (hw : q.Waiting d.trading) :
    Accounted q b d.trading d'.trading ↔
      a₁.accepted = false ∧ (a₂.accepted = true → q.Recorded d'.trading) := by
  constructor
  · intro h
    refine ⟨?_, fun ha => (h.recorded [a₁] a₂ [] hb ha).2.2⟩
    by_contra ha
    rw [Bool.not_eq_false] at ha
    exact absurd (h.recorded [] a₁ [a₂] hb ha).1 (by simp)
  · rintro ⟨h₁, h₂⟩
    refine ⟨?_, fun l₁ x l₂ hsplit hx => ?_⟩
    · rw [hb]
      cases h : a₂.accepted <;> simp [h₁, h]
    · rw [hb] at hsplit
      rcases l₁ with _ | ⟨y, _ | ⟨z, zs⟩⟩
      · obtain ⟨rfl, -⟩ := List.cons.inj hsplit
        rw [h₁] at hx
        cases hx
      · simp only [List.cons_append, List.nil_append, List.cons.injEq] at hsplit
        obtain ⟨-, rfl, rfl⟩ := hsplit
        exact ⟨rfl, hw.not_recorded, h₂ hx⟩
      · have hlen := congrArg List.length hsplit
        simp at hlen

/-- **At-most-once submission.** On every desk that is reached, whatever the exchange does during the call:
each accepted order is the only one of the call and is recorded once, exactly when every order that is
accepted is answered, in the attempt that posted it, with a fill the wrapper reports. -/
theorem accounted_iff {tr : List (Lib.Taken Desk Desk.Label)} {b : Sending} {now : Time} (h : Desk.Fresh d₀)
    (hrun : Lib.Run Desk.Step d₀ tr d) (hs : Desk.Step d (q.label b.outcome now) d') :
    Accounted q b d.trading d'.trading ↔ b.Answered q := by
  have hw : d.WellFormed := (hrun.invariant (fun _ _ _ ht hst => (ht.step hst).1) h.wellFormed).1
  have hwait := Requester.waiting_of_step hw hs
  have hnone : ∀ {b : Sending}, b.attempts = [] → Accounted q b d.trading d'.trading := by
    intro b hb
    refine ⟨by simp [hb], fun l₁ a l₂ hsplit _ => ?_⟩
    rw [hb] at hsplit
    simp at hsplit
  cases b with
  | notInitialized => exact iff_of_true (hnone rfl) trivial
  | raised => exact iff_of_true (hnone rfl) trivial
  | posting first woken second =>
    cases htransient : first.isTransient with
    | false =>
      have hout : (Sending.posting first woken second).outcome = .returned (some first.reply) := by
        simp [Sending.outcome, htransient]
      have hmade : (Sending.posting first woken second).attempts = [first] := by
        simp [Sending.attempts, htransient]
      rw [hout] at hs
      rw [accounted_one hmade hwait, Requester.recorded_iff hw hs]
      simp [Sending.Answered, htransient]
    | true =>
      have hfirst : ¬first.Confirms := fun hc => by
        rw [hc.not_transient] at htransient
        cases htransient
      cases woken with
      | true =>
        have hout : (Sending.posting first true second).outcome = .returned (some second.reply) := by
          simp [Sending.outcome, htransient]
        have hmade : (Sending.posting first true second).attempts = [first, second] := by
          simp [Sending.attempts, htransient]
        rw [hout] at hs
        rw [accounted_two hmade hwait, Requester.recorded_iff hw hs]
        simp [Sending.Answered, htransient, hfirst]
      | false =>
        have hout : (Sending.posting first false second).outcome = .lost := by
          simp [Sending.outcome, htransient]
        have hmade : (Sending.posting first false second).attempts = [first] := by
          simp [Sending.attempts]
        rw [hout] at hs
        rw [accounted_one hmade hwait]
        simp [Sending.Answered, hfirst, Requester.lost_unrecorded hw hs]

/-- The desk with an order at the exchange. -/
def oneOrdered : Desk :=
  (Desk.startDesk .live 1).afterExecute (Desk.orderFor "event")
    ((Desk.startDesk .live 1).trading.execute (Desk.orderFor "event") 0)

/-- The exchange accepts the order and says so. -/
def acceptedOrder : Attempt :=
  .posted true 1000 (.dict { success := .bool true, status := "matched", orderId := some "0x1"
                             makingAmount := .numStr 1, takingAmount := .numStr 2 })

/-- The exchange accepts the order, but its answer does not come in time. -/
def timedOutOrder : Attempt :=
  .posted true 1000 (.raised { name := "ReadTimeout", types := [.httpxTimeoutException] })

theorem oneOrdered_reached : Lib.Run Desk.Step (Desk.startDesk .live 1)
    [⟨Desk.startDesk .live 1, .execute (Desk.orderFor "event") 0, oneOrdered⟩] oneOrdered :=
  .single (.execute _ (Desk.orderFor "event") 0)

theorem oneOrdered_orders : oneOrdered.orders = [(Desk.orderFor "event", 0)] := by
  decide +kernel

theorem accounted_single :
    Accounted (.buy (Desk.orderFor "event") 0) (.posting acceptedOrder true acceptedOrder) oneOrdered.trading
        ({ oneOrdered with orders := [] }.afterExecute (Desk.orderFor "event")
          (oneOrdered.trading.orderReply (Desk.orderFor "event") 0 (some acceptedOrder.reply) 1)).trading ↔
      (Sending.posting acceptedOrder true acceptedOrder).Answered (.buy (Desk.orderFor "event") 0) :=
  accounted_iff (Desk.startDesk_fresh .live 1) oneOrdered_reached
    (.orderReply oneOrdered [] [] (Desk.orderFor "event") 0 (some acceptedOrder.reply) 1 oneOrdered_orders)

/-- The answer to an accepted order is lost, and the order is posted again: two orders are accepted, one fill
is recorded. -/
theorem accepted_twice :
    ∃ d', Desk.Step oneOrdered (.orderReply (Desk.orderFor "event") 0 (some acceptedOrder.reply) 1) d' ∧
      (Sending.posting timedOutOrder true acceptedOrder).outcome = .returned (some acceptedOrder.reply) ∧
      (Sending.posting timedOutOrder true acceptedOrder).attempts.countP Attempt.accepted = 2 ∧
      ¬Accounted (.buy (Desk.orderFor "event") 0) (.posting timedOutOrder true acceptedOrder)
        oneOrdered.trading d'.trading := by
  have htwo : (Sending.posting timedOutOrder true acceptedOrder).attempts.countP Attempt.accepted = 2 := by
    decide +kernel
  refine ⟨_, .orderReply oneOrdered [] [] (Desk.orderFor "event") 0 (some acceptedOrder.reply) 1 oneOrdered_orders, rfl,
    htwo, fun h => ?_⟩
  have honce := h.once
  omega

end Polyfast
