import Polyfast.Lib.Run
import Polyfast.Execution.OrderExecutor
import Polyfast.Orchestrator.ExitOrchestrator

/-!
# Orders and exits interleaved

A `Desk` is the execution layer together with the calls that are suspended at an await: orders at the
exchange, sell orders, balance fetches. A step runs one call, or one piece of the exit cycle, up to its
next await; in between anything may happen. Settlement is cut into the things its turns are made of.
Lost calls are those whose await raised or whose task was cancelled.

* `Desk.Step`, `Desk.WellFormed` and `WellFormed.step`: what every run keeps;
* `Effect`: a step creates at most the position of an `execute`, and otherwise moves existing ones;
* `runCycle_reaches`: a whole `run_cycle` is a run of such steps.
-/

namespace Polyfast

/-- The execution layer and its suspended calls. -/
structure Desk where
  trading : Trading
  /-- Calls of `execute` waiting for the exchange, with the position each has created. -/
  orders : List (OrderIntent × PositionId) := []
  /-- Calls of `execute` waiting for the balance after a fill. -/
  orderFetches : List ExecutionResult := []
  /-- Calls of `execute_close` waiting for their sell order. -/
  sells : List PositionId := []
  /-- Calls of `execute_close` waiting for the balance after a sale. -/
  sellFetches : List PositionId := []

namespace Desk

variable (d : Desk)

/-- A call of `execute` for `i` has run up to an await or to its end. -/
def afterExecute (i : OrderIntent) (out : Trading × ExecuteStatus) : Desk :=
  match out.2 with
  | .done _ => { d with trading := out.1 }
  | .awaitingOrder id => { d with trading := out.1, orders := d.orders ++ [(i, id)] }
  | .awaitingBalance r => { d with trading := out.1, orderFetches := d.orderFetches ++ [r] }

/-- A call of `execute_close` has run up to an await or to its end. -/
def afterClose (out : Trading × CloseStatus) : Desk :=
  match out.2 with
  | .done _ => { d with trading := out.1 }
  | .awaitingSell id => { d with trading := out.1, sells := d.sells ++ [id] }
  | .awaitingBalance id => { d with trading := out.1, sellFetches := d.sellFetches ++ [id] }

/-- What happens next, with what the environment answers. -/
inductive Label
  | execute (i : OrderIntent) (now : Time)
  | orderReply (i : OrderIntent) (id : PositionId) (reply : Option OrderReply) (now : Time)
  | orderLost (i : OrderIntent) (id : PositionId)
  | orderFetched (r : ExecutionResult) (reply : FetchReply) (now : Time)
  | orderFetchLost (r : ExecutionResult)
  | cycle
  | trigger (w : World) (x : CycleInput)
  | close (id : PositionId) (price : ℚ) (now : Time)
  | sellReply (id : PositionId) (reply : Except PyError (Option OrderReply)) (now : Time)
  | sellLost (id : PositionId)
  | sellFetched (id : PositionId) (reply : FetchReply) (now : Time)
  | sellFetchLost (id : PositionId)
  | resolution (w : World) (c : ConditionId)
  | claim (p : PositionRecord) (now : Time)
  | redeem (w : World) (p : PositionRecord) (id : ClaimId)
  | writeRetry (r : SettlementRetryState)
  | dropRetry (id : PositionId)
  | reconcile (w : World)

/-- A call of `execute`. -/
def Label.isExecute : Label → Bool
  | execute _ _ => true
  | _ => false

theorem Label.ne_execute {l : Label} (h : l.isExecute = false) (i : OrderIntent) (now : Time) :
    l ≠ .execute i now := by
  rintro rfl
  cases h

/-- One step between awaits. -/
inductive Step : Desk → Label → Desk → Prop
  | execute (d : Desk) (i : OrderIntent) (now : Time) :
      Step d (.execute i now) (d.afterExecute i (d.trading.execute i now))
  | orderReply (d : Desk) (l₁ l₂ : List (OrderIntent × PositionId)) (i : OrderIntent)
      (id : PositionId) (reply : Option OrderReply) (now : Time)
      (h : d.orders = l₁ ++ (i, id) :: l₂) :
      Step d (.orderReply i id reply now) ({ d with orders := l₁ ++ l₂ }.afterExecute i
        (d.trading.orderReply i id reply now))
  | orderLost (d : Desk) (l₁ l₂ : List (OrderIntent × PositionId)) (i : OrderIntent)
      (id : PositionId) (h : d.orders = l₁ ++ (i, id) :: l₂) :
      Step d (.orderLost i id) { d with orders := l₁ ++ l₂ }
  | orderFetched (d : Desk) (l₁ l₂ : List ExecutionResult) (r : ExecutionResult)
      (reply : FetchReply) (now : Time) (h : d.orderFetches = l₁ ++ r :: l₂) :
      Step d (.orderFetched r reply now)
        { d with trading := (d.trading.balanceReply r reply now).1, orderFetches := l₁ ++ l₂ }
  | orderFetchLost (d : Desk) (l₁ l₂ : List ExecutionResult) (r : ExecutionResult)
      (h : d.orderFetches = l₁ ++ r :: l₂) :
      Step d (.orderFetchLost r) { d with orderFetches := l₁ ++ l₂ }
  | cycle (d : Desk) : Step d .cycle { d with trading := d.trading.countCycle }
  | trigger (d : Desk) (w : World) (x : CycleInput) :
      Step d (.trigger w x) { d with trading := (d.trading.triggerPhase w x).state }
  | close (d : Desk) (id : PositionId) (price : ℚ) (now : Time) :
      Step d (.close id price now) (d.afterClose (d.trading.closeBegin id price now))
  | sellReply (d : Desk) (l₁ l₂ : List PositionId) (id : PositionId)
      (reply : Except PyError (Option OrderReply)) (now : Time) (h : d.sells = l₁ ++ id :: l₂) :
      Step d (.sellReply id reply now) ({ d with sells := l₁ ++ l₂ }.afterClose
        (d.trading.sellAnswered id reply now))
  | sellLost (d : Desk) (l₁ l₂ : List PositionId) (id : PositionId)
      (h : d.sells = l₁ ++ id :: l₂) : Step d (.sellLost id) { d with sells := l₁ ++ l₂ }
  | sellFetched (d : Desk) (l₁ l₂ : List PositionId) (id : PositionId) (reply : FetchReply)
      (now : Time) (h : d.sellFetches = l₁ ++ id :: l₂) :
      Step d (.sellFetched id reply now)
        { d with trading := (d.trading.closeFetched reply now).1, sellFetches := l₁ ++ l₂ }
  | sellFetchLost (d : Desk) (l₁ l₂ : List PositionId) (id : PositionId)
      (h : d.sellFetches = l₁ ++ id :: l₂) :
      Step d (.sellFetchLost id) { d with sellFetches := l₁ ++ l₂ }
  | resolution (d : Desk) (w : World) (c : ConditionId) :
      Step d (.resolution w c) { d with trading := (d.trading.checkResolved w c).1 }
  | claim (d : Desk) (p : PositionRecord) (now : Time) :
      Step d (.claim p now) { d with trading := d.trading.createClaim p now }
  | redeem (d : Desk) (w : World) (p : PositionRecord) (id : ClaimId) :
      Step d (.redeem w p id) { d with trading := (d.trading.executeRedeemForClaim w p id).state }
  | writeRetry (d : Desk) (r : SettlementRetryState) :
      Step d (.writeRetry r) { d with trading := d.trading.writeRetry r }
  | dropRetry (d : Desk) (id : PositionId) :
      Step d (.dropRetry id) { d with trading := d.trading.dropRetry id }
  | reconcile (d : Desk) (w : World) :
      Step d (.reconcile w) { d with trading := d.trading.reconcileExternal w }

/-- Nothing has happened yet: no position, no suspended call. -/
structure Fresh (d : Desk) : Prop where
  positions : d.trading.tracker.positions = .empty
  eventFills : d.trading.tracker.eventFills = .empty
  orders : d.orders = []
  sells : d.sells = []

/-- What every run keeps. -/
structure WellFormed (d : Desk) : Prop where
  fresh : ∀ k r, d.trading.tracker.positions.get? k = some r → k < d.trading.uuids
  coherent : d.trading.tracker.Coherent
  ordersNodup : (d.orders.map Prod.snd).Nodup
  ordersPending : ∀ id ∈ d.orders.map Prod.snd, ∃ r,
    d.trading.tracker.positions.get? id = some r ∧ r.state = .pendingOpen
  sellsNodup : d.sells.Nodup
  sellsPending : ∀ id ∈ d.sells, ∃ r,
    d.trading.tracker.positions.get? id = some r ∧ r.state = .closePending

variable {d d' : Desk} {l : Label}

theorem Fresh.wellFormed (h : Fresh d) : WellFormed d where
  fresh k r hk := by simp [h.positions] at hk
  coherent k r hk := by simp [h.positions] at hk
  ordersNodup := by simp [h.orders]
  ordersPending := by simp [h.orders]
  sellsNodup := by simp [h.sells]
  sellsPending := by simp [h.sells]

theorem WellFormed.get?_uuids (h : WellFormed d) :
    d.trading.tracker.positions.get? d.trading.uuids = none := by
  rw [Option.eq_none_iff_forall_ne_some]
  intro r hr
  exact lt_irrefl _ (h.fresh _ r hr)

/-- What a step does to the tracker: the position of an `execute` is created, or existing ones move. -/
inductive Effect (d : Desk) (l : Label) (d' : Desk) : Prop
  | create (i : OrderIntent) (now : Time) (t : PositionTracker) (hl : l = .execute i now)
      (hmay : d.trading.mayCreate i now)
      (hc : Creates d.trading.tracker t (d.trading.pendingRecord i now))
      (hq : QuietMoves t d'.trading.tracker)
  | quiet (hl : ∀ i now, l = .execute i now → ¬d.trading.mayCreate i now)
      (hq : QuietMoves d.trading.tracker d'.trading.tracker)

theorem Effect.moves (hl : l.isExecute = false)
    (hq : QuietMoves d.trading.tracker d'.trading.tracker) : Effect d l d' :=
  .quiet (fun i now h => absurd h (Label.ne_execute hl i now)) hq

theorem WellFormed.sellsOut (h : WellFormed d) : d.trading.SellsOut d.sells := ⟨h.sellsNodup, h.sellsPending⟩

/-- Exit moves keep a desk well-formed, as long as the suspended sales keep their positions. -/
theorem WellFormed.exits (h : WellFormed d) (he : Trading.Exits d.trading d'.trading)
    (horders : d'.orders = d.orders) (hout : d'.trading.SellsOut d'.sells) : WellFormed d' where
  fresh k r hk := by
    rw [he.uuids]
    have hsome := PositionTracker.quiets_isSome (PositionTracker.ExitMoves.quiet he.moves) k
    rw [hk, Option.isSome_some] at hsome
    obtain ⟨u, hu⟩ := Option.isSome_iff_exists.mp hsome.symm
    exact h.fresh k u hu
  coherent := h.coherent.quiets (PositionTracker.ExitMoves.quiet he.moves)
  ordersNodup := by
    rw [horders]
    exact h.ordersNodup
  ordersPending id hid := by
    rw [horders] at hid
    obtain ⟨r, hr, hs⟩ := h.ordersPending id hid
    exact ⟨r, PositionTracker.ExitMoves.pending he.moves hr hs, hs⟩
  sellsNodup := hout.nodup
  sellsPending := hout.pending

/-- A desk whose positions are as before stays well-formed. -/
theorem WellFormed.frame (h : WellFormed d) (ht : d'.trading.tracker = d.trading.tracker)
    (hu : d.trading.uuids ≤ d'.trading.uuids)
    (hsub : (d'.orders.map Prod.snd).Sublist (d.orders.map Prod.snd))
    (hsells : d'.sells.Sublist d.sells) : WellFormed d' where
  fresh k r hk := lt_of_lt_of_le (h.fresh k r (by rw [← ht]; exact hk)) hu
  coherent := by
    rw [ht]
    exact h.coherent
  ordersNodup := h.ordersNodup.sublist hsub
  ordersPending id hid := by
    rw [ht]
    exact h.ordersPending id (hsub.subset hid)
  sellsNodup := h.sellsNodup.sublist hsells
  sellsPending id hid := by
    rw [ht]
    exact h.sellsPending id (hsells.subset hid)

/-- An answer that moves the position `id` only keeps the rest of the desk. -/
theorem WellFormed.touches (h : WellFormed d) {id : PositionId} {r : PositionRecord}
    (hr : d.trading.tracker.positions.get? id = some r) (hs : r.state = .pendingOpen)
    (ht : Trading.Touches id d.trading d'.trading)
    (hsub : (d'.orders.map Prod.snd).Sublist (d.orders.map Prod.snd))
    (hid : id ∉ d'.orders.map Prod.snd) (hsells : d'.sells = d.sells) : WellFormed d' where
  fresh k u hk := by
    rw [ht.uuids]
    have hsome := PositionTracker.quiets_isSome ht.moves k
    rw [hk, Option.isSome_some] at hsome
    obtain ⟨v, hv⟩ := Option.isSome_iff_exists.mp hsome.symm
    exact h.fresh k v hv
  coherent := h.coherent.quiets ht.moves
  ordersNodup := h.ordersNodup.sublist hsub
  ordersPending k hk := by
    rw [ht.others k (fun heq => hid (heq ▸ hk))]
    exact h.ordersPending k (hsub.subset hk)
  sellsNodup := by
    rw [hsells]
    exact h.sellsNodup
  sellsPending k hk := by
    rw [hsells] at hk
    obtain ⟨u, hu, hus⟩ := h.sellsPending k hk
    refine ⟨u, ?_, hus⟩
    rw [ht.others k, hu]
    rintro rfl
    rw [hr] at hu
    obtain rfl := Option.some.inj hu
    rw [hs] at hus
    cases hus

/-- A created position, still pending or already moved, joins a well-formed desk. -/
theorem WellFormed.create (h : WellFormed d) {i : OrderIntent} {now : Time}
    (hc : Creates d.trading.tracker (d.trading.createPending i now).tracker
      (d.trading.pendingRecord i now))
    (ht : Trading.Touches d.trading.uuids (d.trading.createPending i now) d'.trading)
    (hsells : d'.sells = d.sells)
    (horders : d'.orders = d.orders ∨
      (∃ j, d'.orders = d.orders ++ [(j, d.trading.uuids)]) ∧
        d'.trading.tracker = (d.trading.createPending i now).tracker) : WellFormed d' := by
  have hkey : (d.trading.pendingRecord i now).positionId = d.trading.uuids := rfl
  have hne : ∀ k u, d.trading.tracker.positions.get? k = some u → k ≠ d.trading.uuids :=
    fun k u hk => (h.fresh k u hk).ne
  have hother : ∀ k, k ≠ d.trading.uuids →
      d'.trading.tracker.positions.get? k = d.trading.tracker.positions.get? k := by
    intro k hk
    rw [ht.others k hk, hc.positions, Lib.Table.get?_put_ne]
    exact fun heq => hk (heq.symm.trans hkey)
  have hkeep : ∀ k u, d.trading.tracker.positions.get? k = some u →
      d'.trading.tracker.positions.get? k = some u := by
    intro k u hk
    rw [hother k (hne k u hk), hk]
  have hold : ∀ k ∈ d.orders.map Prod.snd, k ≠ d.trading.uuids := by
    intro k hk
    obtain ⟨u, hu, -⟩ := h.ordersPending k hk
    exact hne k u hu
  refine ⟨fun k u hk => ?_, (h.coherent.create hc).quiets ht.moves, ?_, ?_, ?_, ?_⟩
  · rw [ht.uuids]
    by_cases hkn : k = d.trading.uuids
    · exact hkn ▸ Nat.lt_succ_self _
    · rw [hother k hkn] at hk
      exact (h.fresh k u hk).trans (Nat.lt_succ_self _)
  · rcases horders with ho | ⟨⟨j, ho⟩, -⟩
    · rw [ho]
      exact h.ordersNodup
    · rw [ho, List.map_append, List.nodup_append]
      refine ⟨h.ordersNodup, by simp, fun a ha b hb => ?_⟩
      rw [List.map_singleton, List.mem_singleton] at hb
      exact hb ▸ hold a ha
  · intro k hk
    rcases horders with ho | ⟨⟨j, ho⟩, htr⟩
    · rw [ho] at hk
      obtain ⟨u, hu, hus⟩ := h.ordersPending k hk
      exact ⟨u, hkeep k u hu, hus⟩
    · rw [ho, List.map_append, List.mem_append, List.map_singleton, List.mem_singleton] at hk
      rcases hk with hk | hk
      · obtain ⟨u, hu, hus⟩ := h.ordersPending k hk
        exact ⟨u, hkeep k u hu, hus⟩
      · refine ⟨d.trading.pendingRecord i now, ?_, rfl⟩
        rw [htr, hk]
        exact Trading.get?_createPending d.trading i now
  · rw [hsells]
    exact h.sellsNodup
  · intro k hk
    rw [hsells] at hk
    obtain ⟨u, hu, hus⟩ := h.sellsPending k hk
    exact ⟨u, hkeep k u hu, hus⟩

@[simp] theorem trading_afterExecute (i : OrderIntent) (out : Trading × ExecuteStatus) :
    (d.afterExecute i out).trading = out.1 := by
  unfold afterExecute
  split <;> rfl

@[simp] theorem trading_afterClose (out : Trading × CloseStatus) : (d.afterClose out).trading = out.1 := by
  unfold afterClose
  split <;> rfl

theorem orders_afterClose (out : Trading × CloseStatus) : (d.afterClose out).orders = d.orders := by
  unfold afterClose
  split <;> rfl

theorem sells_afterClose (out : Trading × CloseStatus) : (d.afterClose out).sells = d.sells ++ out.2.sells := by
  obtain ⟨s, status⟩ := out
  cases status with
  | done a => exact (List.append_nil d.sells).symm
  | awaitingSell id => rfl
  | awaitingBalance id => exact (List.append_nil d.sells).symm

/-- The call has run: what became of it is in the status. -/
theorem afterExecute_done {i : OrderIntent} {out : Trading × ExecuteStatus}
    {a : Except PyError ExecutionResult} (h : out.2 = .done a) :
    d.afterExecute i out = { d with trading := out.1 } := by
  simp only [afterExecute, h]

theorem execute_wellFormed (h : WellFormed d) (i : OrderIntent) (now : Time) :
    WellFormed (d.afterExecute i (d.trading.execute i now)) ∧
      Effect d (.execute i now) (d.afterExecute i (d.trading.execute i now)) ∧
      (d.afterExecute i (d.trading.execute i now)).trading.executor.botMax =
        d.trading.executor.botMax := by
  rcases Trading.execute_effect i now h.get?_uuids with
    ⟨hmay, htr, hu, hb, a, ha⟩ | ⟨hmay, hc, ht, hstatus⟩
  · rw [afterExecute_done ha]
    refine ⟨h.frame htr hu.ge (List.Sublist.refl _) (List.Sublist.refl _), .quiet ?_ ?_, hb⟩
    · rintro j t hjt
      obtain ⟨rfl, rfl⟩ := Label.execute.inj hjt
      exact hmay
    · exact htr ▸ .refl
  · rcases hstatus with ⟨a, ha⟩ | ⟨ha, htr⟩
    · rw [afterExecute_done ha]
      exact ⟨h.create hc ht rfl (.inl rfl), .create i now _ rfl hmay hc ht.moves, ht.botMax⟩
    · simp only [afterExecute, ha]
      exact ⟨h.create hc ht rfl (.inr ⟨⟨i, rfl⟩, htr⟩), .create i now _ rfl hmay hc ht.moves,
        ht.botMax⟩

theorem orderReply_wellFormed (h : WellFormed d) {l₁ l₂ : List (OrderIntent × PositionId)}
    {i : OrderIntent} {id : PositionId} (reply : Option OrderReply) (now : Time)
    (hsplit : d.orders = l₁ ++ (i, id) :: l₂) :
    WellFormed ({ d with orders := l₁ ++ l₂ }.afterExecute i
        (d.trading.orderReply i id reply now)) ∧
      QuietMoves d.trading.tracker (d.trading.orderReply i id reply now).1.tracker ∧
      (d.trading.orderReply i id reply now).1.executor.botMax = d.trading.executor.botMax := by
  have hmap : d.orders.map Prod.snd = l₁.map Prod.snd ++ id :: l₂.map Prod.snd :=
    Lib.map_split Prod.snd hsplit
  have hsub : ((l₁ ++ l₂).map Prod.snd).Sublist (d.orders.map Prod.snd) := by
    rw [List.map_append]
    exact Lib.split_sublist hmap
  have hnot : id ∉ (l₁ ++ l₂).map Prod.snd := by
    rw [List.map_append]
    exact Lib.not_mem_split hmap h.ordersNodup
  obtain ⟨r, hr, hs⟩ := h.ordersPending id (by rw [hmap]; simp)
  obtain ⟨ht, hstatus⟩ := Trading.orderReply_touches i reply now hr hs
  refine ⟨?_, ht.moves, ht.botMax⟩
  rcases hstatus with ⟨a, ha⟩ | ⟨a, ha⟩
  · simp only [afterExecute, ha]
    exact h.touches hr hs ht hsub hnot rfl
  · simp only [afterExecute, ha]
    exact h.touches hr hs ht hsub hnot rfl

theorem close_wellFormed (h : WellFormed d) (id : PositionId) (price : ℚ) (now : Time) :
    WellFormed (d.afterClose (d.trading.closeBegin id price now)) := by
  obtain ⟨he, -, -⟩ := Trading.closeBegin_exits d.trading id price now
  have hout := h.sellsOut.closeBegin id price now
  refine h.exits ?_ (orders_afterClose _) ?_
  · rw [trading_afterClose]
    exact he
  · rw [trading_afterClose, sells_afterClose]
    exact hout

theorem sellReply_wellFormed (h : WellFormed d) {l₁ l₂ : List PositionId} {id : PositionId}
    (reply : Except PyError (Option OrderReply)) (now : Time) (hsplit : d.sells = l₁ ++ id :: l₂) :
    WellFormed ({ d with sells := l₁ ++ l₂ }.afterClose (d.trading.sellAnswered id reply now)) ∧
      Trading.Exits d.trading (d.trading.sellAnswered id reply now).1 := by
  obtain ⟨r, hr, hs⟩ := h.sellsPending id (by rw [hsplit]; simp)
  obtain ⟨he, -, -⟩ := Trading.sellAnswered_exits reply now hr hs
  have hout := h.sellsOut
  rw [hsplit] at hout
  obtain ⟨hout, hnone⟩ := hout.sellAnswered reply now
  refine ⟨h.exits ?_ (orders_afterClose _) ?_, he⟩
  · rw [trading_afterClose]
    exact he
  · rw [trading_afterClose, sells_afterClose, hnone, List.append_nil]
    exact hout

/-- Settlement and reconciliation keep a desk as it is, as far as positions go. -/
theorem WellFormed.settle (h : WellFormed d) {s : Trading} (hf : Trading.SettleFrame d.trading s)
    (hl : l.isExecute = false) :
    WellFormed { d with trading := s } ∧ Effect d l { d with trading := s } ∧
      s.executor.botMax = d.trading.executor.botMax :=
  ⟨h.frame hf.tracker hf.uuids (List.Sublist.refl _) (List.Sublist.refl _),
    .moves hl (hf.tracker ▸ .refl),
    congrArg OrderExecutor.botMax hf.executor⟩

/-- **Every step keeps a desk well-formed**, and what it does to the tracker is a creation by an
`execute` that passes its checks, or moves of existing positions. -/
theorem WellFormed.step (h : WellFormed d) (hs : Step d l d') :
    WellFormed d' ∧ Effect d l d' ∧ d'.trading.executor.botMax = d.trading.executor.botMax := by
  cases hs with
  | execute i now => exact execute_wellFormed h i now
  | orderReply l₁ l₂ i id reply now hsplit =>
    obtain ⟨hw, hq, hb⟩ := orderReply_wellFormed h reply now hsplit
    refine ⟨hw, .moves rfl ?_, ?_⟩
    · rw [trading_afterExecute]
      exact hq
    · rw [trading_afterExecute]
      exact hb
  | orderLost l₁ l₂ i id hsplit =>
    refine ⟨h.frame rfl le_rfl ?_ (List.Sublist.refl _), .moves rfl .refl, rfl⟩
    exact (Lib.split_sublist hsplit).map Prod.snd
  | orderFetched l₁ l₂ r reply now hsplit =>
    exact ⟨h.frame rfl le_rfl (List.Sublist.refl _) (List.Sublist.refl _), .moves rfl .refl, rfl⟩
  | orderFetchLost l₁ l₂ r hsplit =>
    exact ⟨h.frame rfl le_rfl (List.Sublist.refl _) (List.Sublist.refl _), .moves rfl .refl, rfl⟩
  | cycle =>
    exact ⟨h.frame rfl le_rfl (List.Sublist.refl _) (List.Sublist.refl _), .moves rfl .refl, rfl⟩
  | trigger w x =>
    obtain ⟨he, hkeep⟩ := Trading.triggerPhase_exits (s := d.trading) (w := w) (x := x)
    refine ⟨h.exits he rfl ⟨h.sellsNodup, fun id hid => ?_⟩,
      .moves rfl (PositionTracker.ExitMoves.quiet he.moves), congrArg OrderExecutor.botMax he.executor⟩
    obtain ⟨r, hr, hrs⟩ := h.sellsPending id hid
    exact ⟨r, hkeep id r hr hrs, hrs⟩
  | close id price now =>
    obtain ⟨he, -, -⟩ := Trading.closeBegin_exits d.trading id price now
    refine ⟨close_wellFormed h id price now, .moves rfl ?_, ?_⟩
    · rw [trading_afterClose]
      exact PositionTracker.ExitMoves.quiet he.moves
    · rw [trading_afterClose]
      exact congrArg OrderExecutor.botMax he.executor
  | sellReply l₁ l₂ id reply now hsplit =>
    obtain ⟨hw, he⟩ := sellReply_wellFormed h reply now hsplit
    refine ⟨hw, .moves rfl ?_, ?_⟩
    · rw [trading_afterClose]
      exact PositionTracker.ExitMoves.quiet he.moves
    · rw [trading_afterClose]
      exact congrArg OrderExecutor.botMax he.executor
  | sellLost l₁ l₂ id hsplit =>
    exact ⟨h.frame rfl le_rfl (List.Sublist.refl _) (Lib.split_sublist hsplit), .moves rfl .refl, rfl⟩
  | sellFetched l₁ l₂ id reply now hsplit =>
    exact ⟨h.frame rfl le_rfl (List.Sublist.refl _) (List.Sublist.refl _), .moves rfl .refl, rfl⟩
  | sellFetchLost l₁ l₂ id hsplit =>
    exact ⟨h.frame rfl le_rfl (List.Sublist.refl _) (List.Sublist.refl _), .moves rfl .refl, rfl⟩
  | resolution w c => exact h.settle (Trading.checkResolved_frame w d.trading c) rfl
  | claim p now => exact h.settle (Trading.createClaim_frame d.trading p now) rfl
  | redeem w p id => exact h.settle (Trading.executeRedeemForClaim_frame w d.trading p id) rfl
  | writeRetry r => exact h.settle ⟨rfl, rfl, rfl, rfl, le_rfl⟩ rfl
  | dropRetry id => exact h.settle ⟨rfl, rfl, rfl, rfl, le_rfl⟩ rfl
  | reconcile w => exact h.settle (Trading.reconcileExternal_frame w d.trading) rfl

/-! ### A desk to start from -/

/-- An empty desk with one dollar to spend per order and a fresh balance. -/
def startDesk (mode : ExecutionMode) (botMax : ℤ) : Desk :=
  { trading := { executor := { mode := mode, botMax := botMax }
                 exitExecutor := { paperMode := mode = .paper }
                 balance := { available := 10, total := 10, updatedAt := some 0 } } }

/-- An order of one dollar. -/
def orderFor (c : ConditionId) : OrderIntent :=
  { asset := "BTC", side := .up, amountUsd := 1, conditionId := c, tokenId := "token"
    dominantPrice := 1 / 2 }

theorem startDesk_fresh (mode : ExecutionMode) (botMax : ℤ) : Fresh (startDesk mode botMax) :=
  ⟨rfl, rfl, rfl, rfl⟩

/-! ### A whole exit cycle -/

/-- The desk with another state of the execution layer. -/
def withTrading (d : Desk) (s : Trading) : Desk := { d with trading := s }

/-- Steps without a call of `execute` lead from `d` to `d'`. -/
def Reaches (d d' : Desk) : Prop :=
  ∃ tr, Lib.Run Step d tr d' ∧ ∀ x ∈ tr, ∀ i now, x.label ≠ .execute i now

theorem Reaches.refl (d : Desk) : Reaches d d := ⟨[], .nil d, by simp⟩

theorem Reaches.trans {d d' d'' : Desk} (h : Reaches d d') (h' : Reaches d' d'') :
    Reaches d d'' := by
  obtain ⟨tr, hrun, hlabel⟩ := h
  obtain ⟨tr', hrun', hlabel'⟩ := h'
  refine ⟨tr ++ tr', hrun.append hrun', fun x hx => ?_⟩
  rcases List.mem_append.mp hx with hx | hx
  · exact hlabel x hx
  · exact hlabel' x hx

theorem Reaches.step (h : Step d l d') (hl : l.isExecute = false) : Reaches d d' :=
  ⟨_, .single h, by simpa using Label.ne_execute hl⟩

theorem sellLost_reaches (d : Desk) (id : PositionId) :
    Reaches { d with sells := d.sells ++ [id] } d := by
  have h := Reaches.step (Step.sellLost { d with sells := d.sells ++ [id] } d.sells [] id rfl) rfl
  rw [List.append_nil] at h
  exact h

theorem sellFetchLost_reaches (d : Desk) (id : PositionId) :
    Reaches { d with sellFetches := d.sellFetches ++ [id] } d := by
  have h := Reaches.step (Step.sellFetchLost { d with sellFetches := d.sellFetches ++ [id] }
    d.sellFetches [] id rfl) rfl
  rw [List.append_nil] at h
  exact h

theorem sellFetched_reaches (d : Desk) (id : PositionId) (reply : FetchReply) (now : Time) :
    Reaches { d with sellFetches := d.sellFetches ++ [id] }
      (d.withTrading (d.trading.closeFetched reply now).1) := by
  have h := Reaches.step (Step.sellFetched { d with sellFetches := d.sellFetches ++ [id] }
    d.sellFetches [] id reply now rfl) rfl
  rw [List.append_nil] at h
  exact h

theorem sellReply_reaches (d : Desk) (id : PositionId) (reply : Except PyError (Option OrderReply))
    (now : Time) : Reaches { d with sells := d.sells ++ [id] }
      (d.afterClose (d.trading.sellAnswered id reply now)) := by
  have h := Reaches.step (Step.sellReply { d with sells := d.sells ++ [id] } d.sells [] id reply now
    rfl) rfl
  rw [List.append_nil] at h
  exact h

/-- However a stretch of `execute_close` ends, the call can end there. -/
theorem afterClose_reaches (d : Desk) (out : Trading × CloseStatus) :
    Reaches (d.afterClose out) (d.withTrading out.1) := by
  unfold afterClose
  split
  · exact .refl _
  · exact sellLost_reaches (d.withTrading out.1) _
  · exact sellFetchLost_reaches (d.withTrading out.1) _

/-- A whole call of `execute_close` is a run of its stretches between awaits. -/
theorem executeClose_reaches (d : Desk) (w : World) (id : PositionId) (price : ℚ) :
    Reaches d (d.withTrading (d.trading.executeClose w id price).state) := by
  have hclose := Reaches.step (Step.close d id price (d.trading.instant w).now) rfl
  have hid := (Trading.closeBegin_exits d.trading id price (d.trading.instant w).now).2.2
  unfold Trading.executeClose
  generalize d.trading.closeBegin id price (d.trading.instant w).now = out at hclose hid
  obtain ⟨s, status⟩ := out
  have hended := hclose.trans (afterClose_reaches d (s, status))
  cases status with
  | done r => exact hended
  | awaitingBalance k => exact hended
  | awaitingSell k =>
    obtain rfl := (hid k rfl).1
    dsimp only
    have hreply := hclose.trans (sellReply_reaches (d.withTrading s) k (s.instant w).sell
      ((s.answered (.sell k)).instant w).now)
    dsimp only [withTrading] at hreply
    generalize s.sellAnswered k (s.instant w).sell ((s.answered (.sell k)).instant w).now = out
      at hreply
    obtain ⟨t, status⟩ := out
    have hended := hreply.trans (afterClose_reaches _ (t, status))
    cases status with
    | done r => exact hended
    | awaitingSell j => exact hended
    | awaitingBalance j => exact hreply.trans (sellFetched_reaches (d.withTrading t) j _ _)

theorem closePhase_reaches (d : Desk) (w : World) (x : CycleInput) :
    Reaches d (d.withTrading (d.trading.closePhase w x).state) := by
  refine Call.countLoop_preserves (I := fun s => Reaches d (d.withTrading s)) _ ?_ d.trading
    (.refl d)
  intro s p _ h
  exact h.trans (executeClose_reaches (d.withTrading s) w p.positionId (x.price p))

/-- A whole call of `process_settlements` is a run of the things its turns are made of. -/
theorem processSettlements_reaches (d : Desk) (w : World) :
    Reaches d (d.withTrading (d.trading.processSettlements w).state) := by
  have hrule : Trading.SettleRule w (fun s => Reaches d (d.withTrading s)) :=
    { resolution := fun s c h => h.trans (.step (.resolution (d.withTrading s) w c) rfl)
      claim := fun s p now h => h.trans (.step (.claim (d.withTrading s) p now) rfl)
      redeem := fun s p id h => h.trans (.step (.redeem (d.withTrading s) w p id) rfl)
      retry := fun s r h => h.trans (.step (.writeRetry (d.withTrading s) r) rfl)
      drop := fun s id h => h.trans (.step (.dropRetry (d.withTrading s) id) rfl) }
  exact hrule.processSettlements (.refl d)

/-- **A whole `run_cycle` is a run of steps**, none of them a call of `execute`. -/
theorem runCycle_reaches (d : Desk) (w : World) (x : CycleInput) :
    Reaches d (d.withTrading (d.trading.runCycle w x).state) := by
  refine Trading.runCycle_preserves (I := fun s => Reaches d (d.withTrading s)) d.trading w x ?_ ?_ ?_
    ?_ ?_
  · exact .step (.cycle d) rfl
  · exact fun s h => h.trans (.step (.trigger (d.withTrading s) w x) rfl)
  · exact fun s h => h.trans (closePhase_reaches (d.withTrading s) w x)
  · exact fun s h => h.trans (processSettlements_reaches (d.withTrading s) w)
  · exact fun s h => h.trans (.step (.reconcile (d.withTrading s) w) rfl)

end Desk

end Polyfast
