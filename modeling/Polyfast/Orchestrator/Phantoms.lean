import Polyfast.Orchestrator.Desk

/-!
# Pending positions that no call waits for

`execute` creates its position before it awaits the exchange, and only the answer confirms or rejects it:
when the await raises or is cancelled, or the answer cannot be computed with, the position stays pending and
blocks its event.

* `NoPhantom`: every pending position has its call of `execute` at the exchange;
* `orderReply_waits`, `execute_waits`: which stretches leave a pending position behind;
* `no_phantom_iff`: when no run leaves one.
-/

namespace Polyfast

namespace Trading

variable {s : Trading} {id : PositionId} {r : PositionRecord} {i : OrderIntent} {now : Time}

/-- The position waits for its fill. -/
def WaitsAt (s : Trading) (id : PositionId) : Prop :=
  ∃ r, s.tracker.positions.get? id = some r ∧ r.state = .pendingOpen

theorem waitsAt_of_put {s' : Trading} {q : PositionRecord} (hid : q.positionId = id)
    (hpos : s'.tracker.positions = s.tracker.positions.put q) (hs : q.state ≠ .pendingOpen) :
    ¬s'.WaitsAt id := by
  rintro ⟨u, hu, hus⟩
  rw [hpos, ← hid, Lib.Table.get?_put_self, Option.some.injEq] at hu
  subst hu
  exact hs hus

theorem rejectOrder_settles (res : ExecutionResult) (now : Time)
    (h : s.tracker.positions.get? id = some r) (hs : r.state = .pendingOpen) :
    ¬(s.rejectOrder id res now).1.WaitsAt id := by
  have hkey : r.positionId = id := Lib.Table.key_of_get? h
  unfold rejectOrder
  rw [PositionTracker.rejectFill_of_pending h hs]
  exact waitsAt_of_put (s := s) (q := PositionTracker.rejected r now) hkey rfl (by
    simp [PositionTracker.rejected])

/-- A fill at a price opens the position. -/
theorem confirmFill_settles {s' : Trading} {price rate : ℚ} (h : s.tracker.positions.get? id = some r)
    (hs : r.state = .pendingOpen) (hp : price ≠ 0)
    (ht : s'.tracker = (s.tracker.confirmFill id price (some rate) now).state) : ¬s'.WaitsAt id := by
  have hkey : r.positionId = id := Lib.Table.key_of_get? h
  rw [PositionTracker.confirmFill_of_pending h hs hp] at ht
  generalize PositionTracker.entryOf r price rate = entry at ht
  refine waitsAt_of_put (s := s) (q := (r.withEntry price entry now).inState .openConfirmed) hkey ?_ ?_
  · rw [ht]
    simp
  · simp

theorem fillPriceOf_ne_zero {reply : OrderReply} {amounts : Option (ℚ × ℚ)} (hp : 0 < i.dominantPrice)
    (h : reply.amounts = .ok amounts) : fillPriceOf i amounts ≠ 0 := by
  cases amounts with
  | none => exact hp.ne'
  | some a =>
    obtain ⟨making, taking⟩ := a
    obtain ⟨hm, ht⟩ := OrderReply.amounts_pos h
    exact (div_pos hm ht).ne'

/-- The answer leaves its position pending exactly when it cannot be computed with. -/
theorem orderReply_waits (reply : Option OrderReply) (now : Time) (hp : 0 < i.dominantPrice)
    (h : s.tracker.positions.get? id = some r) (hs : r.state = .pendingOpen) :
    (s.orderReply i id reply now).1.WaitsAt id ↔ ¬Readable reply := by
  unfold orderReply
  cases reply with
  | none => exact iff_of_false (rejectOrder_settles _ now h hs) (not_not_intro readable_none)
  | some reply =>
    dsimp only
    by_cases hm : reply.status = "matched"
    · rw [if_pos hm]
      have hread : Readable (some reply) ↔
          (∃ rate, reply.feeRate = .ok rate) ∧ ∃ a, reply.amounts = .ok a := by
        constructor
        · intro hread
          exact hread reply rfl hm
        · rintro hok u hu -
          obtain rfl := Option.some.inj hu
          exact hok
      rw [hread]
      cases hrate : reply.feeRate with
      | error e => exact iff_of_true ⟨r, h, hs⟩ (by simp)
      | ok rate =>
        cases ha : reply.amounts with
        | error e => exact iff_of_true ⟨r, h, hs⟩ (by simp)
        | ok amounts =>
          have hprice := fillPriceOf_ne_zero hp ha
          refine iff_of_false ?_ (by simp)
          dsimp only
          split
          · exact confirmFill_settles h hs hprice rfl
          · exact confirmFill_settles h hs hprice rfl
    · rw [if_neg hm]
      refine iff_of_false (rejectOrder_settles _ now h hs) (not_not_intro fun u hu hum => ?_)
      obtain rfl := Option.some.inj hu
      exact absurd hum hm

/-- Of existing positions only `id` moves, so only `id` can stop or start to wait. -/
theorem Touches.waits {s' : Trading} {k : PositionId} (h : Touches id s s') (hk : k ≠ id)
    (hw : s'.WaitsAt k) : s.WaitsAt k := by
  obtain ⟨r, hr, hs⟩ := hw
  rw [h.others k hk] at hr
  exact ⟨r, hr, hs⟩

theorem executePaper_waits (hp : 0 < i.dominantPrice) (h : s.tracker.positions.get? id = some r)
    (hs : r.state = .pendingOpen) {k : PositionId} (hw : (s.executePaper i id now).1.WaitsAt k) :
    k ≠ id ∧ s.WaitsAt k := by
  have hk : k ≠ id := by
    rintro rfl
    revert hw
    unfold executePaper
    dsimp only
    split
    · exact confirmFill_settles h hs hp.ne' rfl
    · exact confirmFill_settles h hs hp.ne' rfl
  obtain ⟨ht, -⟩ := executePaper_touches i now h hs
  exact ⟨hk, ht.waits hk hw⟩

theorem executeLive_waits (h : s.tracker.positions.get? id = some r) (hs : r.state = .pendingOpen)
    {k : PositionId} (hw : (s.executeLive id now).1.WaitsAt k) :
    s.WaitsAt k ∧ (k = id → (s.executeLive id now).2 = .awaitingOrder id) := by
  obtain ⟨ht, -⟩ := executeLive_touches now h hs
  by_cases hk : k = id
  · subst hk
    refine ⟨⟨r, h, hs⟩, fun _ => ?_⟩
    unfold executeLive at hw ⊢
    split_ifs at hw ⊢
    · exact absurd hw (rejectOrder_settles _ now h hs)
    · rfl
  · exact ⟨ht.waits hk hw, fun heq => absurd heq hk⟩

/-- The position that is created is the only new one that waits. -/
theorem createPending_waits {k : PositionId} (h : (s.createPending i now).WaitsAt k) :
    k = s.uuids ∨ s.WaitsAt k := by
  by_cases hk : k = s.uuids
  · exact .inl hk
  · right
    have hne : (s.pendingRecord i now).positionId ≠ k := fun heq => hk heq.symm
    obtain ⟨r, hr, hs⟩ := h
    refine ⟨r, ?_, hs⟩
    unfold createPending at hr
    dsimp only at hr
    rwa [PositionTracker.positions_createPending, Lib.Table.get?_put_ne _ hne] at hr

/-- A call up to its first await leaves a position pending that was pending before, or whose order it has
sent. -/
theorem execute_waits (hp : 0 < i.dominantPrice) {k : PositionId}
    (h : (s.execute i now).1.WaitsAt k) :
    s.WaitsAt k ∨ (s.execute i now).2 = .awaitingOrder k := by
  by_cases hmay : s.mayCreate i now
  · have hget := get?_createPending s.countExecution i now
    rw [execute_of_mayCreate hmay] at h ⊢
    cases hm : s.executor.mode with
    | paper =>
      rw [hm] at h
      obtain ⟨hk, hw⟩ := executePaper_waits hp hget rfl h
      rcases createPending_waits hw with heq | hw
      · exact absurd heq hk
      · exact .inl hw
    | live =>
      rw [hm] at h
      obtain ⟨hw, hsent⟩ := executeLive_waits hget rfl h
      rcases createPending_waits hw with rfl | hw
      · exact .inr (hsent rfl)
      · exact .inl hw
  · obtain ⟨x, a, heq, -, -⟩ := execute_of_not_mayCreate hmay
    rw [heq] at h
    exact .inl h

/-- Exits leave no position pending. -/
theorem ExitMoves.waits {t t' : PositionTracker} (hm : ExitMoves t t') {k : PositionId}
    (h : ∃ r, t'.positions.get? k = some r ∧ r.state = .pendingOpen) :
    ∃ r, t.positions.get? k = some r ∧ r.state = .pendingOpen := by
  induction hm with
  | refl => exact h
  | tail _ hm ih =>
    apply ih
    obtain ⟨r, hr, hs⟩ := h
    cases hm with
    | exit u u' hold _ _ hstate' _ hpos _ =>
      rw [hpos, Lib.Table.get?_put] at hr
      split_ifs at hr
      · rw [Option.some.injEq] at hr
        exact absurd (hr ▸ hs) hstate'
      · exact ⟨r, hr, hs⟩
    | same hpos _ => exact ⟨r, hpos ▸ hr, hs⟩

end Trading

namespace Desk

variable {d d' : Desk} {l : Label} {id : PositionId}

/-- Every pending position has its call of `execute` at the exchange. -/
def NoPhantom (d : Desk) : Prop := ∀ id, d.trading.WaitsAt id → id ∈ d.orders.map Prod.snd

/-- What `execute` is called with has a price. -/
def Label.Priced : Label → Prop
  | .execute i _ => 0 < i.dominantPrice
  | _ => True

/-- The call of `execute` goes on from the exchange to its end. -/
def Label.Settles : Label → Prop
  | .orderReply _ _ reply _ => Readable reply
  | .orderLost _ _ => False
  | _ => True

/-- A well-formed desk whose orders at the exchange have a price. -/
structure Quoted (d : Desk) : Prop where
  wellFormed : d.WellFormed
  priced : ∀ o ∈ d.orders, 0 < o.1.dominantPrice

/-- The orders at the exchange after a call: one more, for the intent of the call, if it waits there. -/
theorem mem_orders_afterExecute {i : OrderIntent} {out : Trading × ExecuteStatus}
    {o : OrderIntent × PositionId} :
    o ∈ (d.afterExecute i out).orders ↔ o ∈ d.orders ∨ o.1 = i ∧ out.2 = .awaitingOrder o.2 := by
  obtain ⟨j, k⟩ := o
  unfold afterExecute
  cases out.2 with
  | done a => simp
  | awaitingBalance a => simp
  | awaitingOrder m => simp [eq_comm]

/-- Exits and settlement leave no position pending, and the orders where they are. -/
theorem NoPhantom.exits (h : d.NoPhantom) (hm : ExitMoves d.trading.tracker d'.trading.tracker)
    (ho : d'.orders = d.orders) : d'.NoPhantom := by
  intro id hid
  rw [ho]
  exact h id (Trading.ExitMoves.waits hm hid)

theorem noPhantom_orderReply {l₁ l₂ : List (OrderIntent × PositionId)} {i : OrderIntent} (hq : d.Quoted)
    (h : d.NoPhantom) (hsplit : d.orders = l₁ ++ (i, id) :: l₂) (reply : Option OrderReply) (now : Time) :
    ({ d with orders := l₁ ++ l₂ }.afterExecute i (d.trading.orderReply i id reply now)).NoPhantom ↔
      Readable reply := by
  have hmap : d.orders.map Prod.snd = l₁.map Prod.snd ++ id :: l₂.map Prod.snd :=
    Lib.map_split Prod.snd hsplit
  obtain ⟨r, hr, hs⟩ := hq.wellFormed.ordersPending id (by rw [hmap]; simp)
  have hwaits := Trading.orderReply_waits reply now (hq.priced (i, id) (by rw [hsplit]; simp)) hr hs
  obtain ⟨ht, hstatus⟩ := Trading.orderReply_touches i reply now hr hs
  have hnot : id ∉ (l₁ ++ l₂).map Prod.snd := by
    rw [List.map_append]
    exact Lib.not_mem_split hmap hq.wellFormed.ordersNodup
  have horders : ({ d with orders := l₁ ++ l₂ }.afterExecute i
      (d.trading.orderReply i id reply now)).orders = l₁ ++ l₂ := by
    rcases hstatus with ⟨a, ha⟩ | ⟨a, ha⟩
    · simp only [afterExecute, ha]
    · simp only [afterExecute, ha]
  unfold NoPhantom
  rw [trading_afterExecute, horders]
  constructor
  · intro hall
    by_contra hread
    exact hnot (hall id (hwaits.mpr hread))
  · intro hread k hk
    by_cases hkid : k = id
    · subst hkid
      exact absurd hread (hwaits.mp hk)
    · have hmem := h k (ht.waits hkid hk)
      rw [hmap, List.mem_append, List.mem_cons] at hmem
      rw [List.map_append, List.mem_append]
      tauto

theorem NoPhantom.execute (h : d.NoPhantom) {i : OrderIntent} (hp : 0 < i.dominantPrice) (now : Time) :
    (d.afterExecute i (d.trading.execute i now)).NoPhantom := by
  intro k hk
  rw [trading_afterExecute] at hk
  rw [List.mem_map]
  rcases Trading.execute_waits hp hk with hw | hsent
  · obtain ⟨o, ho, rfl⟩ := List.mem_map.mp (h k hw)
    exact ⟨o, mem_orders_afterExecute.mpr (.inl ho), rfl⟩
  · exact ⟨(i, k), mem_orders_afterExecute.mpr (.inr ⟨rfl, hsent⟩), rfl⟩

/-- Orders at the exchange come from calls with a price. -/
theorem Quoted.step (h : d.Quoted) (hs : Step d l d') (hl : l.Priced) : d'.Quoted := by
  refine ⟨(h.wellFormed.step hs).1, fun o ho => ?_⟩
  have hkeep : ∀ {l₁ l₂ : List (OrderIntent × PositionId)} {a : OrderIntent × PositionId},
      d.orders = l₁ ++ a :: l₂ → o ∈ l₁ ++ l₂ → 0 < o.1.dominantPrice := by
    intro l₁ l₂ a hsplit hmem
    exact h.priced o ((Lib.split_sublist hsplit).subset hmem)
  cases hs with
  | execute i now =>
    rcases mem_orders_afterExecute.mp ho with ho | ⟨hi, -⟩
    · exact h.priced o ho
    · rw [hi]
      exact hl
  | orderReply l₁ l₂ i id reply now hsplit =>
    rcases mem_orders_afterExecute.mp ho with ho | ⟨hi, -⟩
    · exact hkeep hsplit ho
    · rw [hi]
      exact h.priced (i, id) (by rw [hsplit]; simp)
  | orderLost l₁ l₂ i id hsplit => exact hkeep hsplit ho
  | close id price now =>
    rw [orders_afterClose] at ho
    exact h.priced o ho
  | sellReply l₁ l₂ id reply now hsplit =>
    rw [orders_afterClose] at ho
    exact h.priced o ho
  | _ => exact h.priced o ho

/-- **One step** leaves no phantom exactly when the call it carries on goes on to its end. -/
theorem Step.noPhantom_iff (hs : Step d l d') (hl : l.Priced) (hq : d.Quoted) (h : d.NoPhantom) :
    d'.NoPhantom ↔ l.Settles := by
  have hsame : ∀ {s : Trading}, s.tracker = d.trading.tracker → NoPhantom { d with trading := s } := by
    intro s ht
    refine h.exits ?_ rfl
    show ExitMoves d.trading.tracker s.tracker
    rw [ht]
  cases hs with
  | execute i now => exact iff_of_true (h.execute hl now) trivial
  | orderReply l₁ l₂ i id reply now hsplit => exact noPhantom_orderReply hq h hsplit reply now
  | orderLost l₁ l₂ i id hsplit =>
    refine iff_of_false (fun hno => ?_) (fun hf => hf)
    have hmap : d.orders.map Prod.snd = l₁.map Prod.snd ++ id :: l₂.map Prod.snd :=
      Lib.map_split Prod.snd hsplit
    have hmem := hno id (hq.wellFormed.ordersPending id (by rw [hmap]; simp))
    rw [List.map_append] at hmem
    exact Lib.not_mem_split hmap hq.wellFormed.ordersNodup hmem
  | orderFetched l₁ l₂ r reply now hsplit => exact iff_of_true h trivial
  | orderFetchLost l₁ l₂ r hsplit => exact iff_of_true h trivial
  | cycle => exact iff_of_true h trivial
  | trigger w x =>
    obtain ⟨he, -⟩ := Trading.triggerPhase_exits (s := d.trading) (w := w) (x := x)
    exact iff_of_true (h.exits he.moves rfl) trivial
  | close id price now =>
    obtain ⟨he, -, -⟩ := Trading.closeBegin_exits d.trading id price now
    refine iff_of_true (h.exits ?_ (orders_afterClose _)) trivial
    rw [trading_afterClose]
    exact he.moves
  | sellReply l₁ l₂ id reply now hsplit =>
    obtain ⟨-, he⟩ := sellReply_wellFormed hq.wellFormed reply now hsplit
    refine iff_of_true (h.exits ?_ (orders_afterClose _)) trivial
    rw [trading_afterClose]
    exact he.moves
  | sellLost l₁ l₂ id hsplit => exact iff_of_true h trivial
  | sellFetched l₁ l₂ id reply now hsplit => exact iff_of_true h trivial
  | sellFetchLost l₁ l₂ id hsplit => exact iff_of_true h trivial
  | resolution w c => exact iff_of_true (hsame (Trading.checkResolved_frame w d.trading c).tracker) trivial
  | claim p now => exact iff_of_true (hsame (Trading.createClaim_frame d.trading p now).tracker) trivial
  | redeem w p id =>
    exact iff_of_true (hsame (Trading.executeRedeemForClaim_frame w d.trading p id).tracker) trivial
  | writeRetry r => exact iff_of_true (hsame rfl) trivial
  | dropRetry id => exact iff_of_true (hsame rfl) trivial
  | reconcile w => exact iff_of_true (hsame (Trading.reconcileExternal_frame w d.trading).tracker) trivial

/-- **No phantom.** When every intent has a price, no call of `execute` ends with its position pending,
exactly when every order at the exchange is answered with something the code can compute with. -/
theorem no_phantom_iff {tr : List (Lib.Taken Desk Label)} (h : Fresh d) (hrun : Lib.Run Step d tr d')
    (hprice : ∀ x ∈ tr, ∀ i now, x.label = .execute i now → 0 < i.dominantPrice) :
    (∀ x ∈ tr, x.post.NoPhantom) ↔ ∀ x ∈ tr, x.label.Settles := by
  have hpriced : ∀ x ∈ tr, x.label.Priced := by
    intro x hx
    cases hl : x.label with
    | execute i now => exact hprice x hx i now hl
    | _ => trivial
  refine (hrun.restrict hpriced).always_iff (J := Quoted) (C := fun _ l => l.Settles) ?_ ?_ ?_
  · intro t l u hJ hI hst
    exact ⟨hJ.step hst.1 hst.2, hst.1.noPhantom_iff hst.2 hJ hI⟩
  · exact ⟨h.wellFormed, by simp [h.orders]⟩
  · rintro id ⟨r, hr, -⟩
    simp [h.positions] at hr

/-- Two orders are at the exchange; one is filled, the other one rejected. -/
theorem no_phantom_answered : ∃ tr d', Lib.Run Step (startDesk .live 3) tr d' ∧
    d'.trading.tracker.positions.records.map PositionRecord.state = [.openConfirmed, .closed] ∧
    ∀ x ∈ tr, x.post.NoPhantom := by
  have hrun : Lib.Run Step (startDesk .live 3) _ _ := (((Lib.Run.single
    (.execute _ (orderFor "a") 0)).snoc
    (.execute _ (orderFor "b") 0)).snoc
    (.orderReply _ [(orderFor "a", 0)] [] (orderFor "b") 1 none 1 (by decide +kernel))).snoc
    (.orderReply _ [] [] (orderFor "a") 0 (some { status := "matched" }) 1 (by decide +kernel))
  refine ⟨_, _, hrun, by decide +kernel, (no_phantom_iff (startDesk_fresh .live 3) hrun ?_).mpr ?_⟩
  · simp [orderFor]
  · simp [Label.Settles, readable_none, readable_matched]

/-- The evaluation is cancelled while its order is out: the position stays pending, no call waits for it, and
the event takes no other order. -/
theorem phantom_by_cancellation :
    ∃ (d d' : Desk) (tr : List (Lib.Taken Desk Label)), Fresh d ∧ Lib.Run Step d tr d' ∧
      (∃ r, d'.trading.tracker.positions.get? 0 = some r ∧ r.state = .pendingOpen) ∧ d'.orders = [] ∧
      ¬d'.trading.mayCreate (orderFor "event") 1 := by
  have hrun : Lib.Run Step (startDesk .live 2) _ _ :=
    ((Lib.Run.nil (startDesk .live 2)).snoc (.execute _ (orderFor "event") 0)).snoc
      (.orderLost _ [] [] (orderFor "event") 0 (by decide +kernel))
  refine ⟨_, _, _, startDesk_fresh _ _, hrun, ⟨(startDesk .live 2).trading.pendingRecord
    (orderFor "event") 0, ?_, rfl⟩, rfl, ?_⟩
  all_goals decide +kernel

end Desk

end Polyfast
