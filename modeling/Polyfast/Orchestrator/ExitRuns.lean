import Polyfast.Orchestrator.CloseCalls
import Polyfast.Orchestrator.CycleEffect

/-!
# Runs of exit cycles, closes and configuration changes

`ExitStep` interleaves calls of `execute_close` and `execute_close_with_retry` with the other pieces of the
exit cycle and with changes of the evaluator's configuration.

* `runCycle_run`: a whole `run_cycle` is a run of such steps;
* `Latched` and `latch`: a close that was requested for stop loss or force sell is never taken back.
-/

namespace Polyfast

/-- The pieces of `run_cycle` besides its calls of `execute_close`. -/
def Desk.Label.isCyclePiece : Desk.Label → Bool
  | cycle | trigger _ _ | resolution _ _ | claim _ _ | redeem _ _ _ | writeRetry _ | dropRetry _
  | reconcile _ => true
  | _ => false

namespace CloseDesk

inductive ExitLabel
  | call (l : Label)
  | piece (l : Desk.Label)
  | configure (e : ExitEvaluator)

/-- A call of `execute_close` goes on, another piece of the exit cycle runs, or the evaluator is configured. -/
inductive ExitStep : CloseDesk → ExitLabel → CloseDesk → Prop
  | call (d d' : CloseDesk) (l : Label) (h : Step d l d') : ExitStep d (.call l) d'
  | piece (d : CloseDesk) (l : Desk.Label) (e : Desk) (hl : l.isCyclePiece = true)
      (h : Desk.Step { trading := d.trading } l e) :
      ExitStep d (.piece l) { d with trading := e.trading }
  | configure (d : CloseDesk) (e : ExitEvaluator) :
      ExitStep d (.configure e) { d with trading := { d.trading with evaluator := e } }

variable {d d' : CloseDesk} {l : ExitLabel} {id : PositionId}

/-- A piece of the exit cycle is the trigger phase, or leaves the tracker alone. -/
theorem piece_cases {s : Trading} {l : Desk.Label} {e : Desk} (hl : l.isCyclePiece = true)
    (h : Desk.Step { trading := s } l e) :
    (∃ w x, l = .trigger w x ∧ e.trading = (s.triggerPhase w x).state) ∨ e.trading.tracker = s.tracker := by
  cases h with
  | trigger w x => exact .inl ⟨w, x, rfl, rfl⟩
  | cycle => exact .inr rfl
  | resolution w c => exact .inr (Trading.checkResolved_frame w s c).tracker
  | claim p now => exact .inr (Trading.createClaim_frame s p now).tracker
  | redeem w p id => exact .inr (Trading.executeRedeemForClaim_frame w s p id).tracker
  | writeRetry r => exact .inr rfl
  | dropRetry id => exact .inr rfl
  | reconcile w => exact .inr (Trading.reconcileExternal_frame w s).tracker
  | _ => cases hl

/-- The trigger phase changes open positions only. -/
theorem triggerPhase_not_open {s : Trading} {w : World} {x : CycleInput} {r : PositionRecord}
    (h : s.tracker.positions.get? id = some r) (hopen : r.isOpen = false) :
    (s.triggerPhase w x).state.tracker.positions.get? id = some r := by
  obtain ⟨-, ht⟩ := Trading.triggerPhase_spec s w x
  rw [ht.positions id, if_neg (by simp), h, Option.map_some, Trading.afterTrigger, hopen]
  rfl

/-! ### A whole cycle -/

/-- Every desk step of an exit cycle is a step here, made by calls of `execute_close` from the cycle. -/
structure Mirrors (e : Desk) (d : CloseDesk) : Prop where
  trading : e.trading = d.trading
  sells : e.sells = d.selling.map Prod.snd
  sellFetches : e.sellFetches = d.fetching.map Prod.snd
  orders : e.orders = []
  orderFetches : e.orderFetches = []

theorem mirrors_after {e : Desk} (h : Mirrors e d) (who : Caller) (out : Trading × CloseStatus) :
    Mirrors (e.afterClose out) (d.after who out) := by
  unfold Desk.afterClose after
  cases hout : out.2 with
  | done a => exact ⟨rfl, h.sells, h.sellFetches, h.orders, h.orderFetches⟩
  | awaitingSell k => exact ⟨rfl, by simp [h.sells], h.sellFetches, h.orders, h.orderFetches⟩
  | awaitingBalance k => exact ⟨rfl, h.sells, by simp [h.sellFetches], h.orders, h.orderFetches⟩

/-- A position that waits, waits for some caller. -/
theorem waiting_split {m : List (Caller × PositionId)} {l₁ l₂ : List PositionId}
    (h : m.map Prod.snd = l₁ ++ id :: l₂) :
    ∃ m₁ who m₂, m = m₁ ++ (who, id) :: m₂ ∧ m₁.map Prod.snd = l₁ ∧ m₂.map Prod.snd = l₂ := by
  rw [List.map_eq_append_iff] at h
  obtain ⟨m₁, m', rfl, hm₁, h⟩ := h
  rw [List.map_eq_cons_iff] at h
  obtain ⟨⟨who, k⟩, m₂, rfl, rfl, hm₂⟩ := h
  exact ⟨m₁, who, m₂, rfl, hm₁, hm₂⟩

/-- A step of the desk that sends no order is a step here. -/
theorem Mirrors.step {e e' : Desk} {l : Desk.Label} (h : Mirrors e d) (hl : l.isExecute = false)
    (hst : Desk.Step e l e') : ∃ d' tr, Lib.Run ExitStep d tr d' ∧ Mirrors e' d' := by
  obtain ⟨s, orders, orderFetches, sells, sellFetches⟩ := e
  obtain ⟨htrading, hsells, hfetches, horders, horderFetches⟩ := h
  dsimp only at htrading hsells hfetches horders horderFetches
  subst htrading horders horderFetches
  have hcall : ∀ {l : Label} {d' : CloseDesk}, Step d l d' → Mirrors e' d' →
      ∃ d' tr, Lib.Run ExitStep d tr d' ∧ Mirrors e' d' :=
    fun hs hm => ⟨_, _, .single (.call d _ _ hs), hm⟩
  have hpiece : ∀ {l : Desk.Label} {e : Desk}, l.isCyclePiece = true →
      Desk.Step { trading := d.trading } l e → Mirrors e' { d with trading := e.trading } →
      ∃ d' tr, Lib.Run ExitStep d tr d' ∧ Mirrors e' d' :=
    fun hl hs hm => ⟨_, _, .single (.piece d _ _ hl hs), hm⟩
  cases hst with
  | execute i now => cases hl
  | orderReply l₁ l₂ i id reply now ho => simp at ho
  | orderLost l₁ l₂ i id ho => simp at ho
  | orderFetched l₁ l₂ r reply now ho => simp at ho
  | orderFetchLost l₁ l₂ r ho => simp at ho
  | close id price now =>
    exact hcall (.close d id price now) (mirrors_after ⟨rfl, hsells, hfetches, rfl, rfl⟩ _ _)
  | sellReply l₁ l₂ id reply now ho =>
    obtain ⟨m₁, who, m₂, hm, rfl, rfl⟩ := waiting_split (hsells.symm.trans ho)
    exact hcall (.sellReply d m₁ m₂ who id reply now hm)
      (mirrors_after ⟨rfl, by simp, hfetches, rfl, rfl⟩ who _)
  | sellLost l₁ l₂ id ho =>
    obtain ⟨m₁, who, m₂, hm, rfl, rfl⟩ := waiting_split (hsells.symm.trans ho)
    exact hcall (.sellLost d m₁ m₂ who id hm) ⟨rfl, by simp, hfetches, rfl, rfl⟩
  | sellFetched l₁ l₂ id reply now ho =>
    obtain ⟨m₁, who, m₂, hm, rfl, rfl⟩ := waiting_split (hfetches.symm.trans ho)
    exact hcall (.fetched d m₁ m₂ who id reply now hm) ⟨rfl, hsells, List.map_append.symm, rfl, rfl⟩
  | sellFetchLost l₁ l₂ id ho =>
    obtain ⟨m₁, who, m₂, hm, rfl, rfl⟩ := waiting_split (hfetches.symm.trans ho)
    exact hcall (.fetchLost d m₁ m₂ who id hm) ⟨rfl, hsells, by simp, rfl, rfl⟩
  | cycle => exact hpiece rfl (.cycle _) ⟨rfl, hsells, hfetches, rfl, rfl⟩
  | trigger w x => exact hpiece rfl (.trigger _ w x) ⟨rfl, hsells, hfetches, rfl, rfl⟩
  | resolution w c => exact hpiece rfl (.resolution _ w c) ⟨rfl, hsells, hfetches, rfl, rfl⟩
  | claim p now => exact hpiece rfl (.claim _ p now) ⟨rfl, hsells, hfetches, rfl, rfl⟩
  | redeem w p id => exact hpiece rfl (.redeem _ w p id) ⟨rfl, hsells, hfetches, rfl, rfl⟩
  | writeRetry r => exact hpiece rfl (.writeRetry _ r) ⟨rfl, hsells, hfetches, rfl, rfl⟩
  | dropRetry id => exact hpiece rfl (.dropRetry _ id) ⟨rfl, hsells, hfetches, rfl, rfl⟩
  | reconcile w => exact hpiece rfl (.reconcile _ w) ⟨rfl, hsells, hfetches, rfl, rfl⟩

/-- **A whole `run_cycle` is a run** of calls of `execute_close` and of the other pieces. -/
theorem runCycle_run (d : CloseDesk) (w : World) (x : CycleInput) :
    ∃ d' tr, Lib.Run ExitStep d tr d' ∧ d'.trading = (d.trading.runCycle w x).state ∧
      d'.selling.map Prod.snd = d.selling.map Prod.snd := by
  have hstart : Mirrors { trading := d.trading, sells := d.sells, sellFetches := d.fetching.map Prod.snd }
      d := ⟨rfl, rfl, rfl, rfl, rfl⟩
  obtain ⟨tr, hrun, hno⟩ := Desk.runCycle_reaches
    { trading := d.trading, sells := d.sells, sellFetches := d.fetching.map Prod.snd } w x
  have hno' : ∀ y ∈ tr, y.label.isExecute = false := by
    intro y hy
    cases hl : y.label with
    | execute i now => exact absurd hl (hno y hy i now)
    | _ => rfl
  obtain ⟨d', tr', hrun', hend⟩ := (hrun.restrict hno').simulate
    (fun _ _ _ _ hm hst => hm.step hst.2 hst.1) hstart
  exact ⟨d', tr', hrun', hend.trading.symm, hend.sells.symm⟩

/-! ### The latch -/

/-- A state of a close that was requested. -/
def Leaving (s : PositionState) : Prop :=
  s = .closingRequested ∨ s = .closePending ∨ s = .closeFailed ∨ s = .closed

/-- The close of the position was requested for the reason, with the triggers, and not taken back. -/
def LatchedRecord (reason : CloseReason) (triggers : List ForceSellTrigger) (r : PositionRecord) : Prop :=
  Leaving r.state ∧ r.closeReason = some reason ∧ r.closeTriggerSet = triggers

/-- The position's record is latched. -/
def LatchedIn (s : Trading) (id : PositionId) (reason : CloseReason) (triggers : List ForceSellTrigger) :
    Prop :=
  ∃ r, s.tracker.positions.get? id = some r ∧ LatchedRecord reason triggers r

def Latched (id : PositionId) (reason : CloseReason) (triggers : List ForceSellTrigger) (d : CloseDesk) :
    Prop := LatchedIn d.trading id reason triggers

variable {s : Trading} {r : PositionRecord} {reason : CloseReason} {triggers : List ForceSellTrigger}

theorem Leaving.not_open (h : Leaving r.state) : r.isOpen = false := by
  rcases h with h | h | h | h <;> simp [PositionRecord.isOpen, h]

/-- The trigger phase latches the positions it decides to close. -/
theorem triggerPhase_latches {w : World} {x : CycleInput} (h : s.tracker.positions.get? id = some r)
    (hopen : r.isOpen = true) (hd : x.decision s.evaluator r = some (reason, triggers)) :
    LatchedIn (s.triggerPhase w x).state id reason triggers := by
  obtain ⟨-, ht⟩ := Trading.triggerPhase_spec s w x
  refine ⟨r.decided (some (reason, triggers)) (s.instant w).now, ?_, .inl rfl, rfl, rfl⟩
  rw [ht.positions id, if_neg (by simp), h, Option.map_some, Trading.afterTrigger, if_pos hopen, hd]

/-- Writing the position goes on with the close. -/
theorem latched_put {s' : Trading} (hid : r.positionId = id)
    (hpos : s'.tracker.positions = s.tracker.positions.put r) (h : LatchedRecord reason triggers r) :
    LatchedIn s' id reason triggers := by
  refine ⟨r, ?_, h⟩
  rw [hpos, ← hid]
  exact Lib.Table.get?_put_self _ r

theorem confirmClose_latched (price : ℚ) (rate : Option ℚ) (now : Time)
    (h : s.tracker.positions.get? id = some r) (hl : LatchedRecord reason triggers r) :
    ∃ r', r'.positionId = id ∧ LatchedRecord reason triggers r' ∧
      (s.tracker.confirmClose id price rate now).state.positions = s.tracker.positions.put r' := by
  obtain ⟨hleaving, hreason, htriggers⟩ := hl
  have hkey : r.positionId = id := Lib.Table.key_of_get? h
  obtain ⟨hnone, -⟩ | ⟨u, hu, ⟨-, heq⟩ | ⟨data, heq⟩⟩ :=
    PositionTracker.confirmClose_cases (t := s.tracker) id price rate now
  · rw [h] at hnone
    cases hnone
  · obtain rfl := Option.some.inj (h.symm.trans hu)
    exact ⟨r, hkey, ⟨hleaving, hreason, htriggers⟩, congrArg PositionTracker.positions heq⟩
  · obtain rfl := Option.some.inj (h.symm.trans hu)
    refine ⟨(r.inState .closed).withExit price data now, hkey, ⟨.inr (.inr (.inr rfl)), hreason, htriggers⟩, ?_⟩
    rw [heq, PositionTracker.positions_persist, PositionTracker.positions_write]

theorem closeSold_latched {price rate : ℚ} {now : Time} (h : LatchedIn s id reason triggers) :
    LatchedIn (s.closeSold id price rate now).1 id reason triggers := by
  obtain ⟨r, hr, hl⟩ := h
  obtain ⟨r', hid, hl', hpos⟩ := confirmClose_latched price (some rate) now hr hl
  unfold Trading.closeSold
  dsimp only
  split
  · exact latched_put hid hpos hl'
  · split_ifs
    · exact latched_put hid hpos hl'
    · exact latched_put hid hpos hl'

theorem closeFailed_latched {now : Time} (h : s.tracker.positions.get? id = some r)
    (hl : LatchedRecord reason triggers r) : LatchedIn (s.closeFailed r now).1 id reason triggers := by
  have hkey : r.positionId = id := Lib.Table.key_of_get? h
  unfold Trading.closeFailed
  split
  · exact ⟨r, h, hl⟩
  · rename_i q hq
    obtain ⟨-, rfl⟩ := PositionRecord.transitionTo_eq_ok.mp hq
    have hl' : LatchedRecord reason triggers (r.inState .closeFailed) := ⟨.inr (.inr (.inl rfl)), hl.2⟩
    exact latched_put (s := s) (r := r.inState .closeFailed) hkey rfl hl'

theorem closeFailed_others {k j : PositionId} {now : Time} (hkey : r.positionId = k) (hj : j ≠ k) :
    (s.closeFailed r now).1.tracker.positions.get? j = s.tracker.positions.get? j := by
  unfold Trading.closeFailed
  split
  · rfl
  · rename_i q hq
    obtain ⟨-, rfl⟩ := PositionRecord.transitionTo_eq_ok.mp hq
    exact PositionTracker.get?_write_ne (r := r.inState .closeFailed) (hkey ▸ hj.symm)

/-- A call up to its first await goes on with the close, if no take profit of its position is taken back. -/
theorem closeBegin_goesOn {k : PositionId} {price : ℚ} (h : LatchedIn s id reason triggers)
    (hkeep : ∀ r, s.tracker.positions.get? k = some r → ¬s.Cancels r price) (now : Time) :
    LatchedIn (s.closeBegin k price now).1 id reason triggers := by
  obtain ⟨r, hr, hl⟩ := h
  by_cases hk : id = k
  · subst hk
    by_cases hidle : Trading.isClosing r = false ∨ s.CoolsDown r now
    · rw [Trading.closeBegin_idle hr hidle]
      exact ⟨r, hr, hl⟩
    · rw [not_or, Bool.not_eq_false] at hidle
      obtain ⟨-, -, hsent⟩ := Trading.sent_exits hr hidle.1
      have hl' : LatchedRecord reason triggers (r.inState .closePending) := ⟨.inr (.inl rfl), hl.2⟩
      rw [Trading.closeBegin_sends hr ⟨hidle.1, hidle.2, hkeep r hr⟩]
      split_ifs
      · exact closeSold_latched ⟨_, hsent, hl'⟩
      · exact closeFailed_latched hsent hl'
      · exact ⟨_, hsent, hl'⟩
  · have honly := (Trading.closeBegin_exits s k price now).2.1
    exact ⟨r, (honly id hk).trans hr, hl⟩

/-- **A call up to its first await keeps the latch**: only a take profit is taken back. -/
theorem closeBegin_latched (hne : reason ≠ .takeProfit) (h : LatchedIn s id reason triggers)
    (k : PositionId) (price : ℚ) (now : Time) :
    LatchedIn (s.closeBegin k price now).1 id reason triggers := by
  by_cases hk : id = k
  · subst hk
    refine closeBegin_goesOn h (fun r hr => ?_) now
    obtain ⟨u, hu, hl⟩ := h
    obtain rfl := Option.some.inj (hr.symm.trans hu)
    rintro ⟨-, htp, -⟩
    rw [hl.2.1] at htp
    exact hne (Option.some.inj htp)
  · obtain ⟨r, hr, hl⟩ := h
    have honly := (Trading.closeBegin_exits s k price now).2.1
    exact ⟨r, (honly id hk).trans hr, hl⟩

/-- The end of a sale of another position. -/
theorem latched_of_others {s' : Trading} {k : PositionId} (hk : id ≠ k)
    (hothers : ∀ j, j ≠ k → s'.tracker.positions.get? j = s.tracker.positions.get? j)
    (h : LatchedIn s id reason triggers) : LatchedIn s' id reason triggers := by
  obtain ⟨r, hr, hl⟩ := h
  exact ⟨r, (hothers id hk).trans hr, hl⟩

/-- The end of a call keeps the latch, whatever position it belongs to. -/
theorem closeEnd_latched (h : LatchedIn s id reason triggers) (k : PositionId)
    (reply : Option OrderReply) (now : Time) : LatchedIn (s.closeEnd k reply now).1 id reason triggers := by
  unfold Trading.closeEnd
  cases hu : s.tracker.positions.get? k with
  | none => exact h
  | some u =>
    have hkey : u.positionId = k := Lib.Table.key_of_get? hu
    dsimp only
    cases sellOutcome u reply with
    | error e => exact h
    | ok outcome =>
      by_cases hk : id = k
      · subst hk
        obtain ⟨r, hr, hl⟩ := h
        obtain rfl : u = r := by
          rw [hu] at hr
          exact Option.some.inj hr
        cases outcome with
        | none => exact closeFailed_latched hu hl
        | some sale => exact closeSold_latched ⟨u, hu, hl⟩
      · cases outcome with
        | none => exact latched_of_others hk (fun j hj => closeFailed_others hkey hj) h
        | some sale =>
          exact latched_of_others hk (Trading.closeSold_alone s k sale.1 sale.2 now).others h

theorem sellAnswered_latched (h : LatchedIn s id reason triggers) (k : PositionId)
    (reply : Except PyError (Option OrderReply)) (now : Time) :
    LatchedIn (s.sellAnswered k reply now).1 id reason triggers := by
  cases reply with
  | error e => exact h
  | ok reply => exact closeEnd_latched (s := s.answered (.sell k)) h k reply now

theorem attempt_latched (hne : reason ≠ .takeProfit) (h : Latched id reason triggers d) (c : RetryCall)
    (now : Time) : Latched id reason triggers (d.attempt c now) := by
  unfold attempt
  split_ifs
  · show LatchedIn (d.after _ _).trading id reason triggers
    rw [trading_after]
    exact closeBegin_latched hne h c.id c.currentPrice now
  · exact h

theorem Step.latched {l : Label} (hne : reason ≠ .takeProfit) (hs : Step d l d')
    (h : Latched id reason triggers d) : Latched id reason triggers d' := by
  cases hs with
  | close k price now =>
    show LatchedIn (d.after _ _).trading id reason triggers
    rw [trading_after]
    exact closeBegin_latched hne h k price now
  | closeWithRetry k price maxRetries now => exact attempt_latched hne h _ now
  | wake l₁ l₂ c now hd => exact attempt_latched (d := { d with sleeping := l₁ ++ l₂ }) hne h c now
  | sellReply l₁ l₂ who k reply now hd =>
    show LatchedIn (CloseDesk.after _ _ _).trading id reason triggers
    rw [trading_after]
    exact sellAnswered_latched h k reply now
  | sellLost l₁ l₂ who k hd => exact h
  | fetched l₁ l₂ who k reply now hd =>
    show LatchedIn (CloseDesk.after _ _ _).trading id reason triggers
    rw [trading_after]
    exact h
  | fetchLost l₁ l₂ who k hd => exact h
  | sleepLost l₁ l₂ c hd => exact h

theorem ExitStep.latched (hne : reason ≠ .takeProfit) (hs : ExitStep d l d')
    (h : Latched id reason triggers d) : Latched id reason triggers d' := by
  cases hs with
  | call _ l hcall => exact hcall.latched hne h
  | configure e => exact h
  | piece l e hl hpiece =>
    obtain ⟨r, hr, hlatched⟩ := h
    obtain ⟨w, x, -, heq⟩ | heq := piece_cases hl hpiece
    · refine ⟨r, ?_, hlatched⟩
      show e.trading.tracker.positions.get? id = some r
      rw [heq]
      exact triggerPhase_not_open hr hlatched.1.not_open
    · refine ⟨r, ?_, hlatched⟩
      show e.trading.tracker.positions.get? id = some r
      rw [heq]
      exact hr

/-- **The latch.** A position whose close the trigger phase requests for stop loss or force sell is latched,
and once it is, it never returns to `OPEN_CONFIRMED`, and its reason and trigger set stay what they were,
until it is closed and after. -/
theorem latch {tr : List (Lib.Taken CloseDesk ExitLabel)} (hrun : Lib.Run ExitStep d tr d')
    (hreason : reason = .stopLoss ∨ reason = .forceSell) :
    (∀ x ∈ tr, ∀ w i r, x.label = .piece (.trigger w i) →
      x.pre.trading.tracker.positions.get? id = some r → r.isOpen = true →
      i.decision x.pre.trading.evaluator r = some (reason, triggers) →
      Latched id reason triggers x.post) ∧
    Lib.Stays (Latched id reason triggers) tr := by
  refine ⟨fun x hx w i r hl hr hopen hd => ?_, hrun.stays_iff.mpr fun x hx => ?_⟩
  · have hs := hrun.step_of_mem hx
    rw [hl] at hs
    generalize x.pre = d at hs hr hd
    generalize x.post = d' at hs
    cases hs with
    | piece _ e hkind hpiece =>
      obtain ⟨w', i', hw, he⟩ | hw := piece_cases hkind hpiece
      · obtain ⟨rfl, rfl⟩ := Desk.Label.trigger.inj hw
        show LatchedIn e.trading id reason triggers
        rw [he]
        exact triggerPhase_latches hr hopen hd
      · cases hpiece with
        | trigger => exact triggerPhase_latches hr hopen hd
  · have hne : reason ≠ .takeProfit := by
      rcases hreason with rfl | rfl <;> simp
    exact (hrun.step_of_mem hx).latched hne

/-- The position before its stop loss, and a price below it. -/
def openRecord : PositionRecord := { closingRecord with state := .openConfirmed, closeReason := none }

def oneOpen : CloseDesk where
  trading := { oneClosing.trading with tracker := { positions := Lib.Table.empty.put openRecord } }

def fallen : CycleInput := { prices := Lib.Dict.empty.set "BTC" (4 / 10) }

/-- The trigger phase has seen it. -/
def oneTriggered : CloseDesk where
  trading := (oneOpen.trading.triggerPhase (fun _ => { now := 0 }) fallen).state

/-- The stop loss triggers, its first sell order fails, the price comes back, and the second order is filled: the
reason and the triggers are still those of the first cycle. -/
theorem latch_sold : ∃ tr d', Lib.Run ExitStep oneOpen tr d' ∧
    d'.trading.tracker.positions.records.map PositionRecord.state = [.closed] ∧ Latched 0 .stopLoss [] d' := by
  have hrun : Lib.Run ExitStep oneOpen _ _ := (((((Lib.Run.single
    (show ExitStep oneOpen _ oneTriggered from
      .piece oneOpen (.trigger (fun _ => { now := 0 }) fallen) _ rfl (.trigger _ _ _))).snoc
    (.call _ _ _ (.close _ 0 (4 / 10) 0))).snoc
    (.call _ _ _ (.sellReply _ [] [] .direct 0 (.ok none) 1 (by decide +kernel)))).snoc
    (.piece _ (.trigger (fun _ => { now := 2 }) { prices := Lib.Dict.empty.set "BTC" (6 / 10) }) _ rfl
      (.trigger _ _ _))).snoc
    (.call _ _ _ (.close _ 0 (6 / 10) 3))).snoc
    (.call _ _ _ (.sellReply _ [] [] .direct 0 (.ok (some { status := "matched" })) 4 (by decide +kernel)))
  have hstays : Lib.Stays (Latched 0 .stopLoss []) _ := (latch hrun (.inl rfl)).2
  have hlatched : Latched 0 .stopLoss [] oneTriggered :=
    (latch hrun (.inl rfl)).1 ⟨oneOpen, .piece (.trigger (fun _ => { now := 0 }) fallen), oneTriggered⟩ (by simp) _ fallen openRecord
      rfl (by decide +kernel) rfl (by decide +kernel)
  exact ⟨_, _, hrun, by decide +kernel, hstays [_] ⟨oneTriggered, _, _⟩ _ rfl hlatched _
    (.tail _ (.tail _ (.tail _ (.tail _ (.head _)))))⟩

end CloseDesk

end Polyfast
