import Polyfast.Orchestrator.Desk
import Polyfast.Orchestrator.Restore
import Polyfast.Orchestrator.SettleTurns

/-!
# Positions over their whole life

A `SettleDesk` is a desk with every version of a position there has been; the store holds some of them. A
step is a step of the desk, a close request for any reason, one turn of `process_settlements`, or a start.

* `Step`, `Sound`: the steps, and what every run keeps;
* `get?_closed`: a closed position is never touched again;
* `Step.entries`: what is known of the positions in retry, from what the scans find;
* `processSettlements_reaches`: a whole call of `process_settlements` is a run of its turns.
-/

namespace Polyfast

namespace Desk

/-- The things that the turns of settlement are made of. -/
def Label.isSettlement : Label → Bool
  | resolution _ _ | claim _ _ | redeem _ _ _ | writeRetry _ | dropRetry _ => true
  | _ => false

def Label.isReconcile : Label → Bool
  | reconcile _ => true
  | _ => false

/-- What orders, exits and reconciliation leave alone. -/
structure TradeFrame (s s' : Trading) : Prop where
  settlement : s'.settlement = s.settlement
  trace : AsksOnly s.trace s'.trace
  uuids : s.uuids ≤ s'.uuids

variable {d d' : Desk} {l : Label} {k : PositionId}

theorem orderReply_frame (s : Trading) (i : OrderIntent) (id : PositionId) (reply : Option OrderReply)
    (now : Time) : Trading.OrderFrame s (s.orderReply i id reply now).1 := by
  unfold Trading.orderReply
  cases reply with
  | none => exact Trading.rejectOrder_frame s id _ now
  | some reply =>
    by_cases hmatched : reply.status = "matched"
    · simp only [if_pos hmatched]
      cases reply.feeRate with
      | error e => exact .refl s
      | ok rate =>
        cases reply.amounts with
        | error e => exact .refl s
        | ok amounts =>
          dsimp only
          split <;> exact ⟨rfl, rfl, rfl, rfl, rfl, rfl⟩
    · simp only [if_neg hmatched]
      exact Trading.rejectOrder_frame s id _ now

theorem execute_uuids_le (s : Trading) (i : OrderIntent) (now : Time) : s.uuids ≤ (s.execute i now).1.uuids := by
  by_cases h : s.mayCreate i now
  · rw [Trading.execute_uuids h]
    exact Nat.le_succ s.uuids
  · obtain ⟨x, r, heq, -⟩ := Trading.execute_of_not_mayCreate h
    rw [heq]

theorem tradeFrame_of_exit {s s' : Trading} (h : Trading.ExitFrame s s') : TradeFrame s s' :=
  ⟨h.settlement, h.trace, h.uuids.ge⟩

theorem TradeFrame.refl (s : Trading) : TradeFrame s s := ⟨rfl, .refl _, le_rfl⟩

/-- **What a step outside settlement leaves alone.** -/
theorem Step.tradeFrame (hs : Step d l d') (h : WellFormed d) (hl : l.isSettlement = false) :
    TradeFrame d.trading d'.trading ∧ (l.isReconcile = false → d'.trading.claims = d.trading.claims) := by
  have hexit : ∀ {s : Trading}, Trading.ExitFrame d.trading s →
      TradeFrame d.trading s ∧ (l.isReconcile = false → s.claims = d.trading.claims) :=
    fun he => ⟨tradeFrame_of_exit he, fun _ => he.claims⟩
  cases hs with
  | execute i now =>
    rw [trading_afterExecute]
    have hf := Trading.execute_frame d.trading i now
    exact ⟨⟨hf.settlement, hf.trace ▸ .refl _, execute_uuids_le d.trading i now⟩, fun _ => hf.claims⟩
  | orderReply l₁ l₂ i id reply now hsplit =>
    rw [trading_afterExecute]
    have hf := orderReply_frame d.trading i id reply now
    obtain ⟨r, hr, hpending⟩ := h.ordersPending id (by rw [hsplit]; simp)
    have ht := (Trading.orderReply_touches i reply now hr hpending).1
    exact ⟨⟨hf.settlement, hf.trace ▸ .refl _, ht.uuids.ge⟩, fun _ => hf.claims⟩
  | orderLost l₁ l₂ i id hsplit => exact ⟨.refl _, fun _ => rfl⟩
  | orderFetched l₁ l₂ r reply now hsplit => exact ⟨⟨rfl, .refl _, le_rfl⟩, fun _ => rfl⟩
  | orderFetchLost l₁ l₂ r hsplit => exact ⟨.refl _, fun _ => rfl⟩
  | cycle => exact ⟨⟨rfl, .refl _, le_rfl⟩, fun _ => rfl⟩
  | trigger w x => exact hexit (Trading.triggerPhase_frame d.trading w x)
  | close id price now =>
    rw [trading_afterClose]
    exact hexit (Trading.closeBegin_frame d.trading id price now)
  | sellReply l₁ l₂ id reply now hsplit =>
    rw [trading_afterClose]
    exact hexit (Trading.sellAnswered_frame d.trading id reply now)
  | sellLost l₁ l₂ id hsplit => exact ⟨.refl _, fun _ => rfl⟩
  | sellFetched l₁ l₂ id reply now hsplit =>
    exact ⟨⟨rfl, .single _ fun _ => rfl, le_rfl⟩, fun _ => rfl⟩
  | sellFetchLost l₁ l₂ id hsplit => exact ⟨.refl _, fun _ => rfl⟩
  | reconcile w =>
    refine ⟨⟨?_, ?_, (Trading.reconcileExternal_frame w d.trading).uuids⟩, fun hr => by cases hr⟩
    · exact Trading.reconcileExternal_preserves (I := fun t => t.settlement = d.trading.settlement) w
        (fun t c _ ht => (Trading.reconcileOne_settlement _ t c).trans ht) rfl
    · refine Trading.reconcileExternal_preserves (I := fun t => AsksOnly d.trading.trace t.trace) w
        (fun t c _ ht => ?_) (.refl _)
      unfold Trading.reconcileOne
      split_ifs
      · exact ht
      · exact ht
  | resolution w c => cases hl
  | claim p now => cases hl
  | redeem w p id => cases hl
  | writeRetry r => cases hl
  | dropRetry id => cases hl

/-! ### Closed positions -/

/-- The position, if there is one, is closed. -/
def IsClosedAt (t : PositionTracker) (k : PositionId) : Prop :=
  ∀ r, t.positions.get? k = some r → r.state = .closed

theorem quiet_closed {t t' : PositionTracker} (hq : QuietMove t t') (h : IsClosedAt t k) :
    t'.positions.get? k = t.positions.get? k := by
  have hput : ∀ {r r' : PositionRecord}, t.positions.get? r'.positionId = some r → r.state ≠ .closed →
      t'.positions = t.positions.put r' → t'.positions.get? k = t.positions.get? k := by
    intro r r' hold hne hpos
    rw [hpos]
    refine Lib.Table.get?_put_ne _ fun heq => hne ?_
    exact h r (heq ▸ hold)
  cases hq with
  | fill r r' hold hstate _ _ _ hpos _ => exact hput hold (by simp [hstate]) hpos
  | reject r r' hold hstate _ _ _ hpos _ => exact hput hold (by simp [hstate]) hpos
  | exit he =>
    cases he with
    | exit r r' hold hexposed _ _ _ hpos _ => exact hput hold (PositionRecord.holdsExposure_iff.mp hexposed).2 hpos
    | same hpos _ => rw [hpos]

theorem quiets_closed {t t' : PositionTracker} (hq : QuietMoves t t') (h : IsClosedAt t k) :
    t'.positions.get? k = t.positions.get? k := by
  induction hq with
  | refl => rfl
  | tail _ hm ih =>
    rw [quiet_closed hm, ih]
    intro r hr
    rw [ih] at hr
    exact h r hr

/-- **Closed positions stay as they are**, and identifiers that were drawn without a position get none. -/
theorem Effect.get?_closed (he : Effect d l d') (h : IsClosedAt d.trading.tracker k)
    (hk : k ≠ d.trading.uuids) : d'.trading.tracker.positions.get? k = d.trading.tracker.positions.get? k := by
  cases he with
  | create i now t _ _ hc hq =>
    have hget : t.positions.get? k = d.trading.tracker.positions.get? k := by
      rw [hc.positions]
      exact Lib.Table.get?_put_ne _ fun heq => hk heq.symm
    rw [quiets_closed hq, hget]
    intro r hr
    rw [hget] at hr
    exact h r hr
  | quiet _ hq => exact quiets_closed hq h

end Desk

/-- A desk and the versions of its positions. -/
structure SettleDesk where
  desk : Desk
  history : List PositionRecord := []

namespace SettleDesk

variable (d : SettleDesk)

def trading : Trading := d.desk.trading

/-- The desk in a new state. -/
def after (e : Desk) : SettleDesk := ⟨e, d.history ++ e.trading.tracker.positions.records⟩

/-- The desk with its execution layer in a new state. -/
def afterTurn (s : Trading) : SettleDesk := d.after (d.desk.withTrading s)

/-- The desk after a start: what was suspended is gone. -/
def afterStart (s : Trading) : SettleDesk := d.after { trading := s }

inductive Label
  | trade (l : Desk.Label)
  | requestClose (id : PositionId) (reason : CloseReason) (triggers : List ForceSellTrigger) (now : Time)
  | retry (w : World) (id : PositionId)
  | drop (id : PositionId)
  | scan (w : World) (p : PositionRecord)
  | startAgain (ps : List PositionRecord) (cs : List ClaimRecord) (now : Time)
  | restart (ps : List PositionRecord) (cs : List ClaimRecord) (now : Time)

/-- Not a start. -/
def Label.inProcess : Label → Bool
  | startAgain _ _ _ | restart _ _ _ => false
  | _ => true

/-- A turn of `process_settlements`. -/
def Label.isTurn : Label → Bool
  | retry _ _ | drop _ | scan _ _ => true
  | _ => false

/-- One step between awaits. A stop has written every record, so the next start in the same process loads
what there was; a new process loads what it finds. -/
inductive Step : SettleDesk → Label → SettleDesk → Prop
  | trade (d : SettleDesk) (l : Desk.Label) (e : Desk) (hl : l.isSettlement = false) (h : Desk.Step d.desk l e) :
      Step d (.trade l) (d.after e)
  | requestClose (d : SettleDesk) (id : PositionId) (reason : CloseReason) (triggers : List ForceSellTrigger)
      (now : Time) : Step d (.requestClose id reason triggers now)
        (d.afterTurn (d.trading.requestClose id reason triggers now).state)
  | retry (d : SettleDesk) (w : World) (id : PositionId) :
      Step d (.retry w id) (d.afterTurn (d.trading.retryOne w id).state)
  | drop (d : SettleDesk) (id : PositionId) (h : d.trading.RetryOver id) :
      Step d (.drop id) (d.afterTurn (d.trading.dropRetry id))
  | scan (d : SettleDesk) (w : World) (p : PositionRecord)
      (h : d.trading.tracker.positions.get? p.positionId = some p) (hr : p.isRedeemable = true) :
      Step d (.scan w p) (d.afterTurn (d.trading.scanOne w p).state)
  | startAgain (d : SettleDesk) (ps : List PositionRecord) (cs : List ClaimRecord) (now : Time)
      (hnodup : (ps.map PositionRecord.positionId).Nodup)
      (h : ∀ p ∈ ps, d.trading.tracker.positions.get? p.positionId = some p) :
      Step d (.startAgain ps cs now) (d.afterStart (d.trading.startAgain ps cs now))
  | restart (d : SettleDesk) (ps : List PositionRecord) (cs : List ClaimRecord) (now : Time)
      (hnodup : (ps.map PositionRecord.positionId).Nodup) (h : ∀ p ∈ ps, p ∈ d.history) :
      Step d (.restart ps cs now) (d.afterStart (d.trading.restart ps cs now))

/-- Nothing has happened yet. -/
structure Fresh (d : SettleDesk) : Prop where
  desk : Desk.Fresh d.desk
  retryStates : d.trading.settlement.retryStates = .empty
  history : d.history = []

/-- What is known of every version of a position. -/
def Known (uuids : ℕ) (r : PositionRecord) : Prop :=
  r.positionId < uuids ∧ (r.state = .pendingOpen → r.openedAt = none) ∧
    (r.holdsExposure = true → r.openedAt.isSome = true)

/-- A position in retry is closed and as `Q` says. -/
def Entries (Q : PositionRecord → Prop) (d : SettleDesk) : Prop :=
  ∀ id r, d.trading.settlement.retryStates.get? id = some r → id < d.trading.uuids ∧
    ∀ p, d.trading.tracker.positions.get? id = some p → p.state = .closed ∧ Q p

/-- What every run keeps. -/
structure Sound (d : SettleDesk) : Prop where
  desk : Desk.WellFormed d.desk
  known : ∀ r ∈ d.history, Known d.trading.uuids r

variable {d d' : SettleDesk} {l : Label} {Q : PositionRecord → Prop}

theorem Fresh.sound (h : Fresh d) : Sound d where
  desk := h.desk.wellFormed
  known r hr := by
    rw [h.history] at hr
    cases hr

theorem Fresh.entries (h : Fresh d) : Entries Q d := by
  intro id r hr
  rw [h.retryStates] at hr
  cases hr

/-- The records of a well-formed desk are known. -/
theorem known_records {e : Desk} (h : Desk.WellFormed e) {r : PositionRecord}
    (hr : r ∈ e.trading.tracker.positions.records) : Known e.trading.uuids r := by
  have hget := Lib.Table.mem_records.mp hr
  exact ⟨h.fresh _ r hget, h.coherent _ r hget⟩

theorem Known.mono {n m : ℕ} {r : PositionRecord} (h : Known n r) (hle : n ≤ m) : Known m r :=
  ⟨h.1.trans_le hle, h.2⟩

theorem Sound.after (h : Sound d) {e : Desk} (hwf : Desk.WellFormed e) (hu : d.trading.uuids ≤ e.trading.uuids) :
    Sound (d.after e) where
  desk := hwf
  known r hr := by
    rcases List.mem_append.mp hr with hr | hr
    · exact (h.known r hr).mono hu
    · exact known_records hwf hr

/-- Loaded records: each is what a start makes of a stored one. -/
theorem mem_loaded {t : PositionTracker} {ps : List PositionRecord} {now : Time} {k : PositionId}
    {r : PositionRecord} (ht : t.positions = .empty) (hnodup : (ps.map PositionRecord.positionId).Nodup)
    (hk : (t.restoreAll ps now).positions.get? k = some r) :
    ∃ p ∈ ps, p.positionId = k ∧ r = PositionTracker.restored now p := by
  by_cases hmem : k ∈ ps.map PositionRecord.positionId
  · obtain ⟨p, hp, rfl⟩ := List.mem_map.mp hmem
    rw [PositionTracker.get?_restoreAll hnodup hp] at hk
    exact ⟨p, hp, rfl, (Option.some.inj hk).symm⟩
  · rw [PositionTracker.get?_restoreAll_notMem hmem, ht] at hk
    cases hk

/-- A start leaves a well-formed desk. -/
theorem start_wellFormed {t : PositionTracker} {s : Trading} {ps : List PositionRecord} {now : Time}
    (ht : t.positions = .empty) (hnodup : (ps.map PositionRecord.positionId).Nodup)
    (htracker : s.tracker = t.restoreAll ps now) (hps : ∀ p ∈ ps, Known s.uuids p) :
    Desk.WellFormed { trading := s } where
  fresh k r hk := by
    rw [show ({ trading := s } : Desk).trading.tracker = _ from htracker] at hk
    obtain ⟨p, hp, rfl, -⟩ := mem_loaded ht hnodup hk
    exact (hps p hp).1
  coherent k r hk := by
    rw [show ({ trading := s } : Desk).trading.tracker = _ from htracker] at hk
    obtain ⟨p, hp, -, rfl⟩ := mem_loaded ht hnodup hk
    by_cases hs : p.state = .pendingOpen
    · rw [PositionTracker.restored, if_pos hs]
      exact ⟨(fun hstate => by cases hstate), fun hexposed => by cases hexposed⟩
    · rw [PositionTracker.restored, if_neg hs]
      exact (hps p hp).2
  ordersNodup := List.nodup_nil
  ordersPending id hid := absurd hid List.not_mem_nil
  sellsNodup := List.nodup_nil
  sellsPending id hid := absurd hid List.not_mem_nil

theorem withTrading_frame (h : Desk.WellFormed d.desk) {s : Trading} (hf : Trading.SettleFrame d.trading s) :
    Desk.WellFormed (d.desk.withTrading s) :=
  h.frame hf.tracker hf.uuids (List.Sublist.refl _) (List.Sublist.refl _)

theorem requestClose_wellFormed (h : Desk.WellFormed d.desk) (id : PositionId) (reason : CloseReason)
    (triggers : List ForceSellTrigger) (now : Time) :
    Desk.WellFormed (d.desk.withTrading (d.trading.requestClose id reason triggers now).state) := by
  refine h.exits (Trading.requestClose_exits id reason triggers now) rfl ⟨h.sellsNodup, fun k hk => ?_⟩
  obtain ⟨r, hr, hs⟩ := h.sellsPending k hk
  exact ⟨r, Trading.requestClose_keepsSells id reason triggers now k r hr hs, hs⟩

/-- **Every step keeps the desk sound.** -/
theorem Sound.step (h : Sound d) (hs : Step d l d') : Sound d' := by
  cases hs with
  | trade l e hl hst =>
    exact h.after (h.desk.step hst).1 (hst.tradeFrame h.desk hl).1.uuids
  | requestClose id reason triggers now =>
    exact h.after (requestClose_wellFormed h.desk id reason triggers now)
      (Trading.requestClose_exits id reason triggers now).uuids.ge
  | retry w id =>
    have hf := Trading.retryOne_frame d.trading w id
    exact h.after (withTrading_frame h.desk hf) hf.uuids
  | drop id hover => exact h.after (withTrading_frame h.desk ⟨rfl, rfl, rfl, rfl, le_rfl⟩) le_rfl
  | scan w p hp hr =>
    have hf := Trading.scanOne_frame d.trading w p
    exact h.after (withTrading_frame h.desk hf) hf.uuids
  | startAgain ps cs now hnodup hps =>
    have hknown : ∀ p ∈ ps, Known d.trading.uuids p :=
      fun p hp => known_records h.desk (Lib.Table.mem_records.mpr (hps p hp))
    exact h.after (start_wellFormed (t := d.trading.tracker.reset) rfl hnodup rfl hknown) le_rfl
  | restart ps cs now hnodup hps =>
    have hknown : ∀ p ∈ ps, Known d.trading.uuids p := fun p hp => h.known p (hps p hp)
    exact h.after (start_wellFormed (t := d.trading.rewired.tracker) rfl hnodup rfl hknown) le_rfl

/-! ### Positions in retry -/

/-- A step after which the entries are old ones keeps what is known of them. -/
theorem Entries.keep (h : Entries Q d) {e : Desk} (hu : d.trading.uuids ≤ e.trading.uuids)
    (hentries : ∀ id r, e.trading.settlement.retryStates.get? id = some r →
      ∃ u, d.trading.settlement.retryStates.get? id = some u)
    (hpos : ∀ id, id < d.trading.uuids → Desk.IsClosedAt d.trading.tracker id →
      ∀ p, e.trading.tracker.positions.get? id = some p → d.trading.tracker.positions.get? id = some p) :
    Entries Q (d.after e) := by
  intro id r hr
  obtain ⟨u, hu'⟩ := hentries id r hr
  obtain ⟨hlt, hall⟩ := h id u hu'
  exact ⟨hlt.trans_le hu, fun p hp => hall p (hpos id hlt (fun q hq => (hall q hq).1) p hp)⟩

theorem retryOne_entries (s : Trading) (w : World) (id j : PositionId) {r : SettlementRetryState}
    (hr : (s.retryOne w id).state.settlement.retryStates.get? j = some r) :
    ∃ u, s.settlement.retryStates.get? j = some u := by
  by_cases hj : id = j
  · subst hj
    rcases Trading.retryOne_cases s w id with ⟨-, ha⟩ | ⟨-, u, ok, hu, -⟩
    · obtain ⟨u, hu, -⟩ := ha.retries id r hr
      exact ⟨u, hu⟩
    · exact ⟨u, hu⟩
  · rw [Trading.retryOne_entry_ne hj] at hr
    exact ⟨r, hr⟩

/-- **Positions in retry** are closed and as the scans found them. -/
theorem Step.entries (hs : Step d l d') (hd : Sound d) (h : Entries Q d)
    (hscan : ∀ w p, l = .scan w p → d.trading.ScanDue w p → Q p) : Entries Q d' := by
  cases hs with
  | trade l e hl hst =>
    obtain ⟨hf, -⟩ := hst.tradeFrame hd.desk hl
    refine h.keep hf.uuids (fun id r hr => ⟨r, by rw [← hr, hf.settlement]; rfl⟩) fun id hlt hclosed p hp => ?_
    rw [← hp]
    exact ((hd.desk.step hst).2.1.get?_closed hclosed hlt.ne).symm
  | requestClose id reason triggers now =>
    have he := Trading.requestClose_exits (s := d.trading) id reason triggers now
    refine h.keep he.uuids.ge (fun k r hr => ⟨r, ?_⟩) fun k hlt hclosed p hp => ?_
    · rw [← hr]
      show _ = (d.trading.requestClose id reason triggers now).state.settlement.retryStates.get? k
      rw [Trading.requestClose_state]
      rfl
    · rw [← hp]
      exact (Desk.quiets_closed (PositionTracker.ExitMoves.quiet he.moves) hclosed).symm
  | retry w id =>
    have hf := Trading.retryOne_frame d.trading w id
    refine h.keep hf.uuids (fun j r hr => retryOne_entries d.trading w id j hr) fun j _ _ p hp => ?_
    rw [← hp]
    exact congrArg (·.positions.get? j) hf.tracker.symm
  | drop id hover =>
    refine h.keep le_rfl (fun j r hr => ⟨r, ?_⟩) fun j _ _ p hp => hp
    have hget : (d.trading.dropRetry id).settlement.retryStates.get? j = some r := hr
    rw [Trading.get?_dropRetry] at hget
    split_ifs at hget
    exact hget
  | scan w p hp hr =>
    have hf := Trading.scanOne_frame d.trading w p
    rcases Trading.scanOne_cases d.trading w p with ⟨-, ha⟩ | ⟨hdue, hlt, ok, ht⟩
    · refine h.keep hf.uuids (fun j r hj => ?_) fun j _ _ q hq => ?_
      · obtain ⟨u, hu, -⟩ := ha.retries j r hj
        exact ⟨u, hu⟩
      · rw [← hq]
        exact congrArg (·.positions.get? j) hf.tracker.symm
    · intro j r hj
      have hsame : ∀ q, (d.trading.scanOne w p).state.tracker.positions.get? j = some q →
          d.trading.tracker.positions.get? j = some q := by
        intro q hq
        rw [← hq, hf.tracker]
      rcases ht.retries j r hj with ⟨u, hu, -⟩ | ⟨rfl, -⟩
      · obtain ⟨hlt', hall⟩ := h j u hu
        exact ⟨hlt'.trans_le hf.uuids, fun q hq => hall q (hsame q hq)⟩
      · refine ⟨(hd.desk.fresh _ p hp).trans_le hf.uuids, fun q hq => ?_⟩
        obtain rfl := Option.some.inj (hp.symm.trans (hsame q hq))
        simp only [PositionRecord.isRedeemable, Bool.and_eq_true, PositionRecord.isClosed, decide_eq_true_eq] at hr
        exact ⟨hr.1.1, hscan w p rfl hdue⟩
  | startAgain ps cs now hnodup hps =>
    refine h.keep le_rfl (fun j r hr => ⟨r, hr⟩) fun j _ hclosed p hp => ?_
    obtain ⟨q, hq, rfl, rfl⟩ := mem_loaded (t := d.trading.tracker.reset) rfl hnodup hp
    have hstate := hclosed q (hps q hq)
    rw [PositionTracker.restored, if_neg (by simp [hstate])]
    exact hps q hq
  | restart ps cs now hnodup hps =>
    intro j r hr
    cases hr

/-! ### A call as a run -/

/-- Steps of the allowed kind lead from `d` to a state of its execution layer. -/
def Reaches (allow : Label → Prop) (d : SettleDesk) (s : Trading) : Prop :=
  ∃ (tr : List (Lib.Taken SettleDesk Label)) (u : SettleDesk), Lib.Run Step d tr u ∧ u.trading = s ∧
    ∀ x ∈ tr, allow x.label

section Reaches

variable {allow : Label → Prop} {s s' : Trading}

theorem Reaches.refl (allow : Label → Prop) (d : SettleDesk) : Reaches allow d d.trading :=
  ⟨[], d, .nil d, rfl, by simp⟩

theorem Reaches.snoc (h : Reaches allow d s) (hl : allow l)
    (hst : ∀ u : SettleDesk, u.trading = s → Step u l (u.afterTurn s')) : Reaches allow d s' := by
  obtain ⟨tr, u, hrun, htrading, hall⟩ := h
  refine ⟨_, u.afterTurn s', hrun.snoc (hst u htrading), rfl, ?_⟩
  rw [List.forall_mem_append, List.forall_mem_singleton]
  exact ⟨hall, hl⟩

/-- **A call of `process_settlements` is a run of its turns.** -/
theorem processSettlements_reaches (w : World) (hretry : ∀ id, allow (.retry w id))
    (hdrop : ∀ id, allow (.drop id)) (hscan : ∀ p, allow (.scan w p)) (h : Reaches allow d s) :
    Reaches allow d (s.processSettlements w).state :=
  Trading.processSettlements_turns
    (fun _ id ht => ht.snoc (hretry id) fun u hu => hu ▸ .retry u w id)
    (fun _ id ht hover => ht.snoc (hdrop id) fun u hu => hu ▸ .drop u id (hu ▸ hover))
    (fun _ p ht hp hr => ht.snoc (hscan p) fun u hu => hu ▸ .scan u w p (hu ▸ hp) hr) h

end Reaches

/-! ### Desks to start from -/

/-- A live desk with ten dollars. -/
def liveDesk : SettleDesk where
  desk := { trading := { executor := { mode := .live }
                         exitExecutor := { paperMode := false }
                         claims := { paperMode := false }
                         settlement := { paperMode := false }
                         balance := { available := 10, total := 10, updatedAt := some 0 } } }

theorem liveDesk_fresh : Fresh liveDesk := ⟨⟨rfl, rfl, rfl, rfl⟩, rfl, rfl⟩

/-- A paper desk with ten dollars. -/
def paperDesk : SettleDesk := ⟨Desk.startDesk .paper 3, []⟩

theorem paperDesk_fresh : Fresh paperDesk := ⟨Desk.startDesk_fresh .paper 3, rfl, rfl⟩

/-- One dollar is spent on an event. -/
def bought : SettleDesk :=
  paperDesk.after (paperDesk.desk.afterExecute (Desk.orderFor "event")
    (paperDesk.trading.execute (Desk.orderFor "event") 0))

/-- The close of the position is requested because its event ends. -/
def expiring : SettleDesk := bought.afterTurn (bought.trading.requestClose 0 .expiry [] 300).state

/-- It is sold. -/
def soldOnExpiry : SettleDesk := expiring.after (expiring.desk.afterClose (expiring.trading.closeBegin 0 (1 / 2) 300))

/-- The sold position. -/
def soldRecord : PositionRecord :=
  (soldOnExpiry.trading.tracker.positions.get? 0).get (by decide +kernel)

/-- Its side has won. -/
def upWon : World := fun _ =>
  { now := 600, resolution := { closed := true, resolved := true, winningSide := "UP" } }

/-- Settlement finds it. -/
def paidTwice : SettleDesk := soldOnExpiry.afterTurn (soldOnExpiry.trading.scanOne upWon soldRecord).state

/-- The steps from the order to the payout. -/
def expirySteps : List (Lib.Taken SettleDesk Label) :=
  [⟨paperDesk, .trade (.execute (Desk.orderFor "event") 0), bought⟩,
   ⟨bought, .requestClose 0 .expiry [] 300, expiring⟩,
   ⟨expiring, .trade (.close 0 (1 / 2) 300), soldOnExpiry⟩,
   ⟨soldOnExpiry, .scan upWon soldRecord, paidTwice⟩]

theorem expiry_run : Lib.Run Step paperDesk expirySteps paidTwice := by
  have hbuy : Step paperDesk (.trade (.execute (Desk.orderFor "event") 0)) bought :=
    .trade paperDesk _ _ rfl (.execute paperDesk.desk (Desk.orderFor "event") 0)
  have hrequest : Step bought (.requestClose 0 .expiry [] 300) expiring := .requestClose bought 0 .expiry [] 300
  have hsell : Step expiring (.trade (.close 0 (1 / 2) 300)) soldOnExpiry :=
    .trade expiring _ _ rfl (.close expiring.desk 0 (1 / 2) 300)
  have hscan : Step soldOnExpiry (.scan upWon soldRecord) paidTwice :=
    .scan soldOnExpiry upWon soldRecord (by decide +kernel) (by decide +kernel)
  exact (((Lib.Run.single hbuy).snoc hrequest).snoc hsell).snoc hscan

end SettleDesk

end Polyfast
