import Polyfast.Lib.Run
import Polyfast.Execution.OrderExecutor
import Polyfast.Orchestrator.CycleEffect
import Polyfast.Orchestrator.ExitPrices
import Polyfast.Orchestrator.Restore

/-!
# The prices at which a cycle sells

In paper mode a cycle sells at the price of its dictionary, and a price that is missing there is 0. The
trigger phase skips positions without a price; the close phase does not.

* `WillSell`, `afterCycle_closed`: which positions a cycle closes, and at which price;
* `positive_sales_iff`: when every sale of a `run_cycle` has a positive price of the dictionary;
* `supplied_sales_iff`: when every sale of the exit loop is at the position's held-side bid, in every
  run with restarts.
-/

namespace Polyfast

namespace Trading

variable {s s' : Trading} {x : CycleInput} {now : Time} {r : PositionRecord}

/-- A cycle sells the position: it is closing and nothing holds up the sale, or it is open and the trigger
phase asks for a close. -/
def WillSell (s : Trading) (x : CycleInput) (now : Time) (r : PositionRecord) : Prop :=
  s.Sends r (x.price r) now ∨ r.isOpen = true ∧ (x.decision s.evaluator r).isSome = true

instance (s : Trading) (x : CycleInput) (now : Time) (r : PositionRecord) :
    Decidable (s.WillSell x now r) := inferInstanceAs (Decidable (_ ∨ _))

/-- Force sell never asks for a take profit. -/
theorem forceDecision_ne_takeProfit {e : ExitEvaluator} {fresh : Bool}
    {triggers : List ForceSellTrigger} :
    x.forceDecision e r fresh ≠ some (.takeProfit, triggers) := by
  unfold CycleInput.forceDecision
  dsimp only
  split_ifs <;> simp

/-- A take profit is asked for at a PnL that reaches it. -/
theorem decision_takeProfit {e : ExitEvaluator} {triggers : List ForceSellTrigger}
    (h : x.decision e r = some (.takeProfit, triggers)) :
    e.tpPct ≤ ExitEvaluator.pnlPct r (x.price r) := by
  unfold CycleInput.decision at h
  dsimp only at h
  split_ifs at h with _ _ hexit
  · exact absurd h forceDecision_ne_takeProfit
  · rcases ExitEvaluator.evaluate_reason hexit with ⟨-, hpct⟩ | hr
    · exact hpct
    · rw [hr] at h
      simp at h
  · exact absurd h forceDecision_ne_takeProfit

/-- What the trigger phase asks for is not held up in the same cycle. -/
theorem decided_sends (now : Time) {reason : CloseReason} {triggers : List ForceSellTrigger}
    (h : x.decision s.evaluator r = some (reason, triggers)) :
    s.Sends (r.decided (some (reason, triggers)) now) (x.price r) now := by
  refine ⟨rfl, fun hcool => ?_, fun hcancel => ?_⟩
  · cases hcool.1
  · obtain ⟨-, hreason, hcancel⟩ := hcancel
    obtain rfl : reason = .takeProfit := Option.some.inj hreason
    have hpct := decision_takeProfit h
    have hsame : ExitEvaluator.pnlPct (r.decided (some (.takeProfit, triggers)) now) (x.price r) =
        ExitEvaluator.pnlPct r (x.price r) := rfl
    unfold ExitEvaluator.shouldCancelClose at hcancel
    rw [hsame] at hcancel
    split_ifs at hcancel
    exact absurd (of_decide_eq_true hcancel) (not_lt.mpr hpct)

/-- **Which positions a cycle closes**, and at which price. -/
theorem afterCycle_closed (hr : r.state ≠ .closed) :
    ((s.afterCycle x now r).state = .closed ↔ s.WillSell x now r) ∧
      (s.WillSell x now r → (s.afterCycle x now r).exitFillPrice = x.price r) := by
  by_cases hopen : r.isOpen = true
  · have hstate := PositionRecord.isOpen_iff.mp hopen
    have hnot : ¬s.Sends r (x.price r) now := by
      rintro ⟨hc, -⟩
      simp [isClosing, hstate] at hc
    have hnot' : ¬s.Cancels r (x.price r) := by
      rintro ⟨hc, -⟩
      simp [hstate] at hc
    cases hd : x.decision s.evaluator r with
    | none =>
      have hsame : s.afterCycle x now r = r := by
        rw [afterCycle, afterTrigger, if_pos hopen, hd, afterClose]
        exact (if_neg hnot).trans (if_neg hnot')
      have hkeep : ¬s.WillSell x now r := by
        rintro (h | ⟨-, h⟩)
        · exact hnot h
        · rw [hd] at h
          cases h
      rw [hsame]
      exact ⟨iff_of_false hr hkeep, fun h => absurd h hkeep⟩
    | some d =>
      obtain ⟨reason, triggers⟩ := d
      have hsends := decided_sends now hd
      have hsold : s.afterCycle x now r = PositionTracker.sold
          (r.decided (some (reason, triggers)) now) (x.price r) defaultCryptoFeeRate now := by
        rw [afterCycle, afterTrigger, if_pos hopen, hd, afterClose]
        exact if_pos hsends
      rw [hsold]
      exact ⟨iff_of_true rfl (.inr ⟨hopen, by rw [hd]; rfl⟩), fun _ => rfl⟩
  · have htrigger : s.afterTrigger x now r = r := if_neg hopen
    have hsell : s.WillSell x now r ↔ s.Sends r (x.price r) now :=
      or_iff_left fun h => hopen h.1
    rw [afterCycle, htrigger, afterClose, hsell]
    split_ifs with hsends hcancels
    · exact ⟨iff_of_true rfl hsends, fun _ => rfl⟩
    · exact ⟨iff_of_false (by simp [PositionRecord.cancelClose]) hsends, fun h => absurd h hsends⟩
    · exact ⟨iff_of_false hr hsends, fun h => absurd h hsends⟩

/-- The positions that a step closed. -/
def Closes (s s' : Trading) (r r' : PositionRecord) : Prop :=
  s.tracker.positions.get? r.positionId = some r ∧ r.state ≠ .closed ∧
    s'.tracker.positions.get? r.positionId = some r' ∧ r'.state = .closed

/-- The positions a cycle in paper mode closes, and the price. -/
theorem runCycle_closes (w : World) (hmode : s.exitExecutor.paperMode = true) (r' : PositionRecord) :
    Closes s (s.runCycle w x).state r r' ↔
      s.tracker.positions.get? r.positionId = some r ∧ r.state ≠ .closed ∧
        s.WillSell x (s.instant w).now r ∧ r' = s.afterCycle x (s.instant w).now r := by
  unfold Closes
  rw [runCycle_positions s w x hmode]
  constructor
  · rintro ⟨hget, hopen, hget', hclosed⟩
    rw [hget, Option.map_some] at hget'
    obtain rfl := Option.some.inj hget'
    exact ⟨hget, hopen, (afterCycle_closed hopen).1.mp hclosed, rfl⟩
  · rintro ⟨hget, hopen, hsell, rfl⟩
    exact ⟨hget, hopen, by rw [hget, Option.map_some], (afterCycle_closed hopen).1.mpr hsell⟩

/-- **Sales at the prices of the dictionary.** A cycle in paper mode sells at positive prices of its
dictionary, and at nothing else, exactly when the positions that were closing already and are not held up
have one. -/
theorem positive_sales_iff (w : World) (hmode : s.exitExecutor.paperMode = true) :
    (∀ r r', Closes s (s.runCycle w x).state r r' →
      x.prices.get? r.asset = some r'.exitFillPrice ∧ 0 < r'.exitFillPrice) ↔
    ∀ k r, s.tracker.positions.get? k = some r → s.Sends r (x.price r) (s.instant w).now →
      0 < x.price r := by
  constructor
  · intro h k r hget hsends
    have hkey : r.positionId = k := Lib.Table.key_of_get? hget
    have hopen : r.state ≠ .closed := by
      rcases isClosing_iff.mp hsends.1 with hs | hs <;> simp [hs]
    have hsell : s.WillSell x (s.instant w).now r := .inl hsends
    have hpos := (h r _ ((runCycle_closes w hmode _).mpr
      ⟨by rw [hkey]; exact hget, hopen, hsell, rfl⟩)).2
    rw [(afterCycle_closed hopen).2 hsell] at hpos
    exact hpos
  · intro h r r' hcloses
    obtain ⟨hget, hopen, hsell, rfl⟩ := (runCycle_closes w hmode r').mp hcloses
    rw [(afterCycle_closed hopen).2 hsell]
    have hpos : 0 < x.price r := by
      rcases hsell with hsends | ⟨-, hdecides⟩
      · exact h _ r hget hsends
      · by_contra hle
        rw [CycleInput.decision, if_pos (not_lt.mp hle)] at hdecides
        cases hdecides
    refine ⟨?_, hpos⟩
    unfold CycleInput.price Lib.Dict.getD at hpos ⊢
    cases hprice : x.prices.get? r.asset with
    | none =>
      rw [hprice] at hpos
      exact absurd hpos (lt_irrefl 0)
    | some price => rfl

end Trading

/-! ### The exit loop over whole runs -/

/-- What happens to the execution layer in paper mode: orders, turns of the exit loop, restarts. -/
inductive PaperTurn
  | execute (i : OrderIntent) (now : Time)
  | exitCycle (w : World) (m : Market)
  | startAgain (ps : List PositionRecord) (cs : List ClaimRecord) (now : Time)
  | restart (ps : List PositionRecord) (cs : List ClaimRecord) (now : Time)

namespace Trading

/-- The state after a turn. -/
def after (s : Trading) : PaperTurn → Trading
  | .execute i now => (s.execute i now).1
  | .exitCycle w m => s.exitCycle w m
  | .startAgain ps cs now => s.startAgain ps cs now
  | .restart ps cs now => s.restart ps cs now

/-- A turn as a step. -/
def Turns (s : Trading) (l : PaperTurn) (s' : Trading) : Prop := s' = s.after l

variable {s s' : Trading}

theorem turns_paperMode {l : PaperTurn} (h : s.exitExecutor.paperMode = true) (hs : Turns s l s') :
    s'.exitExecutor.paperMode = true := by
  obtain rfl := hs
  cases l with
  | execute i now => exact (congrArg ExitExecutor.paperMode (execute_frame s i now).exitExecutor).trans h
  | exitCycle w m => exact (runCycle_paperMode s w _).trans h
  | startAgain ps cs now => exact h
  | restart ps cs now => exact h

/-- What the collection hands to the cycle. -/
def collected (s : Trading) (w : World) (m : Market) : CycleInput :=
  (m.collectPrices (s.instant w).now s.tracker.getAllPositions).2

/-- The collection has handed over the price for the position's asset, and it is the held-side bid that the record of
the position's own event shows, a positive one. -/
structure Supplied (s : Trading) (w : World) (m : Market) (r : PositionRecord) (price : ℚ) : Prop where
  collected : (s.collected w m).prices.get? r.asset = some price
  own : (m.ownRecord r).map (·.bid r.side) = some price
  positive : 0 < price

/-- An open position has the position's asset, and the record found for that asset shows on the side of the last of
them the bid that the record of the position's own event shows on its own side, a positive one. -/
def PriceAtHand (s : Trading) (m : Market) (now : Time) (r : PositionRecord) : Prop :=
  ∃ q, Market.lastOpen s.tracker.getAllPositions r.asset = some q ∧
    Market.bidOf (m.selected now r.asset) q.side = Market.bidOf (m.ownRecord r) r.side ∧
    0 < Market.bidOf (m.ownRecord r) r.side

/-- A record with a positive bid is there. -/
theorem map_bid_of_pos {rec : Option LivePriceRecord} {side : OrderSide} (h : 0 < Market.bidOf rec side) :
    rec.map (·.bid side) = some (Market.bidOf rec side) := by
  cases rec with
  | none => exact absurd h (lt_irrefl 0)
  | some rec => rfl

theorem bidOf_of_map {rec : Option LivePriceRecord} {side : OrderSide} {price : ℚ}
    (h : rec.map (·.bid side) = some price) : Market.bidOf rec side = price := by
  rw [Market.bidOf, h, Option.getD_some]

theorem supplied_iff (s : Trading) (w : World) (m : Market) (r : PositionRecord) :
    s.Supplied w m r ((s.collected w m).price r) ↔ s.PriceAtHand m (s.instant w).now r := by
  have hc := Market.collectPrices_collected m (s.instant w).now s.tracker.getAllPositions
  have hprices : (s.collected w m).prices.get? r.asset =
      (Market.lastOpen s.tracker.getAllPositions r.asset).bind fun q =>
        (m.selected (s.instant w).now r.asset).map (·.bid q.side) := hc.prices r.asset
  constructor
  · rintro ⟨hcollected, hown, hpos⟩
    obtain ⟨q, hq, hbid⟩ := Option.bind_eq_some_iff.mp (hprices.symm.trans hcollected)
    have hheld := bidOf_of_map hown
    exact ⟨q, hq, (bidOf_of_map hbid).trans hheld.symm, hpos.trans_eq hheld.symm⟩
  · rintro ⟨q, hq, heq, hpos⟩
    rw [hq, Option.bind_some, map_bid_of_pos (heq ▸ hpos), heq] at hprices
    have hprice : (s.collected w m).price r = Market.bidOf (m.ownRecord r) r.side := by
      rw [CycleInput.price, Lib.Dict.getD, hprices, Option.getD_some]
    rw [hprice]
    exact ⟨hprices, map_bid_of_pos hpos, hpos⟩

/-- **No fabricated exit price.** In every run in paper mode, a turn of the exit loop sells at supplied held-side bids
of the positions' own events only, exactly when such a bid is at hand for every position that it is about to sell. -/
theorem supplied_sales_iff {tr : List (Lib.Taken Trading PaperTurn)}
    (hmode : s.exitExecutor.paperMode = true) (hrun : Lib.Run Turns s tr s') :
    ∀ y ∈ tr, ∀ w m, y.label = .exitCycle w m →
      ((∀ r r', Closes y.pre y.post r r' →
          y.pre.Supplied w m r r'.exitFillPrice) ↔
        ∀ k r, y.pre.tracker.positions.get? k = some r → r.state ≠ .closed →
          y.pre.WillSell (y.pre.collected w m) (y.pre.instant w).now r →
          y.pre.PriceAtHand m (y.pre.instant w).now r) := by
  intro y hy w m hl
  have hpaper := (hrun.invariant (I := fun t => t.exitExecutor.paperMode = true)
    (fun _ _ _ ht hs => turns_paperMode ht hs) hmode).2 y hy
  have hpost : y.post = (y.pre.runCycle w (y.pre.collected w m)).state := by
    have hstep := hrun.step_of_mem hy
    rw [hl] at hstep
    exact hstep
  rw [hpost]
  constructor
  · intro h k r hget hopen hsell
    have hkey : r.positionId = k := Lib.Table.key_of_get? hget
    have hsup := h r _ ((runCycle_closes w hpaper.1 _).mpr
      ⟨by rw [hkey]; exact hget, hopen, hsell, rfl⟩)
    rw [(afterCycle_closed hopen).2 hsell] at hsup
    exact (supplied_iff y.pre w m r).mp hsup
  · intro h r r' hcloses
    obtain ⟨hget, hopen, hsell, rfl⟩ := (runCycle_closes w hpaper.1 r').mp hcloses
    rw [(afterCycle_closed hopen).2 hsell]
    exact (supplied_iff y.pre w m r).mpr (h _ r hget hopen hsell)

/-- A stored position whose close was requested before the restart. -/
def closingPosition : PositionRecord :=
  { positionId := 0, asset := "BTC", side := .up, conditionId := "event", tokenId := "token"
    state := .closingRequested, createdAt := 0, requestedAmountUsd := 1, fillPrice := 1 / 2
    grossFillShares := 2, netPositionShares := 2, openedAt := some 0, closeReason := some .stopLoss }

/-- One moment, without answers. -/
def quietWorld : World := fun _ => { now := 1700000200 }

/-- The closing position and an open one of the same event are restored. -/
def restoredBoth : Trading := ({} : Trading).restart [closingPosition, Market.heldPosition 1 .up] [] 0

/-- The bid of the open position is that of the closing one. -/
theorem supplied_sales_restart :
    ((restoredBoth.exitCycle quietWorld Market.oneEvent).tracker.positions.get? 0).map
        (fun r => (r.state, r.exitFillPrice)) = some (.closed, 7 / 10) ∧
      ∀ r r', Closes restoredBoth (restoredBoth.exitCycle quietWorld Market.oneEvent) r r' →
        restoredBoth.Supplied quietWorld Market.oneEvent r r'.exitFillPrice := by
  have hrun : Lib.Run Turns _ _ _ := ((Lib.Run.nil ({} : Trading)).snoc
    (show Turns _ (.restart [closingPosition, Market.heldPosition 1 .up] [] 0) restoredBoth from rfl)).snoc
    (show Turns _ (.exitCycle quietWorld Market.oneEvent) _ from rfl)
  refine ⟨by decide +kernel, (supplied_sales_iff rfl hrun _ (List.mem_append_right _ (List.mem_singleton_self _))
    quietWorld Market.oneEvent rfl).mpr fun k r hget _ _ => ?_⟩
  have hpositions : restoredBoth.tracker.positions.records = [closingPosition, Market.heldPosition 1 .up] := by
    decide +kernel
  have hmem := Lib.Table.mem_records_of_get? hget
  rw [hpositions] at hmem
  refine ⟨Market.heldPosition 1 .up, ?_⟩
  rcases List.mem_cons.mp hmem with rfl | hmem
  · decide +kernel
  · obtain rfl := List.mem_singleton.mp hmem
    decide +kernel

/-- A restart restores a closing position, and the next cycle, with no other position open, sells it for
nothing although its bid is 0.70. -/
theorem sells_without_price :
    ∃ (s : Trading) (tr : List (Lib.Taken Trading PaperTurn)) (s' : Trading),
      s.exitExecutor.paperMode = true ∧ Lib.Run Turns s tr s' ∧
      ∃ y ∈ tr, ∃ w m r r', y.label = .exitCycle w m ∧ Closes y.pre y.post r r' ∧
        r'.exitFillPrice = 0 ∧ ¬y.pre.Supplied w m r r'.exitFillPrice := by
  have hrun : Lib.Run Turns _ _ _ := ((Lib.Run.nil ({} : Trading)).snoc
    (show Turns _ (.restart [closingPosition] [] 1700000200) _ from rfl)).snoc
    (show Turns _ (.exitCycle quietWorld Market.oneEvent) _ from rfl)
  refine ⟨_, _, _, rfl, hrun, _, List.mem_append_right _ (List.mem_singleton_self _),
    quietWorld, Market.oneEvent, closingPosition, ({} : Trading).afterCycle {} 1700000200 closingPosition, rfl,
    ⟨?_, ?_, ?_, ?_⟩, ?_, fun h => ?_⟩
  · decide +kernel
  · decide +kernel
  · decide +kernel
  · decide +kernel
  · decide +kernel
  · have hpos := h.positive
    revert hpos
    decide +kernel

end Trading

end Polyfast
