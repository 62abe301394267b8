import Polyfast.Lib.Run
import Polyfast.Execution.Trading
import Polyfast.Execution.TrackerMove

/-!
# The exit executor

`executeClose` runs to its end in paper mode; in live mode the sell order and, after a sale, the balance
fetch suspend it. `closeBegin`, `closeEnd` and the fetch are the stretches between awaits.

* `Sends`: the guards are passed and a sell order goes out; `Cancels`: a take profit is taken back;
* `closeBegin_idle`, `closeBegin_cancels`, `closeBegin_paper`, `closeBegin_live`: the branches;
* `closeBegin_exits`, `closeEnd_exits`: the same as exit moves of the tracker;
* `SellsOut`, `SellsOut.closeBegin`, `SellsOut.sellAnswered`: each sell order has its own pending position.
-/

namespace Polyfast

/-- Where a call of `execute_close` stands. -/
inductive CloseStatus
  /-- It returned or raised. -/
  | done (result : Except PyError Bool)
  /-- It waits for the sell order. -/
  | awaitingSell (id : PositionId)
  /-- It waits for the balance fetch after a sale. -/
  | awaitingBalance (id : PositionId)

/-- The record after a take-profit cancel. -/
def PositionRecord.cancelClose (p : PositionRecord) : PositionRecord :=
  { p.inState .openConfirmed with
    closeReason := none, closeTriggerSet := [], closeTriggeredAt := none }

/-- A sale: done at a price and a fee rate, or failed. -/
abbrev SellOutcome := Option (ℚ × ℚ)

/-- What `_execute_live_sell` makes of the exchange's answer. -/
def sellOutcome (p : PositionRecord) (reply : Option OrderReply) : Except PyError SellOutcome :=
  match reply with
  | none => .ok none
  | some r =>
    if r.status = "matched" then
      match r.feeRate with
      | .error e => .error e
      | .ok feeRate =>
        match r.amounts with
        | .error e => .error e
        | .ok (some (making, taking)) => .ok (some (taking / making, feeRate))
        | .ok none => .ok (some (p.fillPrice, feeRate))
    else .ok none

namespace Trading

variable (s : Trading)

/-- The sale succeeded: confirm the close and settle the balance. -/
def closeSold (id : PositionId) (fillPrice feeRate : ℚ) (now : Time) : Trading × CloseStatus :=
  let confirmed := s.tracker.confirmClose id fillPrice (some feeRate) now
  match confirmed.result with
  | .error e => (s.withTracker confirmed.state, .done (.error e))
  | .ok p =>
    let s := { s with
      tracker := confirmed.state
      exitExecutor := { s.exitExecutor with
        closeCount := s.exitExecutor.closeCount + 1
        lastCloseFailAt := s.exitExecutor.lastCloseFailAt.erase id } }
    if s.exitExecutor.paperMode then
      ({ s with balance := s.balance.add p.netExitUsdc now }, .done (.ok true))
    else (s, .awaitingBalance id)

/-- The sale failed: the position is `CLOSE_FAILED` and cools down. -/
def closeFailed (p : PositionRecord) (now : Time) : Trading × CloseStatus :=
  match p.transitionTo .closeFailed with
  | .error e => (s, .done (.error e))
  | .ok p =>
    ({ s.writePosition p with
        exitExecutor := { s.exitExecutor with
          lastCloseFailAt := s.exitExecutor.lastCloseFailAt.set p.positionId now } },
      .done (.ok false))

/-- The state with the retry of a failed sale counted. -/
def countRetry (p : PositionRecord) : Trading :=
  if p.state = .closeFailed then
    { s with exitExecutor := { s.exitExecutor with retryCount := s.exitExecutor.retryCount + 1 } }
  else s

/-- `execute_close` up to its first await. The position is the tracker's object; the guards leave it in
`CLOSING_REQUESTED` or `CLOSE_FAILED`, from where the transitions to `CLOSE_PENDING` are allowed. -/
def closeBegin (id : PositionId) (currentPrice : ℚ) (now : Time) : Trading × CloseStatus :=
  match s.tracker.positions.get? id with
  | none => (s, .done (.error (.keyError s!"Position not found: {id}")))
  | some p =>
    if p.state ≠ .closingRequested ∧ p.state ≠ .closeFailed then (s, .done (.ok false))
    else if p.state = .closeFailed ∧ s.exitExecutor.coolingDown id now then (s, .done (.ok false))
    else if p.state = .closingRequested ∧ p.closeReason = some .takeProfit ∧
        s.evaluator.shouldCancelClose p currentPrice then
      (s.writePosition p.cancelClose, .done (.ok false))
    else
      let sent := p.inState .closePending
      let s := (s.countRetry p).writePosition sent
      if s.exitExecutor.paperMode then s.closeSold id currentPrice defaultCryptoFeeRate now
      else if !s.exitExecutor.hasClob || decide (p.netPositionShares ≤ 0) then s.closeFailed sent now
      else (s, .awaitingSell id)

/-- `execute_close` from the answer of the sell order to its next await. -/
def closeEnd (id : PositionId) (reply : Option OrderReply) (now : Time) : Trading × CloseStatus :=
  match s.tracker.positions.get? id with
  | none => (s, .done (.error (.keyError s!"Position not found: {id}")))
  | some p =>
    match sellOutcome p reply with
    | .error e => (s, .done (.error e))
    | .ok none => s.closeFailed p now
    | .ok (some (fillPrice, feeRate)) => s.closeSold id fillPrice feeRate now

/-- The sell order is answered, or raises. -/
def sellAnswered (id : PositionId) (reply : Except PyError (Option OrderReply)) (now : Time) :
    Trading × CloseStatus :=
  let s := s.answered (.sell id)
  match reply with
  | .error e => (s, .done (.error e))
  | .ok reply => s.closeEnd id reply now

/-- `execute_close` from the balance fetch to its end. -/
def closeFetched (reply : FetchReply) (now : Time) : Trading × CloseStatus :=
  let s := s.answered .fetch
  ({ s with balance := (s.balance.fetch reply now).1 }, .done (.ok true))

/-- A whole call of `execute_close`, its awaits answered by the world. -/
def executeClose (w : World) (id : PositionId) (currentPrice : ℚ) : Call Trading Bool :=
  match s.closeBegin id currentPrice (s.instant w).now with
  | (s, .done r) => ⟨s, r⟩
  | (s, .awaitingBalance _) => .returns s true
  | (s, .awaitingSell _) =>
    match s.sellAnswered id (s.instant w).sell ((s.answered (.sell id)).instant w).now with
    | (s, .done r) => ⟨s, r⟩
    | (s, .awaitingSell _) => .returns s false
    | (s, .awaitingBalance _) =>
      .returns (s.closeFetched (s.instant w).fetch ((s.answered .fetch).instant w).now).1 true

/-! ### The branches of `closeBegin` -/

/-- Selected by the close phase, accepted by `execute_close`. -/
def isClosing (p : PositionRecord) : Bool := p.state = .closingRequested || p.state = .closeFailed

/-- The cooldown after a failed sale is running. -/
def CoolsDown (r : PositionRecord) (now : Time) : Prop :=
  r.state = .closeFailed ∧ s.exitExecutor.coolingDown r.positionId now = true

/-- The take profit no longer holds at the price. -/
def Cancels (r : PositionRecord) (price : ℚ) : Prop :=
  r.state = .closingRequested ∧ r.closeReason = some .takeProfit ∧
    s.evaluator.shouldCancelClose r price = true

/-- The guards are passed. -/
def Sends (r : PositionRecord) (price : ℚ) (now : Time) : Prop :=
  isClosing r = true ∧ ¬s.CoolsDown r now ∧ ¬s.Cancels r price

variable {s} {id : PositionId} {r : PositionRecord} {price : ℚ} {now : Time}

theorem isClosing_iff : isClosing r = true ↔ r.state = .closingRequested ∨ r.state = .closeFailed := by
  simp [isClosing]

theorem holdsExposure_of_isClosing (h : isClosing r = true) : r.holdsExposure = true := by
  rw [PositionRecord.holdsExposure_iff]
  rcases isClosing_iff.mp h with h | h <;> simp [h]

theorem closeBegin_idle (h : s.tracker.positions.get? id = some r)
    (hidle : isClosing r = false ∨ s.CoolsDown r now) :
    s.closeBegin id price now = (s, .done (.ok false)) := by
  have hid : r.positionId = id := Lib.Table.key_of_get? h
  simp only [closeBegin, h]
  by_cases hc : r.state ≠ .closingRequested ∧ r.state ≠ .closeFailed
  · rw [if_pos hc]
  · rw [if_neg hc]
    rcases hidle with hidle | ⟨hs, hcool⟩
    · have hne : ¬(r.state = .closingRequested ∨ r.state = .closeFailed) := by
        rw [← isClosing_iff, hidle]
        exact Bool.false_ne_true
      exact absurd (not_or.mp hne) hc
    · rw [hid] at hcool
      rw [if_pos ⟨hs, hcool⟩]

theorem closeBegin_cancels (h : s.tracker.positions.get? id = some r) (hc : s.Cancels r price) :
    s.closeBegin id price now = (s.writePosition r.cancelClose, .done (.ok false)) := by
  obtain ⟨hs, hreason, hcancel⟩ := hc
  simp [closeBegin, h, hs, hreason, hcancel]

theorem closeBegin_sends (h : s.tracker.positions.get? id = some r) (hs : s.Sends r price now) :
    s.closeBegin id price now =
      (if s.exitExecutor.paperMode then
        ((s.countRetry r).writePosition (r.inState .closePending)).closeSold id price
          defaultCryptoFeeRate now
      else if !s.exitExecutor.hasClob || decide (r.netPositionShares ≤ 0) then
        ((s.countRetry r).writePosition (r.inState .closePending)).closeFailed
          (r.inState .closePending) now
      else ((s.countRetry r).writePosition (r.inState .closePending), .awaitingSell id)) := by
  obtain ⟨hclosing, hcool, hcancel⟩ := hs
  have hid : r.positionId = id := Lib.Table.key_of_get? h
  have hpaper : ((s.countRetry r).writePosition (r.inState .closePending)).exitExecutor.paperMode =
      s.exitExecutor.paperMode := by
    simp only [writePosition, countRetry]
    split_ifs <;> rfl
  have hclob : ((s.countRetry r).writePosition (r.inState .closePending)).exitExecutor.hasClob =
      s.exitExecutor.hasClob := by
    simp only [writePosition, countRetry]
    split_ifs <;> rfl
  simp only [closeBegin, h]
  rw [if_neg, if_neg, if_neg, hpaper, hclob]
  · exact hcancel
  · rw [← hid]
    exact hcool
  · rintro ⟨h₁, h₂⟩
    rcases isClosing_iff.mp hclosing with h | h
    · exact h₁ h
    · exact h₂ h

theorem tracker_countRetry (s : Trading) (r : PositionRecord) : (s.countRetry r).tracker = s.tracker := by
  unfold countRetry
  split_ifs <;> rfl

theorem balance_countRetry (s : Trading) (r : PositionRecord) : (s.countRetry r).balance = s.balance := by
  unfold countRetry
  split_ifs <;> rfl

/-- In paper mode the sale happens at once, at the given price. -/
theorem closeBegin_paper (h : s.tracker.positions.get? id = some r) (hs : s.Sends r price now)
    (hp : s.exitExecutor.paperMode = true) :
    (s.closeBegin id price now).2 = .done (.ok true) ∧
      (s.closeBegin id price now).1.tracker.positions =
        s.tracker.positions.put (PositionTracker.sold r price defaultCryptoFeeRate now) ∧
      (s.closeBegin id price now).1.balance =
        s.balance.add (PositionTracker.sold r price defaultCryptoFeeRate now).netExitUsdc now := by
  have hid : r.positionId = id := Lib.Table.key_of_get? h
  have hget : ((s.countRetry r).writePosition (r.inState .closePending)).tracker.positions.get? id =
      some (r.inState .closePending) := by
    rw [← hid]
    exact Lib.Table.get?_put_self _ (r.inState .closePending)
  have hconfirm : ((s.countRetry r).writePosition (r.inState .closePending)).tracker.confirmClose id
      price (some defaultCryptoFeeRate) now = _ :=
    PositionTracker.confirmClose_of_closePending hget rfl
  have hpaper : ((s.countRetry r).writePosition (r.inState .closePending)).exitExecutor.paperMode =
      true := by
    rw [← hp]
    simp only [writePosition, countRetry]
    split_ifs <;> rfl
  rw [closeBegin_sends h hs, if_pos hp]
  simp only [closeSold, hconfirm, Call.result_returns, Call.state_returns, hpaper, if_true]
  refine ⟨trivial, ?_, ?_⟩
  · simp only [PositionTracker.positions_persist, PositionTracker.positions_write, writePosition,
      tracker_countRetry]
    have hkey : (r.inState .closePending).positionId =
        (PositionTracker.sold r price defaultCryptoFeeRate now).positionId := rfl
    exact Lib.Table.put_put hkey s.tracker.positions
  · simp only [writePosition, balance_countRetry]
    rfl

/-! ### What exits leave alone -/

/-- What exits leave alone: claims, settlement, the order executor and the modes. They redeem nothing. -/
structure ExitFrame (s s' : Trading) : Prop where
  claims : s'.claims = s.claims
  settlement : s'.settlement = s.settlement
  executor : s'.executor = s.executor
  paperMode : s'.exitExecutor.paperMode = s.exitExecutor.paperMode
  uuids : s'.uuids = s.uuids
  trace : AsksOnly s.trace s'.trace

theorem ExitFrame.refl (s : Trading) : ExitFrame s s := ⟨rfl, rfl, rfl, rfl, rfl, .refl _⟩

theorem ExitFrame.trans {s t u : Trading} (h : ExitFrame s t) (h' : ExitFrame t u) :
    ExitFrame s u :=
  ⟨h'.claims.trans h.claims, h'.settlement.trans h.settlement, h'.executor.trans h.executor,
    h'.paperMode.trans h.paperMode, h'.uuids.trans h.uuids, h.trace.trans h'.trace⟩

theorem closeSold_frame (s : Trading) (id : PositionId) (price rate : ℚ) (now : Time) :
    ExitFrame s (s.closeSold id price rate now).1 := by
  unfold closeSold
  dsimp only
  split
  · exact ⟨rfl, rfl, rfl, rfl, rfl, .refl _⟩
  · split_ifs <;> exact ⟨rfl, rfl, rfl, rfl, rfl, .refl _⟩

theorem closeFailed_frame (s : Trading) (p : PositionRecord) (now : Time) :
    ExitFrame s (s.closeFailed p now).1 := by
  unfold closeFailed
  split <;> exact ⟨rfl, rfl, rfl, rfl, rfl, .refl _⟩

theorem countRetry_frame (s : Trading) (p : PositionRecord) : ExitFrame s (s.countRetry p) := by
  unfold countRetry
  split_ifs <;> exact ⟨rfl, rfl, rfl, rfl, rfl, .refl _⟩

theorem closeBegin_frame (s : Trading) (id : PositionId) (price : ℚ) (now : Time) :
    ExitFrame s (s.closeBegin id price now).1 := by
  unfold closeBegin
  split
  · exact .refl s
  · rename_i p _
    have hsent : ExitFrame s ((s.countRetry p).writePosition (p.inState .closePending)) :=
      (countRetry_frame s p).trans ⟨rfl, rfl, rfl, rfl, rfl, .refl _⟩
    split_ifs
    · exact .refl s
    · exact .refl s
    · exact ⟨rfl, rfl, rfl, rfl, rfl, .refl _⟩
    · refine hsent.trans ?_
      dsimp only
      split_ifs
      · exact closeSold_frame _ _ _ _ _
      · exact closeFailed_frame _ _ _
      · exact .refl _

theorem closeEnd_frame (s : Trading) (id : PositionId) (reply : Option OrderReply) (now : Time) :
    ExitFrame s (s.closeEnd id reply now).1 := by
  unfold closeEnd
  split
  · exact .refl s
  · split
    · exact .refl s
    · exact closeFailed_frame _ _ _
    · exact closeSold_frame _ _ _ _ _

theorem sellAnswered_frame (s : Trading) (id : PositionId)
    (reply : Except PyError (Option OrderReply)) (now : Time) :
    ExitFrame s (s.sellAnswered id reply now).1 := by
  have ha : ExitFrame s (s.answered (.sell id)) :=
    ⟨rfl, rfl, rfl, rfl, rfl, .single _ fun _ => rfl⟩
  cases reply with
  | error e => exact ha
  | ok reply => exact ha.trans (closeEnd_frame _ id reply now)

theorem executeClose_frame (s : Trading) (w : World) (id : PositionId) (price : ℚ) :
    ExitFrame s (s.executeClose w id price).state := by
  have hbegin := closeBegin_frame s id price (s.instant w).now
  unfold executeClose
  generalize s.closeBegin id price (s.instant w).now = out at hbegin
  obtain ⟨t, status⟩ := out
  cases status with
  | done r => exact hbegin
  | awaitingBalance k => exact hbegin
  | awaitingSell k =>
    have hsell := hbegin.trans (sellAnswered_frame t id (t.instant w).sell
      ((t.answered (.sell id)).instant w).now)
    dsimp only
    generalize t.sellAnswered id (t.instant w).sell ((t.answered (.sell id)).instant w).now = out
      at hsell
    obtain ⟨u, status⟩ := out
    cases status with
    | done r => exact hsell
    | awaitingSell j => exact hsell
    | awaitingBalance j => exact hsell.trans ⟨rfl, rfl, rfl, rfl, rfl, .single _ fun _ => rfl⟩

/-! ### Exits as moves of the tracker -/

/-- Only filled positions move, on their way out; identifiers and the order executor stay. -/
structure Exits (s s' : Trading) : Prop where
  moves : ExitMoves s.tracker s'.tracker
  uuids : s'.uuids = s.uuids
  executor : s'.executor = s.executor

theorem Exits.refl (s : Trading) : Exits s s := ⟨.refl, rfl, rfl⟩

theorem Exits.trans {s t u : Trading} (h : Exits s t) (h' : Exits t u) : Exits s u :=
  ⟨h.moves.trans h'.moves, h'.uuids.trans h.uuids, h'.executor.trans h.executor⟩

/-- Of the positions only `id` changes. -/
def OnlyAt (id : PositionId) (s s' : Trading) : Prop :=
  ∀ k, k ≠ id → s'.tracker.positions.get? k = s.tracker.positions.get? k

/-- Overwriting an exposed position by what it becomes. -/
theorem writePosition_exits (r' : PositionRecord) (h : s.tracker.positions.get? id = some r)
    (hexposed : r.holdsExposure = true) (hid : r'.positionId = r.positionId)
    (hcond : r'.conditionId = r.conditionId) (hstate : r'.state ≠ .pendingOpen)
    (hopened : r'.openedAt = r.openedAt) :
    Exits s (s.writePosition r') ∧ OnlyAt id s (s.writePosition r') := by
  have hkey : r'.positionId = id := hid.trans (Lib.Table.key_of_get? h)
  refine ⟨⟨.single (.exit r r' ?_ hexposed hcond hstate hopened rfl rfl), rfl, rfl⟩, fun k hk => ?_⟩
  · rw [hkey]
    exact h
  · exact PositionTracker.get?_write_ne (hkey.symm ▸ hk.symm)

theorem closeSold_exits (price rate : ℚ) (now : Time) (h : s.tracker.positions.get? id = some r)
    (hs : r.state = .closePending) :
    Exits s (s.closeSold id price rate now).1 ∧ OnlyAt id s (s.closeSold id price rate now).1 ∧
      ∀ k, (s.closeSold id price rate now).2 ≠ .awaitingSell k := by
  have hm : ExitMove s.tracker (s.tracker.confirmClose id price (some rate) now).state :=
    PositionTracker.confirmClose_exit h hs
  have ho : ∀ k, k ≠ id → (s.tracker.confirmClose id price (some rate) now).state.positions.get? k =
      s.tracker.positions.get? k := fun k hk => PositionTracker.confirmClose_get?_ne hk.symm _ _ _
  unfold closeSold
  dsimp only
  split
  · exact ⟨⟨.single hm, rfl, rfl⟩, ho, by simp⟩
  · split_ifs
    · exact ⟨⟨.single hm, rfl, rfl⟩, ho, by simp⟩
    · exact ⟨⟨.single hm, rfl, rfl⟩, ho, by simp⟩

theorem transitionTo_closeFailed (hs : r.state = .closePending) :
    r.transitionTo .closeFailed = .ok (r.inState .closeFailed) := by
  rw [PositionRecord.transitionTo_eq_ok]
  exact ⟨by simp [hs, allowedTransitions], rfl⟩

/-- A failed sale takes the position back out of `CLOSE_PENDING`. -/
theorem get?_closeFailed (now : Time) (h : s.tracker.positions.get? id = some r)
    (hs : r.state = .closePending) :
    (s.closeFailed r now).1.tracker.positions.get? id = some (r.inState .closeFailed) := by
  have hkey : r.positionId = id := Lib.Table.key_of_get? h
  simp only [closeFailed, transitionTo_closeFailed hs]
  rw [← hkey]
  exact Lib.Table.get?_put_self _ (r.inState .closeFailed)

theorem closeFailed_exits (now : Time) (h : s.tracker.positions.get? id = some r) (hs : r.state = .closePending) :
    Exits s (s.closeFailed r now).1 ∧ OnlyAt id s (s.closeFailed r now).1 ∧
      ∀ k, (s.closeFailed r now).2 ≠ .awaitingSell k := by
  obtain ⟨hexits, honly⟩ := writePosition_exits (r.inState .closeFailed) h
    (by simp [PositionRecord.holdsExposure, hs]) rfl rfl (by simp) rfl
  simp only [closeFailed, transitionTo_closeFailed hs]
  exact ⟨⟨hexits.moves, rfl, rfl⟩, honly, by simp⟩

theorem sent_exits (h : s.tracker.positions.get? id = some r) (hc : isClosing r = true) :
    Exits s ((s.countRetry r).writePosition (r.inState .closePending)) ∧
      OnlyAt id s ((s.countRetry r).writePosition (r.inState .closePending)) ∧
      ((s.countRetry r).writePosition (r.inState .closePending)).tracker.positions.get? id =
        some (r.inState .closePending) := by
  have hid : r.positionId = id := Lib.Table.key_of_get? h
  have hcount : Exits s (s.countRetry r) := by
    unfold countRetry
    split_ifs
    · exact ⟨.refl, rfl, rfl⟩
    · exact .refl s
  have h' : (s.countRetry r).tracker.positions.get? id = some r := by
    rw [tracker_countRetry]
    exact h
  obtain ⟨hexits, honly⟩ := writePosition_exits (r.inState .closePending) h'
    (holdsExposure_of_isClosing hc) rfl rfl (by simp) rfl
  refine ⟨hcount.trans hexits, fun k hk => ?_, ?_⟩
  · rw [honly k hk, tracker_countRetry]
  · rw [← hid]
    exact Lib.Table.get?_put_self _ (r.inState .closePending)

/-- **What `execute_close` does up to its first await**: exit moves of the position it is called for. A
call that waits for a sell order leaves the position in `CLOSE_PENDING`. -/
theorem closeBegin_exits (s : Trading) (id : PositionId) (price : ℚ) (now : Time) :
    Exits s (s.closeBegin id price now).1 ∧ OnlyAt id s (s.closeBegin id price now).1 ∧
      ∀ k, (s.closeBegin id price now).2 = .awaitingSell k → k = id ∧
        (∃ r, (s.closeBegin id price now).1.tracker.positions.get? id = some r ∧
          r.state = .closePending) ∧
        ∃ r, s.tracker.positions.get? id = some r ∧ isClosing r = true := by
  cases h : s.tracker.positions.get? id with
  | none =>
    simp only [closeBegin, h]
    exact ⟨.refl s, fun _ _ => rfl, by simp⟩
  | some r =>
    by_cases hidle : isClosing r = false ∨ s.CoolsDown r now
    · rw [closeBegin_idle h hidle]
      exact ⟨.refl s, fun _ _ => rfl, by simp⟩
    · rw [not_or, Bool.not_eq_false] at hidle
      by_cases hc : s.Cancels r price
      · rw [closeBegin_cancels h hc]
        obtain ⟨hexits, honly⟩ := writePosition_exits r.cancelClose h
          (holdsExposure_of_isClosing hidle.1) rfl rfl (by simp [PositionRecord.cancelClose]) rfl
        exact ⟨hexits, honly, by simp⟩
      · obtain ⟨hexits, honly, hsent⟩ := sent_exits h hidle.1
        rw [closeBegin_sends h ⟨hidle.1, hidle.2, hc⟩]
        split_ifs
        · obtain ⟨h₁, h₂, h₃⟩ := closeSold_exits price defaultCryptoFeeRate now hsent rfl
          exact ⟨hexits.trans h₁, fun k hk => (h₂ k hk).trans (honly k hk), fun _ ha => absurd ha (h₃ _)⟩
        · obtain ⟨h₁, h₂, h₃⟩ := closeFailed_exits now hsent rfl
          exact ⟨hexits.trans h₁, fun k hk => (h₂ k hk).trans (honly k hk), fun _ ha => absurd ha (h₃ _)⟩
        · exact ⟨hexits, honly, fun _ hk => ⟨(CloseStatus.awaitingSell.inj hk).symm, ⟨_, hsent, rfl⟩, r, rfl,
            hidle.1⟩⟩

/-- **What the answer to the sell order does**: exit moves of the position that waits for it. -/
theorem closeEnd_exits (reply : Option OrderReply) (now : Time)
    (h : s.tracker.positions.get? id = some r) (hs : r.state = .closePending) :
    Exits s (s.closeEnd id reply now).1 ∧ OnlyAt id s (s.closeEnd id reply now).1 ∧
      ∀ k, (s.closeEnd id reply now).2 ≠ .awaitingSell k := by
  simp only [closeEnd, h]
  cases sellOutcome r reply with
  | error e => exact ⟨.refl s, fun _ _ => rfl, by simp⟩
  | ok outcome =>
    cases outcome with
    | none => exact closeFailed_exits now h hs
    | some sale => exact closeSold_exits sale.1 sale.2 now h hs

theorem answered_exits (s : Trading) (c : ExternalCall) : Exits s (s.answered c) := ⟨.refl, rfl, rfl⟩

theorem sellAnswered_exits (reply : Except PyError (Option OrderReply)) (now : Time)
    (h : s.tracker.positions.get? id = some r) (hs : r.state = .closePending) :
    Exits s (s.sellAnswered id reply now).1 ∧ OnlyAt id s (s.sellAnswered id reply now).1 ∧
      ∀ k, (s.sellAnswered id reply now).2 ≠ .awaitingSell k := by
  have ha := answered_exits s (.sell id)
  cases reply with
  | error e => exact ⟨ha, fun _ _ => rfl, by simp [sellAnswered]⟩
  | ok reply =>
    have h' : (s.answered (.sell id)).tracker.positions.get? id = some r := h
    obtain ⟨he, honly, hwait⟩ := closeEnd_exits reply now h' hs
    exact ⟨ha.trans he, honly, hwait⟩

end Trading

/-! ### Sell orders and their positions -/

/-- The sell orders a stretch sends out. -/
def CloseStatus.sells : CloseStatus → List PositionId
  | awaitingSell id => [id]
  | _ => []

namespace Trading

/-- Every sell order that is out has a position of its own, in `CLOSE_PENDING`. -/
structure SellsOut (s : Trading) (ids : List PositionId) : Prop where
  nodup : ids.Nodup
  pending : ∀ id ∈ ids, ∃ r, s.tracker.positions.get? id = some r ∧ r.state = .closePending

variable {s : Trading} {ids : List PositionId}

theorem SellsOut.sublist {ids' : List PositionId} (h : s.SellsOut ids) (hsub : ids'.Sublist ids) :
    s.SellsOut ids' :=
  ⟨h.nodup.sublist hsub, fun id hid => h.pending id (hsub.subset hid)⟩

/-- A position whose sell order is out is not accepted again. -/
theorem SellsOut.closeBegin (h : s.SellsOut ids) (id : PositionId) (price : ℚ) (now : Time) :
    (s.closeBegin id price now).1.SellsOut (ids ++ (s.closeBegin id price now).2.sells) := by
  obtain ⟨-, honly, hwait⟩ := closeBegin_exits s id price now
  have hkeep : ∀ k ∈ ids, ∃ r,
      (s.closeBegin id price now).1.tracker.positions.get? k = some r ∧ r.state = .closePending := by
    intro k hk
    obtain ⟨r, hr, hs⟩ := h.pending k hk
    by_cases hkid : k = id
    · subst hkid
      rw [closeBegin_idle hr (.inl (by simp [isClosing, hs]))]
      exact ⟨r, hr, hs⟩
    · exact ⟨r, by rw [honly k hkid, hr], hs⟩
  cases hstatus : (s.closeBegin id price now).2 with
  | done a =>
    simp only [CloseStatus.sells, List.append_nil]
    exact ⟨h.nodup, hkeep⟩
  | awaitingBalance k =>
    simp only [CloseStatus.sells, List.append_nil]
    exact ⟨h.nodup, hkeep⟩
  | awaitingSell k =>
    obtain ⟨rfl, hpending, r, hr, hclosing⟩ := hwait k hstatus
    have hnew : k ∉ ids := by
      intro hk
      obtain ⟨u, hu, hus⟩ := h.pending k hk
      rw [hr] at hu
      obtain rfl := Option.some.inj hu
      rw [isClosing_iff, hus] at hclosing
      simp at hclosing
    refine ⟨?_, fun j hj => ?_⟩
    · simp only [CloseStatus.sells, List.nodup_append, List.mem_singleton]
      refine ⟨h.nodup, by simp, ?_⟩
      rintro a ha b rfl rfl
      exact hnew ha
    · rcases List.mem_append.mp hj with hj | hj
      · exact hkeep j hj
      · rw [List.mem_singleton.mp hj]
        exact hpending

/-- The answer to a sell order moves the position that waits for it, and sends out nothing. -/
theorem SellsOut.sellAnswered {l₁ l₂ : List PositionId} {id : PositionId}
    (h : s.SellsOut (l₁ ++ id :: l₂)) (reply : Except PyError (Option OrderReply)) (now : Time) :
    (s.sellAnswered id reply now).1.SellsOut (l₁ ++ l₂) ∧ (s.sellAnswered id reply now).2.sells = [] := by
  obtain ⟨r, hr, hs⟩ := h.pending id (by simp)
  obtain ⟨-, honly, hwait⟩ := sellAnswered_exits reply now hr hs
  have hnot : id ∉ l₁ ++ l₂ := Lib.not_mem_split rfl h.nodup
  refine ⟨⟨h.nodup.sublist (Lib.split_sublist rfl), fun k hk => ?_⟩, ?_⟩
  · obtain ⟨u, hu, hus⟩ := h.pending k ((Lib.split_sublist rfl).subset hk)
    exact ⟨u, by rw [honly k (fun heq => hnot (heq ▸ hk)), hu], hus⟩
  · cases hstatus : (s.sellAnswered id reply now).2 with
    | done a => rfl
    | awaitingBalance k => rfl
    | awaitingSell k => exact absurd hstatus (hwait k)

end Trading

end Polyfast
