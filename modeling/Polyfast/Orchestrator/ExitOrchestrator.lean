import Polyfast.Execution.ExitExecutor
import Polyfast.Orchestrator.Settlement

/-!
# The exit cycle

`runCycle`: evaluate the open positions (`triggerPhase`), try to sell the closing ones (`closePhase`),
settle the closed ones, and close the pending claims that settlement does not hold
(`reconcileExternal`). Prices, remaining seconds and the stale mark come in dictionaries keyed by asset.

* `triggerPhase_exits`, `reconcileExternal_frame`: what the phases do to positions;
* `triggerPhase_frame`, `closePhase_frame`: what they leave alone.
-/

namespace Polyfast

/-- The arguments of `run_cycle`. -/
structure CycleInput where
  prices : Lib.Dict Asset ℚ := .empty
  remaining : Lib.Dict Asset ℚ := .empty
  stale : List Asset := []

namespace CycleInput

variable (x : CycleInput) (p : PositionRecord)

/-- The price a cycle uses for a position. -/
def price : ℚ := x.prices.getD p.asset 0

/-- The remaining seconds a cycle uses for a position. -/
def secs : ℚ := x.remaining.getD p.asset 300

/-- Whether a cycle takes the price of a position as stale. -/
def isStale : Bool := p.asset ∈ x.stale

end CycleInput

/-- What `run_cycle` answers. -/
structure CycleResult where
  cycle : ℕ
  triggers : ℕ := 0
  closes : ℕ := 0
  settlements : ℕ := 0
  reconciled : ℕ := 0

namespace Trading

variable (w : World) (x : CycleInput) (s : Trading)

/-- `request_close` as the cycle calls it. -/
def requestClose (id : PositionId) (reason : CloseReason) (triggers : List ForceSellTrigger)
    (now : Time) : Call Trading Bool :=
  let call := s.tracker.requestClose id reason triggers 0 now
  match call.result with
  | .error e => .raises (s.withTracker call.state) e
  | .ok _ => .returns (s.withTracker call.state) true

/-- Request a close if force sell asks for it. -/
def triggerForceSell (p : PositionRecord) (outcomeFresh : Bool) (now : Time) : Call Trading Bool :=
  let signal := s.evaluator.evaluateForceSell p (x.price p) (x.secs p) outcomeFresh
  if signal.shouldExit then s.requestClose p.positionId .forceSell signal.triggerSet now
  else .returns s false

/-- One open position: no price, nothing; a stale price, force sell only; else take profit and stop loss
before force sell. -/
def triggerOne (p : PositionRecord) (now : Time) : Call Trading Bool :=
  if x.price p ≤ 0 then .returns s false
  else if x.isStale p then s.triggerForceSell x p false now
  else
    let (evaluator, signal) := s.evaluator.evaluate p (x.price p)
    let s := { s with evaluator := evaluator }
    match signal.shouldExit, signal.reason with
    | true, some reason => s.requestClose p.positionId reason [] now
    | true, none => .raises s .typeError
    | false, _ => s.triggerForceSell x p true now

/-- The open positions are evaluated. -/
def triggerPhase : Call Trading ℕ :=
  Call.countLoop (fun t p => t.triggerOne x p (s.instant w).now) s
    (s.tracker.positions.records.filter PositionRecord.isOpen)

/-- The closing positions are sold; a price that is not in the dictionary is 0. -/
def closePhase : Call Trading ℕ :=
  Call.countLoop (fun t p => t.executeClose w p.positionId (x.price p)) s
    (s.tracker.positions.records.filter isClosing)

/-- One pending claim: left alone while its position is in retry, else taken as settled elsewhere. -/
def reconcileOne (now : Time) (s : Trading) (c : ClaimRecord) : Trading :=
  if s.settlement.isPositionInRetry c.positionId then s
  else { s with claims := (s.claims.markExternallySettled c.claimId now).1 }

/-- `_reconcile_external`. -/
def reconcileExternal : Trading :=
  s.claims.getPendingClaims.foldl (reconcileOne (s.instant w).now) s

/-- How many claims `_reconcile_external` closes. -/
def reconcileCount : ℕ :=
  s.claims.getPendingClaims.countP (fun c => !s.settlement.isPositionInRetry c.positionId)

/-- The state with the cycle counted. -/
def countCycle : Trading := { s with cycleCount := s.cycleCount + 1 }

/-- `run_cycle`. -/
def runCycle : Call Trading CycleResult :=
  let s := s.countCycle
  let triggers := s.triggerPhase w x
  match triggers.result with
  | .error e => .raises triggers.state e
  | .ok triggered =>
    let closes := triggers.state.closePhase w x
    match closes.result with
    | .error e => .raises closes.state e
    | .ok closed =>
      let settlements := closes.state.processSettlements w
      match settlements.result with
      | .error e => .raises settlements.state e
      | .ok settled =>
        .returns (settlements.state.reconcileExternal w)
          { cycle := s.cycleCount, triggers := triggered, closes := closed
            settlements := settled, reconciled := settlements.state.reconcileCount }

/-! ### The phases and the positions -/

variable {w x s}

/-- A close request exchanges the tracker. -/
theorem requestClose_state (s : Trading) (id : PositionId) (reason : CloseReason)
    (triggers : List ForceSellTrigger) (now : Time) :
    (s.requestClose id reason triggers now).state =
      s.withTracker (s.tracker.requestClose id reason triggers 0 now).state := by
  unfold requestClose
  dsimp only
  split <;> rfl

theorem requestClose_exits (id : PositionId) (reason : CloseReason)
    (triggers : List ForceSellTrigger) (now : Time) :
    Exits s (s.requestClose id reason triggers now).state := by
  rw [requestClose_state]
  exact ⟨.single (PositionTracker.requestClose_exit id reason triggers 0 now), rfl, rfl⟩

/-- The positions whose sell order is out are as before. -/
def KeepsSells (s s' : Trading) : Prop :=
  ∀ k r, s.tracker.positions.get? k = some r → r.state = .closePending →
    s'.tracker.positions.get? k = some r

theorem requestClose_keepsSells (id : PositionId) (reason : CloseReason)
    (triggers : List ForceSellTrigger) (now : Time) :
    KeepsSells s (s.requestClose id reason triggers now).state := by
  intro k r hk hr
  rw [requestClose_state]
  exact PositionTracker.requestClose_closePending id reason triggers 0 now hk hr

theorem triggerForceSell_exits (p : PositionRecord) (fresh : Bool) (now : Time) :
    Exits s (s.triggerForceSell x p fresh now).state := by
  unfold triggerForceSell
  dsimp only
  split_ifs
  · exact requestClose_exits _ _ _ _
  · exact .refl s

theorem triggerOne_exits (p : PositionRecord) (now : Time) :
    Exits s (s.triggerOne x p now).state := by
  unfold triggerOne
  split_ifs
  · exact .refl s
  · exact triggerForceSell_exits p false now
  · have he : Exits s { s with evaluator := (s.evaluator.evaluate p (x.price p)).1 } :=
      ⟨.refl, rfl, rfl⟩
    dsimp only
    split
    · exact he.trans (requestClose_exits _ _ _ _)
    · exact he
    · exact he.trans (triggerForceSell_exits p true now)

theorem triggerForceSell_frame (p : PositionRecord) (fresh : Bool) (now : Time) :
    ExitFrame s (s.triggerForceSell x p fresh now).state := by
  unfold triggerForceSell
  dsimp only
  split_ifs
  · rw [requestClose_state]
    exact ⟨rfl, rfl, rfl, rfl, rfl, .refl _⟩
  · exact .refl s

theorem triggerOne_frame (p : PositionRecord) (now : Time) :
    ExitFrame s (s.triggerOne x p now).state := by
  have he : ExitFrame s { s with evaluator := (s.evaluator.evaluate p (x.price p)).1 } :=
    ⟨rfl, rfl, rfl, rfl, rfl, .refl _⟩
  unfold triggerOne
  split_ifs
  · exact .refl s
  · exact triggerForceSell_frame p false now
  · dsimp only
    split
    · rw [requestClose_state]
      exact ⟨rfl, rfl, rfl, rfl, rfl, .refl _⟩
    · exact he
    · exact he.trans (triggerForceSell_frame p true now)

theorem triggerPhase_frame (s : Trading) (w : World) (x : CycleInput) :
    ExitFrame s (s.triggerPhase w x).state :=
  Call.countLoop_preserves (I := ExitFrame s) _ (fun _ p _ h => h.trans (triggerOne_frame p _)) s
    (.refl s)

theorem closePhase_frame (s : Trading) (w : World) (x : CycleInput) :
    ExitFrame s (s.closePhase w x).state :=
  Call.countLoop_preserves (I := ExitFrame s) _ (fun t _ _ h => h.trans (executeClose_frame t w _ _)) s
    (.refl s)

theorem triggerForceSell_keepsSells (p : PositionRecord) (fresh : Bool) (now : Time) :
    KeepsSells s (s.triggerForceSell x p fresh now).state := by
  unfold triggerForceSell
  dsimp only
  split_ifs
  · exact requestClose_keepsSells _ _ _ _
  · exact fun _ _ hk _ => hk

theorem triggerOne_keepsSells (p : PositionRecord) (now : Time) :
    KeepsSells s (s.triggerOne x p now).state := by
  unfold triggerOne
  split_ifs
  · exact fun _ _ hk _ => hk
  · exact triggerForceSell_keepsSells p false now
  · intro k r hk hr
    dsimp only
    split
    · exact requestClose_keepsSells _ _ _ _ k r hk hr
    · exact hk
    · exact triggerForceSell_keepsSells p true now k r hk hr

/-- **The trigger phase moves positions on their way out and nothing else.** -/
theorem triggerPhase_exits :
    Exits s (s.triggerPhase w x).state ∧ KeepsSells s (s.triggerPhase w x).state := by
  refine Call.countLoop_preserves (I := fun t => Exits s t ∧ KeepsSells s t) _ (fun t p _ h => ?_) s
    ⟨.refl s, fun _ _ hk _ => hk⟩
  exact ⟨h.1.trans (triggerOne_exits p _),
    fun k r hk hr => triggerOne_keepsSells p _ k r (h.2 k r hk hr) hr⟩

theorem reconcileOne_frame (now : Time) (s : Trading) (c : ClaimRecord) :
    SettleFrame s (reconcileOne now s c) := by
  unfold reconcileOne
  split_ifs <;> exact ⟨rfl, rfl, rfl, rfl, le_rfl⟩

/-- What every turn of `_reconcile_external` preserves, a call preserves. -/
theorem reconcileExternal_preserves {I : Trading → Prop} (w : World)
    (hone : ∀ t, ∀ c ∈ s.claims.getPendingClaims, I t → I (reconcileOne (s.instant w).now t c))
    (h : I s) : I (s.reconcileExternal w) := by
  have hfold : ∀ cs ⊆ s.claims.getPendingClaims, ∀ t, I t →
      I (cs.foldl (reconcileOne (s.instant w).now) t) := by
    intro cs
    induction cs with
    | nil => exact fun _ t ht => ht
    | cons c cs ih =>
      intro hsub t ht
      exact ih (List.subset_of_cons_subset hsub) _ (hone t c (hsub List.mem_cons_self) ht)
  exact hfold _ (List.Subset.refl _) s h

/-- **Reconciliation leaves positions, orders and exits alone.** -/
theorem reconcileExternal_frame (w : World) (s : Trading) :
    SettleFrame s (s.reconcileExternal w) :=
  reconcileExternal_preserves (I := SettleFrame s) w
    (fun t c _ h => h.trans (reconcileOne_frame _ t c)) ⟨rfl, rfl, rfl, rfl, le_rfl⟩

theorem reconcileOne_settlement (now : Time) (s : Trading) (c : ClaimRecord) :
    (reconcileOne now s c).settlement = s.settlement := by
  unfold reconcileOne
  split_ifs <;> rfl

/-- The claim after reconciliation: a pending one is taken as settled, unless settlement retries it. -/
def reconciledClaim (s : Trading) (now : Time) (c : ClaimRecord) : ClaimRecord :=
  if c.isPending && !s.settlement.isPositionInRetry c.positionId then
    ClaimManager.reconciled c now
  else c

theorem reconcile_foldl_get? (now : Time) (k : ClaimId) (cs : List ClaimRecord) : ∀ s : Trading,
    (cs.foldl (reconcileOne now) s).claims.claims.get? k = (s.claims.claims.get? k).map fun r =>
      if (∃ c ∈ cs, c.claimId = k ∧ s.settlement.isPositionInRetry c.positionId = false) ∧
        r.isSuccess = false then ClaimManager.reconciled r now else r := by
  induction cs with
  | nil =>
    intro s
    simp
  | cons c cs ih =>
    intro s
    rw [List.foldl_cons, ih (reconcileOne now s c), reconcileOne_settlement]
    cases hretry : s.settlement.isPositionInRetry c.positionId with
    | true =>
      have hstay : reconcileOne now s c = s := by
        unfold reconcileOne
        rw [if_pos hretry]
      rw [hstay]
      simp [hretry]
    | false =>
      have hmark : (reconcileOne now s c).claims = (s.claims.markExternallySettled c.claimId now).1 := by
        unfold reconcileOne
        rw [hretry]
        rfl
      rw [hmark, ClaimManager.markExternallySettled_get?, Option.map_map]
      refine congrArg (fun f => Option.map f (s.claims.claims.get? k)) (funext fun r => ?_)
      have hdone : (ClaimManager.reconciled r now).isSuccess = true := rfl
      by_cases hk : k = c.claimId
      · cases hs : r.isSuccess with
        | true => simp [hs]
        | false => simp [hk, hs, hdone, hretry]
      · simp [hk, Ne.symm hk]

/-- **Reconciliation, claim by claim.** -/
theorem reconcileExternal_get? (w : World) (s : Trading) (k : ClaimId) :
    (s.reconcileExternal w).claims.claims.get? k =
      (s.claims.claims.get? k).map (s.reconciledClaim (s.instant w).now) := by
  unfold reconcileExternal
  rw [reconcile_foldl_get?]
  cases hc : s.claims.claims.get? k with
  | none => rfl
  | some c =>
    have hkey : c.claimId = k := Lib.Table.key_of_get? hc
    have hlisted : (∃ u ∈ s.claims.getPendingClaims, u.claimId = k ∧
        s.settlement.isPositionInRetry u.positionId = false) ↔
        c.isPending = true ∧ s.settlement.isPositionInRetry c.positionId = false := by
      unfold ClaimManager.getPendingClaims
      constructor
      · rintro ⟨u, hu, huk, hretry⟩
        obtain ⟨hmem, hpending⟩ := List.mem_filter.mp hu
        have hget := Lib.Table.mem_records.mp hmem
        rw [huk, hc] at hget
        obtain rfl := Option.some.inj hget
        exact ⟨hpending, hretry⟩
      · rintro ⟨hpending, hretry⟩
        exact ⟨c, List.mem_filter.mpr ⟨Lib.Table.mem_records_of_get? hc, hpending⟩, hkey, hretry⟩
    have hopen : c.isPending = true → c.isSuccess = false := by
      unfold ClaimRecord.isPending ClaimRecord.isSuccess
      intro h
      rw [of_decide_eq_true h]
      rfl
    rw [Option.map_some, Option.map_some]
    simp only [hlisted, reconciledClaim, Bool.and_eq_true, Bool.not_eq_true']
    by_cases h : c.isPending = true ∧ s.settlement.isPositionInRetry c.positionId = false
    · rw [if_pos ⟨h, hopen h.1⟩, if_pos h]
    · rw [if_neg (fun h' => h h'.1), if_neg h]

/-- **What every phase preserves, a cycle preserves**, however it ends. -/
theorem runCycle_preserves {I : Trading → Prop} (s : Trading) (w : World) (x : CycleInput)
    (hcount : I s.countCycle) (htrigger : ∀ t, I t → I (t.triggerPhase w x).state)
    (hclose : ∀ t, I t → I (t.closePhase w x).state)
    (hsettle : ∀ t, I t → I (t.processSettlements w).state)
    (hreconcile : ∀ t, I t → I (t.reconcileExternal w)) : I (s.runCycle w x).state := by
  have h₁ := htrigger _ hcount
  have h₂ := hclose _ h₁
  have h₃ := hsettle _ h₂
  have h₄ := hreconcile _ h₃
  unfold runCycle
  dsimp only
  generalize s.countCycle.triggerPhase w x = triggers at h₁ h₂ h₃ h₄ ⊢
  cases triggers.result with
  | error e => exact h₁
  | ok triggered =>
    dsimp only
    generalize triggers.state.closePhase w x = closes at h₂ h₃ h₄ ⊢
    cases closes.result with
    | error e => exact h₂
    | ok closed =>
      dsimp only
      generalize closes.state.processSettlements w = settlements at h₃ h₄ ⊢
      cases settlements.result with
      | error e => exact h₃
      | ok settled => exact h₄

theorem runCycle_paperMode (s : Trading) (w : World) (x : CycleInput) :
    (s.runCycle w x).state.exitExecutor.paperMode = s.exitExecutor.paperMode := by
  refine runCycle_preserves (I := fun t => t.exitExecutor.paperMode = s.exitExecutor.paperMode) s w x
    rfl ?_ ?_ ?_ ?_
  · exact fun t h => (triggerPhase_frame t w x).paperMode.trans h
  · exact fun t h => (closePhase_frame t w x).paperMode.trans h
  · exact fun t h =>
      (congrArg ExitExecutor.paperMode (processSettlements_frame w t).exitExecutor).trans h
  · exact fun t h =>
      (congrArg ExitExecutor.paperMode (reconcileExternal_frame w t).exitExecutor).trans h

end Trading

end Polyfast
