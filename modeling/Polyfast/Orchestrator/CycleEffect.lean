import Polyfast.Orchestrator.ExitOrchestrator

/-!
# What an exit cycle does to each position

A turn of the trigger phase looks at its own position only, and so does a turn of the close phase in paper
mode. The loops visit every position once, so a whole cycle maps each position on its own.

* `CycleInput.decision`: the close the trigger phase requests for an open position;
* `triggerPhase_spec`: the trigger phase, position by position;
* `closePhase_spec`: the close phase in paper mode, position by position;
* `runCycle_positions`: both together.
-/

namespace Polyfast

/-- A close that is requested: the reason and the force-sell triggers. -/
abbrev CloseDecision := Option (CloseReason × List ForceSellTrigger)

namespace CycleInput

variable (x : CycleInput) (e : ExitEvaluator) (p : PositionRecord)

/-- What force sell asks for. -/
def forceDecision (outcomeFresh : Bool) : CloseDecision :=
  let signal := e.evaluateForceSell p (x.price p) (x.secs p) outcomeFresh
  if signal.shouldExit then some (.forceSell, signal.triggerSet) else none

/-- What the trigger phase asks for: nothing without a price, force sell only at a stale price, else take
profit or stop loss before force sell. -/
def decision : CloseDecision :=
  if x.price p ≤ 0 then none
  else if x.isStale p then x.forceDecision e p false
  else
    let signal := (e.evaluate p (x.price p)).2
    if signal.shouldExit then signal.reason.map (fun reason => (reason, []))
    else x.forceDecision e p true

end CycleInput

/-- The position after a decision. -/
def PositionRecord.decided (p : PositionRecord) (d : CloseDecision) (now : Time) : PositionRecord :=
  match d with
  | some (reason, triggers) => (p.inState .closingRequested).withCloseRequest reason triggers 0 now
  | none => p

namespace Trading

variable {s t : Trading} {x : CycleInput} {p : PositionRecord} {now : Time}

/-! ### The trigger phase -/

/-- One turn changes the position as decided, and the remembered prices. -/
structure Decides (d : CloseDecision) (now : Time) (p : PositionRecord) (s s' : Trading) : Prop where
  self : s'.tracker.positions.get? p.positionId = some (p.decided d now)
  others : OnlyAt p.positionId s s'
  evaluator : ∃ l, s'.evaluator = { s.evaluator with lastPrices := l } ∧
    ∀ k, k ≠ p.positionId → l.get? k = s.evaluator.lastPrices.get? k
  exitExecutor : s'.exitExecutor = s.exitExecutor
  trace : s'.trace = s.trace

theorem Decides.refl (hp : s.tracker.positions.get? p.positionId = some p) : Decides none now p s s :=
  ⟨hp, fun _ _ => rfl, ⟨_, rfl, fun _ _ => rfl⟩, rfl, rfl⟩

theorem requestClose_decides (now : Time) (hp : s.tracker.positions.get? p.positionId = some p)
    (hopen : p.isOpen = true) (reason : CloseReason) (triggers : List ForceSellTrigger) :
    (∃ b, (s.requestClose p.positionId reason triggers now).result = .ok b) ∧
      Decides (some (reason, triggers)) now p s
        (s.requestClose p.positionId reason triggers now).state := by
  have hcall : s.tracker.requestClose p.positionId reason triggers 0 now = _ :=
    PositionTracker.requestClose_of_open hp (PositionRecord.isOpen_iff.mp hopen)
  refine ⟨⟨true, ?_⟩, ?_⟩
  · simp only [requestClose, hcall, Call.result_returns]
  · rw [requestClose_state, hcall]
    have hkey : p.positionId = ((p.inState .closingRequested).withCloseRequest reason triggers 0
        now).positionId := rfl
    refine ⟨?_, fun k hk => ?_, ⟨_, rfl, fun _ _ => rfl⟩, rfl, rfl⟩
    · simp only [withTracker, Call.state_returns, PositionTracker.positions_persist,
        PositionTracker.positions_write]
      rw [hkey]
      exact Lib.Table.get?_put_self _ _
    · simp only [withTracker, Call.state_returns, PositionTracker.positions_persist,
        PositionTracker.positions_write]
      exact Lib.Table.get?_put_ne _ (hkey ▸ hk.symm)

theorem triggerForceSell_decides (x : CycleInput) (now : Time)
    (hp : s.tracker.positions.get? p.positionId = some p)
    (hopen : p.isOpen = true) (fresh : Bool) :
    (∃ b, (s.triggerForceSell x p fresh now).result = .ok b) ∧
      Decides (x.forceDecision s.evaluator p fresh) now p s
        (s.triggerForceSell x p fresh now).state := by
  unfold triggerForceSell CycleInput.forceDecision
  dsimp only
  split_ifs
  · exact requestClose_decides now hp hopen _ _
  · exact ⟨⟨false, rfl⟩, .refl hp⟩

/-- **One turn of the trigger phase.** -/
theorem triggerOne_decides (x : CycleInput) (now : Time)
    (hp : s.tracker.positions.get? p.positionId = some p)
    (hopen : p.isOpen = true) :
    (∃ b, (s.triggerOne x p now).result = .ok b) ∧
      Decides (x.decision s.evaluator p) now p s (s.triggerOne x p now).state := by
  unfold triggerOne CycleInput.decision
  split_ifs
  · exact ⟨⟨false, rfl⟩, .refl hp⟩
  · exact triggerForceSell_decides x now hp hopen false
  · obtain ⟨l, hl, hother⟩ := ExitEvaluator.evaluate_fst s.evaluator p (x.price p)
    have hreason := @ExitEvaluator.evaluate_reason s.evaluator p (x.price p)
    -- the turn goes on with the evaluator that remembers the price
    have hseen : ∀ {d : CloseDecision} {s' : Trading},
        Decides d now p { s with evaluator := { s.evaluator with lastPrices := l } } s' →
          Decides d now p s s' := by
      intro d s' hd
      obtain ⟨l', hl', hother'⟩ := hd.evaluator
      exact ⟨hd.self, hd.others, ⟨l', hl', fun k hk => (hother' k hk).trans (hother k hk)⟩,
        hd.exitExecutor, hd.trace⟩
    dsimp only
    rw [hl]
    cases hexit : (s.evaluator.evaluate p (x.price p)).2.shouldExit with
    | true =>
      rcases hreason hexit with ⟨hr, -⟩ | hr
      · rw [hr]
        obtain ⟨hok, hd⟩ := requestClose_decides now
          (s := { s with evaluator := { s.evaluator with lastPrices := l } }) hp hopen .takeProfit []
        exact ⟨hok, hseen hd⟩
      · rw [hr]
        obtain ⟨hok, hd⟩ := requestClose_decides now
          (s := { s with evaluator := { s.evaluator with lastPrices := l } }) hp hopen .stopLoss []
        exact ⟨hok, hseen hd⟩
    | false =>
      obtain ⟨hok, hd⟩ := triggerForceSell_decides x now
        (s := { s with evaluator := { s.evaluator with lastPrices := l } }) hp hopen true
      exact ⟨hok, hseen hd⟩

/-- The position after the trigger phase. -/
def afterTrigger (s : Trading) (x : CycleInput) (now : Time) (p : PositionRecord) : PositionRecord :=
  if p.isOpen then p.decided (x.decision s.evaluator p) now else p

/-- The trigger phase with `rest` still to be visited. -/
structure Triggering (s : Trading) (x : CycleInput) (now : Time) (rest : List PositionRecord)
    (t : Trading) : Prop where
  nodup : (rest.map PositionRecord.positionId).Nodup
  still : ∀ p ∈ rest, s.tracker.positions.get? p.positionId = some p ∧ p.isOpen = true
  positions : ∀ k, t.tracker.positions.get? k =
    if k ∈ rest.map PositionRecord.positionId then s.tracker.positions.get? k
    else (s.tracker.positions.get? k).map (s.afterTrigger x now)
  evaluator : ∃ l, t.evaluator = { s.evaluator with lastPrices := l } ∧
    ∀ k ∈ rest.map PositionRecord.positionId, l.get? k = s.evaluator.lastPrices.get? k
  exitExecutor : t.exitExecutor = s.exitExecutor
  trace : t.trace = s.trace

theorem decision_congr {e : ExitEvaluator} {l : Lib.Dict PositionId ℚ}
    (h : l.get? p.positionId = e.lastPrices.get? p.positionId) :
    x.decision { e with lastPrices := l } p = x.decision e p := by
  have hforce : ∀ fresh, x.forceDecision { e with lastPrices := l } p fresh =
      x.forceDecision e p fresh := fun _ => rfl
  simp only [CycleInput.decision, ExitEvaluator.evaluate_congr h, hforce]

theorem Triggering.turn {rest : List PositionRecord} (h : Triggering s x now (p :: rest) t) :
    (∃ b, (t.triggerOne x p now).result = .ok b) ∧
      Triggering s x now rest (t.triggerOne x p now).state := by
  have hnodup := h.nodup
  rw [List.map_cons, List.nodup_cons] at hnodup
  obtain ⟨hold, hopen⟩ := h.still p List.mem_cons_self
  obtain ⟨l, hl, hlast⟩ := h.evaluator
  have hp : t.tracker.positions.get? p.positionId = some p := by
    rw [h.positions, if_pos (by simp), hold]
  obtain ⟨hok, hd⟩ := triggerOne_decides x now hp hopen
  have hdec : x.decision t.evaluator p = x.decision s.evaluator p := by
    rw [hl]
    exact decision_congr (hlast _ (by simp))
  rw [hdec] at hd
  refine ⟨hok, hnodup.2, fun q hq => h.still q (List.mem_cons_of_mem _ hq), fun k => ?_, ?_,
    hd.exitExecutor.trans h.exitExecutor, hd.trace.trans h.trace⟩
  · by_cases hk : k = p.positionId
    · rw [hk, hd.self, if_neg hnodup.1, hold, Option.map_some, afterTrigger, if_pos hopen]
    · rw [hd.others k hk, h.positions k]
      simp only [List.map_cons, List.mem_cons, hk, false_or]
  · obtain ⟨l', hl', hother⟩ := hd.evaluator
    refine ⟨l', by rw [hl', hl], fun k hk => ?_⟩
    have hne : k ≠ p.positionId := fun heq => hnodup.1 (heq ▸ hk)
    rw [hother k hne, hl]
    exact hlast k (List.mem_cons_of_mem _ hk)

/-- The ids of a selection of the positions are distinct. -/
theorem selected_nodup (s : Trading) (f : PositionRecord → Bool) :
    ((s.tracker.positions.records.filter f).map PositionRecord.positionId).Nodup :=
  (Lib.Table.nodup_map_key s.tracker.positions).sublist (List.filter_sublist.map _)

theorem mem_selected {f : PositionRecord → Bool} {k : PositionId} :
    k ∈ (s.tracker.positions.records.filter f).map PositionRecord.positionId ↔
      ∃ p, s.tracker.positions.get? k = some p ∧ f p = true := by
  constructor
  · intro h
    obtain ⟨p, hp, rfl⟩ := List.mem_map.mp h
    rw [List.mem_filter] at hp
    exact ⟨p, Lib.Table.mem_records.mp hp.1, hp.2⟩
  · rintro ⟨p, hp, hf⟩
    have hkey : p.positionId = k := Lib.Table.key_of_get? hp
    rw [← hkey]
    exact List.mem_map_of_mem (List.mem_filter.mpr ⟨Lib.Table.mem_records_of_get? hp, hf⟩)

/-- **The trigger phase** returns, and decides on every open position by itself. -/
theorem triggerPhase_spec (s : Trading) (w : World) (x : CycleInput) :
    (∃ n, (s.triggerPhase w x).result = .ok n) ∧
      Triggering s x (s.instant w).now [] (s.triggerPhase w x).state := by
  refine Call.countLoop_rule (J := Triggering s x (s.instant w).now) (fun t p rest h => h.turn) _ s ?_
  refine ⟨selected_nodup s _, fun p hp => ?_, fun k => ?_, ⟨_, rfl, fun _ _ => rfl⟩, rfl, rfl⟩
  · rw [List.mem_filter] at hp
    exact ⟨Lib.Table.mem_records.mp hp.1, hp.2⟩
  · split_ifs with hk
    · rfl
    · rw [mem_selected] at hk
      cases hget : s.tracker.positions.get? k with
      | none => rfl
      | some p =>
        rw [Option.map_some, afterTrigger, if_neg fun hopen => hk ⟨p, hget, hopen⟩]

/-! ### The close phase in paper mode -/

instance (s : Trading) (r : PositionRecord) (now : Time) : Decidable (s.CoolsDown r now) :=
  inferInstanceAs (Decidable (_ ∧ _))

instance (s : Trading) (r : PositionRecord) (price : ℚ) : Decidable (s.Cancels r price) :=
  inferInstanceAs (Decidable (_ ∧ _ ∧ _))

instance (s : Trading) (r : PositionRecord) (price : ℚ) (now : Time) :
    Decidable (s.Sends r price now) :=
  inferInstanceAs (Decidable (_ ∧ _ ∧ _))

/-- The position after the close phase: sold at the cycle's price, its take profit taken back, or as it
was. -/
def afterClose (s : Trading) (x : CycleInput) (now : Time) (p : PositionRecord) : PositionRecord :=
  if s.Sends p (x.price p) now then
    PositionTracker.sold p (x.price p) defaultCryptoFeeRate now
  else if s.Cancels p (x.price p) then p.cancelClose
  else p

/-- What a sale leaves alone for the other positions. -/
structure ClosesAlone (id : PositionId) (s s' : Trading) : Prop where
  others : OnlyAt id s s'
  evaluator : s'.evaluator = s.evaluator
  cooldown : ∀ k, k ≠ id → ∀ now,
    s'.exitExecutor.coolingDown k now = s.exitExecutor.coolingDown k now
  trace : s'.trace = s.trace

theorem ClosesAlone.refl (id : PositionId) (s : Trading) : ClosesAlone id s s :=
  ⟨fun _ _ => rfl, rfl, fun _ _ _ => rfl, rfl⟩

theorem countRetry_alone (s : Trading) (p : PositionRecord) (id : PositionId) :
    ClosesAlone id s (s.countRetry p) := by
  unfold countRetry
  split_ifs <;> exact ⟨fun _ _ => rfl, rfl, fun _ _ _ => rfl, rfl⟩

theorem closeSold_alone (s : Trading) (id : PositionId) (price rate : ℚ) (now : Time) :
    ClosesAlone id s (s.closeSold id price rate now).1 := by
  have hothers : ∀ k, k ≠ id →
      (s.tracker.confirmClose id price (some rate) now).state.positions.get? k =
        s.tracker.positions.get? k :=
    fun k hk => PositionTracker.confirmClose_get?_ne hk.symm _ _ _
  have hcool : ∀ k, k ≠ id → ∀ now', ExitExecutor.coolingDown
      { s.exitExecutor with
        closeCount := s.exitExecutor.closeCount + 1
        lastCloseFailAt := s.exitExecutor.lastCloseFailAt.erase id } k now' =
      s.exitExecutor.coolingDown k now' := by
    intro k hk now'
    simp only [ExitExecutor.coolingDown, Lib.Dict.get?_erase_ne _ hk.symm]
  unfold closeSold
  dsimp only
  split
  · exact ⟨hothers, rfl, fun _ _ _ => rfl, rfl⟩
  · split_ifs <;> exact ⟨hothers, rfl, hcool, rfl⟩

/-- **One turn of the close phase** in paper mode. -/
theorem executeClose_paper (hp : s.tracker.positions.get? p.positionId = some p)
    (hc : isClosing p = true) (hmode : s.exitExecutor.paperMode = true) (w : World) :
    (∃ b, (s.executeClose w p.positionId (x.price p)).result = .ok b) ∧
      (s.executeClose w p.positionId (x.price p)).state.tracker.positions.get? p.positionId =
        some (s.afterClose x (s.instant w).now p) ∧
      ClosesAlone p.positionId s (s.executeClose w p.positionId (x.price p)).state := by
  have hdone : ∀ {t : Trading} {a : Except PyError Bool},
      s.closeBegin p.positionId (x.price p) (s.instant w).now = (t, .done a) →
      s.executeClose w p.positionId (x.price p) = ⟨t, a⟩ := by
    intro t a h
    simp only [executeClose, h]
  by_cases hsends : s.Sends p (x.price p) (s.instant w).now
  · obtain ⟨hstatus, hpos, -⟩ := closeBegin_paper hp hsends hmode
    have hcall := hdone (Prod.ext rfl hstatus)
    rw [hcall]
    refine ⟨⟨true, rfl⟩, ?_, ?_⟩
    · rw [hpos, afterClose, if_pos hsends]
      exact Lib.Table.get?_put_self _
        (PositionTracker.sold p (x.price p) defaultCryptoFeeRate (s.instant w).now)
    · obtain ⟨-, honly, -⟩ := closeBegin_exits s p.positionId (x.price p) (s.instant w).now
      have hsold := closeSold_alone ((s.countRetry p).writePosition (p.inState .closePending))
        p.positionId (x.price p) defaultCryptoFeeRate (s.instant w).now
      have hretry := countRetry_alone s p p.positionId
      rw [closeBegin_sends hp hsends, if_pos hmode] at honly ⊢
      exact ⟨honly, hsold.evaluator.trans hretry.evaluator,
        fun k hk now => (hsold.cooldown k hk now).trans (hretry.cooldown k hk now),
        hsold.trace.trans hretry.trace⟩
  · by_cases hcancels : s.Cancels p (x.price p)
    · rw [hdone (closeBegin_cancels hp hcancels)]
      refine ⟨⟨false, rfl⟩, ?_, fun k hk => ?_, rfl, fun _ _ _ => rfl, rfl⟩
      · rw [afterClose, if_neg hsends, if_pos hcancels]
        exact Lib.Table.get?_put_self _ p.cancelClose
      · exact PositionTracker.get?_write_ne hk.symm
    · have hcools : s.CoolsDown p (s.instant w).now := by
        by_contra hcools
        exact hsends ⟨hc, hcools, hcancels⟩
      rw [hdone (closeBegin_idle hp (.inr hcools))]
      refine ⟨⟨false, rfl⟩, ?_, .refl _ _⟩
      rw [afterClose, if_neg hsends, if_neg hcancels]
      exact hp

/-- The close phase with `rest` still to be visited. -/
structure Closing (s : Trading) (x : CycleInput) (now : Time) (rest : List PositionRecord)
    (t : Trading) : Prop where
  nodup : (rest.map PositionRecord.positionId).Nodup
  still : ∀ p ∈ rest, s.tracker.positions.get? p.positionId = some p ∧ isClosing p = true
  positions : ∀ k, t.tracker.positions.get? k =
    if k ∈ rest.map PositionRecord.positionId then s.tracker.positions.get? k
    else (s.tracker.positions.get? k).map (s.afterClose x now)
  evaluator : t.evaluator = s.evaluator
  cooldown : ∀ k ∈ rest.map PositionRecord.positionId, ∀ now,
    t.exitExecutor.coolingDown k now = s.exitExecutor.coolingDown k now
  paperMode : t.exitExecutor.paperMode = s.exitExecutor.paperMode
  trace : t.trace = s.trace

/-- What happens to a position depends on the evaluator's settings and its own cooldown. -/
theorem afterClose_congr {l : Lib.Dict PositionId ℚ}
    (he : t.evaluator = { s.evaluator with lastPrices := l })
    (hcool : t.exitExecutor.coolingDown p.positionId now =
      s.exitExecutor.coolingDown p.positionId now) : t.afterClose x now p = s.afterClose x now p := by
  have hcancels : t.Cancels p (x.price p) ↔ s.Cancels p (x.price p) := by
    unfold Cancels
    rw [he]
    rfl
  have hsends : t.Sends p (x.price p) now ↔ s.Sends p (x.price p) now := by
    unfold Sends CoolsDown
    rw [hcool, hcancels]
  simp only [afterClose, hsends, hcancels]

theorem Closing.turn {w : World} {rest : List PositionRecord} (hmode : s.exitExecutor.paperMode = true)
    (h : Closing s x (s.instant w).now (p :: rest) t) :
    (∃ b, (t.executeClose w p.positionId (x.price p)).result = .ok b) ∧
      Closing s x (s.instant w).now rest (t.executeClose w p.positionId (x.price p)).state := by
  have hnodup := h.nodup
  rw [List.map_cons, List.nodup_cons] at hnodup
  obtain ⟨hold, hclosing⟩ := h.still p List.mem_cons_self
  have hp : t.tracker.positions.get? p.positionId = some p := by
    rw [h.positions, if_pos (by simp), hold]
  have hinstant : t.instant w = s.instant w := by
    rw [instant, instant, h.trace]
  obtain ⟨hok, hself, halone⟩ :=
    executeClose_paper (x := x) hp hclosing (h.paperMode.trans hmode) w
  have hafter : t.afterClose x (s.instant w).now p = s.afterClose x (s.instant w).now p :=
    afterClose_congr h.evaluator (h.cooldown _ (by simp) _)
  rw [hinstant, hafter] at hself
  refine ⟨hok, hnodup.2, fun q hq => h.still q (List.mem_cons_of_mem _ hq), fun k => ?_,
    halone.evaluator.trans h.evaluator, fun k hk now => ?_,
    (executeClose_frame t w _ _).paperMode.trans h.paperMode, halone.trace.trans h.trace⟩
  · by_cases hk : k = p.positionId
    · rw [hk, hself, if_neg hnodup.1, hold, Option.map_some]
    · rw [halone.others k hk, h.positions k]
      simp only [List.map_cons, List.mem_cons, hk, false_or]
  · have hne : k ≠ p.positionId := fun heq => hnodup.1 (heq ▸ hk)
    exact (halone.cooldown k hne now).trans (h.cooldown k (List.mem_cons_of_mem _ hk) now)

/-- **The close phase** in paper mode returns, and treats every closing position by itself. -/
theorem closePhase_spec (s : Trading) (w : World) (x : CycleInput)
    (hmode : s.exitExecutor.paperMode = true) :
    (∃ n, (s.closePhase w x).result = .ok n) ∧
      Closing s x (s.instant w).now [] (s.closePhase w x).state := by
  refine Call.countLoop_rule (J := Closing s x (s.instant w).now) (fun t p rest h => h.turn hmode) _ s
    ?_
  refine ⟨selected_nodup s _, fun p hp => ?_, fun k => ?_, rfl, fun _ _ _ => rfl, rfl, rfl⟩
  · rw [List.mem_filter] at hp
    exact ⟨Lib.Table.mem_records.mp hp.1, hp.2⟩
  · split_ifs with hk
    · rfl
    · rw [mem_selected] at hk
      cases hget : s.tracker.positions.get? k with
      | none => rfl
      | some p =>
        have hnot : ¬isClosing p = true := fun hc => hk ⟨p, hget, hc⟩
        have hcancels : ¬s.Cancels p (x.price p) := by
          rintro ⟨hs, -⟩
          exact hnot (isClosing_iff.mpr (.inl hs))
        rw [Option.map_some, afterClose, if_neg fun hsends => hnot hsends.1, if_neg hcancels]

/-- The position after a whole cycle in paper mode. -/
def afterCycle (s : Trading) (x : CycleInput) (now : Time) (p : PositionRecord) : PositionRecord :=
  s.afterClose x now (s.afterTrigger x now p)

/-- **A whole cycle in paper mode**, position by position. -/
theorem runCycle_positions (s : Trading) (w : World) (x : CycleInput)
    (hmode : s.exitExecutor.paperMode = true) (k : PositionId) :
    (s.runCycle w x).state.tracker.positions.get? k =
      (s.tracker.positions.get? k).map (s.afterCycle x (s.instant w).now) := by
  obtain ⟨⟨n, hn⟩, ht⟩ := triggerPhase_spec s.countCycle w x
  obtain ⟨l, hl, -⟩ := ht.evaluator
  have htmode : (s.countCycle.triggerPhase w x).state.exitExecutor.paperMode = true := by
    rw [ht.exitExecutor]
    exact hmode
  obtain ⟨⟨m, hm⟩, hc⟩ := closePhase_spec (s.countCycle.triggerPhase w x).state w x htmode
  have hinstant : (s.countCycle.triggerPhase w x).state.instant w = s.instant w := by
    rw [instant, ht.trace]
    rfl
  have htracker : (s.runCycle w x).state.tracker =
      ((s.countCycle.triggerPhase w x).state.closePhase w x).state.tracker := by
    have hsettle := processSettlements_frame w
      ((s.countCycle.triggerPhase w x).state.closePhase w x).state
    simp only [runCycle, hn, hm]
    split
    · exact hsettle.tracker
    · exact (reconcileExternal_frame w _).tracker.trans hsettle.tracker
  rw [htracker, hc.positions k, if_neg (by simp), ht.positions k, if_neg (by simp), hinstant,
    Option.map_map]
  refine congrArg (Option.map · _) (funext fun p => ?_)
  refine afterClose_congr hl ?_
  rw [ht.exitExecutor]
  rfl

end Trading

end Polyfast
