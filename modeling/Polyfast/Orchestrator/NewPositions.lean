import Polyfast.Orchestrator.Desk

/-!
# Where positions come from

The tracker takes a position in at `create_pending`, which only a call of `execute` makes, and at
`restore_position`. Everything else writes positions that are there, also where an answer comes late and the
tracker was reset in between.

* `PositionTracker.NoNew`: no position is added;
* `confirmFill_noNew`, `rejectFill_noNew`, `confirmClose_noNew`: the methods of the tracker, in any state;
* `Desk.Step.noNew`: every step of a desk but `execute`.
-/

namespace Polyfast

namespace PositionTracker

variable {t t' t'' : PositionTracker} {id : PositionId} {r r' : PositionRecord}

/-- Every position was there before. -/
def NoNew (t t' : PositionTracker) : Prop :=
  ∀ k r', t'.positions.get? k = some r' → ∃ r, t.positions.get? k = some r

theorem NoNew.refl (t : PositionTracker) : NoNew t t := fun _ r' h => ⟨r', h⟩

theorem NoNew.of_positions (h : t'.positions = t.positions) : NoNew t t' := fun k r' hk => ⟨r', by rw [← h, hk]⟩

theorem NoNew.trans (h : NoNew t t') (h' : NoNew t' t'') : NoNew t t'' := by
  intro k r'' hk
  obtain ⟨r', hr'⟩ := h' k r'' hk
  exact h k r' hr'

theorem NoNew.isSome (h : NoNew t t') (k : PositionId) (hk : (t'.positions.get? k).isSome = true) :
    (t.positions.get? k).isSome = true := by
  obtain ⟨r', hr'⟩ := Option.isSome_iff_exists.mp hk
  exact Option.isSome_iff_exists.mpr (h k r' hr')

/-- A position that is there is written. -/
theorem NoNew.put (h : t.positions.get? id = some r) (r' : PositionRecord) (hid : r'.positionId = id)
    (hpos : t'.positions = t.positions.put r') : NoNew t t' := by
  intro k u hk
  by_cases hkey : k = id
  · subst hkey
    exact ⟨r, h⟩
  · rw [hpos, Lib.Table.get?_put_ne _ (fun heq => hkey (heq.symm.trans hid))] at hk
    exact ⟨u, hk⟩

theorem NoNew.quiets (h : QuietMoves t t') : NoNew t t' := by
  intro k r' hk
  have hsome := quiets_isSome h k
  rw [hk, Option.isSome_some] at hsome
  exact Option.isSome_iff_exists.mp hsome.symm

theorem transitionTo_positionId {target : PositionState} (h : r.transitionTo target = .ok r') :
    r'.positionId = r.positionId := by
  unfold PositionRecord.transitionTo at h
  split_ifs at h
  cases h
  rfl

theorem confirmFill_noNew (t : PositionTracker) (id : PositionId) (fillPrice : ℚ) (feeRate : Option ℚ) (now : Time) :
    NoNew t (t.confirmFill id fillPrice feeRate now).state := by
  obtain ⟨heq, -⟩ | ⟨r, entry, hr, -, ⟨-, heq⟩ | ⟨-, heq⟩⟩ := confirmFill_spec (t := t) id fillPrice feeRate now
  · rw [heq]
    exact .refl t
  · have hid : r.positionId = id := Lib.Table.key_of_get? hr
    rw [heq]
    exact .put hr (r.withEntry fillPrice entry now) hid rfl
  · have hid : r.positionId = id := Lib.Table.key_of_get? hr
    refine .put hr ((r.withEntry fillPrice entry now).inState .openConfirmed) hid ?_
    rw [heq, positions_persist, positions_write]

theorem rejectFill_noNew (t : PositionTracker) (id : PositionId) (now : Time) :
    NoNew t (t.rejectFill id now).state := by
  obtain ⟨-, heq⟩ | ⟨r, hr, ⟨-, heq⟩ | ⟨-, heq⟩⟩ := rejectFill_cases (t := t) id now
  · rw [heq]
    exact .refl t
  · rw [heq]
    exact .of_positions (positions_takeBack _)
  · have hid : (rejected r now).positionId = id := (Lib.Table.key_of_get? hr : r.positionId = id)
    refine .put hr (rejected r now) hid ?_
    rw [heq, positions_write, positions_takeBack]

theorem confirmClose_noNew (t : PositionTracker) (id : PositionId) (exitFillPrice : ℚ) (feeRate : Option ℚ)
    (now : Time) : NoNew t (t.confirmClose id exitFillPrice feeRate now).state := by
  obtain ⟨-, heq⟩ | ⟨r, hr, ⟨-, heq⟩ | ⟨data, heq⟩⟩ := confirmClose_cases (t := t) id exitFillPrice feeRate now
  · rw [heq]
    exact .refl t
  · rw [heq]
    exact .put hr r (Lib.Table.key_of_get? hr) rfl
  · have hid : r.positionId = id := Lib.Table.key_of_get? hr
    refine .put hr ((r.inState .closed).withExit exitFillPrice data now) hid ?_
    rw [heq, positions_persist, positions_write]

end PositionTracker

namespace Trading

open PositionTracker

variable {s : Trading} {id : PositionId}

theorem rejectOrder_noNew (s : Trading) (id : PositionId) (r : ExecutionResult) (now : Time) :
    NoNew s.tracker (s.rejectOrder id r now).1.tracker := by
  unfold rejectOrder
  dsimp only
  split <;> exact rejectFill_noNew s.tracker id now

theorem orderReply_noNew (s : Trading) (i : OrderIntent) (id : PositionId) (reply : Option OrderReply) (now : Time) :
    NoNew s.tracker (s.orderReply i id reply now).1.tracker := by
  cases reply with
  | none => exact rejectOrder_noNew s id _ now
  | some reply =>
    unfold orderReply
    by_cases hmatched : reply.status = "matched"
    · simp only [if_pos hmatched]
      split
      · exact .refl _
      · split
        · exact .refl _
        · split <;> exact confirmFill_noNew s.tracker id _ _ now
    · simp only [if_neg hmatched]
      exact rejectOrder_noNew s id _ now

theorem closeSold_noNew (s : Trading) (id : PositionId) (price rate : ℚ) (now : Time) :
    NoNew s.tracker (s.closeSold id price rate now).1.tracker := by
  have hconfirm := confirmClose_noNew s.tracker id price (some rate) now
  unfold closeSold
  dsimp only
  split
  · exact hconfirm
  · split_ifs <;> exact hconfirm

theorem closeFailed_noNew {p : PositionRecord} (now : Time) (h : s.tracker.positions.get? id = some p) :
    NoNew s.tracker (s.closeFailed p now).1.tracker := by
  unfold closeFailed
  split
  · exact .refl _
  · rename_i u hu
    exact .put h u ((transitionTo_positionId hu).trans (Lib.Table.key_of_get? h)) rfl

theorem sellAnswered_noNew (s : Trading) (id : PositionId) (reply : Except PyError (Option OrderReply)) (now : Time) :
    NoNew s.tracker (s.sellAnswered id reply now).1.tracker := by
  cases reply with
  | error e => exact .refl _
  | ok reply =>
    unfold sellAnswered closeEnd
    dsimp only
    split
    · exact .refl _
    · rename_i p hp
      split
      · exact .refl _
      · exact closeFailed_noNew (s := s.answered (.sell id)) now hp
      · exact closeSold_noNew (s.answered (.sell id)) id _ _ now

end Trading

namespace Desk

open PositionTracker

variable {d d' : Desk} {l : Label}

/-- **Only `execute` adds a position.** -/
theorem Step.noNew (hs : Step d l d') (hl : l.isExecute = false) : NoNew d.trading.tracker d'.trading.tracker := by
  have hsettle : ∀ {s : Trading}, Trading.SettleFrame d.trading s → NoNew d.trading.tracker s.tracker :=
    fun hf => .of_positions (congrArg PositionTracker.positions hf.tracker)
  have hexits : ∀ {s : Trading}, Trading.Exits d.trading s → NoNew d.trading.tracker s.tracker :=
    fun he => .quiets (ExitMoves.quiet he.moves)
  cases hs with
  | execute i now => cases hl
  | orderReply l₁ l₂ i id reply now h =>
    rw [trading_afterExecute]
    exact Trading.orderReply_noNew d.trading i id reply now
  | orderLost l₁ l₂ i id h => exact .refl _
  | orderFetched l₁ l₂ r reply now h => exact .refl _
  | orderFetchLost l₁ l₂ r h => exact .refl _
  | cycle => exact .refl _
  | trigger w x => exact hexits Trading.triggerPhase_exits.1
  | close id price now =>
    rw [trading_afterClose]
    exact hexits (Trading.closeBegin_exits d.trading id price now).1
  | sellReply l₁ l₂ id reply now h =>
    rw [trading_afterClose]
    exact Trading.sellAnswered_noNew d.trading id reply now
  | sellLost l₁ l₂ id h => exact .refl _
  | sellFetched l₁ l₂ id reply now h => exact .refl _
  | sellFetchLost l₁ l₂ id h => exact .refl _
  | resolution w c => exact hsettle (Trading.checkResolved_frame w d.trading c)
  | claim p now => exact .refl _
  | redeem w p id => exact hsettle (Trading.executeRedeemForClaim_frame w d.trading p id)
  | writeRetry r => exact .refl _
  | dropRetry id => exact .refl _
  | reconcile w => exact hsettle (Trading.reconcileExternal_frame w d.trading)

end Desk

end Polyfast
