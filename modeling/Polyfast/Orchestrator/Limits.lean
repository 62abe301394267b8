import Polyfast.Orchestrator.Desk

/-!
# The position limits

What the two limits of the validator achieve over whole runs of a desk, started empty.

* `creates_none_pending`: a position is created only while no other of its event is pending;
* `eventMax_safety`: the event maximum bounds the positions of an event that were not rejected;
* `exposure_le_botMax`: the bot maximum bounds the exposed positions as long as orders pass the checks
  only while fewer positions than that are not closed; the check itself counts the open ones only, and
  `exposure_exceeds_botMax` is a run that gets past it.
-/

namespace Polyfast.Desk

variable {d d' : Desk} {l : Label} {c : ConditionId} {m : ℤ}

theorem Fresh.countsMatch (h : Fresh d) : d.trading.tracker.CountsMatch := by
  intro c
  simp [PositionTracker.getEventFillCount, PositionTracker.notRejected, h.positions, h.eventFills,
    Lib.Dict.getD]

/-- Well-formed, with fill counts that are the numbers of positions that were not rejected. -/
structure Counted (d : Desk) : Prop where
  wellFormed : WellFormed d
  countsMatch : d.trading.tracker.CountsMatch

theorem Fresh.counted (h : Fresh d) : Counted d := ⟨h.wellFormed, h.countsMatch⟩

theorem Counted.step (h : Counted d) (hs : Step d l d') : Counted d' := by
  obtain ⟨hw, he, -⟩ := h.wellFormed.step hs
  refine ⟨hw, ?_⟩
  cases he with
  | create i now t _ _ hc hq =>
    exact (h.countsMatch.create hc).quiets (h.wellFormed.coherent.create hc) hq
  | quiet _ hq => exact h.countsMatch.quiets h.wellFormed.coherent hq

/-! ### The event maximum -/

/-- The limit that a call of `execute` for the event carries. -/
def CarriesEventMax (c : ConditionId) (m : ℤ) (l : Label) : Prop :=
  ∀ i now, l = .execute i now → i.conditionId = c → i.eventMax = m

/-- One step keeps the fill count of an event below its limit. -/
theorem fillCount_step (h : Counted d) (hs : Step d l d') (hm : CarriesEventMax c m l)
    (hle : (d.trading.tracker.getEventFillCount c : ℤ) ≤ max m 0) :
    (d'.trading.tracker.getEventFillCount c : ℤ) ≤ max m 0 := by
  obtain ⟨-, he, -⟩ := h.wellFormed.step hs
  cases he with
  | create i now t hl hmay hc hq =>
    have hquiet := PositionTracker.getEventFillCount_quiets_le hq c
    have hfills := hc.fills c
    by_cases hcond : i.conditionId = c
    · obtain ⟨-, -, hevent, -⟩ := Trading.mayCreate.limits hmay
      have hlt : (d.trading.tracker.getEventFillCount c : ℤ) < m := by
        rw [← hm i now hl hcond, ← hcond]
        exact hevent
      have hone : t.getEventFillCount c = d.trading.tracker.getEventFillCount c + 1 :=
        hfills.trans (congrArg _ (if_pos hcond))
      have hmax : m ≤ max m 0 := le_max_left m 0
      omega
    · have hsame : t.getEventFillCount c = d.trading.tracker.getEventFillCount c :=
        hfills.trans (congrArg _ (if_neg hcond))
      omega
  | quiet _ hq =>
    have hquiet := PositionTracker.getEventFillCount_quiets_le hq c
    omega

/-- A position is new only if its event had no pending one. -/
theorem creates_none_pending (h : WellFormed d) (hs : Step d l d') {k k' : PositionId}
    {r u : PositionRecord} (hnew : d.trading.tracker.positions.get? k = none)
    (hr : d'.trading.tracker.positions.get? k = some r)
    (hu : d.trading.tracker.positions.get? k' = some u) (hpending : u.state = .pendingOpen) :
    u.conditionId ≠ r.conditionId := by
  obtain ⟨-, he, -⟩ := h.step hs
  cases he with
  | create i now t _ hmay hc hq =>
    have hk : d.trading.uuids = k := by
      have hsome := PositionTracker.quiets_isSome hq k
      rw [hr, hc.positions, Lib.Table.get?_put] at hsome
      split_ifs at hsome with hkey
      · exact hkey
      · rw [hnew] at hsome
        cases hsome
    have hcreated : t.positions.get? k = some (d.trading.pendingRecord i now) := by
      rw [hc.positions, ← hk]
      exact Lib.Table.get?_put_self _ (d.trading.pendingRecord i now)
    obtain ⟨r', hr', hcond⟩ := PositionTracker.quiets_conditionId hq hcreated
    rw [hr] at hr'
    obtain rfl := Option.some.inj hr'
    intro heq
    have hnone := hmay.2.1
    rw [Trading.pendingForEvent, List.any_eq_false] at hnone
    refine hnone u (Lib.Table.mem_records_of_get? hu) ?_
    rw [heq, hcond]
    simpa using ⟨rfl, hpending⟩
  | quiet _ hq =>
    have hsome := PositionTracker.quiets_isSome hq k
    rw [hr, hnew] at hsome
    cases hsome

/-- **Event-max safety.** However orders, their answers and exits interleave: if all intents of an event
carry the limit `m`, at most `m` of its positions were not rejected (none, if `m` is negative); and no
position is created while another one of its event is pending. -/
theorem eventMax_safety {tr : List (Lib.Taken Desk Label)} (hd : Fresh d)
    (hrun : Lib.Run Step d tr d') :
    (∀ c m, (∀ x ∈ tr, CarriesEventMax c m x.label) →
      (d'.trading.tracker.notRejected c : ℤ) ≤ max m 0) ∧
    ∀ x ∈ tr, ∀ k r, x.pre.trading.tracker.positions.get? k = none →
      x.post.trading.tracker.positions.get? k = some r →
      ∀ k' u, x.pre.trading.tracker.positions.get? k' = some u → u.state = .pendingOpen →
        u.conditionId ≠ r.conditionId := by
  refine ⟨fun c m hm => ?_, fun x hx k r hnew hr k' u hu hpending => ?_⟩
  · have hinv := hrun.invariant_under
      (I := fun d => Counted d ∧ (d.trading.tracker.getEventFillCount c : ℤ) ≤ max m 0)
      (C := fun _ l => CarriesEventMax c m l)
      (fun t l u ht hl hs => ⟨ht.1.step hs, fillCount_step ht.1 hs hl ht.2⟩)
      ⟨hd.counted, by
        rw [hd.countsMatch c]
        simp [PositionTracker.notRejected, hd.positions]⟩ hm
    rw [← hinv.1.1.countsMatch c]
    exact hinv.1.2
  · have hinv := hrun.invariant (I := WellFormed) (fun t l u ht hs => (ht.step hs).1) hd.wellFormed
    exact creates_none_pending (hinv.2 x hx).1 (hrun.step_of_mem hx) hnew hr hu hpending

/-- The first order of an event is rejected, the second one filled; the two others are refused, one while an
order is pending, one at the limit of 1. -/
theorem eventMax_safety_refused : ∃ tr d', Lib.Run Step (startDesk .live 3) tr d' ∧
    d'.trading.tracker.positions.records.length = 2 ∧
    (d'.trading.tracker.notRejected "event" : ℤ) ≤ max 1 0 ∧
    ∀ x ∈ tr, ∀ k r, x.pre.trading.tracker.positions.get? k = none →
      x.post.trading.tracker.positions.get? k = some r →
      ∀ k' u, x.pre.trading.tracker.positions.get? k' = some u → u.state = .pendingOpen →
        u.conditionId ≠ r.conditionId := by
  have hrun : Lib.Run Step (startDesk .live 3) _ _ := (((((Lib.Run.single
    (.execute _ (orderFor "event") 0)).snoc
    (.execute _ (orderFor "event") 0)).snoc
    (.orderReply _ [] [] (orderFor "event") 0 none 1 (by decide +kernel))).snoc
    (.execute _ (orderFor "event") 2)).snoc
    (.orderReply _ [] [] (orderFor "event") 1 (some { status := "matched" }) 3 (by decide +kernel))).snoc
    (.execute _ (orderFor "event") 4)
  have hsafe := eventMax_safety (startDesk_fresh .live 3) hrun
  refine ⟨_, _, hrun, by decide +kernel, hsafe.1 "event" 1 ?_, hsafe.2⟩
  simp [CarriesEventMax, orderFor]

/-! ### The bot maximum -/

/-- An order that passes its checks does so while fewer than `bot_max` positions are not closed. -/
def RoomLeft (d : Desk) (l : Label) : Prop :=
  ∀ i now, l = .execute i now → d.trading.mayCreate i now →
    (d.trading.tracker.notClosed : ℤ) < d.trading.executor.botMax

/-- One step keeps the positions that are not closed below the limit. -/
theorem notClosed_step (h : WellFormed d) (hs : Step d l d') (hroom : RoomLeft d l)
    (hle : (d.trading.tracker.notClosed : ℤ) ≤ max d.trading.executor.botMax 0) :
    (d'.trading.tracker.notClosed : ℤ) ≤ max d'.trading.executor.botMax 0 := by
  obtain ⟨-, he, hbot⟩ := h.step hs
  rw [hbot]
  cases he with
  | create i now t hl hmay hc hq =>
    have hquiet := PositionTracker.notClosed_quiets_le hq
    have hone := PositionTracker.notClosed_create hc
    have hlt := hroom i now hl hmay
    have hmax : d.trading.executor.botMax ≤ max d.trading.executor.botMax 0 := le_max_left _ 0
    omega
  | quiet _ hq =>
    have hquiet := PositionTracker.notClosed_quiets_le hq
    omega

/-- **The bot maximum bounds the exposure** in every run whose orders pass the checks only while fewer
positions than the maximum are not closed. -/
theorem exposure_le_botMax {tr : List (Lib.Taken Desk Label)} (hd : Fresh d)
    (hrun : Lib.Run Step d tr d') (hroom : ∀ x ∈ tr, RoomLeft x.pre x.label) :
    (d'.trading.tracker.exposure : ℤ) ≤ max d.trading.executor.botMax 0 ∧
      ∀ x ∈ tr, (x.post.trading.tracker.exposure : ℤ) ≤ max d.trading.executor.botMax 0 := by
  have hinv := hrun.invariant_under
    (I := fun t => WellFormed t ∧ t.trading.executor.botMax = d.trading.executor.botMax ∧
      (t.trading.tracker.notClosed : ℤ) ≤ max t.trading.executor.botMax 0)
    (C := RoomLeft)
    (fun t l u ht hl hs => ⟨(ht.1.step hs).1, (ht.1.step hs).2.2.trans ht.2.1,
      notClosed_step ht.1 hs hl ht.2.2⟩)
    ⟨hd.wellFormed, rfl, by simp [PositionTracker.notClosed, hd.positions]⟩ hroom
  have hexposure : ∀ t : Desk, t.trading.executor.botMax = d.trading.executor.botMax →
      (t.trading.tracker.notClosed : ℤ) ≤ max t.trading.executor.botMax 0 →
      (t.trading.tracker.exposure : ℤ) ≤ max d.trading.executor.botMax 0 := by
    intro t hbot hle
    have hsub : t.trading.tracker.exposure ≤ t.trading.tracker.notClosed :=
      PositionTracker.exposure_le_notClosed
    rw [hbot] at hle
    omega
  exact ⟨hexposure d' hinv.1.2.1 hinv.1.2.2,
    fun x hx => hexposure x.post (hinv.2 x hx).2.2.1 (hinv.2 x hx).2.2.2⟩

/-- The exchange fills at the intent's price. -/
def matchedReply : OrderReply := { status := "matched" }

/-- Two positions are opened under a limit of 2, and a third order is refused. -/
theorem exposure_le_botMax_two : ∃ tr d', Lib.Run Step (startDesk .live 2) tr d' ∧
    d'.trading.tracker.exposure = 2 ∧
    (d'.trading.tracker.exposure : ℤ) ≤ max 2 0 ∧ ∀ x ∈ tr, (x.post.trading.tracker.exposure : ℤ) ≤ max 2 0 := by
  have hrun : Lib.Run Step (startDesk .live 2) _ _ := ((((Lib.Run.single
    (.execute _ (orderFor "a") 0)).snoc
    (.orderReply _ [] [] (orderFor "a") 0 (some matchedReply) 0 (by decide +kernel))).snoc
    (.execute _ (orderFor "b") 0)).snoc
    (.orderReply _ [] [] (orderFor "b") 1 (some matchedReply) 0 (by decide +kernel))).snoc
    (.execute _ (orderFor "c") 0)
  refine ⟨_, _, hrun, by decide +kernel, exposure_le_botMax (startDesk_fresh .live 2) hrun ?_⟩
  simp only [List.forall_mem_append, List.forall_mem_singleton, and_assoc]
  refine ⟨?_, ?_, ?_, ?_, ?_⟩
  all_goals
    intro i now hl
    cases hl
  all_goals decide +kernel

/-- A run that gets past the limit of 1: while the sale of the first position has failed, none is open
and a second order passes the check. -/
theorem exposure_exceeds_botMax :
    ∃ d tr d', Fresh d ∧ Lib.Run Step d tr d' ∧
      max d.trading.executor.botMax 0 < (d'.trading.tracker.exposure : ℤ) := by
  refine ⟨startDesk .live 1, _, _, startDesk_fresh _ _, ((((((((Lib.Run.nil (startDesk .live 1)).snoc
    (.execute _ (orderFor "a") 0)).snoc
    (.orderReply _ [] [] (orderFor "a") 0 (some matchedReply) 0 ?_)).snoc
    (.trigger _ (fun _ => { now := 0 }) { prices := Lib.Dict.empty.set "BTC" (4 / 10) })).snoc
    (.close _ 0 (4 / 10) 0)).snoc
    (.sellReply _ [] [] 0 (.ok none) 0 ?_)).snoc
    (.execute _ (orderFor "b") 0)).snoc
    (.orderReply _ [] [] (orderFor "b") 1 (some matchedReply) 0 ?_)), ?_⟩
  all_goals decide +kernel

end Polyfast.Desk
