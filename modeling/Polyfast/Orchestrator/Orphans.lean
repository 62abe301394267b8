import Polyfast.Orchestrator.ExitRuns
import Polyfast.Orchestrator.Restore

/-!
# Positions that no cycle selects

`execute_close` takes its position to `CLOSE_PENDING` before it awaits the sell order, and only the answer
takes it on from there: when the await raises or is cancelled, the position stays where no cycle looks.
`LifeStep` adds the two kinds of start to the runs of exits: the calls that are suspended are gone, and the
tracker holds what was stored.

* `NoOrphan`: every exposed position is selected by the next cycle, or a sell order of its own is out;
* `closeBegin_pending`, `closeEnd_pending`: which stretches leave a position in `CLOSE_PENDING`;
* `no_orphan_iff`: when no run leaves an orphan.
-/

namespace Polyfast

theorem sellOutcome_readable {p : PositionRecord} {reply : Option OrderReply} :
    (∃ outcome, sellOutcome p reply = .ok outcome) ↔ Readable reply := by
  unfold sellOutcome
  cases reply with
  | none => exact iff_of_true ⟨none, rfl⟩ readable_none
  | some r =>
    dsimp only
    by_cases hm : r.status = "matched"
    · rw [if_pos hm]
      constructor
      · rintro ⟨outcome, ho⟩ u hu -
        obtain rfl := Option.some.inj hu
        cases hrate : r.feeRate with
        | error e => simp [hrate] at ho
        | ok rate =>
          cases ha : r.amounts with
          | error e => simp [hrate, ha] at ho
          | ok a => exact ⟨⟨rate, rfl⟩, a, rfl⟩
      · intro h
        obtain ⟨⟨rate, hrate⟩, a, ha⟩ := h r rfl hm
        rw [hrate, ha]
        cases a with
        | none => exact ⟨_, rfl⟩
        | some a => exact ⟨_, rfl⟩
    · rw [if_neg hm]
      refine iff_of_true ⟨none, rfl⟩ fun u hu hum => ?_
      obtain rfl := Option.some.inj hu
      exact absurd hum hm

namespace Trading

variable {s : Trading} {id : PositionId} {r : PositionRecord}

/-- The position is in `CLOSE_PENDING`. -/
def PendingAt (s : Trading) (id : PositionId) : Prop :=
  ∃ r, s.tracker.positions.get? id = some r ∧ r.state = .closePending

theorem closeSold_pending (price rate : ℚ) (now : Time) (h : s.tracker.positions.get? id = some r)
    (hs : r.state = .closePending) : ¬(s.closeSold id price rate now).1.PendingAt id := by
  rintro ⟨u, hu, hus⟩
  obtain ⟨v, hv, hvs, -⟩ := (closeSold_sale price rate now h hs).closed
  obtain rfl := Option.some.inj (hu.symm.trans hv)
  rw [hus] at hvs
  cases hvs

theorem closeFailed_pending (now : Time) (h : s.tracker.positions.get? id = some r)
    (hs : r.state = .closePending) : ¬(s.closeFailed r now).1.PendingAt id := by
  rintro ⟨u, hu, hus⟩
  obtain rfl := Option.some.inj ((get?_closeFailed now h hs).symm.trans hu)
  cases hus

/-- A call up to its first await leaves a position in `CLOSE_PENDING` that it found there, or whose sell
order it sent out. -/
theorem closeBegin_pending {price : ℚ} {now : Time} (h : (s.closeBegin id price now).1.PendingAt id) :
    s.PendingAt id ∨ id ∈ (s.closeBegin id price now).2.sells := by
  cases hr : s.tracker.positions.get? id with
  | none =>
    left
    simpa only [closeBegin, hr] using h
  | some r =>
    by_cases hidle : isClosing r = false ∨ s.CoolsDown r now
    · left
      rwa [closeBegin_idle hr hidle] at h
    · rw [not_or, Bool.not_eq_false] at hidle
      by_cases hc : s.Cancels r price
      · exfalso
        have hkey : r.positionId = id := Lib.Table.key_of_get? hr
        rw [closeBegin_cancels hr hc] at h
        obtain ⟨u, hu, hus⟩ := h
        have hget : (s.writePosition r.cancelClose).tracker.positions.get? id = some r.cancelClose := by
          rw [← hkey]
          exact Lib.Table.get?_put_self _ r.cancelClose
        obtain rfl := Option.some.inj (hget.symm.trans hu)
        cases hus
      · obtain ⟨-, -, hsent⟩ := sent_exits hr hidle.1
        rw [closeBegin_sends hr ⟨hidle.1, hidle.2, hc⟩] at h ⊢
        split_ifs at h ⊢
        · exact absurd h (closeSold_pending price _ now hsent rfl)
        · exact absurd h (closeFailed_pending now hsent rfl)
        · exact .inr (List.mem_singleton_self _)

/-- The answer leaves its position in `CLOSE_PENDING` exactly when it cannot be read. -/
theorem closeEnd_pending (reply : Option OrderReply) (now : Time) (h : s.tracker.positions.get? id = some r)
    (hs : r.state = .closePending) : (s.closeEnd id reply now).1.PendingAt id ↔ ¬Readable reply := by
  rw [← sellOutcome_readable (p := r)]
  simp only [closeEnd, h]
  cases sellOutcome r reply with
  | error e => exact iff_of_true ⟨r, h, hs⟩ (by simp)
  | ok outcome =>
    refine iff_of_false ?_ (by simp)
    cases outcome with
    | none => exact closeFailed_pending now h hs
    | some sale => exact closeSold_pending sale.1 sale.2 now h hs

/-- What came of a sell order lets the call go on to its end. -/
def Answers (reply : Except PyError (Option OrderReply)) : Prop := ∃ a, reply = .ok a ∧ Readable a

theorem sellAnswered_pending (reply : Except PyError (Option OrderReply)) (now : Time)
    (h : s.tracker.positions.get? id = some r) (hs : r.state = .closePending) :
    (s.sellAnswered id reply now).1.PendingAt id ↔ ¬Answers reply := by
  cases reply with
  | error e =>
    refine iff_of_true ⟨r, h, hs⟩ ?_
    rintro ⟨a, ha, -⟩
    cases ha
  | ok reply =>
    refine (closeEnd_pending (s := s.answered (.sell id)) reply now h hs).trans (not_congr ?_)
    constructor
    · intro hread
      exact ⟨reply, rfl, hread⟩
    · rintro ⟨a, ha, hread⟩
      exact Except.ok.inj ha ▸ hread

/-- Of the positions only `id` changes, so only `id` enters or leaves `CLOSE_PENDING`. -/
theorem OnlyAt.pendingAt {s' : Trading} {k : PositionId} (h : OnlyAt id s s') (hk : k ≠ id) :
    s'.PendingAt k ↔ s.PendingAt k := by
  unfold PendingAt
  rw [h k hk]

end Trading

namespace CloseDesk

variable {d d' : CloseDesk} {id : PositionId}

/-- Every position that is filled and not closed is selected by the next cycle, or a sell order of its own is
out. -/
def NoOrphan (d : CloseDesk) : Prop :=
  ∀ id r, d.trading.tracker.positions.get? id = some r → r.holdsExposure = true → id ∉ d.sells →
    r.isOpen = true ∨ Trading.isClosing r = true

/-- What is not selected is in `CLOSE_PENDING`. -/
theorem noOrphan_iff : d.NoOrphan ↔ ∀ id, d.trading.PendingAt id → id ∈ d.sells := by
  constructor
  · rintro h id ⟨r, hr, hs⟩
    by_contra hid
    have hexposed : r.holdsExposure = true := by
      rw [PositionRecord.holdsExposure_iff]
      simp [hs]
    rcases h id r hr hexposed hid with ho | hc
    · rw [PositionRecord.isOpen_iff, hs] at ho
      cases ho
    · rw [Trading.isClosing_iff, hs] at hc
      simp at hc
  · intro h id r hr hexposed hid
    rw [PositionRecord.holdsExposure_iff] at hexposed
    rw [PositionRecord.isOpen_iff, Trading.isClosing_iff]
    cases hs : r.state with
    | pendingOpen => exact absurd hs hexposed.1
    | closed => exact absurd hs hexposed.2
    | closePending => exact absurd (h id ⟨r, hr, hs⟩) hid
    | openConfirmed => exact .inl rfl
    | closingRequested => exact .inr (.inl rfl)
    | closeFailed => exact .inr (.inr rfl)

inductive LifeLabel
  | exit (l : ExitLabel)
  | startAgain (ps : List PositionRecord) (cs : List ClaimRecord) (now : Time)
  | restart (ps : List PositionRecord) (cs : List ClaimRecord) (now : Time)

/-- A step of the exits, or a stop, which cancels the suspended calls, and the start after it. The stored
positions have ids of their own (`position_id TEXT PRIMARY KEY`). -/
inductive LifeStep : CloseDesk → LifeLabel → CloseDesk → Prop
  | exit (d d' : CloseDesk) (l : ExitLabel) (h : ExitStep d l d') : LifeStep d (.exit l) d'
  | startAgain (d : CloseDesk) (ps : List PositionRecord) (cs : List ClaimRecord) (now : Time)
      (h : (ps.map PositionRecord.positionId).Nodup) :
      LifeStep d (.startAgain ps cs now) { trading := d.trading.startAgain ps cs now }
  | restart (d : CloseDesk) (ps : List PositionRecord) (cs : List ClaimRecord) (now : Time)
      (h : (ps.map PositionRecord.positionId).Nodup) :
      LifeStep d (.restart ps cs now) { trading := d.trading.restart ps cs now }

/-- The call goes on to its end, and a start finds no position in `CLOSE_PENDING`. -/
def Completes : LifeLabel → Prop
  | .exit (.call (.sellReply _ _ reply _)) => Trading.Answers reply
  | .exit (.call (.sellLost _ _)) => False
  | .startAgain ps _ _ | .restart ps _ _ => ∀ p ∈ ps, p.state ≠ .closePending
  | _ => True

theorem NoOrphan.after_closeBegin (h : d.NoOrphan) (who : Caller) (k : PositionId) (price : ℚ) (now : Time) :
    (d.after who (d.trading.closeBegin k price now)).NoOrphan := by
  rw [noOrphan_iff] at h ⊢
  intro id hid
  rw [trading_after] at hid
  rw [sells_after, List.mem_append]
  by_cases hk : id = k
  · subst hk
    rcases Trading.closeBegin_pending hid with hp | hsent
    · exact .inl (h id hp)
    · exact .inr hsent
  · obtain ⟨-, honly, -⟩ := Trading.closeBegin_exits d.trading k price now
    exact .inl (h id ((Trading.OnlyAt.pendingAt honly hk).mp hid))

theorem NoOrphan.attempt (h : d.NoOrphan) (c : RetryCall) (now : Time) : (d.attempt c now).NoOrphan := by
  unfold CloseDesk.attempt
  split_ifs
  · exact h.after_closeBegin _ c.id c.currentPrice now
  · exact h

/-- An answer to a sell order leaves no orphan exactly when the call can go on with it. -/
theorem noOrphan_sellReply {l₁ l₂ : List (Caller × PositionId)} {who : Caller}
    (hout : d.trading.SellsOut d.sells) (h : d.NoOrphan) (hd : d.selling = l₁ ++ (who, id) :: l₂)
    (reply : Except PyError (Option OrderReply)) (now : Time) :
    ({ d with selling := l₁ ++ l₂ }.after who (d.trading.sellAnswered id reply now)).NoOrphan ↔
      Trading.Answers reply := by
  have hsplit := split_sells hd
  obtain ⟨r, hr, hs⟩ := hout.pending id (by rw [hsplit]; simp)
  have hpending := Trading.sellAnswered_pending reply now hr hs
  obtain ⟨-, honly, -⟩ := Trading.sellAnswered_exits reply now hr hs
  rw [hsplit] at hout
  have hnot : id ∉ l₁.map Prod.snd ++ l₂.map Prod.snd := Lib.not_mem_split rfl hout.nodup
  have hsells : ({ d with selling := l₁ ++ l₂ }.after who (d.trading.sellAnswered id reply now)).sells =
      l₁.map Prod.snd ++ l₂.map Prod.snd := by
    rw [sells_after, (hout.sellAnswered reply now).2, List.append_nil, sells, List.map_append]
  rw [noOrphan_iff, trading_after, hsells]
  constructor
  · intro hall
    by_contra hno
    exact hnot (hall id (hpending.mpr hno))
  · intro hans k hk
    by_cases hkid : k = id
    · subst hkid
      exact absurd hans (hpending.mp hk)
    · have hmem := noOrphan_iff.mp h k ((Trading.OnlyAt.pendingAt honly hkid).mp hk)
      rw [hsplit, List.mem_append, List.mem_cons] at hmem
      rw [List.mem_append]
      tauto

theorem noOrphan_of_same (h : d.NoOrphan) (hsells : d'.sells = d.sells)
    (hpos : ∀ k, d'.trading.PendingAt k → d.trading.PendingAt k) : d'.NoOrphan := by
  rw [noOrphan_iff] at h ⊢
  intro k hk
  rw [hsells]
  exact h k (hpos k hk)

theorem Step.noOrphan_iff {l : Label} (hs : Step d l d') (hout : d.trading.SellsOut d.sells)
    (h : d.NoOrphan) : d'.NoOrphan ↔ Completes (.exit (.call l)) := by
  cases hs with
  | close k price now => exact iff_of_true (h.after_closeBegin .direct k price now) trivial
  | closeWithRetry k price maxRetries now => exact iff_of_true (h.attempt _ now) trivial
  | wake l₁ l₂ c now hd =>
    have hslept : NoOrphan { d with sleeping := l₁ ++ l₂ } := h
    exact iff_of_true (hslept.attempt c now) trivial
  | sellReply l₁ l₂ who k reply now hd => exact noOrphan_sellReply hout h hd reply now
  | sellLost l₁ l₂ who k hd =>
    refine iff_of_false (fun hno => ?_) id
    have hsplit := split_sells hd
    have hp := hout.pending k (by rw [hsplit]; simp)
    rw [hsplit] at hout
    refine Lib.not_mem_split rfl hout.nodup ?_
    have hmem : k ∈ (l₁ ++ l₂).map Prod.snd := CloseDesk.noOrphan_iff.mp hno k hp
    rwa [List.map_append] at hmem
  | fetched l₁ l₂ who k reply now hd =>
    refine iff_of_true (noOrphan_of_same h ?_ fun k hk => ?_) trivial
    · rw [sells_after]
      simp [CloseStatus.sells, Trading.closeFetched, sells]
    · rw [trading_after] at hk
      exact hk
  | fetchLost l₁ l₂ who k hd => exact iff_of_true h trivial
  | sleepLost l₁ l₂ c hd => exact iff_of_true h trivial

/-- The other pieces of a cycle leave `CLOSE_PENDING` alone. -/
theorem piece_pendingAt {s : Trading} {l : Desk.Label} {e : Desk} (hl : l.isCyclePiece = true)
    (h : Desk.Step { trading := s } l e) (k : PositionId) : e.trading.PendingAt k ↔ s.PendingAt k := by
  obtain ⟨w, x, -, he⟩ | he := piece_cases hl h
  · rw [he]
    constructor
    · rintro ⟨r, hr, hs⟩
      obtain ⟨-, ht⟩ := Trading.triggerPhase_spec s w x
      rw [ht.positions k, if_neg (by simp), Option.map_eq_some_iff] at hr
      obtain ⟨u, hu, rfl⟩ := hr
      by_cases hopen : u.isOpen = true
      · exfalso
        rw [Trading.afterTrigger, if_pos hopen] at hs
        cases hd : x.decision s.evaluator u with
        | none =>
          rw [hd] at hs
          rw [PositionRecord.isOpen_iff] at hopen
          exact absurd (hopen.symm.trans hs) (by simp)
        | some a =>
          rw [hd] at hs
          cases hs
      · rw [Trading.afterTrigger, if_neg hopen] at hs
        exact ⟨u, hu, hs⟩
    · rintro ⟨r, hr, hs⟩
      exact ⟨r, triggerPhase_not_open hr (by simp [PositionRecord.isOpen, hs]), hs⟩
  · unfold Trading.PendingAt
    rw [he]

/-- A start leaves no orphan exactly when no stored position is in `CLOSE_PENDING`. -/
theorem noOrphan_restored {s : Trading} {t : PositionTracker} {ps : List PositionRecord} {now : Time}
    (ht : s.tracker = t.restoreAll ps now) (hempty : t.positions = .empty)
    (hnodup : (ps.map PositionRecord.positionId).Nodup) :
    NoOrphan { trading := s } ↔ ∀ p ∈ ps, p.state ≠ .closePending := by
  rw [noOrphan_iff]
  constructor
  · intro h p hp hs
    refine absurd (h p.positionId ⟨p, ?_, hs⟩) (by simp [sells])
    rw [ht, PositionTracker.get?_restoreAll hnodup hp, PositionTracker.restored, if_neg (by simp [hs])]
  · rintro h k ⟨r, hr, hs⟩
    exfalso
    rw [ht] at hr
    by_cases hk : k ∈ ps.map PositionRecord.positionId
    · obtain ⟨p, hp, rfl⟩ := List.mem_map.mp hk
      rw [PositionTracker.get?_restoreAll hnodup hp, Option.some.injEq] at hr
      subst hr
      unfold PositionTracker.restored at hs
      split_ifs at hs
      · cases hs
      · exact h p hp hs
    · rw [PositionTracker.get?_restoreAll_notMem hk, hempty] at hr
      cases hr

/-- **One step of a life** leaves no orphan exactly when what it carries on can be carried on. -/
theorem LifeStep.noOrphan_iff {l : LifeLabel} (hs : LifeStep d l d') (hout : d.trading.SellsOut d.sells)
    (h : d.NoOrphan) : d'.trading.SellsOut d'.sells ∧ (d'.NoOrphan ↔ Completes l) := by
  cases hs with
  | exit _ l hexit =>
    cases hexit with
    | call _ l hcall => exact ⟨hcall.sellsOut hout, hcall.noOrphan_iff hout h⟩
    | configure e => exact ⟨⟨hout.nodup, hout.pending⟩, iff_of_true h trivial⟩
    | piece l e hl hpiece =>
      refine ⟨⟨hout.nodup, fun k hk => (piece_pendingAt hl hpiece k).mpr (hout.pending k hk)⟩, ?_⟩
      exact iff_of_true (noOrphan_of_same h rfl fun k => (piece_pendingAt hl hpiece k).mp) trivial
  | startAgain ps cs now hnodup =>
    exact ⟨⟨List.nodup_nil, by simp [sells]⟩, noOrphan_restored rfl rfl hnodup⟩
  | restart ps cs now hnodup =>
    exact ⟨⟨List.nodup_nil, by simp [sells]⟩, noOrphan_restored rfl rfl hnodup⟩

/-- **No orphaned exit.** No run leaves a position in `CLOSE_PENDING` that no call sells, exactly when every
sell order is answered in a way the call can go on with, and no start finds a position stored in that
state. -/
theorem no_orphan_iff {tr : List (Lib.Taken CloseDesk LifeLabel)} (hout : d.trading.SellsOut d.sells)
    (h : d.NoOrphan) (hrun : Lib.Run LifeStep d tr d') :
    (∀ x ∈ tr, x.post.NoOrphan) ↔ ∀ x ∈ tr, Completes x.label := by
  refine hrun.always_iff (J := fun d => d.trading.SellsOut d.sells) (C := fun _ l => Completes l) ?_ hout h
  intro t l u hJ hI hst
  exact hst.noOrphan_iff hJ hI

theorem oneClosing_noOrphan : oneClosing.NoOrphan := by
  rw [noOrphan_iff]
  rintro id ⟨r, hr, hs⟩
  exfalso
  have hkey : r.positionId = id := Lib.Table.key_of_get? hr
  have hmem := Lib.Table.mem_records_of_get? hr
  have hrecords : oneClosing.trading.tracker.positions.records = [closingRecord] := by decide +kernel
  rw [hrecords, List.mem_singleton] at hmem
  rw [hmem] at hs
  cases hs

/-- The first sell order is not filled, the bot is stopped and started again, and the second one is filled. -/
theorem no_orphan_retried : ∃ tr d', Lib.Run LifeStep oneClosing tr d' ∧
    d'.trading.tracker.positions.records.map PositionRecord.state = [.closed] ∧ ∀ x ∈ tr, x.post.NoOrphan := by
  have hrun : Lib.Run LifeStep oneClosing _ _ := ((((Lib.Run.single
    (.exit _ _ _ (.call _ _ _ (.close _ 0 (1 / 2) 0)))).snoc
    (.exit _ _ _ (.call _ _ _ (.sellReply _ [] [] .direct 0 (.ok none) 1 rfl)))).snoc
    (.startAgain _ [closingRecord.inState .closeFailed] [] 60 (by decide +kernel))).snoc
    (.exit _ _ _ (.call _ _ _ (.closeWithRetry _ 0 (1 / 2) (some 3) 61)))).snoc
    (.exit _ _ _ (.call _ _ _ (.sellReply _ [] [] (.retry ⟨0, 1 / 2, 3, 2 / 5, 0⟩) 0
      (.ok (some { status := "matched" })) 62 (by decide +kernel))))
  refine ⟨_, _, hrun, by decide +kernel,
    (no_orphan_iff (d := oneClosing) ⟨List.nodup_nil, (by simp [sells, oneClosing])⟩ oneClosing_noOrphan
      hrun).mpr ?_⟩
  simp [Completes, Trading.Answers, readable_none, readable_matched, closingRecord, PositionRecord.inState]

/-- The bot is stopped while the sell order is out: the call is cancelled, the position is flushed as it is. -/
def oneStopped : CloseDesk := { oneSelling with selling := [] }

/-- The bot is started again from what was flushed. -/
def oneRestored : CloseDesk where
  trading := oneStopped.trading.startAgain oneStopped.trading.tracker.getAllPositions [] 1

/-- After a stop during the sale and a start the position is in `CLOSE_PENDING`, and nobody sells it. -/
theorem orphaned_by_stop :
    ∃ (d' : CloseDesk) (tr : List (Lib.Taken CloseDesk LifeLabel)), Lib.Run LifeStep oneClosing tr d' ∧
      d'.sells = [] ∧ ∃ r, d'.trading.tracker.positions.get? 0 = some r ∧ r.holdsExposure = true ∧
        r.isOpen = false ∧ Trading.isClosing r = false := by
  have hstop : Lib.Run LifeStep oneClosing _ oneStopped :=
    ((Lib.Run.nil oneClosing).snoc (.exit _ _ _ (.call _ _ _ (Step.close oneClosing 0 (1 / 2) 0)))).snoc
      (.exit _ _ _ (.call _ _ _ (Step.sellLost oneSelling [] [] .direct 0 rfl)))
  have hstart : Lib.Run LifeStep oneClosing _ oneRestored :=
    hstop.snoc (.startAgain oneStopped _ [] 1 (by decide +kernel))
  refine ⟨_, _, hstart, rfl, closingRecord.inState .closePending, ?_, ?_, ?_, ?_⟩
  all_goals decide +kernel

end CloseDesk

end Polyfast
