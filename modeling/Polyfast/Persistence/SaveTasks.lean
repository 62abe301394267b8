import Polyfast.Orchestrator.CloseCalls
import Polyfast.Orchestrator.RestartCounters
import Polyfast.Persistence.PositionStore

/-!
# Saves and what is in memory

`_persist` starts a task that saves the record object as it is when the task runs. Some of the places that
write a record start none: `reject_fill`, and in `execute_close` the cancel of a take profit, the way to
`CLOSE_PENDING` and the way to `CLOSE_FAILED`.

* `SaveEffect`: what a call does to a record and to the queue of saves;
* `SaveDesk.Step`: tracker calls, the stretches of `execute_close` and the saves, in any order;
* `Converges`, `converges_iff`: once the queued saves have run, every row is its record;
* `stored_converges_iff`: when that holds all along a run.
-/

namespace Polyfast

/-- What a call does to the position `id`, with `unsaved` saying that it writes the record and queues no
save. -/
inductive SaveEffect (t t' : PositionTracker) (id : PositionId) (unsaved : Prop) : Prop
  | kept (hpos : ∀ k, t'.positions.get? k = t.positions.get? k) (hsaves : t'.pendingSaves = t.pendingSaves)
      (hstore : t'.hasStore = t.hasStore) (h : ¬unsaved)
  | saved (r' : PositionRecord) (hkey : r'.positionId = id) (hpos : t'.positions = t.positions.put r')
      (hsaves : t'.pendingSaves = t.pendingSaves ++ [id]) (hstore : t'.hasStore = t.hasStore) (h : ¬unsaved)
  | overwritten (r r' : PositionRecord) (hkey : r'.positionId = id) (hold : t.positions.get? id = some r)
      (hne : r' ≠ r) (hpos : t'.positions = t.positions.put r') (hsaves : t'.pendingSaves = t.pendingSaves)
      (hstore : t'.hasStore = t.hasStore) (h : unsaved)

/-- The position a call is about. -/
def TrackerCall.position : TrackerCall → PositionId
  | createPending r => r.positionId
  | confirmFill id _ _ _ | rejectFill id _ | requestClose id _ _ _ _ | confirmClose id _ _ _ => id

namespace PositionTracker

variable {t t' : PositionTracker} {id : PositionId} {r : PositionRecord}

theorem pendingSaves_persist (hstore : t.hasStore = true) :
    (t.persist id).pendingSaves = t.pendingSaves ++ [id] := by
  rw [persist, if_pos hstore]

@[simp] theorem hasStore_persist : (t.persist id).hasStore = t.hasStore := by
  unfold persist
  split_ifs <;> rfl

/-- Writing a record that is there already changes nothing. -/
theorem get?_write_same (h : t.positions.get? r.positionId = some r) (k : PositionId) :
    (t.write r).positions.get? k = t.positions.get? k := by
  rw [positions_write, Lib.Table.get?_put]
  split_ifs with hk
  · rw [← hk, h]
  · rfl

/-- The fee formulas a call uses: at the rate it is given, else at the tracker's own. -/
def feesAt (t : PositionTracker) (rate : Option ℚ) : FeeCalculator :=
  rate.elim t.feeCalc fun rate => { feeRate := rate }

/-- The calls that write a record and queue no save: a rejection, and a fill that raises after it has written
the entry fields. -/
def Unsaved (t : PositionTracker) : TrackerCall → Prop
  | .rejectFill id _ => ∃ r, t.positions.get? id = some r ∧ .closed ∈ allowedTransitions r.state
  | .confirmFill id price rate now => ∃ r entry, t.positions.get? id = some r ∧
      (t.feesAt rate).calculateEntry r.requestedAmountUsd price = .ok entry ∧
      .openConfirmed ∉ allowedTransitions r.state ∧ r.withEntry price entry now ≠ r
  | _ => False

theorem confirmFill_unfilled {e : PyError} {price : ℚ} {rate : Option ℚ} {now : Time}
    (h : t.positions.get? id = some r)
    (he : (t.feesAt rate).calculateEntry r.requestedAmountUsd price = .error e) :
    (t.confirmFill id price rate now).state = t := by
  cases rate with
  | none =>
    have he' : t.feeCalc.calculateEntry r.requestedAmountUsd price = .error e := he
    simp only [confirmFill, getRecord_of_get? h, he']
    rfl
  | some q =>
    have he' : (FeeCalculator.mk q).calculateEntry r.requestedAmountUsd price = .error e := he
    simp only [confirmFill, getRecord_of_get? h, he']
    rfl

/-- The fill of a record with its entry fields written: it opens the position, or raises. -/
theorem confirmFill_filled {entry : EntryData} {price : ℚ} {rate : Option ℚ} {now : Time}
    (h : t.positions.get? id = some r)
    (he : (t.feesAt rate).calculateEntry r.requestedAmountUsd price = .ok entry) :
    (t.confirmFill id price rate now).state =
      if .openConfirmed ∈ allowedTransitions r.state then
        { t.write ((r.withEntry price entry now).inState .openConfirmed) with
          sessionTradeCount := t.sessionTradeCount + 1 }.persist id
      else t.write (r.withEntry price entry now) := by
  have hstate : (r.withEntry price entry now).state = r.state := rfl
  cases rate with
  | none =>
    have he' : t.feeCalc.calculateEntry r.requestedAmountUsd price = .ok entry := he
    simp only [confirmFill, getRecord_of_get? h, he', PositionRecord.transitionTo, hstate]
    split_ifs <;> rfl
  | some q =>
    have he' : (FeeCalculator.mk q).calculateEntry r.requestedAmountUsd price = .ok entry := he
    simp only [confirmFill, getRecord_of_get? h, he', PositionRecord.transitionTo, hstate]
    split_ifs <;> rfl

theorem confirmFill_saves (hstore : t.hasStore = true) (id : PositionId) (price : ℚ) (rate : Option ℚ)
    (now : Time) :
    SaveEffect t (t.confirmFill id price rate now).state id (t.Unsaved (.confirmFill id price rate now)) := by
  cases hr : t.positions.get? id with
  | none =>
    have hsame : (t.confirmFill id price rate now).state = t := by
      simp only [confirmFill, getRecord, hr]
      rfl
    rw [hsame]
    refine .kept (fun _ => rfl) rfl rfl ?_
    rintro ⟨r, entry, h, -⟩
    rw [hr] at h
    cases h
  | some r =>
    have hkey : r.positionId = id := Lib.Table.key_of_get? hr
    cases he : (t.feesAt rate).calculateEntry r.requestedAmountUsd price with
    | error e =>
      rw [confirmFill_unfilled hr he]
      refine .kept (fun _ => rfl) rfl rfl ?_
      rintro ⟨u, entry, hu, hentry, -⟩
      obtain rfl := Option.some.inj (hr.symm.trans hu)
      rw [he] at hentry
      cases hentry
    | ok entry =>
      rw [confirmFill_filled hr he]
      by_cases ha : .openConfirmed ∈ allowedTransitions r.state
      · rw [if_pos ha]
        refine .saved ((r.withEntry price entry now).inState .openConfirmed) hkey (by simp) ?_ hasStore_persist ?_
        · exact pendingSaves_persist hstore
        · rintro ⟨u, entry', hu, -, hnot, -⟩
          obtain rfl := Option.some.inj (hr.symm.trans hu)
          exact hnot ha
      · rw [if_neg ha]
        by_cases hsame : r.withEntry price entry now = r
        · rw [hsame]
          refine .kept (get?_write_same (by rw [hkey, hr])) rfl rfl ?_
          rintro ⟨u, entry', hu, hentry, -, hne⟩
          obtain rfl := Option.some.inj (hr.symm.trans hu)
          rw [he, Except.ok.injEq] at hentry
          exact hne (hentry ▸ hsame)
        · exact .overwritten r (r.withEntry price entry now) hkey hr hsame rfl rfl rfl
            ⟨r, entry, hr, he, ha, hsame⟩

theorem rejectFill_saves (id : PositionId) (now : Time) :
    SaveEffect t (t.rejectFill id now).state id (t.Unsaved (.rejectFill id now)) := by
  obtain ⟨hnone, heq⟩ | ⟨r, hr, ⟨ha, heq⟩ | ⟨ha, heq⟩⟩ := rejectFill_cases (t := t) id now
  · rw [heq]
    refine .kept (fun _ => rfl) rfl rfl ?_
    rintro ⟨r, h, -⟩
    rw [hnone] at h
    cases h
  · rw [heq]
    refine .kept (fun k => by rw [positions_takeBack]) (pendingSaves_takeBack _) (hasStore_takeBack _) ?_
    rintro ⟨u, hu, hu'⟩
    obtain rfl := Option.some.inj (hr.symm.trans hu)
    exact ha hu'
  · have hkey : (rejected r now).positionId = id := (Lib.Table.key_of_get? hr : r.positionId = id)
    have hne : rejected r now ≠ r := by
      intro hsame
      have hstate : r.state = .closed := (congrArg PositionRecord.state hsame).symm
      rw [hstate] at ha
      cases ha
    rw [heq]
    exact .overwritten r (rejected r now) hkey hr hne (by simp) (pendingSaves_takeBack _) (hasStore_takeBack _)
      ⟨r, hr, ha⟩

theorem requestClose_saves (hstore : t.hasStore = true) (id : PositionId) (reason : CloseReason)
    (triggers : List ForceSellTrigger) (price : ℚ) (now : Time) :
    SaveEffect t (t.requestClose id reason triggers price now).state id False := by
  obtain heq | ⟨r, hr, -, heq⟩ := requestClose_cases (t := t) id reason triggers price now
  · rw [heq]
    exact .kept (fun _ => rfl) rfl rfl not_false
  · rw [heq]
    exact .saved ((r.inState .closingRequested).withCloseRequest reason triggers price now)
      (show r.positionId = id from Lib.Table.key_of_get? hr) (by simp) (pendingSaves_persist hstore) hasStore_persist
      not_false

theorem confirmClose_saves (hstore : t.hasStore = true) (id : PositionId) (price : ℚ) (rate : Option ℚ)
    (now : Time) : SaveEffect t (t.confirmClose id price rate now).state id False := by
  obtain ⟨-, heq⟩ | ⟨r, hr, ⟨-, heq⟩ | ⟨data, heq⟩⟩ := confirmClose_cases (t := t) id price rate now
  · rw [heq]
    exact .kept (fun _ => rfl) rfl rfl not_false
  · have hkey : r.positionId = id := Lib.Table.key_of_get? hr
    rw [heq]
    exact .kept (get?_write_same (by rw [hkey, hr])) rfl rfl not_false
  · have hkey : r.positionId = id := Lib.Table.key_of_get? hr
    rw [heq]
    exact .saved ((r.inState .closed).withExit price data now) hkey (by simp) (pendingSaves_persist hstore)
      hasStore_persist not_false

/-- **What a tracker call does to the queue of saves.** -/
theorem after_saves (hstore : t.hasStore = true) (c : TrackerCall) :
    SaveEffect t (t.after c) c.position (t.Unsaved c) := by
  cases c with
  | createPending r =>
    exact .saved r rfl (positions_createPending r) (pendingSaves_persist hstore) hasStore_persist not_false
  | confirmFill id price rate now => exact confirmFill_saves hstore id price rate now
  | rejectFill id now => exact rejectFill_saves id now
  | requestClose id reason triggers price now => exact requestClose_saves hstore id reason triggers price now
  | confirmClose id price rate now => exact confirmClose_saves hstore id price rate now

end PositionTracker

namespace Trading

variable (s : Trading)

/-- There is something to sell, and somebody to sell it. -/
def CanSell (r : PositionRecord) : Prop := s.exitExecutor.hasClob = true ∧ 0 < r.netPositionShares

/-- The call takes back a take profit, or goes on to a live sale. -/
def CloseUnsaved (id : PositionId) (price : ℚ) (now : Time) : Prop :=
  ∃ r, s.tracker.positions.get? id = some r ∧ (s.Cancels r price ∨ s.Sends r price now ∧
    s.exitExecutor.paperMode = false ∧ (r.state = .closingRequested ∨ s.CanSell r))

/-- The answer says that nothing was sold. -/
def SellUnsaved (id : PositionId) (reply : Except PyError (Option OrderReply)) : Prop :=
  ∃ r a, s.tracker.positions.get? id = some r ∧ r.state = .closePending ∧ reply = .ok a ∧
    sellOutcome r a = .ok none

variable {s} {id : PositionId} {r : PositionRecord} {price rate : ℚ} {now : Time}

theorem tracker_closeSold (s : Trading) (id : PositionId) (price rate : ℚ) (now : Time) :
    (s.closeSold id price rate now).1.tracker = (s.tracker.confirmClose id price (some rate) now).state := by
  unfold closeSold
  dsimp only
  split
  · rfl
  · split_ifs <;> rfl

theorem closeUnsaved_iff (hr : s.tracker.positions.get? id = some r) :
    s.CloseUnsaved id price now ↔ s.Cancels r price ∨ s.Sends r price now ∧
      s.exitExecutor.paperMode = false ∧ (r.state = .closingRequested ∨ s.CanSell r) := by
  constructor
  · rintro ⟨u, hu, h⟩
    obtain rfl := Option.some.inj (hr.symm.trans hu)
    exact h
  · exact fun h => ⟨r, hr, h⟩

/-- A paper sale closes the position and saves it. -/
theorem sent_paper {sent : Trading} {unsaved : Prop} (hstore : s.tracker.hasStore = true)
    (hr : s.tracker.positions.get? id = some r) (hsent : sent.tracker = s.tracker.write (r.inState .closePending))
    (h : ¬unsaved) : SaveEffect s.tracker (sent.closeSold id price rate now).1.tracker id unsaved := by
  have hkey : r.positionId = id := Lib.Table.key_of_get? hr
  have hget : (s.tracker.write (r.inState .closePending)).positions.get? id = some (r.inState .closePending) := by
    rw [← hkey]
    exact Lib.Table.get?_put_self _ (r.inState .closePending)
  rw [tracker_closeSold, hsent, PositionTracker.confirmClose_of_closePending hget rfl, Call.state_returns]
  refine .saved (PositionTracker.sold r price rate now) hkey ?_ (PositionTracker.pendingSaves_persist hstore)
    PositionTracker.hasStore_persist h
  have hsame : (r.inState .closePending).positionId = (PositionTracker.sold r price rate now).positionId := rfl
  rw [PositionTracker.positions_persist]
  exact Lib.Table.put_put hsame s.tracker.positions

/-- A sale that fails at once is written and not saved; after a failed one nothing is new. -/
theorem sent_failed {sent : Trading} {unsaved : Prop} (hr : s.tracker.positions.get? id = some r)
    (hsent : sent.tracker = s.tracker.write (r.inState .closePending))
    (hunsaved : unsaved ↔ r.state ≠ .closeFailed) :
    SaveEffect s.tracker (sent.closeFailed (r.inState .closePending) now).1.tracker id unsaved := by
  have hkey : r.positionId = id := Lib.Table.key_of_get? hr
  have hpos : (sent.closeFailed (r.inState .closePending) now).1.tracker.positions =
      s.tracker.positions.put (r.inState .closeFailed) := by
    have hsame : (r.inState .closePending).positionId = (r.inState .closeFailed).positionId := rfl
    simp only [closeFailed, transitionTo_closeFailed (r := r.inState .closePending) rfl, writePosition, hsent]
    exact Lib.Table.put_put hsame s.tracker.positions
  have hsaves : (sent.closeFailed (r.inState .closePending) now).1.tracker.pendingSaves =
      s.tracker.pendingSaves := by
    simp only [closeFailed, transitionTo_closeFailed (r := r.inState .closePending) rfl, writePosition, hsent]
    rfl
  have hstore : (sent.closeFailed (r.inState .closePending) now).1.tracker.hasStore = s.tracker.hasStore := by
    simp only [closeFailed, transitionTo_closeFailed (r := r.inState .closePending) rfl, writePosition, hsent]
    rfl
  by_cases hs : r.state = .closeFailed
  · have hsame : r.inState .closeFailed = r := by
      rw [← hs]
      rfl
    refine .kept (fun k => ?_) hsaves hstore (fun hu => hunsaved.mp hu hs)
    rw [hpos, hsame]
    exact PositionTracker.get?_write_same (t := s.tracker) (by rw [hkey, hr]) k
  · refine .overwritten r (r.inState .closeFailed) hkey hr (fun heq => hs ?_) hpos hsaves hstore (hunsaved.mpr hs)
    exact (congrArg PositionRecord.state heq).symm

/-- **What `execute_close` does to the queue of saves** up to its first await. -/
theorem closeBegin_saves (hstore : s.tracker.hasStore = true) (id : PositionId) (price : ℚ) (now : Time) :
    SaveEffect s.tracker (s.closeBegin id price now).1.tracker id (s.CloseUnsaved id price now) := by
  cases hr : s.tracker.positions.get? id with
  | none =>
    simp only [closeBegin, hr]
    refine .kept (fun _ => rfl) rfl rfl ?_
    rintro ⟨r, h, -⟩
    rw [hr] at h
    cases h
  | some r =>
    have hkey : r.positionId = id := Lib.Table.key_of_get? hr
    by_cases hidle : isClosing r = false ∨ s.CoolsDown r now
    · rw [closeBegin_idle hr hidle]
      refine .kept (fun _ => rfl) rfl rfl ?_
      rw [closeUnsaved_iff hr]
      rintro (hc | ⟨hs, -⟩)
      · rcases hidle with hidle | hidle
        · rw [isClosing_iff.mpr (.inl hc.1)] at hidle
          cases hidle
        · exact absurd (hc.1.symm.trans hidle.1) (by simp)
      · rcases hidle with hidle | hidle
        · rw [hs.1] at hidle
          cases hidle
        · exact hs.2.1 hidle
    · rw [not_or, Bool.not_eq_false] at hidle
      by_cases hc : s.Cancels r price
      · rw [closeBegin_cancels hr hc]
        refine .overwritten r r.cancelClose hkey hr (fun heq => ?_) rfl rfl rfl ((closeUnsaved_iff hr).mpr (.inl hc))
        have hstate : r.state = .openConfirmed := (congrArg PositionRecord.state heq).symm
        rw [hc.1] at hstate
        cases hstate
      · have hsends : s.Sends r price now := ⟨hidle.1, hidle.2, hc⟩
        rw [closeBegin_sends hr hsends]
        have hsent : ((s.countRetry r).writePosition (r.inState .closePending)).tracker =
            s.tracker.write (r.inState .closePending) := by
          simp only [writePosition, tracker_countRetry]
        generalize (s.countRetry r).writePosition (r.inState .closePending) = sent at hsent
        split_ifs with hpaper hclob
        · exact sent_paper hstore hr hsent (by rw [closeUnsaved_iff hr, hpaper]; simp [hc])
        · refine sent_failed hr hsent ?_
          rw [closeUnsaved_iff hr]
          have hnot : ¬s.CanSell r := by
            rintro ⟨hhas, hpos⟩
            rw [hhas, Bool.not_true, Bool.false_or, decide_eq_true_eq] at hclob
            exact absurd hpos (not_lt.mpr hclob)
          have hstates := isClosing_iff.mp hidle.1
          constructor
          · rintro (h | ⟨-, -, h | h⟩)
            · exact absurd h hc
            · simp [h]
            · exact absurd h hnot
          · intro hne
            exact .inr ⟨hsends, by simpa using hpaper, .inl (hstates.resolve_right hne)⟩
        · have hcan : s.CanSell r := by
            rw [Bool.or_eq_true, not_or, Bool.not_eq_true, Bool.not_eq_false', decide_eq_true_eq, not_le] at hclob
            exact hclob
          refine .overwritten r (r.inState .closePending) hkey hr (fun heq => ?_) (by rw [hsent]; rfl)
            (by rw [hsent]; rfl) (by rw [hsent]; rfl)
            ((closeUnsaved_iff hr).mpr (.inr ⟨hsends, by simpa using hpaper, .inr hcan⟩))
          have hstate : r.state = .closePending := (congrArg PositionRecord.state heq).symm
          have hclosing := hidle.1
          rw [isClosing_iff, hstate] at hclosing
          simp at hclosing

/-- **What the answer to a sell order does to the queue of saves.** -/
theorem sellAnswered_saves (hstore : s.tracker.hasStore = true) (id : PositionId)
    (reply : Except PyError (Option OrderReply)) (now : Time) :
    SaveEffect s.tracker (s.sellAnswered id reply now).1.tracker id (s.SellUnsaved id reply) := by
  cases reply with
  | error e =>
    refine .kept (fun _ => rfl) rfl rfl ?_
    rintro ⟨r, a, -, -, ha, -⟩
    cases ha
  | ok reply =>
    cases hr : s.tracker.positions.get? id with
    | none =>
      have hget : (s.answered (.sell id)).tracker.positions.get? id = none := hr
      simp only [sellAnswered, closeEnd, hget]
      refine .kept (fun _ => rfl) rfl rfl ?_
      rintro ⟨r, a, h, -⟩
      rw [hr] at h
      cases h
    | some r =>
      have hkey : r.positionId = id := Lib.Table.key_of_get? hr
      have hget : (s.answered (.sell id)).tracker.positions.get? id = some r := hr
      have hiff : s.SellUnsaved id (.ok reply) ↔ r.state = .closePending ∧ sellOutcome r reply = .ok none := by
        constructor
        · rintro ⟨u, a, hu, hs, ha, ho⟩
          obtain rfl := Option.some.inj (hr.symm.trans hu)
          obtain rfl := Except.ok.inj ha
          exact ⟨hs, ho⟩
        · rintro ⟨hs, ho⟩
          exact ⟨r, reply, hr, hs, rfl, ho⟩
      simp only [sellAnswered, closeEnd, hget]
      cases ho : sellOutcome r reply with
      | error e => exact .kept (fun _ => rfl) rfl rfl (by rw [hiff, ho]; simp)
      | ok outcome =>
        cases outcome with
        | some sale =>
          have hsold := PositionTracker.confirmClose_saves hstore id sale.1 (some sale.2) now
          have hnot : s.SellUnsaved id (.ok reply) ↔ False := by rw [hiff, ho]; simp
          rw [tracker_closeSold, hnot]
          exact hsold
        | none =>
          by_cases hs : r.state = .closePending
          · simp only [closeFailed, transitionTo_closeFailed hs]
            refine .overwritten r (r.inState .closeFailed) hkey hr (fun heq => ?_) rfl rfl rfl
              (hiff.mpr ⟨hs, ho⟩)
            have hstate : r.state = .closeFailed := (congrArg PositionRecord.state heq).symm
            rw [hs] at hstate
            cases hstate
          · have ha : .closeFailed ∉ allowedTransitions r.state := by
              cases hstate : r.state <;> simp [hstate, allowedTransitions] at hs ⊢
            obtain ⟨e, ht⟩ : ∃ e, r.transitionTo .closeFailed = .error e :=
              ⟨_, by rw [PositionRecord.transitionTo, if_neg ha]⟩
            simp only [closeFailed, ht]
            exact .kept (fun _ => rfl) rfl rfl (by rw [hiff]; simp [hs])

end Trading

/-- The execution layer with its calls that sell, and the table. -/
structure SaveDesk where
  desk : CloseDesk
  store : PositionStore := {}

namespace SaveDesk

variable (d : SaveDesk)

def tracker : PositionTracker := d.desk.trading.tracker

/-- The desk after a call of a tracker method. -/
def withTracker (t : PositionTracker) : SaveDesk :=
  { d with desk := { d.desk with trading := d.desk.trading.withTracker t } }

/-- A queued save has run: the table has the record as it is now. -/
def saved (queue : List PositionId) (r : PositionRecord) : SaveDesk where
  desk := { d.desk with trading := d.desk.trading.withTracker { d.tracker with pendingSaves := queue } }
  store := (d.store.save r true).1

inductive Label
  | tracker (c : TrackerCall)
  | exit (l : CloseDesk.Label)
  | save (id : PositionId)

def Label.isSave : Label → Bool
  | save _ => true
  | _ => false

/-- One step between awaits. The queued saves run in any order; a save reads its record and hands the row to
the one connection at once, which writes the rows in that order. -/
inductive Step : SaveDesk → Label → SaveDesk → Prop
  | tracker (d : SaveDesk) (c : TrackerCall) (h : d.tracker.MakesNew c) :
      Step d (.tracker c) (d.withTracker (d.tracker.after c))
  | exit (d : SaveDesk) (l : CloseDesk.Label) (e : CloseDesk) (h : CloseDesk.Step d.desk l e) :
      Step d (.exit l) { d with desk := e }
  | save (d : SaveDesk) (l₁ l₂ : List PositionId) (id : PositionId) (r : PositionRecord)
      (h : d.tracker.pendingSaves = l₁ ++ id :: l₂) (hr : d.tracker.positions.get? id = some r) :
      Step d (.save id) (d.saved (l₁ ++ l₂) r)

/-- A store is set, and the saves that are queued are for known positions. -/
structure WellFormed (d : SaveDesk) : Prop where
  hasStore : d.tracker.hasStore = true
  known : ∀ id ∈ d.tracker.pendingSaves, ∃ r, d.tracker.positions.get? id = some r

/-- Whenever the saves that are queued have run, in whatever order, every row is its record. -/
def Converges (d : SaveDesk) : Prop :=
  ∀ d' tr, Lib.Run Step d tr d' → (∀ x ∈ tr, x.label.isSave = true) → d'.tracker.pendingSaves = [] →
    ∀ id r, d'.tracker.positions.get? id = some r → d'.store.rows.get? id = some r

/-- Every record is stored, or a save of it is queued. -/
def Covered (d : SaveDesk) : Prop :=
  ∀ id r, d.tracker.positions.get? id = some r →
    id ∈ d.tracker.pendingSaves ∨ d.store.rows.get? id = some r

/-- The step writes the record of a position and queues no save of it. -/
def Unsaved (d : SaveDesk) : Label → Prop
  | .tracker c => d.tracker.Unsaved c
  | .exit (.close id price now) => d.desk.trading.CloseUnsaved id price now
  | .exit (.closeWithRetry id price maxRetries now) =>
    0 < (d.desk.trading.retryCall id price maxRetries).retries ∧ d.desk.trading.CloseUnsaved id price now
  | .exit (.wake c now) => c.attempt < c.retries ∧ d.desk.trading.CloseUnsaved c.id c.currentPrice now
  | .exit (.sellReply _ id reply _) => d.desk.trading.SellUnsaved id reply
  | _ => False

/-- The position a step is about. -/
def Label.position : Label → PositionId
  | tracker c => c.position
  | exit l => l.position
  | save id => id

/-- A record is written only by what queues a save, or while a save of it is queued. -/
def Saves (d : SaveDesk) (l : Label) : Prop := d.Unsaved l → l.position ∈ d.tracker.pendingSaves

variable {d d' : SaveDesk} {l : Label}

/-! ### The queue always covers what is not stored -/

/-- **What a call does to the cover.** It is kept exactly if the record is not written behind the queue. -/
theorem Covered.effect {id : PositionId} {unsaved : Prop} (h : d.Covered)
    (he : SaveEffect d.tracker d'.tracker id unsaved) (hst : d'.store = d.store) :
    d'.Covered ↔ (unsaved → id ∈ d.tracker.pendingSaves) := by
  cases he with
  | kept hpos hsaves hstore hnot =>
    refine ⟨fun _ hun => absurd hun hnot, fun _ k r hk => ?_⟩
    rw [hpos] at hk
    rw [hsaves, hst]
    exact h k r hk
  | saved r' hkey hpos hsaves hstore hnot =>
    refine ⟨fun _ hun => absurd hun hnot, fun _ k r hk => ?_⟩
    rw [hpos, Lib.Table.get?_put] at hk
    rw [hsaves, hst, List.mem_append, List.mem_singleton]
    split_ifs at hk with hid
    · exact .inl (.inr (hid.symm.trans hkey))
    · exact (h k r hk).imp_left .inl
  | overwritten r r' hkey hold hne hpos hsaves hstore hun =>
    constructor
    · intro h' _
      have hnew : d'.tracker.positions.get? id = some r' := by
        rw [hpos, ← hkey]
        exact Lib.Table.get?_put_self _ r'
      rcases h' id r' hnew with hmem | hrow
      · rwa [hsaves] at hmem
      · refine (h id r hold).resolve_right fun hrow' => hne ?_
        rw [hst, hrow'] at hrow
        exact (Option.some.inj hrow).symm
    · intro hmem k u hk
      rw [hpos, Lib.Table.get?_put] at hk
      rw [hsaves, hst]
      split_ifs at hk with hid
      · left
        rw [← hid, hkey]
        exact hmem hun
      · exact h k u hk

theorem WellFormed.effect {id : PositionId} {unsaved : Prop} (h : d.WellFormed)
    (he : SaveEffect d.tracker d'.tracker id unsaved) : d'.WellFormed := by
  have hput : ∀ r', d'.tracker.positions = d.tracker.positions.put r' →
      ∀ k, (∃ r, d.tracker.positions.get? k = some r) → ∃ r, d'.tracker.positions.get? k = some r := by
    rintro r' hpos k ⟨r, hr⟩
    rw [hpos, Lib.Table.get?_put]
    split_ifs
    · exact ⟨r', rfl⟩
    · exact ⟨r, hr⟩
  cases he with
  | kept hpos hsaves hstore _ =>
    refine ⟨hstore.trans h.hasStore, fun k hk => ?_⟩
    rw [hsaves] at hk
    rw [hpos]
    exact h.known k hk
  | saved r' hkey hpos hsaves hstore _ =>
    refine ⟨hstore.trans h.hasStore, fun k hk => ?_⟩
    rw [hsaves, List.mem_append, List.mem_singleton] at hk
    rcases hk with hk | rfl
    · exact hput r' hpos k (h.known k hk)
    · exact ⟨r', by rw [hpos, ← hkey]; exact Lib.Table.get?_put_self _ r'⟩
  | overwritten r r' hkey hold hne hpos hsaves hstore _ =>
    refine ⟨hstore.trans h.hasStore, fun k hk => ?_⟩
    rw [hsaves] at hk
    exact hput r' hpos k (h.known k hk)

/-- A save writes the row of its position, and only this one. -/
theorem get?_saved (queue : List PositionId) (r : PositionRecord) (k : PositionId) :
    (d.saved queue r).store.rows.get? k = if r.positionId = k then some r else d.store.rows.get? k := by
  rw [saved, PositionStore.get?_save]
  simp

theorem Covered.save {l₁ l₂ : List PositionId} {id : PositionId} {r : PositionRecord} (h : d.Covered)
    (hq : d.tracker.pendingSaves = l₁ ++ id :: l₂) (hr : d.tracker.positions.get? id = some r) :
    (d.saved (l₁ ++ l₂) r).Covered := by
  have hkey : r.positionId = id := Lib.Table.key_of_get? hr
  intro k u hk
  rw [get?_saved, hkey]
  by_cases hid : id = k
  · right
    rw [if_pos hid, ← hr, hid]
    exact hk
  · rw [if_neg hid]
    refine (h k u hk).imp_left fun hmem => ?_
    rw [hq, List.mem_append, List.mem_cons] at hmem
    exact List.mem_append.mpr (hmem.imp_right fun hor => hor.resolve_left (Ne.symm hid))

theorem WellFormed.save {l₁ l₂ : List PositionId} {id : PositionId} (h : d.WellFormed)
    (hq : d.tracker.pendingSaves = l₁ ++ id :: l₂) (r : PositionRecord) :
    (d.saved (l₁ ++ l₂) r).WellFormed where
  hasStore := h.hasStore
  known k hk := h.known k (by rw [hq]; exact (Lib.split_sublist rfl).subset hk)

/-! ### When all that is queued has run -/

/-- The queued saves can run, one after the other; they write the rows of their positions only. -/
theorem exists_drained (h : d.WellFormed) : ∃ d' tr, Lib.Run Step d tr d' ∧
    (∀ x ∈ tr, x.label.isSave = true) ∧ d'.tracker.pendingSaves = [] ∧
    d'.tracker.positions = d.tracker.positions ∧
    ∀ k ∉ d.tracker.pendingSaves, d'.store.rows.get? k = d.store.rows.get? k := by
  generalize hq : d.tracker.pendingSaves = queue
  induction queue generalizing d with
  | nil => exact ⟨d, [], .nil d, by simp, hq, rfl, fun _ _ => rfl⟩
  | cons id queue ih =>
    obtain ⟨r, hr⟩ := h.known id (by rw [hq]; exact List.mem_cons_self)
    have hkey : r.positionId = id := Lib.Table.key_of_get? hr
    have hstep : Step d (.save id) (d.saved queue r) := .save d [] queue id r hq hr
    have hrest : (d.saved ([] ++ queue) r).WellFormed := h.save hq r
    obtain ⟨d', tr, hrun, hsaves, hempty, hpos, hrows⟩ := ih hrest rfl
    refine ⟨d', _ :: tr, (Lib.Run.single hstep).append hrun, ?_, hempty, hpos, fun k hk => ?_⟩
    · simpa [Label.isSave] using hsaves
    · rw [List.mem_cons, not_or] at hk
      rw [hrows k hk.2, get?_saved, hkey, if_neg (Ne.symm hk.1)]

/-- **Convergence is cover.** Every order of the queued saves makes the rows the records exactly if each
record is stored already or still has a save queued. -/
theorem converges_iff (h : d.WellFormed) : d.Converges ↔ d.Covered := by
  constructor
  · intro hconv id r hr
    obtain ⟨d', tr, hrun, hsaves, hempty, hpos, hrows⟩ := exists_drained h
    have hrow := hconv d' tr hrun hsaves hempty id r (by rw [hpos]; exact hr)
    by_cases hid : id ∈ d.tracker.pendingSaves
    · exact .inl hid
    · exact .inr ((hrows id hid).symm.trans hrow)
  · intro hcov d' tr hrun hsaves hempty id r hr
    have hend : d'.Covered := by
      refine (hrun.invariant_under (C := fun _ l => l.isSave = true) ?_ hcov hsaves).1
      intro e l e' he hl hst
      cases hst with
      | tracker _ _ => cases hl
      | exit _ _ _ => cases hl
      | save l₁ l₂ id r hq hr => exact he.save hq hr
    refine (hend id r hr).resolve_left ?_
    rw [hempty]
    exact List.not_mem_nil

/-! ### Runs -/

/-- One attempt of `execute_close_with_retry`. -/
theorem attempt_saves (h : d.WellFormed) {e : CloseDesk} (he : e.trading = d.desk.trading) (c : RetryCall)
    (now : Time) : SaveEffect d.tracker (e.attempt c now).trading.tracker c.id
      (c.attempt < c.retries ∧ d.desk.trading.CloseUnsaved c.id c.currentPrice now) := by
  unfold CloseDesk.attempt
  split_ifs with hleft
  · have hbegin : SaveEffect d.tracker (d.desk.trading.closeBegin c.id c.currentPrice now).1.tracker c.id _ :=
      Trading.closeBegin_saves h.hasStore c.id c.currentPrice now
    rw [CloseDesk.trading_after, he]
    simpa only [hleft, true_and] using hbegin
  · rw [he]
    exact .kept (fun _ => rfl) rfl rfl fun hun => hleft hun.1

/-- **One step.** Every step but a save has the effect of one call on one position. -/
theorem Step.effect (hs : Step d l d') (h : d.WellFormed) (hl : l.isSave = false) :
    SaveEffect d.tracker d'.tracker l.position (d.Unsaved l) ∧ d'.store = d.store := by
  have hsame : ∀ {id : PositionId} {t : PositionTracker}, t = d.tracker → SaveEffect d.tracker t id False := by
    rintro id t rfl
    exact .kept (fun _ => rfl) rfl rfl not_false
  cases hs with
  | tracker c hnew => exact ⟨PositionTracker.after_saves h.hasStore c, rfl⟩
  | save l₁ l₂ id r hq hr => cases hl
  | exit l e he =>
    refine ⟨?_, rfl⟩
    show SaveEffect d.tracker e.trading.tracker _ _
    cases he with
    | close id price now =>
      rw [CloseDesk.trading_after]
      exact Trading.closeBegin_saves h.hasStore id price now
    | closeWithRetry id price maxRetries now =>
      exact attempt_saves h rfl (d.desk.trading.retryCall id price maxRetries) now
    | wake l₁ l₂ c now hd =>
      have hslept : CloseDesk.trading { d.desk with sleeping := l₁ ++ l₂ } = d.desk.trading := rfl
      exact attempt_saves h hslept c now
    | sellReply l₁ l₂ who id reply now hd =>
      rw [CloseDesk.trading_after]
      exact Trading.sellAnswered_saves h.hasStore id reply now
    | sellLost l₁ l₂ who id hd => exact hsame rfl
    | fetched l₁ l₂ who id reply now hd =>
      rw [CloseDesk.trading_after]
      exact hsame rfl
    | fetchLost l₁ l₂ who id hd => exact hsame rfl
    | sleepLost l₁ l₂ c hd => exact hsame rfl

theorem Step.wellFormed (hs : Step d l d') (h : d.WellFormed) : d'.WellFormed := by
  cases hs with
  | save l₁ l₂ id r hq hr => exact h.save hq r
  | tracker c hnew => exact h.effect ((Step.tracker d c hnew).effect h rfl).1
  | exit l e he => exact h.effect ((Step.exit d l e he).effect h rfl).1

/-- A step keeps the cover exactly if it leaves no record behind the queue. -/
theorem Step.covered_iff (hs : Step d l d') (h : d.WellFormed) (hc : d.Covered) :
    d'.Covered ↔ d.Saves l := by
  cases hs with
  | save l₁ l₂ id r hq hr => exact ⟨fun _ hun => hun.elim, fun _ => hc.save hq hr⟩
  | tracker c hnew =>
    obtain ⟨heffect, hstore⟩ := (Step.tracker d c hnew).effect h rfl
    exact hc.effect heffect hstore
  | exit l e he =>
    obtain ⟨heffect, hstore⟩ := (Step.exit d l e he).effect h rfl
    exact hc.effect heffect hstore

/-- **Stored state converges to memory** all along a run exactly if no step of it writes a record without
having a save of it queued. -/
theorem stored_converges_iff {tr : List (Lib.Taken SaveDesk Label)} (hwf : d.WellFormed) (hconv : d.Converges)
    (hrun : Lib.Run Step d tr d') :
    (∀ x ∈ tr, x.post.Converges) ↔ ∀ x ∈ tr, x.pre.Saves x.label := by
  refine hrun.always_iff (J := WellFormed) ?_ hwf hconv
  intro e l e' he hconv hst
  have hwf' := hst.wellFormed he
  rw [converges_iff he] at hconv
  rw [converges_iff hwf']
  exact ⟨hwf', hst.covered_iff he hconv⟩

/-- Nothing has been traded yet. -/
def newDesk : SaveDesk where
  desk := { trading := { tracker := { hasStore := true } } }

theorem newDesk_wellFormed : newDesk.WellFormed := ⟨rfl, fun _ hid => absurd hid List.not_mem_nil⟩

theorem newDesk_converges : newDesk.Converges := by
  rw [converges_iff newDesk_wellFormed]
  intro id r hr
  cases hr

/-- The first order is created. -/
def ordered : SaveDesk := newDesk.withTracker (newDesk.tracker.after (.createPending PositionTracker.firstOrder))

/-- It is filled, and a second one rejected, before any save has run. -/
def twoOrders : SaveDesk :=
  let filled := ordered.withTracker (ordered.tracker.after (.confirmFill 0 (1 / 2) none 1))
  let second := filled.withTracker
    (filled.tracker.after (.createPending { PositionTracker.firstOrder with positionId := 1 }))
  second.withTracker (second.tracker.after (.rejectFill 1 2))

def recordOf (id : PositionId) (h : (twoOrders.tracker.positions.get? id).isSome = true) : PositionRecord :=
  (twoOrders.tracker.positions.get? id).get h

/-- The saves of the two orders run in another order than they were queued in. -/
theorem stored_converges_queued : ∃ tr d', Lib.Run Step newDesk tr d' ∧
    (d'.tracker.pendingSaves = [] ∧ d'.store.rows.records.map PositionRecord.state = [.closed, .openConfirmed]) ∧
    ∀ x ∈ tr, x.post.Converges := by
  have hcalls : Lib.Run Step newDesk _ twoOrders := (((Lib.Run.single
    (.tracker newDesk (.createPending PositionTracker.firstOrder) ⟨rfl, rfl, rfl⟩)).snoc
    (.tracker ordered (.confirmFill 0 (1 / 2) none 1) trivial)).snoc
    (.tracker _ (.createPending { PositionTracker.firstOrder with positionId := 1 })
      ⟨by decide +kernel, rfl, rfl⟩)).snoc
    (.tracker _ (.rejectFill 1 2) trivial)
  have hrun := ((hcalls.snoc
    (.save twoOrders [0, 0] [] 1 (recordOf 1 (by decide +kernel)) (by decide +kernel) (by decide +kernel))).snoc
    (.save _ [] [0] 0 (recordOf 0 (by decide +kernel)) (by decide +kernel) (by decide +kernel))).snoc
    (.save _ [] [] 0 (recordOf 0 (by decide +kernel)) (by decide +kernel) (by decide +kernel))
  refine ⟨_, _, hrun, by decide +kernel,
    (stored_converges_iff newDesk_wellFormed newDesk_converges hrun).mpr ?_⟩
  simp only [List.forall_mem_append, List.forall_mem_singleton, Saves]
  refine ⟨⟨⟨⟨⟨⟨False.elim, fun _ => ?_⟩, False.elim⟩, fun _ => ?_⟩, False.elim⟩, False.elim⟩, False.elim⟩
  all_goals decide +kernel

/-- An order is created and saved, then rejected: no save is queued, and its row still waits for the fill. -/
theorem rejected_order_not_stored :
    newDesk.WellFormed ∧ newDesk.Converges ∧ ∃ d' tr, Lib.Run Step newDesk tr d' ∧
      d'.tracker.pendingSaves = [] ∧
      (d'.tracker.positions.get? 0).map PositionRecord.state = some .closed ∧
      (d'.store.rows.get? 0).map PositionRecord.state = some .pendingOpen := by
  have hcreate : Step newDesk _ ordered :=
    .tracker newDesk (.createPending PositionTracker.firstOrder) ⟨rfl, rfl, rfl⟩
  have hsave : Step ordered (.save 0) (ordered.saved [] PositionTracker.firstOrder) :=
    .save ordered [] [] 0 PositionTracker.firstOrder rfl rfl
  have hreject : Step (ordered.saved [] PositionTracker.firstOrder) (.tracker (.rejectFill 0 1)) _ :=
    .tracker _ (.rejectFill 0 1) trivial
  refine ⟨newDesk_wellFormed, newDesk_converges, _, _,
    ((Lib.Run.single hcreate).snoc hsave).snoc hreject, ?_, ?_, ?_⟩
  all_goals decide +kernel

end SaveDesk

end Polyfast
