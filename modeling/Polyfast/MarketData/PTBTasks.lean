import Polyfast.Lib.Run
import Polyfast.MarketData.LivePrice

/-!
# PTB fetch tasks

`fetch_ptb` waits for the source once; `fetch_ptb_with_retry` sleeps and fetches until the record is locked
or the event ends. A task checks the lock before it waits and writes the record afterwards, so two tasks
on one event get in each other's way.

* `PTBFetcher.fetchBegin`, `fetchEnd`, `retryLoop`, `wake`: the stretches between awaits;
* `PTBTasks.Step`: any number of tasks, interleaved at their awaits;
* `PTBTasks.lock_iff`: when a lock holds for ever and no task raises.
-/

namespace Polyfast

/-- What a source adapter answers. -/
structure PTBFetchResult where
  success : Bool
  value : Option ℚ := none
  sourceName : String := ""
  error : String := ""

namespace PTBRecord

variable (r : PTBRecord)

/-- Lock the value; a locked record refuses. -/
def lock (value : ℚ) (source : String) (now : Time) : Except PyError PTBRecord :=
  if r.isLocked then
    .error (.runtimeError (s!"PTB already locked for {r.conditionId}: " ++
      s!"value={r.ptbValue.getD 0}, source={r.sourceName}"))
  else .ok { r with ptbValue := some value, status := .acquired, sourceName := source
                    acquiredAt := some now }

def recordFailure (error : String) : PTBRecord :=
  { r with retryCount := r.retryCount + 1, lastError := error, status := .failed }

def recordRetry : PTBRecord := { r with retryCount := r.retryCount + 1, status := .waiting }

end PTBRecord

/-- The arguments of `fetch_ptb_with_retry`. -/
structure PTBRetry where
  conditionId : ConditionId
  asset : Asset
  eventSlug : String
  eventEndTs : Time

/-- Where a suspended task stands. -/
inductive PTBTask
  /-- `fetch_ptb` waits for the source. -/
  | fetching (conditionId : ConditionId)
  /-- `fetch_ptb_with_retry` sleeps before an attempt. -/
  | sleeping (a : PTBRetry) (attempt : ℕ) (wait : ℚ)
  /-- `fetch_ptb_with_retry` waits for the source in its `fetch_ptb`. -/
  | retrying (a : PTBRetry) (attempt : ℕ)

namespace PTBTask

/-- The event of a task. -/
def conditionId : PTBTask → ConditionId
  | fetching c => c
  | sleeping a _ _ => a.conditionId
  | retrying a _ => a.conditionId

/-- The task waits for the source, and has looked at the lock before. -/
def awaitsSource : PTBTask → Bool
  | sleeping _ _ _ => false
  | _ => true

end PTBTask

/-- How a stretch of a task ends. -/
inductive PTBProgress
  | returned
  | raised (e : PyError)
  | waits (t : PTBTask)

namespace PTBFetcher

variable (f : PTBFetcher)

/-- The record object, changed in place by its holder. -/
def write (r : PTBRecord) : PTBFetcher := { f with records := f.records.put r }

/-- `get_or_create_record`. -/
def getOrCreateRecord (conditionId : ConditionId) (asset : Asset) : PTBFetcher × PTBRecord :=
  match f.records.get? conditionId with
  | some r => (f, r)
  | none =>
    let r : PTBRecord := { conditionId := conditionId, asset := asset }
    (f.write r, r)

/-- `fetch_ptb` up to the source call; `false` if the record is locked and it returns at once. -/
def fetchBegin (conditionId : ConditionId) (asset : Asset) : PTBFetcher × Bool :=
  let (f, r) := f.getOrCreateRecord conditionId asset
  if r.isLocked then (f, false) else (f.write r.recordRetry, true)

/-- A call of `fetch_ptb` up to its await. -/
def fetch (conditionId : ConditionId) (asset : Asset) : PTBFetcher × PTBProgress :=
  match f.fetchBegin conditionId asset with
  | (f, false) => (f, .returned)
  | (f, true) => (f, .waits (.fetching conditionId))

/-- `fetch_ptb` from the source's answer to its end; the record is the one it began with. -/
def fetchEnd (conditionId : ConditionId) (result : PTBFetchResult) (now : Time) :
    PTBFetcher × Option PyError :=
  match f.records.get? conditionId with
  | none => (f, none)
  | some r =>
    match result.success, result.value with
    | true, some value =>
      match r.lock value result.sourceName now with
      | .error e => (f, some e)
      | .ok r => (f.write r, none)
    | _, _ => (f.write (r.recordFailure result.error), none)

/-- The event ended: a record that is not locked is marked as failed. -/
def expire (conditionId : ConditionId) : PTBFetcher :=
  match f.records.get? conditionId with
  | none => f
  | some r => if r.isLocked then f else f.write (r.recordFailure "Event expired before PTB acquired")

/-- The wait before an attempt. -/
def retryWait (attempt : ℕ) : ℚ := (f.retrySchedule[attempt]?).getD f.retrySteady

/-- The top of the loop of `fetch_ptb_with_retry`. -/
def retryLoop (a : PTBRetry) (attempt : ℕ) (now : Time) : PTBFetcher × PTBProgress :=
  if now < a.eventEndTs then (f, .waits (.sleeping a attempt (f.retryWait attempt)))
  else (f.expire a.conditionId, .returned)

/-- `fetch_ptb_with_retry` up to its first sleep. -/
def retryBegin (a : PTBRetry) (now : Time) : PTBFetcher × PTBProgress :=
  let (f, r) := f.getOrCreateRecord a.conditionId a.asset
  if r.isLocked then (f, .returned) else f.retryLoop a 0 now

/-- `fetch_ptb_with_retry` after a sleep. -/
def wake (a : PTBRetry) (attempt : ℕ) (now : Time) : PTBFetcher × PTBProgress :=
  if now ≥ a.eventEndTs then (f.expire a.conditionId, .returned)
  else match f.fetchBegin a.conditionId a.asset with
    | (f, false) => (f, .returned)
    | (f, true) => (f, .waits (.retrying a attempt))

/-- The record of the event is locked. -/
def isLocked (conditionId : ConditionId) : Bool := (f.records.get? conditionId).any PTBRecord.isLocked

/-- The source answers a task. -/
def answer (t : PTBTask) (result : PTBFetchResult) (now : Time) : PTBFetcher × PTBProgress :=
  match t with
  | .fetching conditionId =>
    match f.fetchEnd conditionId result now with
    | (f, some e) => (f, .raised e)
    | (f, none) => (f, .returned)
  | .retrying a attempt =>
    match f.fetchEnd a.conditionId result now with
    | (f, some e) => (f, .raised e)
    | (f, none) => if f.isLocked a.conditionId then (f, .returned) else f.retryLoop a (attempt + 1) now
  | .sleeping a attempt wait => (f, .waits (.sleeping a attempt wait))

/-! ### What a stretch does to locks -/

/-- The record of the event is locked with the value. -/
def Locked (conditionId : ConditionId) (value : ℚ) : Prop :=
  ∃ r, f.records.get? conditionId = some r ∧ r.isLocked = true ∧ r.ptbValue = some value

/-- No lock is lost. -/
def KeepsLocks (f f' : PTBFetcher) : Prop := ∀ c v, f.Locked c v → f'.Locked c v

variable {f} {f' : PTBFetcher}

theorem KeepsLocks.refl (f : PTBFetcher) : KeepsLocks f f := fun _ _ h => h

theorem KeepsLocks.trans {f'' : PTBFetcher} (h : KeepsLocks f f') (h' : KeepsLocks f' f'') :
    KeepsLocks f f'' := fun c v hc => h' c v (h c v hc)

theorem isLocked_iff {c : ConditionId} : f.isLocked c = true ↔ ∃ v, f.Locked c v := by
  unfold isLocked Locked
  cases h : f.records.get? c with
  | none => simp
  | some r =>
    constructor
    · intro hl
      have hl' : r.isLocked = true := hl
      have hv : r.ptbValue.isSome = true := by
        unfold PTBRecord.isLocked at hl'
        simp at hl'
        exact hl'.2
      obtain ⟨v, hv⟩ := Option.isSome_iff_exists.mp hv
      exact ⟨v, r, rfl, hl', hv⟩
    · rintro ⟨v, u, hu, hl, -⟩
      obtain rfl := Option.some.inj hu
      exact hl

/-- Writing a record whose event is not locked loses no lock. -/
theorem KeepsLocks.write {r : PTBRecord} (h : f.isLocked r.conditionId = false) :
    KeepsLocks f (f.write r) := by
  rintro c v ⟨u, hu, hl, hv⟩
  have hne : r.conditionId ≠ c := by
    intro heq
    subst heq
    have hlocked : f.isLocked r.conditionId = true := isLocked_iff.mpr ⟨v, u, hu, hl, hv⟩
    rw [h] at hlocked
    cases hlocked
  exact ⟨u, (Lib.Table.get?_put_ne _ hne).trans hu, hl, hv⟩

theorem getOrCreateRecord_spec (f : PTBFetcher) (c : ConditionId) (asset : Asset) :
    KeepsLocks f (f.getOrCreateRecord c asset).1 ∧
      (f.getOrCreateRecord c asset).1.records.get? c = some (f.getOrCreateRecord c asset).2 := by
  unfold getOrCreateRecord
  cases h : f.records.get? c with
  | some r => exact ⟨.refl f, h⟩
  | none =>
    refine ⟨.write ?_, Lib.Table.get?_put_self _ _⟩
    show f.isLocked c = false
    simp [isLocked, h]

theorem isLocked_of_get? {c : ConditionId} {r : PTBRecord} (h : f.records.get? c = some r) :
    f.isLocked c = r.isLocked := by
  simp [isLocked, h]

theorem fetchBegin_keeps (f : PTBFetcher) (c : ConditionId) (asset : Asset) :
    KeepsLocks f (f.fetchBegin c asset).1 := by
  obtain ⟨hkeep, hget⟩ := getOrCreateRecord_spec f c asset
  unfold fetchBegin
  dsimp only
  split_ifs with hl
  · exact hkeep
  · refine hkeep.trans (.write ?_)
    have hkey : (f.getOrCreateRecord c asset).2.conditionId = c := Lib.Table.key_of_get? hget
    show (f.getOrCreateRecord c asset).1.isLocked (f.getOrCreateRecord c asset).2.conditionId = false
    rw [hkey, isLocked_of_get? hget]
    exact Bool.eq_false_iff.mpr hl

theorem fetch_keeps (f : PTBFetcher) (c : ConditionId) (asset : Asset) :
    KeepsLocks f (f.fetch c asset).1 ∧ ∀ e, (f.fetch c asset).2 ≠ .raised e := by
  have hbegin := fetchBegin_keeps f c asset
  unfold fetch
  split
  all_goals
    rename_i g hg
    rw [hg] at hbegin
    exact ⟨hbegin, by simp⟩

theorem expire_keeps (f : PTBFetcher) (c : ConditionId) : KeepsLocks f (f.expire c) := by
  unfold expire
  cases h : f.records.get? c with
  | none => exact .refl f
  | some r =>
    dsimp only
    split_ifs with hl
    · exact .refl f
    · refine .write ?_
      have hkey : r.conditionId = c := Lib.Table.key_of_get? h
      show f.isLocked r.conditionId = false
      rw [hkey, isLocked_of_get? h]
      exact Bool.eq_false_iff.mpr hl

theorem retryLoop_keeps (f : PTBFetcher) (a : PTBRetry) (attempt : ℕ) (now : Time) :
    KeepsLocks f (f.retryLoop a attempt now).1 ∧
      ∀ e, (f.retryLoop a attempt now).2 ≠ .raised e := by
  unfold retryLoop
  split_ifs
  · exact ⟨.refl f, by simp⟩
  · exact ⟨expire_keeps f _, by simp⟩

theorem retryBegin_keeps (f : PTBFetcher) (a : PTBRetry) (now : Time) :
    KeepsLocks f (f.retryBegin a now).1 ∧ ∀ e, (f.retryBegin a now).2 ≠ .raised e := by
  obtain ⟨hkeep, -⟩ := getOrCreateRecord_spec f a.conditionId a.asset
  unfold retryBegin
  dsimp only
  split_ifs
  · exact ⟨hkeep, by simp⟩
  · obtain ⟨hloop, hraise⟩ := retryLoop_keeps (f.getOrCreateRecord a.conditionId a.asset).1 a 0 now
    exact ⟨hkeep.trans hloop, hraise⟩

theorem wake_keeps (f : PTBFetcher) (a : PTBRetry) (attempt : ℕ) (now : Time) :
    KeepsLocks f (f.wake a attempt now).1 ∧ ∀ e, (f.wake a attempt now).2 ≠ .raised e := by
  have hbegin := fetchBegin_keeps f a.conditionId a.asset
  unfold wake
  split_ifs
  · exact ⟨expire_keeps f _, by simp⟩
  · split
    all_goals
      rename_i g hg
      rw [hg] at hbegin
      exact ⟨hbegin, by simp⟩

/-- An answer that finds the record not locked writes it, and raises nothing. -/
theorem fetchEnd_unlocked {c : ConditionId} (h : f.isLocked c = false) (result : PTBFetchResult)
    (now : Time) : KeepsLocks f (f.fetchEnd c result now).1 ∧ (f.fetchEnd c result now).2 = none := by
  unfold fetchEnd
  cases hr : f.records.get? c with
  | none => exact ⟨.refl f, rfl⟩
  | some r =>
    have hkey : r.conditionId = c := Lib.Table.key_of_get? hr
    have hunlocked : r.isLocked = false := (isLocked_of_get? hr).symm.trans h
    have hwrite : ∀ u : PTBRecord, u.conditionId = r.conditionId → KeepsLocks f (f.write u) :=
      fun u hu => .write (by rw [hu, hkey]; exact h)
    dsimp only
    split
    · simp only [PTBRecord.lock, hunlocked, Bool.false_eq_true, if_false]
      exact ⟨hwrite _ rfl, trivial⟩
    · exact ⟨hwrite _ rfl, rfl⟩

/-- An answer that finds the record locked raises, or takes the lock away. -/
theorem fetchEnd_locked {c : ConditionId} (h : f.isLocked c = true) (result : PTBFetchResult)
    (now : Time) :
    (∃ e, (f.fetchEnd c result now).2 = some e) ∨
      (f.fetchEnd c result now).2 = none ∧ (f.fetchEnd c result now).1.isLocked c = false := by
  unfold fetchEnd
  cases hr : f.records.get? c with
  | none => simp [isLocked, hr] at h
  | some r =>
    have hkey : r.conditionId = c := Lib.Table.key_of_get? hr
    have hlocked : r.isLocked = true := (isLocked_of_get? hr).symm.trans h
    dsimp only
    split
    · left
      simp [PTBRecord.lock, hlocked]
    · right
      refine ⟨rfl, ?_⟩
      have hget : (f.write (r.recordFailure result.error)).records.get? c =
          some (r.recordFailure result.error) := by
        rw [← hkey]
        exact Lib.Table.get?_put_self _ (r.recordFailure result.error)
      rw [isLocked_of_get? hget]
      rfl

theorem expire_isLocked {c : ConditionId} (h : f.isLocked c = false) : (f.expire c).isLocked c = false := by
  unfold expire
  cases hr : f.records.get? c with
  | none => exact h
  | some r =>
    have hkey : r.conditionId = c := Lib.Table.key_of_get? hr
    have hunlocked : r.isLocked = false := (isLocked_of_get? hr).symm.trans h
    simp only [hunlocked, Bool.false_eq_true, if_false]
    have hget : (f.write (r.recordFailure "Event expired before PTB acquired")).records.get? c =
        some (r.recordFailure "Event expired before PTB acquired") := by
      rw [← hkey]
      exact Lib.Table.get?_put_self _ (r.recordFailure _)
    rw [isLocked_of_get? hget]
    rfl

theorem retryLoop_isLocked {c : ConditionId} (h : f.isLocked c = false) (a : PTBRetry) (attempt : ℕ)
    (now : Time) (ha : a.conditionId = c) : (f.retryLoop a attempt now).1.isLocked c = false := by
  subst ha
  unfold retryLoop
  split_ifs
  · exact h
  · exact expire_isLocked h

/-- An answer in time loses no lock and raises nothing. -/
theorem answer_unlocked {t : PTBTask} (h : f.isLocked t.conditionId = false) (result : PTBFetchResult)
    (now : Time) :
    KeepsLocks f (f.answer t result now).1 ∧ ∀ e, (f.answer t result now).2 ≠ .raised e := by
  cases t with
  | fetching c =>
    obtain ⟨hkeep, hnone⟩ := fetchEnd_unlocked h result now
    simp only [answer]
    dsimp only [PTBTask.conditionId] at hkeep hnone
    generalize f.fetchEnd c result now = out at hkeep hnone
    obtain ⟨g, e⟩ := out
    obtain rfl : e = none := hnone
    exact ⟨hkeep, by simp⟩
  | sleeping a attempt wait => exact ⟨.refl f, by simp [answer]⟩
  | retrying a attempt =>
    obtain ⟨hkeep, hnone⟩ := fetchEnd_unlocked h result now
    simp only [answer]
    dsimp only [PTBTask.conditionId] at hkeep hnone
    generalize f.fetchEnd a.conditionId result now = out at hkeep hnone
    obtain ⟨g, e⟩ := out
    obtain rfl : e = none := hnone
    dsimp only
    split_ifs
    · exact ⟨hkeep, by simp⟩
    · obtain ⟨hloop, hraise⟩ := retryLoop_keeps g a (attempt + 1) now
      exact ⟨hkeep.trans hloop, hraise⟩

/-- An answer that comes too late raises, or takes the lock away. -/
theorem answer_locked {t : PTBTask} (ht : t.awaitsSource = true)
    (h : f.isLocked t.conditionId = true) (result : PTBFetchResult) (now : Time) :
    (∃ e, (f.answer t result now).2 = .raised e) ∨
      (f.answer t result now).1.isLocked t.conditionId = false := by
  cases t with
  | fetching c =>
    have hend := fetchEnd_locked h result now
    simp only [answer, PTBTask.conditionId] at hend ⊢
    generalize f.fetchEnd c result now = out at hend
    obtain ⟨g, e⟩ := out
    rcases hend with ⟨e, rfl⟩ | ⟨rfl, hg⟩
    · exact .inl ⟨e, rfl⟩
    · exact .inr hg
  | sleeping a attempt wait => cases ht
  | retrying a attempt =>
    have hend := fetchEnd_locked h result now
    simp only [answer, PTBTask.conditionId] at hend ⊢
    generalize f.fetchEnd a.conditionId result now = out at hend
    obtain ⟨g, e⟩ := out
    rcases hend with ⟨e, rfl⟩ | ⟨rfl, hg⟩
    · exact .inl ⟨e, rfl⟩
    · right
      have hg' : g.isLocked a.conditionId = false := hg
      dsimp only
      rw [hg', if_neg Bool.false_ne_true]
      exact retryLoop_isLocked hg' a (attempt + 1) now rfl

end PTBFetcher

/-! ### Tasks interleaved at their awaits -/

/-- The fetcher and its suspended tasks. -/
structure PTBTasks where
  fetcher : PTBFetcher := {}
  tasks : List PTBTask := []
  /-- What tasks have raised so far. -/
  raised : List PyError := []

namespace PTBTasks

/-- A task has run up to an await or to its end; `l₁` and `l₂` are the other tasks. -/
def after (s : PTBTasks) (l₁ l₂ : List PTBTask) (out : PTBFetcher × PTBProgress) : PTBTasks :=
  match out.2 with
  | .returned => { s with fetcher := out.1, tasks := l₁ ++ l₂ }
  | .raised e => { s with fetcher := out.1, tasks := l₁ ++ l₂, raised := s.raised ++ [e] }
  | .waits t => { s with fetcher := out.1, tasks := l₁ ++ t :: l₂ }

inductive Label
  | fetch (c : ConditionId) (asset : Asset)
  | fetchWithRetry (a : PTBRetry) (now : Time)
  | answered (t : PTBTask) (result : PTBFetchResult) (now : Time)
  | woken (a : PTBRetry) (attempt : ℕ) (now : Time)
  | cancelled (t : PTBTask)

/-- A task is started, goes on after its await, or is cancelled there. -/
inductive Step : PTBTasks → Label → PTBTasks → Prop
  | fetch (s : PTBTasks) (c : ConditionId) (asset : Asset) :
      Step s (.fetch c asset) (s.after s.tasks [] (s.fetcher.fetch c asset))
  | fetchWithRetry (s : PTBTasks) (a : PTBRetry) (now : Time) :
      Step s (.fetchWithRetry a now) (s.after s.tasks [] (s.fetcher.retryBegin a now))
  | answered (s : PTBTasks) (l₁ l₂ : List PTBTask) (t : PTBTask) (result : PTBFetchResult)
      (now : Time) (ht : t.awaitsSource = true) (h : s.tasks = l₁ ++ t :: l₂) :
      Step s (.answered t result now) (s.after l₁ l₂ (s.fetcher.answer t result now))
  | woken (s : PTBTasks) (l₁ l₂ : List PTBTask) (a : PTBRetry) (attempt : ℕ) (wait : ℚ)
      (now : Time) (h : s.tasks = l₁ ++ .sleeping a attempt wait :: l₂) :
      Step s (.woken a attempt now) (s.after l₁ l₂ (s.fetcher.wake a attempt now))
  | cancelled (s : PTBTasks) (l₁ l₂ : List PTBTask) (t : PTBTask) (h : s.tasks = l₁ ++ t :: l₂) :
      Step s (.cancelled t) { s with tasks := l₁ ++ l₂ }

/-- No source answers a task whose record another task has locked since. -/
def InTime (s : PTBTasks) : Label → Prop
  | .answered t _ _ => s.fetcher.isLocked t.conditionId = false
  | _ => True

/-- The step loses no lock and raises nothing. -/
def Harmless (s s' : PTBTasks) : Prop :=
  PTBFetcher.KeepsLocks s.fetcher s'.fetcher ∧ s'.raised = s.raised

variable {s s' : PTBTasks} {l : Label}

theorem after_harmless {l₁ l₂ : List PTBTask} {out : PTBFetcher × PTBProgress}
    (h : PTBFetcher.KeepsLocks s.fetcher out.1 ∧ ∀ e, out.2 ≠ .raised e) :
    Harmless s (s.after l₁ l₂ out) := by
  obtain ⟨hkeep, hraise⟩ := h
  unfold after
  split
  · exact ⟨hkeep, rfl⟩
  · rename_i e he
    exact absurd he (hraise e)
  · exact ⟨hkeep, rfl⟩

theorem fetcher_after (l₁ l₂ : List PTBTask) (out : PTBFetcher × PTBProgress) :
    (s.after l₁ l₂ out).fetcher = out.1 := by
  unfold after
  split <;> rfl

/-- What has been raised stays on record. -/
theorem Step.raised_prefix (h : Step s l s') : s.raised <+: s'.raised := by
  have hafter : ∀ l₁ l₂ out, s.raised <+: (s.after l₁ l₂ out).raised := by
    intro l₁ l₂ out
    unfold after
    split
    · exact List.prefix_refl _
    · exact List.prefix_append _ _
    · exact List.prefix_refl _
  cases h with
  | fetch c asset => exact hafter _ _ _
  | fetchWithRetry a now => exact hafter _ _ _
  | answered l₁ l₂ t result now ht h => exact hafter _ _ _
  | woken l₁ l₂ a attempt wait now h => exact hafter _ _ _
  | cancelled l₁ l₂ t h => exact List.prefix_refl _

/-- **One step.** It loses a lock or raises exactly when a source answers too late. -/
theorem Step.harmless_iff (h : Step s l s') : Harmless s s' ↔ InTime s l := by
  cases h with
  | fetch c asset => exact iff_of_true (after_harmless (PTBFetcher.fetch_keeps _ c asset)) trivial
  | fetchWithRetry a now =>
    exact iff_of_true (after_harmless (PTBFetcher.retryBegin_keeps _ a now)) trivial
  | answered l₁ l₂ t result now ht hsplit =>
    constructor
    · rintro ⟨hkeep, hraised⟩
      show s.fetcher.isLocked t.conditionId = false
      by_contra hlate
      rw [Bool.not_eq_false] at hlate
      rcases PTBFetcher.answer_locked ht hlate result now with ⟨e, he⟩ | hlost
      · unfold after at hraised
        rw [he] at hraised
        simp at hraised
      · obtain ⟨v, hv⟩ := PTBFetcher.isLocked_iff.mp hlate
        have hv' := hkeep _ v hv
        rw [fetcher_after] at hv'
        rw [PTBFetcher.isLocked_iff.mpr ⟨v, hv'⟩] at hlost
        cases hlost
    · intro hin
      exact after_harmless (PTBFetcher.answer_unlocked hin result now)
  | woken l₁ l₂ a attempt wait now hsplit =>
    exact iff_of_true (after_harmless (PTBFetcher.wake_keeps _ a attempt now)) trivial
  | cancelled l₁ l₂ t hsplit => exact iff_of_true ⟨.refl _, rfl⟩ trivial

theorem harmless_run_iff {tr : List (Lib.Taken PTBTasks Label)} (h : s.raised = [])
    (hrun : Lib.Run Step s tr s') :
    ((∀ x ∈ tr, PTBFetcher.KeepsLocks x.pre.fetcher x.post.fetcher) ∧ s'.raised = []) ↔
      ∀ x ∈ tr, InTime x.pre x.label := by
  induction hrun with
  | nil => simp [h]
  | @snoc t u tr l _ hst ih =>
    have hraised : u.raised = [] ↔ t.raised = [] ∧ u.raised = t.raised := by
      constructor
      · intro hu
        have ht : t.raised = [] := List.prefix_nil.mp (hu ▸ hst.raised_prefix)
        exact ⟨ht, hu.trans ht.symm⟩
      · rintro ⟨ht, hu⟩
        exact hu.trans ht
    simp only [List.forall_mem_append, List.forall_mem_singleton]
    rw [← ih, ← hst.harmless_iff, Harmless, hraised]
    tauto

/-- **The PTB lock.** In every run of any number of tasks, a lock holds for ever with its value and no task
raises, exactly when no source answers a task whose record another task has locked in the meantime. -/
theorem lock_iff {tr : List (Lib.Taken PTBTasks Label)} (h : s.raised = [])
    (hrun : Lib.Run Step s tr s') :
    ((∀ c v, Lib.Stays (fun t : PTBTasks => t.fetcher.Locked c v) tr) ∧ s'.raised = []) ↔
      ∀ x ∈ tr, InTime x.pre x.label := by
  rw [← harmless_run_iff h hrun]
  refine and_congr ?_ Iff.rfl
  constructor
  · intro hstays x hx c v
    exact (hrun.stays_iff.mp (hstays c v)) x hx
  · intro hkeep c v
    exact hrun.stays_iff.mpr fun x hx => hkeep x hx c v

/-- One call of `fetch_ptb` has asked the source. -/
def oneAsked : PTBTasks := ({} : PTBTasks).after [] [] (({} : PTBFetcher).fetch "event" "BTC")

/-- Two calls of `fetch_ptb` have asked the source. -/
def twoAsked : PTBTasks := oneAsked.after oneAsked.tasks [] (oneAsked.fetcher.fetch "event" "BTC")

/-- The source's price at the start of the event. -/
def openPrice : PTBFetchResult := { success := true, value := some 67260, sourceName := "ssr" }

/-- The source did not answer in time. -/
def noPrice : PTBFetchResult := { success := false, error := "timeout" }

/-- The first of them has locked the price. -/
def firstLocked : PTBTasks :=
  twoAsked.after [] [.fetching "event"] (twoAsked.fetcher.answer (.fetching "event") openPrice 0)

/-- The second has failed. -/
def secondFailed : PTBTasks :=
  firstLocked.after [] [] (firstLocked.fetcher.answer (.fetching "event") noPrice 1)

/-- One call that locks the price. -/
def oneTrace : List (Lib.Taken PTBTasks Label) :=
  [⟨{}, .fetch "event" "BTC", oneAsked⟩, ⟨oneAsked, .answered (.fetching "event") openPrice 0,
    oneAsked.after [] [] (oneAsked.fetcher.answer (.fetching "event") openPrice 0)⟩]

theorem lock_once :
    ((∀ c v, Lib.Stays (fun t : PTBTasks => t.fetcher.Locked c v) oneTrace) ∧
      (oneAsked.after [] [] (oneAsked.fetcher.answer (.fetching "event") openPrice 0)).raised = []) ↔
    ∀ x ∈ oneTrace, InTime x.pre x.label :=
  lock_iff rfl (((Lib.Run.nil ({} : PTBTasks)).snoc (Step.fetch {} "event" "BTC")).snoc
    (Step.answered oneAsked [] [] (.fetching "event") openPrice 0 rfl rfl))

/-- Two overlapping calls: the first locks, the second fails and takes the lock away. -/
theorem lock_lost :
    ∃ (s' : PTBTasks) (tr : List (Lib.Taken PTBTasks Label)), Lib.Run Step {} tr s' ∧
      ¬Lib.Stays (fun t : PTBTasks => t.fetcher.Locked "event" 67260) tr := by
  have hfirst : Lib.Run Step {} _ firstLocked :=
    (((Lib.Run.nil ({} : PTBTasks)).snoc (Step.fetch {} "event" "BTC")).snoc
      (Step.fetch oneAsked "event" "BTC")).snoc
      (Step.answered twoAsked [] [.fetching "event"] (.fetching "event") openPrice 0 rfl rfl)
  have hsecond : Lib.Run Step {} _ secondFailed := hfirst.snoc
    (Step.answered firstLocked [] [] (.fetching "event") noPrice 1 rfl rfl)
  refine ⟨_, _, hsecond, fun hstays => ?_⟩
  have hlocked : firstLocked.fetcher.Locked "event" 67260 :=
    ⟨{ conditionId := "event", asset := "BTC", ptbValue := some 67260, status := .acquired
       sourceName := "ssr", acquiredAt := some 0, retryCount := 2 },
      by decide +kernel, by decide +kernel, rfl⟩
  have hstill : secondFailed.fetcher.Locked "event" 67260 := hsecond.stays_iff.mp hstays
    ⟨firstLocked, _, secondFailed⟩ (List.mem_append_right _ (List.mem_singleton_self _)) hlocked
  have hgone : secondFailed.fetcher.isLocked "event" = false := by decide +kernel
  rw [PTBFetcher.isLocked_iff.mpr ⟨_, hstill⟩] at hgone
  cases hgone

end PTBTasks

end Polyfast
