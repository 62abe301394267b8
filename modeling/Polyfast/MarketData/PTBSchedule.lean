import Mathlib.Algebra.BigOperators.Group.List.Basic
import Mathlib.Algebra.Order.Ring.Rat
import Mathlib.Tactic.Linarith
import Polyfast.MarketData.PTBTasks

/-!
# How often a task asks for a PTB value

`fetch_ptb_with_retry` waits 2, 4, 8 and 16 seconds and then 10 seconds each before it asks, and asks no more once
the event has ended. One task is followed on a clock that is not set back; the other tasks change the records as they
like.

* `RetryLife`, `RetryLife.Step`: the task, with its requests and the time since which it waits;
* `Scheduled.step`: what a task has waited before a request;
* `requests_scheduled`: the requests of a run fit before the end of the event.
-/

namespace Polyfast

/-! ### The fetcher keeps its schedule -/

namespace PTBFetcher

/-- Records are written, and nothing else changes. -/
inductive Writes (f : PTBFetcher) : PTBFetcher → Prop
  | refl : Writes f f
  | write {g : PTBFetcher} (h : Writes f g) (r : PTBRecord) : Writes f (g.write r)

variable {f g : PTBFetcher}

theorem Writes.retryWait (h : Writes f g) (n : ℕ) : g.retryWait n = f.retryWait n := by
  induction h with
  | refl => rfl
  | write _ r ih => exact ih

theorem Writes.trans {k : PTBFetcher} (h : Writes f g) (h' : Writes g k) : Writes f k := by
  induction h' with
  | refl => exact h
  | write _ r ih => exact ih.write r

theorem writes_getOrCreateRecord (f : PTBFetcher) (c : ConditionId) (asset : Asset) :
    Writes f (f.getOrCreateRecord c asset).1 := by
  unfold getOrCreateRecord
  cases f.records.get? c with
  | none => exact .write .refl _
  | some r => exact .refl

theorem writes_fetchBegin (f : PTBFetcher) (c : ConditionId) (asset : Asset) : Writes f (f.fetchBegin c asset).1 := by
  unfold fetchBegin
  dsimp only
  split_ifs
  · exact writes_getOrCreateRecord f c asset
  · exact (writes_getOrCreateRecord f c asset).write _

theorem writes_expire (f : PTBFetcher) (c : ConditionId) : Writes f (f.expire c) := by
  unfold expire
  cases f.records.get? c with
  | none => exact .refl
  | some r =>
    dsimp only
    split_ifs
    · exact .refl
    · exact .write .refl _

theorem writes_fetchEnd (f : PTBFetcher) (c : ConditionId) (result : PTBFetchResult) (now : Time) :
    Writes f (f.fetchEnd c result now).1 := by
  unfold fetchEnd
  cases f.records.get? c with
  | none => exact .refl
  | some r =>
    dsimp only
    split
    · split
      · exact .refl
      · exact .write .refl _
    · exact .write .refl _

/-- The top of the loop: the task sleeps as the schedule says, or the event has ended. -/
theorem retryLoop_spec (f : PTBFetcher) (a : PTBRetry) (n : ℕ) (now : Time) : Writes f (f.retryLoop a n now).1 ∧
    ((f.retryLoop a n now).2 = .waits (.sleeping a n (f.retryWait n)) ∨ (f.retryLoop a n now).2 = .returned) := by
  unfold retryLoop
  split_ifs
  · exact ⟨.refl, .inl rfl⟩
  · exact ⟨writes_expire f a.conditionId, .inr rfl⟩

theorem retryBegin_spec (f : PTBFetcher) (a : PTBRetry) (now : Time) : Writes f (f.retryBegin a now).1 ∧
    ((f.retryBegin a now).2 = .waits (.sleeping a 0 (f.retryWait 0)) ∨ (f.retryBegin a now).2 = .returned) := by
  unfold retryBegin
  have hget := writes_getOrCreateRecord f a.conditionId a.asset
  dsimp only
  split_ifs
  · exact ⟨hget, .inr rfl⟩
  · obtain ⟨hloop, hnext⟩ := retryLoop_spec (f.getOrCreateRecord a.conditionId a.asset).1 a 0 now
    rw [hget.retryWait] at hnext
    exact ⟨hget.trans hloop, hnext⟩

/-- After a sleep the task asks only before the end of the event. -/
theorem wake_spec (f : PTBFetcher) (a : PTBRetry) (n : ℕ) (now : Time) : Writes f (f.wake a n now).1 ∧
    (((f.wake a n now).2 = .waits (.retrying a n) ∧ now < a.eventEndTs) ∨ (f.wake a n now).2 = .returned) := by
  have hbegin := writes_fetchBegin f a.conditionId a.asset
  unfold wake
  split_ifs with hend
  · exact ⟨writes_expire f a.conditionId, .inr rfl⟩
  · rcases hb : f.fetchBegin a.conditionId a.asset with ⟨g, _ | _⟩ <;> rw [hb] at hbegin
    · exact ⟨hbegin, .inr rfl⟩
    · exact ⟨hbegin, .inl ⟨rfl, not_le.mp hend⟩⟩

/-- After an answer the task is done, or sleeps before its next attempt. -/
theorem answer_retrying_spec (f : PTBFetcher) (a : PTBRetry) (n : ℕ) (result : PTBFetchResult) (now : Time) :
    Writes f (f.answer (.retrying a n) result now).1 ∧ ∀ t, (f.answer (.retrying a n) result now).2 = .waits t →
      t = .sleeping a (n + 1) (f.retryWait (n + 1)) := by
  have hend := writes_fetchEnd f a.conditionId result now
  unfold answer
  rcases he : f.fetchEnd a.conditionId result now with ⟨g, _ | e⟩ <;> rw [he] at hend <;> simp only [he]
  · split_ifs
    · exact ⟨hend, fun t ht => by cases ht⟩
    · obtain ⟨hloop, hnext⟩ := retryLoop_spec g a (n + 1) now
      refine ⟨hend.trans hloop, fun t ht => ?_⟩
      rcases hnext with hnext | hnext <;> rw [hnext] at ht <;> cases ht
      rw [hend.retryWait]
  · exact ⟨hend, fun t ht => by cases ht⟩

/-- What a task waits before its first `n` requests. -/
def scheduled (f : PTBFetcher) (n : ℕ) : ℚ := ((List.range n).map f.retryWait).sum

theorem scheduled_succ (f : PTBFetcher) (n : ℕ) : f.scheduled (n + 1) = f.scheduled n + f.retryWait n := by
  unfold scheduled
  rw [List.range_succ, List.map_append, List.sum_append, List.map_singleton, List.sum_singleton]

end PTBFetcher

/-! ### The life of a task -/

/-- A call of `fetch_ptb_with_retry`. -/
structure RetryLife where
  fetcher : PTBFetcher
  /-- Where it waits, if it has not ended. -/
  task : Option PTBTask
  /-- When it began to wait there. -/
  since : Time
  requests : ℕ := 0

namespace RetryLife

/-- The task has run up to its next await or to its end. -/
def after (s : RetryLife) (out : PTBFetcher × PTBProgress) (now : Time) : RetryLife where
  fetcher := out.1
  task := match out.2 with
    | .waits t => some t
    | _ => none
  since := now
  requests := match out.2 with
    | .waits (.retrying _ _) => s.requests + 1
    | _ => s.requests

/-- The call, up to its first await. -/
def begin (f : PTBFetcher) (a : PTBRetry) (now : Time) : RetryLife :=
  { fetcher := f, task := none, since := now : RetryLife }.after (f.retryBegin a now) now

inductive Label
  | others
  | woken (now : Time)
  | answered (result : PTBFetchResult) (now : Time)

/-- A sleep takes its time, and the clock is not set back. -/
inductive Step : RetryLife → Label → RetryLife → Prop
  | others (s : RetryLife) (g : PTBFetcher) (h : s.fetcher.Writes g) : Step s .others { s with fetcher := g }
  | woken (s : RetryLife) (a : PTBRetry) (attempt : ℕ) (wait : ℚ) (now : Time)
      (h : s.task = some (.sleeping a attempt wait)) (hsleep : s.since + wait ≤ now) :
      Step s (.woken now) (s.after (s.fetcher.wake a attempt now) now)
  | answered (s : RetryLife) (a : PTBRetry) (attempt : ℕ) (result : PTBFetchResult) (now : Time)
      (h : s.task = some (.retrying a attempt)) (hclock : s.since ≤ now) :
      Step s (.answered result now) (s.after (s.fetcher.answer (.retrying a attempt) result now) now)

variable {f : PTBFetcher} {a : PTBRetry} {start : Time} {s s' : RetryLife} {l : Label}

/-- What the task has waited for, and that its last request came in time. -/
structure Scheduled (f : PTBFetcher) (a : PTBRetry) (start : Time) (s : RetryLife) : Prop where
  schedule : f.Writes s.fetcher
  inTime : 0 < s.requests → start + f.scheduled s.requests < a.eventEndTs
  waits : ∀ t, s.task = some t → start + f.scheduled s.requests ≤ s.since ∧
    (t = .sleeping a s.requests (f.retryWait s.requests) ∨ ∃ n, s.requests = n + 1 ∧ t = .retrying a n)

theorem Scheduled.begin (f : PTBFetcher) (a : PTBRetry) (start : Time) : Scheduled f a start (begin f a start) := by
  obtain ⟨hwrites, hnext⟩ := f.retryBegin_spec a start
  have hzero : f.scheduled 0 = 0 := rfl
  rcases hnext with hnext | hnext
  · refine ⟨hwrites, ?_, ?_⟩
    · simp [RetryLife.begin, after, hnext]
    · intro t ht
      simp only [RetryLife.begin, after, hnext, Option.some.injEq] at ht ⊢
      rw [hzero, add_zero]
      exact ⟨le_rfl, .inl ht.symm⟩
  · refine ⟨hwrites, ?_, ?_⟩
    · simp [RetryLife.begin, after, hnext]
    · intro t ht
      simp [RetryLife.begin, after, hnext] at ht

theorem Scheduled.step (h : Scheduled f a start s) (hstep : Step s l s') : Scheduled f a start s' := by
  obtain ⟨hschedule, hinTime, hwaits⟩ := h
  cases hstep with
  | others g hg => exact ⟨hschedule.trans hg, hinTime, hwaits⟩
  | woken b attempt wait now htask hsleep =>
    obtain ⟨hsince, htask' | ⟨n, -, htask'⟩⟩ := hwaits _ htask
    · cases htask'
      have hnext : start + f.scheduled (s.requests + 1) ≤ now := by
        rw [f.scheduled_succ]
        linarith
      obtain ⟨hwrites, ⟨hask, hend⟩ | hreturn⟩ := s.fetcher.wake_spec a s.requests now
      · refine ⟨hschedule.trans hwrites, fun _ => ?_, fun t ht => ?_⟩
        · simp only [after, hask]
          exact hnext.trans_lt hend
        · simp only [after, hask, Option.some.injEq] at ht ⊢
          exact ⟨hnext, .inr ⟨s.requests, rfl, ht.symm⟩⟩
      · refine ⟨hschedule.trans hwrites, ?_, fun t ht => ?_⟩
        · simpa only [after, hreturn] using hinTime
        · simp [after, hreturn] at ht
    · cases htask'
  | answered b attempt result now htask hclock =>
    obtain ⟨hsince, htask' | ⟨n, hn, htask'⟩⟩ := hwaits _ htask
    · cases htask'
    · cases htask'
      obtain ⟨hwrites, hnext⟩ := s.fetcher.answer_retrying_spec a attempt result now
      -- the next wait is a sleep, so nothing is asked
      have hrequests : (s.after (s.fetcher.answer (.retrying a attempt) result now) now).requests = s.requests := by
        unfold after
        dsimp only
        split
        · rename_i hask
          cases hnext _ hask
        · rfl
      refine ⟨hschedule.trans hwrites, by rwa [hrequests], fun t ht => ?_⟩
      rw [hrequests]
      refine ⟨hsince.trans hclock, .inl ?_⟩
      have hwait : (s.fetcher.answer (.retrying a attempt) result now).2 = .waits t := by
        unfold after at ht
        dsimp only at ht
        split at ht
        · cases ht
          assumption
        · cases ht
      rw [hnext t hwait, hn, hschedule.retryWait]

end RetryLife

namespace PTBFetcher

variable {f : PTBFetcher}

/-- The defaults of the market data configuration. -/
structure DefaultSchedule (f : PTBFetcher) : Prop where
  schedule : f.retrySchedule = [2, 4, 8, 16]
  steady : f.retrySteady = 10

/-- After the first four waits, of 30 seconds, each takes ten. -/
theorem DefaultSchedule.scheduled (h : f.DefaultSchedule) (n : ℕ) : f.scheduled (n + 4) = 30 + 10 * n := by
  induction n with
  | zero =>
    have hwaits : (List.range 4).map f.retryWait = [2, 4, 8, 16] := by
      simp [List.range_succ, retryWait, h.schedule]
    rw [PTBFetcher.scheduled, hwaits]
    norm_num
  | succ n ih =>
    have hwait : f.retryWait (n + 4) = 10 := by
      rw [retryWait, h.schedule, h.steady, List.getElem?_eq_none (by simp)]
      rfl
    rw [show n + 1 + 4 = n + 4 + 1 by omega, scheduled_succ, ih, hwait]
    push_cast
    ring

end PTBFetcher

namespace RetryLife

variable {f : PTBFetcher} {a : PTBRetry} {start : Time} {s : RetryLife} {tr : List (Lib.Taken RetryLife Label)}

/-- **The requests of a task.** What the schedule says to wait before the requests of a task fits between its start
and the end of the event. With the default schedule that is 30 requests in a slot of five minutes. -/
theorem requests_scheduled (hrun : Lib.Run Step (begin f a start) tr s) :
    (0 < s.requests → start + f.scheduled s.requests < a.eventEndTs) ∧
      (f.DefaultSchedule → a.eventEndTs - start ≤ 300 → s.requests ≤ 30) := by
  have hlife := (hrun.invariant (fun _ _ _ h hstep => h.step hstep) (Scheduled.begin f a start)).1
  refine ⟨hlife.inTime, fun hdefault hslot => ?_⟩
  by_contra hmany
  obtain ⟨n, hn⟩ : ∃ n, s.requests = n + 4 := ⟨s.requests - 4, by omega⟩
  have hwaited := hlife.inTime (by omega)
  rw [hn, hdefault.scheduled] at hwaited
  have hlate : (27 : ℚ) ≤ n := by
    have : 27 ≤ n := by omega
    exact_mod_cast this
  linarith

/-- A task that starts at the beginning of a slot. -/
def slotTask : PTBRetry := { conditionId := "event", asset := "BTC", eventSlug := "btc-updown-5m-0", eventEndTs := 300 }

/-- A page without the value. -/
def noValue : PTBFetchResult := { success := false, error := "no open price" }

/-- It asks after two seconds, after four more and after eight more, and the third page has the value. -/
theorem slot_asked : ∃ s tr, Lib.Run Step (begin {} slotTask 0) tr s ∧ s.task = none ∧ s.requests = 3 ∧
    (0 : ℚ) + ({} : PTBFetcher).scheduled s.requests < 300 ∧ s.requests ≤ 30 := by
  have hrun : Lib.Run Step (begin {} slotTask 0) _ _ := (((((Lib.Run.single
    (.woken _ slotTask 0 2 2 rfl (by decide +kernel))).snoc
    (.answered _ slotTask 0 noValue 3 rfl (by decide +kernel))).snoc
    (.woken _ slotTask 1 4 7 rfl (by decide +kernel))).snoc
    (.answered _ slotTask 1 noValue 8 rfl (by decide +kernel))).snoc
    (.woken _ slotTask 2 8 16 rfl (by decide +kernel))).snoc
    (.answered _ slotTask 2 { success := true, value := some 67250 } 17 rfl (by decide +kernel))
  obtain ⟨hwaited, hbound⟩ := requests_scheduled hrun
  exact ⟨_, _, hrun, by decide +kernel, by decide +kernel, hwaited (by decide +kernel),
    hbound ⟨rfl, rfl⟩ (by decide +kernel)⟩

end RetryLife

end Polyfast
