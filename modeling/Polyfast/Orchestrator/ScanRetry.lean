import Polyfast.Orchestrator.DiscoveryLoop

/-!
# One call of `_scan_with_retry`

`DiscoveryLoop` follows the task over many slots on one clock. Here is one call of `_scan_with_retry`, with the two
clocks that it has: `time.time()`, whose readings (`now`) say which slot is running and may be anything from one
reading to the next, and the clock of the event loop (`elapsed`), which measures the sleeps and does not go back.

* `ScanCall.Step`: one await ends, after any time, with any answer;
* `scan_law`: what is known of the scans of a call, wherever it stands and however it ends;
* `toLoop`: with both clocks the same, a call is a visit of `DiscoveryLoop`.
-/

namespace Polyfast

/-- Where a call stands. -/
inductive ScanSpot
  | scanning (attempt : ℕ)
  /-- At `_on_events_found`. -/
  | calling
  | sleeping (attempt : ℕ) (wait waited chunk : ℚ)
  | returned (found : Bool)
  /-- An await has raised, and nothing in the call caught it. -/
  | raised
  deriving DecidableEq

/-- A scan has started: the reading of `time.time()`, and the time on the clock of the event loop. -/
structure ScanStart where
  now : Time
  elapsed : ℚ

/-- A scan has ended. -/
structure ScanEnd where
  elapsed : ℚ
  reply : Except PyError ℕ

/-- The scan has returned at least one event. -/
def ScanEnd.found (e : ScanEnd) : Prop := ∃ events, e.reply = .ok events ∧ 0 < events

structure ScanCall where
  slotStart : ℤ
  hasCallback : Bool := true
  retrySchedule : List ℚ := [2, 4, 8, 16]
  retrySteady : ℚ := 10
  running : Bool := true
  eventsFound : ℕ := 0
  scanCount : ℕ := 0
  retryCount : ℕ := 0
  elapsed : ℚ := 0
  spot : ScanSpot := .scanning 0
  starts : List ScanStart := []
  ends : List ScanEnd := []

namespace ScanCall

variable (c : ScanCall)

/-- The scheduled delay after the failed attempt `k`; the first one is number 0. -/
def delay (k : ℕ) : ℚ := (c.retrySchedule[k]?).getD c.retrySteady

/-- An await has ended: time has passed, and `start` and `stop` may have been called. -/
def later (dt : ℚ) (running : Bool) : ScanCall := { c with elapsed := c.elapsed + dt, running := running }

/-- The head of the loop; the scan starts with the reading that was checked. -/
def scanAgain (now : Time) (attempt : ℕ) : ScanCall :=
  if !c.running then { c with spot := .returned false }
  else if currentSlotStart now ≠ c.slotStart then { c with spot := .returned false }
  else
    { c with scanCount := c.scanCount + 1, spot := .scanning attempt
             starts := c.starts ++ [ScanStart.mk now c.elapsed] }

/-- The head of the waiting loop. -/
def retryWait (now : Time) (attempt : ℕ) (wait waited : ℚ) : ScanCall :=
  if waited < wait ∧ c.running = true then
    { c with spot := .sleeping attempt wait waited (min 1 (wait - waited)) }
  else c.scanAgain now attempt

/-- Nothing found: wait for the time the schedule says. -/
def notFound (now : Time) (attempt : ℕ) : ScanCall :=
  let wait := c.delay attempt
  { c with retryCount := c.retryCount + 1 }.retryWait now (attempt + 1) wait 0

/-- The scan has answered with a number of events, or raised. `_sync_to_registry` awaits nothing, and keeps its
exceptions to itself. -/
def scanReply (now : Time) (attempt : ℕ) (reply : Except PyError ℕ) : ScanCall :=
  let c := { c with ends := c.ends ++ [ScanEnd.mk c.elapsed reply] }
  match reply with
  | .ok events =>
    if events > 0 then
      let c := { c with eventsFound := events, retryCount := 0 }
      if c.hasCallback then { c with spot := .calling } else { c with spot := .returned true }
    else c.notFound now attempt
  | .error _ => c.notFound now attempt

/-- The callback has returned, or raised: the exception is logged. -/
def callbackReply (_ : Except PyError Unit) : ScanCall := { c with spot := .returned true }

/-- A chunk of the wait is over; the slot is checked with a reading of its own. -/
def retryWake (checked now : Time) (attempt : ℕ) (wait waited chunk : ℚ) : ScanCall :=
  if currentSlotStart checked ≠ c.slotStart then { c with spot := .returned false }
  else c.retryWait now attempt wait (waited + chunk)

/-- Which await ends, after how long, with which answer and which readings of `time.time()`. -/
inductive Label
  | scanned (dt : ℚ) (running : Bool) (reply : Except PyError ℕ) (now : Time)
  | called (dt : ℚ) (running : Bool) (reply : Except PyError Unit)
  | woke (dt : ℚ) (running : Bool) (checked now : Time)
  | raised (dt : ℚ) (running : Bool)

/-- One await ends. A sleep lasts at least as long as it was asked to. -/
inductive Step : ScanCall → Label → ScanCall → Prop
  | scanned (c : ScanCall) (attempt : ℕ) (dt : ℚ) (running : Bool) (reply : Except PyError ℕ) (now : Time)
      (h : c.spot = .scanning attempt) (hdt : 0 ≤ dt) :
      Step c (.scanned dt running reply now) ((c.later dt running).scanReply now attempt reply)
  | called (c : ScanCall) (dt : ℚ) (running : Bool) (reply : Except PyError Unit)
      (h : c.spot = .calling) (hdt : 0 ≤ dt) :
      Step c (.called dt running reply) ((c.later dt running).callbackReply reply)
  | woke (c : ScanCall) (attempt : ℕ) (wait waited chunk dt : ℚ) (running : Bool) (checked now : Time)
      (h : c.spot = .sleeping attempt wait waited chunk) (hdt : chunk ≤ dt) (hpos : 0 ≤ dt) :
      Step c (.woke dt running checked now)
        ((c.later dt running).retryWake checked now attempt wait waited chunk)
  | raised (c : ScanCall) (dt : ℚ) (running : Bool)
      (h : (∃ n, c.spot = .scanning n) ∨ c.spot = .calling ∨ ∃ n w v k, c.spot = .sleeping n w v k)
      (hdt : 0 ≤ dt) : Step c (.raised dt running) { c.later dt running with spot := .raised }

/-! ### What is known of the scans -/

variable {c c' : ScanCall} {slot : ℤ} {delay : ℕ → ℚ} {attempt : ℕ} {now : Time}

/-- The scans so far: each starts in the slot, and each but the first a scheduled delay after the end of the one
before, which found nothing. -/
structure Scans (slot : ℤ) (delay : ℕ → ℚ) (c : ScanCall) : Prop where
  slotStart : c.slotStart = slot
  delays : c.delay = delay
  inSlot : ∀ s ∈ c.starts, currentSlotStart s.now = slot
  spaced : ∀ k e s, c.ends[k]? = some e → c.starts[k + 1]? = some s → ¬e.found ∧ e.elapsed + delay k ≤ s.elapsed

/-- `n` scans have ended, and none has found anything. -/
structure Empty (n : ℕ) (c : ScanCall) : Prop where
  starts : c.starts.length = n
  ends : c.ends.length = n
  nothing : ∀ e ∈ c.ends, ¬e.found

/-- The last scan has ended, and has found something. -/
def Found (c : ScanCall) : Prop := c.starts.length = c.ends.length ∧ ∃ e, c.ends.getLast? = some e ∧ e.found

theorem Scans.moved (h : Scans slot delay c) (spot : ScanSpot) : Scans slot delay { c with spot := spot } :=
  ⟨h.slotStart, h.delays, h.inSlot, h.spaced⟩

/-- Time that passes, and calls of `start` and `stop`, change nothing that is known. -/
theorem Scans.later (h : Scans slot delay c) (dt : ℚ) (running : Bool) : Scans slot delay (c.later dt running) :=
  ⟨h.slotStart, h.delays, h.inSlot, h.spaced⟩

/-- A scan ends, with whatever answer. -/
theorem Scans.ended (h : Scans slot delay c) (hlen : c.starts.length = c.ends.length + 1) (e : ScanEnd) :
    Scans slot delay { c with ends := c.ends ++ [e] } := by
  refine ⟨h.slotStart, h.delays, h.inSlot, fun k e' s he hs => h.spaced k e' s ?_ hs⟩
  have hk : k + 1 < c.starts.length := (List.getElem?_eq_some_iff.mp hs).1
  rwa [List.getElem?_append_left (by omega)] at he

theorem Empty.moved {n : ℕ} (h : Empty n c) (spot : ScanSpot) : Empty n { c with spot := spot } :=
  ⟨h.starts, h.ends, h.nothing⟩

theorem Empty.later {n : ℕ} (h : Empty n c) (dt : ℚ) (running : Bool) : Empty n (c.later dt running) :=
  ⟨h.starts, h.ends, h.nothing⟩

/-- `waited` seconds and more have passed since the end of the last scan, of `wait` seconds that are scheduled. -/
def Waited (delay : ℕ → ℚ) (attempt : ℕ) (wait waited : ℚ) (c : ScanCall) : Prop :=
  ∀ k e, attempt = k + 1 → c.ends[k]? = some e → wait = delay k ∧ e.elapsed + waited ≤ c.elapsed

/-- What every run keeps, place by place. -/
def Sound (slot : ℤ) (delay : ℕ → ℚ) (c : ScanCall) : Prop :=
  Scans slot delay c ∧
  match c.spot with
  | .scanning attempt =>
    c.starts.length = attempt + 1 ∧ c.ends.length = attempt ∧ ∀ e ∈ c.ends, ¬e.found
  | .calling => Found c
  | .sleeping attempt wait waited _ => Empty attempt c ∧ Waited delay attempt wait waited c
  | .returned true => Found c
  | .returned false => ∃ n, Empty n c
  | .raised => True

/-- The next scan starts when the delay after the last one is over. -/
theorem scanAgain_sound (h : Scans slot delay c) (hempty : Empty attempt c)
    (hrested : c.running = true → ∀ k e, attempt = k + 1 → c.ends[k]? = some e → e.elapsed + delay k ≤ c.elapsed)
    (now : Time) : Sound slot delay (c.scanAgain now attempt) := by
  unfold scanAgain
  split_ifs with hstopped hslot
  · exact ⟨h.moved _, attempt, hempty.moved _⟩
  · exact ⟨h.moved _, attempt, hempty.moved _⟩
  · have hrunning : c.running = true := by simpa using hstopped
    refine ⟨⟨h.slotStart, h.delays, fun s hs => ?_, fun k e s he hs => ?_⟩, ?_, hempty.ends, hempty.nothing⟩
    · rcases List.mem_append.mp hs with hs | hs
      · exact h.inSlot s hs
      · rw [List.mem_singleton.mp hs, ← h.slotStart]
        exact not_not.mp hslot
    · have hk : k < attempt := hempty.ends ▸ (List.getElem?_eq_some_iff.mp he).1
      by_cases hold : k + 1 < attempt
      · rw [List.getElem?_append_left (hempty.starts.symm ▸ hold)] at hs
        exact h.spaced k e s he hs
      · have hlast : attempt = k + 1 := by omega
        rw [← hlast, ← hempty.starts, List.getElem?_concat_length] at hs
        obtain rfl := Option.some.inj hs
        exact ⟨hempty.nothing e (List.mem_of_getElem? he), hrested hrunning k e hlast he⟩
    · rw [List.length_append, hempty.starts]
      rfl

theorem retryWait_sound {wait waited : ℚ} (h : Scans slot delay c) (hempty : Empty attempt c)
    (hwaited : Waited delay attempt wait waited c) (now : Time) :
    Sound slot delay (c.retryWait now attempt wait waited) := by
  unfold retryWait
  split_ifs with hwait
  · exact ⟨h.moved _, hempty.moved _, hwaited⟩
  · refine scanAgain_sound h hempty (fun hrunning k e hk he => ?_) now
    obtain ⟨hdelay, hpassed⟩ := hwaited k e hk he
    have hover : wait ≤ waited := not_lt.mp fun hlt => hwait ⟨hlt, hrunning⟩
    linarith

/-- A scan that found nothing ends now. -/
theorem notFound_sound (h : Scans slot delay c) (hempty : Empty (attempt + 1) c)
    (hnow : ∀ e, c.ends[attempt]? = some e → e.elapsed = c.elapsed) (now : Time) :
    Sound slot delay (c.notFound now attempt) := by
  have hwaited : Waited delay (attempt + 1) (c.delay attempt) 0 { c with retryCount := c.retryCount + 1 } := by
    intro k e hk he
    obtain rfl := Nat.succ.inj hk
    exact ⟨congrFun h.delays attempt, by rw [add_zero, hnow e he]⟩
  exact retryWait_sound (c := { c with retryCount := c.retryCount + 1 })
    ⟨h.slotStart, h.delays, h.inSlot, h.spaced⟩ ⟨hempty.starts, hempty.ends, hempty.nothing⟩ hwaited now

theorem scanReply_sound (h : Scans slot delay c) (hstarts : c.starts.length = attempt + 1)
    (hends : c.ends.length = attempt) (hnothing : ∀ e ∈ c.ends, ¬e.found) (now : Time)
    (reply : Except PyError ℕ) : Sound slot delay (c.scanReply now attempt reply) := by
  have hscans := h.ended (hstarts.trans (congrArg (· + 1) hends.symm)) ⟨c.elapsed, reply⟩
  have hlen : (c.ends ++ [ScanEnd.mk c.elapsed reply]).length = attempt + 1 := by
    rw [List.length_append, hends]
    rfl
  have hlast : (c.ends ++ [ScanEnd.mk c.elapsed reply])[attempt]? = some ⟨c.elapsed, reply⟩ := by
    rw [← hends, List.getElem?_concat_length]
  have hnone (hmiss : ¬(ScanEnd.mk c.elapsed reply).found) :
      Sound slot delay ({ c with ends := c.ends ++ [ScanEnd.mk c.elapsed reply] }.notFound now attempt) := by
    refine notFound_sound hscans ⟨hstarts, hlen, fun e he => ?_⟩ (fun e he => ?_) now
    · rcases List.mem_append.mp he with he | he
      · exact hnothing e he
      · rw [List.mem_singleton.mp he]
        exact hmiss
    · rw [hlast] at he
      rw [← Option.some.inj he]
  unfold scanReply
  cases reply with
  | error e =>
    refine hnone ?_
    rintro ⟨events, hreply, -⟩
    cases hreply
  | ok events =>
    dsimp only
    have hfound (hpos : events > 0) : Found { c with ends := c.ends ++ [ScanEnd.mk c.elapsed (.ok events)] } :=
      ⟨hstarts.trans hlen.symm, _, List.getLast?_concat, events, rfl, hpos⟩
    split_ifs with hpos hcallback
    · exact ⟨⟨hscans.slotStart, hscans.delays, hscans.inSlot, hscans.spaced⟩, hfound hpos⟩
    · exact ⟨⟨hscans.slotStart, hscans.delays, hscans.inSlot, hscans.spaced⟩, hfound hpos⟩
    · refine hnone ?_
      rintro ⟨events', hreply, hpos'⟩
      cases hreply
      exact hpos hpos'

/-- **One await** keeps the invariant. -/
theorem step_sound {l : Label} (h : Sound slot delay c) (hst : Step c l c') : Sound slot delay c' := by
  obtain ⟨hscans, hspot⟩ := h
  cases hst with
  | scanned attempt dt running reply now hp hdt =>
    rw [hp] at hspot
    obtain ⟨hstarts, hends, hnothing⟩ := hspot
    exact scanReply_sound (hscans.later dt running) hstarts hends hnothing now reply
  | called dt running reply hp hdt =>
    rw [hp] at hspot
    exact ⟨(hscans.later dt running).moved _, hspot⟩
  | woke attempt wait waited chunk dt running checked now hp hdt hpos =>
    rw [hp] at hspot
    obtain ⟨hempty, hwaited⟩ := hspot
    unfold retryWake
    split_ifs with hslot
    · exact ⟨(hscans.later dt running).moved _, attempt, (hempty.later dt running).moved _⟩
    · refine retryWait_sound (hscans.later dt running) (hempty.later dt running) (fun k e hk he => ?_) now
      obtain ⟨hdelay, hpassed⟩ := hwaited k e hk he
      have helapsed : (c.later dt running).elapsed = c.elapsed + dt := rfl
      rw [helapsed]
      exact ⟨hdelay, by linarith⟩
  | raised dt running hp hdt =>
    exact ⟨(hscans.later dt running).moved _, trivial⟩

/-- A call begins with no scan behind it. -/
theorem begin_sound (hstarts : c.starts = []) (hends : c.ends = []) (now : Time) :
    Sound c.slotStart c.delay (c.scanAgain now 0) := by
  refine scanAgain_sound ⟨rfl, rfl, fun s hs => ?_, fun k e s he _ => ?_⟩
    ⟨by rw [hstarts]; rfl, by rw [hends]; rfl, fun e he => ?_⟩ (fun _ k e hk _ => by omega) now
  · rw [hstarts] at hs
    exact absurd hs List.not_mem_nil
  · rw [hends] at he
    cases he
  · rw [hends] at he
    exact absurd he List.not_mem_nil

/-- **The scans of a call**: each starts while the slot of the call is running; the next one starts only after a scan
that found nothing, and not before the scheduled delay is over; and a call that returns has found something iff its
last scan returned at least one event. -/
theorem scan_law {tr : List (Lib.Taken ScanCall Label)} (hstarts : c.starts = []) (hends : c.ends = [])
    (hrun : Lib.Run Step (c.scanAgain now 0) tr c') :
    (∀ s ∈ c'.starts, currentSlotStart s.now = c.slotStart) ∧
    (∀ k e s, c'.ends[k]? = some e → c'.starts[k + 1]? = some s →
      ¬e.found ∧ e.elapsed + c.delay k ≤ s.elapsed) ∧
    ∀ found, c'.spot = .returned found → c'.starts.length = c'.ends.length ∧
      (found = true ↔ ∃ e, c'.ends.getLast? = some e ∧ e.found) := by
  obtain ⟨hscans, hspot⟩ := (hrun.invariant (I := Sound c.slotStart c.delay)
    (fun _ _ _ h hst => step_sound h hst) (begin_sound hstarts hends now)).1
  refine ⟨hscans.inSlot, hscans.spaced, fun found hreturned => ?_⟩
  rw [hreturned] at hspot
  cases found with
  | true => exact ⟨hspot.1, iff_of_true rfl hspot.2⟩
  | false =>
    obtain ⟨n, hempty⟩ := hspot
    refine ⟨hempty.starts.trans hempty.ends.symm, iff_of_false Bool.false_ne_true ?_⟩
    rintro ⟨e, hlast, hfound⟩
    exact hempty.nothing e (List.mem_of_getLast? hlast) hfound

/-- A call with a delay of one second: the first scan raises, the second finds three events. -/
def begun : ScanCall := { slotStart := 300, retrySchedule := [1] }

theorem scan_law_second : ∃ c' : ScanCall, c'.spot = .returned true ∧
    (∀ s ∈ c'.starts, currentSlotStart s.now = begun.slotStart) ∧
    (∀ k e s, c'.ends[k]? = some e → c'.starts[k + 1]? = some s →
      ¬e.found ∧ e.elapsed + begun.delay k ≤ s.elapsed) ∧
    ∀ found, c'.spot = .returned found → c'.starts.length = c'.ends.length ∧
      (found = true ↔ ∃ e, c'.ends.getLast? = some e ∧ e.found) :=
  let scanning := begun.scanAgain 300 0
  let waiting := (scanning.later 1 true).scanReply 301 0 (.error .external)
  let again := (waiting.later 1 true).retryWake 302 302 1 1 0 1
  let calling := (again.later 1 true).scanReply 303 1 (.ok 3)
  have hrun : Lib.Run Step scanning _ ((calling.later 2 true).callbackReply (.ok ())) :=
    ((((Lib.Run.nil _).snoc (.scanned scanning 0 1 true (.error .external) 301 (by decide +kernel) zero_le_one)).snoc
      (.woke waiting 1 1 0 1 1 true 302 302 (by decide +kernel) le_rfl zero_le_one)).snoc
      (.scanned again 1 1 true (.ok 3) 303 (by decide +kernel) zero_le_one)).snoc
      (.called calling 2 true (.ok ()) (by decide +kernel) zero_le_two)
  ⟨_, rfl, scan_law rfl rfl hrun⟩

/-! ### A call is a visit of the loop -/

end ScanCall

/-- The call of `_scan_with_retry` that the head of `_loop` makes. -/
def DiscoveryLoop.scanCall (d : DiscoveryLoop) : ScanCall where
  slotStart := currentSlotStart d.now
  hasCallback := d.hasCallback
  retrySchedule := d.retrySchedule.map (↑)
  retrySteady := d.retrySteady
  running := d.running
  eventsFound := d.eventsFound
  scanCount := d.scanCount
  retryCount := d.retryCount
  elapsed := d.now

namespace ScanCall

variable (d : DiscoveryLoop) (c : ScanCall)

/-- The loop `d` with what its call has changed so far. -/
def frame : DiscoveryLoop where
  hasCallback := c.hasCallback
  retrySchedule := d.retrySchedule
  retrySteady := d.retrySteady
  running := c.running
  currentSlot := c.slotStart
  eventsFound := c.eventsFound
  scanCount := c.scanCount
  retryCount := c.retryCount
  now := c.elapsed
  scanStarts := d.scanStarts ++ c.starts.map ScanStart.now

/-- The loop `d` while its call stands at a spot, and after it. -/
def toLoop : DiscoveryLoop :=
  match c.spot with
  | .scanning attempt => { c.frame d with place := .scan c.slotStart attempt }
  | .calling => { c.frame d with place := .callback }
  | .sleeping attempt wait waited chunk =>
    { c.frame d with place := .retrySleep c.slotStart attempt wait waited chunk }
  | .returned _ => (c.frame d).finishVisit
  | .raised => { c.frame d with running := false, place := .ended }

/-- The delay that the loop's own schedule says. -/
def loopDelay (k : ℕ) : ℚ := ((d.retrySchedule[k]?).getD d.retrySteady : ℕ)

/-- `time.time()` goes with the clock of the event loop, and nobody calls `start` or `stop`. -/
def OneClock (c : ScanCall) : Label → Prop
  | .scanned dt running _ now => running = c.running ∧ now = c.elapsed + dt
  | .called _ running _ => running = c.running
  | .woke dt running checked now => running = c.running ∧ checked = c.elapsed + dt ∧ now = c.elapsed + dt
  | .raised _ _ => False

variable {d c}

theorem scanCall_delay : d.scanCall.delay = loopDelay d := by
  funext k
  have hschedule : d.scanCall.delay k = ((d.retrySchedule.map (↑))[k]?).getD (d.retrySteady : ℚ) := rfl
  rw [hschedule, List.getElem?_map, loopDelay]
  cases d.retrySchedule[k]? <;> rfl

theorem toLoop_scanAgain (hnow : now = c.elapsed) (attempt : ℕ) :
    (c.scanAgain now attempt).toLoop d = (c.frame d).scanAgain c.slotStart attempt := by
  subst hnow
  unfold scanAgain DiscoveryLoop.scanAgain
  have hrunning : (c.frame d).running = c.running := rfl
  have hclock : (c.frame d).now = c.elapsed := rfl
  rw [hrunning, hclock]
  split_ifs with hstopped hslot
  · rfl
  · rfl
  · simp [toLoop, frame, List.map_append, List.append_assoc]

theorem toLoop_retryWait (hnow : now = c.elapsed) (attempt : ℕ) (wait waited : ℚ) :
    (c.retryWait now attempt wait waited).toLoop d = (c.frame d).retryWait c.slotStart attempt wait waited := by
  unfold retryWait DiscoveryLoop.retryWait
  have hrunning : (c.frame d).running = c.running := rfl
  rw [hrunning]
  split_ifs with hwait
  · rfl
  · exact toLoop_scanAgain hnow attempt

theorem toLoop_notFound (h : c.delay = loopDelay d) (hnow : now = c.elapsed) (attempt : ℕ) :
    (c.notFound now attempt).toLoop d = (c.frame d).notFound c.slotStart attempt := by
  unfold notFound DiscoveryLoop.notFound
  dsimp only
  rw [h]
  exact toLoop_retryWait (c := { c with retryCount := c.retryCount + 1 }) hnow (attempt + 1) _ 0

theorem toLoop_scanReply (h : c.delay = loopDelay d) (hnow : now = c.elapsed) (attempt : ℕ)
    (reply : Except PyError ℕ) :
    (c.scanReply now attempt reply).toLoop d = (c.frame d).scanReply c.slotStart attempt reply := by
  have hnone := toLoop_notFound (c := { c with ends := c.ends ++ [ScanEnd.mk c.elapsed reply] }) h hnow attempt
  unfold scanReply DiscoveryLoop.scanReply
  cases reply with
  | error e => exact hnone
  | ok events =>
    dsimp only
    have hcallback : (c.frame d).hasCallback = c.hasCallback := rfl
    rw [hcallback]
    split_ifs with hpos hcall
    · rfl
    · rfl
    · exact hnone

theorem toLoop_retryWake (hnow : now = c.elapsed) (attempt : ℕ) (wait waited chunk : ℚ) :
    (c.retryWake now now attempt wait waited chunk).toLoop d =
      (c.frame d).retryWake c.slotStart attempt wait waited chunk := by
  unfold retryWake DiscoveryLoop.retryWake
  have hclock : (c.frame d).now = now := hnow.symm
  rw [hclock]
  split_ifs with hslot
  · rfl
  · exact toLoop_retryWait hnow attempt wait (waited + chunk)

/-- **One await of the call** is an await of the loop. -/
theorem toLoop_step {l : Label} (h : c.delay = loopDelay d) (hone : OneClock c l) (hst : Step c l c') :
    ∃ l', DiscoveryLoop.Step (c.toLoop d) l' (c'.toLoop d) := by
  cases hst with
  | scanned attempt dt running reply now hp hdt =>
    obtain ⟨rfl, hnow⟩ := hone
    have hloop : c.toLoop d = { c.frame d with place := .scan c.slotStart attempt } := by rw [toLoop, hp]
    rw [toLoop_scanReply (c := c.later dt c.running) h hnow, hloop]
    exact ⟨_, .scanned { c.frame d with place := .scan c.slotStart attempt } _ _ dt reply rfl hdt⟩
  | called dt running reply hp hdt =>
    obtain rfl : running = c.running := hone
    have hloop : c.toLoop d = { c.frame d with place := .callback } := by rw [toLoop, hp]
    rw [hloop]
    exact ⟨_, .called { c.frame d with place := .callback } dt rfl hdt⟩
  | woke attempt wait waited chunk dt running checked now hp hdt hpos =>
    obtain ⟨rfl, rfl, hnow⟩ := hone
    have hloop : c.toLoop d =
        { c.frame d with place := .retrySleep c.slotStart attempt wait waited chunk } := by rw [toLoop, hp]
    have hclock : now = (c.later dt c.running).elapsed := hnow
    rw [← hnow, toLoop_retryWake hclock, hloop]
    exact ⟨_, .retried { c.frame d with place := .retrySleep c.slotStart attempt wait waited chunk } _ _ _ _ _ dt
      rfl hdt hpos⟩
  | raised dt running hp hdt => exact hone.elim

/-- **A call is a visit**: on one clock, what the call of a loop does the loop does. -/
theorem run_toLoop {tr : List (Lib.Taken ScanCall Label)} (htop : d.place = .top) (hrunning : d.running = true)
    (hrun : Lib.Run (fun c l c' => Step c l c' ∧ OneClock c l) (d.scanCall.scanAgain d.now 0) tr c') :
    ∃ tr', Lib.Run DiscoveryLoop.Step d tr' (c'.toLoop d) := by
  have hclock : d.now = d.scanCall.elapsed := rfl
  have hframe : d.scanCall.frame d = { d with currentSlot := currentSlotStart d.now, place := .top } := by
    simp [frame, DiscoveryLoop.scanCall]
  have henter : d.enter = (d.scanCall.scanAgain d.now 0).toLoop d := by
    rw [toLoop_scanAgain hclock, hframe, DiscoveryLoop.enter, if_pos hrunning]
    rfl
  have hinit := begin_sound (c := d.scanCall) rfl rfl d.now
  rw [scanCall_delay] at hinit
  have hvisit : ∃ d' tr', Lib.Run DiscoveryLoop.Step ((d.scanCall.scanAgain d.now 0).toLoop d) tr' d' ∧
      Sound d.scanCall.slotStart (loopDelay d) c' ∧ d' = c'.toLoop d := by
    refine hrun.simulate (R := fun c e => Sound d.scanCall.slotStart (loopDelay d) c ∧ e = c.toLoop d) ?_ ⟨hinit, rfl⟩
    rintro c l c' e ⟨hsound, rfl⟩ ⟨hst, hone⟩
    obtain ⟨l', hstep⟩ := toLoop_step hsound.1.delays hone hst
    exact ⟨_, _, .single hstep, step_sound hsound hst, rfl⟩
  obtain ⟨d', tr', hloop, -, rfl⟩ := hvisit
  have hfirst : Lib.Run DiscoveryLoop.Step d _ d.enter := .single (.enter d htop)
  rw [henter] at hfirst
  exact ⟨_, hfirst.append hloop⟩

end ScanCall

end Polyfast
