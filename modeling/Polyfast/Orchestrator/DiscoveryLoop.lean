import Mathlib.Tactic.Linarith
import Polyfast.Lib.Run
import Polyfast.Py
import Polyfast.MarketData.Registry

/-!
# The discovery loop

`_loop` visits a slot: it scans until events are found (`_scan_with_retry`), then sleeps to the end of the
slot. The task stands at an await (`Place`); what runs between two awaits takes no time. The end of the
slot is computed anew after the visit, so that a visit which ends late sleeps through the slot it ends in.

* `DiscoveryLoop.Step`: one await ends, after any time, with any answer;
* `OnTime`: the awaits of a visit end in its slot;
* `every_slot_scanned`: then every slot gets a scan that starts in it.
-/

namespace Polyfast

/-- `_current_slot_start`. -/
def currentSlotStart (now : Time) : ℤ := ⌊now⌋ / slotSeconds * slotSeconds

/-- `_slot_remaining`. -/
def slotRemaining (now : Time) : ℚ := max 0 (((⌊now⌋ / slotSeconds + 1) * slotSeconds : ℤ) - now)

/-- Where the task of the loop stands. -/
inductive Place
  /-- At the head of `_loop`, about to visit a slot. -/
  | top
  | scan (slotStart : ℤ) (attempt : ℕ)
  | callback
  | retrySleep (slotStart : ℤ) (attempt : ℕ) (wait waited chunk : ℚ)
  | slotSleep (remaining : ℚ)
  | errorSleep
  | ended
  deriving DecidableEq

structure DiscoveryLoop where
  hasCallback : Bool := true
  retrySchedule : List ℕ := [2, 4, 8, 16]
  retrySteady : ℕ := 10
  running : Bool := true
  currentSlot : ℤ := 0
  eventsFound : ℕ := 0
  scanCount : ℕ := 0
  retryCount : ℕ := 0
  now : Time
  place : Place := .top
  /-- When the scans have started. -/
  scanStarts : List Time := []

namespace DiscoveryLoop

variable (d : DiscoveryLoop)

/-- Time has passed. -/
def later (dt : ℚ) : DiscoveryLoop := { d with now := d.now + dt }

/-- `_loop` after `_scan_with_retry`, found or not: sleep to the end of the slot. -/
def finishVisit : DiscoveryLoop :=
  let remaining := slotRemaining d.now
  if remaining > 0 then { d with place := .slotSleep remaining } else { d with place := .top }

/-- The head of the loop of `_scan_with_retry`. -/
def scanAgain (slotStart : ℤ) (attempt : ℕ) : DiscoveryLoop :=
  if !d.running then d.finishVisit
  else if currentSlotStart d.now ≠ slotStart then d.finishVisit
  else { d with scanCount := d.scanCount + 1, scanStarts := d.scanStarts ++ [d.now]
                place := .scan slotStart attempt }

/-- The head of the waiting loop. -/
def retryWait (slotStart : ℤ) (attempt : ℕ) (wait waited : ℚ) : DiscoveryLoop :=
  if waited < wait ∧ d.running = true then
    { d with place := .retrySleep slotStart attempt wait waited (min 1 (wait - waited)) }
  else d.scanAgain slotStart attempt

/-- Nothing found: wait for the time the schedule says. -/
def notFound (slotStart : ℤ) (attempt : ℕ) : DiscoveryLoop :=
  let wait := (d.retrySchedule[attempt]?).getD d.retrySteady
  { d with retryCount := d.retryCount + 1 }.retryWait slotStart (attempt + 1) wait 0

/-- The scan has answered with a number of events, or raised. -/
def scanReply (slotStart : ℤ) (attempt : ℕ) (reply : Except PyError ℕ) : DiscoveryLoop :=
  match reply with
  | .ok events =>
    if events > 0 then
      let d := { d with eventsFound := events, retryCount := 0 }
      if d.hasCallback then { d with place := .callback } else d.finishVisit
    else d.notFound slotStart attempt
  | .error _ => d.notFound slotStart attempt

/-- A chunk of the wait is over. -/
def retryWake (slotStart : ℤ) (attempt : ℕ) (wait waited chunk : ℚ) : DiscoveryLoop :=
  if currentSlotStart d.now ≠ slotStart then d.finishVisit
  else d.retryWait slotStart attempt wait (waited + chunk)

/-- The head of `_loop`. -/
def enter : DiscoveryLoop :=
  if d.running then
    let slotStart := currentSlotStart d.now
    { d with currentSlot := slotStart }.scanAgain slotStart 0
  else { d with place := .ended }

/-- `stop`: the task is cancelled where it stands. -/
def stop : DiscoveryLoop := { d with running := false, place := .ended }

/-- Which await ends, after how long, with which answer. -/
inductive Label
  | enter
  | scanned (dt : ℚ) (reply : Except PyError ℕ)
  | called (dt : ℚ)
  | retried (dt : ℚ)
  | slept (dt : ℚ)
  | failed (dt : ℚ)
  | recovered (dt : ℚ)
  | stop

/-- One await ends. A sleep lasts at least as long as it was asked to; an exception that leaves a sleep
leads to the error branch of `_loop`. -/
inductive Step : DiscoveryLoop → Label → DiscoveryLoop → Prop
  | enter (d : DiscoveryLoop) (h : d.place = .top) : Step d .enter d.enter
  | scanned (d : DiscoveryLoop) (slotStart : ℤ) (attempt : ℕ) (dt : ℚ) (reply : Except PyError ℕ)
      (h : d.place = .scan slotStart attempt) (hdt : 0 ≤ dt) :
      Step d (.scanned dt reply) ((d.later dt).scanReply slotStart attempt reply)
  | called (d : DiscoveryLoop) (dt : ℚ) (h : d.place = .callback) (hdt : 0 ≤ dt) :
      Step d (.called dt) (d.later dt).finishVisit
  | retried (d : DiscoveryLoop) (slotStart : ℤ) (attempt : ℕ) (wait waited chunk dt : ℚ)
      (h : d.place = .retrySleep slotStart attempt wait waited chunk) (hdt : chunk ≤ dt)
      (hpos : 0 ≤ dt) :
      Step d (.retried dt) ((d.later dt).retryWake slotStart attempt wait waited chunk)
  | slept (d : DiscoveryLoop) (remaining dt : ℚ) (h : d.place = .slotSleep remaining)
      (hdt : remaining ≤ dt) : Step d (.slept dt) { d.later dt with place := .top }
  | failed (d : DiscoveryLoop) (dt : ℚ)
      (h : (∃ s n w v c, d.place = .retrySleep s n w v c) ∨ ∃ r, d.place = .slotSleep r)
      (hdt : 0 ≤ dt) : Step d (.failed dt) { d.later dt with place := .errorSleep }
  | recovered (d : DiscoveryLoop) (dt : ℚ) (h : d.place = .errorSleep) (hdt : 10 ≤ dt) :
      Step d (.recovered dt) { d.later dt with place := .top }
  | stop (d : DiscoveryLoop) : Step d .stop d.stop

end DiscoveryLoop

/-! ### Slots -/

theorem currentSlotStart_dvd (now : Time) : slotSeconds ∣ currentSlotStart now :=
  Dvd.intro_left _ rfl

theorem currentSlotStart_bounds (now : Time) :
    (currentSlotStart now : ℚ) ≤ now ∧ now < currentSlotStart now + slotSeconds := by
  have hle : currentSlotStart now ≤ ⌊now⌋ := by
    unfold currentSlotStart slotSeconds
    omega
  have hlt : ⌊now⌋ < currentSlotStart now + slotSeconds := by
    unfold currentSlotStart slotSeconds
    omega
  exact ⟨Int.le_floor.mp hle, by exact_mod_cast Int.floor_lt.mp hlt⟩

/-- The slot that contains a time is the only one that does. -/
theorem currentSlotStart_eq {slot : ℤ} {now : Time} (hdvd : slotSeconds ∣ slot) (hle : slot ≤ now)
    (hlt : now < slot + slotSeconds) : currentSlotStart now = slot := by
  have hle' : slot ≤ ⌊now⌋ := Int.le_floor.mpr hle
  have hlt' : ⌊now⌋ < slot + slotSeconds := Int.floor_lt.mpr (by exact_mod_cast hlt)
  unfold currentSlotStart
  unfold slotSeconds at *
  omega

/-- A slot that starts no later than a time is at most the slot of the time. -/
theorem le_currentSlotStart {slot : ℤ} {now : Time} (hdvd : slotSeconds ∣ slot) (hle : slot ≤ now) :
    slot ≤ currentSlotStart now := by
  have hle' : slot ≤ ⌊now⌋ := Int.le_floor.mpr hle
  unfold currentSlotStart
  unfold slotSeconds at *
  omega

theorem slotRemaining_eq (now : Time) :
    slotRemaining now = currentSlotStart now + slotSeconds - now ∧ 0 < slotRemaining now := by
  have hlt := (currentSlotStart_bounds now).2
  have hend : ((⌊now⌋ / slotSeconds + 1) * slotSeconds : ℤ) = currentSlotStart now + slotSeconds := by
    unfold currentSlotStart
    rw [add_mul, one_mul]
  have hpos : (0 : ℚ) < ((currentSlotStart now + slotSeconds : ℤ) : ℚ) - now := by
    push_cast
    linarith
  unfold slotRemaining
  rw [hend, max_eq_right hpos.le]
  exact ⟨by push_cast; rfl, hpos⟩

namespace DiscoveryLoop

variable {d d' : DiscoveryLoop} {since : Time}

/-- Every slot from `since` on that starts before `bound` has got a scan that starts in it. -/
def ScannedBelow (d : DiscoveryLoop) (since : Time) (bound : ℤ) : Prop :=
  ∀ slot : ℤ, slotSeconds ∣ slot → since ≤ slot → slot < bound →
    ∃ t ∈ d.scanStarts, (slot : ℚ) ≤ t ∧ t < slot + slotSeconds

/-- The visit of a slot goes on: the slot is running, and it has got its scan. -/
def Visiting (d : DiscoveryLoop) (since : Time) : Prop :=
  d.running = true ∧ currentSlotStart d.now = d.currentSlot ∧
    d.ScannedBelow since (d.currentSlot + slotSeconds)

/-- What every run on time keeps, place by place. -/
def Sound (since : Time) (d : DiscoveryLoop) : Prop :=
  match d.place with
  | .top => d.running = true ∧ d.ScannedBelow since (currentSlotStart d.now)
  | .scan slot _ => d.Visiting since ∧ slot = d.currentSlot
  | .callback => d.Visiting since
  | .retrySleep slot _ _ _ chunk => d.Visiting since ∧ slot = d.currentSlot ∧ 0 ≤ chunk
  | .slotSleep remaining => d.Visiting since ∧ d.now + remaining = d.currentSlot + slotSeconds
  | .errorSleep => d.running = true ∧ d.ScannedBelow since (d.currentSlot + slotSeconds) ∧
      slotSeconds ∣ d.currentSlot ∧ d.now < d.currentSlot + 2 * slotSeconds
  | .ended => d.ScannedBelow since (currentSlotStart d.now)

/-- **The awaits of a visit end in its slot**, and a sleep to the end of a slot ends in the next one. -/
def OnTime (d : DiscoveryLoop) : Label → Prop
  | .scanned dt _ | .called dt | .retried dt => d.now + dt < d.currentSlot + slotSeconds
  | .slept dt | .failed dt | .recovered dt => d.now + dt < d.currentSlot + 2 * slotSeconds
  | .enter | .stop => True

theorem ScannedBelow.mono {b b' : ℤ} (h : d.ScannedBelow since b') (hb : b ≤ b') :
    d.ScannedBelow since b := fun slot hdvd hle hlt => h slot hdvd hle (hlt.trans_le hb)

/-- A slot that is followed by the slot of `now` at the latest was the last one before it. -/
theorem slot_le_next {slot : ℤ} {now : Time} (hdvd : slotSeconds ∣ slot)
    (hlt : now < slot + 2 * slotSeconds) : currentSlotStart now ≤ slot + slotSeconds := by
  have hstart := (currentSlotStart_bounds now).1
  have hcast : (currentSlotStart now : ℚ) < ((slot + 2 * slotSeconds : ℤ) : ℚ) := by
    push_cast
    linarith
  have hlt' : currentSlotStart now < slot + 2 * slotSeconds := by exact_mod_cast hcast
  have hdvd' := currentSlotStart_dvd now
  unfold slotSeconds at *
  omega

/-! ### What runs between two awaits -/

theorem finishVisit_sound (h : d.Visiting since) : Sound since d.finishVisit := by
  obtain ⟨hrem, hpos⟩ := slotRemaining_eq d.now
  have hslot := h.2.1
  unfold finishVisit
  dsimp only
  rw [if_pos hpos]
  refine ⟨h, ?_⟩
  simp only
  rw [hrem, hslot]
  ring

/-- The scan that starts now is a scan of the running slot. -/
theorem scanAgain_sound (h : d.Visiting since) (attempt : ℕ) :
    Sound since (d.scanAgain d.currentSlot attempt) := by
  obtain ⟨hrunning, hslot, hscanned⟩ := h
  unfold scanAgain
  rw [if_neg (by simp [hrunning]), if_neg (not_not.mpr hslot)]
  refine ⟨⟨hrunning, hslot, fun slot hdvd hle hlt => ?_⟩, rfl⟩
  obtain ⟨t, ht, hbounds⟩ := hscanned slot hdvd hle hlt
  exact ⟨t, List.mem_append_left _ ht, hbounds⟩

theorem retryWait_sound (h : d.Visiting since) (attempt : ℕ) (wait waited : ℚ) :
    Sound since (d.retryWait d.currentSlot attempt wait waited) := by
  unfold retryWait
  split_ifs with hwait
  · have hchunk : 0 ≤ min 1 (wait - waited) := le_min zero_le_one (by linarith [hwait.1])
    exact ⟨h, rfl, hchunk⟩
  · exact scanAgain_sound h attempt

theorem scanReply_sound (h : d.Visiting since) (attempt : ℕ) (reply : Except PyError ℕ) :
    Sound since (d.scanReply d.currentSlot attempt reply) := by
  have hnone : Sound since (d.notFound d.currentSlot attempt) :=
    retryWait_sound (d := { d with retryCount := d.retryCount + 1 }) h _ _ _
  unfold scanReply
  cases reply with
  | error e => exact hnone
  | ok events =>
    dsimp only
    split_ifs with hevents hcallback
    · exact h
    · exact finishVisit_sound (d := { d with eventsFound := events, retryCount := 0 }) h
    · exact hnone

/-- The head of the loop begins the visit of the running slot with a scan. -/
theorem enter_sound (hrunning : d.running = true)
    (h : d.ScannedBelow since (currentSlotStart d.now)) : Sound since d.enter := by
  obtain ⟨hle, hlt⟩ := currentSlotStart_bounds d.now
  unfold enter scanAgain
  rw [if_pos hrunning, if_neg (by simp [hrunning]), if_neg (by simp)]
  refine ⟨⟨hrunning, rfl, fun slot hdvd hslot hbound => ?_⟩, rfl⟩
  by_cases hnew : slot < currentSlotStart d.now
  · obtain ⟨t, ht, hbounds⟩ := h slot hdvd hslot hnew
    exact ⟨t, List.mem_append_left _ ht, hbounds⟩
  · have hdvd' := currentSlotStart_dvd d.now
    have heq : slot = currentSlotStart d.now := by
      simp only [slotSeconds] at *
      omega
    exact ⟨d.now, List.mem_append_right _ (List.mem_singleton_self _), heq ▸ hle, heq ▸ hlt⟩

/-- A visit that is still in its slot after some time goes on. -/
theorem Visiting.later {dt : ℚ} (h : d.Visiting since) (hdt : 0 ≤ dt)
    (hlt : d.now + dt < d.currentSlot + slotSeconds) : (d.later dt).Visiting since := by
  obtain ⟨hrunning, hslot, hscanned⟩ := h
  have hdvd := currentSlotStart_dvd d.now
  have hle := (currentSlotStart_bounds d.now).1
  rw [hslot] at hdvd hle
  refine ⟨hrunning, currentSlotStart_eq hdvd ?_ hlt, hscanned⟩
  exact hle.trans (le_add_of_nonneg_right hdt)

/-- What is known at every place: the slots that are over have got their scan. -/
theorem Sound.scanned (h : Sound since d) : d.ScannedBelow since (currentSlotStart d.now) := by
  have hvisit : d.Visiting since → d.ScannedBelow since (currentSlotStart d.now) := by
    rintro ⟨-, hslot, hscanned⟩
    refine hscanned.mono ?_
    rw [hslot]
    unfold slotSeconds
    omega
  unfold Sound at h
  cases hp : d.place with
  | top => rw [hp] at h; exact h.2
  | scan slot attempt => rw [hp] at h; exact hvisit h.1
  | callback => rw [hp] at h; exact hvisit h
  | retrySleep slot attempt wait waited chunk => rw [hp] at h; exact hvisit h.1
  | slotSleep remaining => rw [hp] at h; exact hvisit h.1
  | errorSleep => rw [hp] at h; exact h.2.1.mono (slot_le_next h.2.2.1 h.2.2.2)
  | ended => rw [hp] at h; exact h

/-- **One await on time** keeps the invariant. -/
theorem step_sound {l : Label} (h : Sound since d) (hon : OnTime d l) (hst : Step d l d') :
    Sound since d' := by
  have hscanned := h.scanned
  cases hst with
  | enter hp =>
    unfold Sound at h
    rw [hp] at h
    exact enter_sound h.1 h.2
  | scanned slot attempt dt reply hp hdt =>
    unfold Sound at h
    rw [hp] at h
    obtain ⟨hvisit, rfl⟩ := h
    exact scanReply_sound (d := d.later dt) (hvisit.later hdt hon) attempt reply
  | called dt hp hdt =>
    unfold Sound at h
    rw [hp] at h
    exact finishVisit_sound (h.later hdt hon)
  | retried slot attempt wait waited chunk dt hp hdt hpos =>
    unfold Sound at h
    rw [hp] at h
    obtain ⟨hvisit, rfl, -⟩ := h
    have hlater := hvisit.later hpos hon
    unfold retryWake
    rw [if_neg (show ¬currentSlotStart (d.later dt).now ≠ d.currentSlot from not_not.mpr hlater.2.1)]
    exact retryWait_sound (d := d.later dt) hlater attempt wait (waited + chunk)
  | slept remaining dt hp hdt =>
    unfold Sound at h
    rw [hp] at h
    obtain ⟨⟨hrunning, hslot, hall⟩, -⟩ := h
    have hdvd := currentSlotStart_dvd d.now
    rw [hslot] at hdvd
    exact ⟨hrunning, hall.mono (slot_le_next hdvd hon)⟩
  | failed dt hp hdt =>
    have hvisit : d.Visiting since := by
      unfold Sound at h
      rcases hp with ⟨s, n, w, v, c, hp⟩ | ⟨r, hp⟩
      · rw [hp] at h
        exact h.1
      · rw [hp] at h
        exact h.1
    have hdvd := currentSlotStart_dvd d.now
    rw [hvisit.2.1] at hdvd
    exact ⟨hvisit.1, hvisit.2.2, hdvd, hon⟩
  | recovered dt hp hdt =>
    unfold Sound at h
    rw [hp] at h
    obtain ⟨hrunning, hall, hdvd, -⟩ := h
    exact ⟨hrunning, hall.mono (slot_le_next hdvd hon)⟩
  | stop => exact hscanned

/-- **Discovery skips no slot** in a run whose visits are on time: every slot that begins after the start
of the loop, and is over, has got a scan that starts in it. -/
theorem every_slot_scanned {tr : List (Lib.Taken DiscoveryLoop Label)} (hstart : d.place = .top)
    (hrunning : d.running = true) (hrun : Lib.Run Step d tr d')
    (hon : ∀ x ∈ tr, OnTime x.pre x.label) :
    ∀ slot : ℤ, slotSeconds ∣ slot → d.now ≤ slot → slot + slotSeconds ≤ d'.now →
      ∃ t ∈ d'.scanStarts, (slot : ℚ) ≤ t ∧ t < slot + slotSeconds := by
  have hinit : Sound d.now d := by
    unfold Sound
    rw [hstart]
    refine ⟨hrunning, fun slot hdvd hle hlt => absurd ?_ hlt.not_ge⟩
    -- no slot begins between the start of the running slot and now
    have hcast : (currentSlotStart d.now : ℚ) ≤ slot := (currentSlotStart_bounds d.now).1.trans hle
    exact_mod_cast hcast
  have hinv := (hrun.invariant_under (I := Sound d.now) (C := OnTime)
    (fun _ _ _ hI hC hst => step_sound hI hC hst) hinit hon).1
  intro slot hdvd hle hover
  refine hinv.scanned slot hdvd hle ?_
  have hnext : slot + slotSeconds ≤ currentSlotStart d'.now :=
    le_currentSlotStart (dvd_add hdvd (dvd_refl _)) (by exact_mod_cast hover)
  unfold slotSeconds at hnext
  omega

/-- A loop without a callback. -/
def startedAt (now : Time) : DiscoveryLoop := { hasCallback := false, now := now }

/-- The state in which its first scan runs. -/
def scanning (now : Time) : DiscoveryLoop := (startedAt now).enter

/-- After a scan of `dt` seconds that finds three events. -/
def found (now : Time) (dt : ℚ) : DiscoveryLoop :=
  ((scanning now).later dt).scanReply (currentSlotStart now) 0 (.ok 3)

/-- After a sleep of `nap` seconds. -/
def awake (now : Time) (dt nap : ℚ) : DiscoveryLoop := { (found now dt).later nap with place := .top }

/-- One visit: the scan finds events, and the loop sleeps as long as it means to. -/
theorem visit_run {now : Time} {dt nap : ℚ} (hscan : (scanning now).place = .scan (currentSlotStart now) 0)
    (hdt : 0 ≤ dt) (hfound : (found now dt).place = .slotSleep nap) :
    Lib.Run Step (startedAt now) [⟨startedAt now, .enter, scanning now⟩,
      ⟨scanning now, .scanned dt (.ok 3), found now dt⟩,
      ⟨found now dt, .slept nap, awake now dt nap⟩] (awake now dt nap) :=
  (((Lib.Run.nil _).snoc (.enter (startedAt now) rfl)).snoc
    (.scanned (scanning now) _ _ dt (.ok 3) hscan hdt)).snoc
    (.slept (found now dt) nap nap hfound le_rfl)

theorem every_slot_scanned_visit :
    ∃ t ∈ (awake 300 1 299).scanStarts, ((300 : ℤ) : ℚ) ≤ t ∧ t < ((300 : ℤ) : ℚ) + slotSeconds := by
  refine every_slot_scanned (d := startedAt 300) rfl rfl
    (visit_run (by decide +kernel) (by norm_num) (by decide +kernel)) ?_ 300 (by decide) (by decide +kernel)
    (by decide +kernel)
  simp only [List.forall_mem_cons, OnTime]
  exact ⟨trivial, by decide +kernel, by decide +kernel, by simp⟩

/-- A scan of 50 seconds that starts 10 seconds before the end of a slot: the loop wakes up at the end of
the next slot, which has got no scan. -/
theorem slot_skipped :
    ∃ d tr d', d.place = .top ∧ d.running = true ∧ Lib.Run Step d tr d' ∧
      (∀ x ∈ tr, ∀ dt reply, x.label = .scanned dt reply → dt < 300) ∧
      ∃ slot : ℤ, slotSeconds ∣ slot ∧ d.now ≤ slot ∧ slot + slotSeconds ≤ d'.now ∧
        ∀ t ∈ d'.scanStarts, ¬((slot : ℚ) ≤ t ∧ t < slot + slotSeconds) := by
  refine ⟨startedAt 290, _, awake 290 50 260, rfl, rfl,
    visit_run (by decide +kernel) (by norm_num) (by decide +kernel), ?_, 300, by decide,
    by decide +kernel, by decide +kernel, by decide +kernel⟩
  intro x hx dt reply hl
  simp only [List.mem_cons, List.not_mem_nil, or_false] at hx
  rcases hx with rfl | rfl | rfl
  · cases hl
  · obtain ⟨rfl, -⟩ := Label.scanned.inj hl
    norm_num
  · cases hl

end DiscoveryLoop

end Polyfast
