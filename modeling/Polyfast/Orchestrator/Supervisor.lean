import Mathlib.Logic.Function.Basic
import Polyfast.Lib.Run

/-!
# The supervisor of the loops

Every ten seconds the supervisor starts each loop again whose flag is on and whose task has ended, and counts it. The
coin price client's `start` does nothing while its flag is on, so there the restart is only counted.

* `Supervised`, `Step`: the loops, with the calls of their `start` and `stop`, in any order;
* `loop_turn`, `restarts_turn`: a turn of the supervisor;
* `down_iff`: when a loop is down;
* `restarts_eq`: what the restart counters count.
-/

namespace Polyfast

inductive Loop
  | discovery
  | evaluation
  | coin
  | exitCycle
  | rtds
  deriving DecidableEq

inductive TaskState
  /-- `create_task` has been called; the first step will set the flag. -/
  | created
  | alive
  | done
  deriving DecidableEq

/-- The flag and the task of a loop. The price feed has no flag. -/
structure LoopState where
  running : Bool := false
  task : Option TaskState := none
  deriving DecidableEq

namespace LoopState

variable (s : LoopState)

/-- `start` of the loop, and what the orchestrator does in its place for the loops that it runs itself. -/
def started : Loop → LoopState
  | .discovery | .evaluation =>
    if s.running && s.task.any (· ≠ .done) then s else { running := true, task := some .alive }
  | .coin => if s.running then s else { s with task := some .created }
  | .exitCycle => { running := true, task := some .alive }
  | .rtds => { s with task := some .alive }

/-- `stop` of the loop up to the await of its cancelled task. A task that has not begun never sets the flag. -/
def stopping : Loop → LoopState
  | .rtds => s
  | _ => { running := false, task := s.task.map fun t => if t = .created then .alive else t }

/-- `stop` after that await. -/
def stopped : Loop → LoopState
  | .discovery | .evaluation | .coin => { s with task := none }
  | .exitCycle | .rtds => s

/-- The task has ended and the flag, if there is one, is on. -/
def isDown (l : Loop) : Bool := (s.running || l = .rtds) && s.task = some .done

end LoopState

/-- The loops and their supervisor. -/
structure Supervised where
  loop : Loop → LoopState := fun _ => {}
  /-- Coin price tasks that were replaced before their first step. -/
  orphans : ℕ := 0
  supervisorRunning : Bool := false
  restarts : Loop → ℕ := fun _ => 0

namespace Supervised

variable (s : Supervised)

def isDown (l : Loop) : Bool := (s.loop l).isDown l

/-- `start` of the loop. -/
def start (l : Loop) : Supervised :=
  { s with
    loop := Function.update s.loop l ((s.loop l).started l)
    orphans := if l = .coin ∧ (s.loop l).running = false ∧ (s.loop l).task = some .created then s.orphans + 1
      else s.orphans }

/-- `_record_restart`. -/
def recordRestart (l : Loop) : Supervised :=
  { s with restarts := Function.update s.restarts l (s.restarts l + 1) }

/-- `_check_and_restart_loop`, and the same check in the supervisor loop for the exit cycle and the price feed. -/
def checkAndRestart (l : Loop) : Supervised := if s.isDown l then (s.recordRestart l).start l else s

/-- The order of the checks. -/
def checked : List Loop := [.discovery, .evaluation, .coin, .exitCycle, .rtds]

/-- The supervisor wakes. -/
def turn : Supervised := checked.foldl checkAndRestart s

inductive Label
  | start (l : Loop)
  | stop (l : Loop)
  /-- The cancelled task has been awaited. -/
  | stopped (l : Loop)
  /-- The task ends: it crashes, is cancelled or finds its flag off. -/
  | ended (l : Loop)
  /-- The coin price task begins. -/
  | enters
  /-- A replaced coin price task begins. -/
  | orphanEnters
  /-- The supervisor is started, with new counters. -/
  | launch
  | halt
  | turn
  deriving DecidableEq

/-- What happens between two awaits, if it can happen now. -/
def next : Label → Option Supervised
  | .start l => some (s.start l)
  | .stop l => some { s with loop := Function.update s.loop l ((s.loop l).stopping l) }
  | .stopped l => some { s with loop := Function.update s.loop l ((s.loop l).stopped l) }
  | .ended l =>
    if (s.loop l).task.any (· ≠ .done) then
      some { s with loop := Function.update s.loop l { s.loop l with task := some .done } }
    else none
  | .enters =>
    if (s.loop .coin).task = some .created then
      some { s with loop := Function.update s.loop .coin { running := true, task := some .alive } }
    else none
  | .orphanEnters =>
    if 0 < s.orphans then
      some { s with
        loop := Function.update s.loop .coin { s.loop .coin with running := true }
        orphans := s.orphans - 1 }
    else none
  | .launch => some { s with supervisorRunning := true, restarts := fun _ => 0 }
  | .halt => some { s with supervisorRunning := false }
  | .turn => if s.supervisorRunning then some s.turn else none

def Step (s : Supervised) (a : Label) (s' : Supervised) : Prop := s.next a = some s'

/-- No loop has been started. -/
structure Fresh (s : Supervised) : Prop where
  tasks : ∀ l, (s.loop l).task = none
  restarts : ∀ l, s.restarts l = 0

/-! ### A turn -/

variable {s} {l k : Loop}

/-- A check starts its loop if it is down, and counts it. -/
theorem checkAndRestart_self (s : Supervised) (l : Loop) :
    (s.checkAndRestart l).loop l = (if s.isDown l then (s.loop l).started l else s.loop l) ∧
      (s.checkAndRestart l).restarts l = s.restarts l + (s.isDown l).toNat := by
  unfold checkAndRestart
  cases s.isDown l with
  | true => exact ⟨Function.update_self .., Function.update_self ..⟩
  | false => exact ⟨rfl, rfl⟩

/-- It leaves the other loops alone. -/
theorem checkAndRestart_other (s : Supervised) (hk : l ≠ k) :
    (s.checkAndRestart l).loop k = s.loop k ∧ (s.checkAndRestart l).restarts k = s.restarts k := by
  unfold checkAndRestart
  cases s.isDown l with
  | true => exact ⟨Function.update_of_ne hk.symm .., Function.update_of_ne hk.symm ..⟩
  | false => exact ⟨rfl, rfl⟩

/-- Checks of other loops leave a loop alone. -/
theorem foldl_check_other {ls : List Loop} (hk : k ∉ ls) (s : Supervised) :
    (ls.foldl checkAndRestart s).loop k = s.loop k ∧ (ls.foldl checkAndRestart s).restarts k = s.restarts k := by
  induction ls generalizing s with
  | nil => exact ⟨rfl, rfl⟩
  | cons l ls ih =>
    rw [List.mem_cons, not_or] at hk
    obtain ⟨hloop, hrestarts⟩ := ih hk.2 (s.checkAndRestart l)
    obtain ⟨hsame, hcount⟩ := s.checkAndRestart_other (Ne.symm hk.1)
    exact ⟨hloop.trans hsame, hrestarts.trans hcount⟩

/-- Each loop is checked once. -/
theorem foldl_check {ls : List Loop} (hnd : ls.Nodup) (hk : k ∈ ls) (s : Supervised) :
    (ls.foldl checkAndRestart s).loop k = (if s.isDown k then (s.loop k).started k else s.loop k) ∧
      (ls.foldl checkAndRestart s).restarts k = s.restarts k + (s.isDown k).toNat := by
  induction ls generalizing s with
  | nil => cases hk
  | cons l ls ih =>
    rw [List.nodup_cons] at hnd
    rw [List.foldl_cons]
    by_cases hl : l = k
    · subst hl
      obtain ⟨hloop, hrestarts⟩ := foldl_check_other hnd.1 (s.checkAndRestart l)
      rw [hloop, hrestarts]
      exact s.checkAndRestart_self l
    · have hmem : k ∈ ls := (List.mem_cons.mp hk).resolve_left (Ne.symm hl)
      obtain ⟨hloop, hrestarts⟩ := ih hnd.2 hmem (s.checkAndRestart l)
      obtain ⟨hsame, hcount⟩ := s.checkAndRestart_other hl
      have hdown : (s.checkAndRestart l).isDown k = s.isDown k := by
        unfold isDown
        rw [hsame]
      rw [hloop, hrestarts, hdown, hsame, hcount]
      exact ⟨rfl, rfl⟩

/-- A turn starts the loops that are down. -/
theorem loop_turn (s : Supervised) (k : Loop) :
    s.turn.loop k = if s.isDown k then (s.loop k).started k else s.loop k :=
  (foldl_check (by decide) (by cases k <;> decide) s).1

/-- A turn counts the loops that are down. -/
theorem restarts_turn (s : Supervised) (k : Loop) : s.turn.restarts k = s.restarts k + (s.isDown k).toNat :=
  (foldl_check (by decide) (by cases k <;> decide) s).2

end Supervised

namespace LoopState

variable (s : LoopState) (l : Loop)

/-- A loop that `start` starts is not down, but for the coin price client: there nothing happens. -/
theorem isDown_started : (s.started l).isDown l = (l = .coin && s.isDown l) := by
  cases l <;> rcases s with ⟨_ | _, _ | _ | _ | _⟩ <;> rfl

/-- A loop that is stopped is not down; the price feed has no flag to clear. -/
theorem isDown_stopping : (s.stopping l).isDown l = (l = .rtds && s.isDown l) := by
  cases l <;> rcases s with ⟨_ | _, _ | _ | _ | _⟩ <;> rfl

/-- A loop that has forgotten its task is not down. -/
theorem isDown_stopped : (s.stopped l).isDown l = ((l = .exitCycle || l = .rtds) && s.isDown l) := by
  cases l <;> rcases s with ⟨_ | _, _ | _ | _ | _⟩ <;> rfl

end LoopState

/-! ### When a loop is down -/

namespace Supervised

variable {s s' s₀ : Supervised} {a : Label} {l : Loop} {tr : List (Lib.Taken Supervised Label)}

/-- The step brings the loop down: its task ends while its flag is on, or a replaced coin price task sets the flag
of one that has ended. -/
def Fells (l : Loop) (x : Lib.Taken Supervised Label) : Prop :=
  (x.label = .ended l ∧ ((x.pre.loop l).running = true ∨ l = .rtds)) ∨
    (l = .coin ∧ x.label = .orphanEnters ∧ (x.pre.loop .coin).task = some .done)

/-- What brings a loop up again, or lets nobody expect that it runs. -/
def Label.clears (l : Loop) : Label → Bool
  | .start k => k = l && l ≠ .coin
  | .stop k => k = l && l ≠ .rtds
  | .stopped k => k = l && l ≠ .exitCycle && l ≠ .rtds
  | .turn => l ≠ .coin
  | _ => false

/-- A step that changes one loop. -/
theorem isDown_of_update {k : Loop} {st : LoopState} (h : s'.loop = Function.update s.loop k st) (l : Loop) :
    s'.isDown l = if k = l then st.isDown l else s.isDown l := by
  unfold isDown
  rw [h]
  by_cases hk : k = l
  · subst hk
    rw [Function.update_self, if_pos rfl]
  · rw [Function.update_of_ne (Ne.symm hk), if_neg hk]

/-- **One step.** A loop is down if the step brings it down, or does not clear it. -/
theorem isDown_step (l : Loop) (h : Step s a s') :
    s'.isDown l = true ↔ Fells l ⟨s, a, s'⟩ ∨ (s.isDown l = true ∧ ¬a.clears l = true) := by
  unfold Step at h
  cases a with
  | start k =>
    cases h
    rw [isDown_of_update rfl l]
    by_cases hk : k = l
    · subst hk
      rw [if_pos rfl, LoopState.isDown_started]
      simp [Fells, Label.clears, isDown, and_comm]
    · simp [Fells, Label.clears, hk]
  | stop k =>
    cases h
    rw [isDown_of_update rfl l]
    by_cases hk : k = l
    · subst hk
      rw [if_pos rfl, LoopState.isDown_stopping]
      simp [Fells, Label.clears, isDown, and_comm]
    · simp [Fells, Label.clears, hk]
  | stopped k =>
    cases h
    rw [isDown_of_update rfl l]
    by_cases hk : k = l
    · subst hk
      rw [if_pos rfl, LoopState.isDown_stopped]
      simp only [Fells, Label.clears, isDown, Bool.and_eq_true, Bool.or_eq_true, decide_eq_true_eq, ne_eq]
      tauto
    · simp [Fells, Label.clears, hk]
  | ended k =>
    obtain ⟨hlive, hs'⟩ := Option.ite_none_right_eq_some.mp h
    cases hs'
    rw [isDown_of_update rfl l]
    by_cases hk : k = l
    · subst hk
      -- a task that has not ended is not down, so it is the end of the task that brings it down
      have hup : s.isDown k = false := by
        cases ht : (s.loop k).task with
        | none => simp [isDown, LoopState.isDown, ht]
        | some t => cases t <;> simp_all [isDown, LoopState.isDown]
      rw [if_pos rfl, hup]
      simp [Fells, LoopState.isDown]
    · simp [Fells, Label.clears, hk]
  | enters =>
    obtain ⟨hcreated, hs'⟩ := Option.ite_none_right_eq_some.mp h
    cases hs'
    rw [isDown_of_update rfl l]
    by_cases hk : Loop.coin = l
    · subst hk
      simp [Fells, Label.clears, isDown, LoopState.isDown, hcreated]
    · simp [Fells, Label.clears, hk]
  | orphanEnters =>
    obtain ⟨-, hs'⟩ := Option.ite_none_right_eq_some.mp h
    cases hs'
    rw [isDown_of_update rfl l]
    by_cases hk : Loop.coin = l
    · subst hk
      simp only [Fells, Label.clears, isDown, LoopState.isDown, if_true]
      cases (s.loop .coin).running <;> simp
    · simp [Fells, Label.clears, hk, Ne.symm hk]
  | launch =>
    cases h
    simp [Fells, Label.clears, isDown]
  | halt =>
    cases h
    simp [Fells, Label.clears, isDown]
  | turn =>
    obtain ⟨-, hs'⟩ := Option.ite_none_right_eq_some.mp h
    cases hs'
    unfold isDown
    rw [loop_turn]
    by_cases hdown : s.isDown l = true
    · rw [if_pos hdown, LoopState.isDown_started]
      simp [Fells, Label.clears, and_comm]
    · rw [if_neg hdown]
      have hup : (s.loop l).isDown l = false := Bool.eq_false_iff.mpr hdown
      simp [Fells, hup]

/-- **When a loop is down**: something brought it down, and nothing since has cleared that. No restart of the coin
price client does, whether by the supervisor or by a new start of the bot; only its `stop`. -/
theorem down_iff (h : s₀.Fresh) (hrun : Lib.Run Step s₀ tr s) (l : Loop) :
    s.isDown l = true ↔ ∃ before x after, tr = before ++ x :: after ∧ Fells l x ∧
      ∀ y ∈ after, ¬y.label.clears l = true := by
  refine hrun.last_set_iff (I := fun _ => True) (P := fun t => t.isDown l = true)
    (C := fun y => y.label.clears l = true) (fun t a u _ hst => ⟨trivial, isDown_step l hst⟩) trivial ?_
  simp [isDown, LoopState.isDown, h.tasks l]

/-- A counter is set back by a start of the supervisor, and counts the turns that find the loop down. -/
theorem restarts_step (l : Loop) (h : Step s a s') : s'.restarts l =
    if a = .launch then 0 else s.restarts l + (a = .turn && s.isDown l).toNat := by
  unfold Step at h
  cases a with
  | start k | stop k | stopped k | halt | launch =>
    cases h
    simp [start]
  | ended k | enters | orphanEnters =>
    obtain ⟨-, hs'⟩ := Option.ite_none_right_eq_some.mp h
    cases hs'
    simp
  | turn =>
    obtain ⟨-, hs'⟩ := Option.ite_none_right_eq_some.mp h
    cases hs'
    simp [restarts_turn]

/-- **What the counters count**: the turns that found the loop down, since the last start. -/
theorem restarts_eq (h : s₀.Fresh) (hrun : Lib.Run Step s₀ tr s) (l : Loop) :
    s.restarts l = Lib.since (fun x => x.label = .launch) (fun x => x.label = .turn && x.pre.isDown l) tr := by
  refine hrun.counter_eq_since (f := fun t => t.restarts l) (h.restarts l) fun t a u hst => ?_
  simp [restarts_step l hst]

/-- The bot is started, the coin price task and the exit cycle crash, the supervisor wakes twice, and the bot is
started again without a stop. -/
def crashed : List Label :=
  [.start .rtds, .start .coin, .enters, .start .discovery, .start .evaluation, .start .exitCycle, .launch,
    .ended .coin, .ended .exitCycle, .turn, .turn, .start .coin]

theorem run_crashed : ∃ s tr, Lib.Run Step {} tr s ∧
    (s.isDown .exitCycle, s.isDown .coin, s.restarts .coin) = (false, true, 2) := by
  have hend : (crashed.foldlM next {}).map
      (fun s => (s.isDown .exitCycle, s.isDown .coin, s.restarts .coin)) = some (false, true, 2) := by
    decide +kernel
  obtain ⟨s, hs, hend⟩ := Option.map_eq_some_iff.mp hend
  obtain ⟨tr, hrun⟩ := Lib.Run.of_foldlM hs
  exact ⟨s, tr, hrun, hend⟩

theorem fresh_default : ({} : Supervised).Fresh := ⟨fun _ => rfl, fun _ => rfl⟩

/-- The exit cycle is up again, the coin price task is not. -/
theorem coin_still_down : ∃ s tr, Lib.Run Step {} tr s ∧ s.isDown .exitCycle = false ∧
    ∃ before x after, tr = before ++ x :: after ∧ Fells .coin x ∧ ∀ y ∈ after, ¬y.label.clears .coin = true := by
  obtain ⟨s, tr, hrun, hend⟩ := run_crashed
  obtain ⟨hexit, hend⟩ := Prod.mk.inj hend
  exact ⟨s, tr, hrun, hexit, (down_iff fresh_default hrun .coin).mp (Prod.mk.inj hend).1⟩

/-- Both turns have counted it. -/
theorem coin_restarts : ∃ s tr, Lib.Run Step {} tr s ∧ s.isDown .coin = true ∧
    Lib.since (fun x => x.label = .launch) (fun x => x.label = .turn && x.pre.isDown .coin) tr = 2 := by
  obtain ⟨s, tr, hrun, hend⟩ := run_crashed
  obtain ⟨hcoin, hcount⟩ := Prod.mk.inj (Prod.mk.inj hend).2
  exact ⟨s, tr, hrun, hcoin, (restarts_eq fresh_default hrun .coin).symm.trans hcount⟩

end Supervised

end Polyfast
