import Polyfast.Api.Settings
import Polyfast.Orchestrator.Desk
import Polyfast.Orchestrator.Restore

/-!
# The claim gate

While a claim is pending and the configuration says so, no new trade is to be opened. The validator has the
check, but `execute` tells it neither the setting nor the claims, so the gate is open whatever is posted.

* `Bot.Step`: orders, exits and settlement of a desk, settings updates and starts, interleaved;
* `Bot.wait_eq_lastPosted`: the configuration follows the settings updates;
* `Bot.gate_iff`: when a call of `execute` obeys the gate.
-/

namespace Polyfast

/-- The desk, the configuration, and the bot maximum that the evaluation loop keeps. -/
structure Bot where
  desk : Desk
  config : TradingConfig := {}
  botMaxPositions : ℤ := 3

namespace Bot

variable (b : Bot)

/-- `POST /settings/global`. -/
def globalSettingsUpdate (body : GlobalSettingsUpdateRequest) : Bot × GlobalSettingsUpdateResponse :=
  ({ b with
      desk := { b.desk with trading := { b.desk.trading with
        evaluator := body.applyEvaluator b.desk.trading.evaluator } }
      config := body.apply b.config
      botMaxPositions := body.botMaxPositions.getD b.botMaxPositions },
    body.response b.desk.trading.tracker)

inductive Label
  | desk (l : Desk.Label)
  | settings (body : GlobalSettingsUpdateRequest)
  | startAgain (ps : List PositionRecord) (cs : List ClaimRecord) (now : Time)
  | restart (cfg : TradingConfig) (ps : List PositionRecord) (cs : List ClaimRecord) (now : Time)

/-- A step of the desk, a settings update, or a start; a new process reads its configuration again. -/
inductive Step : Bot → Label → Bot → Prop
  | desk (b : Bot) (l : Desk.Label) (d : Desk) (h : Desk.Step b.desk l d) :
      Step b (.desk l) { b with desk := d }
  | settings (b : Bot) (body : GlobalSettingsUpdateRequest) :
      Step b (.settings body) (b.globalSettingsUpdate body).1
  | startAgain (b : Bot) (ps : List PositionRecord) (cs : List ClaimRecord) (now : Time) :
      Step b (.startAgain ps cs now)
        { b with desk := { b.desk with trading := b.desk.trading.startAgain ps cs now } }
  | restart (b : Bot) (cfg : TradingConfig) (ps : List PositionRecord) (cs : List ClaimRecord)
      (now : Time) :
      Step b (.restart cfg ps cs now)
        { desk := { trading := b.desk.trading.restart ps cs now }, config := cfg
          botMaxPositions := cfg.botMaxPositions }

/-- The value of the claim setting after a step, as its user sees it. -/
def posted (wait : Bool) : Label → Bool
  | .settings body => body.blockNewEntriesWhenClaimPending.getD wait
  | .restart cfg _ _ _ => cfg.waitForClaimBeforeNewTrade
  | _ => wait

/-- The value that was posted last. -/
def lastPosted (wait : Bool) (tr : List (Lib.Taken Bot Label)) : Bool :=
  tr.foldl (fun v x => posted v x.label) wait

variable {b} {b' : Bot} {tr : List (Lib.Taken Bot Label)}

theorem Step.wait_eq {l : Label} (h : Step b l b') :
    b'.config.waitForClaimBeforeNewTrade = posted b.config.waitForClaimBeforeNewTrade l := by
  cases h with
  | desk l d h => rfl
  | settings body => rfl
  | startAgain ps cs now => rfl
  | restart cfg ps cs now => rfl

/-- **The configuration follows the settings updates.** -/
theorem wait_eq_lastPosted (h : Lib.Run Step b tr b') :
    b'.config.waitForClaimBeforeNewTrade =
      lastPosted b.config.waitForClaimBeforeNewTrade tr := by
  induction h with
  | nil => rfl
  | @snoc t u tr l _ hst ih =>
    have hfold : lastPosted b.config.waitForClaimBeforeNewTrade (tr ++ [⟨t, l, u⟩]) =
        posted (lastPosted b.config.waitForClaimBeforeNewTrade tr) l := by
      simp [lastPosted, List.foldl_append]
    rw [hst.wait_eq, hfold, ih]

end Bot

namespace Trading

variable {s : Trading} {i : OrderIntent} {now : Time}

/-- The call creates no position and answers `REJECTED`. -/
def Refuses (s : Trading) (i : OrderIntent) (now : Time) : Prop :=
  (s.execute i now).1.tracker = s.tracker ∧
    ∃ r, (s.execute i now).2 = .done (.ok r) ∧ r.result = .rejected

/-- The call creates its position. -/
def Opens (s : Trading) (i : OrderIntent) (now : Time) : Prop :=
  ∃ r, (s.execute i now).1.tracker.positions.get? s.uuids = some r

/-- The gate at one call: closed, it refuses every order; open, it holds up none that passes the checks. -/
structure GateInForce (wait : Bool) (s : Trading) (i : OrderIntent) (now : Time) : Prop where
  closed : wait = true → s.claims.hasPendingClaims = true → s.Refuses i now
  opened : (wait && s.claims.hasPendingClaims) = false → s.mayCreate i now → s.Opens i now

/-- The call is refused whatever the claims are: an order of the event is pending, or the validator rejects
what it is told. -/
def RefusesAnyway (s : Trading) (i : OrderIntent) (now : Time) : Prop :=
  s.balance.isStale now = false ∧
    (s.pendingForEvent i.conditionId = true ∨ (s.validation i).status ≠ .valid)

instance (s : Trading) (i : OrderIntent) (now : Time) : Decidable (s.RefusesAnyway i now) :=
  inferInstanceAs (Decidable (_ ∧ (_ ∨ _)))

/-- A call that passes the checks does not answer `REJECTED`. -/
theorem not_rejected_of_mayCreate (h : s.mayCreate i now) {r : ExecutionResult}
    (hr : (s.execute i now).2 = .done (.ok r)) : r.result ≠ .rejected := by
  rw [execute_of_mayCreate h] at hr
  cases hm : s.executor.mode with
  | paper =>
    rw [hm] at hr
    unfold executePaper at hr
    dsimp only at hr
    split at hr
    · cases hr
    · cases hr
      simp
  | live =>
    rw [hm] at hr
    unfold executeLive rejectOrder at hr
    dsimp only at hr
    split_ifs at hr
    split at hr
    · cases hr
    · cases hr
      simp

/-- **When a call refuses an order.** -/
theorem refuses_iff : s.Refuses i now ↔ s.RefusesAnyway i now := by
  constructor
  · rintro ⟨-, r, hr, hrejected⟩
    cases hstale : s.balance.isStale now with
    | true =>
      have hstale' : s.countExecution.balance.isStale now = true := hstale
      simp only [execute, hstale', if_true, staleAnswer] at hr
      split at hr
      · cases hr
      · cases hr
        cases hrejected
    | false =>
      refine ⟨hstale, ?_⟩
      by_contra hnot
      rw [not_or, Bool.not_eq_true, not_not] at hnot
      exact not_rejected_of_mayCreate ⟨hstale, hnot⟩ hr hrejected
  · rintro ⟨hfresh, hor⟩
    have hfresh' : s.countExecution.balance.isStale now = false := hfresh
    cases hpending : s.pendingForEvent i.conditionId with
    | true =>
      have hpending' : s.countExecution.pendingForEvent i.conditionId = true := hpending
      simp only [Refuses, execute, hfresh', hpending', Bool.false_eq_true, if_false, if_true]
      exact ⟨rfl, _, rfl, rfl⟩
    | false =>
      have hpending' : s.countExecution.pendingForEvent i.conditionId = false := hpending
      have hinvalid : (s.countExecution.validation i).status ≠ .valid := by
        rw [hpending] at hor
        exact hor.resolve_left Bool.false_ne_true
      unfold Refuses execute
      simp only [hfresh', hpending', Bool.false_eq_true, if_false]
      cases hv : (s.countExecution.validation i).status with
      | valid => exact absurd hv hinvalid
      | rejected reason => exact ⟨rfl, _, rfl, rfl⟩

/-- A call that passes the checks has created its position. -/
theorem opens_of_mayCreate (h : s.mayCreate i now) : s.Opens i now := by
  have hget := get?_createPending s.countExecution i now
  have hmoves : QuietMoves (s.countExecution.createPending i now).tracker (s.execute i now).1.tracker := by
    rw [execute_of_mayCreate h]
    cases s.executor.mode with
    | paper => exact (executePaper_touches i now hget rfl).1.moves
    | live => exact (executeLive_touches now hget rfl).1.moves
  have hsome := PositionTracker.quiets_isSome hmoves s.uuids
  have hcreated : (s.countExecution.createPending i now).tracker.positions.get? s.uuids =
      some (s.countExecution.pendingRecord i now) := hget
  rw [hcreated, Option.isSome_some] at hsome
  exact Option.isSome_iff_exists.mp hsome

/-- One call obeys the gate iff it would be refused without it whenever the gate is closed. -/
theorem gateInForce_iff {wait : Bool} :
    GateInForce wait s i now ↔
      (wait = true → s.claims.hasPendingClaims = true → s.RefusesAnyway i now) := by
  constructor
  · exact fun h hw hp => refuses_iff.mp (h.closed hw hp)
  · exact fun h => ⟨fun hw hp => refuses_iff.mpr (h hw hp), fun _ hmay => opens_of_mayCreate hmay⟩

end Trading

namespace Bot

variable {b b' : Bot} {tr : List (Lib.Taken Bot Label)}

/-- **The claim gate.** After every run, a call of `execute` obeys the setting that was posted last iff,
whenever the configuration asks to wait and a claim is pending, the call is refused for another reason. -/
theorem gate_iff (h : Lib.Run Step b tr b') (i : OrderIntent) (now : Time) :
    Trading.GateInForce (lastPosted b.config.waitForClaimBeforeNewTrade tr) b'.desk.trading i now ↔
      (b'.config.waitForClaimBeforeNewTrade = true →
        b'.desk.trading.claims.hasPendingClaims = true → b'.desk.trading.RefusesAnyway i now) := by
  rw [wait_eq_lastPosted h]
  exact Trading.gateInForce_iff

/-- A bot whose balance is known, nothing done yet. -/
def started : Bot := { desk := Desk.startDesk .paper 3 }

/-- A position of another event, up for settlement. -/
def claimedPosition : PositionRecord :=
  PositionTracker.newRecord 7 "BTC" .up "event" "token" 1 0

/-- The claim of that position has been created and is not redeemed yet. -/
def waiting : Bot :=
  { started with desk := { started.desk with
      trading := started.desk.trading.createClaim claimedPosition 0 } }

theorem waiting_run :
    Lib.Run Step started [⟨started, .desk (.claim claimedPosition 0), waiting⟩] waiting :=
  .single (.desk started _ _ (.claim _ claimedPosition 0))

theorem gate_single :
    Trading.GateInForce (lastPosted true [⟨started, .desk (.claim claimedPosition 0), waiting⟩])
        waiting.desk.trading (Desk.orderFor "other") 0 ↔
      (waiting.config.waitForClaimBeforeNewTrade = true →
        waiting.desk.trading.claims.hasPendingClaims = true →
          waiting.desk.trading.RefusesAnyway (Desk.orderFor "other") 0) :=
  gate_iff waiting_run (Desk.orderFor "other") 0

/-- The setting asks to wait, a claim is pending, and an order opens a position. -/
theorem gate_open :
    ∃ b tr b', Lib.Run Step b tr b' ∧ lastPosted b.config.waitForClaimBeforeNewTrade tr = true ∧
      b'.desk.trading.claims.hasPendingClaims = true ∧
      b'.desk.trading.Opens (Desk.orderFor "other") 0 ∧
      ¬b'.desk.trading.Refuses (Desk.orderFor "other") 0 := by
  have hpending : waiting.desk.trading.claims.hasPendingClaims = true := by decide +kernel
  have hopens : waiting.desk.trading.mayCreate (Desk.orderFor "other") 0 := by decide +kernel
  have hanyway : ¬waiting.desk.trading.RefusesAnyway (Desk.orderFor "other") 0 := by decide +kernel
  exact ⟨started, _, waiting, waiting_run, rfl, hpending, Trading.opens_of_mayCreate hopens,
    fun h => hanyway (Trading.refuses_iff.mp h)⟩

end Bot

end Polyfast
