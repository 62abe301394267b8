import Polyfast.Execution.ClaimManager
import Polyfast.MarketData.LivePrice
import Polyfast.MarketData.SafeSync
import Polyfast.Api.Coin
import Polyfast.Lib.Sql

/-!
# What the stores keep

The data classes that go through the database, with their own field types, and how a value becomes a cell and
a cell a value: enumerations by their texts, dates and lists by the formats of the standard library, booleans
as integers.

* `Formats`: `isoformat`, `fromisoformat`, `dumps`, `loads`;
* `enumOf_value`: a member is found by its text;
* `PositionRecord.stored`: a position of the tracker as it is stored.
-/

namespace Polyfast

open Lib.Sql (Value)

/-! ### Enumerations -/

def CloseReason.value : CloseReason → String
  | takeProfit => "take_profit"
  | stopLoss => "stop_loss"
  | forceSell => "force_sell"
  | manualClose => "manual_close"
  | expiry => "expiry"
  | claim => "claim"
  | systemShutdown => "system_shutdown"
  | errorRecovery => "error_recovery"

def ForceSellTrigger.value : ForceSellTrigger → String
  | time => "force_sell_time"
  | pnl => "force_sell_pnl"

def ClaimStatus.value : ClaimStatus → String
  | pending => "pending"
  | success => "success"
  | failed => "failed"

def ClaimOutcome.value : ClaimOutcome → String
  | redeemedWon => "redeemed_won"
  | redeemedLost => "redeemed_lost"
  | pending => "pending"
  | failed => "failed"

def PTBStatus.value : PTBStatus → String
  | waiting => "waiting"
  | acquired => "acquired"
  | failed => "failed"

namespace Persistence

/-- The members of an enumeration with their texts. -/
class Enum (ε : Type) where
  members : List ε
  value : ε → String
  mem : ∀ e, e ∈ members
  injective : ∀ e e', value e = value e' → e = e'
  nonempty : ∀ e, value e ≠ ""

instance : Enum PositionState where
  members := [.pendingOpen, .openConfirmed, .closingRequested, .closePending, .closed, .closeFailed]
  value := PositionState.value
  mem e := by cases e <;> decide
  injective e e' := by cases e <;> cases e' <;> decide
  nonempty e := by cases e <;> decide

instance : Enum CloseReason where
  members := [.takeProfit, .stopLoss, .forceSell, .manualClose, .expiry, .claim, .systemShutdown, .errorRecovery]
  value := CloseReason.value
  mem e := by cases e <;> decide
  injective e e' := by cases e <;> cases e' <;> decide
  nonempty e := by cases e <;> decide

instance : Enum ClaimStatus where
  members := [.pending, .success, .failed]
  value := ClaimStatus.value
  mem e := by cases e <;> decide
  injective e e' := by cases e <;> cases e' <;> decide
  nonempty e := by cases e <;> decide

instance : Enum ClaimOutcome where
  members := [.redeemedWon, .redeemedLost, .pending, .failed]
  value := ClaimOutcome.value
  mem e := by cases e <;> decide
  injective e e' := by cases e <;> cases e' <;> decide
  nonempty e := by cases e <;> decide

instance : Enum SideMode where
  members := [.dominantOnly, .upOnly, .downOnly]
  value := SideMode.value
  mem e := by cases e <;> decide
  injective e e' := by cases e <;> cases e' <;> decide
  nonempty e := by cases e <;> decide

instance : Enum EventStatus where
  members := [.discovered, .validating, .active, .inactive, .expired, .suspended, .closed]
  value := EventStatus.value
  mem e := by cases e <;> decide
  injective e e' := by cases e <;> cases e' <;> decide
  nonempty e := by cases e <;> decide

instance : Enum PTBStatus where
  members := [.waiting, .acquired, .failed]
  value := PTBStatus.value
  mem e := by cases e <;> decide
  injective e e' := by cases e <;> cases e' <;> decide
  nonempty e := by cases e <;> decide

/-- The member with a text, as the call of the class finds it; `none` is its `ValueError`. -/
def enumOf (ε : Type) [Enum ε] (v : String) : Option ε := (Enum.members : List ε).find? (Enum.value · = v)

theorem enumOf_value {ε : Type} [Enum ε] (e : ε) : enumOf ε (Enum.value e) = some e := by
  unfold enumOf
  have hsome : ((Enum.members : List ε).find? (Enum.value · = Enum.value e)).isSome := by
    rw [List.find?_isSome]
    exact ⟨e, Enum.mem e, by simp⟩
  obtain ⟨e', he'⟩ := Option.isSome_iff_exists.mp hsome
  have hvalue := List.find?_some he'
  rw [he', Enum.injective e' e (by simpa using hvalue)]

/-! ### Cells -/

/-- The formats of dates and lists. Neither reader takes the empty text. -/
structure Formats where
  isoformat : Time → String
  fromisoformat : String → Option Time
  dumps : List String → String
  loads : String → Option (List String)
  fromisoformat_empty : fromisoformat "" = none
  loads_empty : loads "" = none

/-- `bool(value)`. -/
def truthy : Value → Bool
  | .null => false
  | .integer n => n ≠ 0
  | .real x => x ≠ 0
  | .text s => s ≠ ""

def asText : Value → Option String
  | .text s => some s
  | _ => none

def asFloat : Value → Option ℚ
  | .real x => some x
  | .integer n => some n
  | _ => none

/-- A number, or NULL. -/
def ofFloat? : Option ℚ → Value
  | some x => .real x
  | none => .null

/-- The value if it is not NULL. -/
def asFloat? (v : Value) : Option (Option ℚ) := if v ≠ .null then (asFloat v).map some else some none

theorem asFloat?_ofFloat? (o : Option ℚ) : asFloat? (ofFloat? o) = some o := by
  cases o with
  | none => rfl
  | some x => rfl

/-- `int(flag)`. -/
def ofBool (b : Bool) : Value := .integer (if b then 1 else 0)

theorem truthy_ofBool (b : Bool) : truthy (ofBool b) = b := by
  cases b with
  | false => rfl
  | true => rfl

def asInt : Value → Option ℤ
  | .integer n => some n
  | _ => none

/-- A member of an enumeration. -/
def asEnum (ε : Type) [Enum ε] (v : Value) : Option ε := (asText v).bind (enumOf ε)

/-- A member of an enumeration, or NULL. -/
def ofEnum? {ε : Type} [Enum ε] : Option ε → Value
  | some e => .text (Enum.value e)
  | none => .null

/-- What is not a member is dropped. -/
def asEnum? (ε : Type) [Enum ε] (v : Value) : Option ε := if truthy v then asEnum ε v else none

theorem asEnum_text {ε : Type} [Enum ε] (e : ε) : asEnum ε (.text (Enum.value e)) = some e := enumOf_value e

theorem asEnum?_ofEnum? {ε : Type} [Enum ε] (o : Option ε) : asEnum? ε (ofEnum? o) = o := by
  cases o with
  | none => rfl
  | some e =>
    have hne : Enum.value e ≠ "" := Enum.nonempty e
    rw [asEnum?, ofEnum?, if_pos (by simpa [truthy] using hne), asEnum_text]

namespace Formats

variable (f : Formats)

/-- A date, or NULL. -/
def time : Option Time → Value
  | some t => .text (f.isoformat t)
  | none => .null

def asTime (v : Value) : Option Time := (asText v).bind f.fromisoformat

/-- `fromisoformat(value) if value else None`. -/
def asTime? (v : Value) : Option (Option Time) := if truthy v then (f.asTime v).map some else some none

/-- The trigger set; what is not understood is dropped. -/
def asList (v : Value) : List String := if truthy v then ((asText v).bind f.loads).getD [] else []

/-- The date is read back. -/
def ReadsTime (t : Time) : Prop := f.fromisoformat (f.isoformat t) = some t

/-- The list is read back. -/
def ReadsList (l : List String) : Prop := f.loads (f.dumps l) = some l

variable {f}

theorem asTime_text {t : Time} (h : f.ReadsTime t) : f.asTime (.text (f.isoformat t)) = some t := h

theorem asTime?_time {o : Option Time} (h : ∀ t ∈ o, f.ReadsTime t) : f.asTime? (f.time o) = some o := by
  cases o with
  | none => rfl
  | some t =>
    have ht : f.fromisoformat (f.isoformat t) = some t := h t rfl
    have hne : f.isoformat t ≠ "" := by
      intro hempty
      rw [hempty, f.fromisoformat_empty] at ht
      cases ht
    rw [asTime?, if_pos (by simpa [truthy, time] using hne), time, asTime_text (h t rfl), Option.map_some]

theorem asList_text {l : List String} (h : f.ReadsList l) : f.asList (.text (f.dumps l)) = l := by
  have hl : f.loads (f.dumps l) = some l := h
  have hne : f.dumps l ≠ "" := by
    intro hempty
    rw [hempty, f.loads_empty] at hl
    cases hl
  rw [asList, if_pos (by simpa [truthy] using hne), asText, Option.bind_some, hl, Option.getD_some]

end Formats

/-! ### Records -/

/-- `PositionRecord`. -/
structure PositionRecord where
  positionId : String
  asset : String
  side : String
  conditionId : String
  tokenId : String
  state : PositionState := .pendingOpen
  createdAt : Time
  requestedAmountUsd : ℚ := 0
  fillPrice : ℚ := 0
  grossFillShares : ℚ := 0
  entryFeeShares : ℚ := 0
  netPositionShares : ℚ := 0
  feeRate : ℚ := 0
  openedAt : Option Time := none
  exitFillPrice : ℚ := 0
  exitGrossUsdc : ℚ := 0
  actualExitFeeUsdc : ℚ := 0
  netExitUsdc : ℚ := 0
  netRealizedPnl : ℚ := 0
  closeReason : Option CloseReason := none
  closeTriggerSet : List String := []
  closeTriggeredAt : Option Time := none
  closeRequestedPrice : ℚ := 0
  closedAt : Option Time := none

/-- `ClaimRecord`. -/
structure ClaimRecord where
  claimId : String
  conditionId : String
  positionId : String
  asset : String
  side : String := ""
  claimStatus : ClaimStatus := .pending
  outcome : ClaimOutcome := .pending
  claimedAmountUsdc : ℚ := 0
  claimedAt : Option Time := none
  retryCount : ℤ := 0
  lastError : String := ""
  createdAt : Time

/-- `RegistryRecord`; the store also takes one without an end. -/
structure RegistryRecord where
  eventId : String
  conditionId : String
  asset : String
  question : String
  slug : String
  status : EventStatus
  firstSeenAt : Time
  lastSeenAt : Time
  statusChangedAt : Time
  endDate : Option Time
  hasOpenPosition : Bool := false

/-- `PTBRecord`. -/
structure PTBRecord where
  conditionId : String
  asset : String
  ptbValue : Option ℚ := none
  status : PTBStatus := .waiting
  sourceName : String := ""
  acquiredAt : Option Time := none
  retryCount : ℤ := 0
  lastError : String := ""

/-- A position of the tracker as it is stored, where `name` gives the texts of ids. -/
def PositionRecord.stored (name : PositionId → String) (p : Polyfast.PositionRecord) : PositionRecord where
  positionId := name p.positionId
  asset := p.asset
  side := p.side.value
  conditionId := p.conditionId
  tokenId := p.tokenId
  state := p.state
  createdAt := p.createdAt
  requestedAmountUsd := p.requestedAmountUsd
  fillPrice := p.fillPrice
  grossFillShares := p.grossFillShares
  entryFeeShares := p.entryFeeShares
  netPositionShares := p.netPositionShares
  feeRate := p.feeRate
  openedAt := p.openedAt
  exitFillPrice := p.exitFillPrice
  exitGrossUsdc := p.exitGrossUsdc
  actualExitFeeUsdc := p.actualExitFeeUsdc
  netExitUsdc := p.netExitUsdc
  netRealizedPnl := p.netRealizedPnl
  closeReason := p.closeReason
  closeTriggerSet := p.closeTriggerSet.map ForceSellTrigger.value
  closeTriggeredAt := p.closeTriggeredAt
  closeRequestedPrice := p.closeRequestedPrice
  closedAt := p.closedAt

end Persistence

end Polyfast
