import Polyfast.Lib.Table
import Polyfast.Execution.PositionRecord

/-!
# The event registry, slot slugs and the token routes

A slug ends in the start of its five-minute slot, `{asset}-updown-5m-{START}`; `slugStart` reads it
as the pattern `-(\d{10,})$` does. `findCurrentSlotConditionId` is the event whose slot contains now.
-/

namespace Polyfast

/-- `SLOT_SECONDS`. -/
def slotSeconds : ℤ := 300

inductive EventStatus
  | discovered
  | validating
  | active
  | inactive
  | expired
  | suspended
  | closed
  deriving DecidableEq

structure RegistryRecord where
  eventId : ℕ
  conditionId : ConditionId
  asset : Asset
  question : String
  slug : String
  status : EventStatus
  firstSeenAt : Time
  lastSeenAt : Time
  statusChangedAt : Time
  endDate : Time
  hasOpenPosition : Bool := false

structure EventRegistry where
  records : Lib.Table RegistryRecord.conditionId := .empty

def EventRegistry.getByConditionId (r : EventRegistry) (conditionId : ConditionId) :
    Option RegistryRecord := r.records.get? conditionId

/-- The number a list of digits spells, last digit first. -/
def digitsValue (ds : List Char) : ℕ :=
  ds.foldr (fun c n => (c.toNat - '0'.toNat) + 10 * n) 0

/-- The number a slug ends in: ten digits or more after a dash, a final newline aside. -/
def slugStart (slug : String) : Option ℕ :=
  let tail := match slug.toList.reverse with
    | '\n' :: rest => rest
    | chars => chars
  let digits := tail.takeWhile Char.isDigit
  if 10 ≤ digits.length ∧ (tail.drop digits.length).head? = some '-' then some (digitsValue digits)
  else none

/-- The slot that starts at `start` contains the second `now`. -/
def inSlot (start : ℤ) (now : Time) : Bool := decide (start ≤ ⌊now⌋ ∧ ⌊now⌋ < start + slotSeconds)

/-- The slug names the slot that contains `now`. -/
def slugIsCurrent (slug : String) (now : Time) : Bool :=
  match slugStart slug with
  | some start => inSlot start now
  | none => false

/-- The end of the running slot. -/
def slotEnd (now : Time) : ℤ := ⌊now⌋ / slotSeconds * slotSeconds + slotSeconds

/-- `EvaluationLoop._find_current_slot_condition_id`: the first event of the asset whose slot is
running, `""` if there is none. -/
def EventRegistry.findCurrentSlotConditionId (r : EventRegistry) (asset : Asset) (now : Time) :
    ConditionId :=
  match r.records.records.find? (fun rec =>
      rec.asset.toUpper = asset.toUpper ∧ slugIsCurrent rec.slug now) with
  | some rec => rec.conditionId
  | none => ""

/-! ### Token routes -/

structure TokenRoute where
  tokenId : TokenId
  conditionId : ConditionId
  asset : Asset
  side : String

structure WSPriceBridge where
  tokenRoutes : Lib.Table TokenRoute.tokenId := .empty

/-- The token that `_dispatch_entry` buys: the first route of the asset, side and event. -/
def WSPriceBridge.findToken (b : WSPriceBridge) (asset : Asset) (side : String)
    (conditionId : ConditionId) : TokenId :=
  match b.tokenRoutes.records.find? (fun route => route.asset.toUpper = asset.toUpper ∧
      route.side.toUpper = side ∧ route.conditionId = conditionId) with
  | some route => route.tokenId
  | none => ""

end Polyfast
