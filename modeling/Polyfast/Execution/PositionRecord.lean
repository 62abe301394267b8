import Polyfast.Py
import Polyfast.Lib.Rounding

/-!
# Positions

The position record with its state machine (`allowedTransitions`, `transitionTo`), what its close
reason says about the tokens (`wasSold`, `needsRedeem`), the fee formulas and the live PnL.
-/

namespace Polyfast

abbrev PositionId := ℕ
abbrev ConditionId := String
abbrev TokenId := String
abbrev Asset := String

/-- Which outcome token is held or bought. -/
inductive OrderSide
  | up
  | down
  deriving DecidableEq

/-- The string the code stores for a side. -/
def OrderSide.value : OrderSide → String
  | .up => "UP"
  | .down => "DOWN"

/-- Why a position was closed. -/
inductive CloseReason
  | takeProfit
  | stopLoss
  | forceSell
  | manualClose
  | expiry
  | claim
  | systemShutdown
  | errorRecovery
  deriving DecidableEq

/-- The conditions under force sell. -/
inductive ForceSellTrigger
  | time
  | pnl
  deriving DecidableEq

inductive PositionState
  | pendingOpen
  | openConfirmed
  | closingRequested
  | closePending
  | closed
  | closeFailed
  deriving DecidableEq

def PositionState.value : PositionState → String
  | pendingOpen => "pending_open"
  | openConfirmed => "open_confirmed"
  | closingRequested => "closing_requested"
  | closePending => "close_pending"
  | closed => "closed"
  | closeFailed => "close_failed"

/-- `ALLOWED_TRANSITIONS`. -/
def allowedTransitions : PositionState → List PositionState
  | .pendingOpen => [.openConfirmed, .closed]
  | .openConfirmed => [.closingRequested]
  | .closingRequested => [.closePending, .openConfirmed]
  | .closePending => [.closed, .closeFailed]
  | .closeFailed => [.closingRequested, .closed]
  | .closed => []

/-- Nothing leads out of `CLOSED`. -/
theorem ne_closed_of_allowed {s t : PositionState} (h : t ∈ allowedTransitions s) : s ≠ .closed := by
  rintro rfl
  exact absurd h List.not_mem_nil

/-- A position. -/
structure PositionRecord where
  positionId : PositionId
  asset : Asset
  side : OrderSide
  conditionId : ConditionId
  tokenId : TokenId
  state : PositionState := .pendingOpen
  createdAt : Time
  requestedAmountUsd : ℚ := 0
  -- written at the fill
  fillPrice : ℚ := 0
  grossFillShares : ℚ := 0
  entryFeeShares : ℚ := 0
  netPositionShares : ℚ := 0
  feeRate : ℚ := 0
  openedAt : Option Time := none
  -- written at the close
  exitFillPrice : ℚ := 0
  exitGrossUsdc : ℚ := 0
  actualExitFeeUsdc : ℚ := 0
  netExitUsdc : ℚ := 0
  netRealizedPnl : ℚ := 0
  closeReason : Option CloseReason := none
  closeTriggerSet : List ForceSellTrigger := []
  closeTriggeredAt : Option Time := none
  closeRequestedPrice : ℚ := 0
  closedAt : Option Time := none
  deriving DecidableEq

/-! ### Fees -/

/-- `DEFAULT_CRYPTO_FEE_RATE`, also what `FeeRateFetcher.get_default_rate` answers. -/
def defaultCryptoFeeRate : ℚ := 1 / 10

/-- The fee formulas at one rate. -/
structure FeeCalculator where
  feeRate : ℚ := defaultCryptoFeeRate

/-- What `calculate_entry` answers. -/
structure EntryData where
  grossFillShares : ℚ
  entryFeeShares : ℚ
  netPositionShares : ℚ
  feeRate : ℚ

/-- What `calculate_exit` answers. -/
structure ExitData where
  exitGrossUsdc : ℚ
  actualExitFeeUsdc : ℚ
  netExitUsdc : ℚ

namespace FeeCalculator

variable (c : FeeCalculator)

def calculateBuyFeeShares (shares price : ℚ) : ℚ := shares * c.feeRate * price * (1 - price)

def calculateSellFeeUsdc (shares price : ℚ) : ℚ := shares * c.feeRate * price * (1 - price)

/-- Shares bought for `requestedUsd`; a price of 0 raises. -/
def calculateEntry (requestedUsd fillPrice : ℚ) : Except PyError EntryData :=
  if fillPrice = 0 then .error .zeroDivisionError
  else
    let grossShares := requestedUsd / fillPrice
    let feeShares := c.calculateBuyFeeShares grossShares fillPrice
    let netShares := grossShares - feeShares
    .ok { grossFillShares := Lib.roundTo 8 grossShares
          entryFeeShares := Lib.roundTo 8 feeShares
          netPositionShares := Lib.roundTo 8 netShares
          feeRate := c.feeRate }

/-- Proceeds of selling `netShares`. -/
def calculateExit (netShares exitPrice : ℚ) : ExitData :=
  let grossUsdc := netShares * exitPrice
  let feeUsdc := c.calculateSellFeeUsdc netShares exitPrice
  let netUsdc := grossUsdc - feeUsdc
  { exitGrossUsdc := Lib.roundTo 8 grossUsdc
    actualExitFeeUsdc := Lib.roundTo 8 feeUsdc
    netExitUsdc := Lib.roundTo 8 netUsdc }

end FeeCalculator

/-! ### The record's own methods -/

/-- What `calculate_unrealized_pnl` answers. -/
structure UnrealizedPnl where
  currentPrice : ℚ
  grossPositionValue : ℚ
  estimatedExitFeeUsdc : ℚ
  netExitValueEstimate : ℚ
  netUnrealizedPnlEstimate : ℚ
  netUnrealizedPnlPct : ℚ

namespace PositionRecord

variable (p : PositionRecord)

/-- The record with its state overwritten. -/
def inState (target : PositionState) : PositionRecord := { p with state := target }

/-- The record in state `target`, if the table allows it. -/
def transitionTo (target : PositionState) : Except PyError PositionRecord :=
  if target ∈ allowedTransitions p.state then .ok (p.inState target)
  else .error (.invalidPositionTransition
    s!"Cannot transition from {p.state.value} to {target.value}")

def isOpen : Bool := p.state = .openConfirmed

def isClosed : Bool := p.state = .closed

def isPending : Bool := p.state = .pendingOpen

/-- Close reasons under which the token was sold. -/
def soldReasons : List CloseReason :=
  [.takeProfit, .stopLoss, .forceSell, .manualClose, .systemShutdown, .errorRecovery]

/-- Closed by a sale. -/
def wasSold : Bool :=
  p.isClosed && (match p.closeReason with
    | some r => r ∈ soldReasons
    | none => false)

/-- Closed with the token still in hand. -/
def needsRedeem : Bool := p.isClosed && !p.wasSold

/-- The live PnL estimate; a rate of `None` or 0 stands for the rate of the entry. -/
def calculateUnrealizedPnl (currentPrice : ℚ) (feeRate : Option ℚ := none) : UnrealizedPnl :=
  let rate := match feeRate with
    | some r => if r = 0 then p.feeRate else r
    | none => p.feeRate
  let grossValue := p.netPositionShares * currentPrice
  let estFee := p.netPositionShares * rate * currentPrice * (1 - currentPrice)
  let netValue := grossValue - estFee
  let netPnl := netValue - p.requestedAmountUsd
  { currentPrice := Lib.roundTo 4 currentPrice
    grossPositionValue := Lib.roundTo 4 grossValue
    estimatedExitFeeUsdc := Lib.roundTo 4 estFee
    netExitValueEstimate := Lib.roundTo 4 netValue
    netUnrealizedPnlEstimate := Lib.roundTo 4 netPnl
    netUnrealizedPnlPct :=
      if p.requestedAmountUsd > 0 then Lib.roundTo 2 (netPnl / p.requestedAmountUsd * 100) else 0 }

theorem transitionTo_eq_ok {p q : PositionRecord} {target : PositionState} :
    p.transitionTo target = .ok q ↔
      target ∈ allowedTransitions p.state ∧ q = p.inState target := by
  unfold transitionTo
  split_ifs with h
  · simp [h, eq_comm]
  · simp [h]

theorem isOpen_iff {p : PositionRecord} : p.isOpen = true ↔ p.state = .openConfirmed := by
  simp [isOpen]

theorem isClosed_iff {p : PositionRecord} : p.isClosed = true ↔ p.state = .closed := by
  simp [isClosed]

theorem isPending_iff {p : PositionRecord} : p.isPending = true ↔ p.state = .pendingOpen := by
  simp [isPending]

end PositionRecord

end Polyfast
