import Polyfast.MarketData.LivePrice
import Polyfast.MarketData.Registry

/-!
# What the feeds are subscribed to

Token routes of the bridge, tracked tokens of the RTDS client, coins of the price client.
-/

namespace Polyfast

/-! ### The bridge -/

namespace WSPriceBridge

variable (b : WSPriceBridge)

def registerToken (tokenId : TokenId) (conditionId : ConditionId) (asset : Asset) (side : String) : WSPriceBridge :=
  { b with tokenRoutes := b.tokenRoutes.put ⟨tokenId, conditionId, asset, side⟩ }

def unregisterToken (tokenId : TokenId) : WSPriceBridge := { b with tokenRoutes := b.tokenRoutes.erase tokenId }

def registeredTokenIds : List TokenId := b.tokenRoutes.keys

/-- A token is routed after its registration as it was registered; the others as before. -/
theorem mem_registerToken {tokenId : TokenId} {conditionId : ConditionId} {asset : Asset} {side : String}
    {route : TokenRoute} (h : route ∈ (b.registerToken tokenId conditionId asset side).tokenRoutes.records) :
    route ∈ b.tokenRoutes.records ∨ route = ⟨tokenId, conditionId, asset, side⟩ := by
  rw [registerToken, Lib.Table.mem_records, Lib.Table.get?_put] at h
  split_ifs at h with hkey
  · exact .inr (Option.some.inj h).symm
  · exact .inl (Lib.Table.mem_records.mpr h)

theorem mem_unregisterToken {tokenId : TokenId} {route : TokenRoute} :
    route ∈ (b.unregisterToken tokenId).tokenRoutes.records ↔
      route ∈ b.tokenRoutes.records ∧ route.tokenId ≠ tokenId := by
  rw [unregisterToken, Lib.Table.mem_records, Lib.Table.get?_erase, Lib.Table.mem_records]
  split_ifs with h
  · simp [h]
  · exact (and_iff_left (Ne.symm h)).symm

end WSPriceBridge

/-! ### The RTDS client -/

inductive ConnectionState
  | disconnected
  | connecting
  | connected
  | reconnecting
  | failed
  deriving DecidableEq

structure RTDSClient where
  state : ConnectionState := .disconnected
  /-- `_ws` is set. -/
  hasWs : Bool := false
  subscribedTokens : List TokenId := []

namespace RTDSClient

variable (c : RTDSClient)

def isConnected : Bool := c.state = .connected

/-- Remember the tokens; nothing is sent. -/
def updateSubscription (tokenIds : List TokenId) : RTDSClient := { c with subscribedTokens := tokenIds }

/-- `subscribe`, where `sent` says whether the message can be sent. -/
def subscribe (tokenIds : List TokenId) (sent : Bool) : RTDSClient × Bool :=
  if !c.isConnected || !c.hasWs then (c, false)
  else if tokenIds.isEmpty then (c, false)
  else ({ c with subscribedTokens := tokenIds }, sent)

/-- `_resubscribe`, after a reconnect. -/
def resubscribe (sent : Bool) : RTDSClient × Bool :=
  if c.subscribedTokens.isEmpty then (c, true) else c.subscribe c.subscribedTokens sent

/-- Sending what is tracked already changes nothing that is tracked. -/
theorem subscribedTokens_subscribe (sent : Bool) :
    (c.subscribe c.subscribedTokens sent).1.subscribedTokens = c.subscribedTokens := by
  unfold subscribe
  split_ifs <;> rfl

theorem subscribedTokens_resubscribe (sent : Bool) :
    (c.resubscribe sent).1.subscribedTokens = c.subscribedTokens := by
  unfold resubscribe
  split_ifs
  · rfl
  · exact c.subscribedTokens_subscribe sent

end RTDSClient

/-! ### The coin price client -/

/-- The coins that the price client asks for. -/
structure CoinSubscription where
  client : CoinPriceClient := {}
  coins : List Asset := []
  staleThreshold : ℚ := 15

/-- `set_coins`; a coin without a record gets an empty one. -/
def CoinSubscription.setCoins (c : CoinSubscription) (coins : List Asset) : CoinSubscription :=
  let coins := coins.map String.toUpper
  { c with
    coins := coins
    client := { c.client with
      records := coins.foldl (fun records coin =>
        if (records.get? coin).isSome then records
        else records.put { coin := coin, staleThresholdSec := c.staleThreshold }) c.client.records } }

end Polyfast
