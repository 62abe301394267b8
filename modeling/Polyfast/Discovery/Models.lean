import Polyfast.Lib.Text
import Polyfast.MarketData.PriceUpdates

/-!
# Discovered events

What a scan makes of an event of the API. `from_api_event` is the only way to one, and it leaves out what
has no condition id; the asset comes out of fixed tables (`toUpper_extractAssetFromSlug`).
-/

namespace Polyfast

/-- The first market of an event; lists that came as JSON strings are decoded, with `[]` where that fails. -/
structure ApiMarket where
  conditionId : ConditionId := ""
  question : Option String := none
  clobTokenIds : List TokenId := []
  outcomes : List String := []
  outcomePrices : Option OutcomePricesRaw := none

/-- An event of the API that can be read without an exception. -/
structure ApiEvent where
  title : String := ""
  slug : String := ""
  endDate : Option Time := none
  market : Option ApiMarket := none

def slugAssets : List Asset :=
  ["BTC", "ETH", "SOL", "DOGE", "XRP", "BNB", "HYPE", "ADA", "AVAX", "DOT", "SHIB", "LTC", "UNI", "ATOM"]

/-- `asset_map`. -/
def assetMap : List (String × Asset) :=
  [("BITCOIN", "BTC"), ("ETHEREUM", "ETH"), ("SOLANA", "SOL"), ("DOGECOIN", "DOGE"), ("HYPERLIQUID", "HYPE")]

def titleAssets : List Asset := ["BTC", "ETH", "SOL", "DOGE", "XRP", "BNB"]

/-- `_extract_asset_from_slug`: the slug first, then full names in the title, then symbols in it. -/
def extractAssetFromSlug (slug title : String) : Asset :=
  match slugAssets.find? (fun asset => Lib.beginsWith slug.toUpper (asset ++ "-")) with
  | some asset => asset
  | none =>
    match assetMap.find? (fun entry => Lib.occursIn entry.1 title.toUpper) with
    | some entry => entry.2
    | none => (titleAssets.find? (fun asset => Lib.occursIn asset title.toUpper)).getD "UNKNOWN"

/-- An event found by a scan. -/
structure DiscoveredEvent where
  conditionId : ConditionId
  question : String
  slug : String
  asset : Asset
  endDate : Time
  discoveredAt : Time
  clobTokenIds : List TokenId := []
  outcomes : List String := []
  /-- `none` stands for the empty text. -/
  outcomePrices : Option OutcomePricesRaw := none
  conditionId_ne : conditionId ≠ ""
  asset_upper : asset.toUpper = asset

theorem toUpper_extractAssetFromSlug (slug title : String) :
    (extractAssetFromSlug slug title).toUpper = extractAssetFromSlug slug title := by
  have hslug : ∀ asset ∈ slugAssets, asset.toList.all (fun c => c.toUpper = c) = true := by decide
  have hmap : ∀ entry ∈ assetMap, entry.2.toList.all (fun c => c.toUpper = c) = true := by decide
  have htitle : ∀ asset ∈ titleAssets, asset.toList.all (fun c => c.toUpper = c) = true := by decide
  have hunknown : "UNKNOWN".toList.all (fun c => c.toUpper = c) = true := by decide
  refine Lib.toUpper_eq_self ?_
  unfold extractAssetFromSlug
  cases hs : slugAssets.find? (fun asset => Lib.beginsWith slug.toUpper (asset ++ "-")) with
  | some asset => exact hslug asset (List.mem_of_find?_eq_some hs)
  | none =>
    cases hm : assetMap.find? (fun entry => Lib.occursIn entry.1 title.toUpper) with
    | some entry => exact hmap entry (List.mem_of_find?_eq_some hm)
    | none =>
      cases ht : titleAssets.find? (fun asset => Lib.occursIn asset title.toUpper) with
      | some asset => exact htitle asset (List.mem_of_find?_eq_some ht)
      | none => exact hunknown

/-- `from_api_event`, read at time `now`. -/
def DiscoveredEvent.fromApiEvent (event : ApiEvent) (now : Time) : Option DiscoveredEvent :=
  let m := event.market.getD {}
  if h : m.conditionId = "" then none
  else some
    { conditionId := m.conditionId
      question := m.question.getD event.title
      slug := event.slug
      asset := extractAssetFromSlug event.slug event.title
      endDate := event.endDate.getD now
      discoveredAt := now
      clobTokenIds := m.clobTokenIds
      outcomes := m.outcomes
      outcomePrices := m.outcomePrices
      conditionId_ne := h
      asset_upper := toUpper_extractAssetFromSlug _ _ }

/-- An event of one coin, by condition id and slug. -/
def btcEvent (conditionId : ConditionId) (slug : String) (h : conditionId ≠ "") : DiscoveredEvent :=
  { conditionId := conditionId, question := "Bitcoin Up or Down", slug := slug, asset := "BTC", endDate := 0
    discoveredAt := 0, clobTokenIds := [conditionId ++ "-up", conditionId ++ "-down"], outcomes := ["Up", "Down"]
    conditionId_ne := h, asset_upper := Lib.toUpper_eq_self (by decide) }

/-- Events of two slots, one after the other. -/
def firstEvent : DiscoveredEvent := btcEvent "first" "btc-updown-5m-1700000100" (by decide)

def secondEvent : DiscoveredEvent := btcEvent "second" "btc-updown-5m-1700000400" (by decide)

end Polyfast
