import Polyfast.Lib.Run
import Polyfast.Lib.Table
import Polyfast.Execution.PositionTracker
import Polyfast.Execution.BalanceManager
import Polyfast.MarketData.LivePrice
import Polyfast.MarketData.Registry
import Polyfast.Strategy.RuleEngine
import Polyfast.Execution.OrderValidator
import Polyfast.Execution.ExitEvaluator
import Polyfast.Execution.ClaimManager
import Polyfast.Execution.OrderExecutor
import Polyfast.Execution.ExitExecutor
import Polyfast.Orchestrator.Settlement
import Polyfast.Orchestrator.ExitOrchestrator
import Polyfast.Execution.TrackerMove
import Polyfast.Orchestrator.Desk
import Polyfast.Orchestrator.Limits
import Polyfast.Orchestrator.Ledger
import Polyfast.Orchestrator.ExitPrices
import Polyfast.Orchestrator.Restore
import Polyfast.Orchestrator.CycleEffect
import Polyfast.Orchestrator.ExitSales
import Polyfast.Orchestrator.RedeemEffect
import Polyfast.Orchestrator.Redemption
import Polyfast.Orchestrator.RedeemOnce
import Polyfast.Api.Settings
import Polyfast.Orchestrator.ClaimGate
import Polyfast.Orchestrator.DiscoveryLoop
import Polyfast.MarketData.PTBTasks
import Polyfast.Orchestrator.RestartCounters
import Polyfast.Orchestrator.CloseCalls
import Polyfast.Orchestrator.ExitRuns
import Polyfast.Orchestrator.Orphans
import Polyfast.Orchestrator.Phantoms
import Polyfast.Persistence.PositionStore
import Polyfast.Orchestrator.StopStart
import Polyfast.Execution.ClobClientWrapper
import Polyfast.Orchestrator.OrderSubmission
import Polyfast.Orchestrator.EvaluationLoop
import Polyfast.Orchestrator.Dispatch
import Polyfast.Orchestrator.PauseGate
import Polyfast.Persistence.SaveTasks
import Polyfast.Orchestrator.SettleTurns
import Polyfast.Orchestrator.SettleDesk
import Polyfast.Orchestrator.DoubleCredit
import Polyfast.Orchestrator.FilledOnly
import Polyfast.Orchestrator.RedeemBound
import Polyfast.Orchestrator.ClaimFinality
import Polyfast.Orchestrator.NewPositions
import Polyfast.Orchestrator.BotControl
import Polyfast.Orchestrator.Degraded
import Polyfast.Api.Coin
import Polyfast.Orchestrator.EvaluationCycle
import Polyfast.MarketData.PriceUpdates
import Polyfast.MarketData.PriceFeed
import Polyfast.Orchestrator.SideFreshness
import Polyfast.Lib.Text
import Polyfast.AuthClients.CredentialStore
import Polyfast.Discovery.Models
import Polyfast.MarketData.Subscriptions
import Polyfast.Orchestrator.EligibilityGate
import Polyfast.Orchestrator.SubscriptionManager
import Polyfast.Orchestrator.EventChain
import Polyfast.Orchestrator.SettingsMirror
import Polyfast.MarketData.SafeSync
import Polyfast.MarketData.Restoration
import Polyfast.Orchestrator.OpenProtection
import Polyfast.Orchestrator.StaleBalance
import Polyfast.Execution.SdkSession
import Polyfast.Lib.Rewrite
import Polyfast.Logging.Filters
import Polyfast.Logging.Json
import Polyfast.Logging.Service
import Polyfast.Logging.Coverage
import Polyfast.Logging.Noninterference
import Polyfast.Lib.Sql
import Polyfast.Persistence.Records
import Polyfast.Persistence.Stores
import Polyfast.Persistence.RoundTrip
import Polyfast.Execution.NetValue
import Polyfast.Execution.PnlRegions
import Polyfast.Execution.JumpFilter
import Polyfast.Execution.BalanceFetch
import Polyfast.Orchestrator.TimeExit
import Polyfast.Orchestrator.TakeProfitRetry
import Polyfast.Orchestrator.TrackerHistory
import Polyfast.Orchestrator.FinalFields
import Polyfast.Api.CoinCalls
import Polyfast.MarketData.Expiry
import Polyfast.MarketData.SoftRemove
import Polyfast.Execution.ClaimCounts
import Polyfast.Api.Dashboard
import Polyfast.Orchestrator.ClaimSchedule
import Polyfast.Execution.MarketResolution
import Polyfast.Orchestrator.ApiSettlement
import Polyfast.MarketData.WsMessages
import Polyfast.MarketData.WsRouting
import Polyfast.MarketData.WsBatching
import Polyfast.Orchestrator.GammaSeed
import Polyfast.MarketData.CoinRounds
import Polyfast.Lib.Retry
import Polyfast.Lib.Paging
import Polyfast.AuthClients.BaseClient
import Polyfast.Orchestrator.ScanRetry
import Polyfast.Api.Credential
import Polyfast.Discovery.Engine
import Polyfast.Domain.StartupGuard
import Polyfast.MarketData.RtdsLoop
import Polyfast.Orchestrator.RtdsFeed
import Polyfast.MarketData.CoinMessages
import Polyfast.MarketData.PTBPages
import Polyfast.Orchestrator.Supervisor
import Polyfast.Persistence.Migrations
import Polyfast.MarketData.PTBSchedule
import Polyfast.Lib.Scan
import Polyfast.Logging.JsonReader
import Polyfast.Logging.LogLines
import Polyfast.Persistence.CredentialFile
import Polyfast.Persistence.PeriodicFlush
import Polyfast.Orchestrator.OrderPrices
import Polyfast.Orchestrator.OrderTokens
import Polyfast.Lib.Observe
import Polyfast.Api.CredentialViews
