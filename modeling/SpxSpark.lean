import SpxSpark.Lib.Transaction
import SpxSpark.Lib.Table
import SpxSpark.Lib.Run
import SpxSpark.Lib.Path
import SpxSpark.Domain.Validation
import SpxSpark.Domain.Delivery
import SpxSpark.Domain.OperatorNotification
import SpxSpark.Domain.Market
import SpxSpark.Domain.Strategy
import SpxSpark.Ledger.Model
import SpxSpark.Ledger.Schema
import SpxSpark.Ledger.Receipt
import SpxSpark.Ledger.Ownership
import SpxSpark.Ledger.IngressDecision
import SpxSpark.Ledger.Delivery
import SpxSpark.Ledger.Settlement
import SpxSpark.Ledger.Operator
import SpxSpark.Ledger.Outbox
import SpxSpark.Ledger.Statements
import SpxSpark.Ledger.Publish
import SpxSpark.Ledger.Notifications
import SpxSpark.Ledger.Transport
import SpxSpark.Ledger.Replay
import SpxSpark.Ledger.Runs
import SpxSpark.Ledger.Fencing
import SpxSpark.Ledger.Lifecycle
import SpxSpark.Ledger.Cancellation
import SpxSpark.Ledger.StateMachine
import SpxSpark.Ledger.Supersession
import SpxSpark.Lib.Window
import SpxSpark.Lib.Effect
import SpxSpark.Lib.Slot
import SpxSpark.Lib.Text
import SpxSpark.Lib.Calendar
import SpxSpark.Lib.Lines
import SpxSpark.Lib.Clock
import SpxSpark.Lib.Grouping
import SpxSpark.Domain.Ingress
import SpxSpark.Ledger.Targets
import SpxSpark.Ledger.Audit
import SpxSpark.Core.QuoteBook
import SpxSpark.Core.QuoteRetention
import SpxSpark.Core.Snapshot
import SpxSpark.Core.QuoteReplay
import SpxSpark.Core.Readiness
import SpxSpark.Core.Evaluation
import SpxSpark.Infrastructure.ArchiveRuns
import SpxSpark.Core.RawLog
import SpxSpark.Core.FrameRecords
import SpxSpark.Core.RawLogIntegrity
import SpxSpark.Core.RawLogSegments
import SpxSpark.Core.FrameArchive
import SpxSpark.Core.ArchiveRoundTrip
import SpxSpark.Core.PruneSelection
import SpxSpark.Core.Prune
import SpxSpark.Bridge.State
import SpxSpark.Bridge.Runtime
import SpxSpark.Bridge.Protocol
import SpxSpark.Bridge.Agreement
import SpxSpark.Delivery.Render
import SpxSpark.Delivery.CompactBody
import SpxSpark.Delivery.SectionAgreement
import SpxSpark.OrderMap.LevelDecision
import SpxSpark.OrderMap.LevelSteps
import SpxSpark.OrderMap.Reentry
import SpxSpark.OrderMap.RearmGuard
import SpxSpark.OrderMap.LevelEvidence
import SpxSpark.OrderMap.LevelConfirmation
import SpxSpark.MarketFeatures.EsBarState
import SpxSpark.MarketFeatures.EsBarGrouping
import SpxSpark.Lib.Arrays
import SpxSpark.Options.ManagementPolicy
import SpxSpark.Options.PolicyBatch
import SpxSpark.Options.BatchReplay
import SpxSpark.DataPlatform.CompactionRuns
import SpxSpark.Ibkr.AtmRestart
import SpxSpark.Ibkr.CollectorRuns
import SpxSpark.Ibkr.ConflictLatch
import SpxSpark.MarketFeatures.ProducerLedgerRuns
import SpxSpark.MarketFeatures.VirtualSignalRun
import SpxSpark.Notifications.CancellationFence
import SpxSpark.Notifications.StartupRecovery
import SpxSpark.Notifications.TerminalOutcomes
import SpxSpark.Notifier.SentRuns
import SpxSpark.OrderMap.CoordinateUpgrade
import SpxSpark.Providers.EntryGate
import SpxSpark.Providers.QuotaMachine
import SpxSpark.Ibkr.ConIdCacheFile
import SpxSpark.Ibkr.ConIdCacheRuns
import SpxSpark.Storage.MergeOrder
import SpxSpark.Storage.LatestState
import SpxSpark.Storage.Ageing
import SpxSpark.Storage.BestQuotes
import SpxSpark.Storage.LatestRuns
import SpxSpark.Storage.QuoteUse
import SpxSpark.Ibkr.QuoteDemandAtRisk
import SpxSpark.GlobexTrend.TrendRuns
import SpxSpark.GlobexTrend.AdvisoryRuns
import SpxSpark.GlobexTrend.Machine
import SpxSpark.TradeCandidate.CandidateRuns
import SpxSpark.Options.StructurePayoff
import SpxSpark.Ibkr.CapacityTracker
import SpxSpark.Ibkr.ReconnectBackoff
import SpxSpark.Schwab.GatewayRetries
import SpxSpark.Ibkr.ContinuityRuns
import SpxSpark.Ibkr.FarmHealthRuns
import SpxSpark.Ibkr.OptionReplanRuns
import SpxSpark.Ibkr.SubscriptionPlan
import SpxSpark.OrderMap.StableStructureRuns
import SpxSpark.MarketCalendar.Agreement
import SpxSpark.Shock.PathSummary
import SpxSpark.OrderMap.BreakWatch
import SpxSpark.OrderMap.PinAssessment
import SpxSpark.OrderMap.LevelLife
import SpxSpark.Core.ProviderOrder
import SpxSpark.Notifications.DueScan
