import StrategyWorker.Library.TransitionSystem
import StrategyWorker.Library.StreamLog
import StrategyWorker.MarketData.XreadProgress
import StrategyWorker.MarketData.XreadgroupProgress
import StrategyWorker.Library.PyDateTime
import StrategyWorker.Library.PyText
import StrategyWorker.Historical.HistoricalData
import StrategyWorker.Domain.RuntimeState
import StrategyWorker.Historical.Driver
import StrategyWorker.Historical.DriverDelivery
import StrategyWorker.Historical.DriverProgress
import StrategyWorker.Bootstrap.EventMapper
import StrategyWorker.Application.PushReplay
import StrategyWorker.Application.ReplayWindow
import StrategyWorker.Bootstrap.ReplaySdkBridge
import StrategyWorker.Bootstrap.LookAhead
import StrategyWorker.Library.ThreadMachine
import StrategyWorker.Lifecycle.Machine
import StrategyWorker.Lifecycle.PhaseTransitions
import StrategyWorker.Lifecycle.StopOnce
import StrategyWorker.Lifecycle.Teardown
import StrategyWorker.Lifecycle.MainThread
import StrategyWorker.Lifecycle.WorkerLoop
import StrategyWorker.Lifecycle.Straight
import StrategyWorker.Lifecycle.Rollback
import StrategyWorker.Lifecycle.BootstrapOutcome
import StrategyWorker.Lifecycle.StopRetry
import StrategyWorker.Library.PyJson
import StrategyWorker.MarketData.StreamPayload
import StrategyWorker.Library.Logged
import StrategyWorker.MarketData.FeedLoop
import StrategyWorker.MarketData.AckAfterProcessing
import StrategyWorker.MarketData.PayloadSurvival
import StrategyWorker.MarketData.OutageSurvival
import StrategyWorker.Library.Sha256
import StrategyWorker.Library.PyJsonText
import StrategyWorker.Library.Admission
import StrategyWorker.Domain.Errors
import StrategyWorker.Events.EventEnvelope
import StrategyWorker.Events.Dedupe
import StrategyWorker.Events.EventFactory
import StrategyWorker.Events.EventId
import StrategyWorker.Integration.SignalPayload
import StrategyWorker.Integration.ManagerGateway
import StrategyWorker.Persistence.WorkerEvents
import StrategyWorker.Transport.LifecycleSignal
import StrategyWorker.Transport.SignalEncoding
import StrategyWorker.Transport.ReplayService
import StrategyWorker.Bootstrap.MarketFields
import StrategyWorker.Application.IngressTime
import StrategyWorker.Lifecycle.FinalStatus
import StrategyWorker.Library.MachineLayer
import StrategyWorker.Lifecycle.Background
import StrategyWorker.Lifecycle.StatusOrder
import StrategyWorker.Lifecycle.Aspects
import StrategyWorker.Lifecycle.StartupStop
import StrategyWorker.Lifecycle.Deliveries
import StrategyWorker.Lifecycle.HookExclusion
import StrategyWorker.Library.Calendar
import StrategyWorker.Library.IsoFormat
import StrategyWorker.Transport.OmsPayload
import StrategyWorker.Transport.OrderAudit
import StrategyWorker.Library.FieldErrors
import StrategyWorker.Library.PyJsonUnique
import StrategyWorker.Bootstrap.LaunchSpec
import StrategyWorker.Bootstrap.LaunchSpecValidator
import StrategyWorker.Domain.WorkerIdentity
import StrategyWorker.Application.Assignment
import StrategyWorker.Transport.WorkerControl
import StrategyWorker.Library.Assoc
import StrategyWorker.Transport.InternalAuth
import StrategyWorker.Transport.StopControl
import StrategyWorker.Library.KeyedTable
import StrategyWorker.Persistence.Repositories
import StrategyWorker.Persistence.RuntimeJournal
import StrategyWorker.Persistence.LifecycleReplay
import StrategyWorker.Bootstrap.Failures
import StrategyWorker.Bootstrap.BootstrapPersistence
import StrategyWorker.Bootstrap.AttemptOrder
import StrategyWorker.Library.Conversion
import StrategyWorker.Library.PyPath
import StrategyWorker.Library.PyDigits
import StrategyWorker.Bootstrap.BootstrapCalls
import StrategyWorker.Bootstrap.ArtifactFetcher
import StrategyWorker.Bootstrap.ArtifactVerifier
import StrategyWorker.Bootstrap.EntrypointLoader
import StrategyWorker.Bootstrap.SdkContractValidator
import StrategyWorker.Bootstrap.BootstrapPipeline
import StrategyWorker.Application.LaunchFailure
import StrategyWorker.Library.LockedCalls
import StrategyWorker.Persistence.JournalRecords
import StrategyWorker.Persistence.JournalRetry
import StrategyWorker.Bootstrap.RuntimeContext
import StrategyWorker.Library.SqlTables
import StrategyWorker.Persistence.Migrations
import StrategyWorker.Library.Crc32
import StrategyWorker.MarketData.StreamSubscription
import StrategyWorker.Library.FileTree
import StrategyWorker.Library.LoggedState
import StrategyWorker.Bootstrap.FileWorld
import StrategyWorker.Bootstrap.Disk
import StrategyWorker.Bootstrap.ZipContainment
import StrategyWorker.Bootstrap.FetchFrame
import StrategyWorker.Bootstrap.MaterializationDir
import StrategyWorker.Library.Framing
import StrategyWorker.Bootstrap.DigestStream
import StrategyWorker.Bootstrap.StillWorld
import StrategyWorker.Bootstrap.DigestIdentity
import StrategyWorker.Bootstrap.TreeDigest
import StrategyWorker.Bootstrap.LocalMaterialization
import StrategyWorker.Bootstrap.LoaderDigest
import StrategyWorker.Bootstrap.IndicatorService
import StrategyWorker.Bootstrap.MarketVisibility
import StrategyWorker.Bootstrap.AccountSnapshot
import StrategyWorker.Integration.PortfolioFeed
import StrategyWorker.MarketData.ConsumerGroup
import StrategyWorker.Library.LoggedPieces
import StrategyWorker.MarketData.StrategySymbol
import StrategyWorker.Library.FloatText
import StrategyWorker.Transport.OrderSubmission
import StrategyWorker.Application.BarSeries
import StrategyWorker.Bootstrap.MapperErrors
import StrategyWorker.Bootstrap.FieldAliases
import StrategyWorker.Bootstrap.BarQueries
import StrategyWorker.Persistence.LastHeartbeat
import StrategyWorker.Library.IsoOrder
import StrategyWorker.Library.PyJsonRead
import StrategyWorker.Library.SqlOrder
import StrategyWorker.Persistence.HeartbeatHistory
import StrategyWorker.Application.StopCheckpoint
import StrategyWorker.Transport.OrderJournal
import StrategyWorker.Application.OrderTime
import StrategyWorker.Library.LetterCase
import StrategyWorker.Lifecycle.StopReason
import StrategyWorker.Transport.ProtoTimestamps
import StrategyWorker.Application.FieldBuckets
import StrategyWorker.Library.ScopedVariable
import StrategyWorker.Transport.ErrorEnvelope
import StrategyWorker.Library.Uri
import StrategyWorker.Bootstrap.RegistryPaths
import StrategyWorker.Persistence.JournalTimes
import StrategyWorker.Library.Pattern
import StrategyWorker.Integration.RedisUrl
import StrategyWorker.Library.Decimal
import StrategyWorker.Domain.OrderIntent
import StrategyWorker.Bootstrap.ZipExactness
import StrategyWorker.Lifecycle.DeliveryWindow
import StrategyWorker.Library.FloatRoundTrip
import StrategyWorker.Library.PyJsonRoundTrip
import StrategyWorker.Library.PyObject
import StrategyWorker.Observability.DiagnosticEntry
import StrategyWorker.Observability.DiagnosticRecorder
import StrategyWorker.Persistence.InstanceStore
import StrategyWorker.Persistence.RepositoryRuns
import StrategyWorker.Transport.OrderChanges
import StrategyWorker.Application.StrategyInstances
import StrategyWorker.Transport.HeartbeatSignal
import StrategyWorker.Transport.ManagerClient
