import StrategyWorker.Domain.RuntimeState
import StrategyWorker.Library.ThreadMachine

/-!
# What the lifecycle service does, operation by operation

{lit}`lifecycle_service.py`, {lit}`cooperative_shutdown.py`,
{lit}`worker_control_application.py` and {lit}`worker_app.py` run on several
threads over the fields of one {lit}`LifecycleService`.  Here their bodies are
lists of operations: a read with the branch it decides, the write of a flag, or
a call of a collaborator, which may raise and may have had its effect outside
before it does.

Log lines and printed messages are left out, and so are reason codes and
messages, which no branch depends on.
-/

namespace StrategyWorker
namespace Lifecycle

open Domain

/-! ## The worker and its collaborators -/

/-- What {lit}`_close_downstream_clients` finds on a candidate. -/
inductive CloseMethod where
  | close
  | shutdown
  | absent
  deriving DecidableEq, Repr

/-- Which collaborators a service was constructed with. -/
structure Wiring where
  mode : RuntimeMode
  strategyInstanceManager : Bool
  workAcceptor : Bool
  periodicJobs : Bool
  diagnosticFlusher : Bool
  closeables : List CloseMethod
  onStep : Bool
  stateJournal : Bool
  /-- {lit}`worker_runtime_settings` with a {lit}`strategy_runtime_manager_base_url`. -/
  srmBaseUrl : Bool
  /-- The dependencies come with a {lit}`replay` gateway. -/
  replayGateway : Bool
  deriving DecidableEq, Repr

inductive StartupStep where
  | validateLaunchMetadata
  | bindObservabilityContext
  | resolveArtifactAndEntrypoint
  | validateSdkContract
  | initializeRuntimeDependencies
  | initializeStrategyInstanceCoordinator
  | emitWorkerBootstrapReadySignal
  | emitInitialSrmHeartbeat
  | startHeartbeatPeriodicJobs
  deriving DecidableEq, Repr

inductive ShutdownStep where
  | stopLiveMarketDataRedisFeed
  | stopPortfolioUpdateRedisFeed
  | stopHistoricalBacktestFeed
  | stopHeartbeatPeriodicJobs
  | stopAcceptingNewWork
  | stopStrategyLoop
  | flushDiagnostics
  | closeDownstreamClients
  | emitWorkerShutdownSignal
  deriving DecidableEq, Repr

inductive Feed where
  | historicalBacktest
  | liveMarketData
  | portfolioUpdate
  deriving DecidableEq, Repr

/-- The calls of collaborators, each of which may raise. -/
inductive Call where
  -- the body of `start`
  | recordStartupStep (step : StartupStep)
  | validateLaunch
  | bindLogger
  | runBootstrapPipeline
  | initializeDependencies
  | initializeStrategyCoordinator
  | bindAndStart
  | emitBootstrapSucceeded
  | reportBootstrapSuccess
  | emitHeartbeat
  | startPeriodicJobs
  -- `_set_phase`
  | emitFailedStatus
  | recordPhaseChange (previous phase : WorkerPhase)
  -- `_rollback_partial_startup`
  | recordLaunchFailed
  | stopStrategy
  | closeClient (i : Nat)
  | reinitializeDependencies
  | reportBootstrapFailure
  | emitBootstrapFailed
  -- `run`
  | startFeed (feed : Feed)
  -- the body of `stop`
  | recordShutdownStep (step : ShutdownStep)
  | stopFeed (feed : Feed)
  | stopPeriodicJobs
  | stopAcceptingNewWork
  | flushDiagnostics
  | emitTerminated
  | reportFinalShutdown
  -- stop requests
  | recordManagerStopRequest
  | postStopping
  -- ingest
  | initializeReplayDependencies
  | recordFirstData
  | ingestReplayTick
  deriving DecidableEq, Repr

/-- Whether a raised exception is a {lit}`BootstrapFailure`. -/
inductive ErrorKind where
  | bootstrapFailure
  | other
  deriving DecidableEq, Repr

/-- What a collaborator does with a call: whether its effect outside took place, and the
exception it raised, if any. -/
structure Outcome where
  delivered : Bool
  error : Option ErrorKind
  deriving DecidableEq, Repr

/-- A call that does what it should. -/
def Outcome.ok : Outcome :=
  ⟨true, none⟩

/-- Exceptions, with the call they come from. -/
inductive Error where
  | raisedBy (call : Call) (kind : ErrorKind)
  /-- A stop request without a configured {lit}`STRATEGY_RUNTIME_MANAGER_BASE_URL`. -/
  | notConfigured
  | workerAlreadyStopped
  | stopAlreadyInProgress
  | keyboardInterrupt
  /-- Raised by {lit}`on_event` out of the strategy adapter. -/
  | strategyCallback
  deriving DecidableEq, Repr

/-- {lit}`isinstance(error, BootstrapFailure)`. -/
def Error.isBootstrapFailure : Error → Bool
  | raisedBy _ .bootstrapFailure => true
  | _ => false

/-- {lit}`except Exception` catches everything but an interrupt. -/
def Error.isException : Error → Bool
  | keyboardInterrupt => false
  | _ => true

/-- Where an event comes from that reaches the strategy. -/
inductive Source where
  | pushReplayContext
  | liveTick
  | historicalBar
  deriving DecidableEq, Repr

/-- The arguments of {lit}`stop` that its branches depend on. -/
structure StopArgs where
  emitTerminationSignal : Bool
  terminationReasonCode : Option String
  deriving DecidableEq, Repr

/-- What a run leaves behind. -/
inductive Event where
  /-- {lit}`self._phase = phase`, with the previous phase that {lit}`_set_phase` read. -/
  | phaseSet (previous phase : WorkerPhase)
  | startupStep (step : StartupStep)
  | shutdownStep (step : ShutdownStep)
  /-- A collaborator was called; {lit}`delivered` tells whether its effect took place. -/
  | called (call : Call) (delivered : Bool)
  /-- The source came to the call and its own condition left it out. -/
  | skipped (call : Call)
  /-- {lit}`stop` went past its {lit}`_shutdown_complete` guard. -/
  | stopEntered (args : StopArgs)
  /-- {lit}`stop` set {lit}`_shutdown_complete`. -/
  | stopCompleted
  /-- {lit}`on_event` of the adapter was called, with the flags of that moment. -/
  | callback (source : Source) (shutdownInProgress : Bool) (phase : WorkerPhase)
  /-- An event was counted as consumed; {lit}`handed` tells whether an adapter got it. -/
  | consumed (handed : Bool)
  | responded (consumedCount : Nat)
  deriving DecidableEq, Repr

/-- The fields of the service and of the coordinator that the threads share. -/
structure Service where
  phase : WorkerPhase
  started : Bool
  shutdownComplete : Bool
  shutdownInProgress : Bool
  stopRequestAccepted : Bool
  /-- {lit}`_stop_initiate_lock` is held. -/
  stopInitiateLock : Bool
  /-- {lit}`_shutdown_thread_started` of the coordinator. -/
  shutdownThreadStarted : Bool
  /-- {lit}`handler_invoked` of the installed SIGTERM handler. -/
  handlerInvoked : Bool
  /-- {lit}`_runtime_dependencies is not None`. -/
  runtimeDependencies : Bool
  /-- {lit}`_strategy_adapter is not None`. -/
  strategyAdapter : Bool
  firstDataReceived : Bool
  /-- {lit}`_first_data_marked` of the replay gateway. -/
  firstDataMarked : Bool
  backtestReplayComplete : Bool
  hdsFeedStop : Bool
  log : List Event
  deriving DecidableEq, Repr

/-- The service as its constructor leaves it. -/
def Service.new : Service where
  phase := .initializing
  started := false
  shutdownComplete := false
  shutdownInProgress := false
  stopRequestAccepted := false
  stopInitiateLock := false
  shutdownThreadStarted := false
  handlerInvoked := false
  runtimeDependencies := false
  strategyAdapter := false
  firstDataReceived := false
  firstDataMarked := false
  backtestReplayComplete := false
  hdsFeedStop := false
  log := []

/-- The state with one more event in its log. -/
def Service.note (s : Service) (e : Event) : Service :=
  { s with log := s.log ++ [e] }

/-! ## Operations -/

/-- Plain assignments to fields. -/
inductive Assign where
  | started (value : Bool)
  | shutdownComplete (value : Bool)
  | shutdownInProgress
  | stopRequestAccepted
  deriving DecidableEq, Repr

/-- The reads of {lit}`should_stop_for_completed_backtest_job`, in order. -/
inductive JobRead where
  | shutdownComplete
  | shutdownInProgress
  | backtestReplayComplete
  | phase
  deriving DecidableEq, Repr

/-- The operations of the ingest paths. -/
inductive Ingest where
  /-- {lit}`push_replay_context` with its accepted events, after it has its dependencies. -/
  | pushReplay (accepted : Nat) (endOfStream : Bool)
  /-- Reads {lit}`_strategy_adapter` for one event. -/
  | pushEvent
  | pushConsumed (handed : Bool)
  | pushDone (consumed : Nat) (endOfStream : Bool)
  /-- {lit}`_dispatch_paper_live_tick` reads four fields one after the other. -/
  | liveTick
  | livePhase
  | liveAdapter
  | liveFirstData
  /-- The historical driver checks the state once, with the pages that are to come, … -/
  | driver (pages : List Nat)
  /-- … before each page of bars … -/
  | driverPage (pages : List Nat)
  /-- … and before each bar. -/
  | driverBars (bars : Nat) (pages : List Nat)
  /-- {lit}`ingest_replay_tick` of the gateway. -/
  | gatewayTick
  | gatewayMarked
  /-- {lit}`mark_first_data_received`. -/
  | markFirstData
  /-- {lit}`on_event` of the adapter. -/
  | startCallback (source : Source)
  deriving DecidableEq, Repr

/-- One operation of a thread. -/
inductive Op where
  /-- {lit}`if self._started: return`. -/
  | startGuard
  /-- {lit}`if self._shutdown_complete: return False`. -/
  | stopGuard (args : StopArgs)
  | stopReturn
  /-- {lit}`if self._phase is WorkerPhase.READY` in {lit}`run`. -/
  | runReady
  /-- {lit}`previous = self._phase` of {lit}`_set_phase`. -/
  | setPhase (phase : WorkerPhase)
  | writePhase (previous phase : WorkerPhase)
  | recordStartup (step : StartupStep)
  | recordShutdown (step : ShutdownStep)
  | call (c : Call)
  | assign (a : Assign)
  | raise (e : Error)
  -- `initiate_stop_from_request`
  | requireBaseUrl
  | acquireStopLock
  | checkStopped
  | checkAccepted
  | releaseStopLock
  -- the coordinator and the signal handler
  | sigtermOnce
  | ensureShutdownThread
  -- `WorkerApp.run`: `first` tells which of its two loops reads
  | loopPhase (first : Bool)
  | loopFirstData
  | shouldStop (first : Bool) (read : JobRead)
  | sleep (first : Bool)
  | interrupted
  -- ends of `try` blocks
  | exceptStart
  | exceptRun
  | exceptInterrupt
  | exceptSigterm
  | exceptShutdownThread
  | ingest (i : Ingest)
  deriving DecidableEq, Repr

/-! ## Bodies -/

/-- {lit}`_close_downstream_clients`. -/
def closeDownstreamClients (w : Wiring) : List Op :=
  (List.range w.closeables.length).map fun i => .call (.closeClient i)

/-- {lit}`start` after its guard, up to the end of its {lit}`try` block. -/
def startBody : List Op :=
  [.recordStartup .validateLaunchMetadata,
    .call .validateLaunch,
    .recordStartup .bindObservabilityContext,
    .call .bindLogger,
    .recordStartup .resolveArtifactAndEntrypoint,
    .call .runBootstrapPipeline,
    .recordStartup .validateSdkContract,
    .recordStartup .initializeRuntimeDependencies,
    .call .initializeDependencies,
    .recordStartup .initializeStrategyInstanceCoordinator,
    .call .initializeStrategyCoordinator,
    .call .bindAndStart,
    .recordStartup .emitWorkerBootstrapReadySignal,
    .call .emitBootstrapSucceeded,
    .call .reportBootstrapSuccess,
    .setPhase .ready,
    .assign (.started true),
    .assign (.shutdownComplete false),
    .recordStartup .emitInitialSrmHeartbeat,
    .call .emitHeartbeat,
    .recordStartup .startHeartbeatPeriodicJobs,
    .call .startPeriodicJobs]

/-- {lit}`_rollback_partial_startup`. -/
def rollbackPartialStartup (w : Wiring) (error : Error) : List Op :=
  [.call .recordLaunchFailed, .call .stopStrategy] ++ closeDownstreamClients w ++
    [.call .reinitializeDependencies,
      if error.isBootstrapFailure then .call .reportBootstrapFailure
      else .call .emitBootstrapFailed,
      .assign (.started false),
      .assign (.shutdownComplete false)]

/-- The {lit}`except Exception` block of {lit}`start`. -/
def startFailed (w : Wiring) (error : Error) : List Op :=
  .setPhase .failed :: (rollbackPartialStartup w error ++ [.raise error])

/-- The phase in which {lit}`stop` ends. -/
def finalPhase (w : Wiring) (args : StopArgs) : WorkerPhase :=
  if args.terminationReasonCode = some "RUNTIME_JOB_COMPLETED" ∧ w.mode = .backtest then
    .completed
  else .stopped

/-- {lit}`stop` up to {lit}`_close_downstream_clients`. -/
def stopWork : List Op :=
  [.assign .shutdownInProgress,
    .recordShutdown .stopLiveMarketDataRedisFeed,
    .call (.stopFeed .liveMarketData),
    .recordShutdown .stopPortfolioUpdateRedisFeed,
    .call (.stopFeed .portfolioUpdate),
    .recordShutdown .stopHistoricalBacktestFeed,
    .call (.stopFeed .historicalBacktest),
    .recordShutdown .stopHeartbeatPeriodicJobs,
    .call .stopPeriodicJobs,
    .setPhase .stopping,
    .recordShutdown .stopAcceptingNewWork,
    .call .stopAcceptingNewWork,
    .recordShutdown .stopStrategyLoop,
    .call .stopStrategy,
    .recordShutdown .flushDiagnostics,
    .call .flushDiagnostics,
    .recordShutdown .closeDownstreamClients]

/-- {lit}`stop` from the final signal on. -/
def stopReport (w : Wiring) (args : StopArgs) : List Op :=
  [.recordShutdown .emitWorkerShutdownSignal] ++
  (if args.emitTerminationSignal then [.call .emitTerminated] else []) ++
  [.setPhase (finalPhase w args),
    .call .reportFinalShutdown,
    .assign (.shutdownComplete true),
    .assign (.started false),
    .stopReturn]

/-- {lit}`stop` after its guard. -/
def stopBody (w : Wiring) (args : StopArgs) : List Op :=
  stopWork ++ closeDownstreamClients w ++ stopReport w args

/-- {lit}`_set_phase` after it read the previous phase. -/
def setPhaseBody (previous phase : WorkerPhase) : List Op :=
  [.writePhase previous phase] ++
    (if phase = .failed then [.call .emitFailedStatus] else []) ++
    [.call (.recordPhaseChange previous phase)]

/-- {lit}`run` in a {lit}`READY` worker. -/
def runReadyBody : List Op :=
  [.setPhase .running,
    .call .emitHeartbeat,
    .call (.startFeed .historicalBacktest),
    .call (.startFeed .liveMarketData),
    .call (.startFeed .portfolioUpdate)]

/-- {lit}`initiate_stop_from_request`. -/
def initiateStopFromRequest : List Op :=
  [.requireBaseUrl,
    .acquireStopLock,
    .checkStopped,
    .checkAccepted,
    .call .postStopping,
    .assign .stopRequestAccepted,
    .assign .shutdownInProgress,
    .releaseStopLock]

/-- The arguments of the stop on the coordinator's thread. -/
def shutdownThreadArgs : StopArgs :=
  ⟨false, none⟩

/-- {lit}`_run_shutdown` of the coordinator. -/
def runShutdown : List Op :=
  [.stopGuard shutdownThreadArgs, .exceptShutdownThread]

/-- The arguments of the stop for a completed backtest job. -/
def jobCompletedArgs : StopArgs :=
  ⟨true, some "RUNTIME_JOB_COMPLETED"⟩

/-- The arguments of the stop after {lit}`Ctrl+C`. -/
def interruptedArgs : StopArgs :=
  ⟨true, some "MANUAL_STOP_REQUESTED"⟩

/-- The arguments of the stop for a {lit}`StopWorker` call. -/
def stopWorkerArgs : StopArgs :=
  ⟨false, some "STOP_REQUESTED"⟩

/-- {lit}`LifecycleService.run`. -/
def runBody : List Op :=
  [.startGuard, .runReady]

/-- {lit}`WorkerApp.run`. -/
def workerAppRun : List Op :=
  runBody ++ [.exceptRun, .exceptInterrupt]

/-- {lit}`POST /internal/v1/stop` through the coordinator. -/
def requestHttpStop : List Op :=
  initiateStopFromRequest ++ [.ensureShutdownThread]

/-- {lit}`request_sigterm_shutdown` of the coordinator. -/
def requestSigtermShutdown : List Op :=
  initiateStopFromRequest ++ [.exceptSigterm]

/-- {lit}`stop_worker` of the control application, for a command to this worker. -/
def stopWorker : List Op :=
  .call .recordManagerStopRequest :: (initiateStopFromRequest ++ [.stopGuard stopWorkerArgs])

end Lifecycle
end StrategyWorker
