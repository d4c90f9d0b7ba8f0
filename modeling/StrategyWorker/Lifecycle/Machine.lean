import StrategyWorker.Lifecycle.Operations

/-!
# The threads of a worker

How each operation executes, which operations end a {lit}`try` block, and the
systems whose runs the lifecycle results speak about: {lit}`serviceSystem`, the
service under any requests to its methods, and {lit}`workerSystem`, the process
whose main thread is {lit}`WorkerApp.run`.

Main results:

- Theorem {lit}`exec_flags`: only {lit}`_set_phase` writes the phase, and only
  assignments write the other flags.
- Theorem {lit}`exec_shutdownInProgress`: the shutdown flag is never released.
- Theorem {lit}`exec_log`: what each operation adds to the log.
-/

namespace StrategyWorker
namespace Lifecycle

open Domain Library
open ThreadMachine (weigh total)

/-! ## Calls -/

/-- Whether the source gets as far as the collaborator. -/
def applies (w : Wiring) (s : Service) : Call → Bool
  | .recordStartupStep _ => w.stateJournal || w.onStep
  | .recordShutdownStep _ => w.stateJournal || w.onStep
  | .initializeStrategyCoordinator => w.strategyInstanceManager
  | .bindAndStart => s.strategyAdapter
  | .emitBootstrapSucceeded => s.runtimeDependencies
  | .reportBootstrapSuccess => w.srmBaseUrl
  | .emitHeartbeat =>
      !s.shutdownInProgress && s.runtimeDependencies &&
        (s.phase == .ready || s.phase == .running)
  | .startPeriodicJobs => w.periodicJobs
  | .emitFailedStatus => !s.shutdownInProgress && s.runtimeDependencies
  | .recordPhaseChange _ _ => w.stateJournal
  | .recordLaunchFailed => w.stateJournal
  | .stopStrategy => w.strategyInstanceManager && s.strategyAdapter
  | .closeClient i => w.closeables[i]?.any (· ≠ .absent)
  | .reinitializeDependencies => !s.runtimeDependencies
  | .reportBootstrapFailure => w.srmBaseUrl
  | .emitBootstrapFailed => s.runtimeDependencies
  | .stopPeriodicJobs => w.periodicJobs
  | .stopAcceptingNewWork => w.workAcceptor
  | .flushDiagnostics => w.diagnosticFlusher
  | .emitTerminated => s.runtimeDependencies
  | .reportFinalShutdown => w.srmBaseUrl
  | .recordManagerStopRequest => w.stateJournal
  | .initializeReplayDependencies => !s.runtimeDependencies
  | .recordFirstData => w.stateJournal
  | .validateLaunch | .bindLogger | .runBootstrapPipeline | .initializeDependencies
  | .startFeed _ | .stopFeed _ | .postStopping | .ingestReplayTick => true

/-- Whether the call stands in a {lit}`try` block of its own that drops the exception. -/
def swallowed : Call → Bool
  | .reportBootstrapSuccess | .emitFailedStatus | .reinitializeDependencies
  | .reportBootstrapFailure | .emitBootstrapFailed | .reportFinalShutdown => true
  | _ => false

/-- What the service assigns when the call has returned. -/
def Service.succeed (s : Service) : Call → Service
  | .initializeDependencies => { s with runtimeDependencies := true }
  | .reinitializeDependencies => { s with runtimeDependencies := true }
  | .initializeReplayDependencies => { s with runtimeDependencies := true }
  | .initializeStrategyCoordinator => { s with strategyAdapter := true }
  | .stopStrategy => { s with strategyAdapter := false }
  | .startFeed .historicalBacktest => { s with hdsFeedStop := false }
  | .stopFeed .historicalBacktest => { s with hdsFeedStop := true }
  | _ => s

abbrev LifecycleEffect := Effect Service Op Error

/-- A call of a collaborator. -/
def execCall (w : Wiring) (s : Service) (c : Call) (out : Outcome) : LifecycleEffect :=
  if applies w s c then
    match out.error with
    | none => .next ((s.note (.called c out.delivered)).succeed c) [] []
    | some kind =>
        if swallowed c then .next (s.note (.called c out.delivered)) [] []
        else .raise (s.note (.called c out.delivered)) (.raisedBy c kind)
  else .next (s.note (.skipped c)) [] []

def Service.assign (s : Service) : Assign → Service
  | .started value => { s with started := value }
  | .shutdownComplete true => { s with shutdownComplete := true }.note .stopCompleted
  | .shutdownComplete false => { s with shutdownComplete := false }
  | .shutdownInProgress => { s with shutdownInProgress := true }
  | .stopRequestAccepted => { s with stopRequestAccepted := true }

/-- One read of {lit}`should_stop_for_completed_backtest_job`; {lit}`none` when it decides
for {lit}`False`. -/
def JobRead.next (w : Wiring) (s : Service) : JobRead → Option (Option JobRead)
  | .shutdownComplete => if s.shutdownComplete then none else some (some .shutdownInProgress)
  | .shutdownInProgress =>
      if s.shutdownInProgress then none
      else if w.mode ≠ .backtest then none
      else some (some .backtestReplayComplete)
  | .backtestReplayComplete => if s.backtestReplayComplete then some (some .phase) else none
  | .phase => if s.phase = .ready ∨ s.phase = .running then some none else none

/-! ## Ingest -/

/-- {lit}`ingest_replay_tick` of the gateway with the bound {lit}`on_event`, if any. -/
def gatewayIngest (source : Option Source) : List Op :=
  [.ingest .gatewayTick, .call .ingestReplayTick] ++
    match source with
    | none => []
    | some source => [.ingest (.startCallback source)]

/-- The operations of the ingest paths. -/
def execIngest (w : Wiring) (s : Service) (out : Outcome) : Ingest → LifecycleEffect
  | .pushReplay accepted endOfStream =>
      if !w.replayGateway || w.mode == .backtest && s.backtestReplayComplete then
        .next (s.note (.responded 0)) [] []
      else
        .next s (List.replicate accepted (.ingest .pushEvent) ++
          [.ingest (.pushDone accepted endOfStream)]) []
  | .pushEvent =>
      if s.strategyAdapter then
        .next s (gatewayIngest (some .pushReplayContext) ++ [.ingest (.pushConsumed true)]) []
      else .next s (gatewayIngest none ++ [.ingest (.pushConsumed false)]) []
  | .pushConsumed handed => .next (s.note (.consumed handed)) [] []
  | .pushDone consumed endOfStream =>
      if w.mode == .backtest && endOfStream then
        .next ({ s with backtestReplayComplete := true }.note (.responded consumed)) [] []
      else .next (s.note (.responded consumed)) [] []
  | .liveTick => if s.shutdownInProgress then .next s [] [] else .next s [.ingest .livePhase] []
  | .livePhase =>
      if s.phase = .ready ∨ s.phase = .running then .next s [.ingest .liveAdapter] []
      else .next s [] []
  | .liveAdapter =>
      if s.strategyAdapter then
        .next s [.ingest .liveFirstData, .ingest (.startCallback .liveTick)] []
      else .next s [] []
  | .liveFirstData =>
      if s.firstDataReceived then .next s [] [] else .next s [.ingest .markFirstData] []
  | .driver pages =>
      if s.hdsFeedStop || s.shutdownInProgress || !(s.phase == .ready || s.phase == .running) ||
          !w.replayGateway || !s.strategyAdapter then .next s [] []
      else .next s [.ingest (.driverPage pages)] []
  | .driverPage [] =>
      if w.mode = .backtest then .next { s with backtestReplayComplete := true } [] []
      else .next s [] []
  | .driverPage (bars :: pages) =>
      if s.hdsFeedStop || s.shutdownInProgress || !(s.phase == .ready || s.phase == .running) then
        .next s [] []
      else .next s [.ingest (.driverBars bars pages)] []
  | .driverBars 0 pages => .next s [.ingest (.driverPage pages)] []
  | .driverBars (bars + 1) pages =>
      if s.hdsFeedStop || s.shutdownInProgress then .next s [] []
      else
        .next s (gatewayIngest (some .historicalBar) ++ [.ingest (.driverBars bars pages)]) []
  | .gatewayTick =>
      if s.firstDataMarked then .next s [] []
      else .next s [.ingest .markFirstData, .ingest .gatewayMarked] []
  | .gatewayMarked => .next { s with firstDataMarked := true } [] []
  | .markFirstData => .next { s with firstDataReceived := true } [.call .recordFirstData] []
  | .startCallback source =>
      match out.error with
      | none => .next (s.note (.callback source s.shutdownInProgress s.phase)) [] []
      | some _ =>
          .raise (s.note (.callback source s.shutdownInProgress s.phase)) .strategyCallback

/-! ## Every operation -/

/-- How an operation executes; only taking the lock may have to wait. -/
def exec (w : Wiring) (s : Service) : Op → Outcome → Option LifecycleEffect
  | .startGuard, _ =>
      if s.started then some (.next s [] []) else some (.next s (startBody ++ [.exceptStart]) [])
  | .stopGuard args, _ =>
      if s.shutdownComplete then some (.next s [] [])
      else some (.next (s.note (.stopEntered args)) (stopBody w args) [])
  | .stopReturn, _ => some (.next s [] [])
  | .runReady, _ =>
      if s.phase = .ready then some (.next s runReadyBody []) else some (.next s [] [])
  | .setPhase phase, _ => some (.next s (setPhaseBody s.phase phase) [])
  | .writePhase previous phase, _ =>
      some (.next ({ s with phase := phase }.note (.phaseSet previous phase)) [] [])
  | .recordStartup step, _ =>
      some (.next (s.note (.startupStep step)) [.call (.recordStartupStep step)] [])
  | .recordShutdown step, _ =>
      some (.next (s.note (.shutdownStep step)) [.call (.recordShutdownStep step)] [])
  | .call c, out => some (execCall w s c out)
  | .assign a, _ => some (.next (s.assign a) [] [])
  | .raise e, _ => some (.raise s e)
  | .requireBaseUrl, _ =>
      if w.srmBaseUrl then some (.next s [] []) else some (.raise s .notConfigured)
  | .acquireStopLock, _ =>
      if s.stopInitiateLock then none else some (.next { s with stopInitiateLock := true } [] [])
  | .checkStopped, _ =>
      if s.shutdownComplete then some (.raise s .workerAlreadyStopped) else some (.next s [] [])
  | .checkAccepted, _ =>
      if s.stopRequestAccepted || s.shutdownInProgress then
        some (.raise s .stopAlreadyInProgress)
      else some (.next s [] [])
  | .releaseStopLock, _ => some (.next { s with stopInitiateLock := false } [] [])
  | .sigtermOnce, _ =>
      if s.handlerInvoked then some (.next s [] [])
      else some (.next { s with handlerInvoked := true } requestSigtermShutdown [])
  | .ensureShutdownThread, _ =>
      if s.shutdownThreadStarted then some (.next s [] [])
      else some (.next { s with shutdownThreadStarted := true } [] [runShutdown])
  | .loopPhase true, _ =>
      if s.phase = .ready ∨ s.phase = .running then some (.next s [.loopFirstData] [])
      else some (.next s [.loopPhase false] [])
  | .loopPhase false, _ =>
      if s.phase = .ready ∨ s.phase = .running ∨ s.phase = .failed then
        some (.next s [.shouldStop false .shutdownComplete] [])
      else some (.next s [] [])
  | .loopFirstData, _ =>
      if s.firstDataReceived then some (.next s [.loopPhase false] [])
      else some (.next s [.shouldStop true .shutdownComplete] [])
  | .shouldStop first read, _ =>
      match read.next w s with
      | none => some (.next s [.sleep first] [])
      | some (some read) => some (.next s [.shouldStop first read] [])
      | some none => some (.next s [.stopGuard jobCompletedArgs] [])
  | .sleep first, out =>
      match out.error with
      | none => some (.next s [.loopPhase first] [])
      | some _ => some (.raise s .keyboardInterrupt)
  | .interrupted, _ =>
      if s.phase = .stopped ∨ s.phase = .completed then some (.next s [] [])
      else some (.next s [.stopGuard interruptedArgs] [])
  | .exceptRun, _ => some (.next s [.loopPhase true] [])
  | .exceptSigterm, _ => some (.next s [.ensureShutdownThread] [])
  | .exceptStart, _ => some (.next s [] [])
  | .exceptInterrupt, _ => some (.next s [] [])
  | .exceptShutdownThread, _ => some (.next s [] [])
  | .ingest i, out => some (execIngest w s out i)

/-- The {lit}`except` and {lit}`with` blocks that an error runs into. -/
def handler (w : Wiring) : Op → Error → Option (List Op)
  | .exceptStart, e => if e.isException then some (startFailed w e) else none
  | .exceptRun, e => if e.isException then some [.loopPhase false] else none
  | .exceptInterrupt, .keyboardInterrupt => some [.interrupted]
  | .exceptSigterm, .workerAlreadyStopped => some []
  | .exceptSigterm, e => if e.isException then some [.ensureShutdownThread] else none
  | .exceptShutdownThread, e => if e.isException then some [] else none
  | .releaseStopLock, e => some [.releaseStopLock, .raise e]
  | _, _ => none

/-- The threads of a worker as a machine. -/
def machine (w : Wiring) : ThreadMachine Service Op Error Outcome where
  exec := exec w
  handler := handler w

/-! ## Requests -/

/-- What can be asked of a worker from outside its own threads. -/
inductive Request where
  /-- {lit}`POST /internal/v1/stop`. -/
  | httpStop
  | sigterm
  /-- {lit}`StopWorker` for this worker. -/
  | stopWorker
  | pushReplayContext (accepted : Nat) (endOfStream : Bool)
  | liveTick
  /-- The thread of the historical driver, with the pages that the data service holds. -/
  | historicalDriver (pages : List Nat)
  -- calls of the methods of the service
  | start
  | run
  | stop (args : StopArgs)
  | initiateStop
  deriving DecidableEq, Repr

/-- The code that serves a request. -/
def Request.code : Request → List Op
  | httpStop => requestHttpStop
  | sigterm => [.sigtermOnce]
  | stopWorker => Lifecycle.stopWorker
  | pushReplayContext accepted endOfStream =>
      [.call .initializeReplayDependencies, .ingest (.pushReplay accepted endOfStream)]
  | liveTick => [.ingest .liveTick]
  | historicalDriver pages => [.ingest (.driver pages)]
  | start => [.startGuard]
  | run => runBody
  | stop args => [.stopGuard args]
  | initiateStop => initiateStopFromRequest

/-- The requests that reach a worker process from outside; its methods are called only by
its own threads. -/
def Request.external : Request → Bool
  | start | run | stop _ | initiateStop => false
  | _ => true

abbrev LifecycleConfig := Config Service Op Error
abbrev LifecycleMove := Move Request Outcome

/-- A service whose methods are called in any order and at the same time. -/
def serviceSystem (w : Wiring) : TransitionSystem LifecycleConfig LifecycleMove :=
  (machine w).system .new [] fun r => some r.code

/-- The worker process: {lit}`WorkerApp.run` on the main thread, and requests from outside. -/
def workerSystem (w : Wiring) : TransitionSystem LifecycleConfig LifecycleMove :=
  (machine w).system .new [workerAppRun] fun r => if r.external then some r.code else none

/-- The blocks that go on after an error, and how. -/
theorem handler_cases {w : Wiring} {op : Op} {e : Error} {code : List Op}
    (h : handler w op e = some code) :
    (op = .exceptStart ∧ code = startFailed w e) ∨
      (op = .exceptRun ∧ code = [.loopPhase false]) ∨
      (op = .exceptInterrupt ∧ code = [.interrupted]) ∨
      (op = .exceptSigterm ∧ (code = [] ∨ code = [.ensureShutdownThread])) ∨
      (op = .exceptShutdownThread ∧ code = []) ∨
      (op = .releaseStopLock ∧ code = [.releaseStopLock, .raise e]) := by
  unfold handler at h
  split at h <;> (try split at h) <;> simp_all

/-! ## What an operation can change -/

/-- The four flags of the service that its guards read. -/
structure SameFlags (s t : Service) : Prop where
  phase : t.phase = s.phase
  started : t.started = s.started
  shutdownComplete : t.shutdownComplete = s.shutdownComplete
  shutdownInProgress : t.shutdownInProgress = s.shutdownInProgress

theorem SameFlags.refl (s : Service) : SameFlags s s :=
  ⟨rfl, rfl, rfl, rfl⟩

theorem SameFlags.trans {s t u : Service} (h : SameFlags s t) (h' : SameFlags t u) :
    SameFlags s u :=
  ⟨h'.phase.trans h.phase, h'.started.trans h.started,
    h'.shutdownComplete.trans h.shutdownComplete, h'.shutdownInProgress.trans h.shutdownInProgress⟩

theorem sameFlags_note (s : Service) (e : Event) : SameFlags s (s.note e) :=
  ⟨rfl, rfl, rfl, rfl⟩

@[simp]
theorem note_log (s : Service) (e : Event) : (s.note e).log = s.log ++ [e] :=
  rfl

/-- A returned call changes what the service holds, and none of its flags. -/
theorem sameFlags_succeed {s t : Service} (h : SameFlags s t) (c : Call) :
    SameFlags s (t.succeed c) := by
  rcases h with ⟨hp, hs, hc, hi⟩
  unfold Service.succeed
  split <;> exact ⟨hp, hs, hc, hi⟩

@[simp]
theorem succeed_log (s : Service) (c : Call) : (s.succeed c).log = s.log := by
  unfold Service.succeed
  split <;> rfl

/-- A call goes on or raises, and notes that the collaborator was called. -/
theorem execCall_cases (w : Wiring) (s : Service) (c : Call) (out : Outcome) :
    (applies w s c = false ∧ execCall w s c out = .next (s.note (.skipped c)) [] []) ∨
      (applies w s c = true ∧
        ((out.error = none ∧
            execCall w s c out = .next ((s.note (.called c out.delivered)).succeed c) [] []) ∨
          ∃ kind, out.error = some kind ∧
            ((swallowed c = true ∧
                execCall w s c out = .next (s.note (.called c out.delivered)) [] []) ∨
              (swallowed c = false ∧ execCall w s c out =
                .raise (s.note (.called c out.delivered)) (.raisedBy c kind))))) := by
  unfold execCall
  cases happlies : applies w s c with
  | false => exact .inl ⟨rfl, by simp⟩
  | true =>
      refine .inr ⟨rfl, ?_⟩
      cases herror : out.error with
      | none => exact .inl ⟨rfl, by simp⟩
      | some kind =>
          refine .inr ⟨kind, rfl, ?_⟩
          cases hswallowed : swallowed c with
          | true => exact .inl ⟨rfl, by simp⟩
          | false => exact .inr ⟨rfl, by simp⟩

theorem sameFlags_execCall (w : Wiring) (s : Service) (c : Call) (out : Outcome) :
    SameFlags s (execCall w s c out).shared := by
  rcases execCall_cases w s c out with
    ⟨-, he⟩ | ⟨-, ⟨-, he⟩ | ⟨kind, -, ⟨-, he⟩ | ⟨-, he⟩⟩⟩ <;> rw [he]
  · exact sameFlags_note s _
  · exact sameFlags_succeed (sameFlags_note s _) c
  · exact sameFlags_note s _
  · exact sameFlags_note s _

/-- A call leaves nothing more to do. -/
@[simp]
theorem execCall_pushed (w : Wiring) (s : Service) (c : Call) (out : Outcome) :
    (execCall w s c out).pushed = [] := by
  rcases execCall_cases w s c out with
    ⟨-, he⟩ | ⟨-, ⟨-, he⟩ | ⟨kind, -, ⟨-, he⟩ | ⟨-, he⟩⟩⟩ <;> rw [he] <;> rfl

@[simp]
theorem execCall_spawned (w : Wiring) (s : Service) (c : Call) (out : Outcome) :
    (execCall w s c out).spawned = [] := by
  rcases execCall_cases w s c out with
    ⟨-, he⟩ | ⟨-, ⟨-, he⟩ | ⟨kind, -, ⟨-, he⟩ | ⟨-, he⟩⟩⟩ <;> rw [he] <;> rfl

/-- Ingest operations push ingest operations and calls of their own. -/
theorem execIngest_pushed {w : Wiring} {s : Service} {out : Outcome} {i : Ingest} {op : Op}
    (h : op ∈ (execIngest w s out i).pushed) :
    (∃ j, op = .ingest j) ∨ op = .call .ingestReplayTick ∨ op = .call .recordFirstData := by
  unfold execIngest at h
  split at h <;> (try split at h) <;>
    simp_all [Effect.pushed, gatewayIngest, List.mem_replicate] <;> grind

@[simp]
theorem execIngest_spawned (w : Wiring) (s : Service) (out : Outcome) (i : Ingest) :
    (execIngest w s out i).spawned = [] := by
  unfold execIngest
  split <;> (try split) <;> rfl

/-- The operations that lead to a body and are not part of one. -/
def control : Op → Bool
  | .startGuard | .stopReturn | .runReady | .setPhase _ | .writePhase _ _ | .recordStartup _
  | .recordShutdown _ | .assign (.started _) | .assign (.shutdownComplete _) | .raise _
  | .exceptStart => false
  | .call (.recordStartupStep _) | .call (.recordShutdownStep _) | .call .postStopping
  | .call .recordManagerStopRequest | .call .initializeReplayDependencies
  | .call .ingestReplayTick | .call .recordFirstData => true
  | .call _ => false
  | _ => true

attribute [local simp] exec control in
/-- What an operation pushes: the body behind a guard, a phase, or control operations. -/
theorem exec_pushed {w : Wiring} {s : Service} {op : Op} {out : Outcome} {eff : LifecycleEffect}
    (h : exec w s op out = some eff) :
    (op = .startGuard ∧ s.started = false ∧ eff = .next s (startBody ++ [.exceptStart]) []) ∨
      (∃ args, op = .stopGuard args ∧ s.shutdownComplete = false ∧
        eff = .next (s.note (.stopEntered args)) (stopBody w args) []) ∨
      (op = .runReady ∧ s.phase = .ready ∧ eff = .next s runReadyBody []) ∨
      (∃ phase, op = .setPhase phase ∧ eff = .next s (setPhaseBody s.phase phase) []) ∨
      ∀ o ∈ eff.pushed, control o = true := by
  cases op with
  | startGuard =>
      simp only [exec] at h
      split at h <;> cases h
      · simp [Effect.pushed]
      · simp_all
  | stopGuard args =>
      simp only [exec] at h
      split at h <;> cases h
      · simp [Effect.pushed]
      · simp_all
  | runReady =>
      simp only [exec] at h
      split at h <;> cases h
      · simp_all
      · simp [Effect.pushed]
  | setPhase phase =>
      cases h
      simp
  | call c =>
      obtain rfl := Option.some.inj h
      simp
  | ingest i =>
      obtain rfl := Option.some.inj h
      refine .inr (.inr (.inr (.inr fun o ho => ?_)))
      rcases execIngest_pushed ho with ⟨j, rfl⟩ | rfl | rfl <;> rfl
  | loopPhase first =>
      cases first <;> simp only [exec] at h <;> split at h <;> cases h <;>
        simp [Effect.pushed, control]
  | _ =>
      simp only [exec] at h
      first
        | (cases h; simp [Effect.pushed, control])
        | (split at h <;> cases h <;> simp [Effect.pushed, control, requestSigtermShutdown,
            initiateStopFromRequest])

/-- Only the coordinator starts a thread. -/
theorem exec_spawned {w : Wiring} {s : Service} {op : Op} {out : Outcome} {eff : LifecycleEffect}
    (h : exec w s op out = some eff) :
    eff.spawned = [] ∨ op = .ensureShutdownThread ∧ eff.spawned = [runShutdown] := by
  cases op with
  | ensureShutdownThread =>
      simp only [exec] at h
      split at h <;> cases h
      · exact .inl rfl
      · exact .inr ⟨rfl, rfl⟩
  | call c =>
      obtain rfl := Option.some.inj h
      simp
  | ingest i =>
      obtain rfl := Option.some.inj h
      simp
  | loopPhase first =>
      cases first <;> simp only [exec] at h <;> split at h <;> cases h <;> exact .inl rfl
  | _ =>
      simp only [exec] at h
      first
        | (cases h; exact .inl rfl)
        | (split at h <;> cases h <;> exact .inl rfl)

theorem sameFlags_execIngest (w : Wiring) (s : Service) (out : Outcome) (i : Ingest) :
    SameFlags s (execIngest w s out i).shared := by
  unfold execIngest
  split <;> (try split) <;> exact ⟨rfl, rfl, rfl, rfl⟩

/-- Only {lit}`_set_phase` writes the phase, and only assignments write the other flags. -/
theorem exec_flags {w : Wiring} {s : Service} {op : Op} {out : Outcome} {eff : LifecycleEffect}
    (h : exec w s op out = some eff) :
    (∃ p q, op = .writePhase p q) ∨ (∃ a, op = .assign a) ∨ SameFlags s eff.shared := by
  cases op with
  | writePhase p q => exact .inl ⟨p, q, rfl⟩
  | assign a => exact .inr (.inl ⟨a, rfl⟩)
  | call c =>
      obtain rfl := Option.some.inj h
      exact .inr (.inr (sameFlags_execCall w s c out))
  | ingest i =>
      obtain rfl := Option.some.inj h
      exact .inr (.inr (sameFlags_execIngest w s out i))
  | loopPhase first =>
      refine .inr (.inr ?_)
      cases first <;> simp only [exec] at h <;> split at h <;> cases h <;> exact SameFlags.refl s
  | _ =>
      refine .inr (.inr ?_)
      simp only [exec] at h
      first
        | (cases h; exact ⟨rfl, rfl, rfl, rfl⟩)
        | (split at h <;> cases h <;> exact ⟨rfl, rfl, rfl, rfl⟩)

theorem exec_phase {w : Wiring} {s : Service} {op : Op} {out : Outcome} {eff : LifecycleEffect}
    (h : exec w s op out = some eff) (hop : ∀ p q, op ≠ .writePhase p q) :
    eff.shared.phase = s.phase := by
  rcases exec_flags h with ⟨p, q, rfl⟩ | ⟨a, rfl⟩ | hsame
  · exact absurd rfl (hop p q)
  · obtain rfl := Option.some.inj h
    unfold Service.assign
    split <;> rfl
  · exact hsame.phase

/-- The shutdown flag is never released. -/
theorem exec_shutdownInProgress {w : Wiring} {s : Service} {op : Op} {out : Outcome}
    {eff : LifecycleEffect} (h : exec w s op out = some eff)
    (hs : s.shutdownInProgress = true) : eff.shared.shutdownInProgress = true := by
  rcases exec_flags h with ⟨p, q, rfl⟩ | ⟨a, rfl⟩ | hsame
  · obtain rfl := Option.some.inj h
    exact hs
  · obtain rfl := Option.some.inj h
    unfold Service.assign
    split <;> first | exact hs | rfl
  · rw [hsame.shutdownInProgress, hs]

/-! ## What an operation adds to the log -/

/-- The events of an ingest operation. -/
def ingestEmits (w : Wiring) (s : Service) : Ingest → List Event
  | .pushReplay _ _ =>
      if !w.replayGateway || w.mode == .backtest && s.backtestReplayComplete then [.responded 0]
      else []
  | .pushConsumed handed => [.consumed handed]
  | .pushDone consumed _ => [.responded consumed]
  | .startCallback source => [.callback source s.shutdownInProgress s.phase]
  | _ => []

/-- The events that an operation adds to the log. -/
def emits (w : Wiring) (s : Service) (out : Outcome) : Op → List Event
  | .stopGuard args => if s.shutdownComplete then [] else [.stopEntered args]
  | .assign (.shutdownComplete true) => [.stopCompleted]
  | .writePhase previous phase => [.phaseSet previous phase]
  | .recordStartup step => [.startupStep step]
  | .recordShutdown step => [.shutdownStep step]
  | .call c => if applies w s c then [.called c out.delivered] else [.skipped c]
  | .ingest i => ingestEmits w s i
  | _ => []

theorem execIngest_log (w : Wiring) (s : Service) (out : Outcome) (i : Ingest) :
    (execIngest w s out i).shared.log = s.log ++ ingestEmits w s i := by
  unfold execIngest
  split <;> (try split) <;> simp_all [ingestEmits, Effect.shared, Service.note]

theorem exec_log {w : Wiring} {s : Service} {op : Op} {out : Outcome} {eff : LifecycleEffect}
    (h : exec w s op out = some eff) : eff.shared.log = s.log ++ emits w s out op := by
  cases op with
  | call c =>
      obtain rfl := Option.some.inj h
      rcases execCall_cases w s c out with
        ⟨ha, he⟩ | ⟨ha, ⟨-, he⟩ | ⟨kind, -, ⟨-, he⟩ | ⟨-, he⟩⟩⟩ <;>
        simp [he, ha, emits, Effect.shared]
  | ingest i =>
      obtain rfl := Option.some.inj h
      exact execIngest_log w s out i
  | assign a =>
      obtain rfl := Option.some.inj h
      unfold Service.assign emits
      split <;> simp_all [Effect.shared]
  | loopPhase first =>
      cases first <;> simp only [exec] at h <;> split at h <;> cases h <;>
        simp [Effect.shared, emits]
  | _ =>
      simp only [exec] at h
      first
        | (cases h; simp [Effect.shared, emits])
        | (split at h <;> cases h <;> simp_all [Effect.shared, emits])

/-! ## Configurations -/

/-- The operation that a thread executes next. -/
def LifecycleConfig.next (c : LifecycleConfig) (i : Nat) : Option Op :=
  (c.threads[i]?).bind fun t => t.code.head?

theorem next_eq_some {c : LifecycleConfig} {i : Nat} {op : Op} {rest : List Op} {f : Option Error}
    (h : c.threads[i]? = some ⟨op :: rest, f⟩) : c.next i = some op := by
  simp [LifecycleConfig.next, h]

/-- What arrives from outside is served by control operations. -/
theorem control_of_external {r : Request} (h : r.external = true) {op : Op} (hop : op ∈ r.code) :
    control op = true := by
  have hall : ∀ o ∈ r.code, control o = true := by
    cases r <;> try cases h
    all_goals simp [Request.code, requestHttpStop, initiateStopFromRequest, stopWorker, control]
  exact hall op hop

theorem workerSystem_step_request {w : Wiring} {c d : LifecycleConfig} {r : Request}
    (h : (workerSystem w).step c (.request r) = some d) :
    r.external = true ∧ d = ⟨c.shared, c.threads ++ [.fresh r.code]⟩ := by
  rcases ThreadMachine.system_step_request.1 h with ⟨code, hcode, rfl⟩
  split at hcode
  · rename_i hexternal
    cases hcode
    exact ⟨hexternal, rfl⟩
  · cases hcode

/-! ## Weights of bodies -/

/--
A weight that code gains only by passing the guard of {lit}`stop`, and then {lit}`k` at most:
it does not count control operations, and no other body weighs more than the operation that
pushes it.
-/
structure CodeWeight (w : Wiring) (v : Op → Nat) (k : Nat) : Prop where
  control : ∀ op, control op = true → v op = 0
  raise : ∀ e, v (.raise e) = 0
  close : ∀ i, v (.call (.closeClient i)) = 0
  start : weigh v (startBody ++ [.exceptStart]) ≤ v .startGuard
  ready : weigh v runReadyBody ≤ v .runReady
  set : ∀ previous phase, weigh v (setPhaseBody previous phase) ≤ v (.setPhase phase)
  failed : ∀ e, weigh v (startFailed w e) ≤ v .exceptStart
  stop : ∀ args, weigh v (stopBody w args) ≤ k

theorem weigh_closes {v : Op → Nat} (w : Wiring) (hclose : ∀ i, v (.call (.closeClient i)) = 0) :
    weigh v (closeDownstreamClients w) = 0 := by
  apply ThreadMachine.weigh_eq_zero
  intro op hop
  rcases List.mem_map.1 hop with ⟨i, -, rfl⟩
  exact hclose i

theorem weigh_stopBody {v : Op → Nat} (w : Wiring) (args : StopArgs)
    (hclose : ∀ i, v (.call (.closeClient i)) = 0) :
    weigh v (stopBody w args) = weigh v stopWork + weigh v (stopReport w args) := by
  simp only [stopBody, ThreadMachine.weigh_append, weigh_closes w hclose, Nat.add_zero]

theorem weigh_startFailed {v : Op → Nat} (w : Wiring) (e : Error)
    (hclose : ∀ i, v (.call (.closeClient i)) = 0) :
    weigh v (startFailed w e) = v (.setPhase .failed) + (v (.call .recordLaunchFailed) +
      v (.call .stopStrategy) + v (.call .reinitializeDependencies) +
      v (if e.isBootstrapFailure then .call .reportBootstrapFailure
        else .call .emitBootstrapFailed) +
      v (.assign (.started false)) + v (.assign (.shutdownComplete false)) + v (.raise e)) := by
  simp only [startFailed, rollbackPartialStartup, ThreadMachine.weigh_cons,
    ThreadMachine.weigh_append, ThreadMachine.weigh_nil, weigh_closes w hclose]
  omega

namespace CodeWeight

variable {w : Wiring} {v : Op → Nat} {k : Nat}

theorem handler (hv : CodeWeight w v k) {op : Op} {e : Error} {code : List Op}
    (h : Lifecycle.handler w op e = some code) : weigh v code ≤ v op := by
  have hloop : v (.loopPhase false) = 0 := hv.control _ rfl
  have hinterrupted : v .interrupted = 0 := hv.control _ rfl
  have hensure : v .ensureShutdownThread = 0 := hv.control _ rfl
  rcases handler_cases h with ⟨rfl, rfl⟩ | ⟨rfl, rfl⟩ | ⟨rfl, rfl⟩ | ⟨rfl, rfl | rfl⟩ |
    ⟨rfl, rfl⟩ | ⟨rfl, rfl⟩
  · exact hv.failed e
  all_goals simp [hloop, hinterrupted, hensure, hv.raise]

/-- An operation leaves no more than it stood for, or it enters a teardown. -/
theorem exec (hv : CodeWeight w v k) {s : Service} {op : Op} {out : Outcome}
    {eff : LifecycleEffect} (h : Lifecycle.exec w s op out = some eff) :
    ThreadMachine.leaves v eff ≤ v op ∨
      ∃ args, op = .stopGuard args ∧ s.shutdownComplete = false ∧
        ThreadMachine.leaves v eff = weigh v (stopBody w args) := by
  have hguard : v (.stopGuard shutdownThreadArgs) = 0 := hv.control _ rfl
  have hexcept : v .exceptShutdownThread = 0 := hv.control _ rfl
  have hrun : weigh v runShutdown = 0 := by simp [runShutdown, hguard, hexcept]
  have hspawned : (eff.spawned.map (weigh v)).sum = 0 := by
    rcases exec_spawned h with hnone | ⟨-, hsome⟩
    · simp [hnone]
    · simp [hsome, hrun]
  rw [ThreadMachine.leaves, hspawned, Nat.add_zero]
  rcases exec_pushed h with ⟨rfl, -, rfl⟩ | ⟨args, rfl, hs, rfl⟩ | ⟨rfl, -, rfl⟩ | ⟨q, rfl, rfl⟩ |
    hcontrol
  · exact .inl hv.start
  · exact .inr ⟨args, rfl, hs, rfl⟩
  · exact .inl hv.ready
  · exact .inl (hv.set s.phase q)
  · rw [ThreadMachine.weigh_eq_zero fun o ho => hv.control o (hcontrol o ho)]
    exact .inl (Nat.zero_le _)

/-- A step that enters no teardown adds nothing to the total. -/
theorem total_le (hv : CodeWeight w v k) {s : Service} {threads : List (Thread Op Error)} {i : Nat}
    {op : Op} {rest : List Op} {f : Option Error} {out : Outcome} {eff : LifecycleEffect}
    (hget : threads[i]? = some ⟨op :: rest, f⟩) (h : Lifecycle.exec w s op out = some eff)
    (henter : ∀ args, op = .stopGuard args → s.shutdownComplete = true) :
    total v (threads.set i ((machine w).resume rest eff) ++ eff.spawned.map .fresh) ≤
      total v threads := by
  have htotal := ThreadMachine.step_total (M := machine w) (fun _ _ _ => hv.handler) hget eff
  rcases hv.exec h with hle | ⟨args, rfl, hs, -⟩
  · omega
  · simp [henter args rfl] at hs

/-- A step adds to the total what a teardown holds at most. -/
theorem total_le_add (hv : CodeWeight w v k) {s : Service} {threads : List (Thread Op Error)}
    {i : Nat} {op : Op} {rest : List Op} {f : Option Error} {out : Outcome}
    {eff : LifecycleEffect} (hget : threads[i]? = some ⟨op :: rest, f⟩)
    (h : Lifecycle.exec w s op out = some eff) :
    total v (threads.set i ((machine w).resume rest eff) ++ eff.spawned.map .fresh) ≤
      total v threads + k := by
  have htotal := ThreadMachine.step_total (M := machine w) (fun _ _ _ => hv.handler) hget eff
  rcases hv.exec h with hle | ⟨args, -, -, hle⟩
  · omega
  · have := hv.stop args
    omega

/-- A thread without weight that enters no teardown stays without, and so do those it starts. -/
theorem resume_eq_zero (hv : CodeWeight w v k) {s : Service} {op : Op} {rest : List Op}
    {out : Outcome} {eff : LifecycleEffect} (h : Lifecycle.exec w s op out = some eff)
    (hzero : weigh v (op :: rest) = 0)
    (henter : (∀ args, op = .stopGuard args → s.shutdownComplete = true) ∨ k = 0) :
    weigh v ((machine w).resume rest eff).code = 0 := by
  have hleaves : ThreadMachine.leaves v eff = 0 := by
    simp only [ThreadMachine.weigh_cons] at hzero
    rcases hv.exec h with hle | ⟨args, rfl, hs, hle⟩
    · omega
    · rcases henter with henter | rfl
      · simp [henter args rfl] at hs
      · rw [hle]
        exact Nat.le_zero.1 (hv.stop args)
  simp only [ThreadMachine.weigh_cons] at hzero
  cases eff with
  | next t push codes =>
      simp only [ThreadMachine.leaves, Effect.pushed] at hleaves
      rw [ThreadMachine.weigh_resume_next]
      omega
  | raise t e =>
      have hle := ThreadMachine.weigh_resume_raise_le (M := machine w) (w := v) (e := e)
        (fun _ _ => hv.handler) rest t
      omega

theorem spawned_eq_zero (hv : CodeWeight w v k) {s : Service} {op : Op} {out : Outcome}
    {eff : LifecycleEffect} (h : Lifecycle.exec w s op out = some eff) {code : List Op}
    (hcode : code ∈ eff.spawned) : weigh v code = 0 := by
  have hguard : v (.stopGuard shutdownThreadArgs) = 0 := hv.control _ rfl
  have hexcept : v .exceptShutdownThread = 0 := hv.control _ rfl
  rcases exec_spawned h with hnone | ⟨-, hsome⟩
  · simp [hnone] at hcode
  · simp only [hsome, List.mem_singleton] at hcode
    subst hcode
    simp [runShutdown, hguard, hexcept]

/-- What arrives from outside has no weight. -/
theorem external (hv : CodeWeight w v k) {r : Request} (h : r.external = true) :
    weigh v r.code = 0 :=
  ThreadMachine.weigh_eq_zero fun o ho => hv.control o (control_of_external h ho)

end CodeWeight

/-! ## Schedules -/

/-- {lit}`n` operations of thread {lit}`i` without an error. -/
def steps (i n : Nat) : List LifecycleMove :=
  List.replicate n (.step i .ok)

/-- An operation of thread {lit}`i` in which the collaborator raises. -/
def raises (i : Nat) : LifecycleMove :=
  .step i ⟨false, some .other⟩

/-- A backtest worker without optional collaborators. -/
def bareWiring : Wiring where
  mode := .backtest
  strategyInstanceManager := false
  workAcceptor := false
  periodicJobs := false
  diagnosticFlusher := false
  closeables := []
  onStep := false
  stateJournal := false
  srmBaseUrl := false
  replayGateway := false

/-- The same worker with a configured strategy runtime manager. -/
def srmWiring : Wiring :=
  { bareWiring with srmBaseUrl := true }

end Lifecycle
end StrategyWorker
