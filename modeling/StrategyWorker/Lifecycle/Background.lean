import Mathlib.Data.Finset.Insert
import Mathlib.Data.Fintype.Basic
import StrategyWorker.Library.MachineLayer
import StrategyWorker.Lifecycle.Machine

/-!
# The background threads of a worker

A layer over the threads of {lit}`Machine`: a heartbeat is the reads of
{lit}`emit_periodic_heartbeat` one after the other and then the report, the
heartbeat job of {lit}`heartbeat_periodic.py` and the feeds of the service are
threads of their own with a stop event each, and the layer records the statuses
that reach the strategy-runtime-manager.

A feed thread is only its loop over the stop event.  What its iterations
deliver are the requests {lit}`liveTick` and {lit}`historicalDriver`, which may
come at any time.  {lit}`join` comes with a timeout; the outside decides
whether it passes.

Main results:

- Theorem {lit}`exec_own_same`: the own operations leave the flags of the
  service alone.
- Theorem {lit}`LayerWeight.exec_base`: a weight that the bodies of the service
  do not raise is not raised by the layer either.
-/

namespace StrategyWorker
namespace Lifecycle

open Domain Library
open ThreadMachine (weigh total)

instance : Fintype Feed where
  elems := {.historicalBacktest, .liveMarketData, .portfolioUpdate}
  complete f := by cases f <;> decide

/-! ## What the layer keeps -/

/-- A status that was reported to the strategy-runtime-manager. -/
inductive SentStatus where
  /-- The {lit}`local_state` of a heartbeat. -/
  | heartbeat (localState : WorkerPhase)
  /-- The {lit}`local_state` that {lit}`_set_phase` reports for {lit}`FAILED`. -/
  | update (localState : WorkerPhase)
  /-- {lit}`RUNNING`, of {lit}`_report_bootstrap_success_to_srm`. -/
  | bootstrapSuccess
  /-- {lit}`STARTUP_FAILED`. -/
  | startupFailed
  | stopping
  /-- {lit}`STOPPED` or {lit}`FAILED`, of {lit}`_report_final_shutdown_to_srm`. -/
  | finalShutdown
  deriving DecidableEq, Repr

/-- {lit}`HeartbeatPeriodicJobs`. -/
structure PeriodicJobs where
  stop : Bool
  /-- {lit}`_thread is not None`. -/
  thread : Bool
  /-- The started threads that have not ended. -/
  running : Nat
  deriving DecidableEq, Repr

/-- The fields of one feed. -/
structure FeedThread where
  started : Bool
  stop : Bool
  /-- The started threads that have not ended. -/
  running : Nat
  deriving DecidableEq, Repr

structure Background where
  sent : List SentStatus
  jobs : PeriodicJobs
  feeds : Feed → FeedThread

/-- Before the worker starts. -/
def Background.new : Background where
  sent := []
  jobs := ⟨false, false, 0⟩
  feeds _ := ⟨false, false, 0⟩

def Background.setFeed (x : Background) (f : Feed) (t : FeedThread) : Background :=
  { x with feeds := Function.update x.feeds f t }

abbrev Worker := Service × Background

/-! ## Own operations -/

/-- {lit}`emit_periodic_heartbeat`. -/
inductive HeartbeatStep where
  | checkShutdown
  | checkDependencies
  | checkPhase
  /-- {lit}`local_state=self._phase.value`. -/
  | readPhase
  | send (localState : WorkerPhase)
  deriving DecidableEq, Repr

/-- {lit}`HeartbeatPeriodicJobs`. -/
inductive JobsStep where
  -- `start`
  | checkAlive
  | clearStop
  | startThread
  -- `stop`
  | setStop
  | join
  -- `_run`
  | checkStop
  | wait
  | exceptTick
  deriving DecidableEq, Repr

/-- {lit}`_maybe_start_…`, {lit}`_stop_…_worker` and the thread of a feed. -/
inductive FeedStep where
  | checkStarted
  | markStarted
  | clearStop
  | startThread
  | setStop
  | join
  | checkStop
  deriving DecidableEq, Repr

inductive Own where
  | heartbeat (step : HeartbeatStep)
  | jobs (step : JobsStep)
  | feed (f : Feed) (step : FeedStep)
  deriving DecidableEq, Repr

abbrev WorkerOp := Op ⊕ Own
abbrev WorkerEffect := Effect Worker WorkerOp Error

/-- The calls that the layer looks closer at. -/
def lower : Op → WorkerOp
  | .call .emitHeartbeat => .inr (.heartbeat .checkShutdown)
  | .call .startPeriodicJobs => .inr (.jobs .checkAlive)
  | .call .stopPeriodicJobs => .inr (.jobs .setStop)
  | .call (.startFeed f) => .inr (.feed f .checkStarted)
  | .call (.stopFeed f) => .inr (.feed f .setStop)
  | op => .inl op

/-- The status that a call of the service reports. -/
def statusOf (s : Service) : Call → List SentStatus
  | .reportBootstrapSuccess => [.bootstrapSuccess]
  | .emitFailedStatus => [.update s.phase]
  | .reportBootstrapFailure => [.startupFailed]
  | .postStopping => [.stopping]
  | .reportFinalShutdown => [.finalShutdown]
  | _ => []

/-- The statuses that reach the manager through an operation of the service. -/
def sends (w : Wiring) (s : Service) (out : Outcome) : Op → List SentStatus
  | .call c => if applies w s c && out.delivered then statusOf s c else []
  | _ => []

def execHeartbeat (s : Worker) (out : Outcome) : HeartbeatStep → WorkerEffect
  | .checkShutdown =>
      if s.1.shutdownInProgress then .next s [] []
      else .next s [.inr (.heartbeat .checkDependencies)] []
  | .checkDependencies =>
      if s.1.runtimeDependencies then .next s [.inr (.heartbeat .checkPhase)] []
      else .next s [] []
  | .checkPhase =>
      if s.1.phase = .ready ∨ s.1.phase = .running then
        .next s [.inr (.heartbeat .readPhase)] []
      else .next s [] []
  | .readPhase => .next s [.inr (.heartbeat (.send s.1.phase))] []
  | .send localState =>
      let sent := if out.delivered then s.2.sent ++ [.heartbeat localState] else s.2.sent
      let s := (s.1.note (.called .emitHeartbeat out.delivered), { s.2 with sent })
      match out.error with
      | none => .next s [] []
      | some kind => .raise s (.raisedBy .emitHeartbeat kind)

/-- Whether a thread that is joined has ended; a timeout passes. -/
def joins (running : Nat) (out : Outcome) : Bool :=
  running = 0 || !out.delivered

def execJobs (w : Wiring) (s : Worker) (out : Outcome) : JobsStep → Option WorkerEffect
  | .checkAlive =>
      if !w.periodicJobs then some (.next (s.1.note (.skipped .startPeriodicJobs), s.2) [] [])
      else if s.2.jobs.thread && s.2.jobs.running ≠ 0 then some (.next s [] [])
      else some (.next s [.inr (.jobs .clearStop), .inr (.jobs .startThread)] [])
  | .clearStop =>
      some (.next (s.1, { s.2 with jobs := { s.2.jobs with stop := false } }) [] [])
  | .startThread =>
      let jobs := { s.2.jobs with thread := true }
      match out.error with
      | none =>
          some (.next (s.1.note (.called .startPeriodicJobs out.delivered),
            { s.2 with jobs := { jobs with running := jobs.running + 1 } }) []
            [[.inr (.jobs .checkStop)]])
      | some kind =>
          some (.raise (s.1.note (.called .startPeriodicJobs out.delivered), { s.2 with jobs })
            (.raisedBy .startPeriodicJobs kind))
  | .setStop =>
      if !w.periodicJobs then some (.next (s.1.note (.skipped .stopPeriodicJobs), s.2) [] [])
      else
        some (.next (s.1, { s.2 with jobs := { s.2.jobs with stop := true } })
          [.inr (.jobs .join)] [])
  | .join =>
      if !s.2.jobs.thread then
        some (.next (s.1.note (.called .stopPeriodicJobs out.delivered), s.2) [] [])
      else if joins s.2.jobs.running out then
        match out.error with
        | none =>
            some (.next (s.1.note (.called .stopPeriodicJobs out.delivered),
              { s.2 with jobs := { s.2.jobs with thread := false } }) [] [])
        | some kind =>
            some (.raise (s.1.note (.called .stopPeriodicJobs out.delivered), s.2)
              (.raisedBy .stopPeriodicJobs kind))
      else none
  | .checkStop =>
      if s.2.jobs.stop then
        some (.next (s.1, { s.2 with jobs :=
          { s.2.jobs with running := s.2.jobs.running - 1 } }) [] [])
      else some (.next s [.inr (.jobs .wait)] [])
  | .wait =>
      -- an event that is set ends the loop, a timeout is a tick
      if s.2.jobs.stop then some (.next s [.inr (.jobs .checkStop)] [])
      else
        some (.next s [.inr (.heartbeat .checkShutdown), .inr (.jobs .exceptTick),
          .inr (.jobs .checkStop)] [])
  | .exceptTick => some (.next s [] [])

/-- The historical driver reads its stop event in the service. -/
def Service.setFeedStop (s : Service) (f : Feed) (value : Bool) : Service :=
  match f with
  | .historicalBacktest => { s with hdsFeedStop := value }
  | _ => s

def execFeed (configured : Feed → Bool) (s : Worker) (out : Outcome) (f : Feed) :
    FeedStep → Option WorkerEffect
  | .checkStarted =>
      if (s.2.feeds f).started || !configured f then
        some (.next (s.1.note (.skipped (.startFeed f)), s.2) [] [])
      else
        match out.error with
        | none =>
            some (.next s [.inr (.feed f .markStarted), .inr (.feed f .clearStop),
              .inr (.feed f .startThread)] [])
        | some kind => some (.raise s (.raisedBy (.startFeed f) kind))
  | .markStarted =>
      some (.next (s.1, s.2.setFeed f { s.2.feeds f with started := true }) [] [])
  | .clearStop =>
      some (.next (s.1.setFeedStop f false, s.2.setFeed f { s.2.feeds f with stop := false }) [] [])
  | .startThread =>
      match out.error with
      | none =>
          some (.next (s.1.note (.called (.startFeed f) out.delivered),
            s.2.setFeed f { s.2.feeds f with running := (s.2.feeds f).running + 1 }) []
            [[.inr (.feed f .checkStop)]])
      | some kind =>
          some (.raise (s.1.note (.called (.startFeed f) out.delivered), s.2)
            (.raisedBy (.startFeed f) kind))
  | .setStop =>
      some (.next (s.1.setFeedStop f true, s.2.setFeed f { s.2.feeds f with stop := true })
        [.inr (.feed f .join)] [])
  | .join =>
      if joins (s.2.feeds f).running out then
        some (.next (s.1.note (.called (.stopFeed f) out.delivered), s.2) [] [])
      else none
  | .checkStop =>
      -- the loop may also end by itself
      if (s.2.feeds f).stop || out.error ≠ none then
        some (.next (s.1, s.2.setFeed f
          { s.2.feeds f with running := (s.2.feeds f).running - 1 }) [] [])
      else some (.next s [.inr (.feed f .checkStop)] [])

def execOwn (w : Wiring) (configured : Feed → Bool) (s : Worker) :
    Own → Outcome → Option WorkerEffect
  | .heartbeat step, out => some (execHeartbeat s out step)
  | .jobs step, out => execJobs w s out step
  | .feed f step, out => execFeed configured s out f step

/-- {lit}`except Exception` around a tick. -/
def ownHandler : Own → Error → Option (List WorkerOp)
  | .jobs .exceptTick, e => if e.isException then some [] else none
  | _, _ => none

/-- The layer of the background threads; {lit}`configured` tells which feeds the launch spec and
the settings ask for. -/
def background (w : Wiring) (configured : Feed → Bool) :
    MachineLayer Service Background Op Own Error Outcome where
  base := machine w
  lower := lower
  note s x op out := { x with sent := x.sent ++ sends w s out op }
  exec := execOwn w configured
  handler := ownHandler

/-- Requests from anywhere but the main thread, which alone starts the worker. -/
def Request.besideMain : Request → Bool
  | start | run => false
  | _ => true

abbrev WorkerConfig := Config Worker WorkerOp Error

/-- The worker with its background threads: {lit}`WorkerApp.run` on the main thread, stops and
other requests at any time. -/
def backgroundSystem (w : Wiring) (configured : Feed → Bool) :
    TransitionSystem WorkerConfig LifecycleMove :=
  (background w configured).machine.system (.new, .new)
    [(background w configured).lowerAll workerAppRun]
    fun r => if r.besideMain then some ((background w configured).lowerAll r.code) else none

/-- The operation that a thread executes next. -/
def WorkerConfig.next (c : WorkerConfig) (i : Nat) : Option WorkerOp :=
  (c.threads[i]?).bind fun t => t.code.head?

theorem WorkerConfig.next_eq_some {c : WorkerConfig} {i : Nat} {op : WorkerOp}
    {rest : List WorkerOp} {f : Option Error} (h : c.threads[i]? = some ⟨op :: rest, f⟩) :
    c.next i = some op := by
  simp [WorkerConfig.next, h]

/-! ## What the own operations do -/

section

variable {w : Wiring} {configured : Feed → Bool}

/-- The own operations leave the service as it is, up to its log and one stop event. -/
theorem exec_own_same {s : Worker} {own : Own} {out : Outcome} {eff : WorkerEffect}
    (h : execOwn w configured s own out = some eff) :
    ∃ log stop, eff.shared.1 = { s.1 with log := log, hdsFeedStop := stop } := by
  cases own with
  | heartbeat step =>
      obtain rfl := Option.some.inj h
      cases step <;> simp only [execHeartbeat] <;> (try split) <;> exact ⟨_, _, rfl⟩
  | jobs step =>
      cases step <;> simp only [execOwn, execJobs] at h <;> (repeat' split at h) <;> cases h <;>
        exact ⟨_, _, rfl⟩
  | feed f step =>
      cases f <;> cases step <;> simp only [execOwn, execFeed, Service.setFeedStop] at h <;>
        (repeat' split at h) <;> cases h <;> exact ⟨_, _, rfl⟩

/-- The own operations note calls at most. -/
theorem exec_own_log {s : Worker} {own : Own} {out : Outcome} {eff : WorkerEffect}
    (h : execOwn w configured s own out = some eff) :
    ∃ noted, eff.shared.1.log = s.1.log ++ noted ∧
      ∀ e ∈ noted, ∃ c, e = .skipped c ∨ e = .called c out.delivered := by
  have hnone : ∀ t : Service, t.log = s.1.log → ∃ noted, t.log = s.1.log ++ noted ∧
      ∀ e ∈ noted, ∃ c, e = .skipped c ∨ e = .called c out.delivered :=
    fun t ht => ⟨[], by simp [ht], by simp⟩
  cases own with
  | heartbeat step =>
      obtain rfl := Option.some.inj h
      cases step <;> simp only [execHeartbeat] <;> (try split) <;>
        first | exact hnone _ rfl | exact ⟨[_], rfl, by simp⟩
  | jobs step =>
      cases step <;> simp only [execOwn, execJobs] at h <;> (repeat' split at h) <;> cases h <;>
        first | exact hnone _ rfl | exact ⟨[_], rfl, by simp⟩
  | feed f step =>
      cases f <;> cases step <;> simp only [execOwn, execFeed, Service.setFeedStop] at h <;>
        (repeat' split at h) <;> cases h <;> first | exact hnone _ rfl | exact ⟨[_], rfl, by simp⟩

/-- The own operations go on with own operations. -/
theorem exec_own_codes {s : Worker} {own : Own} {out : Outcome} {eff : WorkerEffect}
    (h : execOwn w configured s own out = some eff) {code : List WorkerOp}
    (hcode : code = eff.pushed ∨ code ∈ eff.spawned) {op : WorkerOp} (hop : op ∈ code) :
    ∃ next, op = .inr next := by
  cases own with
  | heartbeat step =>
      obtain rfl := Option.some.inj h
      cases step <;> simp only [execHeartbeat] at hcode <;> (try split at hcode) <;>
        simp_all [Effect.pushed, Effect.spawned]
  | jobs step =>
      cases step <;> simp only [execOwn, execJobs] at h <;> (repeat' split at h) <;> cases h <;>
        simp_all [Effect.pushed, Effect.spawned] <;> grind
  | feed f step =>
      cases step <;> simp only [execOwn, execFeed] at h <;> (repeat' split at h) <;> cases h <;>
        simp_all [Effect.pushed, Effect.spawned] <;> grind

/-! ## Weights -/

/-- A weight of the layer that comes from one of the bodies of the service: the own operation that
an operation is lowered to weighs what the operation does. -/
structure LayerWeight (w : Wiring) (v : WorkerOp → Nat) (k : Nat) : Prop where
  base : CodeWeight w (fun op => v (.inl op)) k
  lower : ∀ op, v (lower op) = v (.inl op)

namespace LayerWeight

variable {v : WorkerOp → Nat} {k : Nat}

theorem handler (hv : LayerWeight w v k) (op : WorkerOp) (e : Error) (code : List WorkerOp)
    (h : (background w configured).machine.handler op e = some code) : weigh v code ≤ v op := by
  refine MachineLayer.handler_weight hv.lower (fun _ => Nat.le_refl _) ?_ ?_ op e code h
  · exact fun op e code hcode => hv.base.handler hcode
  · intro own e code hcode
    have hnil : code = [] := by
      have hcode : ownHandler own e = some code := hcode
      unfold ownHandler at hcode
      split at hcode <;> simp_all
    simp [hnil]

/-- An operation of the service leaves no more than it stood for, or it enters a teardown. -/
theorem exec_base (hv : LayerWeight w v k) {s : Worker} {op : Op} {out : Outcome}
    {eff : WorkerEffect} (h : (background w configured).machine.exec s (.inl op) out = some eff) :
    ThreadMachine.leaves v eff ≤ v (.inl op) ∨
      ∃ args, op = .stopGuard args ∧ s.1.shutdownComplete = false ∧ ThreadMachine.leaves v eff ≤ k := by
  rcases MachineLayer.exec_base_eq_some.1 h with ⟨below, hbelow, rfl⟩
  have hleaves : ∀ f : Service → Worker, ThreadMachine.leaves v (below.lift f Lifecycle.lower) =
      ThreadMachine.leaves (fun op => v (.inl op)) below := fun f =>
    MachineLayer.leaves_base (L := background w configured) hv.lower f below
  have hbelow : Lifecycle.exec w s.1 op out = some below := hbelow
  rcases hv.base.exec hbelow with hle | ⟨args, rfl, hs, hle⟩
  · exact .inl ((hleaves _).le.trans hle)
  · refine .inr ⟨args, rfl, hs, (hleaves _).le.trans ?_⟩
    rw [hle]
    exact hv.base.stop args

/-- A thread that the service starts has no weight. -/
theorem spawned_base (hv : LayerWeight w v k) {s : Worker} {op : Op} {out : Outcome}
    {eff : WorkerEffect} (h : (background w configured).machine.exec s (.inl op) out = some eff)
    {code : List WorkerOp} (hcode : code ∈ eff.spawned) : weigh v code = 0 := by
  rcases MachineLayer.exec_base_eq_some.1 h with ⟨below, hbelow, rfl⟩
  rw [MachineLayer.spawned_lift] at hcode
  rcases List.mem_map.1 hcode with ⟨below', hmem, rfl⟩
  have hweigh := MachineLayer.weigh_lowerAll (L := background w configured) hv.lower below'
  rw [MachineLayer.lowerAll] at hweigh
  rw [hweigh]
  exact hv.base.spawned_eq_zero hbelow hmem

/-- A weight that own operations do not have is not left by them. -/
theorem leaves_own {s : Worker} {own : Own} {out : Outcome} {eff : WorkerEffect}
    (hzero : ∀ next, v (.inr next) = 0) (h : execOwn w configured s own out = some eff) :
    ThreadMachine.leaves v eff = 0 := by
  have hcode : ∀ code, code = eff.pushed ∨ code ∈ eff.spawned → weigh v code = 0 := by
    intro code hcode
    apply ThreadMachine.weigh_eq_zero
    intro op hop
    rcases exec_own_codes h hcode hop with ⟨next, rfl⟩
    exact hzero next
  have hspawned : (eff.spawned.map (weigh v)).sum = 0 := by
    apply List.sum_eq_zero
    intro n hn
    rcases List.mem_map.1 hn with ⟨code, hmem, rfl⟩
    exact hcode code (.inr hmem)
  rw [ThreadMachine.leaves, hcode _ (.inl rfl), hspawned]

/-- What is requested beside the main thread has no weight. -/
theorem request (hv : LayerWeight w v k) {r : Request} (h : r.besideMain = true) :
    weigh v ((background w configured).lowerAll r.code) = 0 := by
  rw [MachineLayer.weigh_lowerAll hv.lower]
  apply ThreadMachine.weigh_eq_zero
  intro op hop
  apply hv.base.control
  cases hr : r.external with
  | true => exact control_of_external hr hop
  | false =>
      cases r with
      | stop args =>
          obtain rfl := List.mem_singleton.1 hop
          rfl
      | initiateStop =>
          have hall : ∀ o ∈ initiateStopFromRequest, Lifecycle.control o = true := by decide
          exact hall op hop
      | start => cases h
      | run => cases h
      | _ => cases hr

end LayerWeight

end

end Lifecycle
end StrategyWorker
