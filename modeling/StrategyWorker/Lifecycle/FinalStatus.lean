import StrategyWorker.Domain.Errors
import StrategyWorker.Library.TransitionSystem
import StrategyWorker.Lifecycle.Operations

/-!
# The final reports of a stop

A completed {lit}`stop` leaves three reports of how the worker ended: the phase
that it sets, the {lit}`local_state` of the terminated signal and the
{lit}`runtime_status` of the last report to the runtime manager.  The first two
come from the termination reason code and the mode, the third one from the
reason that {lit}`stop` has resolved on entering.

Main results:

- Theorem {lit}`agree_iff`: the reports of one stop agree exactly when it
  reports no failure.
- Theorem {lit}`final_reports_agree_iff`: over every run of phase changes, stop
  requests and stops.
- Theorem {lit}`final_reports_disagree`: a stop on request for an error.
-/

namespace StrategyWorker
namespace Lifecycle
namespace FinalStatus

open Domain
open Library
open Library.PyText
open RuntimeWorkerReasonCode

/-! ## Reasons -/

def kubernetesTerminationReason : String :=
  "KUBERNETES_TERMINATION"

/-- {lit}`canonical_reason_from_stop_request(reason)`. -/
def canonicalReasonFromStopRequest (reason : String) : RuntimeWorkerReasonCode :=
  let text := strip reason
  if text = "" then normalizedReason (some "STOP_REQUESTED")
  else if upper text ∈ [kubernetesTerminationReason, "SWR_KUBERNETES_TERMINATION", "SIGTERM"] then
    .kubernetesTermination
  else if lower text ∈ ["error_detected", "error", "failed"] then
    normalizedReason (some "ERROR_DETECTED")
  else if lower text = "runtime_job_completed" then
    normalizedReason (some "RUNTIME_JOB_COMPLETED")
  else
    let candidate := normalizedReason (some text)
    if candidate = .policyViolation ∧ ofValue? (upper text) = none then
      normalizedReason (some "STOP_REQUESTED")
    else candidate

/-- {lit}`shutdown_swr_reason_code(canonical_reason)`. -/
def shutdownSwrReasonCode (canonicalReason : String) : String :=
  let raw := upper (strip (if canonicalReason = "" then "SWR_SHUTDOWN" else canonicalReason))
  if "SWR_".toList.isPrefixOf raw.toList then raw else "SWR_" ++ raw

/-- {lit}`is_failure_shutdown(canonical_reason)`. -/
def isFailureShutdown (canonicalReason : String) : Bool :=
  canonicalReason = "UNHEALTHY_EXECUTION_DETECTED" ||
    shutdownSwrReasonCode canonicalReason ∈
      ["SWR_ERROR_DETECTED", "SWR_UNHEALTHY_EXECUTION_DETECTED"]

/-- Of the reason codes one is a failure. -/
theorem isFailureShutdown_value (code : RuntimeWorkerReasonCode) :
    isFailureShutdown code.value = true ↔ code = .unhealthyExecutionDetected := by
  cases code <;> decide +kernel

/-! ## One stop -/

/-- What a {lit}`stop` has read on entering. -/
structure Teardown where
  args : StopArgs
  /-- The reason of the accepted stop request, which {lit}`_stop_canonical_reason` comes from. -/
  stopRequest : Option String
  phase : WorkerPhase
  deriving DecidableEq

/-- {lit}`resolved_reason`. -/
def Teardown.resolvedReason (t : Teardown) : RuntimeWorkerReasonCode :=
  match t.stopRequest with
  | some reason => canonicalReasonFromStopRequest reason
  | none =>
      match t.args.terminationReasonCode with
      | none =>
          if t.phase = .failed then normalizedReason (some "ERROR_DETECTED")
          else normalizedReason (some "MANUAL_STOP_REQUESTED")
      | some code =>
          if code = "RUNTIME_JOB_COMPLETED" then normalizedReason (some "RUNTIME_JOB_COMPLETED")
          else normalizedReason (some code)

/-- The final reports; the terminated signal and the report to the manager may not be made. -/
structure FinalReports where
  phase : WorkerPhase
  localState : Option String
  runtimeStatus : Option String
  deriving DecidableEq

/-- The reports that a stop makes at its end. -/
def finalReports (w : Wiring) (runtimeDependencies : Bool) (t : Teardown) : FinalReports where
  phase := finalPhase w t.args
  localState :=
    if t.args.emitTerminationSignal && runtimeDependencies then some (finalPhase w t.args).value
    else none
  runtimeStatus :=
    if w.srmBaseUrl then
      some (if isFailureShutdown t.resolvedReason.value then "FAILED" else "STOPPED")
    else none

/-- The reports that are made denote the canonical state of the phase. -/
def Agree (r : FinalReports) : Prop :=
  (∀ text ∈ r.localState, (WorkerPhase.ofValue? text).map WorkerPhase.localToDefaultCanonicalState =
    some r.phase.localToDefaultCanonicalState) ∧
  ∀ text ∈ r.runtimeStatus,
    CanonicalRuntimeState.ofValue? text = some r.phase.localToDefaultCanonicalState

instance (r : FinalReports) : Decidable (Agree r) :=
  inferInstanceAs (Decidable (_ ∧ _))

/-- The manager is told of no failure: there is no manager to tell, or the reason of the accepted
stop request is none, or there was no request and neither the phase, when the caller gave no reason,
nor the reason of the caller is one. -/
def NoFailure (w : Wiring) (t : Teardown) : Prop :=
  w.srmBaseUrl = false ∨
    match t.stopRequest, t.args.terminationReasonCode with
    | some reason, _ => canonicalReasonFromStopRequest reason ≠ .unhealthyExecutionDetected
    | none, none => t.phase ≠ .failed
    | none, some code => normalizedReason (some code) ≠ .unhealthyExecutionDetected

theorem noFailure_iff {w : Wiring} {t : Teardown} :
    NoFailure w t ↔ (w.srmBaseUrl = true → t.resolvedReason ≠ .unhealthyExecutionDetected) := by
  have herror : normalizedReason (some "ERROR_DETECTED") = .unhealthyExecutionDetected := by
    decide +kernel
  have hmanual : normalizedReason (some "MANUAL_STOP_REQUESTED") = .stopRequested := by
    decide +kernel
  unfold NoFailure Teardown.resolvedReason
  cases w.srmBaseUrl with
  | false => simp
  | true =>
      simp only [Bool.true_eq_false, false_or, true_implies]
      cases t.stopRequest with
      | some reason => rfl
      | none =>
          cases t.args.terminationReasonCode with
          | none => by_cases hphase : t.phase = .failed <;> simp [hphase, herror, hmanual]
          | some code =>
              by_cases hcode : code = "RUNTIME_JOB_COMPLETED"
              · simp [hcode]
              · simp [hcode]

/-- Both final phases denote the stopped state. -/
theorem finalPhase_canonical (w : Wiring) (args : StopArgs) :
    (finalPhase w args).localToDefaultCanonicalState = .stopped := by
  unfold finalPhase
  split <;> rfl

/-- The reports of a stop agree exactly when it reports no failure. -/
theorem agree_iff (w : Wiring) (runtimeDependencies : Bool) (t : Teardown) :
    Agree (finalReports w runtimeDependencies t) ↔ NoFailure w t := by
  have hlocal : ∀ text ∈ (finalReports w runtimeDependencies t).localState,
      (WorkerPhase.ofValue? text).map WorkerPhase.localToDefaultCanonicalState =
        some (finalReports w runtimeDependencies t).phase.localToDefaultCanonicalState := by
    intro text htext
    simp only [finalReports, Option.mem_def] at htext
    split at htext
    · obtain rfl := Option.some.inj htext
      rw [WorkerPhase.ofValue?_value, Option.map_some, finalReports]
    · cases htext
  have hstopped : CanonicalRuntimeState.ofValue? "STOPPED" = some .stopped := by decide
  have hfailed : CanonicalRuntimeState.ofValue? "FAILED" = some .failed := by decide
  rw [noFailure_iff, Agree, and_iff_right hlocal, ← not_iff_not]
  simp only [finalReports, finalPhase_canonical]
  cases w.srmBaseUrl with
  | false => simp
  | true =>
      by_cases hreason : t.resolvedReason = .unhealthyExecutionDetected
      · simp [isFailureShutdown_value, hreason, hfailed]
      · simp [isFailureShutdown_value, hreason, hstopped]

/-! ## Runs -/

structure Worker where
  phase : WorkerPhase
  runtimeDependencies : Bool
  stopRequest : Option String
  /-- The stops that have been entered and are not completed. -/
  teardowns : List Teardown
  /-- The completed stops with their reports. -/
  completed : List (Teardown × FinalReports)

/-- A worker that is not started. -/
def Worker.new : Worker :=
  ⟨.initializing, false, none, [], []⟩

inductive Step where
  /-- {lit}`_set_phase` of the startup and of its rollback. -/
  | setPhase (phase : WorkerPhase)
  | initializeDependencies
  /-- {lit}`initiate_stop_from_request(reason)` is accepted, once. -/
  | acceptStop (reason : String)
  | enterStop (args : StopArgs)
  /-- The stop at a position of the entered ones sets its final phase and reports. -/
  | completeStop (i : Nat)

def Worker.step (w : Wiring) (s : Worker) : Step → Option Worker
  | .setPhase phase => some { s with phase }
  | .initializeDependencies => some { s with runtimeDependencies := true }
  | .acceptStop reason =>
      if s.stopRequest.isSome then none else some { s with stopRequest := some reason }
  | .enterStop args =>
      some { s with teardowns := s.teardowns ++ [⟨args, s.stopRequest, s.phase⟩] }
  | .completeStop i =>
      match s.teardowns[i]? with
      | none => none
      | some t =>
          some { s with
            phase := finalPhase w t.args
            teardowns := s.teardowns.eraseIdx i
            completed := s.completed ++ [(t, finalReports w s.runtimeDependencies t)] }

/-- Stops, stop requests and phase changes in any order. -/
def system (w : Wiring) : TransitionSystem Worker Step where
  init := .new
  step := Worker.step w

/-- The reports of a completed stop are those of what it read on entering. -/
def Reported (w : Wiring) (s : Worker) : Prop :=
  ∀ c ∈ s.completed, ∃ runtimeDependencies, c.2 = finalReports w runtimeDependencies c.1

theorem reported_step {w : Wiring} {s s' : Worker} {step : Step} (h : Reported w s)
    (hstep : s.step w step = some s') : Reported w s' := by
  cases step with
  | setPhase phase =>
      obtain rfl := Option.some.inj hstep
      exact h
  | initializeDependencies =>
      obtain rfl := Option.some.inj hstep
      exact h
  | acceptStop reason =>
      simp only [Worker.step] at hstep
      split at hstep
      · cases hstep
      · obtain rfl := Option.some.inj hstep
        exact h
  | enterStop args =>
      obtain rfl := Option.some.inj hstep
      exact h
  | completeStop i =>
      simp only [Worker.step] at hstep
      split at hstep
      · cases hstep
      · rename_i t ht
        obtain rfl := Option.some.inj hstep
        intro c hc
        rcases List.mem_append.1 hc with hc | hc
        · exact h c hc
        · obtain rfl := List.mem_singleton.1 hc
          exact ⟨s.runtimeDependencies, rfl⟩

/-- In every run of phase changes, stop requests and stops the final reports of all completed stops
agree exactly when none of these reports a failure. -/
theorem final_reports_agree_iff (w : Wiring) {steps : List Step} {s : Worker}
    (hrun : (system w).run .new steps = some s) :
    (∀ c ∈ s.completed, Agree c.2) ↔ ∀ c ∈ s.completed, NoFailure w c.1 := by
  have hreported : Reported w s := by
    refine TransitionSystem.run_invariant' (Reported w) (fun _ _ _ => reported_step) ?_ hrun
    intro c hc
    cases hc
  refine forall₂_congr fun c hc => ?_
  rcases hreported c hc with ⟨runtimeDependencies, hreports⟩
  rw [hreports, agree_iff]

/-! ## A stop for an error -/

/-- A paper worker with a runtime manager. -/
def managedWorker : Wiring where
  mode := .paper
  strategyInstanceManager := true
  workAcceptor := false
  periodicJobs := false
  diagnosticFlusher := false
  closeables := []
  onStep := false
  stateJournal := false
  srmBaseUrl := true
  replayGateway := false

/-- A running worker is stopped on request, for the given reason. -/
def stopOnRequest (reason : String) : List Step :=
  [.initializeDependencies, .setPhase .ready, .setPhase .running, .acceptStop reason,
    .enterStop shutdownThreadArgs, .completeStop 0]

/-- The worker after it was stopped. -/
def stoppedOnRequest (reason : String) : Worker where
  phase := .stopped
  runtimeDependencies := true
  stopRequest := some reason
  teardowns := []
  completed :=
    [(⟨shutdownThreadArgs, some reason, .running⟩,
      finalReports managedWorker true ⟨shutdownThreadArgs, some reason, .running⟩)]

theorem run_stopOnRequest (reason : String) :
    (system managedWorker).run .new (stopOnRequest reason) = some (stoppedOnRequest reason) := by
  rfl

theorem final_reports_agree_iff_operator :
    (∀ c ∈ (stoppedOnRequest "operator").completed, Agree c.2) ↔
      ∀ c ∈ (stoppedOnRequest "operator").completed, NoFailure managedWorker c.1 :=
  final_reports_agree_iff managedWorker (run_stopOnRequest "operator")

/-- A worker that is stopped for an error sets the stopped phase and reports a failure. -/
theorem final_reports_disagree :
    ¬ ∀ (w : Wiring) (steps : List Step) (s : Worker), (system w).run .new steps = some s →
      ∀ c ∈ s.completed, Agree c.2 := by
  intro hall
  have hagree := hall managedWorker _ _ (run_stopOnRequest "error") _ List.mem_cons_self
  revert hagree
  decide +kernel

end FinalStatus
end Lifecycle
end StrategyWorker
