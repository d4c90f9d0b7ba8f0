import StrategyWorker.Library.PyText
import Mathlib.Data.List.Basic

/-!
# Reason codes and error codes

The reason codes of the worker, the older spellings that are still accepted,
and the error code that goes with a reason.

Main results:

- Theorem {lit}`normalizedReason_value`: a reason code stands for itself.
- Theorem {lit}`workerErrorCodeForReason_normalize`: the error code of a reason
  is that of its normal form.
-/

namespace StrategyWorker
namespace Domain

open Library.PyText

/-! ## Reason codes -/

inductive RuntimeWorkerReasonCode where
  | stopRequested
  | heartbeatTimeoutEnforced
  | policyViolation
  | artifactReferenceInvalid
  | artifactDigestMismatch
  | entrypointImportFailed
  | sdkCompatibilityFailed
  | bootstrapMetadataMissing
  | bootstrapMetadataInconsistent
  | modeDependencyNotAllowed
  | backtestReplayDirectAccessBlocked
  | omsBypassBlocked
  | boundDependencyUnavailable
  | initializationTimeout
  | controlledShutdownInitiated
  | unhealthyExecutionDetected
  | heartbeatEmissionFailed
  | localTerminationObserved
  | kubernetesTermination
  | strategyStartupFailed
  deriving DecidableEq, Repr

namespace RuntimeWorkerReasonCode

def value : RuntimeWorkerReasonCode → String
  | .stopRequested => "STOP_REQUESTED"
  | .heartbeatTimeoutEnforced => "HEARTBEAT_TIMEOUT_ENFORCED"
  | .policyViolation => "POLICY_VIOLATION"
  | .artifactReferenceInvalid => "ARTIFACT_REFERENCE_INVALID"
  | .artifactDigestMismatch => "ARTIFACT_DIGEST_MISMATCH"
  | .entrypointImportFailed => "ENTRYPOINT_IMPORT_FAILED"
  | .sdkCompatibilityFailed => "SDK_COMPATIBILITY_FAILED"
  | .bootstrapMetadataMissing => "BOOTSTRAP_METADATA_MISSING"
  | .bootstrapMetadataInconsistent => "BOOTSTRAP_METADATA_INCONSISTENT"
  | .modeDependencyNotAllowed => "MODE_DEPENDENCY_NOT_ALLOWED"
  | .backtestReplayDirectAccessBlocked => "BACKTEST_REPLAY_DIRECT_ACCESS_BLOCKED"
  | .omsBypassBlocked => "OMS_BYPASS_BLOCKED"
  | .boundDependencyUnavailable => "BOUND_DEPENDENCY_UNAVAILABLE"
  | .initializationTimeout => "INITIALIZATION_TIMEOUT"
  | .controlledShutdownInitiated => "CONTROLLED_SHUTDOWN_INITIATED"
  | .unhealthyExecutionDetected => "UNHEALTHY_EXECUTION_DETECTED"
  | .heartbeatEmissionFailed => "HEARTBEAT_EMISSION_FAILED"
  | .localTerminationObserved => "LOCAL_TERMINATION_OBSERVED"
  | .kubernetesTermination => "KUBERNETES_TERMINATION"
  | .strategyStartupFailed => "STRATEGY_STARTUP_FAILED"

/-- The codes in the order of their declaration. -/
def all : List RuntimeWorkerReasonCode :=
  [.stopRequested, .heartbeatTimeoutEnforced, .policyViolation, .artifactReferenceInvalid,
    .artifactDigestMismatch, .entrypointImportFailed, .sdkCompatibilityFailed,
    .bootstrapMetadataMissing, .bootstrapMetadataInconsistent, .modeDependencyNotAllowed,
    .backtestReplayDirectAccessBlocked, .omsBypassBlocked, .boundDependencyUnavailable,
    .initializationTimeout, .controlledShutdownInitiated, .unhealthyExecutionDetected,
    .heartbeatEmissionFailed, .localTerminationObserved, .kubernetesTermination,
    .strategyStartupFailed]

theorem mem_all (code : RuntimeWorkerReasonCode) : code ∈ all := by
  cases code <;> decide

/-- {lit}`RuntimeWorkerReasonCode(raw)`. -/
def ofValue? (raw : String) : Option RuntimeWorkerReasonCode :=
  all.find? fun code => code.value = raw

/-- Different codes have different texts, which start and end with a letter. -/
theorem ofValue?_value (code : RuntimeWorkerReasonCode) :
    ofValue? code.value = some code ∧ strip code.value = code.value := by
  cases code <;> decide +kernel

end RuntimeWorkerReasonCode

open RuntimeWorkerReasonCode

/-- {lit}`_LEGACY_RUNTIME_REASON_MAP`. -/
def legacyRuntimeReasonMap : List (String × RuntimeWorkerReasonCode) :=
  [("launch_spec_invalid", .bootstrapMetadataInconsistent),
    ("validation_runtime_error", .bootstrapMetadataInconsistent),
    ("bootstrap_start_failed", .bootstrapMetadataInconsistent),
    ("runtime_id_mismatch", .bootstrapMetadataInconsistent),
    ("launch_attempt_mismatch", .bootstrapMetadataInconsistent),
    ("strategy_version_id_mismatch", .bootstrapMetadataInconsistent),
    ("identity_mismatch", .bootstrapMetadataInconsistent),
    ("artifact_not_found", .artifactReferenceInvalid),
    ("artifact_access_denied", .artifactReferenceInvalid),
    ("artifact_fetch_failed", .artifactReferenceInvalid),
    ("artifact_materialization_failed", .artifactReferenceInvalid),
    ("artifact_provider_unsupported", .artifactReferenceInvalid),
    ("artifact_materialization_missing", .artifactReferenceInvalid),
    ("digest_unsupported", .artifactReferenceInvalid),
    ("expected_digest_missing", .artifactDigestMismatch),
    ("digest_mismatch", .artifactDigestMismatch),
    ("entrypoint_import_failed", .entrypointImportFailed),
    ("entrypoint_symbol_not_found", .entrypointImportFailed),
    ("entrypoint_symbol_invalid", .entrypointImportFailed),
    ("entrypoint_invalid", .entrypointImportFailed),
    ("sdk_protocol_mismatch", .sdkCompatibilityFailed),
    ("sdk_non_instantiable", .sdkCompatibilityFailed),
    ("sdk_invalid_signature", .sdkCompatibilityFailed),
    ("sdk_missing_required_method", .sdkCompatibilityFailed),
    ("sdk_marker_invalid", .sdkCompatibilityFailed),
    ("sdk_marker_incompatible", .sdkCompatibilityFailed),
    ("manual_stop_requested", .stopRequested),
    ("stop_requested", .stopRequested),
    ("kubernetes_termination", .kubernetesTermination),
    ("sigterm", .kubernetesTermination),
    ("runtime_job_completed", .localTerminationObserved),
    ("error_detected", .unhealthyExecutionDetected),
    ("grpc_emit_failed", .boundDependencyUnavailable),
    ("unsupported_signal_type", .boundDependencyUnavailable),
    ("submit_backtest_order_intent_failed", .boundDependencyUnavailable),
    ("submit_backtest_order_intent_not_configured", .boundDependencyUnavailable),
    ("noop_replay_client", .boundDependencyUnavailable),
    ("no_oms_client_configured", .boundDependencyUnavailable),
    ("heartbeat_lagging", .unhealthyExecutionDetected),
    ("strategy_bind_and_start_failed", .strategyStartupFailed),
    ("strategy_callback_contract_violation", .sdkCompatibilityFailed),
    ("strategy_callback_unhandled_exception", .unhealthyExecutionDetected),
    ("strategy_cleanup_contract_violation", .sdkCompatibilityFailed),
    ("strategy_cleanup_unhandled_exception", .unhealthyExecutionDetected)]

/-- The code that {lit}`normalize_runtime_reason_code` gives the value of. -/
def normalizedReason (value : Option String) : RuntimeWorkerReasonCode :=
  let raw := strip (value.getD "")
  if raw = "" then .policyViolation
  else
    match ofValue? raw with
    | some code => code
    | none =>
        match legacyRuntimeReasonMap.find? fun entry => entry.1 = lower raw with
        | some entry => entry.2
        | none => .policyViolation

/-- {lit}`normalize_runtime_reason_code(value)`. -/
def normalizeRuntimeReasonCode (value : Option String) : String :=
  (normalizedReason value).value

/-- A reason code stands for itself. -/
theorem normalizedReason_value (code : RuntimeWorkerReasonCode) :
    normalizedReason (some code.value) = code := by
  rcases ofValue?_value code with ⟨hvalue, hstrip⟩
  have hne : code.value ≠ "" := by
    cases code <;> decide
  simp only [normalizedReason, Option.getD_some, hstrip, if_neg hne, hvalue]

/-! ## Error codes -/

inductive WorkerErrorCode where
  | artifactNotFound
  | artifactDigestMismatch
  | entrypointNotFound
  | sdkContractInvalid
  | modeNotSupported
  | bootstrapFailed
  | alreadyStopped
  | dependencyUnhealthy
  | runtimeCompleted
  | runtimeFailed
  | policyViolation
  | internalError
  deriving DecidableEq, Repr

def WorkerErrorCode.value : WorkerErrorCode → String
  | .artifactNotFound => "WORKER_ARTIFACT_NOT_FOUND"
  | .artifactDigestMismatch => "WORKER_ARTIFACT_DIGEST_MISMATCH"
  | .entrypointNotFound => "WORKER_ENTRYPOINT_NOT_FOUND"
  | .sdkContractInvalid => "WORKER_SDK_CONTRACT_INVALID"
  | .modeNotSupported => "WORKER_MODE_NOT_SUPPORTED"
  | .bootstrapFailed => "WORKER_BOOTSTRAP_FAILED"
  | .alreadyStopped => "WORKER_ALREADY_STOPPED"
  | .dependencyUnhealthy => "WORKER_DEPENDENCY_UNHEALTHY"
  | .runtimeCompleted => "WORKER_RUNTIME_COMPLETED"
  | .runtimeFailed => "WORKER_RUNTIME_FAILED"
  | .policyViolation => "WORKER_POLICY_VIOLATION"
  | .internalError => "WORKER_INTERNAL_ERROR"

/-- The error code of a reason code; {lit}`KUBERNETES_TERMINATION` has none of its own. -/
def errorCodeOf : RuntimeWorkerReasonCode → WorkerErrorCode
  | .stopRequested => .alreadyStopped
  | .heartbeatTimeoutEnforced => .dependencyUnhealthy
  | .policyViolation => .policyViolation
  | .artifactReferenceInvalid => .artifactNotFound
  | .artifactDigestMismatch => .artifactDigestMismatch
  | .entrypointImportFailed => .entrypointNotFound
  | .sdkCompatibilityFailed => .sdkContractInvalid
  | .bootstrapMetadataMissing => .bootstrapFailed
  | .bootstrapMetadataInconsistent => .bootstrapFailed
  | .modeDependencyNotAllowed => .modeNotSupported
  | .backtestReplayDirectAccessBlocked => .policyViolation
  | .omsBypassBlocked => .policyViolation
  | .boundDependencyUnavailable => .dependencyUnhealthy
  | .initializationTimeout => .bootstrapFailed
  | .controlledShutdownInitiated => .runtimeFailed
  | .unhealthyExecutionDetected => .runtimeFailed
  | .heartbeatEmissionFailed => .dependencyUnhealthy
  | .localTerminationObserved => .runtimeCompleted
  | .kubernetesTermination => .internalError
  | .strategyStartupFailed => .bootstrapFailed

/-- {lit}`worker_error_code_for_reason(reason_code)`. -/
def workerErrorCodeForReason (reasonCode : String) : String :=
  (errorCodeOf (normalizedReason (some reasonCode))).value

/-- The error code of a reason is that of its normal form. -/
theorem workerErrorCodeForReason_normalize (value : String) :
    workerErrorCodeForReason (normalizeRuntimeReasonCode (some value)) =
      workerErrorCodeForReason value := by
  rw [workerErrorCodeForReason, normalizeRuntimeReasonCode, normalizedReason_value,
    workerErrorCodeForReason]

end Domain
end StrategyWorker
