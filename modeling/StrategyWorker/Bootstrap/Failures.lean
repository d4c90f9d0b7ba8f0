import StrategyWorker.Library.PyValue

/-!
# Failures of the bootstrap

Every stage of the bootstrap reports what went wrong as a failure with a reason
code in upper case, which is never blank.
-/

namespace StrategyWorker
namespace Bootstrap

open Library
open PyText

inductive BootstrapStage where
  | artifactFetch
  | artifactVerify
  | entrypointLoad
  | sdkValidate
  deriving DecidableEq, Repr

def BootstrapStage.value : BootstrapStage → String
  | artifactFetch => "artifact_fetch"
  | artifactVerify => "artifact_verify"
  | entrypointLoad => "entrypoint_load"
  | sdkValidate => "sdk_validate"

structure BootstrapFailure where
  stage : BootstrapStage
  reasonCode : String
  retryable : Bool
  details : PyDict
  message : String
  reasonCode_ne : reasonCode ≠ ""

/-- The constructor with its {lit}`__post_init__`. -/
def BootstrapFailure.make (stage : BootstrapStage) (reasonCode : String) (retryable : Bool)
    (details : PyDict) (message : String) : Except PyException BootstrapFailure :=
  if h : upper (strip reasonCode) = "" then
    .error ⟨.valueError, some "reason_code must not be blank"⟩
  else .ok ⟨stage, upper (strip reasonCode), retryable, details, message, h⟩

end Bootstrap
end StrategyWorker
