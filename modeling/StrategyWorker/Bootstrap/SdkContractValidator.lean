import StrategyWorker.Bootstrap.EntrypointLoader

/-!
# Checking the strategy against its contract

{lit}`SdkContractValidator.validate` constructs the strategy, looks at the
methods that it must have, type-checks its file and compares the major version
of its marker.

Main results:

- Theorem {lit}`converts_validate`: the construction and one import are guarded;
  the number of the marker is not.
-/

namespace StrategyWorker
namespace Bootstrap

open Library
open PyText Logged

/-- The validator: its base type by its name. -/
structure SdkContractValidator where
  requiredMethods : List String
  requiredSdkMajor : Int
  requiredBaseType : Option String

/-- The validator that the runtime uses. -/
def SdkContractValidator.default : SdkContractValidator :=
  ⟨[], 1, some "Strategy"⟩

/-- {lit}`SdkContractValidationResult`; JSON can hold its details. -/
structure SdkContractValidationResult where
  sdkVersionMarker : Option String
  validatedType : String
  details : PyDict
  foreign_details : PyJson.foreign (.dict details) = []

/-- The result of the type check that {lit}`_collect_mypy_validation` returns. -/
structure MypyValidation where
  entrypoint : String
  moduleFile : String
  mypyResultPath : String
  mypyExitCode : Int
  mypyOutput : String

def MypyValidation.toDict (validation : MypyValidation) : PyDict :=
  [("entrypoint", .str validation.entrypoint), ("module_file", .str validation.moduleFile),
    ("mypy_result_path", .str validation.mypyResultPath),
    ("mypy_exit_code", .int validation.mypyExitCode), ("mypy_output", .str validation.mypyOutput)]

namespace SdkContractValidator

/-- {lit}`_sdk_failure(reason_code=..., message=..., details=...)`. -/
def sdkFailure {α : Type} (reasonCode message : String) (details : PyDict) : Stage α :=
  fail .sdkValidate reasonCode message false details

/-- {lit}`candidate()`, in its {lit}`try` statement. -/
def instantiateCandidate (w : World) (entrypoint : EntrypointLoadResult) : Stage PyObject :=
  catchWith (call w (some .instantiation) (.instantiate entrypoint.symbol)) fun x =>
    if Handler.instantiation.catches x then do
      let className : String ← call w none (.nameOf entrypoint.symbol)
      let name : String ← call w none .nameOfException
      let text : String ← call w none .strOfException
      sdkFailure "sdk_non_instantiable" "Resolved strategy class is not instantiable."
        [("entrypoint", .str entrypoint.entrypointSpec), ("class_name", .str className),
          ("exception_type", .str name), ("exception_message", .str text)]
    else raise x

/-- {lit}`required_base_type is not None and not issubclass(candidate, required_base_type)`. -/
def checkBaseType (w : World) (v : SdkContractValidator) (entrypoint : EntrypointLoadResult) :
    Stage Unit :=
  match v.requiredBaseType with
  | none => pure ()
  | some base => do
      let isSubclass : Bool ← call w none (.issubclass entrypoint.symbol base)
      if isSubclass then pure ()
      else do
        let resolved : String ← call w none (.nameOf entrypoint.symbol)
        sdkFailure "sdk_protocol_mismatch"
          "Resolved strategy class does not implement required protocol/base type."
          [("entrypoint", .str entrypoint.entrypointSpec), ("required_base_type", .str base),
            ("resolved_type", .str resolved)]

/-- The instance of a class, and the name of its type. -/
def instanceOfClass (w : World) (v : SdkContractValidator) (entrypoint : EntrypointLoadResult) :
    Stage (PyObject × String) := do
  v.checkBaseType w entrypoint
  let object ← instantiateCandidate w entrypoint
  let validatedType : String ← call w none (.nameOf entrypoint.symbol)
  pure (object, validatedType)

/-- An entrypoint that is no class. -/
def instanceOfCallable (w : World) (v : SdkContractValidator) (entrypoint : EntrypointLoadResult) :
    Stage (PyObject × String) := do
  match v.requiredBaseType with
  | some base => do
      let kind : String ← call w none (.nameOfType entrypoint.symbol)
      sdkFailure "sdk_protocol_mismatch"
        ("Strategy entrypoint must resolve to a strategy class (subclass of " ++ base ++
          "), not a bare callable.")
        [("entrypoint", .str entrypoint.entrypointSpec), ("required_base_type", .str base),
          ("resolved_kind", .str kind)]
  | none => do
      let validatedType : String ← call w none (.nameOfType entrypoint.symbol)
      pure (entrypoint.symbol, validatedType)

/-- The instance that is checked, and the name of its type. -/
def instanceOf (w : World) (v : SdkContractValidator) (entrypoint : EntrypointLoadResult) :
    Stage (PyObject × String) := do
  let isClass : Bool ← call w none (.isClass entrypoint.symbol)
  if isClass then v.instanceOfClass w entrypoint else v.instanceOfCallable w entrypoint

/-- {lit}`method_name == "run" and inspect.isfunction(instance)`. -/
def isFunctionFor (w : World) (object : PyObject) (methodName : String) : Stage Bool :=
  if methodName = "run" then call w none (.isFunction object) else pure false

/-- The failure of {lit}`_resolve_method`. -/
def missingMethod (w : World) (object : PyObject) (methodName : String)
    (entrypoint : EntrypointLoadResult) : Stage PyObject := do
  let name : String ← call w none (.nameOfType object)
  sdkFailure "sdk_missing_required_method" "SDK-required method is missing."
    [("entrypoint", .str entrypoint.entrypointSpec), ("missing_method", .str methodName),
      ("resolved_type", .str name)]

/-- {lit}`_resolve_method(instance=..., method_name=..., entrypoint=...)`. -/
def resolveMethod (w : World) (object : PyObject) (methodName : String)
    (entrypoint : EntrypointLoadResult) : Stage PyObject := do
  let isRunFunction ← isFunctionFor w object methodName
  if isRunFunction then pure object
  else do
    let method : Option PyObject ← call w none (.getattrOrNone object methodName)
    match method with
    | none => missingMethod w object methodName entrypoint
    | some method => do
        let isCallable : Bool ← call w none (.isCallable method)
        if isCallable then pure method else missingMethod w object methodName entrypoint

/-- {lit}`_expected_signature_description(method_name)`. -/
def expectedSignatureDescription (methodName : String) : String :=
  if methodName = "run" then
    "legacy run(context): exactly one required positional parameter " ++
      "(in addition to self on methods), or use a Strategy subclass with the default validator"
  else "callable '" ++ methodName ++ "' present (no additional signature checks)"

/-- {lit}`_signature_is_compatible(method_name=..., signature=...)`. -/
def signatureIsCompatible (methodName : String) (signature : Signature) : Bool :=
  if methodName ≠ "run" then true
  else (signature.parameters.filter fun p => p.1 && p.2).length = 1

/-- {lit}`_validate_required_methods(...)`: one method. -/
def validateRequiredMethod (w : World) (object : PyObject) (entrypoint : EntrypointLoadResult)
    (methodName : String) : Stage Unit := do
  let method ← resolveMethod w object methodName entrypoint
  let signature : Signature ← call w none (.signature method)
  if signatureIsCompatible methodName signature then pure ()
  else do
    let text : String ← call w none (.strOfSignature method)
    sdkFailure "sdk_invalid_signature" "SDK-required method signature is incompatible."
      [("entrypoint", .str entrypoint.entrypointSpec), ("method", .str methodName),
        ("signature", .str text), ("expected", .str (expectedSignatureDescription methodName))]

/-- {lit}`text[:n]`. -/
def takeChars (n : Nat) (text : String) : String :=
  String.ofList (text.toList.take n)

/-- The type check of a file. -/
def runTypeCheck (w : World) (entrypoint : EntrypointLoadResult) (moduleFile : PyPath) :
    Stage MypyValidation := do
  let runner : PyPath ← call w none .resolveRunner
  let proc : CompletedProcess ← call w none (.runMypy runner moduleFile)
  let resultPath : String ← call w none (.mypyResultPath moduleFile)
  pure {
    entrypoint := entrypoint.entrypointSpec
    moduleFile := moduleFile.text
    mypyResultPath := resultPath
    mypyExitCode := proc.returncode
    mypyOutput := takeChars 4000 (strip (proc.stdout ++ proc.stderr)) }

/-- {lit}`_collect_mypy_validation(entrypoint=...)`. -/
def collectMypyValidation (w : World) (entrypoint : EntrypointLoadResult) :
    Stage (Option MypyValidation) :=
  match entrypoint.moduleFile with
  | none => pure none
  | some raw =>
      if strip raw = "" then pure none
      else do
        let moduleFile : PyPath ← call w none (.resolve (PyPath.ofText raw))
        let isFile : Bool ← call w none (.isFile moduleFile)
        if isFile ∧ moduleFile.suffix = ".py" then do
          let mypyValidation ← runTypeCheck w entrypoint moduleFile
          pure (some mypyValidation)
        else
          pure none

/-- {lit}`part in text`. -/
def hasInfix (text part : String) : Bool :=
  text.toList.tails.any fun rest => part.toList.isPrefixOf rest

/-- {lit}`_validate_mypy_compatibility(...)`. -/
def validateMypyCompatibility (mypyValidation : Option MypyValidation) : Stage Unit :=
  match mypyValidation with
  | none => pure ()
  | some validation =>
      if validation.mypyExitCode = 0 then pure ()
      else if hasInfix validation.mypyOutput "No module named mypy" ∨
          hasInfix validation.mypyOutput "No module named 'mypy'" then pure ()
      else
        sdkFailure "sdk_protocol_mismatch" "Strategy code failed mypy compatibility validation."
          validation.toDict

/-- The import for the marker, in its {lit}`try` statement. -/
def importForMarker (w : World) (moduleName : String) : Stage (Option PyObject) :=
  catchWith (do
      let module : PyObject ← call w (some .markerImport) (.importModule moduleName)
      pure (some module))
    fun x => if Handler.markerImport.catches x then pure none else raise x

/-- {lit}`_resolve_sdk_marker(candidate=..., instance=...)`. -/
def resolveSdkMarker (w : World) (candidate object : PyObject) : Stage (Option String) := do
  let candidateMarker : Option String ←
    call w none (.textAttribute candidate "__strategy_sdk_version__")
  match candidateMarker with
  | some marker => pure (some marker)
  | none => do
      let instanceMarker : Option String ←
        call w none (.textAttribute object "__strategy_sdk_version__")
      match instanceMarker with
      | some marker => pure (some marker)
      | none => do
          let moduleName : Option String ← call w none (.textAttribute candidate "__module__")
          match moduleName with
          | none => pure none
          | some name =>
              match ← importForMarker w name with
              | none => pure none
              | some module => call w none (.textAttribute module "__strategy_sdk_version__")

/-- {lit}`marker.split(".", 1)[0]`. -/
def majorFragment (marker : String) : String :=
  String.ofList (marker.toList.takeWhile fun c => c ≠ '.')

/-- {lit}`int(major_fragment)`: no handler is around it, and it raises {lit}`ValueError`. -/
def parseMajor (fragment : String) : Stage Nat :=
  call (fun _ operation =>
    match operation with
    | .intOfDigits text => (intOfDigits text).elim (.error (.other .valueError)) .ok
    | _ => .error (.other .exception)) none (.intOfDigits fragment)

/-- {lit}`_validate_sdk_marker(marker=..., entrypoint=..., extra_details=...)`. -/
def validateSdkMarker (v : SdkContractValidator) (marker : Option String)
    (entrypoint : EntrypointLoadResult) (extraDetails : PyDict) : Stage Unit :=
  match marker with
  | none => pure ()
  | some marker =>
      if ¬ isDigitText (majorFragment marker) then
        sdkFailure "sdk_marker_invalid" "SDK version marker is malformed."
          ((extraDetails.set "entrypoint" (.str entrypoint.entrypointSpec)).set
            "sdk_version_marker" (.str marker))
      else do
        let major ← parseMajor (majorFragment marker)
        if (major : Int) ≠ v.requiredSdkMajor then
          sdkFailure "sdk_marker_incompatible"
            "SDK version marker is incompatible with runtime contract."
            (((extraDetails.set "entrypoint" (.str entrypoint.entrypointSpec)).set
              "sdk_version_marker" (.str marker)).set "required_sdk_major" (.int v.requiredSdkMajor))
        else
          pure ()

/-- The details of a valid strategy. -/
def validDetails (v : SdkContractValidator) : PyDict :=
  [("required_methods", .list (v.requiredMethods.map .str)),
    ("required_base_type", v.requiredBaseType.elim .none .str)]

theorem foreign_validDetails (v : SdkContractValidator) :
    PyJson.foreign (.dict v.validDetails) = [] := by
  have htexts : ∀ names : List String, PyJson.foreignList (names.map .str) = [] := by
    intro names
    induction names with
    | nil => rfl
    | cons name names ih => simp [PyJson.foreignList, PyJson.foreign, ih]
  cases hbase : v.requiredBaseType <;>
    simp [validDetails, PyJson.foreign, PyJson.foreignFields, htexts, hbase]

/-- {lit}`validate(entrypoint)`. -/
def validate (w : World) (v : SdkContractValidator) (entrypoint : EntrypointLoadResult) :
    Stage SdkContractValidationResult := do
  let (object, validatedType) ← v.instanceOf w entrypoint
  forEach (validateRequiredMethod w object entrypoint) v.requiredMethods
  let mypyValidation ← collectMypyValidation w entrypoint
  validateMypyCompatibility mypyValidation
  let marker ← resolveSdkMarker w entrypoint.symbol object
  v.validateSdkMarker marker entrypoint (mypyValidation.elim [] MypyValidation.toDict)
  pure ⟨marker, validatedType, v.validDetails, v.foreign_validDetails⟩

/-! ## What is converted -/

theorem converts_instanceOf (w : World) (v : SdkContractValidator)
    (entrypoint : EntrypointLoadResult) : ConvertsUnder none (v.instanceOf w entrypoint) := by
  have hinstantiate : ConvertsUnder none (instantiateCandidate w entrypoint) := by
    refine converts_try (converts_call w _) (fun x hx => ?_) (fun x hx => by simp [hx])
    rw [if_pos hx]
    refine Converts.bind (converts_call w _) fun className => ?_
    refine Converts.bind (converts_call w _) fun name => ?_
    exact Converts.bind (converts_call w _) fun text => converts_fail (by simp [stageReasons]) rfl
  have hbase : ConvertsUnder none (v.checkBaseType w entrypoint) := by
    unfold checkBaseType
    cases v.requiredBaseType with
    | none => exact Converts.pure _
    | some base =>
        refine Converts.bind (converts_call w _) fun isSubclass => ?_
        refine Converts.ite (Converts.pure _) ?_
        exact Converts.bind (converts_call w _) fun name => converts_fail (by simp [stageReasons]) rfl
  refine Converts.bind (converts_call w _) fun isClass => ?_
  refine Converts.ite ?_ ?_
  · refine Converts.bind hbase fun _ => ?_
    refine Converts.bind hinstantiate fun object => ?_
    exact Converts.bind (converts_call w _) fun name => Converts.pure _
  · unfold instanceOfCallable
    cases v.requiredBaseType with
    | none => exact Converts.bind (converts_call w _) fun name => Converts.pure _
    | some base =>
        exact Converts.bind (converts_call w _) fun name => converts_fail (by simp [stageReasons]) rfl

theorem converts_validateRequiredMethod (w : World) (object : PyObject)
    (entrypoint : EntrypointLoadResult) (methodName : String) :
    ConvertsUnder none (validateRequiredMethod w object entrypoint methodName) := by
  have hfunction : ConvertsUnder none (isFunctionFor w object methodName) := by
    unfold isFunctionFor
    exact Converts.ite (converts_call w _) (Converts.pure _)
  have hmissing : ConvertsUnder none (missingMethod w object methodName entrypoint) :=
    Converts.bind (converts_call w _) fun name => converts_fail (by simp [stageReasons]) rfl
  have hmethod : ConvertsUnder none (resolveMethod w object methodName entrypoint) := by
    refine Converts.bind hfunction fun isRunFunction => ?_
    refine Converts.ite (Converts.pure _) ?_
    refine Converts.bind (converts_call w _) fun method => ?_
    cases method with
    | none => exact hmissing
    | some method =>
        exact Converts.bind (converts_call w _) fun _ => Converts.ite (Converts.pure _) hmissing
  refine Converts.bind hmethod fun method => ?_
  refine Converts.bind (converts_call w _) fun signature => ?_
  refine Converts.ite (Converts.pure _) ?_
  exact Converts.bind (converts_call w _) fun text => converts_fail (by simp [stageReasons]) rfl

theorem converts_collectMypyValidation (w : World) (entrypoint : EntrypointLoadResult) :
    ConvertsUnder none (collectMypyValidation w entrypoint) := by
  have htypeCheck : ∀ moduleFile, ConvertsUnder none (runTypeCheck w entrypoint moduleFile) := by
    intro moduleFile
    refine Converts.bind (converts_call w _) fun runner => ?_
    refine Converts.bind (converts_call w _) fun proc => ?_
    exact Converts.bind (converts_call w _) fun resultPath => Converts.pure _
  unfold collectMypyValidation
  cases entrypoint.moduleFile with
  | none => exact Converts.pure _
  | some raw =>
      refine Converts.ite (Converts.pure _) ?_
      refine Converts.bind (converts_call w _) fun moduleFile => ?_
      refine Converts.bind (converts_call w _) fun isFile => ?_
      refine Converts.ite ?_ (Converts.pure _)
      exact Converts.bind (htypeCheck _) fun _ => Converts.pure _

theorem converts_validateMypyCompatibility (mypyValidation : Option MypyValidation) :
    ConvertsUnder none (validateMypyCompatibility mypyValidation) := by
  cases mypyValidation with
  | none => exact Converts.pure _
  | some validation =>
      refine Converts.ite (Converts.pure _) (Converts.ite (Converts.pure _) ?_)
      exact converts_fail (by simp [stageReasons]) rfl

theorem converts_resolveSdkMarker (w : World) (candidate object : PyObject) :
    ConvertsUnder none (resolveSdkMarker w candidate object) := by
  have himport : ∀ name, ConvertsUnder none (importForMarker w name) := by
    intro name
    refine converts_try (Converts.bind (converts_call w _) fun _ => Converts.pure _)
      (fun x hx => ?_) (fun x hx => by simp [hx])
    rw [if_pos hx]
    exact Converts.pure _
  refine Converts.bind (converts_call w _) fun candidateMarker => ?_
  cases candidateMarker with
  | some marker => exact Converts.pure _
  | none =>
      refine Converts.bind (converts_call w _) fun instanceMarker => ?_
      cases instanceMarker with
      | some marker => exact Converts.pure _
      | none =>
          refine Converts.bind (converts_call w _) fun moduleName => ?_
          cases moduleName with
          | none => exact Converts.pure _
          | some name =>
              refine Converts.bind (himport name) fun module => ?_
              cases module with
              | none => exact Converts.pure _
              | some module => exact converts_call w _

/-- The number of a marker is a call that no clause guards. -/
theorem converts_validateSdkMarker (v : SdkContractValidator) (marker : Option String)
    (entrypoint : EntrypointLoadResult) (mypyValidation : Option MypyValidation) :
    ConvertsUnder none
      (v.validateSdkMarker marker entrypoint (mypyValidation.elim [] MypyValidation.toDict)) := by
  cases marker with
  | none => exact Converts.pure _
  | some marker =>
      refine Converts.ite ?_ ?_
      · cases mypyValidation <;> exact converts_fail (by simp [stageReasons]) rfl
      · refine Converts.bind (converts_call _ _) fun major => ?_
        refine Converts.ite ?_ (Converts.pure _)
        cases mypyValidation <;> exact converts_fail (by simp [stageReasons]) rfl

/-- What is raised while the contract is checked. -/
theorem converts_validate (w : World) (v : SdkContractValidator)
    (entrypoint : EntrypointLoadResult) : ConvertsUnder none (v.validate w entrypoint) := by
  refine Converts.bind (converts_instanceOf w v entrypoint) fun checked => ?_
  rcases checked with ⟨object, validatedType⟩
  refine Converts.bind ?_ fun _ => ?_
  · exact Converts.forEach fun methodName _ => converts_validateRequiredMethod w _ _ methodName
  refine Converts.bind (converts_collectMypyValidation w _) fun mypyValidation => ?_
  refine Converts.bind (converts_validateMypyCompatibility _) fun _ => ?_
  refine Converts.bind (converts_resolveSdkMarker w _ _) fun marker => ?_
  exact Converts.bind (converts_validateSdkMarker v marker _ _) fun _ => Converts.pure _

end SdkContractValidator
end Bootstrap
end StrategyWorker
