import StrategyWorker.Bootstrap.Failures
import StrategyWorker.Library.Conversion
import StrategyWorker.Library.PyPath
import StrategyWorker.Library.PyJsonText

/-!
# The world around the bootstrap

The stages of the bootstrap ask the file system, the archive and the loaded
strategy for everything they decide on.  Each such call is an operation; it is
logged with the {lit}`try` statement it stands in and with what it raised.  How
a call ends is decided by a world that knows all calls before.

Main results:

- Definition {lit}`Handler.catches`: the exceptions of each {lit}`except`
  clause.
- Theorem {lit}`converts_call`, theorem {lit}`converts_fail`: a call is
  converted by the clauses around it, and a failure that a stage reports by the
  pipeline.
- Theorem {lit}`converts_try`: what a {lit}`try` statement adds.
-/

namespace StrategyWorker
namespace Bootstrap

open Library
open PyText Logged

/-! ## Exceptions -/

/-- The classes of exceptions that the handlers tell apart. -/
inductive ExceptionClass where
  | artifactProviderNotFoundError
  | artifactProviderAccessDeniedError
  | artifactProviderFetchError
  | osError
  | valueError
  /-- Any other {lit}`Exception`. -/
  | exception
  /-- A {lit}`BaseException` that is no {lit}`Exception`, such as {lit}`SystemExit`. -/
  | baseException
  deriving DecidableEq, Repr

/-- What is raised inside a stage. -/
inductive Raised where
  | failure (failure : BootstrapFailure)
  | other (c : ExceptionClass)

/-- The {lit}`try` statements of the stages. -/
inductive Handler where
  /-- {lit}`except ValueError` in {lit}`_maybe_fetch_strategy_bundle_zip`. -/
  | bundlePath
  /-- {lit}`except ArtifactProviderFetchError` in {lit}`_maybe_fetch_generic_verified_zip`. -/
  | zipPath
  /-- The four clauses around {lit}`provider.fetch`. -/
  | provider
  /-- {lit}`except ValueError` around {lit}`hashlib.new`. -/
  | algorithm
  /-- {lit}`except Exception` around the import of the entrypoint. -/
  | entrypointImport
  /-- {lit}`except Exception` around the construction of the strategy. -/
  | instantiation
  /-- {lit}`except Exception` around the import for the marker. -/
  | markerImport
  deriving DecidableEq, Repr

/-- {lit}`except Exception` catches it. -/
def Raised.isException : Raised → Bool
  | .failure _ => true
  | .other c => c ≠ .baseException

/-- The exceptions that a handler catches. -/
def Handler.catches (handler : Handler) (x : Raised) : Bool :=
  match handler, x with
  | bundlePath, .other .valueError => true
  | algorithm, .other .valueError => true
  | zipPath, .other .artifactProviderFetchError => true
  | provider, .other .artifactProviderNotFoundError => true
  | provider, .other .artifactProviderAccessDeniedError => true
  | provider, .other .artifactProviderFetchError => true
  | provider, .other .osError => true
  | entrypointImport, x => x.isException
  | instantiation, x => x.isException
  | markerImport, x => x.isException
  | _, _ => false

/-- A failure whose details JSON can hold. -/
def BootstrapFailure.Recordable (f : BootstrapFailure) : Prop :=
  PyJson.foreign (.dict f.details) = []

/-- {lit}`except BootstrapFailure` in the pipeline turns it into a result that can be recorded. -/
def Raised.Recordable : Raised → Prop
  | .failure f => f.Recordable
  | .other _ => False

/-! ## Operations -/

/-- An object of the loaded strategy, by its identity. -/
structure PyObject where
  id : Nat
  deriving DecidableEq, Repr

/-- {lit}`urlparse(...)`, its parts that are read. -/
structure ParsedUrl where
  scheme : String
  netloc : String
  path : String

/-- {lit}`inspect.Signature`: of each parameter whether it is positional and whether it has no
default. -/
structure Signature where
  parameters : List (Bool × Bool)

/-- {lit}`subprocess.run(...)`. -/
structure CompletedProcess where
  returncode : Int
  stdout : String
  stderr : String

/-- {lit}`ArtifactMaterialization`. -/
structure ArtifactMaterialization where
  sourceReference : String
  materializedRoot : PyPath
  provenance : List (String × String)
  digestRelativePaths : Option (List String)

/-- The calls whose end the text of the program does not decide. -/
inductive Operation where
  | resolve (p : PyPath)
  | cwd
  | isFile (p : PyPath)
  | pathExists (p : PyPath)
  | isDir (p : PyPath)
  | mkdir (p : PyPath)
  | rmtree (p : PyPath)
  | iterdir (p : PyPath)
  | rglob (p : PyPath)
  | copytree (source destination : PyPath)
  | copy2 (source destination : PyPath)
  | readBytes (p : PyPath)
  | urlparse (text : String)
  | unquote (text : String)
  | url2pathname (text : String)
  | asUri (p : PyPath)
  /-- {lit}`zipfile.ZipFile(...).infolist()`: the names of the entries. -/
  | openZip (p : PyPath)
  | openEntry (zip : PyPath) (filename : String)
  | openTarget (p : PyPath)
  | copyEntry (zip : PyPath) (filename : String) (p : PyPath)
  /-- {lit}`fetch` of a provider that is not one of the runtime's own. -/
  | fetchFrom (provider reference : String) (target : PyPath)
  | hashlibNew (algorithm : String)
  | encodeUtf8 (text : String)
  | hexdigest (algorithm : String) (bytes : List Nat)
  /-- {lit}`str(exc)`. -/
  | strOfException
  /-- {lit}`type(exc).__name__`. -/
  | nameOfException
  | importModule (name : String)
  | hasattr (object : PyObject) (name : String)
  | getattr (object : PyObject) (name : String)
  /-- {lit}`getattr(object, name, None)`: {lit}`none` for {lit}`None`. -/
  | getattrOrNone (object : PyObject) (name : String)
  /-- The same, where only a text is used. -/
  | textAttribute (object : PyObject) (name : String)
  /-- {lit}`str(Path(module.__file__).resolve())`, when there is one. -/
  | moduleFile (module : PyObject)
  | isClass (object : PyObject)
  | isCallable (object : PyObject)
  | isFunction (object : PyObject)
  /-- {lit}`type(object).__name__`. -/
  | nameOfType (object : PyObject)
  /-- {lit}`object.__name__`. -/
  | nameOf (object : PyObject)
  | issubclass (object : PyObject) (base : String)
  | instantiate (object : PyObject)
  | signature (method : PyObject)
  | strOfSignature (method : PyObject)
  /-- {lit}`Path(mypy_validation_runner.__file__).resolve()`. -/
  | resolveRunner
  | runMypy (runner file : PyPath)
  /-- {lit}`str(mypy_result_path_for(file))`. -/
  | mypyResultPath (file : PyPath)
  /-- {lit}`int(text)` of a text of digits. -/
  | intOfDigits (text : String)

/-- What an operation returns. -/
@[reducible]
def Operation.Answer : Operation → Type
  | resolve _ | cwd | resolveRunner => PyPath
  | isFile _ | pathExists _ | isDir _ => Bool
  | mkdir _ | rmtree _ | copytree _ _ | copy2 _ _ => Unit
  | openEntry _ _ | openTarget _ | copyEntry _ _ _ | hashlibNew _ => Unit
  | iterdir _ | rglob _ => List PyPath
  | readBytes _ | encodeUtf8 _ => List Nat
  | urlparse _ => ParsedUrl
  | unquote _ | url2pathname _ | asUri _ | hexdigest _ _ | mypyResultPath _ => String
  | strOfException | nameOfException | nameOfType _ | nameOf _ | strOfSignature _ => String
  | openZip _ => List String
  | fetchFrom _ _ _ => ArtifactMaterialization
  | hasattr _ _ | isClass _ | isCallable _ | isFunction _ | issubclass _ _ => Bool
  | importModule _ | getattr _ _ | instantiate _ => PyObject
  | getattrOrNone _ _ => Option PyObject
  | textAttribute _ _ | moduleFile _ => Option String
  | signature _ => Signature
  | runMypy _ _ => CompletedProcess
  | intOfDigits _ => Nat

/-- A call with the {lit}`try` statement around it, inside the pipeline's own, and what it
raised. -/
structure BootstrapCall where
  operation : Operation
  handler : Option Handler
  raised : Option Raised

/-- How every call ends, given the calls before it. -/
abbrev World := List BootstrapCall → (operation : Operation) → Except Raised operation.Answer

/-- A computation of the bootstrap. -/
abbrev Stage := Logged BootstrapCall Raised

/-- A call inside a handler. -/
def call (w : World) (handler : Option Handler) (operation : Operation) : Stage operation.Answer :=
  query (fun calls => w calls operation) fun raised => ⟨operation, handler, raised⟩

/-- {lit}`raise` of a failure of a stage. -/
def fail {α : Type} (stage : BootstrapStage) (reasonCode message : String) (retryable : Bool)
    (details : PyDict) : Stage α :=
  match BootstrapFailure.make stage reasonCode retryable details message with
  | .ok failure => raise (.failure failure)
  | .error _ => raise (.other .valueError)

/-! ## What is converted -/

/-- The exception is caught by the handler, or by the pipeline. -/
def Converted (handler : Option Handler) (x : Raised) : Prop :=
  handler.any (·.catches x) ∨ x.Recordable

/-- The call raised nothing, or what the handlers around it convert. -/
def BootstrapCall.Sound (c : BootstrapCall) : Prop :=
  ∀ x ∈ c.raised, Converted c.handler x

/-- Calls end soundly when the stage returns, and its exceptions are those that the handler
converts. -/
abbrev ConvertsUnder (handler : Option Handler) {α : Type} (m : Stage α) : Prop :=
  Converts BootstrapCall.Sound (Converted handler) m

variable {handler : Option Handler} {α : Type}

theorem converts_call (w : World) (operation : Operation) :
    ConvertsUnder handler (call w handler operation) := by
  refine Converts.query ?_ fun x => ?_
  · simp [BootstrapCall.Sound]
  · simp [BootstrapCall.Sound]

/-- The reasons that the stages fail for. -/
def stageReasons : List String :=
  ["artifact_access_denied", "artifact_fetch_failed", "artifact_materialization_failed",
    "artifact_materialization_missing", "artifact_not_found", "artifact_provider_unsupported",
    "artifact_unsafe_zip", "digest_mismatch", "digest_unsupported", "expected_digest_missing",
    "entrypoint_import_failed", "entrypoint_invalid", "entrypoint_symbol_invalid",
    "entrypoint_symbol_not_found", "sdk_invalid_signature", "sdk_marker_incompatible",
    "sdk_marker_invalid", "sdk_missing_required_method", "sdk_non_instantiable",
    "sdk_protocol_mismatch"]

theorem upper_strip_stageReason : ∀ reason ∈ stageReasons, upper (strip reason) ≠ "" := by
  decide +kernel

/-- A failure that a stage reports is converted by the pipeline. -/
theorem converts_fail {stage : BootstrapStage} {reasonCode message : String} {retryable : Bool}
    {details : PyDict} (hreason : reasonCode ∈ stageReasons)
    (hdetails : PyJson.foreign (.dict details) = []) :
    ConvertsUnder handler (fail (α := α) stage reasonCode message retryable details) := by
  unfold fail
  rw [BootstrapFailure.make, dif_neg (upper_strip_stageReason reasonCode hreason)]
  exact Converts.raise (.inr hdetails)

/-- A {lit}`try` statement: its clauses convert what they catch, and the rest goes past them. -/
theorem converts_try {m : Stage α} {recover : Raised → Stage α} {h : Handler}
    (hm : ConvertsUnder (some h) m)
    (hcaught : ∀ x, h.catches x = true → ConvertsUnder none (recover x))
    (hpassed : ∀ x, h.catches x = false → recover x = raise x) :
    ConvertsUnder none (catchWith m recover) := by
  refine Converts.catchWith hm (fun x hx => ?_) (fun x hx => ?_)
  · cases hcatches : h.catches x with
    | true => exact hcaught x hcatches
    | false =>
        rw [hpassed x hcatches]
        refine Converts.raise (.inr ?_)
        simpa [Converted, hcatches] using hx
  · have hnot : h.catches x = false ∧ ¬ x.Recordable := by simpa [Converted] using hx
    refine ⟨hpassed x hnot.1, ?_⟩
    simpa [Converted] using hnot.2

end Bootstrap
end StrategyWorker
