import StrategyWorker.Library.PyJsonText
import StrategyWorker.Library.ScopedVariable
import StrategyWorker.Transport.InternalAuth

/-!
# Error envelopes of the control server

The three interceptors of the gRPC server around a handler, the error envelope
outermost, then the correlation metadata, then the authorisation.  The metadata
of a request live in a context variable that the second interceptor sets for
the handler and resets before the first one sees an exception.

Main results:

- Theorem {lit}`intercepted_eq`: the outcome of a call, from the exception that
  the authorisation or the handler raises.
- Theorem {lit}`serve_eq`: the calls of a pool thread do not see each other.
- Theorem {lit}`envelope_never_carries_id`: no envelope names the correlation id
  of its request, and none that of the request before.
-/

namespace StrategyWorker
namespace Transport
namespace Interceptors

open Library
open Library.PyText

/-! ## Metadata -/

abbrev Metadata := Assoc String String

/-- {lit}`_CORRELATION_FIELDS`. -/
def correlationFields : List String :=
  ["correlation_id", "causation_id", "tenant_id", "account_id", "runtime_id", "worker_identity",
    "launch_attempt", "strategy_version_id", "job_id"]

/-- {lit}`str(key).lower().replace("-", "_")`. -/
def normalizeKey (key : String) : String :=
  replace (lower key) "-" "_"

/-- {lit}`_normalize_metadata`. -/
def normalizeMetadata (pairs : Headers) : Metadata :=
  Assoc.ofPairs (pairs.map fun pair => (normalizeKey pair.1, pair.2))

/-- The metadata that are kept for the handler. -/
def retained (invocationMetadata : Headers) : Metadata :=
  (normalizeMetadata invocationMetadata).filter fun entry => entry.1 ∈ correlationFields

/-- {lit}`get_current_correlation_id()`. -/
def currentCorrelationId (metadata : Metadata) : Option String :=
  metadata.get? "correlation_id"

/-- The correlation id of a request: the value of its last correlation-id entry. -/
def correlationIdOf (invocationMetadata : Headers) : Option String :=
  (normalizeMetadata invocationMetadata).get? "correlation_id"

/-- A request has a correlation id when one of its entries is named so, in any spelling. -/
theorem exists_correlationIdOf_iff (invocationMetadata : Headers) :
    (∃ id, correlationIdOf invocationMetadata = some id) ↔
      ∃ pair ∈ invocationMetadata, normalizeKey pair.1 = "correlation_id" := by
  have hrev : correlationIdOf invocationMetadata =
      Assoc.get? (invocationMetadata.map fun pair => (normalizeKey pair.1, pair.2)).reverse
        "correlation_id" :=
    Assoc.get?_ofPairs _ _
  rw [hrev]
  constructor
  · rintro ⟨id, hid⟩
    have hmem := List.mem_reverse.1 (Assoc.exists_mem_of_get? hid)
    rcases List.mem_map.1 hmem with ⟨pair, hpair, hkey⟩
    exact ⟨pair, hpair, (Prod.mk.inj hkey).1⟩
  · rintro ⟨pair, hpair, hkey⟩
    have hmem : (normalizeKey pair.1, pair.2) ∈
        (invocationMetadata.map fun pair => (normalizeKey pair.1, pair.2)).reverse :=
      List.mem_reverse.2 (List.mem_map.2 ⟨pair, hpair, rfl⟩)
    rcases Assoc.get?_isSome_of_mem hmem with ⟨value, hvalue⟩
    have hkey' : (normalizeKey pair.1, pair.2).1 = "correlation_id" := hkey
    rw [hkey'] at hvalue
    exact ⟨value, hvalue⟩

/-! ## Exceptions and envelopes -/

/-- {lit}`grpc.StatusCode`, as far as the interceptors use it. -/
inductive StatusCode where
  | permissionDenied
  | invalidArgument
  | notFound
  | internal
  deriving DecidableEq, Repr

/-- The fields of a {lit}`StrategyWorkerRuntimeError` or a {lit}`SharedBoundaryError`. -/
structure ErrorData where
  code : String
  message : String
  retryable : Bool
  details : Option PyDict

/-- An exception that comes out of a call. -/
inductive ServerException where
  | callerNotAllowed (error : CallerNotAllowed)
  /-- {lit}`RuntimeStartValidationFailedError` or {lit}`WorkerInvalidRequestError`. -/
  | invalidRequest (error : ErrorData)
  | notFound (error : ErrorData)
  /-- Any other {lit}`StrategyWorkerRuntimeError`. -/
  | worker (error : ErrorData)
  | rpcError
  /-- What {lit}`context.abort` raises once it has set the status and the details of the call. -/
  | aborted (statusCode : StatusCode) (envelope : PyDict)
  /-- Any other {lit}`Exception`: {lit}`type(exc).__name__`. -/
  | other (typeName : String)

/-- The fields of a {lit}`WorkerInternalCallerNotAllowedError`. -/
def callerNotAllowedData (error : CallerNotAllowed) : ErrorData where
  code := "WORKER_INTERNAL_CALLER_NOT_ALLOWED"
  message := "Trusted internal caller is not allowed for this operation."
  retryable := false
  details := some [("caller", error.caller.elim .none .str), ("operation", .str error.operation),
    ("required_privilege", .str error.requiredPrivilege)]

/-- The fields of an exception that the worker does not know. -/
def unclassifiedData (typeName : String) : ErrorData where
  code := "WORKER_INTERNAL_ERROR"
  message := "Unclassified transport failure."
  retryable := false
  details := some [("exception_type", .str typeName)]

/-- {lit}`_details_list`. -/
def detailsList (details : Option PyDict) : PyVal :=
  .list ((details.getD []).map fun entry => .dict [("key", .str entry.1), ("value", entry.2)])

/-- The status code of an exception and what its envelope says of it. -/
def classify : ServerException → StatusCode × ErrorData
  | .callerNotAllowed error => (.permissionDenied, callerNotAllowedData error)
  | .invalidRequest error => (.invalidArgument, error)
  | .notFound error => (.notFound, error)
  | .worker error => (.internal, error)
  | .rpcError => (.internal, unclassifiedData "RpcError")
  | .aborted _ _ => (.internal, unclassifiedData "Exception")
  | .other typeName => (.internal, unclassifiedData typeName)

/-- {lit}`_normalize_exception(exc)` under the metadata that the context variable holds. -/
def normalizeException (metadata : Metadata) (exc : ServerException) : StatusCode × PyDict :=
  let correlationId := currentCorrelationId metadata
  let (statusCode, error) := classify exc
  (statusCode, [("error", .dict [("code", .str error.code), ("message", .str error.message),
    ("retryable", .bool error.retryable), ("correlation_id", correlationId.elim .none .str),
    ("details", detailsList error.details)])])

/-- {lit}`envelope["error"]["correlation_id"]`. -/
def correlationIdIn (envelope : PyDict) : PyVal :=
  match envelope.get "error" with
  | .dict error => PyDict.get error "correlation_id"
  | _ => .none

@[simp]
theorem correlationIdIn_normalizeException (metadata : Metadata) (exc : ServerException) :
    correlationIdIn (normalizeException metadata exc).2 =
      (currentCorrelationId metadata).elim .none .str := by
  simp [normalizeException, correlationIdIn, PyDict.get, PyDict.get?]

/-! ## The interceptors -/

/-- {lit}`HandlerCallDetails`. -/
structure CallDetails where
  method : String
  invocationMetadata : Headers

abbrev UnaryUnary (Request Response : Type) :=
  Request → Scoped Metadata ServerException Response

section

variable {Request Response : Type}

/-- {lit}`CorrelationMetadataServerInterceptor`. -/
def correlationMetadata (details : CallDetails) (unaryUnary : UnaryUnary Request Response) :
    UnaryUnary Request Response :=
  fun request => (unaryUnary request).withValue (retained details.invocationMetadata)

/-- {lit}`AuthServerInterceptor`. -/
def auth (details : CallDetails) (unaryUnary : UnaryUnary Request Response) :
    UnaryUnary Request Response :=
  fun request =>
    match authorise details.method details.invocationMetadata with
    | .error error => .reading fun _ => .error (.callerNotAllowed error)
    | .ok _ => unaryUnary request

/-- {lit}`context.abort(status_code, json.dumps(envelope, ensure_ascii=True))`; an envelope that
JSON does not have raises instead. -/
def abort (statusCode : StatusCode) (envelope : PyDict) : ServerException :=
  match PyJson.encode ⟨false, fun _ => .error .typeError⟩ (.dict envelope) with
  | .ok _ => .aborted statusCode envelope
  | .error _ => .other "TypeError"

/-- The {lit}`except` clauses of {lit}`ErrorEnvelopeServerInterceptor`. -/
def reraised (metadata : Metadata) : ServerException → ServerException
  | .rpcError => .rpcError
  | exc => abort (normalizeException metadata exc).1 (normalizeException metadata exc).2

/-- {lit}`ErrorEnvelopeServerInterceptor`. -/
def errorEnvelope (_ : CallDetails) (unaryUnary : UnaryUnary Request Response) :
    UnaryUnary Request Response :=
  fun request => (unaryUnary request).catchWith fun exc =>
    .reading fun metadata => .error (reraised metadata exc)

/-- The interceptors of {lit}`build_grpc_server`, the outermost first. -/
def configuredInterceptors :
    List (CallDetails → UnaryUnary Request Response → UnaryUnary Request Response) :=
  [errorEnvelope, correlationMetadata, auth]

/-- The handler that the server calls. -/
def intercepted (details : CallDetails) (unaryUnary : UnaryUnary Request Response) :
    UnaryUnary Request Response :=
  configuredInterceptors.foldr (fun interceptor handler => interceptor details handler) unaryUnary

theorem intercepted_eq (details : CallDetails) (unaryUnary : UnaryUnary Request Response) :
    intercepted details unaryUnary =
      errorEnvelope details (correlationMetadata details (auth details unaryUnary)) :=
  rfl

/-- A call of a method: what its handler does may depend on the metadata that it finds. -/
structure Call (Request Response : Type) where
  details : CallDetails
  request : Request
  handler : Request → Metadata → Except ServerException Response

namespace Call

/-- The call through the interceptors. -/
def serve (call : Call Request Response) : Scoped Metadata ServerException Response :=
  intercepted call.details (fun request => .reading (call.handler request)) call.request

/-- What the authorisation and the handler make of the call. -/
def result (call : Call Request Response) : Except ServerException Response :=
  match authorise call.details.method call.details.invocationMetadata with
  | .error error => .error (.callerNotAllowed error)
  | .ok _ => call.handler call.request (retained call.details.invocationMetadata)

/-- The outcome of a call, from the exception that the authorisation or the handler raises. -/
theorem serve_eq (call : Call Request Response) (metadata : Metadata) :
    call.serve metadata = (call.result.mapError (reraised metadata), metadata) := by
  have hinner : (auth call.details (fun request => .reading (call.handler request)) call.request
      (retained call.details.invocationMetadata)).1 = call.result := by
    unfold auth result
    cases authorise call.details.method call.details.invocationMetadata <;> rfl
  rw [serve, intercepted_eq, errorEnvelope, correlationMetadata, Scoped.catchWith_withValue,
    hinner]
  cases call.result <;> rfl

end Call

/-- The calls of a pool thread, one after the other; the context variable starts empty. -/
def served (calls : List (Call Request Response)) :
    List (Except ServerException Response) × Metadata :=
  Scoped.runAll (calls.map Call.serve) []

/-- The calls of a pool thread do not see each other. -/
theorem served_eq (calls : List (Call Request Response)) :
    served calls = (calls.map fun call => call.result.mapError (reraised []), []) := by
  have hrestores : ∀ m ∈ calls.map Call.serve, Scoped.Restores m := by
    intro m hm
    rcases List.mem_map.1 hm with ⟨call, -, rfl⟩
    intro metadata
    rw [Call.serve_eq]
  rw [served, Scoped.runAll_of_restores hrestores, List.map_map]
  congr 1
  apply List.map_congr_left
  intro call _
  exact congrArg Prod.fst (call.serve_eq [])

/-! ## Correlation ids in envelopes -/

/-- The call is aborted with an envelope that carries the id. -/
def CarriesId (outcome : Except ServerException Response) (id : String) : Prop :=
  ∃ statusCode envelope, outcome = .error (.aborted statusCode envelope) ∧
    correlationIdIn envelope = .str id

/-- An envelope that is written where the metadata are reset names no id. -/
theorem correlationIdIn_reraised {exc : ServerException} {statusCode : StatusCode}
    {envelope : PyDict} (h : reraised [] exc = .aborted statusCode envelope) :
    correlationIdIn envelope = .none := by
  have habort : ∀ exc', abort (normalizeException [] exc').1 (normalizeException [] exc').2 =
      .aborted statusCode envelope → correlationIdIn envelope = .none := by
    intro exc' hexc'
    unfold abort at hexc'
    split at hexc'
    · cases hexc'
      exact correlationIdIn_normalizeException [] exc'
    · cases hexc'
  unfold reraised at h
  split at h
  · cases h
  · exact habort exc h

/-- On a thread that has served any calls, no call is aborted with an envelope that carries an
id. -/
theorem not_carriesId (earlier : List (Call Request Response)) (call : Call Request Response)
    (id : String) : ¬ CarriesId (call.serve (served earlier).2).1 id := by
  rintro ⟨statusCode, envelope, houtcome, hid⟩
  rw [Call.serve_eq, served_eq] at houtcome
  cases hresult : call.result with
  | ok response =>
      rw [hresult] at houtcome
      cases houtcome
  | error exc =>
      rw [hresult] at houtcome
      have hreraised : reraised [] exc = .aborted statusCode envelope := by
        injection houtcome
      rw [correlationIdIn_reraised hreraised] at hid
      cases hid

/-- Whatever a thread has served, the envelope of a call with a correlation id whose
authorisation or handler raises does not carry that id; neither does the envelope of the call
that the thread serves next. -/
theorem envelope_never_carries_id (earlier : List (Call Request Response))
    (call next : Call Request Response) (id : String)
    (_ : correlationIdOf call.details.invocationMetadata = some id)
    (_ : ∃ exc, call.result = .error exc) :
    ¬ CarriesId (call.serve (served earlier).2).1 id ∧
      ¬ CarriesId (next.serve (served (earlier ++ [call])).2).1 id :=
  ⟨not_carriesId earlier call id, not_carriesId (earlier ++ [call]) next id⟩

end

/-- A stop that names its correlation id and no caller. -/
def deniedStop : Call Unit Unit where
  details :=
    ⟨"/strategy_worker_runtime.contracts.manager_worker.v1.WorkerControlService/StopWorker",
      [("Correlation-Id", "c-1")]⟩
  request := ()
  handler := fun _ _ => .ok ()

/-- The stop is denied, with an envelope that names no correlation id. -/
theorem denied_stop_names_no_id :
    correlationIdOf deniedStop.details.invocationMetadata = some "c-1" ∧
      (∃ envelope, (deniedStop.serve []).1 = .error (.aborted .permissionDenied envelope) ∧
        correlationIdIn envelope = .none) ∧
      ¬ CarriesId (deniedStop.serve []).1 "c-1" := by
  let exc : ServerException :=
    .callerNotAllowed ⟨none, "internal_transport_call", "internal metadata headers"⟩
  have hserve : (deniedStop.serve []).1 =
      .error (.aborted .permissionDenied (normalizeException [] exc).2) := by
    rw [Call.serve_eq]
    rfl
  have hnone : correlationIdIn (normalizeException [] exc).2 = .none := by
    rw [correlationIdIn_normalizeException]
    rfl
  have hnot := not_carriesId [] deniedStop "c-1"
  rw [served_eq] at hnot
  exact ⟨by decide +kernel, ⟨_, hserve, hnone⟩, hnot⟩

/-- The same holds after the stop, for whatever comes next on its thread. -/
theorem denied_stop_untraceable :
    ¬ CarriesId (deniedStop.serve (served [deniedStop]).2).1 "c-1" ∧
      ¬ CarriesId (deniedStop.serve (served ([deniedStop] ++ [deniedStop])).2).1 "c-1" :=
  envelope_never_carries_id [deniedStop] deniedStop deniedStop "c-1" (by decide +kernel)
    ⟨.callerNotAllowed ⟨none, "internal_transport_call", "internal metadata headers"⟩,
      by rfl⟩

end Interceptors
end Transport
end StrategyWorker
