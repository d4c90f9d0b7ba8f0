import StrategyWorker.Integration.EpochTime
import StrategyWorker.Library.FloatText

/-!
# Order intents on the wire and in the audit log

The client of the order management service normalizes a payload and builds a
protobuf message from it; for the console the same payload is turned into a
mapping of texts.  Both start from {lit}`normalize_oms_submission_payload` and go
on field by field, each with its own defaults for mode and times.

Integers of more than 4300 digits, which have no text, are left out.

Main results:

- Theorem {lit}`get?_normalize_other`, Theorem {lit}`get?_coerced_normalize`,
  Theorem {lit}`get?_defaulted_normalize`: what each kind of field holds after the
  normalization.
- Theorem {lit}`modeText_normalize`, Theorem {lit}`get_requestedAt_normalize`: the
  mode and the time of the request in terms of the payload.
-/

namespace StrategyWorker
namespace Transport

open Library Integration
open PyText

/-! ## Texts of fields -/

/-- {lit}`value in (None, "")`. -/
def isBlank : PyVal → Bool
  | .none => true
  | .str s => s = ""
  | _ => false

/-- {lit}`_coerce_decimal_string(value)`. -/
def coerceDecimalString : PyVal → String
  | .none => ""
  | .bool b => (PyVal.bool b).text
  | value => strip value.text

/-- {lit}`_coerce_order_intent_id(value)`. -/
def coerceOrderIntentId : PyVal → String
  | .none | .bool _ => ""
  | .int n => (PyVal.int n).text
  | value => strip value.text

/-! ## Normalization -/

/-- The text of a field under its own name. -/
def coerceField (raw : PyDict) (key : String) : PyDict :=
  raw.set key (.str (coerceDecimalString (raw.get key)))

/-- The text of a field as its default. -/
def defaultField (raw : PyDict) (key : String) : PyDict :=
  raw.setDefault key (.str (coerceDecimalString (raw.get key)))

/-- The limit price from the price. -/
def withLimitPrice (raw : PyDict) : PyDict :=
  if isBlank (raw.get "limit_price") ∧ ¬ isBlank (raw.get "price") then
    raw.set "limit_price" (.str (coerceDecimalString (raw.get "price")))
  else raw

/-- The mode from the environment. -/
def withMode (raw : PyDict) : PyDict :=
  if ¬ raw.contains "mode" ∧ (raw.get "environment").truthy then
    raw.set "mode" (raw.get "environment")
  else raw

/-- The time in force from its short name. -/
def withTimeInForce (raw : PyDict) : PyDict :=
  if ¬ raw.contains "time_in_force" ∨ isBlank (raw.get "time_in_force") then
    if isBlank (raw.get "tif") then raw
    else raw.set "time_in_force" (.str (coerceDecimalString (raw.get "tif")))
  else raw

/-- The time of the request from the time of the occurrence. -/
def withRequestedAt (raw : PyDict) : PyDict :=
  if isBlank (raw.get "requested_at") ∧ ¬ isBlank (raw.get "occurred_at") then
    raw.set "requested_at" (raw.get "occurred_at")
  else raw

/-- The fields whose text is set. -/
def coercedFields : List String :=
  ["quantity", "limit_price", "stop_price"]

/-- The fields that only have a default. -/
def defaultedFields : List String :=
  ["correlation_id", "account_id", "time_in_force", "instrument_id", "side", "order_type",
    "idempotency_key", "job_id", "symbol"]

/-- {lit}`normalize_oms_submission_payload(payload)`. -/
def normalizeOmsSubmissionPayload (payload : PyDict) : PyDict :=
  let raw := (payload.pop "replay_session_id").pop "strategy_context"
  let raw := withTimeInForce (withMode (withLimitPrice raw))
  let raw := defaultedFields.foldl defaultField (coercedFields.foldl coerceField raw)
  let raw := raw.set "order_intent_id" (.str (coerceOrderIntentId (raw.get "order_intent_id")))
  (withRequestedAt raw).pop "occurred_at"

/-! ## The message -/

/-- The host of the client: the local offset at a wall clock reading, and the clock. -/
structure Host where
  zone : Int → Int
  now : PyDateTime
  now_utc : now.utcoffset = some 0

/-- {lit}`value.astimezone(timezone.utc)`; a naive value is local time. -/
def Host.astimezone (host : Host) (d : PyDateTime) : Except PyException PyDateTime :=
  match PyDateTime.ofWall? (d.wall - d.utcoffset.getD (host.zone d.wall)) (some 0) with
  | some utc => .ok utc
  | none => .error PyError.overflowError.raised

/-- {lit}`_to_proto_timestamp(value)`: the instant of the timestamp. -/
def toProtoTimestamp (host : Host) (value : Option PyDateTime) : Except PyException Int := do
  return (← host.astimezone (value.getD host.now)).instant

inductive TradingEnvironment where
  | backtest
  | paper
  | live
  deriving DecidableEq, Repr

/-- The names of the enumeration. -/
def TradingEnvironment.name : TradingEnvironment → String
  | .backtest => "BACKTEST"
  | .paper => "PAPER"
  | .live => "LIVE"

/-- {lit}`str(payload.get("mode") or payload.get("environment") or "").strip().upper()`. -/
def modeText (payload : PyDict) : String :=
  upper (strip (((payload.get "mode").orElse (payload.get "environment")).orElse (.str "")).text)

/-- {lit}`_mode_enum(payload)`. -/
def modeEnum (payload : PyDict) : TradingEnvironment :=
  let mode := modeText payload
  if mode = "LIVE" then .live
  else if mode = "PAPER" ∨ mode = "" then .paper
  else if mode = "BACKTEST" then .backtest
  else .backtest

/-- The extension of an order intent with the identity of the runtime. -/
structure CommonMetadata where
  correlationId : String
  causationId : String
  tenantId : String
  accountId : String
  runtimeId : String
  workerIdentity : String
  launchAttempt : Nat
  strategyVersionId : String
  jobId : String
  deploymentId : String

/-- {lit}`value in (None, "", 0)`. -/
def isUnset : PyVal → Bool
  | .none => true
  | .str s => s = ""
  | .bool b => !b
  | .int n => n = 0
  | .float f => f = .finite 0
  | .scalar v => isUnset v
  | _ => false

/-- Routing metadata is present. -/
def hasRouting (payload : PyDict) : Bool :=
  ["runtime_id", "strategy_version_id", "tenant_id", "causation_id"].any fun key =>
    !isUnset (payload.get key)

/-- {lit}`_optional_extension(payload)`. -/
def optionalExtension (payload : PyDict) : Option CommonMetadata :=
  let field (key : String) := coerceDecimalString (payload.get key)
  if hasRouting payload then
    some
      { correlationId := field "correlation_id"
        causationId := field "causation_id"
        tenantId := field "tenant_id"
        accountId := field "account_id"
        runtimeId := field "runtime_id"
        workerIdentity := field "worker_identity"
        launchAttempt := 0
        strategyVersionId := field "strategy_version_id"
        jobId := field "job_id"
        deploymentId := field "deployment_id" }
  else none

/-- {lit}`OrderIntent` of {lit}`risk_worker.proto`; the timestamps are instants. -/
structure OrderIntent where
  correlationId : String
  accountId : String
  mode : TradingEnvironment
  instrumentId : String
  side : String
  orderType : String
  quantity : String
  limitPrice : String
  stopPrice : String
  timeInForce : String
  idempotencyKey : String
  requestedAt : Int
  createdAt : Option Int
  extension : Option CommonMetadata
  jobId : String
  orderIntentId : String
  symbol : String

/-- A text field of a message: {lit}`None` leaves it unset, other values are of the wrong type. -/
def protoString : PyVal → Except PyException String
  | .none => .ok ""
  | .str s => .ok s
  | _ => .error PyError.typeError.raised

/-- {lit}`value if isinstance(value, datetime) else None`. -/
def datetimeOf : PyVal → Option PyDateTime
  | .datetime d => some d
  | _ => none

/-- The time of creation, which may be left unset. -/
def createdTimestamp (host : Host) : Option PyDateTime → Except PyException (Option Int)
  | some created => (toProtoTimestamp host (some created)).map some
  | none => .ok none

/-- The request of {lit}`submit_order_intent(payload)`. -/
def orderIntentRequest (host : Host) (payload : PyDict) : Except PyException OrderIntent := do
  let p := normalizeOmsSubmissionPayload payload
  let requestedAt ← toProtoTimestamp host (datetimeOf (p.get "requested_at"))
  let correlationId ← protoString (p.get "correlation_id")
  let accountId ← protoString (p.get "account_id")
  let instrumentId ← protoString (p.get "instrument_id")
  let side ← protoString (p.get "side")
  let orderType ← protoString (p.get "order_type")
  let quantity ← protoString (p.get "quantity")
  let limitPrice ← protoString (p.get "limit_price")
  let stopPrice ← protoString (p.get "stop_price")
  let timeInForce ← protoString (p.get "time_in_force")
  let idempotencyKey ← protoString (p.get "idempotency_key")
  let jobId ← protoString (p.get "job_id")
  let orderIntentId ← protoString (p.get "order_intent_id")
  let symbol ← protoString (p.get "symbol")
  let createdAt ← createdTimestamp host (datetimeOf (p.get "created_at"))
  return {
    correlationId, accountId, mode := modeEnum p, instrumentId, side, orderType, quantity,
    limitPrice, stopPrice, timeInForce, idempotencyKey, requestedAt, createdAt,
    extension := optionalExtension p, jobId, orderIntentId, symbol }

/-! ## The mapping for the console -/

/-- {lit}`_mode_string_for_console(payload)`. -/
def modeStringForConsole (payload : PyDict) : String :=
  let m := modeText payload
  if m = "LIVE" then "LIVE"
  else if m = "PAPER" then "PAPER"
  else if m = "BACKTEST" then "BACKTEST"
  else if m ≠ "" then m
  else "BACKTEST"

/-- {lit}`_timestamp_wire_str(value)`. -/
def timestampWireStr : PyVal → Except PyException String
  | .datetime d => do
      let utc ← (astimezoneUtc d.naiveAsUtc).mapError PyError.raised
      return replace (utc.isoformat "T") "+00:00" "Z"
  | .none => .ok ""
  | value => .ok (strip value.text)

/-- {lit}`int(raw)`, zero for {lit}`None` and for what is no integer; infinity still raises. -/
def launchAttemptOf (raw : PyVal) : Except PyException Int :=
  if raw.isNone then .ok 0
  else
    match raw.toInt with
    | .ok n => .ok n
    | .error .typeError | .error .valueError => .ok 0
    | .error e => .error e.raised

def orderIntentDisplayFieldNames : List String :=
  ["account_id", "causation_id", "correlation_id", "created_at", "deployment_id",
    "idempotency_key", "instrument_id", "job_id", "launch_attempt", "limit_price", "mode",
    "order_intent_id", "order_type", "quantity", "requested_at", "runtime_id", "side", "stop_price",
    "strategy_version_id", "symbol", "tenant_id", "time_in_force", "worker_identity"]

/-- {lit}`None` reads as an empty text, other values as their text. -/
def fillText (p : PyDict) (key : String) : PyDict :=
  if ¬ p.contains key ∨ (p.get key).isNone then p.set key (.str "") else coerceField p key

/-- {lit}`order_intent_wire_dict_for_console(payload)`. -/
def orderIntentWireDictForConsole (payload : PyDict) : Except PyException PyDict := do
  let p := ["tenant_id", "worker_identity", "deployment_id", "causation_id"].foldl fillText
    (normalizeOmsSubmissionPayload payload)
  let launchAttempt ← launchAttemptOf ((p.get? "launch_attempt").getD (.int 0))
  let s (key : String) : PyVal := .str (coerceDecimalString (p.get key))
  let createdAt ← timestampWireStr (p.get "created_at")
  let requestedAt ← timestampWireStr (p.get "requested_at")
  let values : PyDict := [
    ("account_id", s "account_id"),
    ("causation_id", s "causation_id"),
    ("correlation_id", s "correlation_id"),
    ("created_at", .str createdAt),
    ("deployment_id", s "deployment_id"),
    ("idempotency_key", s "idempotency_key"),
    ("instrument_id", s "instrument_id"),
    ("job_id", s "job_id"),
    ("launch_attempt", .int launchAttempt),
    ("limit_price", s "limit_price"),
    ("mode", .str (modeStringForConsole p)),
    ("order_intent_id", .str (coerceOrderIntentId (p.get "order_intent_id"))),
    ("order_type", s "order_type"),
    ("quantity", s "quantity"),
    ("requested_at", .str requestedAt),
    ("runtime_id", s "runtime_id"),
    ("side", s "side"),
    ("stop_price", s "stop_price"),
    ("strategy_version_id", s "strategy_version_id"),
    ("symbol", s "symbol"),
    ("tenant_id", s "tenant_id"),
    ("time_in_force", s "time_in_force"),
    ("worker_identity", s "worker_identity")]
  return orderIntentDisplayFieldNames.map fun name => (name, values.get name)

/-- {lit}`_parse_rfc3339_utc(value)`. -/
def parseRfc3339Utc (host : Host) (value : String) : Option PyDateTime :=
  let t := strip value
  if t = "" then none
  else
    match PyDateTime.fromisoformat (if endsWith t "Z" then dropRight t 1 ++ "+00:00" else t) with
    | some d => (host.astimezone d).toOption
    | none => none

/-! ## What the normalization keeps -/

section

variable {payload raw : PyDict} {key : String}

theorem trimmed_coerce (value : PyVal) : Trimmed (coerceDecimalString value) := by
  cases value with
  | none =>
      unfold coerceDecimalString
      decide
  | bool b => cases b <;> simp only [coerceDecimalString, PyVal.text] <;> decide
  | _ => exact trimmed_strip _

theorem coerce_coerce (value : PyVal) :
    coerceDecimalString (.str (coerceDecimalString value)) = coerceDecimalString value :=
  strip_eq_self (trimmed_coerce value)

/-- The text of an integer starts and ends with a sign or a digit. -/
theorem trimmed_int (n : Int) : Trimmed (PyVal.int n).text := by
  apply trimmed_of_isSpace
  intro c hc
  cases n with
  | ofNat n => exact PyDateTime.isSpace_of_isDigit (isDigit_of_mem_natText hc)
  | negSucc n =>
      have htext : (PyVal.int (Int.negSucc n)).text = "-" ++ toString (n + 1) := rfl
      rw [htext, String.toList_append] at hc
      rcases List.mem_cons.1 hc with rfl | hdigit
      · rfl
      · exact PyDateTime.isSpace_of_isDigit (isDigit_of_mem_natText hdigit)

theorem coerceOrderIntentId_coerce (value : PyVal) :
    coerceOrderIntentId (.str (coerceOrderIntentId value)) = coerceOrderIntentId value := by
  cases value with
  | none => decide
  | bool b => rfl
  | int n => exact strip_eq_self (trimmed_int n)
  | _ => exact strip_strip _

theorem get?_withLimitPrice (h : key ≠ "limit_price") :
    (withLimitPrice raw).get? key = raw.get? key := by
  unfold withLimitPrice
  split
  · rw [PyDict.get?_set, if_neg h.symm]
  · rfl

theorem get?_withMode (h : key ≠ "mode") : (withMode raw).get? key = raw.get? key := by
  unfold withMode
  split
  · rw [PyDict.get?_set, if_neg h.symm]
  · rfl

theorem get?_withTimeInForce (h : key ≠ "time_in_force") :
    (withTimeInForce raw).get? key = raw.get? key := by
  unfold withTimeInForce
  split
  · split
    · rfl
    · rw [PyDict.get?_set, if_neg h.symm]
  · rfl

theorem get?_withRequestedAt (h : key ≠ "requested_at") :
    (withRequestedAt raw).get? key = raw.get? key := by
  unfold withRequestedAt
  split
  · rw [PyDict.get?_set, if_neg h.symm]
  · rfl

theorem get?_coerceFields (fields : List String) (raw : PyDict) (key : String) :
    (fields.foldl coerceField raw).get? key =
      if key ∈ fields then some (.str (coerceDecimalString (raw.get key))) else raw.get? key := by
  induction fields generalizing raw with
  | nil => rfl
  | cons field fields ih =>
      rw [List.foldl_cons, ih, coerceField, PyDict.get, PyDict.get?_set]
      by_cases heq : field = key
      · subst heq
        simp [coerce_coerce]
      · have hne : key ≠ field := fun h => heq h.symm
        simp [heq, hne, PyDict.get]

theorem get?_defaultFields (fields : List String) (raw : PyDict) (key : String) :
    (fields.foldl defaultField raw).get? key =
      if key ∈ fields then some ((raw.get? key).getD (.str "")) else raw.get? key := by
  induction fields generalizing raw with
  | nil => rfl
  | cons field fields ih =>
      rw [List.foldl_cons, ih, defaultField, PyDict.get?_setDefault]
      by_cases heq : field = key
      · subst heq
        cases hget : raw.get? field <;> simp [PyDict.get, hget, coerceDecimalString]
      · have hne : key ≠ field := fun h => heq h.symm
        simp [heq, hne]

/-- The payload without the fields of a replay, with its other names resolved. -/
def resolved (payload : PyDict) : PyDict :=
  withTimeInForce (withMode (withLimitPrice ((payload.pop "replay_session_id").pop
    "strategy_context")))

/-- The payload with the texts and defaults of its fields. -/
def filled (payload : PyDict) : PyDict :=
  defaultedFields.foldl defaultField (coercedFields.foldl coerceField (resolved payload))

theorem normalize_eq (payload : PyDict) :
    normalizeOmsSubmissionPayload payload =
      (withRequestedAt ((filled payload).set "order_intent_id"
        (.str (coerceOrderIntentId ((filled payload).get "order_intent_id"))))).pop "occurred_at" :=
  rfl

theorem get?_filled (payload : PyDict) (key : String) :
    (filled payload).get? key =
      if key ∈ defaultedFields then some (((resolved payload).get? key).getD (.str ""))
      else if key ∈ coercedFields then
        some (.str (coerceDecimalString ((resolved payload).get key)))
      else (resolved payload).get? key := by
  have hdisjoint : ∀ field ∈ defaultedFields, field ∉ coercedFields := by decide
  rw [filled, get?_defaultFields, get?_coerceFields]
  split
  · rename_i hkey
    rw [if_neg (hdisjoint key hkey)]
  · rfl

/-- What a field holds after the normalization. -/
theorem get?_normalize (h : key ≠ "occurred_at") (h' : key ≠ "requested_at")
    (hid : key ≠ "order_intent_id") :
    (normalizeOmsSubmissionPayload payload).get? key = (filled payload).get? key := by
  rw [normalize_eq, PyDict.get?_pop, if_neg h.symm, get?_withRequestedAt h', PyDict.get?_set,
    if_neg hid.symm]

/-- A field that the normalization does not name. -/
theorem get?_normalize_other (h : key ∉ ["replay_session_id", "strategy_context", "limit_price",
    "mode", "time_in_force", "order_intent_id", "requested_at", "occurred_at", "quantity",
    "stop_price"] ++ defaultedFields) :
    (normalizeOmsSubmissionPayload payload).get? key = payload.get? key := by
  simp only [List.mem_append, List.mem_cons, List.not_mem_nil, or_false, not_or] at h
  rw [get?_normalize h.1.2.2.2.2.2.2.2.1 h.1.2.2.2.2.2.2.1 h.1.2.2.2.2.2.1, get?_filled]
  have hcoerced : key ∉ coercedFields := by
    simp [coercedFields, h]
  rw [if_neg h.2, if_neg hcoerced, resolved]
  simp [get?_withTimeInForce, get?_withMode, get?_withLimitPrice, PyDict.get?_pop, h, Ne.symm]

end


theorem get?_pop_fields (payload : PyDict) {key : String}
    (h : key ∉ ["replay_session_id", "strategy_context"]) :
    ((payload.pop "replay_session_id").pop "strategy_context").get? key = payload.get? key := by
  simp only [List.mem_cons, List.not_mem_nil, or_false, not_or] at h
  rw [PyDict.get?_pop, if_neg (Ne.symm h.2), PyDict.get?_pop, if_neg (Ne.symm h.1)]

/-- A field that the resolution of names does not touch. -/
theorem get?_resolved {payload : PyDict} {key : String}
    (h : key ∉ ["replay_session_id", "strategy_context", "limit_price", "mode", "time_in_force"]) :
    (resolved payload).get? key = payload.get? key := by
  simp only [List.mem_cons, List.not_mem_nil, or_false, not_or] at h
  rw [resolved, get?_withTimeInForce h.2.2.2.2, get?_withMode h.2.2.2.1,
    get?_withLimitPrice h.2.2.1, get?_pop_fields]
  simp [h]

/-- The time of the request that a payload asks for. -/
def requestedAtOf (payload : PyDict) : PyVal :=
  if isBlank (payload.get "requested_at") ∧ ¬ isBlank (payload.get "occurred_at") then
    payload.get "occurred_at"
  else payload.get "requested_at"

theorem get_withRequestedAt (raw : PyDict) :
    (withRequestedAt raw).get "requested_at" = requestedAtOf raw := by
  unfold withRequestedAt requestedAtOf
  split
  · rw [PyDict.get, PyDict.get?_set, if_pos rfl, Option.getD_some]
  · rfl

theorem get_requestedAt_normalize (payload : PyDict) :
    (normalizeOmsSubmissionPayload payload).get "requested_at" = requestedAtOf payload := by
  have hkept : ∀ key ∈ ["requested_at", "occurred_at"], ∀ value : PyVal,
      ((filled payload).set "order_intent_id" value).get key = payload.get key := by
    intro key hkey value
    have hkind : ∀ field ∈ ["requested_at", "occurred_at"], field ≠ "order_intent_id" ∧
        field ∉ defaultedFields ∧ field ∉ coercedFields ∧
        field ∉ ["replay_session_id", "strategy_context", "limit_price", "mode",
          "time_in_force"] := by decide
    rcases hkind key hkey with ⟨hid, hdefaulted, hcoerced, hresolved⟩
    rw [PyDict.get, PyDict.get?_set, if_neg hid.symm, get?_filled, if_neg hdefaulted,
      if_neg hcoerced, get?_resolved hresolved, ← PyDict.get]
  rw [normalize_eq, PyDict.get, PyDict.get?_pop, if_neg (by decide), ← PyDict.get,
    get_withRequestedAt, requestedAtOf, hkept "requested_at" (by simp),
    hkept "occurred_at" (by simp)]
  rfl

theorem get?_orderIntentId_normalize (payload : PyDict) :
    (normalizeOmsSubmissionPayload payload).get? "order_intent_id" =
      some (.str (coerceOrderIntentId (payload.get "order_intent_id"))) := by
  rw [normalize_eq, PyDict.get?_pop, if_neg (by decide), get?_withRequestedAt (by decide),
    PyDict.get?_set, if_pos rfl, PyDict.get, get?_filled, if_neg (by decide), if_neg (by decide),
    get?_resolved (by decide), ← PyDict.get]

theorem get?_coerced_normalize {payload : PyDict} {key : String} (h : key ∈ coercedFields) :
    (normalizeOmsSubmissionPayload payload).get? key =
      some (.str (coerceDecimalString ((resolved payload).get key))) := by
  have hkind : ∀ field ∈ coercedFields, field ≠ "occurred_at" ∧ field ≠ "requested_at" ∧
      field ≠ "order_intent_id" ∧ field ∉ defaultedFields := by decide
  rcases hkind key h with ⟨hoccurred, hrequested, hid, hdefaulted⟩
  rw [get?_normalize hoccurred hrequested hid, get?_filled, if_neg hdefaulted, if_pos h]

theorem get?_defaulted_normalize {payload : PyDict} {key : String} (h : key ∈ defaultedFields) :
    (normalizeOmsSubmissionPayload payload).get? key =
      some (((resolved payload).get? key).getD (.str "")) := by
  have hkind : ∀ field ∈ defaultedFields, field ≠ "occurred_at" ∧ field ≠ "requested_at" ∧
      field ≠ "order_intent_id" := by decide
  rcases hkind key h with ⟨hoccurred, hrequested, hid⟩
  rw [get?_normalize hoccurred hrequested hid, get?_filled, if_pos h]

/-- The mode is read from the same fields. -/
theorem modeText_normalize (payload : PyDict) :
    modeText (normalizeOmsSubmissionPayload payload) = modeText payload := by
  have henvironment : (normalizeOmsSubmissionPayload payload).get "environment" =
      payload.get "environment" := by
    rw [PyDict.get, get?_normalize_other (by decide), ← PyDict.get]
  have hmode : (normalizeOmsSubmissionPayload payload).get? "mode" =
      (withMode payload).get? "mode" := by
    rw [get?_normalize (by decide) (by decide) (by decide), get?_filled, if_neg (by decide),
      if_neg (by decide), resolved, get?_withTimeInForce (by decide)]
    unfold withMode PyDict.contains PyDict.get
    rw [get?_withLimitPrice (by decide), get?_withLimitPrice (by decide),
      get?_pop_fields _ (by decide), get?_pop_fields _ (by decide)]
    split
    · rw [PyDict.get?_set, PyDict.get?_set]
      rfl
    · rw [get?_withLimitPrice (by decide), get?_pop_fields _ (by decide)]
  rw [modeText, henvironment, PyDict.get, hmode, withMode]
  split
  · rename_i h
    have hmissing : payload.get "mode" = .none := by
      have hnone : payload.get? "mode" = none := by simpa [PyDict.contains] using h.1
      rw [PyDict.get, hnone]
      rfl
    rw [PyDict.get?_set, if_pos rfl, Option.getD_some, modeText, hmissing]
    simp [PyVal.orElse, PyVal.truthy]
  · rfl

/-- A text with a default is trimmed when the payload's own one is. -/
theorem trimmed_normalize_iff {payload : PyDict} {key : String} (h : key ∈ defaultedFields) :
    (∀ text, (normalizeOmsSubmissionPayload payload).get key = .str text → Trimmed text) ↔
      ∀ text, payload.get? key = some (.str text) → Trimmed text := by
  have hempty : Trimmed "" := by decide
  have hdefault (value : Option PyVal) :
      (∀ text, value.getD (.str "") = .str text → Trimmed text) ↔
        ∀ text, value = some (.str text) → Trimmed text := by
    cases value with
    | none => simp [hempty]
    | some v => simp
  rw [PyDict.get, get?_defaulted_normalize h, Option.getD_some, hdefault]
  by_cases htime : key = "time_in_force"
  · subst htime
    have hraw (field : String) (hfield : field ∈ ["time_in_force", "tif"]) :
        (withMode (withLimitPrice ((payload.pop "replay_session_id").pop
          "strategy_context"))).get? field = payload.get? field := by
      have hkind : ∀ name ∈ ["time_in_force", "tif"], name ≠ "mode" ∧ name ≠ "limit_price" ∧
          name ∉ ["replay_session_id", "strategy_context"] := by decide
      rcases hkind field hfield with ⟨hmode, hlimit, hpop⟩
      rw [get?_withMode hmode, get?_withLimitPrice hlimit, get?_pop_fields payload hpop]
    unfold resolved withTimeInForce PyDict.contains PyDict.get
    rw [hraw "time_in_force" (by simp), hraw "tif" (by simp)]
    split
    · rename_i hblank
      split
      · rw [hraw "time_in_force" (by simp)]
      · -- a blank text is trimmed, and so is the one that takes its place
        rw [PyDict.get?_set, if_pos rfl]
        refine iff_of_true ?_ ?_
        · intro text htext
          cases htext
          exact trimmed_coerce _
        · intro text htext
          obtain rfl : text = "" := by
            simpa [htext, isBlank] using hblank
          exact hempty
    · rw [hraw "time_in_force" (by simp)]
  · have hkind : ∀ field ∈ defaultedFields, field ≠ "time_in_force" →
        field ∉ ["replay_session_id", "strategy_context", "limit_price", "mode",
          "time_in_force"] := by decide
    rw [get?_resolved (hkind key h htime)]

end Transport
end StrategyWorker
