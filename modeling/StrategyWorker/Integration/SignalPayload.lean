import Mathlib.Data.List.Infix
import StrategyWorker.Domain.Errors
import StrategyWorker.Events.EventId

/-!
# Payloads of lifecycle signals

The six kinds of signal that the gateway emits, each with the arguments of its
method, and the payload that the method builds from them.  The field lists of a
failed launch are the only part that can fail: they are sorted.

Main results:

- Definition {lit}`Signal.payload`: the payload of each kind of signal.
-/

namespace StrategyWorker
namespace Integration

open Library Events Domain
open Binary64 PyText

/-! ## Field errors -/

/-- {lit}`sub in text`. -/
def containsText (text sub : String) : Bool :=
  sub.toList <:+: text.toList

/-- {lit}`text.split(",")` without the empty parts. -/
def splitComma (text : String) : List String :=
  ((text.toList.splitOn ',').map String.ofList).filter fun x => x ≠ ""

/-- The three buckets of field names: missed, invalid, empty. -/
structure FieldBuckets where
  missed : List String
  invalid : List String
  empty : List String

/-- One round of the loop of {lit}`_derive_field_buckets_from_field_errors`. -/
def addFieldError (b : FieldBuckets) (entry : String × PyVal) : FieldBuckets :=
  let key := entry.1
  let code := pyStr entry.2
  let lowered := lower code
  let unknownFields := "unknown_fields:".toList
  if key = "payload" ∧ unknownFields.isPrefixOf code.toList then
    { b with invalid :=
        b.invalid ++ splitComma (String.ofList (code.toList.drop unknownFields.length)) }
  else if containsText lowered "required_field_missing" ∨ containsText lowered "required" then
    { b with missed := b.missed ++ [key] }
  else if containsText lowered "must_not_be_empty" ∨ containsText lowered "must_not_be_blank" ∨
      containsText lowered "blank" then
    { b with empty := b.empty ++ [key] }
  else { b with invalid := b.invalid ++ [key] }

/-- {lit}`_derive_field_buckets_from_field_errors(field_errors)`; the order is left to the
sort that follows. -/
def deriveFieldBuckets (fieldErrors : PyDict) : FieldBuckets :=
  fieldErrors.foldl addFieldError ⟨[], [], []⟩

/-- The value of a number. -/
def numberOf : PyVal → Option PyFloat
  | .bool b => some (.finite (if b then 1 else 0))
  | .int n => some (.finite n)
  | .float f => some f
  | .scalar v => numberOf v
  | _ => none

/-- {lit}`v == w` of values that can be members of a set. -/
def memberEq (v w : PyVal) : Bool :=
  match v, w with
  | .none, .none => true
  | .str s, .str t => s = t
  | .datetime d, .datetime d' => d.utcoffset.isSome = d'.utcoffset.isSome ∧ d.instant = d'.instant
  | v, w =>
      match numberOf v, numberOf w with
      | some f, some g => f = g ∧ f ≠ .nan
      | _, _ => false

/-- {lit}`v < w`, when the two can be compared. -/
def memberLt (v w : PyVal) : Option Bool :=
  match v, w with
  | .str s, .str t => some (s < t)
  | .datetime d, .datetime d' =>
      if d.utcoffset.isSome = d'.utcoffset.isSome then some (d.instant < d'.instant) else none
  | v, w =>
      match numberOf v, numberOf w with
      | some f, some g => some (floatLt f g)
      | _, _ => none

def hashable : PyVal → Bool
  | .list _ | .dict _ => false
  | _ => true

/-- The members of {lit}`set(values)`. -/
def distinct : List PyVal → List PyVal
  | [] => []
  | v :: vs => v :: (distinct vs).filter fun w => !memberEq v w

/-- {lit}`sorted(set(values).union(names))`. -/
def sortedUnion (values : List PyVal) (names : List String) : Except PyException (List PyVal) :=
  let members := distinct (values ++ names.map .str)
  if values.any fun v => !hashable v then .error PyError.typeError.raised
  else if members.length ≠ 1 ∧ members.any fun v => (memberLt v v).isNone ∨
      members.any fun w => (memberLt v w).isNone then .error PyError.typeError.raised
  else .ok (members.insertionSort fun v w => memberLt w v ≠ some true)

/-- {lit}`d[key]` as a list when it is one, else no elements. -/
def listField (d : PyDict) (key : String) : List PyVal :=
  match d.get key with
  | .list vs => vs
  | _ => []

/-! ## Signals -/

/-- The calls of the gateway's {lit}`emit_*` methods. -/
inductive Signal where
  | bootstrapSucceeded (localState : Option String) (occurredAt : PyDateTime)
      (details : Option PyDict) (triggeringEventId : Option String)
  | bootstrapFailed (occurredAt : PyDateTime) (reasonCode : String) (details : Option PyDict)
      (triggeringEventId : Option String)
  | heartbeat (localState : Option String) (observedAt : PyDateTime)
      (triggeringEventId : Option String) (source : String) (reasonCode message : Option String)
      (retryable : Option Bool)
  | unhealthy (occurredAt observedAt : PyDateTime) (reasonCode : String) (details : Option PyDict)
      (triggeringEventId : Option String)
  | controlledStop (occurredAt : PyDateTime) (reasonCode triggeringEventId : Option String)
  | terminated (occurredAt : PyDateTime) (localState reasonCode : String)
      (message : Option String) (observedAt : Option PyDateTime)
      (triggeringEventId : Option String)

namespace Signal

def signalType : Signal → SignalType
  | .bootstrapSucceeded .. => .bootstrapSucceeded
  | .bootstrapFailed .. => .bootstrapFailed
  | .heartbeat .. => .heartbeat
  | .unhealthy .. => .unhealthy
  | .controlledStop .. => .controlledStop
  | .terminated .. => .terminated

/-- A text or {lit}`None`. -/
def optionalText : Option String → PyVal
  | some s => .str s
  | none => .none

/-- A field that is there when it has a value. -/
def fieldWhen {α : Type} (key : String) (value : Option α) (f : α → PyVal) : PyDict :=
  (value.map fun a => (key, f a)).toList

/-- The reason code and its error code. -/
def reasonFields (reasonCode : Option String) : PyDict :=
  let normalizedReason := normalizeRuntimeReasonCode reasonCode
  [("reason_code", .str normalizedReason),
    ("error_code", .str (workerErrorCodeForReason normalizedReason))]

/-- Keys that {lit}`emit_bootstrap_failed` takes out of the details. -/
def detailsExcludedKeys : List String :=
  ["missed_fields", "invalid_fields", "empty_fields", "passed", "failed", "not_checked"]

/-- {lit}`isinstance(value, str)`. -/
def isText : PyVal → Bool
  | .str _ => true
  | _ => false

/-- {lit}`isinstance(value, int)`, with the value. -/
def asInt? : PyVal → Option Int
  | .int n => some n
  | .bool b => some (if b then 1 else 0)
  | _ => none

/-- {lit}`str(value or "")`. -/
def textOrEmpty (value : PyVal) : String :=
  pyStr (value.orElse (.str ""))

/-- The details of a failed launch: without the field lists, and with the result of the type check
when there is one. -/
def bootstrapFailedDetails (details : PyDict) : PyDict :=
  let kept := details.filter fun f => f.1 ∉ detailsExcludedKeys
  let path := details.get "mypy_result_path"
  let exitCode := asInt? (details.get "mypy_exit_code")
  let output := details.get "mypy_output"
  if isText path ∨ exitCode.isSome ∨ isText output then
    PyDict.set kept "mypy_validation" (.dict [("result_path", .str (textOrEmpty path)),
      ("exit_code", exitCode.elim .none .int), ("output", .str (textOrEmpty output))])
  else kept

/-- The missed, invalid and empty fields of a failed launch. -/
def bootstrapFailedFields (details : PyDict) :
    Except PyException (List PyVal × List PyVal × List PyVal) :=
  let missed := listField details "missed_fields"
  let invalid := listField details "invalid_fields"
  let empty := listField details "empty_fields"
  match details.get "field_errors" with
  | .dict fieldErrors => do
      let buckets := deriveFieldBuckets fieldErrors
      return (← sortedUnion missed buckets.missed, ← sortedUnion invalid buckets.invalid,
        ← sortedUnion empty buckets.empty)
  | _ => .ok (missed, invalid, empty)

/-- The payload of a failed launch. -/
def bootstrapFailedPayload (occurredAt : PyDateTime) (reasonCode : String)
    (details : Option PyDict) (triggeringEventId : Option String) : Except PyException PyDict := do
  let detailsDict := details.getD []
  let (missed, invalid, empty) ← bootstrapFailedFields detailsDict
  return [("occurred_at", .datetime occurredAt)] ++ reasonFields (some reasonCode) ++
    [("missed_fields", .list missed), ("invalid_fields", .list invalid),
      ("empty_fields", .list empty), ("passed", .list (listField detailsDict "passed")),
      ("failed", .list (listField detailsDict "failed")),
      ("not_checked", .list (listField detailsDict "not_checked")),
      ("details", .dict (bootstrapFailedDetails detailsDict))] ++
    fieldWhen "triggering_event_id" triggeringEventId .str

/-- The payload of a termination; one that was observed locally carries no times. -/
def terminatedPayload (occurredAt : PyDateTime) (localState reasonCode : String)
    (message : Option String) (observedAt : Option PyDateTime) (triggeringEventId : Option String) :
    PyDict :=
  if normalizedReason (some reasonCode) = .localTerminationObserved then
    [("local_state", .str localState)] ++ reasonFields (some reasonCode)
  else
    [("occurred_at", .datetime occurredAt), ("local_state", .str localState)] ++
      reasonFields (some reasonCode) ++ fieldWhen "message" message .str ++
      fieldWhen "observed_at" observedAt .datetime ++
      fieldWhen "triggering_event_id" triggeringEventId .str

/-- The payload that an {lit}`emit_*` method gives to {lit}`_emit`. -/
def payload : Signal → Except PyException PyDict
  | .bootstrapSucceeded localState occurredAt details triggeringEventId =>
      .ok ([("local_state", optionalText localState), ("occurred_at", .datetime occurredAt),
        ("details", .dict (details.getD []))] ++
          fieldWhen "triggering_event_id" triggeringEventId .str)
  | .bootstrapFailed occurredAt reasonCode details triggeringEventId =>
      bootstrapFailedPayload occurredAt reasonCode details triggeringEventId
  | .heartbeat localState observedAt triggeringEventId source reasonCode message retryable =>
      .ok ([("local_state", optionalText localState), ("observed_at", .datetime observedAt),
        ("source", .str source)] ++ fieldWhen "triggering_event_id" triggeringEventId .str ++
          fieldWhen "reason_code" reasonCode .str ++ fieldWhen "message" message .str ++
          fieldWhen "retryable" retryable .bool)
  | .unhealthy occurredAt observedAt reasonCode details triggeringEventId =>
      .ok (reasonFields (some reasonCode) ++
        [("details", .dict (details.getD [])), ("occurred_at", .datetime occurredAt),
          ("observed_at", .datetime observedAt)] ++
          fieldWhen "triggering_event_id" triggeringEventId .str)
  | .controlledStop occurredAt reasonCode triggeringEventId =>
      .ok (reasonFields reasonCode ++ [("occurred_at", .datetime occurredAt)] ++
        fieldWhen "triggering_event_id" triggeringEventId .str)
  | .terminated occurredAt localState reasonCode message observedAt triggeringEventId =>
      .ok (terminatedPayload occurredAt localState reasonCode message observedAt triggeringEventId)

end Signal

end Integration
end StrategyWorker
