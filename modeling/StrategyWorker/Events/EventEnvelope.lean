import StrategyWorker.Library.PyValue

/-!
# Envelopes of lifecycle events

An envelope holds texts without spaces around them that are not empty, a
version and a launch attempt from 1 on, and an aware time.  The constructor
strips the texts that it is given and refuses the rest.

Main results:

- Theorem {lit}`keeps_of_ofFields`: what an envelope keeps of the fields it was
  built from.
-/

namespace StrategyWorker
namespace Events

open Library
open PyText

/-- A text without spaces around it that is not empty. -/
abbrev NonBlank :=
  {s : String // strip s = s ∧ s ≠ ""}

abbrev AwareDateTime :=
  {d : PyDateTime // d.utcoffset.isSome}

/-- A reading of {lit}`datetime.now(timezone.utc)`. -/
abbrev UtcDateTime :=
  {d : PyDateTime // d.utcoffset = some 0}

/-- 2026-03-30T00:00:00Z. -/
def march30 : UtcDateTime :=
  ⟨⟨739704 * microsPerDay, some 0, by decide, PyDateTime.utc_offset_range⟩, rfl⟩

/-- {lit}`_require_non_empty(value, field_name=...)`. -/
def requireNonEmpty (value fieldName : String) : Except PyException NonBlank :=
  if h : strip value = "" then
    .error ⟨.valueError, some (fieldName ++ " must not be blank.")⟩
  else
    .ok ⟨strip value, strip_strip value, h⟩

/-- The text that is kept is the strip of the given one. -/
theorem requireNonEmpty_eq_ok {value fieldName : String} {s : NonBlank} :
    requireNonEmpty value fieldName = .ok s ↔ s.val = strip value := by
  unfold requireNonEmpty
  split
  · rename_i h
    simp only [reduceCtorEq, false_iff]
    intro heq
    exact s.property.2 (heq.trans h)
  · simp only [Except.ok.injEq]
    rw [Subtype.ext_iff]
    exact eq_comm

/-- The arguments of the constructor. -/
structure EnvelopeFields where
  eventId : String
  eventType : String
  eventName : String
  eventFamily : String
  eventVersion : Int
  occurredAt : PyDateTime
  correlationId : String
  producer : String
  payload : PyDict
  runtimeId : String
  launchAttempt : Int
  workerIdentity : String
  identityKey : String
  causationId : Option String

structure LifecycleEventEnvelope where
  eventId : NonBlank
  eventType : NonBlank
  eventName : NonBlank
  eventFamily : NonBlank
  eventVersion : {n : Int // 1 ≤ n}
  occurredAt : AwareDateTime
  correlationId : NonBlank
  producer : NonBlank
  payload : PyDict
  runtimeId : NonBlank
  launchAttempt : {n : Int // 1 ≤ n}
  workerIdentity : NonBlank
  identityKey : NonBlank
  causationId : Option String

namespace LifecycleEventEnvelope

/-- A number from 1 on. -/
def requirePositive (value : Int) (fieldName : String) : Except PyException {n : Int // 1 ≤ n} :=
  if h : 1 ≤ value then .ok ⟨value, h⟩
  else .error ⟨.valueError, some (fieldName ++ " must be >= 1.")⟩

def requireAware (value : PyDateTime) (fieldName : String) : Except PyException AwareDateTime :=
  if h : value.utcoffset.isSome then .ok ⟨value, h⟩
  else .error ⟨.valueError, some (fieldName ++ " must be timezone-aware.")⟩

/-- The constructor with its {lit}`__post_init__`. -/
def ofFields (f : EnvelopeFields) : Except PyException LifecycleEventEnvelope := do
  let eventId ← requireNonEmpty f.eventId "event_id"
  let eventType ← requireNonEmpty f.eventType "event_type"
  let eventName ← requireNonEmpty f.eventName "event_name"
  let eventFamily ← requireNonEmpty f.eventFamily "event_family"
  let correlationId ← requireNonEmpty f.correlationId "correlation_id"
  let producer ← requireNonEmpty f.producer "producer"
  let runtimeId ← requireNonEmpty f.runtimeId "runtime_id"
  let workerIdentity ← requireNonEmpty f.workerIdentity "worker_identity"
  let identityKey ← requireNonEmpty f.identityKey "identity_key"
  let eventVersion ← requirePositive f.eventVersion "event_version"
  let launchAttempt ← requirePositive f.launchAttempt "launch_attempt"
  let occurredAt ← requireAware f.occurredAt "occurred_at"
  return {
    eventId, eventType, eventName, eventFamily, eventVersion, occurredAt, correlationId, producer
    payload := f.payload
    runtimeId, launchAttempt, workerIdentity, identityKey
    causationId := f.causationId }

theorem requirePositive_eq_ok {value : Int} {fieldName : String} {n : {n : Int // 1 ≤ n}} :
    requirePositive value fieldName = .ok n ↔ n.val = value := by
  unfold requirePositive
  split
  · simp only [Except.ok.injEq]
    rw [Subtype.ext_iff]
    exact eq_comm
  · rename_i h
    simp only [reduceCtorEq, false_iff]
    intro heq
    exact h (heq ▸ n.property)

theorem requireAware_eq_ok {value : PyDateTime} {fieldName : String} {d : AwareDateTime} :
    requireAware value fieldName = .ok d ↔ d.val = value := by
  unfold requireAware
  split
  · simp only [Except.ok.injEq]
    rw [Subtype.ext_iff]
    exact eq_comm
  · rename_i h
    simp only [reduceCtorEq, false_iff]
    intro heq
    exact h (heq ▸ d.property)

/-- What an envelope keeps of the fields it was built from. -/
structure Keeps (f : EnvelopeFields) (e : LifecycleEventEnvelope) : Prop where
  eventId : e.eventId.val = strip f.eventId
  eventType : e.eventType.val = strip f.eventType
  eventName : e.eventName.val = strip f.eventName
  eventFamily : e.eventFamily.val = strip f.eventFamily
  eventVersion : e.eventVersion.val = f.eventVersion
  occurredAt : e.occurredAt.val = f.occurredAt
  correlationId : e.correlationId.val = strip f.correlationId
  producer : e.producer.val = strip f.producer
  payload : e.payload = f.payload
  runtimeId : e.runtimeId.val = strip f.runtimeId
  launchAttempt : e.launchAttempt.val = f.launchAttempt
  workerIdentity : e.workerIdentity.val = strip f.workerIdentity
  identityKey : e.identityKey.val = strip f.identityKey
  causationId : e.causationId = f.causationId

theorem keeps_of_ofFields {f : EnvelopeFields} {e : LifecycleEventEnvelope}
    (h : ofFields f = .ok e) : Keeps f e := by
  simp only [ofFields, bind_eq_ok, requireNonEmpty_eq_ok, requirePositive_eq_ok,
    requireAware_eq_ok] at h
  rcases h with ⟨eventId, hid, eventType, htype, eventName, hname, eventFamily, hfamily,
    correlationId, hcorrelation, producer, hproducer, runtimeId, hruntime, workerIdentity, hworker,
    identityKey, hkey, eventVersion, hversion, launchAttempt, hattempt, occurredAt, hoccurred, heq⟩
  obtain rfl := Except.ok.inj heq
  exact ⟨hid, htype, hname, hfamily, hversion, hoccurred, hcorrelation, hproducer, rfl, hruntime,
    hattempt, hworker, hkey, rfl⟩

/-- The time of an event is kept apart from its other fields. -/
theorem ofFields_occurredAt {f : EnvelopeFields} {e : LifecycleEventEnvelope}
    (h : ofFields f = .ok e) (d : AwareDateTime) :
    ofFields { f with occurredAt := d.val } = .ok { e with occurredAt := d } := by
  simp only [ofFields, bind_eq_ok] at h ⊢
  rcases h with ⟨eventId, hid, eventType, htype, eventName, hname, eventFamily, hfamily,
    correlationId, hcorrelation, producer, hproducer, runtimeId, hruntime, workerIdentity, hworker,
    identityKey, hkey, eventVersion, hversion, launchAttempt, hattempt, occurredAt, -, heq⟩
  obtain rfl := Except.ok.inj heq
  exact ⟨eventId, hid, eventType, htype, eventName, hname, eventFamily, hfamily, correlationId,
    hcorrelation, producer, hproducer, runtimeId, hruntime, workerIdentity, hworker, identityKey,
    hkey, eventVersion, hversion, launchAttempt, hattempt, d, requireAware_eq_ok.2 rfl, rfl⟩

/-- {lit}`to_manager_signal(signal_type=..., identity=...)`. -/
def toManagerSignal (e : LifecycleEventEnvelope) (signalType : String) (identity : PyDict) :
    PyDict :=
  let envelope : PyDict :=
    [("signal_type", .str signalType), ("identity", .dict identity), ("payload", .dict e.payload),
      ("event_id", .str e.eventId.val), ("event_type", .str e.eventType.val),
      ("event_name", .str e.eventName.val), ("event_family", .str e.eventFamily.val),
      ("event_version", .int e.eventVersion.val), ("occurred_at", .datetime e.occurredAt.val),
      ("correlation_id", .str e.correlationId.val), ("producer", .str e.producer.val)]
  match e.causationId with
  | some id => envelope ++ [("causation_id", .str id)]
  | none => envelope

end LifecycleEventEnvelope
end Events
end StrategyWorker
