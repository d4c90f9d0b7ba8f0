import StrategyWorker.Events.Dedupe
import StrategyWorker.Library.PyJsonText
import StrategyWorker.Library.Sha256

/-!
# Construction of lifecycle events

The factory turns a signal of the worker and its payload into an envelope: the
name, type, version and family come from a table, the identity key from the
payload, and the event id is the runtime, the launch attempt, the name and a
digest of these and the identity key.

Main results:

- Theorem {lit}`created_of_create`: what an envelope that was created holds.
- Theorem {lit}`familyFollowsName_of_create`: created events of one name are of
  one family.
-/

namespace StrategyWorker
namespace Events

open Library
open PyText

/-! ## Signals -/

/-- The keys of {lit}`_SIGNAL_META`. -/
inductive SignalType where
  | bootstrapSucceeded
  | bootstrapFailed
  | heartbeat
  | unhealthy
  | controlledStop
  | terminated
  deriving DecidableEq, Repr

namespace SignalType

def name : SignalType → String
  | .bootstrapSucceeded => "bootstrap_succeeded"
  | .bootstrapFailed => "bootstrap_failed"
  | .heartbeat => "heartbeat"
  | .unhealthy => "unhealthy"
  | .controlledStop => "controlled_stop"
  | .terminated => "terminated"

def all : List SignalType :=
  [.bootstrapSucceeded, .bootstrapFailed, .heartbeat, .unhealthy, .controlledStop, .terminated]

/-- The signal type of a name. -/
def ofName? (name : String) : Option SignalType :=
  all.find? fun t => t.name = name

@[simp]
theorem ofName?_name (t : SignalType) : ofName? t.name = some t := by
  cases t <;> decide +kernel

theorem name_of_ofName? {name : String} {t : SignalType} (h : ofName? name = some t) :
    t.name = name := by
  simpa using List.find?_some h

/-- Name, type, version and family of the events of a signal. -/
structure Meta where
  eventName : String
  eventType : String
  eventVersion : Int
  eventFamily : String

/-- {lit}`_SIGNAL_META`. -/
def signalMeta : SignalType → Meta
  | .bootstrapSucceeded =>
      ⟨"runtime.launch_succeeded", "worker.lifecycle.bootstrap_succeeded", 1, "bootstrap"⟩
  | .bootstrapFailed =>
      ⟨"runtime.launch_failed", "worker.lifecycle.bootstrap_failed", 1, "bootstrap"⟩
  | .heartbeat => ⟨"runtime.heartbeat", "worker.lifecycle.heartbeat", 1, "heartbeat"⟩
  | .unhealthy => ⟨"runtime.unhealthy", "worker.lifecycle.unhealthy", 1, "health"⟩
  | .controlledStop =>
      ⟨"runtime.controlled_stop", "worker.lifecycle.controlled_stop", 1, "lifecycle"⟩
  | .terminated => ⟨"runtime.terminated", "worker.lifecycle.terminated", 1, "lifecycle"⟩

/-- The texts of the table are trimmed, and no event name holds a colon. -/
theorem signalMeta_texts (t : SignalType) :
    Trimmed t.signalMeta.eventName ∧ Trimmed t.signalMeta.eventFamily ∧
      ':' ∉ t.signalMeta.eventName.toList := by
  cases t <;> decide +kernel

/-- Different signals have events of different names. -/
theorem eventName_injective {t t' : SignalType}
    (h : t.signalMeta.eventName = t'.signalMeta.eventName) : t = t' := by
  revert h
  cases t <;> cases t' <;> decide +kernel

end SignalType

/-! ## Identity -/

/-- {lit}`str(value)` of a value that JSON does not have. -/
def pyStr : PyVal → String
  | .datetime d => d.isoformat " "
  | v => v.text

/-- {lit}`_canonical_json(value)`. -/
def canonicalJson (value : PyDict) : Except PyException String :=
  (PyJson.encode ⟨true, fun v => .ok (pyStr v)⟩ (.dict value)).mapError PyError.raised

/-- {lit}`payload[key].strip()` when the payload holds a text there. -/
def textField (payload : PyDict) (key : String) : Option String :=
  match payload.get? key with
  | some (.str s) => some (strip s)
  | _ => none

/-- The first characters of a text. -/
def takeText (n : Nat) (text : String) : String :=
  String.ofList (text.toList.take n)

/-- {lit}`_identity_key(signal_type=..., payload=...)`. -/
def identityKey (signalType : SignalType) (payload : PyDict) : Except PyException String :=
  -- a launch failure is emitted once for each launch attempt
  if signalType = .bootstrapFailed then .ok "bootstrap_failed"
  else
    match textField payload "event_id", textField payload "observation_id" with
    | some key, _ => .ok key
    | none, some key => .ok key
    | none, none => do
        let canonicalPayload ← canonicalJson payload
        let digest := takeText 16 (Sha256.hexdigest (signalType.name ++ ":" ++ canonicalPayload))
        return signalType.name ++ ":" ++ digest

/-- The text that the digest of an event id is of. -/
def eventIdText (runtimeId : String) (launchAttempt : Int) (eventName identityKey : String) :
    String :=
  runtimeId ++ ":" ++ toString launchAttempt ++ ":" ++ eventName ++ ":" ++ identityKey

/-- The truncated digest of an event id. -/
def eventIdDigest (text : String) : String :=
  takeText 24 (Sha256.hexdigest text)

/-- {lit}`_event_id(runtime_id=..., launch_attempt=..., event_name=..., identity_key=...)`. -/
def eventId (runtimeId : String) (launchAttempt : Int) (eventName identityKey : String) : String :=
  runtimeId ++ ":" ++ toString launchAttempt ++ ":" ++ eventName ++ ":" ++
    eventIdDigest (eventIdText runtimeId launchAttempt eventName identityKey)

/-- {lit}`_resolve_occurred_at(payload)` at a clock that reads {lit}`now`. -/
def resolveOccurredAt (now : UtcDateTime) (payload : PyDict) : PyDateTime :=
  match payload.get "occurred_at", payload.get "observed_at" with
  | .datetime candidate, _ => candidate.naiveAsUtc
  | _, .datetime observed => observed.naiveAsUtc
  | _, _ => now.val

/-! ## The factory -/

/-- {lit}`_producer`, as it is when no other is given. -/
def defaultProducer : String :=
  "strategy-worker-runtime"

/-- The arguments of {lit}`create`. -/
structure CreateArgs where
  signalType : String
  identity : PyDict
  payload : PyDict
  correlationId : Option String
  causationId : Option String
  triggeringEventId : Option String

/-- {lit}`a or b` of a text that may be missing. -/
def textOr (a : Option String) (b : String) : String :=
  match a with
  | some s => if s = "" then b else s
  | none => b

/-- The payload with the identity of the worker, except in heartbeats and in a termination that
says nothing but state and reason. -/
def canonicalPayload (t : SignalType) (payload : PyDict) (runtimeId : String) (launchAttempt : Int)
    (workerIdentity : String) : PyDict :=
  let keys := payload.map Prod.fst
  let minimal := keys.all (fun k => k = "local_state" ∨ k = "reason_code") &&
    keys.contains "local_state" && keys.contains "reason_code"
  if t = .heartbeat ∨ (t = .terminated ∧ minimal) then payload
  else
    ((payload.setDefault "runtime_id" (.str runtimeId)).setDefault "launch_attempt"
      (.int launchAttempt)).setDefault "worker_identity" (.str workerIdentity)

/-- {lit}`identity.get("runtime_id") or ""` as a text. -/
def identityText (identity : PyDict) (key : String) : String :=
  ((identity.get key).orElse (.str "")).text

/-- {lit}`int(identity.get("launch_attempt") or 0)`. -/
def identityAttempt (identity : PyDict) : Except PyException Int :=
  (((identity.get "launch_attempt").orElse (.int 0)).toInt).mapError PyError.raised

/-- The fields of the envelope of a signal. -/
def envelopeFields (now : UtcDateTime) (producer : String) (t : SignalType) (a : CreateArgs)
    (launchAttempt : Int) (key : String) : EnvelopeFields :=
  let runtimeId := identityText a.identity "runtime_id"
  let workerIdentity :=
    textOr (some (strip (identityText a.identity "worker_identity")))
      ("worker:" ++ runtimeId ++ ":" ++ toString launchAttempt)
  { eventId := eventId runtimeId launchAttempt t.signalMeta.eventName key
    eventType := t.signalMeta.eventType
    eventName := t.signalMeta.eventName
    eventFamily := t.signalMeta.eventFamily
    eventVersion := t.signalMeta.eventVersion
    occurredAt := resolveOccurredAt now a.payload
    correlationId := textOr (a.correlationId.map strip)
      ("corr:" ++ runtimeId ++ ":" ++ toString launchAttempt)
    producer := producer
    payload := canonicalPayload t a.payload runtimeId launchAttempt workerIdentity
    runtimeId := runtimeId
    launchAttempt := launchAttempt
    workerIdentity := workerIdentity
    identityKey := key
    causationId := textOr a.triggeringEventId (textOr a.causationId
      ("cmd_" ++ a.signalType ++ "_" ++ runtimeId ++ "_" ++ toString launchAttempt)) }

/-- {lit}`LifecycleEventFactory.create`. -/
def create (now : UtcDateTime) (producer : String) (a : CreateArgs) :
    Except PyException LifecycleEventEnvelope :=
  match SignalType.ofName? a.signalType with
  | none => .error ⟨.valueError, some ("Unsupported signal_type: " ++ a.signalType)⟩
  | some t => do
      let launchAttempt ← identityAttempt a.identity
      let key ← identityKey t a.payload
      LifecycleEventEnvelope.ofFields (envelopeFields now producer t a launchAttempt key)

/-- What an envelope holds that was created for a signal with a launch attempt and an identity
key. -/
structure Created (now : UtcDateTime) (a : CreateArgs) (t : SignalType) (n : Int) (key : String)
    (e : LifecycleEventEnvelope) : Prop where
  signalType : t.name = a.signalType
  attempt : identityAttempt a.identity = .ok n
  identity : identityKey t a.payload = .ok key
  runtimeId : e.runtimeId.val = strip (identityText a.identity "runtime_id")
  launchAttempt : e.launchAttempt.val = n
  eventName : e.eventName.val = t.signalMeta.eventName
  eventFamily : e.eventFamily.val = t.signalMeta.eventFamily
  identityKey : e.identityKey.val = strip key
  eventId : e.eventId.val = strip (eventId (identityText a.identity "runtime_id") n
    t.signalMeta.eventName key)
  occurredAt : e.occurredAt.val = resolveOccurredAt now a.payload
  payload : ∃ worker, e.payload = canonicalPayload t a.payload
    (identityText a.identity "runtime_id") n worker

/-- An envelope that was created holds what the table, the identity and the payload say. -/
theorem created_of_create {now : UtcDateTime} {producer : String} {a : CreateArgs}
    {e : LifecycleEventEnvelope} (h : create now producer a = .ok e) :
    ∃ t n key, Created now a t n key e := by
  unfold create at h
  split at h
  · cases h
  · rename_i t ht
    simp only [bind_eq_ok] at h
    rcases h with ⟨n, hattempt, key, hkey, hfields⟩
    have hkeeps := LifecycleEventEnvelope.keeps_of_ofFields hfields
    rcases t.signalMeta_texts with ⟨hname, hfamily, -⟩
    refine ⟨t, n, key, SignalType.name_of_ofName? ht, hattempt, hkey, hkeeps.runtimeId,
      hkeeps.launchAttempt, ?_, ?_, hkeeps.identityKey, hkeeps.eventId, hkeeps.occurredAt, _,
      hkeeps.payload⟩
    · rw [hkeeps.eventName]
      exact strip_eq_self hname
    · rw [hkeeps.eventFamily]
      exact strip_eq_self hfamily

theorem resolveOccurredAt_aware (now : UtcDateTime) (payload : PyDict) :
    (resolveOccurredAt now payload).utcoffset.isSome := by
  have haware : ∀ d : PyDateTime, d.naiveAsUtc.utcoffset.isSome := by
    intro d
    unfold PyDateTime.naiveAsUtc
    cases h : d.utcoffset <;> simp [h]
  unfold resolveOccurredAt
  split
  · exact haware _
  · exact haware _
  · rw [now.property]
    rfl

theorem envelopeFields_clock (now now' : UtcDateTime) (producer : String) (t : SignalType)
    (a : CreateArgs) (n : Int) (key : String) :
    envelopeFields now' producer t a n key =
      { envelopeFields now producer t a n key with
        occurredAt := resolveOccurredAt now' a.payload } := by
  simp only [envelopeFields]

/-- The clock decides nothing but the time of an event. -/
theorem create_clock {now : UtcDateTime} {producer : String} {a : CreateArgs}
    {e : LifecycleEventEnvelope} (h : create now producer a = .ok e) (now' : UtcDateTime) :
    ∃ d, create now' producer a = .ok { e with occurredAt := d } := by
  unfold create at h ⊢
  split at h
  · cases h
  · rename_i t ht
    simp only [bind_eq_ok] at h
    rcases h with ⟨n, hattempt, key, hkey, hfields⟩
    have hfields' := LifecycleEventEnvelope.ofFields_occurredAt hfields
      ⟨_, resolveOccurredAt_aware now' a.payload⟩
    rw [← envelopeFields_clock now now'] at hfields'
    refine ⟨⟨_, resolveOccurredAt_aware now' a.payload⟩, ?_⟩
    rw [bind_eq_ok]
    refine ⟨n, hattempt, ?_⟩
    rw [bind_eq_ok]
    exact ⟨key, hkey, hfields'⟩

/-- The event was created by the factory. -/
def IsCreated (e : LifecycleEventEnvelope) : Prop :=
  ∃ now producer a, create now producer a = .ok e

theorem IsCreated.created {e : LifecycleEventEnvelope} (h : IsCreated e) :
    ∃ now a t n key, Created now a t n key e := by
  rcases h with ⟨now, producer, a, ha⟩
  exact ⟨now, a, created_of_create ha⟩

/-- The name of a created event determines its family. -/
theorem IsCreated.eventFamily_eq {e e' : LifecycleEventEnvelope} (h : IsCreated e)
    (h' : IsCreated e') (hname : e.eventName = e'.eventName) : e.eventFamily = e'.eventFamily := by
  rcases h.created with ⟨_, a, t, n, key, hcreated⟩
  rcases h'.created with ⟨_, a', t', n', key', hcreated'⟩
  have hmeta : t.signalMeta.eventName = t'.signalMeta.eventName := by
    rw [← hcreated.eventName, ← hcreated'.eventName, hname]
  obtain rfl := SignalType.eventName_injective hmeta
  exact Subtype.ext (hcreated.eventFamily.trans hcreated'.eventFamily.symm)

/-- Created events of one name are of one family. -/
theorem familyFollowsName_of_create {calls : List LifecycleSignalDedupe.Call}
    (h : ∀ c ∈ calls, IsCreated c.1) : LifecycleSignalDedupe.FamilyFollowsName calls :=
  fun c hc c' hc' hname => (h c hc).eventFamily_eq (h c' hc') hname

end Events
end StrategyWorker
