import StrategyWorker.Integration.SignalPayload

/-!
# Emission of lifecycle signals

The gateway builds the payload of a signal, creates its event, hands the event
to the journal, asks the decider whether it is new, and only then gives the
envelope to the client of the runtime manager.

Main results:

- Theorem {lit}`exists_lifecycleEvent`: a valid gateway creates an event for
  every signal.
- Theorem {lit}`emit_retriable_iff`: a failed emission can be repeated when it
  was the journal that failed, and not when it was the client.
-/

namespace StrategyWorker
namespace Integration

open Library Events Domain
open PyText

/-! ## The gateway -/

/-- What the gateway reads of its runtime identity; the worker identity and the two ids at the end
may be missing. -/
structure RuntimeIdentity where
  runtimeId : String
  tenantId : String
  traderId : Option String
  accountId : Option String
  strategyVersionId : String
  mode : String
  launchAttempt : Int
  workerIdentity : Option String
  correlationId : Option String
  causationId : Option String

/-- {lit}`_WIRE_PAYLOAD_EXCLUDE`. -/
def wirePayloadExclude : List String :=
  ["occurred_at", "runtime_id", "launch_attempt", "worker_identity", "strategy_version_id",
    "tenant_id", "account_id"]

/-- {lit}`_wire_payload_only(payload)`. -/
def wirePayloadOnly (payload : PyDict) : PyDict :=
  payload.filter fun f => f.1 ∉ wirePayloadExclude

/-- The gateway: its identity, the producer of its event factory, and whether heartbeats are
logged. -/
structure ManagerGateway where
  runtimeIdentity : RuntimeIdentity
  producer : String
  heartbeatLogEnabled : Bool

/-- What the objects around the gateway do in one emission: the clock, the callback that journals
the event, the client's {lit}`emit_signal`, and the log; {lit}`X` are their exceptions. -/
structure Surroundings (X : Type) where
  now : UtcDateTime
  onEventEmitted : Option (LifecycleEventEnvelope → Option X)
  emitSignal : Option (PyDict → Except X PyVal)
  writeControlPlaneEnvelope : PyDict → Option X

/-- Why an emission raised. -/
inductive Failure (X : Type) where
  | raised (e : PyException)
  | journal (x : X)
  | emitter (x : X)
  | log (x : X)

/-- The end of an emission: its result, the state of the decider, and the envelope that the client
was given. -/
structure Emission (X : Type) where
  result : Except (Failure X) PyVal
  dedupe : LifecycleSignalDedupe
  sent : Option PyDict

namespace ManagerGateway

open Signal

variable {X : Type}

/-- {lit}`_identity_payload()`. -/
def identityPayload (g : ManagerGateway) : PyDict :=
  let i := g.runtimeIdentity
  let fallback := i.runtimeId ++ ":" ++ i.strategyVersionId ++ ":" ++ toString i.launchAttempt
  let workerIdentity := i.workerIdentity.elim fallback fun w => if strip w = "" then fallback else w
  [("runtime_id", .str i.runtimeId), ("tenant_id", .str i.tenantId),
    ("trader_id", optionalText i.traderId), ("account_id", optionalText i.accountId),
    ("strategy_version_id", .str i.strategyVersionId), ("mode", .str i.mode),
    ("launch_attempt", .int i.launchAttempt), ("worker_identity", .str workerIdentity)]

def valueError (message : String) : Except PyException Unit :=
  .error ⟨.valueError, some message⟩

/-- {lit}`isinstance(value, datetime)`. -/
def isDatetime : PyVal → Bool
  | .datetime _ => true
  | _ => false

/-- {lit}`_validate_required_fields(signal_type=..., identity=..., payload=...)`. -/
def validateRequiredFields (signalType : String) (identity payload : PyDict) :
    Except PyException Unit := do
  if strip (identityText identity "runtime_id") = "" then
    valueError "runtime_id is required for lifecycle signal forwarding."
  let launchAttempt ← identityAttempt identity
  if launchAttempt < 1 then
    valueError "launch_attempt must be >= 1 for lifecycle signal forwarding."
  if strip (identityText identity "worker_identity") = "" then
    valueError "worker_identity is required for lifecycle signal forwarding."
  if (SignalType.ofName? signalType).isNone then
    valueError ("Unsupported signal_type: " ++ signalType)
  if signalType = SignalType.heartbeat.name then
    if !isDatetime (payload.get "observed_at") then
      valueError "payload.observed_at is required and must be datetime for heartbeat."
  else if signalType = SignalType.terminated.name ∧ payload.contains "local_state" ∧
      payload.contains "reason_code" ∧ ¬ payload.contains "occurred_at" then
    if strip (identityText payload "local_state") = "" then
      valueError "payload.local_state is required for minimal termination."
    if strip (identityText payload "reason_code") = "" then
      valueError "payload.reason_code is required for minimal termination."
  else if !isDatetime (payload.get "occurred_at") then
    valueError "payload.occurred_at is required and must be datetime."

/-- The event of an emission: the fields are validated and the factory is called. -/
def lifecycleEvent (g : ManagerGateway) (now : UtcDateTime) (signalType : String)
    (payload : PyDict) : Except PyException LifecycleEventEnvelope := do
  let identity := g.identityPayload
  validateRequiredFields signalType identity payload
  let triggeringEventId :=
    match payload.get "triggering_event_id" with
    | .none => none
    | v => some (pyStr v)
  create now g.producer
    { signalType, identity, payload, triggeringEventId
      correlationId := g.runtimeIdentity.correlationId
      causationId := g.runtimeIdentity.causationId }

/-- The envelope that the client is given. -/
def wireEnvelope (g : ManagerGateway) (signalType : String) (e : LifecycleEventEnvelope) : PyDict :=
  PyDict.set (e.toManagerSignal signalType g.identityPayload) "payload"
    (.dict (wirePayloadOnly e.payload))

/-- The message that {lit}`_print_runtime_manager_message` writes. -/
def runtimeManagerMessage (g : ManagerGateway) (envelope : PyDict) : PyDict :=
  let identity := g.identityPayload
  let payload :=
    match envelope.get "payload" with
    | .dict fields => fields
    | _ => []
  ["event_id", "event_name", "event_version", "producer", "occurred_at", "correlation_id",
      "causation_id"].map (fun key => (key, envelope.get key)) ++
    ["tenant_id", "account_id", "runtime_id", "worker_identity", "launch_attempt",
      "strategy_version_id"].map (fun key => (key, identity.get key)) ++
    [("payload", .dict payload)]

/-- {lit}`_print_runtime_manager_message(...)`. -/
def printRuntimeManagerMessage (g : ManagerGateway) (u : Surroundings X) (signalType : String)
    (envelope : PyDict) : Option X :=
  if signalType = SignalType.heartbeat.name ∧ !g.heartbeatLogEnabled then none
  else u.writeControlPlaneEnvelope (g.runtimeManagerMessage envelope)

/-- What the emission returns for an event that is not accepted. -/
def suppressed (decision : DedupeDecision) (signalType : String) : PyVal :=
  .dict [("accepted", .bool false), ("suppressed", .bool true), ("decision", .str decision.value),
    ("signal_type", .str signalType)]

/-- Delivery of an accepted event to the client, and the log line after it. -/
def deliver (g : ManagerGateway) (u : Surroundings X) (s : LifecycleSignalDedupe)
    (signalType : String) (e : LifecycleEventEnvelope) : Emission X :=
  let envelope := g.wireEnvelope signalType e
  match u.emitSignal with
  | none =>
      ⟨.error (.raised ⟨.typeError, some "Manager client must expose emit_signal(payload)."⟩), s,
        none⟩
  | some emitter =>
      match emitter envelope with
      | .error x => ⟨.error (.emitter x), s, some envelope⟩
      | .ok result =>
          match g.printRuntimeManagerMessage u signalType envelope with
          | some x => ⟨.error (.log x), s, some envelope⟩
          | none => ⟨.ok result, s, some envelope⟩

/-- The decision on a journaled event, and its delivery when it is accepted. -/
def decideAndDeliver (g : ManagerGateway) (u : Surroundings X) (s : LifecycleSignalDedupe)
    (signalType : String) (e : LifecycleEventEnvelope) : Emission X :=
  let (decision, s') := s.decide e g.runtimeIdentity.launchAttempt
  if decision = .accept then g.deliver u s' signalType e
  else ⟨.ok (suppressed decision signalType), s', none⟩

/-- The exception of the journal on an event, when there is a journal. -/
def journalRaises (u : Surroundings X) (e : LifecycleEventEnvelope) : Option X :=
  u.onEventEmitted.bind fun callback => callback e

/-- {lit}`_emit(signal_type=..., payload=...)`. -/
def emit (g : ManagerGateway) (u : Surroundings X) (s : LifecycleSignalDedupe)
    (signalType : String) (payload : PyDict) : Emission X :=
  match g.lifecycleEvent u.now signalType payload with
  | .error e => ⟨.error (.raised e), s, none⟩
  | .ok event =>
      match journalRaises u event with
      | some x => ⟨.error (.journal x), s, none⟩
      | none => g.decideAndDeliver u s signalType event

/-! ## Repeating a failed emission -/

/-- The journal or the client raised. -/
def failedOutside (m : Emission X) : Bool :=
  match m.result with
  | .error (.journal _) | .error (.emitter _) => true
  | _ => false

/-- The journal raises on the event of the signal. -/
def JournalFails (g : ManagerGateway) (u : Surroundings X) (signalType : String)
    (payload : PyDict) : Prop :=
  ∃ e, g.lifecycleEvent u.now signalType payload = .ok e ∧ (journalRaises u e).isSome

/-- The two states decide alike. -/
def DecidesAlike (s s' : LifecycleSignalDedupe) : Prop :=
  ∀ c : LifecycleSignalDedupe.Call, (s.decide c.1 c.2).1 = (s'.decide c.1 c.2).1

/-- From the two states the signal is given to the client alike. -/
def ReachesAlike (g : ManagerGateway) (u : Surroundings X) (signalType : String)
    (payload : PyDict) (s s' : LifecycleSignalDedupe) : Prop :=
  (g.emit u s signalType payload).sent.isSome ↔ (g.emit u s' signalType payload).sent.isSome

/-- The event of a signal at another time has the same identity. -/
theorem lifecycleEvent_clock {g : ManagerGateway} {now : UtcDateTime} {signalType : String}
    {payload : PyDict} {e : LifecycleEventEnvelope}
    (h : g.lifecycleEvent now signalType payload = .ok e) (now' : UtcDateTime) :
    ∃ e', g.lifecycleEvent now' signalType payload = .ok e' ∧
      LifecycleSignalDedupe.identityKeyOf e' = LifecycleSignalDedupe.identityKeyOf e := by
  simp only [lifecycleEvent, bind_eq_ok] at h ⊢
  rcases h with ⟨_, hvalid, hcreate⟩
  rcases create_clock hcreate now' with ⟨d, hcreate'⟩
  exact ⟨_, ⟨_, hvalid, hcreate'⟩, rfl⟩

/-- A delivery with a client gives the envelope to it. -/
theorem deliver_sent {g : ManagerGateway} {u : Surroundings X} (h : u.emitSignal.isSome)
    (s : LifecycleSignalDedupe) (signalType : String) (e : LifecycleEventEnvelope) :
    (g.deliver u s signalType e).sent.isSome := by
  rcases Option.isSome_iff_exists.1 h with ⟨emitter, hemitter⟩
  unfold deliver
  simp only [hemitter]
  split
  · rfl
  · split <;> rfl

theorem deliver_dedupe (g : ManagerGateway) (u : Surroundings X) (s : LifecycleSignalDedupe)
    (signalType : String) (e : LifecycleEventEnvelope) :
    (g.deliver u s signalType e).dedupe = s := by
  unfold deliver
  split
  · rfl
  · dsimp only
    split
    · rfl
    · split <;> rfl

/-- Without failures of the journal the client is reached when the event is accepted. -/
theorem emit_sent_iff {g : ManagerGateway} {u : Surroundings X} {s : LifecycleSignalDedupe}
    {signalType : String} {payload : PyDict} {e : LifecycleEventEnvelope}
    (hevent : g.lifecycleEvent u.now signalType payload = .ok e)
    (hjournal : journalRaises u e = none) (hclient : u.emitSignal.isSome) :
    (g.emit u s signalType payload).sent.isSome ↔
      (s.decide e g.runtimeIdentity.launchAttempt).1 = .accept := by
  simp only [emit, hevent, hjournal, decideAndDeliver]
  by_cases haccept : (s.decide e g.runtimeIdentity.launchAttempt).1 = .accept
  · simp only [haccept, iff_true]
    exact deliver_sent hclient _ _ _
  · simp [haccept]

/-- An emission whose journal raised leaves the decider as it was. -/
theorem emit_of_journalFails {g : ManagerGateway} {u : Surroundings X}
    {signalType : String} {payload : PyDict} (h : g.JournalFails u signalType payload)
    (s : LifecycleSignalDedupe) : (g.emit u s signalType payload).dedupe = s := by
  rcases h with ⟨e, hevent, hraises⟩
  rcases Option.isSome_iff_exists.1 hraises with ⟨x, hx⟩
  simp only [emit, hevent, hx]

/-- An emission that failed behind the journal has accepted its event. -/
theorem emit_of_clientFails {g : ManagerGateway} {u : Surroundings X} {s : LifecycleSignalDedupe}
    {signalType : String} {payload : PyDict}
    (hfailed : failedOutside (g.emit u s signalType payload))
    (h : ¬ g.JournalFails u signalType payload) :
    ∃ e, g.lifecycleEvent u.now signalType payload = .ok e ∧
      (s.decide e g.runtimeIdentity.launchAttempt).1 = .accept ∧
        (g.emit u s signalType payload).dedupe =
          (s.decide e g.runtimeIdentity.launchAttempt).2 := by
  unfold emit at hfailed ⊢
  split at hfailed
  · simp [failedOutside] at hfailed
  · rename_i e hevent
    have hquiet : journalRaises u e = none := by
      rw [← Option.not_isSome_iff_eq_none]
      exact fun hsome => h ⟨e, hevent, hsome⟩
    refine ⟨e, hevent, ?_⟩
    simp only [hquiet, decideAndDeliver] at hfailed ⊢
    by_cases haccept : (s.decide e g.runtimeIdentity.launchAttempt).1 = .accept
    · simp only [if_pos haccept]
      exact ⟨haccept, deliver_dedupe g u _ signalType e⟩
    · simp [haccept, failedOutside] at hfailed

/-- After an emission that failed in the journal or in the client, the decider decides as before,
and every repetition at which neither fails reaches the client as it would have before, exactly
when it was the journal that failed. -/
theorem emit_retriable_iff (g : ManagerGateway) (u : Surroundings X) (s : LifecycleSignalDedupe)
    (signalType : String) (payload : PyDict)
    (hfailed : failedOutside (g.emit u s signalType payload)) :
    (DecidesAlike (g.emit u s signalType payload).dedupe s ↔
        g.JournalFails u signalType payload) ∧
      ∀ u' : Surroundings X, (∀ e, journalRaises u' e = none) → u'.emitSignal.isSome →
        (g.ReachesAlike u' signalType payload (g.emit u s signalType payload).dedupe s ↔
          g.JournalFails u signalType payload) := by
  by_cases hjournal : g.JournalFails u signalType payload
  · rw [emit_of_journalFails hjournal s]
    exact ⟨iff_of_true (fun _ => rfl) hjournal,
      fun _ _ _ => iff_of_true Iff.rfl hjournal⟩
  · rcases emit_of_clientFails hfailed hjournal with ⟨e, hevent, haccept, hdedupe⟩
    rw [hdedupe]
    have hagain := LifecycleSignalDedupe.decide_again haccept
    refine ⟨iff_of_false (fun halike => ?_) hjournal,
      fun u' hquiet hclient => iff_of_false (fun halike => ?_) hjournal⟩
    · exact hagain ((halike (e, g.runtimeIdentity.launchAttempt)).trans haccept)
    · rcases lifecycleEvent_clock hevent u'.now with ⟨e', hevent', hsame⟩
      rw [ReachesAlike, emit_sent_iff hevent' (hquiet e') hclient,
        emit_sent_iff hevent' (hquiet e') hclient, LifecycleSignalDedupe.decide_congr hsame,
        LifecycleSignalDedupe.decide_congr hsame] at halike
      exact hagain (halike.2 haccept)

/-! ## Signals whose events are created -/

/-- The gateway has a runtime id, a launch attempt from 1 on and a producer. -/
structure Valid (g : ManagerGateway) : Prop where
  runtimeId : strip g.runtimeIdentity.runtimeId ≠ ""
  launchAttempt : 1 ≤ g.runtimeIdentity.launchAttempt
  producer : strip g.producer ≠ ""

theorem identityText_runtimeId (g : ManagerGateway) :
    identityText g.identityPayload "runtime_id" = g.runtimeIdentity.runtimeId := by
  by_cases h : g.runtimeIdentity.runtimeId = "" <;>
    simp [identityText, identityPayload, PyDict.get, PyDict.get?, PyVal.orElse, PyVal.truthy, h,
      PyVal.text]

theorem identityAttempt_identityPayload (g : ManagerGateway) :
    identityAttempt g.identityPayload = .ok g.runtimeIdentity.launchAttempt := by
  by_cases h : g.runtimeIdentity.launchAttempt = 0 <;>
    simp [identityAttempt, identityPayload, PyDict.get, PyDict.get?, PyVal.orElse, PyVal.truthy, h,
      PyVal.toInt, Except.mapError]

theorem strip_workerIdentity (g : ManagerGateway) :
    strip (identityText g.identityPayload "worker_identity") ≠ "" := by
  have hfallback : strip (g.runtimeIdentity.runtimeId ++ ":" ++
      g.runtimeIdentity.strategyVersionId ++ ":" ++ toString g.runtimeIdentity.launchAttempt) ≠
        "" := strip_ne_empty (c := ':') (by simp) (by decide)
  have htext : ∀ w : String, strip w ≠ "" → strip ((PyVal.str w).orElse (.str "")).text ≠ "" := by
    intro w hw
    have hne : w ≠ "" := by
      rintro rfl
      exact hw (by decide +kernel)
    simpa [PyVal.orElse, PyVal.truthy, hne, PyVal.text] using hw
  have hget : g.identityPayload.get "worker_identity" = .str (g.runtimeIdentity.workerIdentity.elim
      (g.runtimeIdentity.runtimeId ++ ":" ++ g.runtimeIdentity.strategyVersionId ++ ":" ++
        toString g.runtimeIdentity.launchAttempt)
      fun w => if strip w = "" then g.runtimeIdentity.runtimeId ++ ":" ++
        g.runtimeIdentity.strategyVersionId ++ ":" ++ toString g.runtimeIdentity.launchAttempt
        else w) := by
    simp [identityPayload, PyDict.get, PyDict.get?]
  rw [identityText, hget]
  refine htext _ ?_
  cases hworker : g.runtimeIdentity.workerIdentity with
  | none => exact hfallback
  | some w =>
      simp only [Option.elim_some]
      split
      · exact hfallback
      · rename_i hw
        exact hw

/-- A termination that was observed locally names its state. -/
def NamesState : Signal → Prop
  | .terminated _ localState reasonCode _ _ _ =>
      normalizedReason (some reasonCode) = .localTerminationObserved → strip localState ≠ ""
  | _ => True

theorem validate_signal {g : ManagerGateway} (hg : g.Valid) {signal : Signal} {payload : PyDict}
    (hstate : NamesState signal) (hpayload : signal.payload = .ok payload) :
    validateRequiredFields signal.signalType.name g.identityPayload payload = .ok () := by
  have hruntime := hg.runtimeId
  have hattempt : ¬ g.runtimeIdentity.launchAttempt < 1 := not_lt.2 hg.launchAttempt
  have hworker := strip_workerIdentity g
  rw [← identityText_runtimeId] at hruntime
  unfold validateRequiredFields
  simp only [if_neg hruntime, identityAttempt_identityPayload, hworker, if_false,
    SignalType.ofName?_name, Option.isNone_some, Bool.false_eq_true, bind, Except.bind,
    if_neg hattempt, pure, Except.pure]
  cases signal with
  | bootstrapSucceeded localState occurredAt details trigger =>
      obtain rfl := Except.ok.inj hpayload
      simp [Signal.signalType, SignalType.name, isDatetime, PyDict.get, PyDict.get?]
  | bootstrapFailed occurredAt reasonCode details trigger =>
      simp only [Signal.payload, Signal.bootstrapFailedPayload, bind_eq_ok] at hpayload
      rcases hpayload with ⟨fields, -, heq⟩
      obtain rfl := Except.ok.inj heq
      simp [Signal.signalType, SignalType.name, isDatetime, PyDict.get, PyDict.get?]
  | heartbeat localState observedAt trigger source reasonCode message retryable =>
      obtain rfl := Except.ok.inj hpayload
      simp [Signal.signalType, isDatetime, PyDict.get, PyDict.get?]
  | unhealthy occurredAt observedAt reasonCode details trigger =>
      obtain rfl := Except.ok.inj hpayload
      simp [Signal.signalType, SignalType.name, isDatetime, PyDict.get, PyDict.get?,
        Signal.reasonFields]
  | controlledStop occurredAt reasonCode trigger =>
      obtain rfl := Except.ok.inj hpayload
      simp [Signal.signalType, SignalType.name, isDatetime, PyDict.get, PyDict.get?,
        Signal.reasonFields]
  | terminated occurredAt localState reasonCode message observedAt trigger =>
      obtain rfl := Except.ok.inj hpayload
      by_cases hlocal : normalizedReason (some reasonCode) = .localTerminationObserved
      · have hblank := hstate hlocal
        have hne : localState ≠ "" := by
          rintro rfl
          exact hblank (by decide +kernel)
        have hreason : strip "LOCAL_TERMINATION_OBSERVED" ≠ "" := by decide +kernel
        simp [Signal.terminatedPayload, Signal.signalType, SignalType.name, PyDict.get,
          PyDict.get?, PyDict.contains, Signal.reasonFields, normalizeRuntimeReasonCode, hlocal,
          identityText, PyVal.orElse, PyVal.truthy, PyVal.text, hne, hblank, RuntimeWorkerReasonCode.value, hreason]
      · simp [Signal.terminatedPayload, hlocal, Signal.signalType, SignalType.name, isDatetime,
          PyDict.get, PyDict.get?, PyDict.contains]

theorem textField_of_find? {payload : PyDict} {key : String}
    (h : payload.find? (fun f => decide (f.1 = key)) = none) : textField payload key = none := by
  rw [textField, PyDict.get?, h]
  rfl

/-- The payload of a signal names no id of its own. -/
theorem textField_payload {signal : Signal} {payload : PyDict} {key : String}
    (hpayload : signal.payload = .ok payload) (hkey : key = "event_id" ∨ key = "observation_id") :
    textField payload key = none := by
  apply textField_of_find?
  have hwhen : ∀ {α : Type} {key' : String} (value : Option α) (f : α → PyVal), key' ≠ key →
      (Signal.fieldWhen key' value f).find? (fun g => decide (g.1 = key)) = none := by
    intro α key' value f hne
    cases value <;> simp [Signal.fieldWhen, hne]
  cases signal with
  | bootstrapFailed occurredAt reasonCode details trigger =>
      simp only [Signal.payload, Signal.bootstrapFailedPayload, bind_eq_ok] at hpayload
      rcases hpayload with ⟨fields, -, heq⟩
      obtain rfl := Except.ok.inj heq
      rcases hkey with rfl | rfl <;> simp [Signal.reasonFields, hwhen]
  | terminated occurredAt localState reasonCode message observedAt trigger =>
      obtain rfl := Except.ok.inj hpayload
      unfold Signal.terminatedPayload
      split <;> rcases hkey with rfl | rfl <;>
        simp [Signal.reasonFields, List.find?_append, hwhen]
  | _ =>
      obtain rfl := Except.ok.inj hpayload
      rcases hkey with rfl | rfl <;>
        simp [Signal.reasonFields, List.find?_append, hwhen]

/-- A valid gateway creates an event for every signal whose payload can be built. -/
theorem exists_lifecycleEvent {g : ManagerGateway} (hg : g.Valid) (now : UtcDateTime)
    {signal : Signal} {payload : PyDict} (hstate : NamesState signal)
    (hpayload : signal.payload = .ok payload) :
    ∃ e, g.lifecycleEvent now signal.signalType.name payload = .ok e := by
  rcases exists_identityKey signal.signalType (textField_payload hpayload (Or.inl rfl))
    (textField_payload hpayload (Or.inr rfl)) with ⟨key, hkey, hne⟩
  have hruntime := hg.runtimeId
  rw [← identityText_runtimeId] at hruntime
  simp only [lifecycleEvent, validate_signal hg hstate hpayload, bind, Except.bind]
  exact exists_create hg.producer (SignalType.ofName?_name _) hruntime
    (identityAttempt_identityPayload g) hg.launchAttempt hkey hne

/-! ## A lost emission -/

/-- A gateway of a first launch. -/
def firstLaunch : ManagerGateway where
  runtimeIdentity :=
    { runtimeId := "rt-1", tenantId := "", traderId := none, accountId := some "acct-1"
      strategyVersionId := "sv-1", mode := "paper", launchAttempt := 1, workerIdentity := none
      correlationId := none, causationId := none }
  producer := defaultProducer
  heartbeatLogEnabled := false

/-- Midnight of a day in 2026, in UTC. -/
def someMidnight : UtcDateTime :=
  march30

/-- No journal, and a client that cannot be reached. -/
def clientDown : Surroundings String where
  now := someMidnight
  onEventEmitted := none
  emitSignal := some fun _ => .error "connection refused"
  writeControlPlaneEnvelope := fun _ => none

/-- The payload of a failed launch without details. -/
def launchFailedPayload : PyDict :=
  [("occurred_at", .datetime someMidnight.val), ("reason_code", .str "ENTRYPOINT_IMPORT_FAILED"),
    ("error_code", .str "WORKER_ENTRYPOINT_NOT_FOUND"), ("missed_fields", .list []),
    ("invalid_fields", .list []), ("empty_fields", .list []), ("passed", .list []),
    ("failed", .list []), ("not_checked", .list []), ("details", .dict [])]

/-- Its emission by a new process whose client is down. -/
def lostEmission : Emission String :=
  firstLaunch.emit clientDown .empty "bootstrap_failed" launchFailedPayload

theorem failedOutside_lostEmission : failedOutside lostEmission := by
  decide +kernel

theorem emit_retriable_iff_clientDown :
    (DecidesAlike lostEmission.dedupe .empty ↔
        firstLaunch.JournalFails clientDown "bootstrap_failed" launchFailedPayload) ∧
      ∀ u' : Surroundings String, (∀ e, journalRaises u' e = none) → u'.emitSignal.isSome →
        (firstLaunch.ReachesAlike u' "bootstrap_failed" launchFailedPayload lostEmission.dedupe
            .empty ↔
          firstLaunch.JournalFails clientDown "bootstrap_failed" launchFailedPayload) :=
  emit_retriable_iff firstLaunch clientDown .empty "bootstrap_failed" launchFailedPayload
    failedOutside_lostEmission

/-- A signal that the client did not take is not offered to it again. -/
theorem emit_not_retriable :
    ¬ ∀ (g : ManagerGateway) (u : Surroundings String) (s : LifecycleSignalDedupe)
      (signalType : String) (payload : PyDict), failedOutside (g.emit u s signalType payload) →
        DecidesAlike (g.emit u s signalType payload).dedupe s := by
  intro halike
  have hjournal : ¬ firstLaunch.JournalFails clientDown "bootstrap_failed" launchFailedPayload := by
    rintro ⟨e, -, hraises⟩
    simp [journalRaises, clientDown] at hraises
  rcases emit_of_clientFails failedOutside_lostEmission hjournal with ⟨e, -, haccept, hdedupe⟩
  have hsame := halike firstLaunch clientDown .empty "bootstrap_failed" launchFailedPayload
    failedOutside_lostEmission (e, 1)
  rw [hdedupe] at hsame
  exact LifecycleSignalDedupe.decide_again haccept (hsame.trans haccept)

end ManagerGateway
end Integration
end StrategyWorker
