import StrategyWorker.Integration.SignalPayload
import StrategyWorker.Persistence.RuntimeJournal

/-!
# Records of the state journal and of the order intent journal

Besides the tables that refer to the instance, a runtime journal keeps one row
for each change of its state and one for each order intent, and writes the same
record as a line of JSON to a text file.  The record and its line are built
before the lock of the journal is taken.

Main results:

- Theorem {lit}`foreign_jsonSafe`: what {lit}`_json_safe` returns can be written
  as JSON.
- Theorem {lit}`exists_text_of_build`: so can the line of every record.
- Theorem {lit}`runStatements_instance`: on the table of instances the statements
  of a phase change are its transaction.
-/

namespace StrategyWorker
namespace Persistence

open Library Events Domain
open PyText WorkerTables

/-! ## Rows -/

structure RuntimeStateJournalRecord where
  runtimeId : String
  launchAttempt : Int
  kind : String
  observedAt : PyDateTime
  phase : Option String := none
  previousPhase : Option String := none
  stepName : Option String := none
  level : Option String := none
  reasonCode : Option String := none
  details : Option PyDict := none

/-- A row of {lit}`runtime_state_journal`, without its number. -/
structure StateJournalRow where
  runtimeId : String
  launchAttempt : Int
  kind : String
  phase : Option String
  previousPhase : Option String
  stepName : Option String
  level : Option String
  reasonCode : Option String
  observedAt : WireTs
  detailsJson : Option String
  deriving DecidableEq

structure OrderIntentJournalRecord where
  runtimeId : String
  launchAttempt : Int
  source : String
  requestedAt : PyDateTime
  payload : PyDict
  result : PyDict
  correlationId : Option String
  createdAt : Option PyDateTime
  jobId : Option String
  idempotencyKey : Option String
  orderIntentId : Option String
  symbol : Option String

/-- A row of {lit}`order_intent_journal`, without its number. -/
structure OrderIntentRow where
  runtimeId : String
  launchAttempt : Int
  source : String
  payloadJson : String
  resultJson : Option String
  requestedAt : WireTs
  createdAt : Option WireTs
  correlationId : Option String
  jobId : Option String
  idempotencyKey : Option String
  orderIntentId : Option String
  symbol : Option String
  deriving DecidableEq

/-- The values of {lit}`SQLiteRuntimeStateJournalRepository.append(record)`. -/
def stateJournalRow (record : RuntimeStateJournalRecord) : Except PyException StateJournalRow := do
  let observedAt ← wireTs record.observedAt
  let detailsJson ← toJsonOrNull record.details
  return {
    runtimeId := record.runtimeId
    launchAttempt := record.launchAttempt
    kind := record.kind
    phase := record.phase
    previousPhase := record.previousPhase
    stepName := record.stepName
    level := record.level
    reasonCode := record.reasonCode
    observedAt, detailsJson }

/-- The values of {lit}`SQLiteOrderIntentJournalRepository.append(record)`. -/
def orderIntentRow (record : OrderIntentJournalRecord) : Except PyException OrderIntentRow := do
  let createdAt ← record.createdAt.mapM wireTs
  let payloadJson ← toJson record.payload
  let resultJson ← toJsonOrNull (some record.result)
  let requestedAt ← wireTs record.requestedAt
  return {
    runtimeId := record.runtimeId
    launchAttempt := record.launchAttempt
    source := record.source
    payloadJson, resultJson, requestedAt, createdAt
    correlationId := record.correlationId
    jobId := record.jobId
    idempotencyKey := record.idempotencyKey
    orderIntentId := record.orderIntentId
    symbol := record.symbol }

/-! ## Statements -/

/-- The tables of the journal. -/
structure JournalTables where
  workers : WorkerTables
  stateJournal : List StateJournalRow
  orderIntents : List OrderIntentRow

/-- A statement of a transaction. -/
abbrev Statement := JournalTables → Except StoreError JournalTables

/-- A statement on the tables that refer to the instances. -/
def onWorkers (f : WorkerTables → Except StoreError WorkerTables) : Statement := fun t => do
  return { t with workers := ← f t.workers }

/-- {lit}`SQLiteRuntimeStateJournalRepository.append(record)`. -/
def appendState (record : RuntimeStateJournalRecord) : Statement := fun t => do
  let row ← (stateJournalRow record).mapError .raised
  return { t with stateJournal := t.stateJournal ++ [row] }

/-- {lit}`SQLiteOrderIntentJournalRepository.append(record)`. -/
def appendOrderIntent (record : OrderIntentJournalRecord) : Statement := fun t => do
  let row ← (orderIntentRow record).mapError .raised
  return { t with orderIntents := t.orderIntents ++ [row] }

/-- What a journal writes: a row, and a line of text. -/
inductive JournalRecord where
  | state (record : RuntimeStateJournalRecord) (line : PyDict)
  | orderIntent (record : OrderIntentJournalRecord) (line : PyDict)

/-- A journal of one runtime, with the job of its launch. -/
structure OrderJournalSink extends RuntimeJournalSink where
  launchJobId : Option String

namespace OrderJournalSink

variable (sink : OrderJournalSink)

/-- The statements on the instance in {lit}`_persist_state` of a phase change: the stub, the query
of the instance and the update of its state. -/
def instanceStatements (phase : String) (reasonCode : Option String) (observedAt : PyDateTime) :
    List Statement :=
  [onWorkers (sink.ensureStub observedAt), fun t => .ok t,
    onWorkers fun db => db.updateState sink.runtimeId
      (sink.keepingUpdate phase reasonCode observedAt (db.workerInstances.get? sink.runtimeId))]

/-- The statements of the transaction of a record. -/
def statements : JournalRecord → List Statement
  | .state record _ =>
      (match record.phase with
      | some phase =>
          if record.kind = "phase" then
            sink.instanceStatements phase record.reasonCode record.observedAt
          else []
      | none => []) ++ [appendState record]
  | .orderIntent record _ => [appendOrderIntent record]

end OrderJournalSink

/-- Statements one after the other. -/
def runStatements (statements : List Statement) (t : JournalTables) :
    Except StoreError JournalTables :=
  statements.foldlM (fun t statement => statement t) t

theorem runStatements_concat {statements : List Statement} {statement : Statement}
    {t u v : JournalTables} (hbefore : runStatements statements t = .ok u)
    (hlast : statement u = .ok v) : runStatements (statements ++ [statement]) t = .ok v := by
  unfold runStatements at hbefore ⊢
  rw [List.foldlM_append, hbefore]
  exact (bind_eq_ok.2 ⟨v, hlast, rfl⟩ : statement u >>= pure = .ok v)

/-- {lit}`json.dumps(line, separators=(",", ":"), ensure_ascii=True)`. -/
def lineText (line : PyDict) : Except PyException String :=
  (PyJson.encode ⟨false, fun _ => .error .typeError⟩ (.dict line)).mapError PyError.raised

def JournalRecord.line : JournalRecord → PyDict
  | state _ line | orderIntent _ line => line

/-! ## The payload of an order intent -/

/-- {lit}`value if value is not None else None`, as a field of a line. -/
def orNone (value : Option String) : PyVal :=
  value.elim .none .str

/-- {lit}`s if s else None`, with {lit}`s` the stripped text of a value. -/
def strippedOrNone (value : PyVal) : Option String :=
  let text := strip (pyStr value)
  if text = "" then none else some text

/-- {lit}`str(payload.get(key) or "").strip()`. -/
def fieldText (payload : PyDict) (key : String) : Option String :=
  strippedOrNone ((payload.get key).orElse (.str ""))

/-- {lit}`value in (None, "")`. -/
def isNoneOrEmpty : PyVal → Bool
  | .none => true
  | .str s => s = ""
  | _ => false

/-- The time of the request from the time of the occurrence. -/
def migrateOccurredAt (legacy : PyVal) (out : PyDict) : PyDict :=
  if ¬ legacy.isNone ∧ isNoneOrEmpty (out.get "requested_at") then out.set "requested_at" legacy
  else out

/-- The idempotency key from the id of the client. -/
def migrateClientIntentId (legacy : PyVal) (out : PyDict) : PyDict :=
  if legacy.truthy ∧ fieldText out "idempotency_key" = none then
    out.set "idempotency_key" (.str (strip (pyStr legacy)))
  else out

/-- The keys that are dropped. -/
def droppedKeys : List String :=
  ["backtest_job_id", "strategy_context", "replay_session_id", "launch_attempt"]

/-- {lit}`_canonical_order_intent_journal_payload(d)`. -/
def canonicalPayload (d : PyDict) : PyDict :=
  let out := migrateOccurredAt (d.get "occurred_at") (d.pop "occurred_at")
  let out := droppedKeys.foldl PyDict.pop out
  migrateClientIntentId (out.get "client_intent_id") (out.pop "client_intent_id")

/-- The symbol from the parameters when there is none. -/
def withSymbol (payload : PyDict) : PyDict :=
  match fieldText payload "symbol", payload.get "parameters" with
  | none, .dict nested =>
      match PyDict.get nested "symbol" with
      | .str s => if strip s = "" then payload else payload.set "symbol" (.str (strip s))
      | _ => payload
  | _, _ => payload

namespace OrderJournalSink

variable (sink : OrderJournalSink)

/-- A time of an order intent; a naive one is in UTC. -/
def normalizeUtc (d : PyDateTime) : Except PyException PyDateTime :=
  if d.utcoffset.isNone then .ok d.naiveAsUtc else astimezone sink.toRuntimeJournalSink d

/-- {lit}`_requested_at_for_order_intent(payload)`. -/
def requestedAt (payload : PyDict) (now : UtcDateTime) : Except PyException PyDateTime :=
  match (payload.get "requested_at").orElse (payload.get "occurred_at") with
  | .datetime d => sink.normalizeUtc d
  | _ => .ok now.val

/-- {lit}`_created_at_for_order_intent(payload)`. -/
def createdAt (payload : PyDict) : Except PyException (Option PyDateTime) :=
  match payload.get "created_at" with
  | .datetime d => (sink.normalizeUtc d).map some
  | raw => .ok (parseDt raw)

/-- The column {lit}`job_id`, and the payload with it. -/
def withJobId (payload : PyDict) : Option String × PyDict :=
  match sink.launchJobId with
  | some jobId => (some jobId, payload.set "job_id" (.str jobId))
  | none => (fieldText payload "job_id", payload)

/-- The payload that an order intent is stored with. -/
def storedPayload (safe : PyDict) : PyDict :=
  withSymbol (sink.withJobId (canonicalPayload safe)).2

/-- The record and the line of {lit}`record_order_intent(source, payload, result)`. -/
def orderIntentRecord (source : String) (payload result : PyDict) (now : UtcDateTime) :
    Except PyException JournalRecord := do
  let requestedAt ← sink.requestedAt payload now
  let createdAt ← sink.createdAt payload
  let safe ← jsonSafeFields sink.toRuntimeJournalSink payload
  let jobId := (sink.withJobId (canonicalPayload safe)).1
  let payloadSafe := sink.storedPayload safe
  let idempotencyKey := fieldText payloadSafe "idempotency_key"
  let orderIntentId :=
    if (payloadSafe.get "order_intent_id").isNone then none
    else strippedOrNone (payloadSafe.get "order_intent_id")
  let symbol := fieldText payloadSafe "symbol"
  let resultSafe ← jsonSafeFields sink.toRuntimeJournalSink result
  let requestedText ← wireIso sink.toRuntimeJournalSink requestedAt
  let createdText ← createdAt.mapM (wireIso sink.toRuntimeJournalSink)
  let correlationId := textOf payload "correlation_id"
  return .orderIntent
    { runtimeId := sink.runtimeId
      launchAttempt := sink.launchAttempt
      source, requestedAt, payload := payloadSafe, result := resultSafe, correlationId, createdAt,
      jobId, idempotencyKey, orderIntentId, symbol }
    [("kind", .str "order_intent"), ("runtime_id", .str sink.runtimeId),
      ("launch_attempt", .int sink.launchAttempt), ("source", .str source),
      ("job_id", orNone jobId), ("idempotency_key", orNone idempotencyKey),
      ("order_intent_id", orNone orderIntentId), ("symbol", orNone symbol),
      ("payload", .dict payloadSafe), ("result", .dict resultSafe),
      ("requested_at", .str requestedText), ("created_at", orNone createdText),
      ("correlation_id", orNone correlationId)]

/-! ## The records of the state journal -/

/-- The fields that every line of the state journal begins with. -/
def lineHead (kind : String) : PyDict :=
  [("kind", .str kind), ("runtime_id", .str sink.runtimeId),
    ("launch_attempt", .int sink.launchAttempt)]

/-- {lit}`record_phase_change(previous_phase=..., phase=..., level=..., reason_code=...)`. -/
def phaseChangeRecord (previousPhase : Option WorkerPhase) (phase : WorkerPhase) (level : String)
    (reasonCode : Option String) (now : UtcDateTime) : Except PyException JournalRecord := do
  let observedText ← wireIso sink.toRuntimeJournalSink now.val
  return .state
    { runtimeId := sink.runtimeId
      launchAttempt := sink.launchAttempt
      kind := "phase"
      observedAt := now.val
      phase := some phase.value
      previousPhase := previousPhase.map WorkerPhase.value
      level := some level
      reasonCode }
    (sink.lineHead "phase" ++ [("phase", .str phase.value),
      ("previous_phase", orNone (previousPhase.map WorkerPhase.value)), ("level", .str level),
      ("reason_code", orNone reasonCode), ("observed_at", .str observedText)])

/-- {lit}`record_startup_step(step)` and {lit}`record_shutdown_step(step)`. -/
def stepRecord (kind stage reasonCode step : String) (now : UtcDateTime) :
    Except PyException JournalRecord := do
  let details : PyDict := [("step_name", .str step), ("stage", .str stage)]
  let observedText ← wireIso sink.toRuntimeJournalSink now.val
  return .state
    { runtimeId := sink.runtimeId
      launchAttempt := sink.launchAttempt
      kind
      observedAt := now.val
      stepName := some step
      level := some "INFO"
      reasonCode := some reasonCode
      details := some details }
    (sink.lineHead kind ++ [("step_name", .str step), ("level", .str "INFO"),
      ("reason_code", .str reasonCode), ("details", .dict details),
      ("observed_at", .str observedText)])

def startupStepRecord (step : String) (now : UtcDateTime) : Except PyException JournalRecord :=
  sink.stepRecord "startup_step" "startup" "STARTUP_PROGRESS" step now

def shutdownStepRecord (step : String) (now : UtcDateTime) : Except PyException JournalRecord :=
  sink.stepRecord "shutdown_step" "shutdown" "SHUTDOWN_PROGRESS" step now

/-- {lit}`record_first_data()`. -/
def firstDataRecord (now : UtcDateTime) : Except PyException JournalRecord := do
  let details : PyDict := [("marker", .str "first_data_observed")]
  let observedText ← wireIso sink.toRuntimeJournalSink now.val
  return .state
    { runtimeId := sink.runtimeId
      launchAttempt := sink.launchAttempt
      kind := "first_data"
      observedAt := now.val
      level := some "INFO"
      reasonCode := some "FIRST_DATA_OBSERVED"
      details := some details }
    (sink.lineHead "first_data" ++ [("level", .str "INFO"),
      ("reason_code", .str "FIRST_DATA_OBSERVED"), ("details", .dict details),
      ("observed_at", .str observedText)])

/-- {lit}`record_manager_stop_request(...)`. -/
def managerStopRequestRecord (lastDataEventAt lastClockAt : Option PyDateTime)
    (lastReplayCursor : String) (stopRequestedAt : PyDateTime) :
    Except PyException JournalRecord := do
  let stopText ← wireIso sink.toRuntimeJournalSink stopRequestedAt
  let dataText ← lastDataEventAt.mapM (wireIso sink.toRuntimeJournalSink)
  let clockText ← lastClockAt.mapM (wireIso sink.toRuntimeJournalSink)
  let details : PyDict := [("rpc", .str "StopWorker"),
    ("last_replay_cursor", .str lastReplayCursor), ("stop_requested_at", .str stopText),
    ("last_data_event_at", orNone dataText), ("last_clock_at", orNone clockText)]
  return .state
    { runtimeId := sink.runtimeId
      launchAttempt := sink.launchAttempt
      kind := "manager_stop_request"
      observedAt := stopRequestedAt
      level := some "INFO"
      reasonCode := some "MANAGER_STOP_REQUESTED"
      details := some details }
    (sink.lineHead "manager_stop_request" ++ [("level", .str "INFO"),
      ("reason_code", .str "MANAGER_STOP_REQUESTED"), ("observed_at", .str stopText)] ++ details)

end OrderJournalSink

/-! ## Calls -/

/-- A call of the state journal or of the order intent journal, with the clock when it is made. -/
inductive JournalCall where
  | phaseChange (previousPhase : Option WorkerPhase) (phase : WorkerPhase) (level : String)
      (reasonCode : Option String) (now : UtcDateTime)
  | startupStep (step : String) (now : UtcDateTime)
  | shutdownStep (step : String) (now : UtcDateTime)
  | firstData (now : UtcDateTime)
  | managerStopRequest (lastDataEventAt lastClockAt : Option PyDateTime)
      (lastReplayCursor : String) (stopRequestedAt : PyDateTime)
  | orderIntent (source : String) (payload result : PyDict) (now : UtcDateTime)

/-- The record and the line of a call. -/
def JournalCall.build (sink : OrderJournalSink) : JournalCall → Except PyException JournalRecord
  | phaseChange previousPhase phase level reasonCode now =>
      sink.phaseChangeRecord previousPhase phase level reasonCode now
  | startupStep step now => sink.startupStepRecord step now
  | shutdownStep step now => sink.shutdownStepRecord step now
  | firstData now => sink.firstDataRecord now
  | managerStopRequest lastDataEventAt lastClockAt lastReplayCursor stopRequestedAt =>
      sink.managerStopRequestRecord lastDataEventAt lastClockAt lastReplayCursor stopRequestedAt
  | orderIntent source payload result now => sink.orderIntentRecord source payload result now

/-! ## Lines can be written -/

mutual

/-- What {lit}`_json_safe` returns holds nothing that JSON does not have. -/
theorem foreign_jsonSafe {sink : RuntimeJournalSink} (v : PyVal) {w : PyVal}
    (h : jsonSafe sink v = .ok w) : PyJson.foreign w = [] := by
  cases v with
  | none | bool _ | int _ | float _ | str _ | scalar _ =>
      simp only [jsonSafe] at h
      obtain rfl := Except.ok.inj h
      rfl
  | datetime d =>
      simp only [jsonSafe, bind_eq_ok] at h
      rcases h with ⟨text, -, h⟩
      obtain rfl := Except.ok.inj h
      rfl
  | list vs =>
      simp only [jsonSafe, bind_eq_ok] at h
      rcases h with ⟨ws, hws, h⟩
      obtain rfl := Except.ok.inj h
      exact foreign_jsonSafeList vs hws
  | dict fields =>
      simp only [jsonSafe, bind_eq_ok] at h
      rcases h with ⟨ws, hws, h⟩
      obtain rfl := Except.ok.inj h
      exact foreign_jsonSafeFields fields hws

theorem foreign_jsonSafeList {sink : RuntimeJournalSink} (vs : List PyVal) {ws : List PyVal}
    (h : jsonSafeList sink vs = .ok ws) : PyJson.foreignList ws = [] := by
  cases vs with
  | nil =>
      obtain rfl := Except.ok.inj h
      rfl
  | cons v vs =>
      simp only [jsonSafeList, bind_eq_ok] at h
      rcases h with ⟨w, hw, ws', hws, h⟩
      obtain rfl := Except.ok.inj h
      rw [PyJson.foreignList, foreign_jsonSafe v hw, foreign_jsonSafeList vs hws]
      rfl

theorem foreign_jsonSafeFields {sink : RuntimeJournalSink} (fields : List (String × PyVal))
    {ws : List (String × PyVal)} (h : jsonSafeFields sink fields = .ok ws) :
    PyJson.foreignFields ws = [] := by
  cases fields with
  | nil =>
      obtain rfl := Except.ok.inj h
      rfl
  | cons f fields =>
      rcases f with ⟨key, v⟩
      simp only [jsonSafeFields, bind_eq_ok] at h
      rcases h with ⟨w, hw, ws', hws, h⟩
      obtain rfl := Except.ok.inj h
      rw [PyJson.foreignFields, foreign_jsonSafe v hw, foreign_jsonSafeFields fields hws]
      rfl

end

theorem foreign_of_mem {d : PyDict} (h : PyJson.foreignFields d = []) {f : String × PyVal}
    (hf : f ∈ d) : PyJson.foreign f.2 = [] := by
  rw [List.eq_nil_iff_forall_not_mem]
  intro w hw
  have hmem := PyJson.mem_foreignFields.2 ⟨f, hf, hw⟩
  rw [h] at hmem
  cases hmem

theorem foreignFields_of_forall {d : PyDict} (h : ∀ f ∈ d, PyJson.foreign f.2 = []) :
    PyJson.foreignFields d = [] := by
  rw [List.eq_nil_iff_forall_not_mem]
  intro w hw
  rcases PyJson.mem_foreignFields.1 hw with ⟨f, hf, hw⟩
  rw [h f hf] at hw
  cases hw

/-- A field of a dictionary. -/
theorem foreign_field {d : PyDict} (h : PyJson.foreignFields d = []) (key : String) :
    PyJson.foreign (d.get key) = [] := by
  unfold PyDict.get PyDict.get?
  cases hfind : d.find? fun f => f.1 = key with
  | none => rfl
  | some f => exact foreign_of_mem h (List.mem_of_find?_eq_some hfind)

theorem foreign_pop {d : PyDict} (h : PyJson.foreignFields d = []) (key : String) :
    PyJson.foreignFields (d.pop key) = [] :=
  foreignFields_of_forall fun _ hf => foreign_of_mem h (List.mem_of_mem_filter hf)

theorem mem_set {d : PyDict} {key : String} {value : PyVal} {f : String × PyVal}
    (h : f ∈ d.set key value) : f = (key, value) ∨ f ∈ d := by
  induction d with
  | nil => exact .inl (List.mem_singleton.1 h)
  | cons g d ih =>
      unfold PyDict.set at h
      split at h
      · rcases List.mem_cons.1 h with rfl | h
        · exact .inl rfl
        · exact .inr (List.mem_cons_of_mem _ h)
      · rcases List.mem_cons.1 h with rfl | h
        · exact .inr List.mem_cons_self
        · exact (ih h).imp id (List.mem_cons_of_mem _)

theorem foreign_set {d : PyDict} (h : PyJson.foreignFields d = []) {key : String} {value : PyVal}
    (hvalue : PyJson.foreign value = []) : PyJson.foreignFields (d.set key value) = [] := by
  refine foreignFields_of_forall fun f hf => ?_
  rcases mem_set hf with rfl | hf
  · exact hvalue
  · exact foreign_of_mem h hf

theorem foreign_canonicalPayload {d : PyDict} (h : PyJson.foreignFields d = []) :
    PyJson.foreignFields (canonicalPayload d) = [] := by
  have hrequested : PyJson.foreignFields
      (migrateOccurredAt (d.get "occurred_at") (d.pop "occurred_at")) = [] := by
    unfold migrateOccurredAt
    split
    · exact foreign_set (foreign_pop h _) (foreign_field h _)
    · exact foreign_pop h _
  have hdropped : ∀ (keys : List String) (out : PyDict), PyJson.foreignFields out = [] →
      PyJson.foreignFields (keys.foldl PyDict.pop out) = [] := by
    intro keys
    induction keys with
    | nil => exact fun out hout => hout
    | cons key keys ih => exact fun out hout => ih (out.pop key) (foreign_pop hout key)
  unfold canonicalPayload migrateClientIntentId
  dsimp only
  split
  · exact foreign_set (foreign_pop (hdropped _ _ hrequested) _) rfl
  · exact foreign_pop (hdropped _ _ hrequested) _

theorem foreign_storedPayload (sink : OrderJournalSink) {safe : PyDict}
    (h : PyJson.foreignFields safe = []) : PyJson.foreignFields (sink.storedPayload safe) = [] := by
  have hjob : PyJson.foreignFields (sink.withJobId (canonicalPayload safe)).2 = [] := by
    unfold OrderJournalSink.withJobId
    split
    · exact foreign_set (foreign_canonicalPayload h) rfl
    · exact foreign_canonicalPayload h
  unfold OrderJournalSink.storedPayload withSymbol
  split
  · split
    · split
      · exact hjob
      · exact foreign_set hjob rfl
    · exact hjob
  · exact hjob

@[simp]
theorem foreign_orNone (value : Option String) : PyJson.foreign (orNone value) = [] := by
  cases value <;> rfl

/-- The line of a record holds nothing that JSON does not have. -/
theorem foreign_line_of_build {sink : OrderJournalSink} {call : JournalCall}
    {record : JournalRecord} (h : call.build sink = .ok record) :
    PyJson.foreignFields record.line = [] := by
  cases call with
  | phaseChange previousPhase phase level reasonCode now =>
      simp only [JournalCall.build, OrderJournalSink.phaseChangeRecord, bind_eq_ok] at h
      rcases h with ⟨text, -, h⟩
      obtain rfl := Except.ok.inj h
      simp [JournalRecord.line, OrderJournalSink.lineHead, PyJson.foreignFields, PyJson.foreign]
  | startupStep step now | shutdownStep step now =>
      simp only [JournalCall.build, OrderJournalSink.startupStepRecord,
        OrderJournalSink.shutdownStepRecord, OrderJournalSink.stepRecord, bind_eq_ok] at h
      rcases h with ⟨text, -, h⟩
      obtain rfl := Except.ok.inj h
      simp [JournalRecord.line, OrderJournalSink.lineHead, PyJson.foreignFields, PyJson.foreign]
  | firstData now =>
      simp only [JournalCall.build, OrderJournalSink.firstDataRecord, bind_eq_ok] at h
      rcases h with ⟨text, -, h⟩
      obtain rfl := Except.ok.inj h
      simp [JournalRecord.line, OrderJournalSink.lineHead, PyJson.foreignFields, PyJson.foreign]
  | managerStopRequest lastDataEventAt lastClockAt lastReplayCursor stopRequestedAt =>
      simp only [JournalCall.build, OrderJournalSink.managerStopRequestRecord, bind_eq_ok] at h
      rcases h with ⟨stop, -, data, -, clock, -, h⟩
      obtain rfl := Except.ok.inj h
      simp [JournalRecord.line, OrderJournalSink.lineHead, PyJson.foreignFields, PyJson.foreign]
  | orderIntent source payload result now =>
      simp only [JournalCall.build, OrderJournalSink.orderIntentRecord, bind_eq_ok] at h
      rcases h with ⟨requested, -, created, -, safe, hsafe, resultSafe, hresult, requestedText, -,
        createdText, -, h⟩
      obtain rfl := Except.ok.inj h
      have hpayload := foreign_storedPayload sink (foreign_jsonSafeFields payload hsafe)
      have hresult := foreign_jsonSafeFields result hresult
      simp [JournalRecord.line, PyJson.foreignFields, PyJson.foreign, hpayload, hresult]

/-- The line of a record can be written as JSON. -/
theorem exists_text_of_build {sink : OrderJournalSink} {call : JournalCall}
    {record : JournalRecord} (h : call.build sink = .ok record) :
    ∃ text, lineText record.line = .ok text := by
  have hforeign : PyJson.foreign (.dict record.line) = [] := foreign_line_of_build h
  have hencode := (PyJson.exists_encode_iff ⟨false, fun _ => .error .typeError⟩
    (.dict record.line)).2 (by simp [hforeign])
  rcases hencode with ⟨text, htext⟩
  refine ⟨text, ?_⟩
  unfold lineText
  rw [htext]
  rfl

/-! ## The payload that is stored -/

/-- The safe form of the fields has the safe form of each field. -/
theorem get?_jsonSafeFields {sink : RuntimeJournalSink} {fields ws : PyDict}
    (h : jsonSafeFields sink fields = .ok ws) (key : String) :
    (∀ v, fields.get? key = some v → ∃ w, jsonSafe sink v = .ok w ∧ ws.get? key = some w) ∧
      (fields.get? key = none → ws.get? key = none) := by
  induction fields generalizing ws with
  | nil =>
      obtain rfl := Except.ok.inj h
      exact ⟨fun v hv => (nomatch hv), fun _ => rfl⟩
  | cons f fields ih =>
      rcases f with ⟨name, value⟩
      simp only [jsonSafeFields, bind_eq_ok] at h
      rcases h with ⟨w, hw, ws', hws, h⟩
      obtain rfl := Except.ok.inj h
      rw [PyDict.get?_cons, PyDict.get?_cons]
      by_cases hname : name = key
      · rw [if_pos hname, if_pos hname]
        refine ⟨fun v hv => ⟨w, ?_, rfl⟩, fun hnone => (nomatch hnone)⟩
        rw [← Option.some.inj hv]
        exact hw
      · rw [if_neg hname, if_neg hname]
        exact ih hws

theorem exists_jsonSafeFields {sink : RuntimeJournalSink} {fields : PyDict}
    (h : ∀ f ∈ fields, ∃ w, jsonSafe sink f.2 = .ok w) :
    ∃ ws, jsonSafeFields sink fields = .ok ws := by
  induction fields with
  | nil => exact ⟨[], rfl⟩
  | cons f fields ih =>
      rcases h f List.mem_cons_self with ⟨w, hw⟩
      rcases ih fun g hg => h g (List.mem_cons_of_mem _ hg) with ⟨ws, hws⟩
      exact ⟨(f.1, w) :: ws, bind_eq_ok.2 ⟨w, hw, bind_eq_ok.2 ⟨ws, hws, rfl⟩⟩⟩

theorem get?_pops (keys : List String) (out : PyDict) {key : String} (h : key ∉ keys) :
    (keys.foldl PyDict.pop out).get? key = out.get? key := by
  induction keys generalizing out with
  | nil => rfl
  | cons name keys ih =>
      simp only [List.mem_cons, not_or] at h
      rw [List.foldl_cons, ih _ h.2, PyDict.get?_pop, if_neg (Ne.symm h.1)]

/-- A field that the canonical payload keeps. -/
theorem get?_canonicalPayload {d : PyDict} {key : String}
    (h : key ∉ ["occurred_at", "requested_at", "client_intent_id"] ++ droppedKeys)
    (hlegacy : d.get? "client_intent_id" = none) :
    (canonicalPayload d).get? key = d.get? key := by
  simp only [List.mem_append, List.mem_cons, List.not_mem_nil, or_false, not_or] at h
  have hmigrated : ∀ key, key ≠ "occurred_at" → key ≠ "requested_at" →
      (migrateOccurredAt (d.get "occurred_at") (d.pop "occurred_at")).get? key = d.get? key := by
    intro key hoccurred hrequested
    unfold migrateOccurredAt
    split
    · rw [PyDict.get?_set, if_neg (Ne.symm hrequested), PyDict.get?_pop,
        if_neg (Ne.symm hoccurred)]
    · rw [PyDict.get?_pop, if_neg (Ne.symm hoccurred)]
  have hnone : PyDict.get (droppedKeys.foldl PyDict.pop
      (migrateOccurredAt (d.get "occurred_at") (d.pop "occurred_at"))) "client_intent_id" =
        .none := by
    rw [PyDict.get, get?_pops _ _ (by decide), hmigrated _ (by decide) (by decide), hlegacy]
    rfl
  unfold canonicalPayload migrateClientIntentId
  dsimp only
  rw [hnone, if_neg (by simp [PyVal.truthy]), PyDict.get?_pop, if_neg (Ne.symm h.1.2.2),
    get?_pops _ _ h.2, hmigrated _ h.1.1 h.1.2.1]

/-- After the canonical form only the job and the symbol are set. -/
theorem get?_storedPayload_canonical (sink : OrderJournalSink) (safe : PyDict) {key : String}
    (hjob : key ≠ "job_id") (hsymbol : key ≠ "symbol") :
    (sink.storedPayload safe).get? key = (canonicalPayload safe).get? key := by
  have hwith : (sink.withJobId (canonicalPayload safe)).2.get? key =
      (canonicalPayload safe).get? key := by
    unfold OrderJournalSink.withJobId
    split
    · rw [PyDict.get?_set, if_neg (Ne.symm hjob)]
    · rfl
  unfold OrderJournalSink.storedPayload withSymbol
  split
  · split
    · split
      · exact hwith
      · rw [PyDict.get?_set, if_neg (Ne.symm hsymbol), hwith]
    · exact hwith
  · exact hwith

/-- A field that the stored payload keeps. -/
theorem get?_storedPayload (sink : OrderJournalSink) {safe : PyDict} {key : String}
    (h : key ∉ ["occurred_at", "requested_at", "client_intent_id"] ++ droppedKeys)
    (hjob : key ≠ "job_id") (hsymbol : key ≠ "symbol")
    (hlegacy : safe.get? "client_intent_id" = none) :
    (sink.storedPayload safe).get? key = safe.get? key := by
  rw [get?_storedPayload_canonical sink safe hjob hsymbol, get?_canonicalPayload h hlegacy]

/-- A field that the id of the client does not touch is that of the payload with the time of the
request. -/
theorem get?_canonicalPayload_migrated (d : PyDict) {key : String}
    (h : key ∉ ["client_intent_id", "idempotency_key"] ++ droppedKeys) :
    (canonicalPayload d).get? key =
      (migrateOccurredAt (d.get "occurred_at") (d.pop "occurred_at")).get? key := by
  simp only [List.mem_append, List.mem_cons, List.not_mem_nil, or_false, not_or] at h
  have hdropped : (PyDict.pop (droppedKeys.foldl PyDict.pop
      (migrateOccurredAt (d.get "occurred_at") (d.pop "occurred_at"))) "client_intent_id").get? key =
        (migrateOccurredAt (d.get "occurred_at") (d.pop "occurred_at")).get? key := by
    rw [PyDict.get?_pop, if_neg (Ne.symm h.1.1), get?_pops _ _ h.2]
  unfold canonicalPayload migrateClientIntentId
  dsimp only
  split
  · rw [PyDict.get?_set, if_neg (Ne.symm h.1.2), hdropped]
  · exact hdropped

/-! ## Rows of order intents -/

/-- A time in UTC is written. -/
theorem exists_wireIso (sink : RuntimeJournalSink) {d : PyDateTime} (hutc : d.utcoffset = some 0) :
    ∃ text, wireIso sink d = .ok text := by
  refine ⟨wireText d, ?_⟩
  have hzone : astimezone sink d = .ok d := by
    unfold astimezone
    have hwall : d.wall - d.utcoffset.getD (sink.zone d.wall) = d.wall := by simp [hutc]
    rw [hwall, ← hutc, PyDateTime.ofWall?, dif_pos ⟨d.wall_range, d.offset_range⟩]
  exact bind_eq_ok.2 ⟨d, hzone, rfl⟩

theorem exists_wireTs {d : PyDateTime} (hutc : d.utcoffset = some 0) :
    ∃ ts, wireTs d = .ok ts := by
  refine ⟨WireTs.ofUtc ⟨d, hutc⟩, ?_⟩
  have hrange : 0 ≤ d.wall - 0 ∧ d.wall - 0 < maxOrdinal * microsPerDay := by
    simpa using d.wall_range
  unfold wireTs requireUtc
  rw [hutc]
  simp only [utcOfWall, dif_pos hrange]
  rcases d with ⟨wall, offset, hwall, hoffset⟩
  cases hutc
  simp [Except.map]

/-- The record of an order intent that can be built. -/
theorem orderIntentRecord_eq_ok {sink : OrderJournalSink} {source : String}
    {payload result : PyDict} {now : Events.UtcDateTime} {journaled : JournalRecord}
    (h : sink.orderIntentRecord source payload result now = .ok journaled) :
    ∃ (record : OrderIntentJournalRecord) (line safe : PyDict),
      journaled = .orderIntent record line ∧
      jsonSafeFields sink.toRuntimeJournalSink payload = .ok safe ∧
      record.payload = sink.storedPayload safe ∧
      jsonSafeFields sink.toRuntimeJournalSink result = .ok record.result ∧
      sink.requestedAt payload now = .ok record.requestedAt ∧
      sink.createdAt payload = .ok record.createdAt ∧
      record.idempotencyKey = fieldText (sink.storedPayload safe) "idempotency_key" ∧
      record.orderIntentId =
        (if ((sink.storedPayload safe).get "order_intent_id").isNone then none
        else strippedOrNone ((sink.storedPayload safe).get "order_intent_id")) := by
  simp only [OrderJournalSink.orderIntentRecord, bind_eq_ok] at h
  rcases h with ⟨requested, hrequested, created, hcreated, safe, hsafe, resultSafe, hresult,
    requestedText, -, createdText, -, h⟩
  obtain rfl := Except.ok.inj h
  refine ⟨_, _, safe, rfl, hsafe, ?_⟩
  dsimp only
  exact ⟨rfl, hresult, hrequested, hcreated, rfl, rfl⟩

/-- A record with times in UTC and with values that JSON has is a row. -/
theorem exists_orderIntentRow {record : OrderIntentJournalRecord}
    (hrequested : record.requestedAt.utcoffset = some 0)
    (hcreated : ∀ c ∈ record.createdAt, c.utcoffset = some 0)
    (hpayload : PyJson.foreignFields record.payload = [])
    (hresult : PyJson.foreignFields record.result = []) :
    ∃ row, orderIntentRow record = .ok row := by
  rcases exists_wireTs hrequested with ⟨requestedTs, hrequestedTs⟩
  have hcreatedTs : ∃ ts, record.createdAt.mapM wireTs = .ok ts := by
    cases hc : record.createdAt with
    | none => exact ⟨none, rfl⟩
    | some c =>
        rcases exists_wireTs (hcreated c hc) with ⟨ts, hts⟩
        exact ⟨some ts, bind_eq_ok.2 ⟨ts, hts, rfl⟩⟩
  rcases hcreatedTs with ⟨createdTs, hcreatedTs⟩
  have hpayloadJson : ∃ text, toJson record.payload = .ok text :=
    exists_toJson (by simpa [PyJson.foreign] using hpayload)
  have hresultJson : ∃ text, toJson record.result = .ok text :=
    exists_toJson (by simpa [PyJson.foreign] using hresult)
  rcases hpayloadJson with ⟨payloadJson, hpayloadJson⟩
  rcases hresultJson with ⟨resultJson, hresultJson⟩
  have hnull : toJsonOrNull (some record.result) = .ok (some resultJson) := by
    rw [toJsonOrNull, hresultJson]
    rfl
  unfold orderIntentRow
  rw [hcreatedTs, hpayloadJson, hnull, hrequestedTs]
  exact ⟨_, rfl⟩

/-- An order intent with times in UTC, and with a payload and a result that have a safe form, has a
record and a row. -/
theorem exists_orderIntentRecord {sink : OrderJournalSink} {payload result : PyDict}
    {now : Events.UtcDateTime} (source : String)
    (hrequested : ∃ d, sink.requestedAt payload now = .ok d ∧ d.utcoffset = some 0)
    (hcreated : ∃ d, sink.createdAt payload = .ok d ∧ ∀ c ∈ d, c.utcoffset = some 0)
    (hpayload : ∃ ws, jsonSafeFields sink.toRuntimeJournalSink payload = .ok ws)
    (hresult : ∃ ws, jsonSafeFields sink.toRuntimeJournalSink result = .ok ws) :
    ∃ record line, sink.orderIntentRecord source payload result now =
      .ok (.orderIntent record line) ∧ ∃ row, orderIntentRow record = .ok row := by
  rcases hrequested with ⟨requested, hrequested, hrequestedUtc⟩
  rcases hcreated with ⟨created, hcreated, hcreatedUtc⟩
  rcases hpayload with ⟨safe, hsafe⟩
  rcases hresult with ⟨resultSafe, hresultSafe⟩
  rcases exists_wireIso sink.toRuntimeJournalSink hrequestedUtc with ⟨requestedText, hrequestedText⟩
  have hcreatedText : ∃ text, created.mapM (wireIso sink.toRuntimeJournalSink) = .ok text := by
    cases created with
    | none => exact ⟨none, rfl⟩
    | some c =>
        rcases exists_wireIso sink.toRuntimeJournalSink (hcreatedUtc c rfl) with ⟨text, htext⟩
        exact ⟨some text, bind_eq_ok.2 ⟨text, htext, rfl⟩⟩
  rcases hcreatedText with ⟨createdText, hcreatedText⟩
  have hbuilt : ∃ journaled, sink.orderIntentRecord source payload result now = .ok journaled :=
    ⟨_, bind_eq_ok.2 ⟨requested, hrequested, bind_eq_ok.2 ⟨created, hcreated,
      bind_eq_ok.2 ⟨safe, hsafe, bind_eq_ok.2 ⟨resultSafe, hresultSafe, bind_eq_ok.2
        ⟨requestedText, hrequestedText, bind_eq_ok.2 ⟨createdText, hcreatedText, rfl⟩⟩⟩⟩⟩⟩⟩
  rcases hbuilt with ⟨journaled, hbuilt⟩
  rcases orderIntentRecord_eq_ok hbuilt with ⟨record, line, safe', rfl, hsafe', hrecordPayload,
    hrecordResult, hrecordRequested, hrecordCreated, -, -⟩
  refine ⟨record, line, hbuilt, exists_orderIntentRow ?_ ?_ ?_ ?_⟩
  · rw [← Except.ok.inj (hrequested.symm.trans hrecordRequested)]
    exact hrequestedUtc
  · rw [← Except.ok.inj (hcreated.symm.trans hrecordCreated)]
    exact hcreatedUtc
  · rw [hrecordPayload]
    exact foreign_storedPayload sink (foreign_jsonSafeFields payload hsafe')
  · exact foreign_jsonSafeFields result hrecordResult

/-! ## Statements and transactions -/

/-- On the instances, the statements of a phase change are the transaction of the journal. -/
theorem runStatements_instance (sink : OrderJournalSink) (phase : WorkerPhase)
    (reasonCode : Option String) {observedAt : PyDateTime} {ts : WireTs}
    (hwire : sink.wireIsoTs observedAt = .ok ts) (t : JournalTables) :
    runStatements (sink.instanceStatements phase.value reasonCode observedAt) t =
      (sink.recordPhaseChange phase reasonCode observedAt t.workers).map
        fun db => { t with workers := db } := by
  unfold RuntimeJournalSink.recordPhaseChange
  rw [hwire]
  cases hstub : sink.ensureStub observedAt t.workers with
  | error e =>
      simp [runStatements, OrderJournalSink.instanceStatements, onWorkers, hstub, bind,
        Except.bind, Except.map, Except.mapError]
  | ok db =>
      simp only [runStatements, OrderJournalSink.instanceStatements, onWorkers, hstub, bind,
        Except.bind, Except.map, Except.mapError, List.foldlM, pure, Except.pure]
      cases db.updateState sink.runtimeId _ <;> rfl

end Persistence
end StrategyWorker
