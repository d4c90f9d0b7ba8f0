import StrategyWorker.Library.IsoFormat
import StrategyWorker.Library.KeyedTable
import StrategyWorker.Persistence.WorkerEvents

/-!
# The worker's tables and their repositories

{lit}`repositories.py` writes records into the tables of {lit}`schema.py`.  A
statement raises when a time or a payload cannot be written as a text, and when
it violates a key; a transaction is a sequence of statements over the tables,
and what it has done so far is lost when one of them raises.

Main results:

- Theorem {lit}`datetime_ofUtc`: the texts of times are read back.
- Theorem {lit}`updateState_cases`, theorem {lit}`appendEvent_cases` and the
  like: what each statement can do.
- Theorem {lit}`toDatabase_appendEvent`: the insertion of events is the one of
  the events' own module.
-/

namespace StrategyWorker
namespace Persistence

open Library Events
open PyText

/-! ## Times as texts -/

/-- {lit}`datetime.fromisoformat(value.replace("Z", "+00:00")).astimezone(timezone.utc)` of a text
with an offset. -/
def fromWireTs (value : String) : Option PyDateTime :=
  (PyDateTime.fromisoformat (replaceZulu value)).bind PyDateTime.astimezoneUtc

/-- The text of a time, with its offset in place of the {lit}`Z`. -/
theorem replaceZulu_wireText (utc : UtcDateTime) :
    replaceZulu (wireText utc.val) = utc.val.isoformat "T" := by
  rcases PyDateTime.isoParts_denote utc.val with ⟨year, month, day, hdenote, -⟩
  have hbody : utc.val.isoParts.body.flatMap
      (fun c => if c = 'Z' then "+00:00".toList else [c]) = utc.val.isoParts.body := by
    calc
      utc.val.isoParts.body.flatMap (fun c => if c = 'Z' then "+00:00".toList else [c])
          = utc.val.isoParts.body.flatMap (fun c => [c]) := by
        refine List.flatMap_congr fun c hc => if_neg ?_
        rintro rfl
        have hkind := hdenote.mem_body hc
        revert hkind
        decide
      _ = utc.val.isoParts.body := List.flatMap_singleton' _
  have hchars : (String.ofList (utc.val.isoParts.body ++ ['Z'])).toList =
      utc.val.isoParts.body ++ ['Z'] := String.toList_ofList
  rw [wireText, PyDateTime.replace_offset utc.property, replaceZulu, hchars, List.flatMap_append,
    hbody, PyDateTime.isoformat_utc utc.property, PyDateTime.IsoParts.text]
  rfl

theorem astimezoneUtc_utc (utc : UtcDateTime) : utc.val.astimezoneUtc = some utc.val := by
  rcases utc with ⟨⟨wall, offset, hwall, hoffset⟩, hutc⟩
  have hutc : offset = some 0 := hutc
  subst hutc
  simp only [PyDateTime.astimezoneUtc, Option.getD_some, sub_zero, PyDateTime.ofWall?]
  rw [dif_pos ⟨hwall, hoffset⟩]

theorem fromWireTs_wireText (utc : UtcDateTime) : fromWireTs (wireText utc.val) = some utc.val := by
  rw [fromWireTs, replaceZulu_wireText, PyDateTime.fromisoformat_isoformat utc.property,
    Option.bind_some, astimezoneUtc_utc]

/-- A column of a time: the text of a time in UTC. -/
structure WireTs where
  text : String
  written : ∃ utc : UtcDateTime, text = wireText utc.val
  deriving DecidableEq

namespace WireTs

def ofUtc (utc : UtcDateTime) : WireTs :=
  ⟨wireText utc.val, utc, rfl⟩

theorem isSome_fromWireTs (ts : WireTs) : (fromWireTs ts.text).isSome := by
  rcases ts.written with ⟨utc, htext⟩
  rw [htext, fromWireTs_wireText]
  rfl

/-- {lit}`_from_wire_ts(value)`. -/
def datetime (ts : WireTs) : PyDateTime :=
  (fromWireTs ts.text).get ts.isSome_fromWireTs

/-- The text of a time is read back. -/
@[simp]
theorem datetime_ofUtc (utc : UtcDateTime) : (ofUtc utc).datetime = utc.val := by
  simp [datetime, ofUtc, fromWireTs_wireText]

theorem ofUtc_inj {utc utc' : UtcDateTime} : ofUtc utc = ofUtc utc' ↔ utc = utc' := by
  constructor
  · intro h
    apply Subtype.ext
    rw [← datetime_ofUtc utc, h, datetime_ofUtc]
  · rintro rfl
    rfl

end WireTs

/-- A wall clock reading in UTC. -/
def utcOfWall (wall : Int) : Except PyException UtcDateTime :=
  if h : 0 ≤ wall ∧ wall < maxOrdinal * microsPerDay then
    .ok ⟨⟨wall, some 0, h, PyDateTime.utc_offset_range⟩, rfl⟩
  else .error PyError.overflowError.raised

theorem utcOfWall_cases (wall : Int) :
    (∃ utc, utcOfWall wall = .ok utc ∧ PyDateTime.ofWall? wall (some 0) = some utc.val) ∨
      (utcOfWall wall = .error PyError.overflowError.raised ∧
        PyDateTime.ofWall? wall (some 0) = none) := by
  unfold utcOfWall PyDateTime.ofWall?
  by_cases h : 0 ≤ wall ∧ wall < maxOrdinal * microsPerDay
  · have hoffset : ∀ o ∈ some (0 : Int), -microsPerDay < o ∧ o < microsPerDay := by
      simp [microsPerDay]
    rw [dif_pos h, dif_pos ⟨h, hoffset⟩]
    exact .inl ⟨_, rfl, rfl⟩
  · rw [dif_neg h, dif_neg fun hboth => h hboth.1]
    exact .inr ⟨rfl, rfl⟩

/-- {lit}`_require_utc(value)`. -/
def requireUtc (value : PyDateTime) : Except PyException UtcDateTime :=
  match value.utcoffset with
  | none => .error ⟨.valueError, some "datetime must be timezone-aware"⟩
  | some offset => utcOfWall (value.wall - offset)

/-- {lit}`_to_wire_ts(value)`. -/
def wireTs (value : PyDateTime) : Except PyException WireTs :=
  (requireUtc value).map WireTs.ofUtc

theorem text_wireTs (value : PyDateTime) : (wireTs value).map WireTs.text = toWireTs value := by
  unfold wireTs toWireTs requireUtc
  cases hoffset : value.utcoffset with
  | none => rfl
  | some offset =>
      simp only [Option.isNone_some, Bool.false_eq_true, if_false, PyDateTime.astimezoneUtc,
        hoffset, Option.getD_some]
      rcases utcOfWall_cases (value.wall - offset) with ⟨utc, hutc, hwall⟩ | ⟨hutc, hwall⟩
      · rw [hutc, hwall]
        rfl
      · rw [hutc, hwall]
        rfl

/-- {lit}`_to_json(value)`. -/
def toJsonOrNull : Option PyDict → Except PyException (Option String)
  | none => .ok none
  | some value => (toJson value).map some

/-- Values that JSON has can be written. -/
theorem exists_toJson {value : PyDict} (h : PyJson.foreign (.dict value) = []) :
    ∃ text, toJson value = .ok text := by
  have hencode := (PyJson.exists_encode_iff ⟨true, fun _ => .error .typeError⟩ (.dict value)).2
    (by simp [h])
  rcases hencode with ⟨text, htext⟩
  refine ⟨text, ?_⟩
  unfold toJson
  rw [htext]
  rfl

/-- The row of an event can be built when its times and its payload can be written. -/
theorem exists_row (record : WorkerEventRecord) {occurredAt observedAt : WireTs} {payload : String}
    (hoccurred : wireTs record.occurredAt = .ok occurredAt)
    (hobserved : wireTs record.observedAt = .ok observedAt)
    (hpayload : toJson record.payload = .ok payload) :
    ∃ row, rowOf record = .ok row ∧ row.runtimeId = record.runtimeId ∧
      row.eventId = record.eventId := by
  have ho := text_wireTs record.occurredAt
  have hob := text_wireTs record.observedAt
  rw [hoccurred] at ho
  rw [hobserved] at hob
  have hrow : ∃ row, rowOf record = .ok row := by
    simp only [rowOf, ← ho, ← hob, hpayload]
    exact ⟨_, rfl⟩
  rcases hrow with ⟨row, hrow⟩
  exact ⟨row, hrow, (rowOf_eq_ok hrow).2, (rowOf_eq_ok hrow).1⟩

/-! ## Records -/

structure WorkerInstanceRecord where
  runtimeId : String
  workerIdentity : String
  tenantId : String
  strategyVersionId : String
  launchAttempt : Int
  state : String
  occurredAt : PyDateTime
  observedAt : PyDateTime
  traderId : Option String
  accountId : Option String
  reasonCode : Option String
  lastHeartbeatAt : Option PyDateTime
  correlationId : Option String
  causationId : Option String

structure LaunchAttemptRecord where
  runtimeId : String
  launchAttempt : Int
  state : String
  occurredAt : PyDateTime
  observedAt : PyDateTime
  reasonCode : Option String
  correlationId : Option String
  causationId : Option String
  details : Option PyDict

structure HeartbeatObservationRecord where
  runtimeId : String
  launchAttempt : Int
  occurredAt : PyDateTime
  observedAt : PyDateTime
  correlationId : Option String
  causationId : Option String
  details : Option PyDict

structure DiagnosticRecord where
  runtimeId : String
  launchAttempt : Int
  diagnosticType : String
  occurredAt : PyDateTime
  observedAt : PyDateTime
  stage : Option String
  reasonCode : Option String
  correlationId : Option String
  causationId : Option String
  details : Option PyDict

/-! ## Tables -/

/-- A row of {lit}`worker_instances`. -/
structure WorkerInstanceRow where
  runtimeId : String
  workerIdentity : String
  tenantId : String
  traderId : Option String
  accountId : Option String
  strategyVersionId : String
  launchAttempt : Int
  state : String
  reasonCode : Option String
  occurredAt : WireTs
  observedAt : WireTs
  lastHeartbeatAt : Option WireTs
  correlationId : Option String
  causationId : Option String
  deriving DecidableEq

/-- A row of {lit}`worker_launch_attempts`; the ids of its rows are left out. -/
structure LaunchAttemptRow where
  runtimeId : String
  launchAttempt : Int
  state : String
  reasonCode : Option String
  occurredAt : WireTs
  observedAt : WireTs
  correlationId : Option String
  causationId : Option String
  details : Option String
  deriving DecidableEq

/-- {lit}`uq_worker_launch_attempt_runtime_attempt`. -/
def LaunchAttemptRow.key (row : LaunchAttemptRow) : String × Int :=
  (row.runtimeId, row.launchAttempt)

/-- A row of {lit}`worker_heartbeat_observations`. -/
structure HeartbeatRow where
  runtimeId : String
  launchAttempt : Int
  occurredAt : WireTs
  observedAt : WireTs
  correlationId : Option String
  causationId : Option String
  details : Option String
  deriving DecidableEq

/-- A row of {lit}`worker_diagnostics`. -/
structure DiagnosticRow where
  runtimeId : String
  launchAttempt : Int
  diagnosticType : String
  stage : Option String
  reasonCode : Option String
  occurredAt : WireTs
  observedAt : WireTs
  correlationId : Option String
  causationId : Option String
  details : Option String
  deriving DecidableEq

/-- The tables that refer to {lit}`worker_instances`, and that table. -/
@[ext]
structure WorkerTables where
  workerInstances : KeyedTable WorkerInstanceRow.runtimeId
  launchAttempts : KeyedTable LaunchAttemptRow.key
  heartbeatObservations : List HeartbeatRow
  workerEvents : KeyedTable WorkerEventRow.eventId
  diagnostics : List DiagnosticRow

namespace WorkerTables

/-- The tables after the migrations. -/
def migrated : WorkerTables where
  workerInstances := .empty
  launchAttempts := .empty
  heartbeatObservations := []
  workerEvents := .empty
  diagnostics := []

variable (db : WorkerTables)

/-! ## Instances -/

/-- The row of a new instance. -/
def instanceRow (record : WorkerInstanceRecord) (occurredAt observedAt : WireTs)
    (lastHeartbeatAt : Option WireTs) : WorkerInstanceRow where
  runtimeId := record.runtimeId
  workerIdentity := record.workerIdentity
  tenantId := record.tenantId
  traderId := record.traderId
  accountId := record.accountId
  strategyVersionId := record.strategyVersionId
  launchAttempt := record.launchAttempt
  state := record.state
  reasonCode := record.reasonCode
  occurredAt := occurredAt
  observedAt := observedAt
  lastHeartbeatAt := lastHeartbeatAt
  correlationId := record.correlationId
  causationId := record.causationId

/-- The columns that {lit}`upsert_instance` writes. -/
def upsertColumns (record : WorkerInstanceRecord) (occurredAt observedAt : WireTs)
    (row : WorkerInstanceRow) : WorkerInstanceRow :=
  { row with
    workerIdentity := record.workerIdentity
    tenantId := record.tenantId
    traderId := record.traderId
    accountId := record.accountId
    strategyVersionId := record.strategyVersionId
    launchAttempt := record.launchAttempt
    state := record.state
    reasonCode := record.reasonCode
    occurredAt, observedAt
    correlationId := record.correlationId
    causationId := record.causationId }

theorem runtimeId_upsertColumns (record : WorkerInstanceRecord) (occurredAt observedAt : WireTs)
    (row : WorkerInstanceRow) :
    (upsertColumns record occurredAt observedAt row).runtimeId = row.runtimeId :=
  rfl

/-- {lit}`SQLiteWorkerInstanceRepository.upsert_instance(instance)`. -/
def upsertInstance (record : WorkerInstanceRecord) : Except StoreError WorkerTables := do
  let occurredAt ← (wireTs record.occurredAt).mapError .raised
  let observedAt ← (wireTs record.observedAt).mapError .raised
  if db.workerInstances.contains record.runtimeId then
    return { db with
      workerInstances := db.workerInstances.update record.runtimeId
        (upsertColumns record occurredAt observedAt)
        (runtimeId_upsertColumns record occurredAt observedAt) }
  else
    let lastHeartbeatAt ← (record.lastHeartbeatAt.mapM wireTs).mapError .raised
    return { db with
      workerInstances := db.workerInstances.insertOrIgnore
        (instanceRow record occurredAt observedAt lastHeartbeatAt) }

/-- The arguments of {lit}`update_state` beside the runtime id. -/
structure StateUpdate where
  state : String
  reasonCode : Option String
  launchAttempt : Int
  occurredAt : PyDateTime
  observedAt : PyDateTime
  correlationId : Option String
  causationId : Option String

/-- The columns that {lit}`update_state` writes. -/
def stateColumns (u : StateUpdate) (occurredAt observedAt : WireTs) (row : WorkerInstanceRow) :
    WorkerInstanceRow :=
  { row with
    launchAttempt := u.launchAttempt
    state := u.state
    reasonCode := u.reasonCode
    occurredAt, observedAt
    correlationId := u.correlationId
    causationId := u.causationId }

theorem runtimeId_stateColumns (u : StateUpdate) (occurredAt observedAt : WireTs)
    (row : WorkerInstanceRow) : (stateColumns u occurredAt observedAt row).runtimeId = row.runtimeId :=
  rfl

/-- The tables after the update of a state. -/
def setState (runtimeId : String) (u : StateUpdate) (occurredAt observedAt : WireTs) :
    WorkerTables :=
  { db with
    workerInstances := db.workerInstances.update runtimeId (stateColumns u occurredAt observedAt)
      (runtimeId_stateColumns u occurredAt observedAt) }

/-- {lit}`SQLiteWorkerInstanceRepository.update_state(runtime_id, ...)`. -/
def updateState (runtimeId : String) (u : StateUpdate) : Except StoreError WorkerTables := do
  let occurredAt ← (wireTs u.occurredAt).mapError .raised
  let observedAt ← (wireTs u.observedAt).mapError .raised
  return db.setState runtimeId u occurredAt observedAt

/-- The columns that {lit}`record_heartbeat` writes. -/
def heartbeatColumns (heartbeatAt observedAt : WireTs) (row : WorkerInstanceRow) :
    WorkerInstanceRow :=
  { row with lastHeartbeatAt := some heartbeatAt, observedAt := observedAt }

theorem runtimeId_heartbeatColumns (heartbeatAt observedAt : WireTs) (row : WorkerInstanceRow) :
    (heartbeatColumns heartbeatAt observedAt row).runtimeId = row.runtimeId :=
  rfl

/-- {lit}`SQLiteWorkerInstanceRepository.record_heartbeat(runtime_id, ...)`. -/
def recordHeartbeat (runtimeId : String) (heartbeatAt observedAt : PyDateTime) :
    Except StoreError WorkerTables := do
  match db.workerInstances.get? runtimeId with
  | none => return db
  | some current =>
      let candidate ← (requireUtc heartbeatAt).mapError .raised
      if ∀ ts ∈ current.lastHeartbeatAt, ts.datetime.instant ≤ candidate.val.instant then
        let observedAt ← (wireTs observedAt).mapError .raised
        return { db with
          workerInstances := db.workerInstances.update runtimeId
            (heartbeatColumns (.ofUtc candidate) observedAt)
            (runtimeId_heartbeatColumns (.ofUtc candidate) observedAt) }
      else return db

/-! ## Launch attempts -/

/-- The row of an attempt. -/
def attemptRow (record : LaunchAttemptRecord) (occurredAt observedAt : WireTs)
    (details : Option String) : LaunchAttemptRow where
  runtimeId := record.runtimeId
  launchAttempt := record.launchAttempt
  state := record.state
  reasonCode := record.reasonCode
  occurredAt := occurredAt
  observedAt := observedAt
  correlationId := record.correlationId
  causationId := record.causationId
  details := details

/-- {lit}`SQLiteLaunchAttemptRepository.append_attempt(attempt)`. -/
def appendAttempt (record : LaunchAttemptRecord) : Except StoreError WorkerTables := do
  let occurredAt ← (wireTs record.occurredAt).mapError .raised
  let observedAt ← (wireTs record.observedAt).mapError .raised
  let details ← (toJsonOrNull record.details).mapError .raised
  let row := attemptRow record occurredAt observedAt details
  if ¬ db.workerInstances.contains record.runtimeId ∨ db.launchAttempts.contains row.key then
    .error .integrityError
  else return { db with launchAttempts := db.launchAttempts.insertOrIgnore row }

/-- The arguments of {lit}`mark_outcome` beside the key. -/
structure Outcome where
  state : String
  reasonCode : Option String
  occurredAt : PyDateTime
  observedAt : PyDateTime
  details : Option PyDict

/-- The columns that {lit}`mark_outcome` writes. -/
def outcomeColumns (o : Outcome) (occurredAt observedAt : WireTs) (details : Option String)
    (row : LaunchAttemptRow) : LaunchAttemptRow :=
  { row with state := o.state, reasonCode := o.reasonCode, occurredAt, observedAt, details }

theorem key_outcomeColumns (o : Outcome) (occurredAt observedAt : WireTs) (details : Option String)
    (row : LaunchAttemptRow) : (outcomeColumns o occurredAt observedAt details row).key = row.key :=
  rfl

/-- The tables after the outcome of an attempt. -/
def setOutcome (runtimeId : String) (launchAttempt : Int) (o : Outcome)
    (occurredAt observedAt : WireTs) (details : Option String) : WorkerTables :=
  { db with
    launchAttempts := db.launchAttempts.update (runtimeId, launchAttempt)
      (outcomeColumns o occurredAt observedAt details)
      (key_outcomeColumns o occurredAt observedAt details) }

/-- {lit}`SQLiteLaunchAttemptRepository.mark_outcome(runtime_id, launch_attempt, ...)`. -/
def markOutcome (runtimeId : String) (launchAttempt : Int) (o : Outcome) :
    Except StoreError WorkerTables := do
  let occurredAt ← (wireTs o.occurredAt).mapError .raised
  let observedAt ← (wireTs o.observedAt).mapError .raised
  let details ← (toJsonOrNull o.details).mapError .raised
  return db.setOutcome runtimeId launchAttempt o occurredAt observedAt details

/-! ## Rows that are only appended -/

/-- The row of an observation. -/
def observationRow (record : HeartbeatObservationRecord) (occurredAt observedAt : WireTs)
    (details : Option String) : HeartbeatRow where
  runtimeId := record.runtimeId
  launchAttempt := record.launchAttempt
  occurredAt := occurredAt
  observedAt := observedAt
  correlationId := record.correlationId
  causationId := record.causationId
  details := details

/-- {lit}`SQLiteHeartbeatRepository.append_observation(observation)`. -/
def appendObservation (record : HeartbeatObservationRecord) : Except StoreError WorkerTables := do
  let occurredAt ← (wireTs record.occurredAt).mapError .raised
  let observedAt ← (wireTs record.observedAt).mapError .raised
  let details ← (toJsonOrNull record.details).mapError .raised
  if ¬ db.workerInstances.contains record.runtimeId then .error .integrityError
  else
    return { db with
      heartbeatObservations := db.heartbeatObservations ++
        [observationRow record occurredAt observedAt details] }

/-- The row of a diagnostic. -/
def diagnosticRow (record : DiagnosticRecord) (occurredAt observedAt : WireTs)
    (details : Option String) : DiagnosticRow where
  runtimeId := record.runtimeId
  launchAttempt := record.launchAttempt
  diagnosticType := record.diagnosticType
  stage := record.stage
  reasonCode := record.reasonCode
  occurredAt := occurredAt
  observedAt := observedAt
  correlationId := record.correlationId
  causationId := record.causationId
  details := details

/-- {lit}`SQLiteDiagnosticRepository.append_diagnostic(diagnostic)`. -/
def appendDiagnostic (record : DiagnosticRecord) : Except StoreError WorkerTables := do
  let occurredAt ← (wireTs record.occurredAt).mapError .raised
  let observedAt ← (wireTs record.observedAt).mapError .raised
  let details ← (toJsonOrNull record.details).mapError .raised
  if ¬ db.workerInstances.contains record.runtimeId then .error .integrityError
  else
    return { db with
      diagnostics := db.diagnostics ++ [diagnosticRow record occurredAt observedAt details] }

/-- {lit}`SQLiteWorkerEventRepository.append_event(event)`: a violated key is {lit}`False` when the
row is there, and raised again otherwise. -/
def appendEvent (event : WorkerEventRecord) : Except StoreError (Bool × WorkerTables) := do
  let row ← (rowOf event).mapError .raised
  if db.workerEvents.contains row.eventId then return (false, db)
  else if ¬ db.workerInstances.contains row.runtimeId then .error .integrityError
  else return (true, { db with workerEvents := db.workerEvents.insertOrIgnore row })

/-! ## What the statements can do -/

variable {db} {db' : WorkerTables}

theorem mapError_eq_ok {ε ε' α : Type} {x : Except ε α} {f : ε → ε'} {a : α} :
    x.mapError f = .ok a ↔ x = .ok a := by
  cases x <;> simp [Except.mapError]

/-- The row that {lit}`upsert_instance` leaves holds what it was given. -/
theorem exists_upsertInstance (db : WorkerTables) (record : WorkerInstanceRecord)
    {occurredAt observedAt : WireTs}
    (hoccurred : wireTs record.occurredAt = .ok occurredAt)
    (hobserved : wireTs record.observedAt = .ok observedAt) (hnew : record.lastHeartbeatAt = none) :
    ∃ instances row, db.upsertInstance record = .ok { db with workerInstances := instances } ∧
      instances.get? record.runtimeId = some row ∧ row.launchAttempt = record.launchAttempt ∧
        row.state = record.state := by
  unfold upsertInstance
  rw [hoccurred, hobserved, hnew]
  simp only [Except.mapError, bind, Except.bind]
  by_cases hthere : db.workerInstances.contains record.runtimeId
  · rw [if_pos hthere]
    rcases KeyedTable.contains_iff.1 hthere with ⟨row, hrow⟩
    refine ⟨_, upsertColumns record occurredAt observedAt row, rfl, ?_, rfl, rfl⟩
    rw [KeyedTable.get?_update, if_pos rfl, hrow]
    rfl
  · rw [if_neg hthere]
    refine ⟨_, instanceRow record occurredAt observedAt none, rfl, ?_, rfl, rfl⟩
    have hkey : (instanceRow record occurredAt observedAt none).runtimeId = record.runtimeId := rfl
    rw [KeyedTable.get?_insertOrIgnore, if_pos hkey, KeyedTable.get?_eq_none.2 hthere,
      Option.getD_none]

/-- Whether the state of an instance is updated depends on the times alone. -/
theorem updateState_eq_ok {runtimeId : String} {u : StateUpdate} :
    db.updateState runtimeId u = .ok db' ↔ ∃ occurredAt observedAt,
      wireTs u.occurredAt = .ok occurredAt ∧ wireTs u.observedAt = .ok observedAt ∧
        db' = db.setState runtimeId u occurredAt observedAt := by
  simp only [updateState, bind_eq_ok, mapError_eq_ok]
  constructor
  · rintro ⟨o, ho, ob, hob, heq⟩
    exact ⟨o, ob, ho, hob, (Except.ok.inj heq).symm⟩
  · rintro ⟨o, ob, ho, hob, heq⟩
    exact ⟨o, ho, ob, hob, by rw [heq]; rfl⟩

/-- An attempt of a known runtime is inserted, or its key is there. -/
theorem appendAttempt_cases (db : WorkerTables) (record : LaunchAttemptRecord)
    {occurredAt observedAt : WireTs}
    {details : Option String} (hoccurred : wireTs record.occurredAt = .ok occurredAt)
    (hobserved : wireTs record.observedAt = .ok observedAt)
    (hdetails : toJsonOrNull record.details = .ok details)
    (hinstance : db.workerInstances.contains record.runtimeId) :
    (db.appendAttempt record = .ok { db with
        launchAttempts :=
          db.launchAttempts.insertOrIgnore (attemptRow record occurredAt observedAt details) }) ∨
      (db.appendAttempt record = .error .integrityError ∧
        db.launchAttempts.insertOrIgnore (attemptRow record occurredAt observedAt details) =
          db.launchAttempts) := by
  unfold appendAttempt
  rw [hoccurred, hobserved, hdetails]
  simp only [Except.mapError, bind, Except.bind]
  by_cases hthere : db.launchAttempts.contains (attemptRow record occurredAt observedAt details).key
  · rw [if_pos (.inr hthere)]
    exact .inr ⟨rfl, KeyedTable.insertOrIgnore_of_contains hthere⟩
  · rw [if_neg fun h => h.elim (not_not.2 hinstance) hthere]
    exact .inl rfl

theorem markOutcome_eq_ok {runtimeId : String} {launchAttempt : Int} {o : Outcome} :
    db.markOutcome runtimeId launchAttempt o = .ok db' ↔ ∃ occurredAt observedAt details,
      wireTs o.occurredAt = .ok occurredAt ∧ wireTs o.observedAt = .ok observedAt ∧
        toJsonOrNull o.details = .ok details ∧
          db' = db.setOutcome runtimeId launchAttempt o occurredAt observedAt details := by
  simp only [markOutcome, bind_eq_ok, mapError_eq_ok]
  constructor
  · rintro ⟨o, ho, ob, hob, d, hd, heq⟩
    exact ⟨o, ob, d, ho, hob, hd, (Except.ok.inj heq).symm⟩
  · rintro ⟨o, ob, d, ho, hob, hd, heq⟩
    exact ⟨o, ho, ob, hob, d, hd, by rw [heq]; rfl⟩

theorem appendObservation_eq_ok (db : WorkerTables) (record : HeartbeatObservationRecord)
    {db' : WorkerTables} :
    db.appendObservation record = .ok db' ↔ ∃ occurredAt observedAt details,
      wireTs record.occurredAt = .ok occurredAt ∧ wireTs record.observedAt = .ok observedAt ∧
        toJsonOrNull record.details = .ok details ∧
          db.workerInstances.contains record.runtimeId ∧
            db' = { db with
              heartbeatObservations := db.heartbeatObservations ++
                [observationRow record occurredAt observedAt details] } := by
  simp only [appendObservation, bind_eq_ok, mapError_eq_ok]
  constructor
  · rintro ⟨o, ho, ob, hob, d, hd, heq⟩
    split at heq
    · cases heq
    · rename_i hinstance
      exact ⟨o, ob, d, ho, hob, hd, not_not.1 hinstance, (Except.ok.inj heq).symm⟩
  · rintro ⟨o, ob, d, ho, hob, hd, hinstance, heq⟩
    refine ⟨o, ho, ob, hob, d, hd, ?_⟩
    rw [if_neg (not_not.2 hinstance), heq]
    rfl

theorem appendDiagnostic_eq_ok (db : WorkerTables) (record : DiagnosticRecord)
    {db' : WorkerTables} :
    db.appendDiagnostic record = .ok db' ↔ ∃ occurredAt observedAt details,
      wireTs record.occurredAt = .ok occurredAt ∧ wireTs record.observedAt = .ok observedAt ∧
        toJsonOrNull record.details = .ok details ∧
          db.workerInstances.contains record.runtimeId ∧
            db' = { db with
              diagnostics := db.diagnostics ++
                [diagnosticRow record occurredAt observedAt details] } := by
  simp only [appendDiagnostic, bind_eq_ok, mapError_eq_ok]
  constructor
  · rintro ⟨o, ho, ob, hob, d, hd, heq⟩
    split at heq
    · cases heq
    · rename_i hinstance
      exact ⟨o, ob, d, ho, hob, hd, not_not.1 hinstance, (Except.ok.inj heq).symm⟩
  · rintro ⟨o, ob, d, ho, hob, hd, hinstance, heq⟩
    refine ⟨o, ho, ob, hob, d, hd, ?_⟩
    rw [if_neg (not_not.2 hinstance), heq]
    rfl

/-- An event whose row can be built is stored, unless its id is there or its runtime is not. -/
theorem appendEvent_eq_ok {event : WorkerEventRecord} {stored : Bool} :
    db.appendEvent event = .ok (stored, db') ↔ ∃ row, rowOf event = .ok row ∧
      ((db.workerEvents.contains row.eventId ∧ stored = false ∧ db' = db) ∨
        (¬ db.workerEvents.contains row.eventId ∧ db.workerInstances.contains row.runtimeId ∧
          stored = true ∧
            db' = { db with workerEvents := db.workerEvents.insertOrIgnore row })) := by
  simp only [appendEvent, bind_eq_ok, mapError_eq_ok]
  refine exists_congr fun row => and_congr_right fun _ => ?_
  by_cases hthere : db.workerEvents.contains row.eventId
  · rw [if_pos hthere]
    constructor
    · intro heq
      cases heq
      exact .inl ⟨hthere, rfl, rfl⟩
    · rintro (⟨-, rfl, rfl⟩ | ⟨hnew, -⟩)
      · rfl
      · exact absurd hthere hnew
  · rw [if_neg hthere]
    constructor
    · intro heq
      split at heq
      · cases heq
      · rename_i hinstance
        cases heq
        exact .inr ⟨hthere, not_not.1 hinstance, rfl, rfl⟩
    · rintro (⟨hold, -⟩ | ⟨-, hinstance, rfl, rfl⟩)
      · exact absurd hold hthere
      · rw [if_neg (not_not.2 hinstance)]
        rfl

/-- An event of a known runtime is stored, unless its id is there. -/
theorem exists_appendEvent (db : WorkerTables) {event : WorkerEventRecord} {row : WorkerEventRow}
    (hrow : rowOf event = .ok row) (hknown : db.workerInstances.contains row.runtimeId) :
    ∃ stored, db.appendEvent event =
      .ok (stored, { db with workerEvents := db.workerEvents.insertOrIgnore row }) := by
  by_cases hthere : db.workerEvents.contains row.eventId
  · refine ⟨false, appendEvent_eq_ok.2 ⟨row, hrow, .inl ⟨hthere, rfl, ?_⟩⟩⟩
    rw [KeyedTable.insertOrIgnore_of_contains hthere]
  · exact ⟨true, appendEvent_eq_ok.2 ⟨row, hrow, .inr ⟨hthere, hknown, rfl, rfl⟩⟩⟩

theorem exists_recordHeartbeat {runtimeId : String} {heartbeatAt observedAt : PyDateTime}
    {utc : UtcDateTime} {observed : WireTs} (hcandidate : requireUtc heartbeatAt = .ok utc)
    (hobserved : wireTs observedAt = .ok observed) :
    ∃ db', db.recordHeartbeat runtimeId heartbeatAt observedAt = .ok db' := by
  unfold recordHeartbeat
  split
  · exact ⟨_, rfl⟩
  · rw [hcandidate]
    simp only [Except.mapError, bind, Except.bind]
    split
    · rw [hobserved]
      exact ⟨_, rfl⟩
    · exact ⟨_, rfl⟩

/-- A heartbeat changes the times of its instance at most. -/
theorem recordHeartbeat_eq_ok {runtimeId : String} {heartbeatAt observedAt : PyDateTime}
    (h : db.recordHeartbeat runtimeId heartbeatAt observedAt = .ok db') :
    db' = db ∨ ∃ candidate observed, db' = { db with
      workerInstances := db.workerInstances.update runtimeId (heartbeatColumns candidate observed)
        (runtimeId_heartbeatColumns candidate observed) } := by
  unfold recordHeartbeat at h
  split at h
  · exact .inl (Except.ok.inj h).symm
  · simp only [bind_eq_ok] at h
    rcases h with ⟨candidate, -, h⟩
    split at h
    · simp only [bind_eq_ok] at h
      rcases h with ⟨observed, -, heq⟩
      exact .inr ⟨_, _, (Except.ok.inj heq).symm⟩
    · exact .inl (Except.ok.inj h).symm

end WorkerTables
end Persistence
end StrategyWorker
