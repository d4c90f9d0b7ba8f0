import StrategyWorker.Domain.RuntimeState
import StrategyWorker.Persistence.Repositories

/-!
# The transactions of the runtime journal

Each method of {lit}`RuntimeJournalSink` writes in one transaction: it makes
sure that the runtime has an instance, and then appends its rows and updates
the instance.  Here are the methods that touch the tables which refer to
{lit}`worker_instances`; their text lines are left out.

Main results:

- Theorem {lit}`recordLifecycleEvent_eq_ok`: what the transaction of a
  lifecycle event does.
- Theorem {lit}`exists_recordLifecycleEvent`: it commits exactly when the row of
  the event can be built.
- Theorem {lit}`toDatabase_recordLifecycleEvent`: on the event table it is the
  insertion of the events' own module.
-/

namespace StrategyWorker
namespace Persistence

open Library Events Domain
open PyText WorkerTables

/-- {lit}`with begin_connection(engine)`: what a transaction has done is lost when it raises. -/
def committed (db : WorkerTables) (result : Except StoreError WorkerTables) : WorkerTables :=
  match result with
  | .ok db' => db'
  | .error _ => db

namespace RuntimeJournalSink

variable (sink : RuntimeJournalSink)

/-- {lit}`_wire_iso(dt)`, as a column. -/
def wireIsoTs (d : PyDateTime) : Except PyException WireTs :=
  (utcOfWall (d.wall - d.utcoffset.getD (sink.zone d.wall))).map WireTs.ofUtc

/-- The instance of a runtime that nothing is known of. -/
def stubRow (observedAt : WireTs) : WorkerInstanceRow where
  runtimeId := sink.runtimeId
  workerIdentity := sink.runtimeId ++ ":" ++ toString sink.launchAttempt
  tenantId := ""
  traderId := none
  accountId := none
  strategyVersionId := ""
  launchAttempt := sink.launchAttempt
  state := "INITIALIZING"
  reasonCode := none
  occurredAt := observedAt
  observedAt := observedAt
  lastHeartbeatAt := none
  correlationId := none
  causationId := none

/-- {lit}`_ensure_worker_instance_stub(conn=..., observed_at=...)`. -/
def ensureStub (observedAt : PyDateTime) (db : WorkerTables) : Except StoreError WorkerTables := do
  let observed ← (sink.wireIsoTs observedAt).mapError .raised
  return { db with workerInstances := db.workerInstances.insertOrIgnore (sink.stubRow observed) }

/-! ## Lifecycle events -/

/-- The state of the instance that a record with a local state asks for. -/
def stateUpdate (record : WorkerEventRecord) (localState : String)
    (current : Option WorkerInstanceRow) : StateUpdate where
  state := localState
  reasonCode := record.reasonCode.or (current.bind WorkerInstanceRow.reasonCode)
  launchAttempt := sink.launchAttempt
  occurredAt := record.occurredAt
  observedAt := record.observedAt
  correlationId := record.correlationId
  causationId := record.causationId

/-- {lit}`if local_state is not None: instances.update_state(...)`. -/
def updateLocalState (record : WorkerEventRecord) (db : WorkerTables) :
    Except StoreError WorkerTables :=
  match record.state with
  | none => .ok db
  | some localState => db.updateState sink.runtimeId
      (sink.stateUpdate record localState (db.workerInstances.get? sink.runtimeId))

/-- The observation of a heartbeat. -/
def heartbeatObservation (record : WorkerEventRecord) : HeartbeatObservationRecord where
  runtimeId := sink.runtimeId
  launchAttempt := sink.launchAttempt
  occurredAt := record.occurredAt
  observedAt := record.observedAt
  correlationId := record.correlationId
  causationId := record.causationId
  details := record.state.map fun localState => [("local_state", .str localState)]

/-- {lit}`if event.event_name == "runtime.heartbeat": ...`. -/
def observeHeartbeat (record : WorkerEventRecord) (db : WorkerTables) :
    Except StoreError WorkerTables :=
  if record.eventFamily = "runtime.heartbeat" then do
    let db ← db.appendObservation (sink.heartbeatObservation record)
    db.recordHeartbeat sink.runtimeId record.observedAt record.observedAt
  else .ok db

/-- {lit}`record_lifecycle_event(event)`; the family of a record is the name of its event. -/
def recordLifecycleEvent (event : LifecycleEventEnvelope) (db : WorkerTables) :
    Except StoreError WorkerTables := do
  let record ← (lifecycleRecord sink event).mapError .raised
  let _ ← (sink.wireIsoTs event.occurredAt.val).mapError .raised
  let db ← sink.ensureStub record.observedAt db
  let stored ← db.appendEvent record
  let db ← sink.updateLocalState record stored.2
  sink.observeHeartbeat record db

/-! ## Other records -/

/-- The instance keeps its reason code, correlation id and causation id. -/
def keepingUpdate (state : String) (reasonCode : Option String) (observedAt : PyDateTime)
    (current : Option WorkerInstanceRow) : StateUpdate where
  state := state
  reasonCode := reasonCode.or (current.bind WorkerInstanceRow.reasonCode)
  launchAttempt := sink.launchAttempt
  occurredAt := observedAt
  observedAt := observedAt
  correlationId := current.bind WorkerInstanceRow.correlationId
  causationId := current.bind WorkerInstanceRow.causationId

/-- {lit}`record_heartbeat(local_state=..., observed_at=..., ...)`. -/
def recordHeartbeat (localState : String) (observedAt : PyDateTime)
    (correlationId causationId : Option String) (db : WorkerTables) :
    Except StoreError WorkerTables := do
  let _ ← (sink.wireIsoTs observedAt).mapError .raised
  let db ← sink.ensureStub observedAt db
  let db ← db.appendObservation {
    runtimeId := sink.runtimeId
    launchAttempt := sink.launchAttempt
    occurredAt := observedAt
    observedAt := observedAt
    correlationId, causationId
    details := some [("local_state", .str localState)] }
  let db ← db.recordHeartbeat sink.runtimeId observedAt observedAt
  db.updateState sink.runtimeId
    (sink.keepingUpdate localState none observedAt (db.workerInstances.get? sink.runtimeId))

/-- The instance in {lit}`_persist_state` of a phase change. -/
def recordPhaseChange (phase : WorkerPhase) (reasonCode : Option String) (observedAt : PyDateTime)
    (db : WorkerTables) : Except StoreError WorkerTables := do
  let _ ← (sink.wireIsoTs observedAt).mapError .raised
  let db ← sink.ensureStub observedAt db
  db.updateState sink.runtimeId
    (sink.keepingUpdate phase.value reasonCode observedAt
      (db.workerInstances.get? sink.runtimeId))

/-- The runtime id and the launch attempt. -/
def identityText : String :=
  sink.runtimeId ++ ":" ++ toString sink.launchAttempt

/-- The text that the id of a failed launch is a digest of. -/
def launchFailedText (reasonCode occurredAt : String) : String :=
  sink.identityText ++ ":" ++ reasonCode ++ ":" ++ occurredAt

/-- The id of a failed launch. -/
def launchFailedId (reasonCode occurredAt : String) : String :=
  sink.identityText ++ ":runtime.launch_failed:" ++
    eventIdDigest (sink.launchFailedText reasonCode occurredAt)

/-- The record of a failed launch. -/
def launchFailedRecord (occurredAt : PyDateTime) (reasonCode : String) (details : PyDict) :
    Except PyException WorkerEventRecord := do
  let occurredText ← wireIso sink occurredAt
  let safe ← jsonSafe sink (.dict details)
  return {
    eventId := sink.launchFailedId reasonCode occurredText
    runtimeId := sink.runtimeId
    workerIdentity := sink.identityText
    launchAttempt := sink.launchAttempt
    eventFamily := "runtime.launch_failed"
    occurredAt := occurredAt
    observedAt := occurredAt
    state := some "FAILED"
    reasonCode := some reasonCode
    correlationId := some ("corr:" ++ sink.identityText)
    causationId := some ("cmd_bootstrap_failed_" ++ sink.runtimeId ++ "_" ++
      toString sink.launchAttempt)
    payload := [("occurred_at", .str occurredText), ("reason_code", .str reasonCode),
      ("details", safe), ("runtime_id", .str sink.runtimeId),
      ("launch_attempt", .int sink.launchAttempt), ("worker_identity", .str sink.identityText)] }

/-- {lit}`record_launch_failed_event(occurred_at=..., reason_code=..., details=...)`. -/
def recordLaunchFailedEvent (occurredAt : PyDateTime) (reasonCode : String) (details : PyDict)
    (db : WorkerTables) : Except StoreError WorkerTables := do
  let record ← (sink.launchFailedRecord occurredAt reasonCode details).mapError .raised
  let db ← sink.ensureStub occurredAt db
  let stored ← db.appendEvent record
  return stored.2

end RuntimeJournalSink

/-! ## Runs of the journal -/

/-- A call of a journal that touches the tables. -/
inductive SinkCall where
  | phaseChange (phase : WorkerPhase) (reasonCode : Option String) (observedAt : PyDateTime)
  | heartbeat (localState : String) (observedAt : PyDateTime)
      (correlationId causationId : Option String)
  | lifecycleEvent (event : LifecycleEventEnvelope)
  | launchFailed (occurredAt : PyDateTime) (reasonCode : String) (details : PyDict)

namespace SinkCall

/-- The transaction of a call. -/
def transaction (sink : RuntimeJournalSink) :
    SinkCall → WorkerTables → Except StoreError WorkerTables
  | phaseChange phase reasonCode observedAt => sink.recordPhaseChange phase reasonCode observedAt
  | heartbeat localState observedAt correlationId causationId =>
      sink.recordHeartbeat localState observedAt correlationId causationId
  | lifecycleEvent event => sink.recordLifecycleEvent event
  | launchFailed occurredAt reasonCode details =>
      sink.recordLaunchFailedEvent occurredAt reasonCode details

end SinkCall

/-- The tables after calls of journals, one for each process that writes to them. -/
def tablesAfter (calls : List (RuntimeJournalSink × SinkCall)) : WorkerTables :=
  calls.foldl (fun db call => committed db (call.2.transaction call.1 db)) .migrated

theorem tablesAfter_record (sink : RuntimeJournalSink) (event : LifecycleEventEnvelope) :
    tablesAfter [(sink, .lifecycleEvent event)] =
      committed .migrated (sink.recordLifecycleEvent event .migrated) :=
  rfl

/-! ## What the transaction of a lifecycle event does -/

theorem exists_wireIsoTs {d : PyDateTime} {ts : WireTs} (sink : RuntimeJournalSink)
    (haware : d.utcoffset.isSome) (h : wireTs d = .ok ts) : sink.wireIsoTs d = .ok ts := by
  rcases Option.isSome_iff_exists.1 haware with ⟨offset, hoffset⟩
  unfold RuntimeJournalSink.wireIsoTs
  rw [hoffset, Option.getD_some]
  unfold wireTs requireUtc at h
  rw [hoffset] at h
  exact h

theorem isSome_utcoffset_parseDt {v : PyVal} {d : PyDateTime} (h : parseDt v = some d) :
    d.utcoffset.isSome := by
  have hutc : ∀ d : PyDateTime, d.naiveAsUtc.utcoffset.isSome := by
    intro d
    unfold PyDateTime.naiveAsUtc
    split <;> simp [*]
  unfold parseDt at h
  split at h
  · cases h
    exact hutc _
  · unfold Integration.parseIsoText at h
    split at h
    · cases h
    · rcases Option.map_eq_some_iff.1 h with ⟨d', -, rfl⟩
      exact hutc d'
  · cases h

/-- The times of a record are aware. -/
theorem aware_of_lifecycleRecord {sink : RuntimeJournalSink} {event : LifecycleEventEnvelope}
    {record : WorkerEventRecord} (h : lifecycleRecord sink event = .ok record) :
    record.occurredAt = event.occurredAt.val ∧ record.observedAt.utcoffset.isSome := by
  simp only [lifecycleRecord, bind_eq_ok] at h
  rcases h with ⟨payload, -, hrecord⟩
  obtain rfl := Except.ok.inj hrecord
  refine ⟨rfl, ?_⟩
  cases hparse : parseDt (PyDict.get payload "observed_at") with
  | none => exact event.occurredAt.property
  | some d => exact isSome_utcoffset_parseDt hparse

/-- What a row is built from. -/
structure RowOf (record : WorkerEventRecord) (row : WorkerEventRow) (occurredAt observedAt : WireTs) :
    Prop where
  built : rowOf record = .ok row
  occurredAt : wireTs record.occurredAt = .ok occurredAt
  observedAt : wireTs record.observedAt = .ok observedAt
  runtimeId : row.runtimeId = record.runtimeId
  eventId : row.eventId = record.eventId

theorem exists_rowOf {record : WorkerEventRecord} {row : WorkerEventRow}
    (h : rowOf record = .ok row) : ∃ occurredAt observedAt, RowOf record row occurredAt observedAt := by
  have hids := rowOf_eq_ok h
  have hrow := h
  simp only [rowOf, bind_eq_ok] at hrow
  rcases hrow with ⟨occurredText, hoccurred, observedText, hobserved, -⟩
  rw [← text_wireTs] at hoccurred hobserved
  cases ho : wireTs record.occurredAt with
  | error e => simp [ho, Except.map] at hoccurred
  | ok occurredAt =>
      cases hob : wireTs record.observedAt with
      | error e => simp [hob, Except.map] at hobserved
      | ok observedAt => exact ⟨occurredAt, observedAt, h, ho, hob, hids.2, hids.1⟩

namespace RuntimeJournalSink

variable {sink : RuntimeJournalSink} {event : LifecycleEventEnvelope} {db : WorkerTables}

/-- The instances after the stub. -/
def stubbed (sink : RuntimeJournalSink) (observedAt : WireTs)
    (instances : KeyedTable WorkerInstanceRow.runtimeId) : KeyedTable WorkerInstanceRow.runtimeId :=
  instances.insertOrIgnore (sink.stubRow observedAt)

/-- The instances after the update of the local state. -/
def instancesAfter (sink : RuntimeJournalSink) (record : WorkerEventRecord)
    (occurredAt observedAt : WireTs) (instances : KeyedTable WorkerInstanceRow.runtimeId) :
    KeyedTable WorkerInstanceRow.runtimeId :=
  let stubbed := sink.stubbed observedAt instances
  record.state.elim stubbed fun localState =>
    let u := sink.stateUpdate record localState (stubbed.get? sink.runtimeId)
    stubbed.update sink.runtimeId (stateColumns u occurredAt observedAt)
      (runtimeId_stateColumns u occurredAt observedAt)

theorem contains_stubbed (observedAt : WireTs)
    (instances : KeyedTable WorkerInstanceRow.runtimeId) :
    (sink.stubbed observedAt instances).contains sink.runtimeId :=
  KeyedTable.contains_insertOrIgnore_self instances (sink.stubRow observedAt)

theorem contains_instancesAfter (record : WorkerEventRecord) (occurredAt observedAt : WireTs)
    (instances : KeyedTable WorkerInstanceRow.runtimeId) :
    (sink.instancesAfter record occurredAt observedAt instances).contains sink.runtimeId := by
  have hstub := sink.contains_stubbed observedAt instances
  unfold instancesAfter
  cases record.state with
  | none => exact hstub
  | some localState =>
      dsimp only [Option.elim_some]
      rw [KeyedTable.contains_update]
      exact hstub

theorem updateLocalState_eq_ok (sink : RuntimeJournalSink) (db : WorkerTables)
    {record : WorkerEventRecord} {occurredAt observedAt : WireTs}
    (hoccurred : wireTs record.occurredAt = .ok occurredAt)
    (hobserved : wireTs record.observedAt = .ok observedAt)
    (instances : KeyedTable WorkerInstanceRow.runtimeId)
    (events : KeyedTable WorkerEventRow.eventId) :
    sink.updateLocalState record
        { db with workerInstances := sink.stubbed observedAt instances, workerEvents := events } =
      .ok { db with
        workerInstances := sink.instancesAfter record occurredAt observedAt instances
        workerEvents := events } := by
  unfold updateLocalState instancesAfter
  cases record.state with
  | none => rfl
  | some localState =>
      exact updateState_eq_ok.2 ⟨occurredAt, observedAt, hoccurred, hobserved, rfl⟩

/-- The first statements of the transaction: the stub, the event and the local state. -/
theorem beforeHeartbeat_eq_ok {record : WorkerEventRecord} {row : WorkerEventRow}
    {occurredAt observedAt : WireTs} (hrecord : lifecycleRecord sink event = .ok record)
    (hrow : RowOf record row occurredAt observedAt) (db : WorkerTables) :
    sink.recordLifecycleEvent event db = sink.observeHeartbeat record { db with
      workerInstances := sink.instancesAfter record occurredAt observedAt db.workerInstances
      workerEvents := db.workerEvents.insertOrIgnore row } := by
  rcases aware_of_lifecycleRecord hrecord with ⟨hoccurred, haware⟩
  have hline : sink.wireIsoTs event.occurredAt.val = .ok occurredAt := by
    refine exists_wireIsoTs sink event.occurredAt.property ?_
    rw [← hoccurred]
    exact hrow.occurredAt
  have hstub : sink.ensureStub record.observedAt db =
      .ok { db with workerInstances := sink.stubbed observedAt db.workerInstances } := by
    unfold ensureStub
    rw [exists_wireIsoTs sink haware hrow.observedAt]
    rfl
  have hruntime : row.runtimeId = sink.runtimeId :=
    hrow.runtimeId.trans (lifecycleRecord_eq_ok hrecord).2
  have hknown : (sink.stubbed observedAt db.workerInstances).contains row.runtimeId := by
    rw [hruntime]
    exact sink.contains_stubbed observedAt db.workerInstances
  rcases exists_appendEvent
    { db with workerInstances := sink.stubbed observedAt db.workerInstances }
    hrow.built hknown with ⟨stored, happend⟩
  have hupdate := sink.updateLocalState_eq_ok db hrow.occurredAt hrow.observedAt
    db.workerInstances (db.workerEvents.insertOrIgnore row)
  unfold recordLifecycleEvent
  rw [hrecord, hline]
  simp only [Except.mapError, bind, Except.bind, hstub, happend, hupdate]

/-- The rows that the transaction leaves. -/
structure Recorded (sink : RuntimeJournalSink) (event : LifecycleEventEnvelope)
    (record : WorkerEventRecord) (row : WorkerEventRow) (occurredAt observedAt : WireTs)
    (db db' : WorkerTables) : Prop where
  workerEvents : db'.workerEvents = db.workerEvents.insertOrIgnore row
  contains : db'.workerInstances.contains sink.runtimeId
  heartbeat : event.eventName.val = "runtime.heartbeat" → ∃ observation,
    db'.heartbeatObservations = db.heartbeatObservations ++ [observation]
  other : event.eventName.val ≠ "runtime.heartbeat" →
    db'.heartbeatObservations = db.heartbeatObservations ∧
      db'.workerInstances =
        sink.instancesAfter record occurredAt observedAt db.workerInstances

/-- A local state can be written as the details of an observation. -/
theorem exists_details (localState : Option String) : ∃ details,
    toJsonOrNull (localState.map fun s => [("local_state", .str s)]) = .ok details := by
  cases localState with
  | none => exact ⟨none, rfl⟩
  | some s =>
      rcases (exists_toJson rfl : ∃ text, toJson [("local_state", .str s)] = .ok text) with ⟨text, htext⟩
      refine ⟨some text, ?_⟩
      simp only [Option.map_some, toJsonOrNull, htext]
      rfl

/-- What the transaction of a lifecycle event does when its row can be built. -/
theorem exists_recorded {record : WorkerEventRecord} {row : WorkerEventRow}
    {occurredAt observedAt : WireTs} (hrecord : lifecycleRecord sink event = .ok record)
    (hrow : RowOf record row occurredAt observedAt) (db : WorkerTables) :
    ∃ db', sink.recordLifecycleEvent event db = .ok db' ∧
      sink.Recorded event record row occurredAt observedAt db db' := by
  have hname : record.eventFamily = event.eventName.val := by
    simp only [lifecycleRecord, bind_eq_ok] at hrecord
    rcases hrecord with ⟨payload, -, hrecord⟩
    obtain rfl := Except.ok.inj hrecord
    rfl
  have hcontains := sink.contains_instancesAfter record occurredAt observedAt db.workerInstances
  rw [beforeHeartbeat_eq_ok hrecord hrow, observeHeartbeat, hname]
  by_cases hheartbeat : event.eventName.val = "runtime.heartbeat"
  · rw [if_pos hheartbeat]
    rcases exists_details record.state with ⟨details, hdetails⟩
    have hobservation := (appendObservation_eq_ok { db with
        workerInstances := sink.instancesAfter record occurredAt observedAt db.workerInstances
        workerEvents := db.workerEvents.insertOrIgnore row } (sink.heartbeatObservation record)).2
      ⟨occurredAt, observedAt, details, hrow.occurredAt, hrow.observedAt, hdetails, hcontains, rfl⟩
    rw [hobservation]
    have hutc : ∃ utc, requireUtc record.observedAt = .ok utc := by
      have hobserved := hrow.observedAt
      unfold wireTs at hobserved
      cases hutc : requireUtc record.observedAt with
      | error e => simp [hutc, Except.map] at hobserved
      | ok utc => exact ⟨utc, rfl⟩
    rcases hutc with ⟨utc, hutc⟩
    rcases exists_recordHeartbeat hutc hrow.observedAt with ⟨db', hdb'⟩
    refine ⟨db', hdb', ?_⟩
    rcases recordHeartbeat_eq_ok hdb' with rfl | ⟨candidate, observed, rfl⟩
    · exact ⟨rfl, hcontains, fun _ => ⟨_, rfl⟩, fun h => absurd hheartbeat h⟩
    · refine ⟨rfl, ?_, fun _ => ⟨_, rfl⟩, fun h => absurd hheartbeat h⟩
      dsimp only
      rw [KeyedTable.contains_update]
      exact hcontains
  · rw [if_neg hheartbeat]
    exact ⟨_, rfl, rfl, hcontains, fun h => absurd h hheartbeat, fun _ => ⟨rfl, rfl⟩⟩

/-- The transaction commits only when the row of the event can be built. -/
theorem exists_row_of_ok {db' : WorkerTables} (h : sink.recordLifecycleEvent event db = .ok db') :
    ∃ record row, lifecycleRecord sink event = .ok record ∧ rowOf record = .ok row := by
  simp only [recordLifecycleEvent, bind_eq_ok, mapError_eq_ok] at h
  rcases h with ⟨record, hrecord, _, -, db₁, -, stored, happend, -⟩
  rcases stored with ⟨stored, db₂⟩
  rcases appendEvent_eq_ok.1 happend with ⟨row, hrow, -⟩
  exact ⟨record, row, hrecord, hrow⟩

theorem exists_row_of_writable (h : writable sink event = true) :
    ∃ record row, lifecycleRecord sink event = .ok record ∧ rowOf record = .ok row := by
  unfold writable at h
  cases hrecord : lifecycleRecord sink event with
  | error e => simp [hrecord, Except.bind] at h
  | ok record =>
      cases hrow : rowOf record with
      | error e => simp [hrecord, hrow, Except.bind] at h
      | ok row => exact ⟨record, row, rfl, hrow⟩

/-- A transaction whose row cannot be built leaves the tables alone. -/
theorem committed_of_not_writable (h : writable sink event = false) (db : WorkerTables) :
    committed db (sink.recordLifecycleEvent event db) = db := by
  cases hrun : sink.recordLifecycleEvent event db with
  | error e => rfl
  | ok db' =>
      rcases exists_row_of_ok hrun with ⟨record, row, hrecord, hrow⟩
      simp [writable, hrecord, hrow, Except.bind] at h

/-- A transaction whose row can be built commits. -/
theorem committed_of_writable (h : writable sink event = true) (db : WorkerTables) :
    ∃ record row occurredAt observedAt, lifecycleRecord sink event = .ok record ∧
      RowOf record row occurredAt observedAt ∧
        sink.Recorded event record row occurredAt observedAt db
          (committed db (sink.recordLifecycleEvent event db)) := by
  rcases exists_row_of_writable h with ⟨record, row, hrecord, hrow⟩
  rcases exists_rowOf hrow with ⟨occurredAt, observedAt, hrow⟩
  rcases exists_recorded hrecord hrow db with ⟨db', hrun, hrecorded⟩
  refine ⟨record, row, occurredAt, observedAt, hrecord, hrow, ?_⟩
  rw [hrun]
  exact hrecorded

end RuntimeJournalSink

/-! ## The table of events -/

/-- The tables as the events' own module sees them. -/
def toDatabase (db : WorkerTables) : Database :=
  ⟨db.workerInstances.rows.map WorkerInstanceRow.runtimeId, db.workerEvents.rows⟩

/-- The events are stored as in the events' own module: an event is new there exactly when it is
new here, and the rows are the same. -/
theorem workerEvents_recordLifecycleEvent (sink : RuntimeJournalSink)
    (event : LifecycleEventEnvelope) (db : WorkerTables) :
    (committed db (sink.recordLifecycleEvent event db)).workerEvents.rows =
      match Persistence.recordLifecycleEvent sink (toDatabase db) event with
      | .ok (_, db') => db'.workerEvents
      | .error _ => db.workerEvents.rows := by
  rcases recordLifecycleEvent_cases sink (toDatabase db) event with
    ⟨hwritable, e, hrun⟩ | ⟨hwritable, hmem, db', hrun, hevents⟩ |
      ⟨hwritable, hmem, db', row', hrun, hid, hevents⟩
  · rw [hrun, RuntimeJournalSink.committed_of_not_writable hwritable]
  · rcases RuntimeJournalSink.committed_of_writable hwritable db with
      ⟨record, row, occurredAt, observedAt, hrecord, hrow, hrecorded⟩
    have hthere : db.workerEvents.contains row.eventId := by
      rw [hrow.eventId, (lifecycleRecord_eq_ok hrecord).1]
      exact hmem
    rw [hrun, hrecorded.workerEvents, KeyedTable.insertOrIgnore_of_contains hthere]
    exact hevents.symm
  · rcases RuntimeJournalSink.committed_of_writable hwritable db with
      ⟨record, row, occurredAt, observedAt, hrecord, hrow, hrecorded⟩
    have hnew : ¬ db.workerEvents.contains row.eventId := by
      rw [hrow.eventId, (lifecycleRecord_eq_ok hrecord).1]
      exact hmem
    have hevents : db'.workerEvents = db.workerEvents.rows ++ [row] := by
      simp only [Persistence.recordLifecycleEvent, hrecord, Persistence.appendEvent, hrow.built,
        Except.mapError, bind, Except.bind] at hrun
      split at hrun
      · cases hrun
      · split at hrun
        · cases hrun
        · cases hrun
          rw [workerEvents_ensure]
          rfl
    rw [hrun, hrecorded.workerEvents, KeyedTable.rows_insertOrIgnore hnew]
    exact hevents.symm

end Persistence
end StrategyWorker
