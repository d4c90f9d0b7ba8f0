import StrategyWorker.Persistence.RuntimeJournal

/-!
# Lifecycle events that are recorded again

The id of an event keeps its row from being inserted twice, but the state of the
instance and the observation of a heartbeat are separate statements, which look
neither at the insertion nor at the launch attempt of the instance.

Main results:

- Theorem {lit}`unchanged_iff`: when recording an event leaves the tables alone.
- Theorem {lit}`stale_record_unchanged_iff`: when recording a stored event, or
  one of an older attempt, does.
- Theorem {lit}`heartbeat_recorded_twice`: a heartbeat that is observed twice.
-/

namespace StrategyWorker
namespace Persistence

open Library Events
open WorkerTables

/-! ## What stays -/

/-- The instances, the observations of heartbeats and the events are the same. -/
structure Unchanged (db db' : WorkerTables) : Prop where
  workerInstances : db'.workerInstances = db.workerInstances
  heartbeatObservations : db'.heartbeatObservations = db.heartbeatObservations
  workerEvents : db'.workerEvents = db.workerEvents

theorem Unchanged.refl (db : WorkerTables) : Unchanged db db :=
  ⟨rfl, rfl, rfl⟩

/-- The id of the event is stored, or its launch attempt is older than the one of the instance. -/
def Stale (sink : RuntimeJournalSink) (event : LifecycleEventEnvelope) (db : WorkerTables) : Prop :=
  db.workerEvents.contains event.eventId.val ∨
    ∃ row, db.workerInstances.get? sink.runtimeId = some row ∧
      event.launchAttempt.val < row.launchAttempt

/-- The row of an instance holds what a record with a local state writes. -/
structure HoldsState (sink : RuntimeJournalSink) (record : WorkerEventRecord) (localState : String)
    (row : WorkerInstanceRow) : Prop where
  launchAttempt : row.launchAttempt = sink.launchAttempt
  state : row.state = localState
  reasonCode : ∀ reason ∈ record.reasonCode, row.reasonCode = some reason
  occurredAt : wireTs record.occurredAt = .ok row.occurredAt
  observedAt : wireTs record.observedAt = .ok row.observedAt
  correlationId : row.correlationId = record.correlationId
  causationId : row.causationId = record.causationId

/-- There is nothing left to record of the event. -/
structure Settled (sink : RuntimeJournalSink) (event : LifecycleEventEnvelope)
    (db : WorkerTables) : Prop where
  stored : db.workerEvents.contains event.eventId.val
  known : db.workerInstances.contains sink.runtimeId
  notHeartbeat : event.eventName.val ≠ "runtime.heartbeat"
  localState : ∀ record, lifecycleRecord sink event = .ok record → ∀ localState ∈ record.state,
    ∀ row, db.workerInstances.get? sink.runtimeId = some row → HoldsState sink record localState row

/-! ## When the tables stay -/

section Recorded

variable {sink : RuntimeJournalSink} {record : WorkerEventRecord} {occurredAt observedAt : WireTs}

/-- An update of the state leaves a row alone when the row holds it. -/
theorem stateColumns_eq_self_iff {localState : String} {row : WorkerInstanceRow}
    (hoccurred : wireTs record.occurredAt = .ok occurredAt)
    (hobserved : wireTs record.observedAt = .ok observedAt) :
    stateColumns (sink.stateUpdate record localState (some row)) occurredAt observedAt row = row ↔
      HoldsState sink record localState row := by
  have hreason : record.reasonCode.or row.reasonCode = row.reasonCode ↔
      ∀ reason ∈ record.reasonCode, row.reasonCode = some reason := by
    cases record.reasonCode with
    | none => simp
    | some reason => simpa using eq_comm
  constructor
  · intro h
    constructor
    · exact (congrArg WorkerInstanceRow.launchAttempt h).symm
    · exact (congrArg WorkerInstanceRow.state h).symm
    · exact hreason.1 (congrArg WorkerInstanceRow.reasonCode h)
    · rw [hoccurred]
      exact congrArg Except.ok (congrArg WorkerInstanceRow.occurredAt h)
    · rw [hobserved]
      exact congrArg Except.ok (congrArg WorkerInstanceRow.observedAt h)
    · exact (congrArg WorkerInstanceRow.correlationId h).symm
    · exact (congrArg WorkerInstanceRow.causationId h).symm
  · intro h
    have ho : occurredAt = row.occurredAt := Except.ok.inj (hoccurred.symm.trans h.occurredAt)
    have hob : observedAt = row.observedAt := Except.ok.inj (hobserved.symm.trans h.observedAt)
    unfold stateColumns RuntimeJournalSink.stateUpdate
    rw [ho, hob, Option.bind_some, hreason.2 h.reasonCode, ← h.launchAttempt, ← h.state,
      ← h.correlationId, ← h.causationId]

/-- The instances stay when the runtime is known and its row holds the local state. -/
theorem instancesAfter_eq_self_iff (sink : RuntimeJournalSink)
    (hoccurred : wireTs record.occurredAt = .ok occurredAt)
    (hobserved : wireTs record.observedAt = .ok observedAt)
    (instances : KeyedTable WorkerInstanceRow.runtimeId) :
    sink.instancesAfter record occurredAt observedAt instances = instances ↔
      instances.contains sink.runtimeId ∧ ∀ localState ∈ record.state, ∀ row,
        instances.get? sink.runtimeId = some row → HoldsState sink record localState row := by
  by_cases hknown : instances.contains sink.runtimeId
  · have hstub : sink.stubbed observedAt instances = instances :=
      KeyedTable.insertOrIgnore_of_contains hknown
    unfold RuntimeJournalSink.instancesAfter
    rw [hstub]
    cases hstate : record.state with
    | none => simp [hknown]
    | some localState =>
        dsimp only [Option.elim_some]
        rw [KeyedTable.update_eq_self_iff]
        simp only [hknown, true_and, Option.mem_some_iff, forall_eq']
        refine forall_congr' fun row => forall_congr' fun hrow => ?_
        rw [hrow, stateColumns_eq_self_iff hoccurred hobserved]
  · refine iff_of_false (fun h => hknown ?_) fun h => hknown h.1
    rw [← h]
    exact sink.contains_instancesAfter record occurredAt observedAt instances

end Recorded

/-- Recording an event leaves the tables alone when its row cannot be built, or when there is
nothing left to record of it. -/
theorem unchanged_iff (sink : RuntimeJournalSink) (event : LifecycleEventEnvelope)
    (db : WorkerTables) :
    Unchanged db (committed db (sink.recordLifecycleEvent event db)) ↔
      writable sink event = false ∨ Settled sink event db := by
  cases hwritable : writable sink event with
  | false =>
      rw [RuntimeJournalSink.committed_of_not_writable hwritable]
      exact iff_of_true (.refl db) (.inl rfl)
  | true =>
      rcases RuntimeJournalSink.committed_of_writable hwritable db with
        ⟨record, row, occurredAt, observedAt, hrecord, hrow, hrecorded⟩
      have hid : row.eventId = event.eventId.val :=
        hrow.eventId.trans (lifecycleRecord_eq_ok hrecord).1
      have hinstances := instancesAfter_eq_self_iff sink hrow.occurredAt hrow.observedAt
        db.workerInstances
      rw [or_iff_right (by decide)]
      constructor
      · rintro ⟨hworkerInstances, hheartbeats, hevents⟩
        have hnot : event.eventName.val ≠ "runtime.heartbeat" := by
          intro hheartbeat
          rcases hrecorded.heartbeat hheartbeat with ⟨observation, happend⟩
          rw [happend] at hheartbeats
          simp at hheartbeats
        rw [(hrecorded.other hnot).2] at hworkerInstances
        rcases hinstances.1 hworkerInstances with ⟨hknown, hstate⟩
        rw [hrecorded.workerEvents, KeyedTable.insertOrIgnore_eq_self_iff, hid] at hevents
        refine ⟨hevents, hknown, hnot, fun record' hrecord' => ?_⟩
        rw [hrecord] at hrecord'
        cases hrecord'
        exact hstate
      · intro h
        have hother := hrecorded.other h.notHeartbeat
        refine ⟨?_, hother.1, ?_⟩
        · rw [hother.2]
          exact hinstances.2 ⟨h.known, h.localState record hrecord⟩
        · rw [hrecorded.workerEvents, KeyedTable.insertOrIgnore_of_contains]
          rw [hid]
          exact h.stored

/-- After any calls of journals, recording an event that is stored or of an older attempt leaves the
tables alone exactly when its row cannot be built or there is nothing left to record of it. -/
theorem stale_record_unchanged_iff (calls : List (RuntimeJournalSink × SinkCall))
    (sink : RuntimeJournalSink) (event : LifecycleEventEnvelope) :
    (Stale sink event (tablesAfter calls) → Unchanged (tablesAfter calls)
        (committed (tablesAfter calls) (sink.recordLifecycleEvent event (tablesAfter calls)))) ↔
      (Stale sink event (tablesAfter calls) →
        writable sink event = false ∨ Settled sink event (tablesAfter calls)) :=
  imp_congr_right fun _ => unchanged_iff sink event (tablesAfter calls)

/-! ## A heartbeat -/

/-- A heartbeat of the first attempt of {lit}`rt-1`. -/
def heartbeatArgs : CreateArgs where
  signalType := "heartbeat"
  identity := [("runtime_id", .str "rt-1"), ("launch_attempt", .int 1),
    ("worker_identity", .str "worker-1")]
  payload := [("local_state", .str "RUNNING"),
    ("observed_at", .datetime march30.val)]
  correlationId := none
  causationId := none
  triggeringEventId := none

def heartbeat : CreatedEvent :=
  .ofArgs clock defaultProducer heartbeatArgs (by decide +kernel)

def firstSink : RuntimeJournalSink :=
  ⟨"rt-1", 1, fun _ => 0⟩

/-- The second record of a heartbeat is observed again. -/
theorem heartbeat_recorded_twice :
    ¬ ∀ (calls : List (RuntimeJournalSink × SinkCall)) (sink : RuntimeJournalSink)
        (event : LifecycleEventEnvelope), Stale sink event (tablesAfter calls) →
      Unchanged (tablesAfter calls)
        (committed (tablesAfter calls) (sink.recordLifecycleEvent event (tablesAfter calls))) := by
  intro hidempotent
  have hevent : writable firstSink heartbeat.event = true ∧
      heartbeat.event.eventName.val = "runtime.heartbeat" := by decide +kernel
  rcases hevent with ⟨hwritable, hname⟩
  rcases RuntimeJournalSink.committed_of_writable hwritable .migrated with
    ⟨record, row, occurredAt, observedAt, hrecord, hrow, hfirst⟩
  have hstale : Stale firstSink heartbeat.event
      (tablesAfter [(firstSink, .lifecycleEvent heartbeat.event)]) := by
    left
    have hid : row.eventId = heartbeat.event.eventId.val :=
      hrow.eventId.trans (lifecycleRecord_eq_ok hrecord).1
    rw [← hid, tablesAfter_record, hfirst.workerEvents]
    exact KeyedTable.contains_insertOrIgnore_self _ row
  have hunchanged := hidempotent _ _ _ hstale
  rcases RuntimeJournalSink.committed_of_writable hwritable
    (tablesAfter [(firstSink, .lifecycleEvent heartbeat.event)]) with
    ⟨_, _, _, _, -, -, hsecond⟩
  rcases hsecond.heartbeat hname with ⟨observation, happend⟩
  have hsame := hunchanged.heartbeatObservations
  rw [happend] at hsame
  simp at hsame

end Persistence
end StrategyWorker
