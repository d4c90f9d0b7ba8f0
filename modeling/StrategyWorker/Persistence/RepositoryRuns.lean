import StrategyWorker.Persistence.LastHeartbeat

/-!
# Runs over all tables of the worker

The repositories share one connection: a transaction performs calls of all of them
and commits, or rolls back when one raises.  The rows of the other tables refer to
{lit}`worker_instances`.

Main results:

- Theorem {lit}`performCall_keeps`: what one call keeps of the tables.
- Theorem {lit}`tables_stay_consistent`: after any run of transactions every row
  refers to an instance, and nothing that was committed is lost.
-/

namespace StrategyWorker
namespace Persistence

open Library Events

/-! ## Transactions -/

/-- A call that writes a table. -/
inductive RepositoryCall where
  | onInstance (call : InstanceCall)
  | appendAttempt (record : LaunchAttemptRecord)
  | markOutcome (runtimeId : String) (launchAttempt : Int) (o : WorkerTables.Outcome)
  | appendObservation (record : HeartbeatObservationRecord)
  | appendEvent (event : WorkerEventRecord)
  | appendDiagnostic (record : DiagnosticRecord)

namespace WorkerTables

def performCall (db : WorkerTables) : RepositoryCall → Except StoreError WorkerTables
  | .onInstance call => db.perform call
  | .appendAttempt record => db.appendAttempt record
  | .markOutcome runtimeId launchAttempt o => db.markOutcome runtimeId launchAttempt o
  | .appendObservation record => db.appendObservation record
  | .appendEvent event => (db.appendEvent event).map Prod.snd
  | .appendDiagnostic record => db.appendDiagnostic record

/-- The tables after a transaction: all its calls, or none of them when one raises. -/
def transact (db : WorkerTables) (calls : List RepositoryCall) : WorkerTables :=
  (calls.foldlM performCall db).toOption.getD db

/-- The tables after transactions in sequence. -/
def transactAll (db : WorkerTables) (transactions : List (List RepositoryCall)) : WorkerTables :=
  transactions.foldl transact db

/-! ## What is kept -/

/-- Every row refers to an instance. -/
structure Referential (db : WorkerTables) : Prop where
  attempts : ∀ row ∈ db.launchAttempts.rows, db.workerInstances.contains row.runtimeId
  heartbeats : ∀ row ∈ db.heartbeatObservations, db.workerInstances.contains row.runtimeId
  events : ∀ row ∈ db.workerEvents.rows, db.workerInstances.contains row.runtimeId
  diagnostics : ∀ row ∈ db.diagnostics, db.workerInstances.contains row.runtimeId

/-- The later tables have all instances and attempts of the earlier ones, and their other rows at
the head. -/
structure Extends (db db' : WorkerTables) : Prop where
  instances : ∀ runtimeId, db.workerInstances.contains runtimeId →
    db'.workerInstances.contains runtimeId
  attempts : db.launchAttempts.rows.map LaunchAttemptRow.key <+:
    db'.launchAttempts.rows.map LaunchAttemptRow.key
  heartbeats : db.heartbeatObservations <+: db'.heartbeatObservations
  events : db.workerEvents.rows <+: db'.workerEvents.rows
  diagnostics : db.diagnostics <+: db'.diagnostics

variable {db db' db'' : WorkerTables}

theorem Extends.refl (db : WorkerTables) : Extends db db where
  instances _ h := h
  attempts := List.prefix_rfl
  heartbeats := List.prefix_rfl
  events := List.prefix_rfl
  diagnostics := List.prefix_rfl

theorem Extends.trans (h : Extends db db') (h' : Extends db' db'') : Extends db db'' where
  instances runtimeId hthere := h'.instances runtimeId (h.instances runtimeId hthere)
  attempts := h.attempts.trans h'.attempts
  heartbeats := h.heartbeats.trans h'.heartbeats
  events := h.events.trans h'.events
  diagnostics := h.diagnostics.trans h'.diagnostics

theorem referential_migrated : Referential migrated where
  attempts _ h := by cases h
  heartbeats _ h := by cases h
  events _ h := by cases h
  diagnostics _ h := by cases h

/-- Only the table of instances changes, and no instance is lost. -/
theorem keeps_of_instances {instances : KeyedTable WorkerInstanceRow.runtimeId}
    (h : ∀ runtimeId, db.workerInstances.contains runtimeId → instances.contains runtimeId) :
    Extends db { db with workerInstances := instances } ∧
      (Referential db → Referential { db with workerInstances := instances }) := by
  constructor
  · exact ⟨h, List.prefix_rfl, List.prefix_rfl, List.prefix_rfl, List.prefix_rfl⟩
  · intro hdb
    exact ⟨fun row hrow => h _ (hdb.attempts row hrow),
      fun row hrow => h _ (hdb.heartbeats row hrow), fun row hrow => h _ (hdb.events row hrow),
      fun row hrow => h _ (hdb.diagnostics row hrow)⟩

theorem perform_keeps {call : InstanceCall} (h : db.perform call = .ok db') :
    Extends db db' ∧ (Referential db → Referential db') := by
  cases call with
  | upsertInstance record =>
      simp only [perform, upsertInstance, bind_eq_ok] at h
      rcases h with ⟨occurredAt, -, observedAt, -, h⟩
      split at h
      · obtain rfl := Except.ok.inj h
        exact keeps_of_instances fun id hid => (KeyedTable.contains_update ..).2 hid
      · simp only [bind_eq_ok] at h
        rcases h with ⟨lastHeartbeatAt, -, heq⟩
        obtain rfl := Except.ok.inj heq
        exact keeps_of_instances fun id hid => KeyedTable.contains_insertOrIgnore.2 (.inl hid)
  | updateState runtimeId u =>
      rcases updateState_eq_ok.1 h with ⟨occurredAt, observedAt, -, -, rfl⟩
      exact keeps_of_instances fun id hid => (KeyedTable.contains_update ..).2 hid
  | recordHeartbeat runtimeId heartbeatAt observedAt =>
      have h : db.recordHeartbeat runtimeId heartbeatAt observedAt = .ok db' := h
      cases hrow : db.workerInstances.get? runtimeId with
      | none =>
          unfold recordHeartbeat at h
          rw [hrow] at h
          obtain rfl := Except.ok.inj h
          exact ⟨.refl _, id⟩
      | some row =>
          rcases recordHeartbeat_cases hrow h with ⟨-, candidate, observed, -, rfl⟩ | ⟨-, rfl⟩
          · exact keeps_of_instances fun id hid => (KeyedTable.contains_update ..).2 hid
          · exact ⟨.refl _, id⟩

/-- The columns of an outcome leave the keys of the attempts in their places. -/
theorem keys_setOutcome (db : WorkerTables) (runtimeId : String) (launchAttempt : Int)
    (o : Outcome) (occurredAt observedAt : WireTs) (details : Option String) :
    (db.setOutcome runtimeId launchAttempt o occurredAt observedAt details).launchAttempts.rows.map
      LaunchAttemptRow.key = db.launchAttempts.rows.map LaunchAttemptRow.key := by
  simp only [setOutcome, KeyedTable.update, List.map_map]
  refine List.map_congr_left fun row _ => ?_
  simp only [Function.comp_apply]
  split <;> rfl

/-- A row that is appended to one of the tables refers to an instance. -/
theorem forall_mem_concat {R : Type} {rows : List R} {row : R} {p : R → Prop}
    (h : ∀ r ∈ rows, p r) (hrow : p row) : ∀ r ∈ rows ++ [row], p r :=
  List.forall_mem_append.2 ⟨h, List.forall_mem_singleton.2 hrow⟩

/-- A call that returns loses no row, and its own refers to an instance. -/
theorem performCall_keeps {call : RepositoryCall} (h : db.performCall call = .ok db') :
    Extends db db' ∧ (Referential db → Referential db') := by
  cases call with
  | onInstance call => exact perform_keeps h
  | appendAttempt record =>
      simp only [performCall, appendAttempt, bind_eq_ok] at h
      rcases h with ⟨occurredAt, -, observedAt, -, details, -, h⟩
      split at h
      · cases h
      · rename_i hnew
        obtain rfl := Except.ok.inj h
        rw [not_or, not_not] at hnew
        have hrows := KeyedTable.rows_insertOrIgnore hnew.2
        constructor
        · refine ⟨fun _ hid => hid, ?_, List.prefix_rfl, List.prefix_rfl, List.prefix_rfl⟩
          rw [hrows, List.map_append]
          exact List.prefix_append _ _
        · intro hdb
          refine ⟨?_, hdb.heartbeats, hdb.events, hdb.diagnostics⟩
          rw [hrows]
          exact forall_mem_concat hdb.attempts hnew.1
  | markOutcome runtimeId launchAttempt o =>
      rcases markOutcome_eq_ok.1 h with ⟨occurredAt, observedAt, details, -, -, -, rfl⟩
      have hkeys := keys_setOutcome db runtimeId launchAttempt o occurredAt observedAt details
      constructor
      · exact ⟨fun _ hid => hid, by rw [hkeys], List.prefix_rfl, List.prefix_rfl, List.prefix_rfl⟩
      · intro hdb
        refine ⟨fun row hrow => ?_, hdb.heartbeats, hdb.events, hdb.diagnostics⟩
        have hmem := List.mem_map_of_mem (f := LaunchAttemptRow.key) hrow
        rw [hkeys] at hmem
        rcases List.mem_map.1 hmem with ⟨old, hold, hkey⟩
        have hid : old.runtimeId = row.runtimeId := congrArg Prod.fst hkey
        rw [← hid]
        exact hdb.attempts old hold
  | appendObservation record =>
      rcases (appendObservation_eq_ok db record).1 h with
        ⟨occurredAt, observedAt, details, -, -, -, hinstance, rfl⟩
      constructor
      · exact ⟨fun _ hid => hid, List.prefix_rfl, List.prefix_append _ _, List.prefix_rfl,
          List.prefix_rfl⟩
      · intro hdb
        exact ⟨hdb.attempts, forall_mem_concat hdb.heartbeats hinstance, hdb.events,
          hdb.diagnostics⟩
  | appendEvent event =>
      simp only [performCall] at h
      cases hcall : db.appendEvent event with
      | error e =>
          rw [hcall] at h
          cases h
      | ok stored =>
          rw [hcall] at h
          obtain rfl := Except.ok.inj h
          rcases appendEvent_eq_ok.1 hcall with ⟨row, -, ⟨-, -, hsame⟩ | ⟨hnew, hinstance, -, heq⟩⟩
          · rw [hsame]
            exact ⟨.refl _, id⟩
          · rw [heq]
            have hrows := KeyedTable.rows_insertOrIgnore hnew
            constructor
            · refine ⟨fun _ hid => hid, List.prefix_rfl, List.prefix_rfl, ?_, List.prefix_rfl⟩
              rw [hrows]
              exact List.prefix_append _ _
            · intro hdb
              refine ⟨hdb.attempts, hdb.heartbeats, ?_, hdb.diagnostics⟩
              rw [hrows]
              exact forall_mem_concat hdb.events hinstance
  | appendDiagnostic record =>
      rcases (appendDiagnostic_eq_ok db record).1 h with
        ⟨occurredAt, observedAt, details, -, -, -, hinstance, rfl⟩
      constructor
      · exact ⟨fun _ hid => hid, List.prefix_rfl, List.prefix_rfl, List.prefix_rfl,
          List.prefix_append _ _⟩
      · intro hdb
        exact ⟨hdb.attempts, hdb.heartbeats, hdb.events,
          forall_mem_concat hdb.diagnostics hinstance⟩

/-! ## Runs -/

theorem foldlM_keeps {calls : List RepositoryCall}
    (h : calls.foldlM performCall db = .ok db') :
    Extends db db' ∧ (Referential db → Referential db') := by
  induction calls generalizing db with
  | nil =>
      obtain rfl := Except.ok.inj h
      exact ⟨.refl _, id⟩
  | cons call calls ih =>
      rw [List.foldlM_cons, bind_eq_ok] at h
      rcases h with ⟨next, hnext, hrest⟩
      have hfirst := performCall_keeps hnext
      have hlater := ih hrest
      exact ⟨hfirst.1.trans hlater.1, fun hdb => hlater.2 (hfirst.2 hdb)⟩

/-- A transaction that is rolled back keeps everything. -/
theorem transact_keeps (db : WorkerTables) (calls : List RepositoryCall) :
    Extends db (db.transact calls) ∧ (Referential db → Referential (db.transact calls)) := by
  unfold transact
  cases hrun : calls.foldlM performCall db with
  | error e => exact ⟨.refl _, id⟩
  | ok db' => exact foldlM_keeps hrun

theorem transactAll_keeps (db : WorkerTables) (transactions : List (List RepositoryCall)) :
    Extends db (db.transactAll transactions) ∧
      (Referential db → Referential (db.transactAll transactions)) := by
  induction transactions generalizing db with
  | nil => exact ⟨.refl _, id⟩
  | cons calls transactions ih =>
      have hfirst := transact_keeps db calls
      have hlater := ih (db.transact calls)
      exact ⟨hfirst.1.trans hlater.1, fun hdb => hlater.2 (hfirst.2 hdb)⟩

/--
For every run of transactions on the migrated tables, of any calls of the
repositories and with any of them raising: every row refers to an instance; and
what one run committed, a longer one keeps: no instance and no attempt is lost, and
heartbeats, events and diagnostics stay as they are in their order.
-/
theorem tables_stay_consistent (transactions later : List (List RepositoryCall)) :
    Referential (migrated.transactAll transactions) ∧
      Extends (migrated.transactAll transactions)
        (migrated.transactAll (transactions ++ later)) := by
  constructor
  · exact (transactAll_keeps migrated transactions).2 referential_migrated
  · unfold transactAll
    rw [List.foldl_append]
    exact (transactAll_keeps _ later).1

end WorkerTables
end Persistence
end StrategyWorker
