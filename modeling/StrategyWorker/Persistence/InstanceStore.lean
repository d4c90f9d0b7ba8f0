import Mathlib.Logic.Function.Basic
import StrategyWorker.Library.SqlOrder
import StrategyWorker.Persistence.LastHeartbeat

/-!
# Instances as they are read back

{lit}`get_by_runtime_id` and {lit}`list_by_strategy_version` make records of the rows
again.  What the repository is for is a record of each runtime: the one that was
given, with its times in UTC, and with the latest heartbeat.

Main results:

- Theorem {lit}`getByRuntimeId_perform`: what one call does to the records.
- Theorem {lit}`instances_read_back`: after a run the readers answer as the store of
  records does.
-/

namespace StrategyWorker
namespace Persistence

open Library Events

/-! ## Readers -/

/-- The record of a row. -/
def WorkerInstanceRow.record (row : WorkerInstanceRow) : WorkerInstanceRecord where
  runtimeId := row.runtimeId
  workerIdentity := row.workerIdentity
  tenantId := row.tenantId
  strategyVersionId := row.strategyVersionId
  launchAttempt := row.launchAttempt
  state := row.state
  occurredAt := row.occurredAt.datetime
  observedAt := row.observedAt.datetime
  traderId := row.traderId
  accountId := row.accountId
  reasonCode := row.reasonCode
  lastHeartbeatAt := row.lastHeartbeatAt.map WireTs.datetime
  correlationId := row.correlationId
  causationId := row.causationId

namespace WorkerTables

/-- {lit}`SQLiteWorkerInstanceRepository.get_by_runtime_id(runtime_id)`. -/
def getByRuntimeId (db : WorkerTables) (runtimeId : String) : Option WorkerInstanceRecord :=
  (db.workerInstances.get? runtimeId).map WorkerInstanceRow.record

/-- {lit}`SQLiteWorkerInstanceRepository.list_by_strategy_version(strategy_version_id)`, which
leaves the order of the rows open. -/
def listByStrategyVersion (scan : OrderBy fun _ _ : WorkerInstanceRow => True)
    (db : WorkerTables) (strategyVersionId : String) : List WorkerInstanceRecord :=
  (scan.sort (db.workerInstances.rows.filter fun row =>
    row.strategyVersionId = strategyVersionId)).map WorkerInstanceRow.record

end WorkerTables

/-! ## The store of records -/

/-- A time as it is read back: the same instant in UTC. -/
def inUtc (value : PyDateTime) : PyDateTime :=
  ((requireUtc value).toOption.map Subtype.val).getD value

theorem datetime_wireTs {value : PyDateTime} {ts : WireTs} (h : wireTs value = .ok ts) :
    ts.datetime = inUtc value := by
  unfold wireTs at h
  cases hutc : requireUtc value with
  | error e =>
      rw [hutc] at h
      cases h
  | ok utc =>
      rw [hutc] at h
      obtain rfl : WireTs.ofUtc utc = ts := Except.ok.inj h
      rw [WireTs.datetime_ofUtc, inUtc, hutc]
      rfl

/-- What is known of the instances: a record under each runtime id. -/
abbrev InstanceStore :=
  String → Option WorkerInstanceRecord

namespace WorkerInstanceRecord

/-- A record that replaces what is known of its runtime, but for the latest heartbeat. -/
def replacing (record : WorkerInstanceRecord) (known : Option WorkerInstanceRecord) :
    WorkerInstanceRecord :=
  { record with
    occurredAt := inUtc record.occurredAt
    observedAt := inUtc record.observedAt
    lastHeartbeatAt := (known.map lastHeartbeatAt).getD (record.lastHeartbeatAt.map inUtc) }

/-- A record in another state. -/
def withState (u : WorkerTables.StateUpdate) (record : WorkerInstanceRecord) :
    WorkerInstanceRecord :=
  { record with
    launchAttempt := u.launchAttempt
    state := u.state
    reasonCode := u.reasonCode
    occurredAt := inUtc u.occurredAt
    observedAt := inUtc u.observedAt
    correlationId := u.correlationId
    causationId := u.causationId }

/-- A record after a heartbeat, unless a later one is known. -/
def withHeartbeat (heartbeatAt observedAt : PyDateTime) (record : WorkerInstanceRecord) :
    WorkerInstanceRecord :=
  if ∀ latest ∈ record.lastHeartbeatAt, latest.instant ≤ heartbeatAt.instant then
    { record with lastHeartbeatAt := some (inUtc heartbeatAt), observedAt := inUtc observedAt }
  else record

end WorkerInstanceRecord

/-- What a call does to the records. -/
def InstanceStore.apply (store : InstanceStore) : InstanceCall → InstanceStore
  | .upsertInstance record =>
      Function.update store record.runtimeId (some (record.replacing (store record.runtimeId)))
  | .updateState runtimeId u =>
      Function.update store runtimeId
        ((store runtimeId).map (WorkerInstanceRecord.withState u))
  | .recordHeartbeat runtimeId heartbeatAt observedAt =>
      Function.update store runtimeId
        ((store runtimeId).map (WorkerInstanceRecord.withHeartbeat heartbeatAt observedAt))

/-! ## One call -/

/-- Times that are given or not, as they are read back. -/
theorem map_datetime_of_mapM {value : Option PyDateTime} {ts : Option WireTs}
    (h : value.mapM wireTs = .ok ts) : ts.map WireTs.datetime = value.map inUtc := by
  cases value with
  | none =>
      obtain rfl := Except.ok.inj h
      rfl
  | some given =>
      rw [Option.mapM_some] at h
      cases hts : wireTs given with
      | error e =>
          rw [hts] at h
          cases h
      | ok written =>
          rw [hts] at h
          obtain rfl := Except.ok.inj h
          rw [Option.map_some, Option.map_some, datetime_wireTs hts]

namespace WorkerTables

variable {db db' : WorkerTables}

/-- The records after an update of one row. -/
theorem getByRuntimeId_update (db : WorkerTables) (runtimeId : String)
    (f : WorkerInstanceRow → WorkerInstanceRow) (hf : ∀ row, (f row).runtimeId = row.runtimeId)
    (g : WorkerInstanceRecord → WorkerInstanceRecord)
    (hg : ∀ row, db.workerInstances.get? runtimeId = some row → (f row).record = g row.record) :
    ({ db with workerInstances := db.workerInstances.update runtimeId f hf } :
        WorkerTables).getByRuntimeId =
      Function.update db.getByRuntimeId runtimeId ((db.getByRuntimeId runtimeId).map g) := by
  funext id
  simp only [getByRuntimeId, KeyedTable.get?_update]
  by_cases hid : runtimeId = id
  · subst hid
    rw [if_pos rfl, Function.update_self]
    cases hrow : db.workerInstances.get? runtimeId with
    | none => rfl
    | some row => simp only [Option.map_some, hg row hrow]
  · rw [if_neg hid, Function.update_of_ne (Ne.symm hid), getByRuntimeId]

theorem getByRuntimeId_upsertInstance {record : WorkerInstanceRecord}
    (h : db.upsertInstance record = .ok db') :
    db'.getByRuntimeId = InstanceStore.apply db.getByRuntimeId (.upsertInstance record) := by
  simp only [upsertInstance, bind_eq_ok, mapError_eq_ok] at h
  rcases h with ⟨occurredAt, hoccurred, observedAt, hobserved, h⟩
  have ho := datetime_wireTs hoccurred
  have hob := datetime_wireTs hobserved
  split at h
  · rename_i hthere
    obtain rfl := Except.ok.inj h
    rcases KeyedTable.contains_iff.1 hthere with ⟨row, hrow⟩
    have hknown : db.getByRuntimeId record.runtimeId = some row.record := by
      rw [getByRuntimeId, hrow, Option.map_some]
    rw [getByRuntimeId_update db record.runtimeId _ _
      (fun known => record.replacing (some known))]
    · rw [InstanceStore.apply, hknown]
      rfl
    · intro found hfound
      have hkey : found.runtimeId = record.runtimeId := (KeyedTable.get?_eq_some.1 hfound).2
      simp only [WorkerInstanceRow.record, upsertColumns, WorkerInstanceRecord.replacing, hkey, ho,
        hob, Option.map_some, Option.getD_some]
  · rename_i hnew
    simp only [bind_eq_ok, mapError_eq_ok] at h
    rcases h with ⟨lastHeartbeatAt, hlast, heq⟩
    obtain rfl := Except.ok.inj heq
    have hnone := KeyedTable.get?_eq_none.2 hnew
    have hknown : db.getByRuntimeId record.runtimeId = none := by
      rw [getByRuntimeId, hnone, Option.map_none]
    have hrecord : (instanceRow record occurredAt observedAt lastHeartbeatAt).record =
        record.replacing none := by
      simp only [WorkerInstanceRow.record, instanceRow, WorkerInstanceRecord.replacing, ho, hob,
        map_datetime_of_mapM hlast, Option.map_none, Option.getD_none]
    have hkey : (instanceRow record occurredAt observedAt lastHeartbeatAt).runtimeId =
        record.runtimeId := rfl
    funext id
    rw [InstanceStore.apply, hknown, getByRuntimeId, KeyedTable.get?_insertOrIgnore, hkey]
    by_cases hid : record.runtimeId = id
    · subst hid
      rw [if_pos rfl, hnone, Option.getD_none, Option.map_some, hrecord, Function.update_self]
    · rw [if_neg hid, Function.update_of_ne (Ne.symm hid), getByRuntimeId]

theorem getByRuntimeId_updateState {runtimeId : String} {u : StateUpdate}
    (h : db.updateState runtimeId u = .ok db') :
    db'.getByRuntimeId = InstanceStore.apply db.getByRuntimeId (.updateState runtimeId u) := by
  rcases updateState_eq_ok.1 h with ⟨occurredAt, observedAt, hoccurred, hobserved, rfl⟩
  apply getByRuntimeId_update
  intro row _
  simp only [WorkerInstanceRow.record, stateColumns, WorkerInstanceRecord.withState,
    datetime_wireTs hoccurred, datetime_wireTs hobserved]

theorem getByRuntimeId_recordHeartbeat {runtimeId : String} {heartbeatAt observedAt : PyDateTime}
    (h : db.recordHeartbeat runtimeId heartbeatAt observedAt = .ok db') :
    db'.getByRuntimeId = InstanceStore.apply db.getByRuntimeId
      (.recordHeartbeat runtimeId heartbeatAt observedAt) := by
  unfold recordHeartbeat at h
  cases hrow : db.workerInstances.get? runtimeId with
  | none =>
      rw [hrow] at h
      obtain rfl := Except.ok.inj h
      have hknown : db.getByRuntimeId runtimeId = none := by
        rw [getByRuntimeId, hrow, Option.map_none]
      rw [InstanceStore.apply, hknown, Option.map_none, ← hknown, Function.update_eq_self]
  | some row =>
      rw [hrow] at h
      simp only [bind_eq_ok, mapError_eq_ok] at h
      rcases h with ⟨candidate, hcandidate, h⟩
      have hinstant := instant_requireUtc hcandidate
      have hutc : inUtc heartbeatAt = candidate.val := by
        rw [inUtc, hcandidate]
        rfl
      have haccepts : (∀ latest ∈ row.record.lastHeartbeatAt,
          latest.instant ≤ heartbeatAt.instant) ↔
            ∀ ts ∈ row.lastHeartbeatAt, ts.datetime.instant ≤ candidate.val.instant := by
        rw [hinstant]
        simp only [WorkerInstanceRow.record, Option.mem_def, Option.map_eq_some_iff]
        constructor
        · exact fun hall ts hts => hall _ ⟨ts, hts, rfl⟩
        · rintro hall latest ⟨ts, hts, rfl⟩
          exact hall ts hts
      have hknown : db.getByRuntimeId runtimeId = some row.record := by
        rw [getByRuntimeId, hrow, Option.map_some]
      split at h
      · rename_i haccepted
        simp only [bind_eq_ok, mapError_eq_ok] at h
        rcases h with ⟨observed, hobserved, heq⟩
        obtain rfl := Except.ok.inj heq
        apply getByRuntimeId_update
        intro found hfound
        obtain rfl := Option.some.inj (hrow.symm.trans hfound)
        rw [WorkerInstanceRecord.withHeartbeat, if_pos (haccepts.2 haccepted)]
        simp only [WorkerInstanceRow.record, heartbeatColumns, Option.map_some,
          WireTs.datetime_ofUtc, hutc, datetime_wireTs hobserved]
      · rename_i hrefused
        obtain rfl := Except.ok.inj h
        rw [InstanceStore.apply, hknown, Option.map_some, WorkerInstanceRecord.withHeartbeat,
          if_neg fun hall => hrefused (haccepts.1 hall), ← hknown, Function.update_eq_self]

/-- A call that returns does to the records what it does to the store of them. -/
theorem getByRuntimeId_perform {call : InstanceCall} (h : db.perform call = .ok db') :
    db'.getByRuntimeId = InstanceStore.apply db.getByRuntimeId call := by
  cases call with
  | upsertInstance record => exact getByRuntimeId_upsertInstance h
  | updateState runtimeId u => exact getByRuntimeId_updateState h
  | recordHeartbeat runtimeId heartbeatAt observedAt => exact getByRuntimeId_recordHeartbeat h

/-! ## Runs -/

theorem getByRuntimeId_afterAll (db : WorkerTables) (calls : List InstanceCall) :
    (db.afterAll calls).getByRuntimeId =
      (db.returned calls).foldl InstanceStore.apply db.getByRuntimeId := by
  induction calls generalizing db with
  | nil => rfl
  | cons call calls ih =>
      rw [afterAll, returned]
      cases hcall : db.perform call with
      | error e =>
          rw [after_of_error hcall]
          exact ih db
      | ok db' =>
          rw [after_of_ok hcall, ih db', getByRuntimeId_perform hcall]
          rfl

/-- The record of a runtime carries its id. -/
theorem getByRuntimeId_eq_some {runtimeId : String} {record : WorkerInstanceRecord} :
    db.getByRuntimeId runtimeId = some record ↔
      ∃ row ∈ db.workerInstances.rows, row.runtimeId = runtimeId ∧ row.record = record := by
  rw [getByRuntimeId, Option.map_eq_some_iff]
  constructor
  · rintro ⟨row, hrow, hrecord⟩
    exact ⟨row, (KeyedTable.get?_eq_some.1 hrow).1, (KeyedTable.get?_eq_some.1 hrow).2, hrecord⟩
  · rintro ⟨row, hmem, hkey, hrecord⟩
    exact ⟨row, KeyedTable.get?_eq_some.2 ⟨hmem, hkey⟩, hrecord⟩

/-- The listed records are those of the strategy version, and no runtime is listed twice. -/
theorem listByStrategyVersion_spec (scan : OrderBy fun _ _ : WorkerInstanceRow => True)
    (db : WorkerTables) (strategyVersionId : String) :
    ((db.listByStrategyVersion scan strategyVersionId).map WorkerInstanceRecord.runtimeId).Nodup ∧
      ∀ record, record ∈ db.listByStrategyVersion scan strategyVersionId ↔
        record.strategyVersionId = strategyVersionId ∧
          db.getByRuntimeId record.runtimeId = some record := by
  constructor
  · have hids := db.workerInstances.unique.sublist
      ((List.filter_sublist (p := fun row =>
        row.strategyVersionId = strategyVersionId)).map WorkerInstanceRow.runtimeId)
    rw [listByStrategyVersion, List.map_map]
    exact (((scan.perm _).map _).nodup_iff).2 hids
  · intro record
    simp only [listByStrategyVersion, List.mem_map, scan.mem_sort, List.mem_filter,
      decide_eq_true_eq, getByRuntimeId_eq_some]
    constructor
    · rintro ⟨row, ⟨hmem, hversion⟩, rfl⟩
      exact ⟨hversion, row, hmem, rfl, rfl⟩
    · rintro ⟨hversion, row, hmem, -, rfl⟩
      exact ⟨row, ⟨hmem, hversion⟩, rfl⟩

/--
For every run of calls on any tables: each runtime is read back as the store of
records has it after the calls that returned, and the records of a strategy
version are listed once each, in some order.
-/
theorem instances_read_back (db : WorkerTables) (calls : List InstanceCall) :
    (db.afterAll calls).getByRuntimeId =
        (db.returned calls).foldl InstanceStore.apply db.getByRuntimeId ∧
      ∀ (scan : OrderBy fun _ _ : WorkerInstanceRow => True) (strategyVersionId : String),
        (((db.afterAll calls).listByStrategyVersion scan strategyVersionId).map
            WorkerInstanceRecord.runtimeId).Nodup ∧
          ∀ record,
            record ∈ (db.afterAll calls).listByStrategyVersion scan strategyVersionId ↔
              record.strategyVersionId = strategyVersionId ∧
                (db.returned calls).foldl InstanceStore.apply db.getByRuntimeId record.runtimeId =
                  some record := by
  refine ⟨getByRuntimeId_afterAll db calls, fun scan strategyVersionId => ?_⟩
  rw [← getByRuntimeId_afterAll]
  exact listByStrategyVersion_spec scan (db.afterAll calls) strategyVersionId

end WorkerTables
end Persistence
end StrategyWorker
