import StrategyWorker.Persistence.Repositories

/-!
# The last heartbeat of an instance

Three calls write the row of an instance: {lit}`upsert_instance`, which sets
{lit}`last_heartbeat_at` in a new row only, {lit}`update_state`, which does not
touch it, and {lit}`record_heartbeat`, which compares the time that it is given
with the stored one.  A call that raises leaves the tables as they are.

Main results:

- Theorem {lit}`lastHeartbeat_after`: what one call leaves in the row.
- Theorem {lit}`lastHeartbeat_afterAll`: what a run of calls leaves there.
- Theorem {lit}`last_heartbeat_is_latest`: the stored heartbeat is the latest of
  those that were recorded, and an older one changes nothing.
-/

namespace StrategyWorker
namespace Persistence

open Library Events

/-! ## Instants of written times -/

theorem instant_requireUtc {value : PyDateTime} {utc : UtcDateTime}
    (h : requireUtc value = .ok utc) : utc.val.instant = value.instant := by
  unfold requireUtc at h
  cases hoffset : value.utcoffset with
  | none =>
      rw [hoffset] at h
      cases h
  | some offset =>
      rw [hoffset] at h
      rcases utcOfWall_cases (value.wall - offset) with ⟨utc', hutc, hwall⟩ | ⟨hraised, -⟩
      · have heq : utc' = utc := Except.ok.inj (hutc.symm.trans h)
        have hzero := (PyDateTime.ofWall?_eq_some hwall).2
        have hsame := (PyDateTime.ofWall?_eq_some hwall).1
        subst heq
        rw [PyDateTime.instant, PyDateTime.instant, hzero, hsame, hoffset]
        simp
      · have hclash := hraised.symm.trans h
        cases hclash

/-- The text of a time denotes its instant. -/
theorem instant_wireTs {value : PyDateTime} {ts : WireTs} (h : wireTs value = .ok ts) :
    ts.datetime.instant = value.instant := by
  unfold wireTs at h
  cases hutc : requireUtc value with
  | error e =>
      rw [hutc] at h
      cases h
  | ok utc =>
      rw [hutc] at h
      obtain rfl : WireTs.ofUtc utc = ts := Except.ok.inj h
      rw [WireTs.datetime_ofUtc, instant_requireUtc hutc]

/-! ## Calls -/

/-- A call that writes the row of an instance. -/
inductive InstanceCall where
  | upsertInstance (record : WorkerInstanceRecord)
  | updateState (runtimeId : String) (u : WorkerTables.StateUpdate)
  | recordHeartbeat (runtimeId : String) (heartbeatAt observedAt : PyDateTime)

/-- The latest heartbeat in a row. -/
def WorkerInstanceRow.lastHeartbeat (row : WorkerInstanceRow) : Option Int :=
  row.lastHeartbeatAt.map fun ts => ts.datetime.instant

namespace WorkerTables

def perform (db : WorkerTables) : InstanceCall → Except StoreError WorkerTables
  | .upsertInstance record => db.upsertInstance record
  | .updateState runtimeId u => db.updateState runtimeId u
  | .recordHeartbeat runtimeId heartbeatAt observedAt =>
      db.recordHeartbeat runtimeId heartbeatAt observedAt

/-- The tables after a call; one that raises leaves them. -/
def after (db : WorkerTables) (call : InstanceCall) : WorkerTables :=
  (db.perform call).toOption.getD db

/-- The tables after calls in sequence. -/
def afterAll (db : WorkerTables) : List InstanceCall → WorkerTables
  | [] => db
  | call :: calls => (db.after call).afterAll calls

/-- The calls of a run that return. -/
def returned (db : WorkerTables) : List InstanceCall → List InstanceCall
  | [] => []
  | call :: calls =>
      if (db.perform call).toOption.isSome then call :: (db.after call).returned calls
      else db.returned calls

/-- The latest heartbeat in the row of a runtime, when there is a row. -/
def lastHeartbeat (db : WorkerTables) (runtimeId : String) : Option (Option Int) :=
  (db.workerInstances.get? runtimeId).map WorkerInstanceRow.lastHeartbeat

end WorkerTables

/-- The heartbeats of a runtime that are known after a call: none before its first
{lit}`upsert_instance`, which brings the first one or none, and then every recorded one. -/
def knownHeartbeats (runtimeId : String) : Option (List Int) → InstanceCall → Option (List Int)
  | none, .upsertInstance record =>
      if record.runtimeId = runtimeId then
        some (record.lastHeartbeatAt.map PyDateTime.instant).toList
      else none
  | some known, .recordHeartbeat id heartbeatAt _ =>
      if id = runtimeId then some (known ++ [heartbeatAt.instant]) else some known
  | known, _ => known

/-! ## One call -/

namespace WorkerTables

variable {db db' : WorkerTables} {runtimeId : String}

theorem after_of_ok {call : InstanceCall} (h : db.perform call = .ok db') :
    db.after call = db' := by
  rw [after, h]
  rfl

theorem after_of_error {call : InstanceCall} {e : StoreError} (h : db.perform call = .error e) :
    db.after call = db := by
  rw [after, h]
  rfl

/-- An instance that is there keeps its last heartbeat; a new one gets that of the record. -/
theorem lastHeartbeat_upsertInstance {record : WorkerInstanceRecord}
    (h : db.upsertInstance record = .ok db') :
    db'.lastHeartbeat runtimeId =
      if record.runtimeId = runtimeId then
        some ((db.lastHeartbeat runtimeId).getD (record.lastHeartbeatAt.map PyDateTime.instant))
      else db.lastHeartbeat runtimeId := by
  simp only [upsertInstance, bind_eq_ok] at h
  rcases h with ⟨occurredAt, -, observedAt, -, h⟩
  split at h
  · rename_i hthere
    obtain rfl := Except.ok.inj h
    rw [lastHeartbeat, lastHeartbeat, KeyedTable.get?_update]
    split
    · rename_i hkey
      subst hkey
      rcases KeyedTable.contains_iff.1 hthere with ⟨row, hrow⟩
      rw [hrow]
      rfl
    · rfl
  · rename_i hnew
    simp only [bind_eq_ok, mapError_eq_ok] at h
    rcases h with ⟨lastHeartbeatAt, hlast, heq⟩
    obtain rfl := Except.ok.inj heq
    have hinstant : lastHeartbeatAt.map (fun ts => ts.datetime.instant) =
        record.lastHeartbeatAt.map PyDateTime.instant := by
      cases hgiven : record.lastHeartbeatAt with
      | none =>
          rw [hgiven] at hlast
          obtain rfl := Except.ok.inj hlast
          rfl
      | some given =>
          rw [hgiven, Option.mapM_some] at hlast
          cases hts : wireTs given with
          | error e =>
              rw [hts] at hlast
              cases hlast
          | ok ts =>
              rw [hts] at hlast
              obtain rfl := Except.ok.inj hlast
              rw [Option.map_some, Option.map_some, instant_wireTs hts]
    have hkey : (instanceRow record occurredAt observedAt lastHeartbeatAt).runtimeId =
        record.runtimeId := rfl
    rw [lastHeartbeat, lastHeartbeat, KeyedTable.get?_insertOrIgnore, hkey]
    split
    · rename_i hid
      subst hid
      rw [KeyedTable.get?_eq_none.2 hnew, Option.getD_none, Option.map_some, Option.map_none,
        Option.getD_none, ← hinstant]
      rfl
    · rfl

theorem lastHeartbeat_updateState {id : String} {u : StateUpdate}
    (h : db.updateState id u = .ok db') :
    db'.lastHeartbeat runtimeId = db.lastHeartbeat runtimeId := by
  rcases updateState_eq_ok.1 h with ⟨occurredAt, observedAt, -, -, rfl⟩
  rw [lastHeartbeat, lastHeartbeat, setState, KeyedTable.get?_update]
  split
  · rw [Option.map_map]
    rfl
  · rfl

/-- A heartbeat is stored when no later one is, and otherwise changes nothing. -/
theorem recordHeartbeat_cases {heartbeatAt observedAt : PyDateTime} {row : WorkerInstanceRow}
    (hrow : db.workerInstances.get? runtimeId = some row)
    (h : db.recordHeartbeat runtimeId heartbeatAt observedAt = .ok db') :
    ((∀ latest ∈ row.lastHeartbeat, latest ≤ heartbeatAt.instant) ∧
        ∃ candidate observed, candidate.datetime.instant = heartbeatAt.instant ∧
          db' = { db with
            workerInstances := db.workerInstances.update runtimeId
              (heartbeatColumns candidate observed)
              (runtimeId_heartbeatColumns candidate observed) }) ∨
      ((∃ latest ∈ row.lastHeartbeat, heartbeatAt.instant < latest) ∧ db' = db) := by
  unfold recordHeartbeat at h
  rw [hrow] at h
  simp only [bind_eq_ok, mapError_eq_ok] at h
  rcases h with ⟨candidate, hcandidate, h⟩
  have hinstant := instant_requireUtc hcandidate
  split at h
  · rename_i haccepted
    simp only [bind_eq_ok, mapError_eq_ok] at h
    rcases h with ⟨observed, -, heq⟩
    left
    constructor
    · intro latest hlatest
      rcases Option.map_eq_some_iff.1 hlatest with ⟨ts, hts, rfl⟩
      rw [← hinstant]
      exact haccepted ts hts
    · exact ⟨.ofUtc candidate, observed, by rw [WireTs.datetime_ofUtc, hinstant],
        (Except.ok.inj heq).symm⟩
  · rename_i hrefused
    push Not at hrefused
    rcases hrefused with ⟨ts, hts, hlater⟩
    rw [hinstant] at hlater
    right
    constructor
    · exact ⟨ts.datetime.instant, Option.map_eq_some_iff.2 ⟨ts, hts, rfl⟩, hlater⟩
    · exact (Except.ok.inj h).symm

/-- A heartbeat leaves the later one of itself and the stored one. -/
theorem lastHeartbeat_recordHeartbeat {id : String} {heartbeatAt observedAt : PyDateTime}
    (h : db.recordHeartbeat id heartbeatAt observedAt = .ok db') :
    db'.lastHeartbeat runtimeId =
      if id = runtimeId then
        (db.lastHeartbeat runtimeId).map fun last =>
          some ((last.map fun latest => max latest heartbeatAt.instant).getD heartbeatAt.instant)
      else db.lastHeartbeat runtimeId := by
  cases hrow : db.workerInstances.get? id with
  | none =>
      unfold recordHeartbeat at h
      rw [hrow] at h
      obtain rfl := Except.ok.inj h
      split
      · rename_i hid
        rw [lastHeartbeat, ← hid, hrow]
        rfl
      · rfl
  | some row =>
      rcases recordHeartbeat_cases hrow h with ⟨hnone, candidate, observed, hinstant, rfl⟩ |
        ⟨⟨latest, hlatest, hlater⟩, rfl⟩
      · rw [lastHeartbeat, lastHeartbeat, KeyedTable.get?_update]
        split
        · rename_i hid
          rw [← hid, hrow]
          simp only [Option.map_some]
          have hmax : (row.lastHeartbeat.map fun latest => max latest heartbeatAt.instant).getD
              heartbeatAt.instant = heartbeatAt.instant := by
            cases hlast : row.lastHeartbeat with
            | none => rfl
            | some latest => exact max_eq_right (hnone latest hlast)
          rw [hmax, ← hinstant]
          rfl
        · rfl
      · split
        · rename_i hid
          have hlast : row.lastHeartbeat = some latest := hlatest
          rw [lastHeartbeat, ← hid, hrow, Option.map_some, Option.map_some, hlast, Option.map_some,
            Option.getD_some, max_eq_left hlater.le]
        · rfl

/-- A heartbeat that is older than the stored one leaves the tables as they are. -/
theorem after_recordHeartbeat_of_older {heartbeatAt observedAt : PyDateTime} {latest : Int}
    (hlatest : db.lastHeartbeat runtimeId = some (some latest))
    (holder : heartbeatAt.instant < latest) :
    db.after (.recordHeartbeat runtimeId heartbeatAt observedAt) = db := by
  rcases Option.map_eq_some_iff.1 hlatest with ⟨row, hrow, hstored⟩
  cases hcall : db.perform (.recordHeartbeat runtimeId heartbeatAt observedAt) with
  | error e => exact after_of_error hcall
  | ok db' =>
      rw [after_of_ok hcall]
      rcases recordHeartbeat_cases hrow hcall with ⟨hnone, -⟩ | ⟨-, hsame⟩
      · have hle := hnone latest hstored
        omega
      · exact hsame

end WorkerTables

/-! ## Runs -/

theorem max?_concat (instants : List Int) (x : Int) :
    (instants ++ [x]).max? =
      some ((instants.max?.map fun latest => max latest x).getD x) := by
  cases instants with
  | nil => rfl
  | cons first rest =>
      rw [List.cons_append, List.max?_cons', List.max?_cons', List.foldl_append]
      rfl

namespace WorkerTables

variable {db db' : WorkerTables} {runtimeId : String}

/-- A call that returns keeps the stored heartbeat the latest of the known ones. -/
theorem lastHeartbeat_perform {call : InstanceCall} {known : Option (List Int)}
    (hknown : db.lastHeartbeat runtimeId = known.map List.max?) (h : db.perform call = .ok db') :
    db'.lastHeartbeat runtimeId = (knownHeartbeats runtimeId known call).map List.max? := by
  cases call with
  | upsertInstance record =>
      rw [lastHeartbeat_upsertInstance h, hknown]
      cases known with
      | none =>
          simp only [knownHeartbeats, Option.map_none, Option.getD_none]
          split
          · cases record.lastHeartbeatAt <;> rfl
          · rfl
      | some instants => simp [knownHeartbeats]
  | updateState id u =>
      rw [lastHeartbeat_updateState h, hknown]
      cases known <;> rfl
  | recordHeartbeat id heartbeatAt observedAt =>
      rw [lastHeartbeat_recordHeartbeat h, hknown]
      cases known with
      | none => simp [knownHeartbeats]
      | some instants =>
          simp only [knownHeartbeats, Option.map_some]
          split
          · rw [Option.map_some, max?_concat]
          · rfl

/-- After a run the stored heartbeat is the latest of those that became known. -/
theorem lastHeartbeat_afterAll {known : Option (List Int)} (calls : List InstanceCall)
    (hknown : db.lastHeartbeat runtimeId = known.map List.max?) :
    (db.afterAll calls).lastHeartbeat runtimeId =
      ((db.returned calls).foldl (knownHeartbeats runtimeId) known).map List.max? := by
  induction calls generalizing db known with
  | nil => exact hknown
  | cons call calls ih =>
      rw [afterAll, returned]
      cases hcall : db.perform call with
      | error e =>
          rw [after_of_error hcall]
          exact ih hknown
      | ok db' =>
          rw [after_of_ok hcall]
          exact ih (lastHeartbeat_perform hknown hcall)

/--
For every run of calls from tables without a row of the runtime: the stored
heartbeat is the latest of the first one of its row and those that were recorded
afterwards, and a heartbeat that is older than it leaves the tables as they are.
-/
theorem last_heartbeat_is_latest (db : WorkerTables) (runtimeId : String)
    (hnew : ¬ db.workerInstances.contains runtimeId) (calls : List InstanceCall) :
    (db.afterAll calls).lastHeartbeat runtimeId =
        ((db.returned calls).foldl (knownHeartbeats runtimeId) none).map List.max? ∧
      ∀ (latest : Int) (heartbeatAt observedAt : PyDateTime),
        (db.afterAll calls).lastHeartbeat runtimeId = some (some latest) →
          heartbeatAt.instant < latest →
            (db.afterAll calls).after (.recordHeartbeat runtimeId heartbeatAt observedAt) =
              db.afterAll calls := by
  constructor
  · apply lastHeartbeat_afterAll
    rw [lastHeartbeat, KeyedTable.get?_eq_none.2 hnew]
    rfl
  · intro latest heartbeatAt observedAt hlatest holder
    exact after_recordHeartbeat_of_older hlatest holder

/-- The first noon of the epoch. -/
def noon : PyDateTime :=
  ⟨epochWall + 43200000000, some 0, by decide, PyDateTime.utc_offset_range⟩

/-- The same reading one hour to the east, which is an hour earlier. -/
def easternNoon : PyDateTime :=
  ⟨epochWall + 43200000000, some 3600000000, by decide, by decide⟩

def newInstance : WorkerInstanceRecord where
  runtimeId := "rt-1"
  workerIdentity := "worker-1"
  tenantId := "tenant-1"
  strategyVersionId := "sv-1"
  launchAttempt := 1
  state := "RUNNING"
  occurredAt := noon
  observedAt := noon
  traderId := none
  accountId := none
  reasonCode := none
  lastHeartbeatAt := none
  correlationId := none
  causationId := none

/-- Of two heartbeats the later one stays. -/
theorem noon_heartbeat_stays :
    (migrated.afterAll [.upsertInstance newInstance, .recordHeartbeat "rt-1" noon noon,
        .recordHeartbeat "rt-1" easternNoon noon]).lastHeartbeat "rt-1" =
      some (some 43200000000) := by
  rw [(last_heartbeat_is_latest migrated "rt-1" (by decide) _).1]
  decide +kernel

end WorkerTables
end Persistence
end StrategyWorker
