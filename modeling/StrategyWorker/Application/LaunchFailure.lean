import StrategyWorker.Bootstrap.BootstrapPipeline
import StrategyWorker.Integration.ManagerGateway
import StrategyWorker.Persistence.RuntimeJournal

/-!
# Launch failures in the event table

A startup that fails writes its failure up to three times: the pipeline's
callback, the rollback, and the journal of the signal that the rollback emits.
Each of them makes the event id in its own way, and the table compares nothing
but ids.

Main results:

- Theorem {lit}`workerEvents_after`: the event table after any failing startups.
- Theorem {lit}`launchFailure_once_iff`: when at most one failure is stored.
- Theorem {lit}`launchFailure_stored_twice`: one failing startup that stores two.
-/

namespace StrategyWorker
namespace Application

open Library Events Domain Persistence Integration Bootstrap
open PyText

/-! ## The error of a startup -/

/-- {lit}`_BOOTSTRAP_STAGE_ORDER`. -/
def bootstrapStageOrder : List BootstrapStage :=
  [.artifactFetch, .artifactVerify, .entrypointLoad, .sdkValidate]

/-- The exceptions that the rollback tells apart. -/
inductive StartupErrorKind where
  /-- {lit}`RuntimeStartValidationFailedError`. -/
  | validation
  /-- A {lit}`BootstrapFailure`. -/
  | bootstrap (stage : BootstrapStage)
  /-- Any other; {lit}`"validate_sdk_contract" in self._startup_steps`. -/
  | other (sdkValidated : Bool)

/-- The exception that a startup ends with: its reason code and its details, when it has any. -/
structure StartupError where
  kind : StartupErrorKind
  reasonCode : Option String
  rawDetails : Option PyDict

namespace StartupError

def ofFailure (failure : BootstrapFailure) : StartupError :=
  ⟨.bootstrap failure.stage, some failure.reasonCode, some failure.details⟩

/-- {lit}`isinstance(error, BootstrapFailure)`. -/
def isBootstrapFailure (error : StartupError) : Bool :=
  match error.kind with
  | .bootstrap _ => true
  | _ => false

/-- {lit}`normalize_runtime_reason_code(str(getattr(error, "reason_code", ...)))`. -/
def canonicalReason (error : StartupError) : String :=
  normalizeRuntimeReasonCode (some (error.reasonCode.getD "bootstrap_start_failed"))

/-- The values of stages. -/
def stageTexts (stages : List BootstrapStage) : PyVal :=
  .list (stages.map fun stage => .str stage.value)

/-- {lit}`_validation_outcome(error)`: the stages that passed, failed and were not checked. -/
def validationOutcome (error : StartupError) : PyVal × PyVal × PyVal :=
  match error.kind with
  | .validation => (.list [], .list [.str "validate_launch_metadata"], stageTexts bootstrapStageOrder)
  | .bootstrap stage =>
      let index := bootstrapStageOrder.idxOf stage
      (stageTexts (bootstrapStageOrder.take index), stageTexts [stage],
        stageTexts (bootstrapStageOrder.drop (index + 1)))
  | .other true => (stageTexts bootstrapStageOrder, .list [], .list [])
  | .other false => (.list [], .list [], stageTexts bootstrapStageOrder)

/-- {lit}`sorted(names)` of a set. -/
def sortedTexts (names : List String) : PyVal :=
  .list ((names.dedup.mergeSort fun a b => a ≤ b).map .str)

/-- The unknown fields that {lit}`_classify_launch_field_errors` returns, when there are any. -/
def unknownFields (fieldErrors : PyDict) : List String :=
  match fieldErrors.get? "payload" with
  | some code =>
      let code := pyStr code
      if "unknown_fields:".toList.isPrefixOf code.toList then
        Integration.splitComma (String.ofList (code.toList.drop "unknown_fields:".length))
      else []
  | none => []

/-- {lit}`_bootstrap_failure_details(error)`. -/
def details (error : StartupError) : PyDict :=
  let raw := error.rawDetails.getD []
  let fieldErrors : PyDict :=
    match raw.get "field_errors" with
    | .dict fields => fields
    | _ => []
  let buckets := Integration.deriveFieldBuckets fieldErrors
  let unknown := unknownFields fieldErrors
  let classified := ((((raw.set "field_errors" (.dict fieldErrors)).set
    "missed_fields" (sortedTexts buckets.missed)).set
      "invalid_fields" (sortedTexts buckets.invalid)).set
        "empty_fields" (sortedTexts buckets.empty))
  let withUnknown :=
    if unknown = [] then classified
    else classified.set "validation_details"
      (.dict [("unknown_fields", .list (unknown.map .str))])
  let (passed, failed, notChecked) := error.validationOutcome
  ((withUnknown.set "passed" passed).set "failed" failed).set "not_checked" notChecked

end StartupError

/-! ## A failing startup -/

/-- A startup of a launch attempt that fails: the run of its pipeline, when it gets so far; the
error that it ends with otherwise; the rollback's clock and the gateway's; and which steps of the
rollback are reached. -/
structure FailingStartup (runtimeId : String) (launchAttempt : Int) where
  pipeline : Option PipelineRun
  otherError : StartupError
  sink : RuntimeJournalSink
  gateway : ManagerGateway
  failureAt : UtcDateTime
  now : UtcDateTime
  /-- {lit}`_set_phase(WorkerPhase.FAILED)` returns. -/
  rolledBack : Bool
  /-- The database refuses the transaction of the failure's record. -/
  recordRefused : Bool
  /-- The rollback comes to {lit}`emit_bootstrap_failed`: no step before it raises, and there are
  dependencies. -/
  signals : Bool
  /-- The database refuses the transaction of the signal's event. -/
  signalRefused : Bool
  pipeline_launch : ∀ r ∈ pipeline,
    r.launchSpec.runtimeId = runtimeId ∧ r.launchSpec.launchAttempt = launchAttempt
  sink_launch : sink.runtimeId = runtimeId ∧ sink.launchAttempt = launchAttempt
  gateway_launch : gateway.runtimeIdentity.runtimeId = runtimeId ∧
    gateway.runtimeIdentity.launchAttempt = launchAttempt

namespace FailingStartup

variable {runtimeId : String} {launchAttempt : Int} (s : FailingStartup runtimeId launchAttempt)

/-- The event of {lit}`emit_bootstrap_failed(...)`, which the gateway hands to the journal. -/
def signalEvent (error : StartupError) : Except PyException LifecycleEventEnvelope := do
  let payload ← (Signal.bootstrapFailed s.failureAt.val error.canonicalReason (some error.details)
    none).payload
  s.gateway.lifecycleEvent s.now "bootstrap_failed" payload

/-- The event of the signal in the journal; what is raised is swallowed. -/
def recordSignal (error : StartupError) (db : WorkerTables) : WorkerTables :=
  match s.signalEvent error with
  | .error _ => db
  | .ok event => if s.signalRefused then db else committed db (s.sink.recordLifecycleEvent event db)

/-- {lit}`_rollback_partial_startup(error)`: a record that cannot be written raises, and nothing
after it runs. -/
def rollback (error : StartupError) (db : WorkerTables) : WorkerTables :=
  if s.recordRefused then db
  else
    match s.sink.recordLaunchFailedEvent s.failureAt.val error.canonicalReason error.details db with
    | .error _ => db
    | .ok db' =>
        if error.isBootstrapFailure ∨ ¬ s.signals then db' else s.recordSignal error db'

/-- {lit}`except Exception as exc` of {lit}`start()`. -/
def handle (error : StartupError) (db : WorkerTables) : WorkerTables :=
  if s.rolledBack then s.rollback error db else db

/-- The startup: the failure that the pipeline returns is raised. -/
def run (db : WorkerTables) : WorkerTables :=
  match s.pipeline with
  | none => s.handle s.otherError db
  | some r =>
      match r.run db with
      | (.ok (.failure failure), db') => s.handle (.ofFailure failure) db'
      | (_, db') => s.handle s.otherError db'

end FailingStartup

/-- The tables after failing startups of one launch attempt. -/
def tablesAfterStartups {runtimeId : String} {launchAttempt : Int}
    (startups : List (FailingStartup runtimeId launchAttempt)) : WorkerTables :=
  startups.foldl (fun db s => s.run db) .migrated

/-- The row is of a failure of the launch attempt. -/
def isLaunchFailure (runtimeId : String) (launchAttempt : Int) (row : WorkerEventRow) : Bool :=
  row.eventFamily = "runtime.launch_failed" ∧ row.runtimeId = runtimeId ∧
    row.launchAttempt = launchAttempt

/-- At most one failure of the launch attempt is stored. -/
def LaunchFailureOnce {runtimeId : String} {launchAttempt : Int}
    (startups : List (FailingStartup runtimeId launchAttempt)) : Prop :=
  ((tablesAfterStartups startups).workerEvents.rows.filter
    (isLaunchFailure runtimeId launchAttempt)).length ≤ 1

/-! ## The rows of the pipeline -/

/-- The row that a record becomes, when it can be built. -/
def builtRow (record : Except PyException WorkerEventRecord) : Option WorkerEventRow :=
  (record.bind rowOf).toOption

theorem builtRow_eq_some {record : Except PyException WorkerEventRecord} {row : WorkerEventRow} :
    builtRow record = some row ↔ ∃ event, record = .ok event ∧ rowOf event = .ok row := by
  unfold builtRow
  cases record with
  | error e => simp [Except.bind, Except.toOption]
  | ok event =>
      simp only [Except.bind, Except.ok.injEq, exists_eq_left']
      cases rowOf event <;> simp [Except.toOption]

/-- A transaction inserts its row, when it has one. -/
def insertBuilt (db : WorkerTables) (row : Option WorkerEventRow) :
    KeyedTable WorkerEventRow.eventId :=
  db.workerEvents.insertAll row.toList

section Pipeline

variable (r : PipelineRun)

open BootstrapPersistenceCoordinator PipelineRun

/-- The result that the stages end in, if any. -/
def stageResult : Option BootstrapPipelineResult :=
  match r.stages with
  | .ok payload => some (.success payload)
  | .error (.failure failure) => some (.failure failure)
  | .error _ => none

/-- The result that a run returns, if any: both transactions are taken, and the last one can be
written. -/
def returned : Option BootstrapPipelineResult :=
  (stageResult r).filter fun result =>
    !r.startRefused && !r.endRefused && (r.endCallback result).writable

/-- The failure that a run returns and records. -/
def reported : Option BootstrapFailure :=
  match returned r with
  | some (.failure f) => some f
  | _ => none

/-- The row of the event with which a run ends. -/
def endRow : Option WorkerEventRow :=
  (returned r).bind fun result =>
    (eventOf r.launchSpec (r.endCallback result)).bind fun event => builtRow (.ok event)

theorem finish_spec {result : BootstrapPipelineResult} {db : WorkerTables}
    (hresult : stageResult r = some result) (hstart : r.startRefused = false)
    (hknown : db.workerInstances.contains r.launchSpec.runtimeId) :
    (∀ result', (r.finish result db).1 = .ok result' ↔ returned r = some result') ∧
      (r.finish result db).2.workerEvents = insertBuilt db (endRow r) := by
  by_cases htaken : r.endRefused = false ∧ (r.endCallback result).writable = true
  · rcases htaken with ⟨hend, hwritable⟩
    have hreturned : returned r = some result := by
      simp [returned, hresult, hstart, hend, hwritable]
    rcases finish_commits hwritable (r.endCallback_spec result).1 hknown with ⟨db', hcommit, -⟩
    have hfinish : r.finish result db = (.ok result, db') := by
      simp [finish, transact, hend, hcommit]
    have hevents := workerEvents_of_ok hcommit
    rw [hfinish, endRow, hreturned, Option.bind_some]
    refine ⟨fun result' => by simp, ?_⟩
    cases hevent : eventOf r.launchSpec (r.endCallback result) with
    | none =>
        rw [hevent] at hevents
        exact hevents
    | some event =>
        rw [hevent] at hevents
        rcases hevents with ⟨row, hrow, hinserted⟩
        have hbuilt : builtRow (.ok event) = some row := builtRow_eq_some.2 ⟨event, rfl, hrow⟩
        rw [hinserted, insertBuilt, Option.bind_some, hbuilt]
        rfl
  · have hreturned : returned r = none := by
      rw [returned, hresult, Option.filter_some]
      refine if_neg ?_
      simpa [hstart] using htaken
    have hfinish : ∃ e, r.finish result db = (.error e, db) := by
      by_cases hend : r.endRefused = true
      · exact ⟨.operationalError, by simp [finish, transact, hend]⟩
      · cases hcommit : (r.endCallback result).transaction r.launchSpec db with
        | error e => exact ⟨.store e, by simp [finish, transact, hend, hcommit]⟩
        | ok db' => exact absurd ⟨Bool.eq_false_of_not_eq_true hend, writable_of_ok hcommit⟩ htaken
    rcases hfinish with ⟨e, hfinish⟩
    rw [hfinish, endRow, hreturned]
    exact ⟨fun result' => by simp, rfl⟩

/-- What a run returns and what it leaves in the event table. -/
theorem run_spec (db : WorkerTables) :
    (∀ result, (r.run db).1 = .ok result ↔ returned r = some result) ∧
      (r.run db).2.workerEvents = insertBuilt db (endRow r) := by
  cases hstart : r.startRefused with
  | true =>
      have hrun : r.run db = (.error .operationalError, db) := by simp [run, transact, hstart]
      have hreturned : returned r = none := by
        cases hresult : stageResult r <;> simp [returned, hresult, hstart]
      rw [hrun, endRow, hreturned]
      exact ⟨fun result' => by simp, rfl⟩
  | false =>
      rcases r.exists_started hstart db with ⟨db₁, hrun, hknown, -, hsame⟩
      have hinsert : insertBuilt db (endRow r) = insertBuilt db₁ (endRow r) := by
        rw [insertBuilt, insertBuilt, hsame]
      rw [hrun, hinsert, afterStages]
      split
      · rename_i payload hstages
        exact finish_spec r (by rw [stageResult, hstages]) hstart hknown
      · rename_i failure hstages
        exact finish_spec r (by rw [stageResult, hstages]) hstart hknown
      · rename_i x hother hstages
        have hresult : stageResult r = none := by
          cases x with
          | failure failure => exact absurd rfl (hother failure)
          | other c => rw [stageResult, hstages]
        rw [endRow, returned, hresult]
        exact ⟨fun result' => by simp, rfl⟩

end Pipeline

/-! ## The rows of a startup -/

namespace FailingStartup

variable {runtimeId : String} {launchAttempt : Int} (s : FailingStartup runtimeId launchAttempt)

/-- The failure that the pipeline's callback records. -/
def coordinatorFailure : Option BootstrapFailure :=
  s.pipeline.bind reported

/-- The error that the startup ends with. -/
def error : StartupError :=
  s.coordinatorFailure.elim s.otherError .ofFailure

/-- The row of the rollback's own record. -/
def rollbackRow : Option WorkerEventRow :=
  if s.rolledBack ∧ ¬ s.recordRefused then
    builtRow (s.sink.launchFailedRecord s.failureAt.val s.error.canonicalReason s.error.details)
  else none

/-- The signal is emitted after the rollback's record, and the database takes its event. -/
def SignalJournaled : Prop :=
  s.rollbackRow.isSome ∧ s.error.isBootstrapFailure = false ∧ s.signals = true ∧
    s.signalRefused = false

instance : Decidable s.SignalJournaled :=
  inferInstanceAs (Decidable (_ ∧ _))

/-- The row of the signal's event. -/
def signalRow : Option WorkerEventRow :=
  if s.SignalJournaled then builtRow ((s.signalEvent s.error).bind (lifecycleRecord s.sink)) else none

/-- The rows that a startup inserts. -/
def rows : List WorkerEventRow :=
  (s.pipeline.bind endRow).toList ++ (s.rollbackRow.toList ++ s.signalRow.toList)

variable {s}

/-- The rollback's record is inserted when its row can be built, and raises otherwise. -/
theorem recordLaunchFailedEvent_spec (sink : RuntimeJournalSink) (failureAt : UtcDateTime)
    (reason : String) (details : PyDict) (db : WorkerTables) :
    match builtRow (sink.launchFailedRecord failureAt.val reason details) with
    | some row => ∃ db', sink.recordLaunchFailedEvent failureAt.val reason details db = .ok db' ∧
        db'.workerEvents = db.workerEvents.insertOrIgnore row
    | none => ∃ e, sink.recordLaunchFailedEvent failureAt.val reason details db = .error e := by
  rcases isOk_iff.1 (PipelineRun.isOk_wireTs failureAt) with ⟨ts, hts⟩
  have hline : sink.wireIsoTs failureAt.val = .ok ts :=
    exists_wireIsoTs sink (by rw [failureAt.property]; rfl) hts
  have hstub : sink.ensureStub failureAt.val db =
      .ok { db with workerInstances := sink.stubbed ts db.workerInstances } := by
    unfold RuntimeJournalSink.ensureStub
    rw [hline]
    rfl
  cases hrecord : sink.launchFailedRecord failureAt.val reason details with
  | error e =>
      refine ⟨.raised e, ?_⟩
      unfold RuntimeJournalSink.recordLaunchFailedEvent
      rw [hrecord]
      rfl
  | ok record =>
      have hruntime : record.runtimeId = sink.runtimeId := by
        simp only [RuntimeJournalSink.launchFailedRecord, bind_eq_ok] at hrecord
        rcases hrecord with ⟨_, -, _, -, heq⟩
        obtain rfl := Except.ok.inj heq
        rfl
      cases hrow : rowOf record with
      | error e =>
          have hnone : builtRow (.ok record) = none := by
            simp [builtRow, Except.bind, hrow, Except.toOption]
          rw [hnone]
          refine ⟨.raised e, ?_⟩
          unfold RuntimeJournalSink.recordLaunchFailedEvent
          simp only [hrecord, Except.mapError, bind, Except.bind, hstub, WorkerTables.appendEvent,
            hrow]
      | ok row =>
          have hsome : builtRow (.ok record) = some row := builtRow_eq_some.2 ⟨record, rfl, hrow⟩
          have hknown : (sink.stubbed ts db.workerInstances).contains row.runtimeId := by
            rw [(rowOf_eq_ok hrow).2, hruntime]
            exact sink.contains_stubbed ts db.workerInstances
          rcases WorkerTables.exists_appendEvent
            { db with workerInstances := sink.stubbed ts db.workerInstances } hrow hknown with
            ⟨stored, happend⟩
          rw [hsome]
          refine ⟨{ db with
            workerInstances := sink.stubbed ts db.workerInstances
            workerEvents := db.workerEvents.insertOrIgnore row }, ?_, rfl⟩
          unfold RuntimeJournalSink.recordLaunchFailedEvent
          simp only [hrecord, Except.mapError, bind, Except.bind, hstub, happend]
          rfl

/-- The signal's event is inserted when its row can be built. -/
theorem workerEvents_recordSignal (s : FailingStartup runtimeId launchAttempt)
    (error : StartupError) (db : WorkerTables) :
    (s.recordSignal error db).workerEvents = insertBuilt db
      (if s.signalRefused = false then
        builtRow ((s.signalEvent error).bind (lifecycleRecord s.sink)) else none) := by
  unfold recordSignal
  cases hevent : s.signalEvent error with
  | error e => cases s.signalRefused <;> rfl
  | ok event =>
      cases hrefused : s.signalRefused with
      | true => rfl
      | false =>
          simp only [Bool.false_eq_true, if_false, if_true, Except.bind]
          cases hwritable : writable s.sink event with
          | false =>
              have hnone : builtRow (lifecycleRecord s.sink event) = none := by
                unfold writable at hwritable
                unfold builtRow
                cases hbound : (lifecycleRecord s.sink event).bind rowOf with
                | ok row => simp [hbound] at hwritable
                | error e => rfl
              rw [RuntimeJournalSink.committed_of_not_writable hwritable, hnone]
              rfl
          | true =>
              rcases RuntimeJournalSink.committed_of_writable hwritable db with
                ⟨record, row, occurredAt, observedAt, hrecord, hrow, hrecorded⟩
              have hsome : builtRow (lifecycleRecord s.sink event) = some row :=
                builtRow_eq_some.2 ⟨record, hrecord, hrow.built⟩
              rw [hrecorded.workerEvents, hsome]
              rfl

theorem signalRow_eq_none (s : FailingStartup runtimeId launchAttempt)
    (h : s.rollbackRow = none) : s.signalRow = none := by
  refine if_neg fun hjournaled => ?_
  have hsome := hjournaled.1
  rw [h] at hsome
  cases hsome

/-- The rollback inserts its own row and that of the signal. -/
theorem workerEvents_handle (s : FailingStartup runtimeId launchAttempt) (db : WorkerTables) :
    (s.handle s.error db).workerEvents =
      db.workerEvents.insertAll (s.rollbackRow.toList ++ s.signalRow.toList) := by
  by_cases hreached : s.rolledBack = true ∧ ¬ s.recordRefused = true
  · have hrow : s.rollbackRow = builtRow (s.sink.launchFailedRecord s.failureAt.val
        s.error.canonicalReason s.error.details) := if_pos hreached
    have hspec := recordLaunchFailedEvent_spec s.sink s.failureAt s.error.canonicalReason
      s.error.details db
    rw [handle, if_pos hreached.1, rollback, if_neg hreached.2]
    rw [← hrow] at hspec
    cases hrollback : s.rollbackRow with
    | none =>
        rw [hrollback] at hspec
        rcases hspec with ⟨e, herror⟩
        have hsignal : s.signalRow = none := s.signalRow_eq_none hrollback
        rw [herror, hsignal]
        rfl
    | some row =>
        rw [hrollback] at hspec
        rcases hspec with ⟨db', hok, hinserted⟩
        rw [hok]
        dsimp only
        by_cases hsilent : s.error.isBootstrapFailure = true ∨ ¬ s.signals = true
        · have hsignal : s.signalRow = none := by
            refine if_neg fun h => ?_
            rcases hsilent with hfailure | hsignals
            · rw [h.2.1] at hfailure
              cases hfailure
            · exact hsignals h.2.2.1
          rw [if_pos hsilent, hinserted, hsignal]
          rfl
        · rw [if_neg hsilent, workerEvents_recordSignal, insertBuilt, hinserted,
            KeyedTable.insertAll_append]
          have hsignal : s.signalRow = if s.signalRefused = false then
              builtRow ((s.signalEvent s.error).bind (lifecycleRecord s.sink)) else none := by
            rw [not_or, not_not] at hsilent
            refine if_congr ?_ rfl rfl
            simp [SignalJournaled, hrollback, hsilent.1, hsilent.2]
          rw [hsignal]
          rfl
  · have hrollback : s.rollbackRow = none := if_neg hreached
    have hsignal : s.signalRow = none := s.signalRow_eq_none hrollback
    rw [hrollback, hsignal, handle]
    by_cases hrolled : s.rolledBack = true
    · have hrefused : s.recordRefused = true := by
        by_contra hnot
        exact hreached ⟨hrolled, hnot⟩
      rw [if_pos hrolled, rollback, if_pos hrefused]
      rfl
    · rw [if_neg hrolled]
      rfl

/-- A startup inserts its rows, one after the other. -/
theorem workerEvents_run (s : FailingStartup runtimeId launchAttempt) (db : WorkerTables) :
    (s.run db).workerEvents = db.workerEvents.insertAll s.rows := by
  have hafter : s.run db = s.handle s.error ((s.pipeline.elim db fun r => (r.run db).2)) ∧
      (s.pipeline.elim db fun r => (r.run db).2).workerEvents =
        db.workerEvents.insertAll (s.pipeline.bind endRow).toList := by
    unfold run error coordinatorFailure
    cases hpipeline : s.pipeline with
    | none => exact ⟨rfl, rfl⟩
    | some r =>
        rcases run_spec r db with ⟨hresult, hevents⟩
        refine ⟨?_, hevents⟩
        rw [Option.bind_some, Option.elim_some]
        dsimp only
        split
        · rename_i failure db' hrun
          have hreturned := (hresult (.failure failure)).1 (by rw [hrun])
          rw [reported, hreturned, hrun]
          rfl
        · rename_i r' db' hother hrun
          rw [hrun] at hresult ⊢
          have hnone : reported r = none := by
            unfold reported
            split
            · rename_i failure hreturned
              have hok := (hresult (.failure failure)).2 hreturned
              dsimp only at hok
              exact absurd hok (hother failure)
            · rfl
          rw [hnone]
          rfl
  rw [hafter.1, workerEvents_handle, hafter.2, rows,
    KeyedTable.insertAll_append _ (s.pipeline.bind endRow).toList]

end FailingStartup

/-- The event table after failing startups: their rows, inserted one after the other. -/
theorem workerEvents_after {runtimeId : String} {launchAttempt : Int}
    (startups : List (FailingStartup runtimeId launchAttempt)) :
    (tablesAfterStartups startups).workerEvents =
      KeyedTable.empty.insertAll (startups.flatMap FailingStartup.rows) := by
  have hfrom : ∀ db : WorkerTables, (startups.foldl (fun db s => s.run db) db).workerEvents =
      db.workerEvents.insertAll (startups.flatMap FailingStartup.rows) := by
    induction startups with
    | nil => exact fun db => rfl
    | cons s startups ih =>
        intro db
        rw [List.foldl_cons, ih, s.workerEvents_run, List.flatMap_cons,
          KeyedTable.insertAll_append]
  exact hfrom .migrated

/-! ## The ids of the rows -/

/-- What a row takes over from its record. -/
theorem rowOf_columns {record : WorkerEventRecord} {row : WorkerEventRow}
    (h : rowOf record = .ok row) : row.eventFamily = record.eventFamily ∧
      row.launchAttempt = record.launchAttempt := by
  simp only [rowOf, bind_eq_ok] at h
  rcases h with ⟨_, -, _, -, _, -, hrow⟩
  obtain rfl := Except.ok.inj hrow
  exact ⟨rfl, rfl⟩

/-- The id of the event of a callback. -/
def callbackId (runtimeId : String) (launchAttempt : Int) (eventFamily : String) : String :=
  runtimeId ++ ":" ++ toString launchAttempt ++ ":" ++ eventFamily

/-- The id of the signal's event. -/
def signalId (runtimeId : String) (launchAttempt : Int) : String :=
  strip (eventId runtimeId launchAttempt "runtime.launch_failed" "bootstrap_failed")

/-- The text ends in a colon and hexadecimal digits. -/
def EndsInDigest (text : String) : Prop :=
  ∃ xs digest, text.toList = xs ++ ':' :: digest ∧ ∀ c ∈ digest, c ∈ hexDigits

/-- The id of a callback's event ends in its family, which is no digest. -/
theorem not_endsInDigest_callbackId (runtimeId : String) (launchAttempt : Int)
    {eventFamily : String} (hcolon : ':' ∉ eventFamily.toList) (hdot : '.' ∈ eventFamily.toList) :
    ¬ EndsInDigest (callbackId runtimeId launchAttempt eventFamily) := by
  rintro ⟨xs, digest, htext, hhex⟩
  have hdigest : ':' ∉ digest := by
    intro hmem
    have hcolon := hhex ':' hmem
    revert hcolon
    decide
  have hsplit : (callbackId runtimeId launchAttempt eventFamily).toList =
      (runtimeId ++ ":" ++ toString launchAttempt).toList ++ ':' :: eventFamily.toList := by
    simp [callbackId]
  rw [hsplit] at htext
  rcases append_colon_inj hcolon hdigest htext with ⟨-, hfamily⟩
  have hmem := hhex '.' (hfamily ▸ hdot)
  revert hmem
  decide

theorem callbackId_ne (runtimeId : String) (launchAttempt : Int) :
    callbackId runtimeId launchAttempt "runtime.launch_failed" ≠
      callbackId runtimeId launchAttempt "runtime.launch_succeeded" := by
  intro h
  have hlist := congrArg String.toList h
  simp [callbackId] at hlist

theorem endsInDigest_launchFailedId (sink : RuntimeJournalSink) (reason occurredAt : String) :
    EndsInDigest (sink.launchFailedId reason occurredAt) := by
  refine ⟨(sink.identityText ++ ":runtime.launch_failed").toList,
    (eventIdDigest (sink.launchFailedText reason occurredAt)).toList, ?_,
    fun _ hc => hex_of_mem_digest hc⟩
  simp [RuntimeJournalSink.launchFailedId]

theorem endsInDigest_signalId {runtimeId : String} (h : strip runtimeId ≠ "") (launchAttempt : Int) :
    EndsInDigest (signalId runtimeId launchAttempt) :=
  ⟨_, _, toList_strip_eventId h launchAttempt _ _, fun _ hc => hex_of_mem_digest hc⟩

/-- A time in UTC is written as it is. -/
theorem wireIso_utc (sink : RuntimeJournalSink) (utc : UtcDateTime) :
    wireIso sink utc.val = .ok (wireText utc.val) := by
  have hutc := astimezoneUtc_utc utc
  unfold PyDateTime.astimezoneUtc at hutc
  rw [utc.property, Option.getD_some] at hutc
  unfold wireIso astimezone
  rw [utc.property, Option.getD_some, hutc]
  rfl

/-- The event of the signal of a gateway. -/
theorem lifecycleEvent_bootstrapFailed {g : ManagerGateway} {now : UtcDateTime} {payload : PyDict}
    {event : LifecycleEventEnvelope}
    (h : g.lifecycleEvent now "bootstrap_failed" payload = .ok event) :
    event.eventName.val = "runtime.launch_failed" ∧
      event.eventId.val = signalId g.runtimeIdentity.runtimeId g.runtimeIdentity.launchAttempt ∧
        strip g.runtimeIdentity.runtimeId ≠ "" := by
  simp only [ManagerGateway.lifecycleEvent, bind_eq_ok] at h
  rcases h with ⟨_, -, hcreate⟩
  rcases created_of_create hcreate with ⟨t, n, key, hcreated⟩
  have ht : t = .bootstrapFailed := by
    have hname : t.name = SignalType.bootstrapFailed.name := hcreated.signalType
    have hof := SignalType.ofName?_name t
    rw [hname, SignalType.ofName?_name] at hof
    exact (Option.some.inj hof).symm
  subst ht
  have hattempt := hcreated.attempt
  rw [ManagerGateway.identityAttempt_identityPayload] at hattempt
  obtain rfl := Except.ok.inj hattempt
  have hkey := hcreated.identity
  rw [identityKey, if_pos rfl] at hkey
  obtain rfl := Except.ok.inj hkey
  have hid := hcreated.eventId
  have hruntime := hcreated.runtimeId
  rw [ManagerGateway.identityText_runtimeId] at hid hruntime
  refine ⟨hcreated.eventName, hid, ?_⟩
  rw [← hruntime]
  exact event.runtimeId.property.2

namespace FailingStartup

variable {runtimeId : String} {launchAttempt : Int} (s : FailingStartup runtimeId launchAttempt)

/-- The id of the rollback's record. -/
def rollbackId : String :=
  s.sink.launchFailedId s.error.canonicalReason (wireText s.failureAt.val)

/-- The ids of the failures that a startup inserts. -/
def failureIds : List String :=
  (s.coordinatorFailure.map fun _ =>
    callbackId runtimeId launchAttempt "runtime.launch_failed").toList ++
      ((s.rollbackRow.map fun _ => s.rollbackId).toList ++
        (s.signalRow.map fun _ => signalId runtimeId launchAttempt).toList)

variable {s} {row : WorkerEventRow}

theorem rollbackRow_spec (h : s.rollbackRow = some row) :
    isLaunchFailure runtimeId launchAttempt row = true ∧ row.eventId = s.rollbackId := by
  unfold rollbackRow at h
  split at h
  · rcases builtRow_eq_some.1 h with ⟨record, hrecord, hrow⟩
    simp only [RuntimeJournalSink.launchFailedRecord, wireIso_utc, bind_eq_ok] at hrecord
    rcases hrecord with ⟨text, htext, safe, -, heq⟩
    obtain rfl := Except.ok.inj htext
    obtain rfl := Except.ok.inj heq
    rcases rowOf_columns hrow with ⟨hfamily, hattempt⟩
    rcases rowOf_eq_ok hrow with ⟨hid, hruntime⟩
    refine ⟨?_, hid⟩
    simp [isLaunchFailure, hfamily, hattempt, hruntime, s.sink_launch]
  · cases h

theorem signalRow_spec (h : s.signalRow = some row) :
    isLaunchFailure runtimeId launchAttempt row = true ∧
      row.eventId = signalId runtimeId launchAttempt ∧ strip runtimeId ≠ "" := by
  unfold signalRow at h
  split at h
  · rcases builtRow_eq_some.1 h with ⟨record, hrecord, hrow⟩
    cases hevent : s.signalEvent s.error with
    | error e =>
        rw [hevent] at hrecord
        cases hrecord
    | ok event =>
        rw [hevent] at hrecord
        have hrecord : lifecycleRecord s.sink event = .ok record := hrecord
        simp only [signalEvent, bind_eq_ok] at hevent
        rcases hevent with ⟨payload, -, hevent⟩
        rcases lifecycleEvent_bootstrapFailed hevent with ⟨hname, hid, hblank⟩
        rw [s.gateway_launch.1] at hid hblank
        rw [s.gateway_launch.2] at hid
        rcases rowOf_columns hrow with ⟨hfamily, hattempt⟩
        rcases rowOf_eq_ok hrow with ⟨hrowId, hruntime⟩
        simp only [lifecycleRecord, bind_eq_ok] at hrecord
        rcases hrecord with ⟨_, -, heq⟩
        obtain rfl := Except.ok.inj heq
        refine ⟨?_, hrowId.trans hid, hblank⟩
        simp [isLaunchFailure, hfamily, hattempt, hruntime, s.sink_launch, hname]
  · cases h

/-- The row with which the pipeline ends: a failure, or a success, which is no failure. -/
theorem endRow_spec {r : PipelineRun} (h : endRow r = some row)
    (hlaunch : r.launchSpec.runtimeId = runtimeId ∧ r.launchSpec.launchAttempt = launchAttempt) :
    ((reported r).isSome ∧ isLaunchFailure runtimeId launchAttempt row = true ∧
      row.eventId = callbackId runtimeId launchAttempt "runtime.launch_failed") ∨
    (reported r = none ∧ isLaunchFailure runtimeId launchAttempt row = false ∧
      row.eventId = callbackId runtimeId launchAttempt "runtime.launch_succeeded") := by
  unfold endRow at h
  unfold reported
  cases hreturned : returned r with
  | none =>
      rw [hreturned] at h
      cases h
  | some result =>
      rw [hreturned, Option.bind_some] at h
      cases result with
      | success payload =>
          rcases builtRow_eq_some.1 h with ⟨record, hrecord, hrow⟩
          obtain rfl := Except.ok.inj hrecord
          rcases rowOf_columns hrow with ⟨hfamily, hattempt⟩
          rcases rowOf_eq_ok hrow with ⟨hid, hruntime⟩
          refine .inr ⟨rfl, ?_, ?_⟩
          · simp [isLaunchFailure, hfamily, BootstrapPersistenceCoordinator.endEvent]
          · rw [hid, ← hlaunch.1, ← hlaunch.2]
            rfl
      | failure failure =>
          rcases builtRow_eq_some.1 h with ⟨record, hrecord, hrow⟩
          obtain rfl := Except.ok.inj hrecord
          rcases rowOf_columns hrow with ⟨hfamily, hattempt⟩
          rcases rowOf_eq_ok hrow with ⟨hid, hruntime⟩
          refine .inl ⟨rfl, ?_, ?_⟩
          · simp [isLaunchFailure, hfamily, hattempt, hruntime,
              BootstrapPersistenceCoordinator.endEvent, hlaunch]
          · rw [hid, ← hlaunch.1, ← hlaunch.2]
            rfl

/-- A failure that the pipeline returns has its row. -/
theorem exists_endRow {r : PipelineRun} (h : (reported r).isSome) : ∃ row, endRow r = some row := by
  unfold reported at h
  unfold endRow
  cases hreturned : returned r with
  | none =>
      rw [hreturned] at h
      cases h
  | some result =>
      cases result with
      | success payload =>
          rw [hreturned] at h
          cases h
      | failure failure =>
          have hwritable := (Option.filter_eq_some_iff.1 hreturned).2
          simp only [PipelineRun.endCallback, Callback.writable, Bool.and_eq_true, isOk_iff]
            at hwritable
          rcases hwritable with ⟨-, ⟨⟨⟨⟨ts, hts⟩, -⟩, -⟩, -⟩, ⟨text, htext⟩⟩
          rcases exists_row (BootstrapPersistenceCoordinator.endEvent r.launchSpec
            "runtime.launch_failed" "FAILED" (some failure.reasonCode) r.observedAt.val
              r.observedAt.val (BootstrapPersistenceCoordinator.failurePayload failure))
                hts hts htext with ⟨row, hrow, -⟩
          exact ⟨row, builtRow_eq_some.2 ⟨_, rfl, hrow⟩⟩

theorem mem_rows : row ∈ s.rows ↔ (∃ r ∈ s.pipeline, endRow r = some row) ∨
    s.rollbackRow = some row ∨ s.signalRow = some row := by
  simp only [rows, List.mem_append, Option.mem_toList, Option.bind_eq_some_iff, Option.mem_def]

theorem mem_failureIds {id : String} : id ∈ s.failureIds ↔
    (s.coordinatorFailure.isSome ∧
      id = callbackId runtimeId launchAttempt "runtime.launch_failed") ∨
    (s.rollbackRow.isSome ∧ id = s.rollbackId) ∨
      (s.signalRow.isSome ∧ id = signalId runtimeId launchAttempt) := by
  have hmap : ∀ {α : Type} (o : Option α) (v : String),
      id ∈ (o.map fun _ => v).toList ↔ o.isSome ∧ id = v := by
    intro α o v
    cases o <;> simp
  rw [failureIds, List.mem_append, List.mem_append, hmap, hmap, hmap]

/-- A row of a startup is a failure whose id is among those of the startup, or the pipeline's
success. -/
theorem row_cases (h : row ∈ s.rows) :
    (isLaunchFailure runtimeId launchAttempt row = true ∧ row.eventId ∈ s.failureIds) ∨
      (isLaunchFailure runtimeId launchAttempt row = false ∧
        row.eventId = callbackId runtimeId launchAttempt "runtime.launch_succeeded") := by
  rcases mem_rows.1 h with ⟨r, hr, hrow⟩ | hrow | hrow
  · rcases endRow_spec hrow (s.pipeline_launch r hr) with ⟨hreported, hfailure, hid⟩ | ⟨-, hsuccess⟩
    · refine .inl ⟨hfailure, mem_failureIds.2 (.inl ⟨?_, hid⟩)⟩
      rw [coordinatorFailure, hr, Option.bind_some]
      exact hreported
    · exact .inr hsuccess
  · rcases rollbackRow_spec hrow with ⟨hfailure, hid⟩
    exact .inl ⟨hfailure, mem_failureIds.2 (.inr (.inl ⟨by rw [hrow]; rfl, hid⟩))⟩
  · rcases signalRow_spec hrow with ⟨hfailure, hid, -⟩
    exact .inl ⟨hfailure, mem_failureIds.2 (.inr (.inr ⟨by rw [hrow]; rfl, hid⟩))⟩

/-- Every id of a startup is that of a failure that it inserts. -/
theorem exists_row_of_mem_failureIds {id : String} (h : id ∈ s.failureIds) :
    ∃ row ∈ s.rows, isLaunchFailure runtimeId launchAttempt row = true ∧ row.eventId = id := by
  rcases mem_failureIds.1 h with ⟨hsome, rfl⟩ | ⟨hsome, rfl⟩ | ⟨hsome, rfl⟩
  · cases hr : s.pipeline with
    | none =>
        rw [coordinatorFailure, hr] at hsome
        cases hsome
    | some r =>
        rw [coordinatorFailure, hr, Option.bind_some] at hsome
        rcases exists_endRow hsome with ⟨row, hrow⟩
        refine ⟨row, mem_rows.2 (.inl ⟨r, hr, hrow⟩), ?_⟩
        rcases endRow_spec hrow (s.pipeline_launch r hr) with ⟨-, hfailure⟩ | ⟨hnone, -⟩
        · exact hfailure
        · rw [hnone] at hsome
          cases hsome
  · rcases Option.isSome_iff_exists.1 hsome with ⟨row, hrow⟩
    exact ⟨row, mem_rows.2 (.inr (.inl hrow)), rollbackRow_spec hrow⟩
  · rcases Option.isSome_iff_exists.1 hsome with ⟨row, hrow⟩
    rcases signalRow_spec hrow with ⟨hfailure, hid, -⟩
    exact ⟨row, mem_rows.2 (.inr (.inr hrow)), hfailure, hid⟩

/-- The id of the pipeline's failure is made by no other writer, nor is that of its success. -/
theorem endsInDigest_of_mem {id : String} (h : id ∈ s.failureIds)
    (hne : id ≠ callbackId runtimeId launchAttempt "runtime.launch_failed") : EndsInDigest id := by
  rcases mem_failureIds.1 h with ⟨-, heq⟩ | ⟨-, rfl⟩ | ⟨hsome, rfl⟩
  · exact absurd heq hne
  · exact endsInDigest_launchFailedId _ _ _
  · rcases Option.isSome_iff_exists.1 hsome with ⟨row, hrow⟩
    exact endsInDigest_signalId (signalRow_spec hrow).2.2 _

theorem isSome_rollbackRow_of_signalRow (h : s.signalRow.isSome) : s.rollbackRow.isSome := by
  cases hrollback : s.rollbackRow with
  | some row => rfl
  | none =>
      rw [s.signalRow_eq_none hrollback] at h
      cases h

end FailingStartup

/-! ## When one failure is stored -/

variable {runtimeId : String} {launchAttempt : Int}

/-- No rollback writes its record; or no callback of the pipeline does, and all records of the
rollbacks and their signals have one id. -/
def OneFailureId (startups : List (FailingStartup runtimeId launchAttempt)) : Prop :=
  (∀ s ∈ startups, s.rollbackRow = none) ∨
    (∀ s ∈ startups, s.coordinatorFailure = none) ∧
      ∀ s ∈ startups, ∀ s' ∈ startups, s.rollbackRow.isSome → s'.rollbackRow.isSome →
        s.rollbackId = s'.rollbackId ∧
          (s'.signalRow.isSome → signalId runtimeId launchAttempt = s.rollbackId)

/-- The failures of the startups have one id exactly then. -/
theorem failureIds_agree_iff (startups : List (FailingStartup runtimeId launchAttempt)) :
    (∀ s ∈ startups, ∀ id ∈ s.failureIds, ∀ s' ∈ startups, ∀ id' ∈ s'.failureIds, id = id') ↔
      OneFailureId startups := by
  have hcallback : ¬ EndsInDigest (callbackId runtimeId launchAttempt "runtime.launch_failed") :=
    not_endsInDigest_callbackId runtimeId launchAttempt (by decide) (by decide)
  constructor
  · intro hagree
    by_cases hnone : ∀ s ∈ startups, s.rollbackRow = none
    · exact .inl hnone
    · push Not at hnone
      rcases hnone with ⟨s₀, hs₀, hrow₀⟩
      have hmem₀ : s₀.rollbackId ∈ s₀.failureIds :=
        FailingStartup.mem_failureIds.2 (.inr (.inl ⟨Option.isSome_iff_ne_none.2 hrow₀, rfl⟩))
      refine .inr ⟨fun s hs => ?_, fun s hs s' hs' hrow hrow' => ⟨?_, fun hsignal' => ?_⟩⟩
      · -- a failure of the pipeline would have another id than the record of that rollback
        by_contra hsome
        have hmem : callbackId runtimeId launchAttempt "runtime.launch_failed" ∈ s.failureIds :=
          FailingStartup.mem_failureIds.2 (.inl ⟨Option.isSome_iff_ne_none.2 hsome, rfl⟩)
        rw [hagree s hs _ hmem s₀ hs₀ _ hmem₀] at hcallback
        exact hcallback (endsInDigest_launchFailedId _ _ _)
      · exact hagree s hs _ (FailingStartup.mem_failureIds.2 (.inr (.inl ⟨hrow, rfl⟩))) s' hs' _
          (FailingStartup.mem_failureIds.2 (.inr (.inl ⟨hrow', rfl⟩)))
      · exact hagree s' hs' _ (FailingStartup.mem_failureIds.2 (.inr (.inr ⟨hsignal', rfl⟩))) s hs _
          (FailingStartup.mem_failureIds.2 (.inr (.inl ⟨hrow, rfl⟩)))
  · rintro (hnone | ⟨hcoordinator, hsame⟩)
    · have hid : ∀ s ∈ startups, ∀ id ∈ s.failureIds,
          id = callbackId runtimeId launchAttempt "runtime.launch_failed" := by
        intro s hs id hid
        rcases FailingStartup.mem_failureIds.1 hid with ⟨-, heq⟩ | ⟨hrow, -⟩ | ⟨hsignal, -⟩
        · exact heq
        · rw [hnone s hs] at hrow
          cases hrow
        · have hrow := FailingStartup.isSome_rollbackRow_of_signalRow hsignal
          rw [hnone s hs] at hrow
          cases hrow
      intro s hs id hmem s' hs' id' hmem'
      rw [hid s hs id hmem, hid s' hs' id' hmem']
    · -- every id is that of a rollback's record
      have hid : ∀ s ∈ startups, ∀ id ∈ s.failureIds, s.rollbackRow.isSome ∧ id = s.rollbackId := by
        intro s hs id hid
        rcases FailingStartup.mem_failureIds.1 hid with ⟨hsome, -⟩ | hrow | ⟨hsignal, heq⟩
        · rw [hcoordinator s hs] at hsome
          cases hsome
        · exact hrow
        · have hrow := FailingStartup.isSome_rollbackRow_of_signalRow hsignal
          exact ⟨hrow, heq.trans ((hsame s hs s hs hrow hrow).2 hsignal)⟩
      intro s hs id hmem s' hs' id' hmem'
      rcases hid s hs id hmem with ⟨hrow, rfl⟩
      rcases hid s' hs' id' hmem' with ⟨hrow', rfl⟩
      exact (hsame s hs s' hs' hrow hrow').1

/-- After failing startups of one launch attempt at most one failure is stored exactly when no
rollback writes its record, or no callback of the pipeline does and the other writers agree on one
id. -/
theorem launchFailure_once_iff (startups : List (FailingStartup runtimeId launchAttempt)) :
    LaunchFailureOnce startups ↔ OneFailureId startups := by
  have hsucceeded : ¬ EndsInDigest (callbackId runtimeId launchAttempt "runtime.launch_succeeded") :=
    not_endsInDigest_callbackId runtimeId launchAttempt (by decide) (by decide)
  have hkeys : ∀ a ∈ startups.flatMap FailingStartup.rows,
      ∀ b ∈ startups.flatMap FailingStartup.rows, a.eventId = b.eventId →
        isLaunchFailure runtimeId launchAttempt a = isLaunchFailure runtimeId launchAttempt b := by
    have hne : ∀ (s : FailingStartup runtimeId launchAttempt), ∀ id ∈ s.failureIds,
        id ≠ callbackId runtimeId launchAttempt "runtime.launch_succeeded" := by
      rintro s id hid rfl
      exact hsucceeded (FailingStartup.endsInDigest_of_mem hid (callbackId_ne _ _).symm)
    intro a ha b hb hid
    rcases List.mem_flatMap.1 ha with ⟨s, -, ha⟩
    rcases List.mem_flatMap.1 hb with ⟨s', -, hb⟩
    rcases FailingStartup.row_cases ha with ⟨hpa, hida⟩ | ⟨hpa, hida⟩ <;>
      rcases FailingStartup.row_cases hb with ⟨hpb, hidb⟩ | ⟨hpb, hidb⟩
    · rw [hpa, hpb]
    · exact absurd (hid.trans hidb) (hne s _ hida)
    · exact absurd (hid.symm.trans hida) (hne s' _ hidb)
    · rw [hpa, hpb]
  rw [LaunchFailureOnce, workerEvents_after,
    KeyedTable.length_filter_insertAll_le_one_iff hkeys, ← failureIds_agree_iff]
  constructor
  · intro hrows s hs id hid s' hs' id' hid'
    rcases FailingStartup.exists_row_of_mem_failureIds hid with ⟨row, hrow, hp, rfl⟩
    rcases FailingStartup.exists_row_of_mem_failureIds hid' with ⟨row', hrow', hp', rfl⟩
    exact hrows row (List.mem_flatMap.2 ⟨s, hs, hrow⟩) row' (List.mem_flatMap.2 ⟨s', hs', hrow'⟩)
      hp hp'
  · intro hids a ha b hb hpa hpb
    rcases List.mem_flatMap.1 ha with ⟨s, hs, ha⟩
    rcases List.mem_flatMap.1 hb with ⟨s', hs', hb⟩
    rcases FailingStartup.row_cases ha with ⟨-, hida⟩ | ⟨hfalse, -⟩
    · rcases FailingStartup.row_cases hb with ⟨-, hidb⟩ | ⟨hfalse, -⟩
      · exact hids s hs _ hida s' hs' _ hidb
      · rw [hfalse] at hpb
        cases hpb
    · rw [hfalse] at hpa
      cases hpa

/-! ## A launch that fails once -/

/-- The run of a pipeline that does not find its artifact. -/
def missingArtifact : PipelineRun where
  launchSpec := paperSpec none
  startedAt := clock
  observedAt := clock
  stages := .error (.failure
    ⟨.artifactFetch, "ARTIFACT_NOT_FOUND", false, [], "Artifact could not be located.", by decide⟩)
  startRefused := false
  endRefused := false

/-- The first launch of {lit}`rt-1`, which does not find its artifact and is rolled back. -/
def missingArtifactStartup : FailingStartup "rt-1" 1 where
  pipeline := some missingArtifact
  otherError := ⟨.other false, none, none⟩
  sink := ⟨"rt-1", 1, fun _ => 0⟩
  gateway := ManagerGateway.firstLaunch
  failureAt := clock
  now := clock
  rolledBack := true
  recordRefused := false
  signals := true
  signalRefused := false
  pipeline_launch := by simp [missingArtifact, paperSpec]
  sink_launch := ⟨rfl, rfl⟩
  gateway_launch := ⟨rfl, rfl⟩

/-- The callback and the rollback each store the failure. -/
theorem launchFailure_stored_twice :
    ¬ ∀ (runtimeId : String) (launchAttempt : Int)
      (startups : List (FailingStartup runtimeId launchAttempt)), LaunchFailureOnce startups := by
  intro honce
  have htwice : ((tablesAfterStartups [missingArtifactStartup]).workerEvents.rows.filter
      (isLaunchFailure "rt-1" 1)).length = 2 := by decide +kernel
  have hone := honce "rt-1" 1 [missingArtifactStartup]
  rw [LaunchFailureOnce, htwice] at hone
  omega

end Application
end StrategyWorker
