import StrategyWorker.Bootstrap.ArtifactVerifier
import StrategyWorker.Bootstrap.BootstrapPersistence
import StrategyWorker.Bootstrap.SdkContractValidator

/-!
# The bootstrap pipeline

{lit}`BootstrapPipeline.run` opens the launch attempt, runs the four stages, and
closes the attempt with a failure or with a success.  Only a failure that a
stage reports is caught; any other exception leaves the pipeline and the attempt
open.

Main results:

- Theorem {lit}`closes_iff`: the attempt is closed when the stages return or
  report a failure that can be recorded.
- Theorem {lit}`run_closes_iff`: the run returns with a closed attempt exactly
  when every exception that a stage met was one that the clauses around it
  convert.
- Theorem {lit}`truncated_zip_stays_open`: a zip that cannot be opened leaves
  the attempt open.
-/

namespace StrategyWorker
namespace Bootstrap

open Library Persistence Events
open PyText Logged
open BootstrapPersistenceCoordinator

/-! ## The end of the stages in the tables -/

/-- What the stages return, as far as it is recorded. -/
structure BootstrapPipelineSuccess where
  entrypoint : EntrypointLoadResult
  sdkValidation : SdkContractValidationResult

/-- What {lit}`on_bootstrap_success` reads of it. -/
def BootstrapPipelineSuccess.recorded (success : BootstrapPipelineSuccess) : BootstrapSuccess :=
  ⟨success.entrypoint.entrypointSpec, success.sdkValidation.details⟩

/-- {lit}`BootstrapPipelineResult`. -/
inductive BootstrapPipelineResult where
  | success (payload : BootstrapPipelineSuccess)
  | failure (failure : BootstrapFailure)

/-- The state of an attempt that ended so. -/
def BootstrapPipelineResult.attemptState : BootstrapPipelineResult → String
  | success _ => "SUCCEEDED"
  | failure _ => "FAILED"

/-- What leaves the pipeline. -/
inductive PipelineError where
  /-- A transaction could not be written. -/
  | store (e : StoreError)
  /-- The database refused a transaction, as when it is locked. -/
  | operationalError
  /-- A stage raised something else than a failure. -/
  | stage (x : Raised)

/-- A run of the pipeline: its launch, the clock at its start and at its end, how its stages end,
and whether the database refuses its first and its last transaction. -/
structure PipelineRun where
  launchSpec : LaunchSpec
  startedAt : UtcDateTime
  observedAt : UtcDateTime
  stages : Except Raised BootstrapPipelineSuccess
  startRefused : Bool
  endRefused : Bool

namespace PipelineRun

/-- A transaction of the pipeline: what it has done is lost when it raises. -/
def transact (refused : Bool) (transaction : WorkerTables → Except StoreError WorkerTables)
    (db : WorkerTables) : Except PipelineError Unit × WorkerTables :=
  if refused then (.error .operationalError, db)
  else
    match transaction db with
    | .ok db' => (.ok (), db')
    | .error e => (.error (.store e), db)

/-- The last callback of a run. -/
def endCallback (r : PipelineRun) : BootstrapPipelineResult → Callback
  | .success payload => .success payload.recorded r.observedAt.val r.observedAt.val
  | .failure failure => .failure failure r.observedAt.val r.observedAt.val

/-- The last transaction, and the result that is returned after it. -/
def finish (r : PipelineRun) (result : BootstrapPipelineResult) (db : WorkerTables) :
    Except PipelineError BootstrapPipelineResult × WorkerTables :=
  match transact r.endRefused ((r.endCallback result).transaction r.launchSpec) db with
  | (.ok _, db') => (.ok result, db')
  | (.error e, db') => (.error e, db')

/-- The end of the run, by the end of its stages. -/
def afterStages (r : PipelineRun) (db : WorkerTables) :
    Except PipelineError BootstrapPipelineResult × WorkerTables :=
  match r.stages with
  | .ok payload => r.finish (.success payload) db
  | .error (.failure failure) => r.finish (.failure failure) db
  | .error x => (.error (.stage x), db)

/-- {lit}`run(launch_spec)`. -/
def run (r : PipelineRun) (db : WorkerTables) :
    Except PipelineError BootstrapPipelineResult × WorkerTables :=
  match transact r.startRefused (onBootstrapStart r.launchSpec r.startedAt.val) db with
  | (.error e, db) => (.error e, db)
  | (.ok _, db) => r.afterStages db

/-- The run returns, and the attempt that it opened is in the state that its result says. -/
def Closes (r : PipelineRun) (db : WorkerTables) : Prop :=
  ∃ result, (r.run db).1 = .ok result ∧
    attemptStateOf (r.run db).2 r.launchSpec.runtimeId r.launchSpec.launchAttempt =
      some result.attemptState

/-! ## Which runs close their attempt -/

theorem isOk_toJson_iff (value : PyDict) :
    (toJson value).isOk = true ↔ PyJson.foreign (.dict value) = [] := by
  have hencode := PyJson.exists_encode_iff ⟨true, fun _ => .error .typeError⟩ (.dict value)
  have hnone : (∀ w ∈ PyJson.foreign (.dict value), ∃ text : String,
      (Except.error .typeError : Except PyError String) = .ok text) ↔
        PyJson.foreign (.dict value) = [] := by
    rw [List.eq_nil_iff_forall_not_mem]
    simp
  rw [hnone] at hencode
  rw [← hencode, toJson]
  cases PyJson.encode ⟨true, fun _ => .error .typeError⟩ (.dict value) <;>
    simp [Except.mapError, Except.isOk, Except.toBool]

/-- The clock can be written. -/
theorem isOk_wireTs (utc : UtcDateTime) : (wireTs utc.val).isOk = true := by
  rcases utc with ⟨⟨wall, offset, hwall, hoffset⟩, hutc⟩
  obtain rfl : offset = some 0 := hutc
  simp [wireTs, requireUtc, utcOfWall, hwall, Except.map, Except.isOk, Except.toBool]

theorem writable_endCallback_success (r : PipelineRun) (payload : BootstrapPipelineSuccess) :
    (r.endCallback (.success payload)).writable = true := by
  have hdetails : PyJson.foreign (.dict (successDetails payload.recorded)) = [] := by
    have hforeign := payload.sdkValidation.foreign_details
    simp only [PyJson.foreign] at hforeign
    simp [successDetails, BootstrapPipelineSuccess.recorded, PyJson.foreign, PyJson.foreignFields,
      hforeign]
  simp [endCallback, Callback.writable, isOk_wireTs, isOk_toJson_iff, hdetails]

/-- A failure can be recorded when JSON can hold its details. -/
theorem writable_endCallback_failure_iff (r : PipelineRun) (failure : BootstrapFailure) :
    (r.endCallback (.failure failure)).writable = true ↔ failure.Recordable := by
  have hdetails : PyJson.foreign (.dict (failureDetails failure)) =
      PyJson.foreign (.dict failure.details) := by
    simp [failureDetails, PyJson.foreign, PyJson.foreignFields]
  have hpayload : PyJson.foreign (.dict (failurePayload failure)) =
      PyJson.foreign (.dict failure.details) := by
    simp [failurePayload, PyJson.foreign, PyJson.foreignFields]
  simp [endCallback, Callback.writable, isOk_wireTs, isOk_toJson_iff, hdetails, hpayload,
    BootstrapFailure.Recordable]

theorem endCallback_spec (r : PipelineRun) (result : BootstrapPipelineResult) :
    (r.endCallback result).isStart = false ∧
      (r.endCallback result).attemptState = result.attemptState := by
  cases result <;> exact ⟨rfl, rfl⟩

/-- The result is returned when its callback can be written, and raised over otherwise. -/
theorem finish_returns_iff {r : PipelineRun} {result : BootstrapPipelineResult} {db : WorkerTables}
    (hrefused : r.endRefused = false)
    (hopened : (attemptStateOf db r.launchSpec.runtimeId r.launchSpec.launchAttempt).isSome)
    (hknown : db.workerInstances.contains r.launchSpec.runtimeId) :
    (∃ result', (r.finish result db).1 = .ok result' ∧
      attemptStateOf (r.finish result db).2 r.launchSpec.runtimeId r.launchSpec.launchAttempt =
        some result'.attemptState) ↔ (r.endCallback result).writable = true := by
  rcases r.endCallback_spec result with ⟨hend, hstate⟩
  by_cases hwritable : (r.endCallback result).writable = true
  · rcases finish_commits hwritable hend hknown with ⟨db', hcommit, hcommits⟩
    have hattempt := hcommits.attempts r.launchSpec.launchAttempt
    rcases Option.isSome_iff_exists.1 hopened with ⟨state, hopened⟩
    rw [if_pos rfl, hend, if_neg (by decide), hopened, Option.map_some, hstate] at hattempt
    have hfinish : r.finish result db = (.ok result, db') := by
      simp [finish, transact, hrefused, hcommit]
    rw [hfinish]
    exact iff_of_true ⟨result, rfl, hattempt⟩ hwritable
  · refine iff_of_false ?_ hwritable
    rintro ⟨result', hreturns, -⟩
    cases hcommit : (r.endCallback result).transaction r.launchSpec db with
    | ok db' => exact hwritable (writable_of_ok hcommit)
    | error e => simp [finish, transact, hrefused, hcommit] at hreturns

/-- A run whose first transaction is taken knows the runtime and has the attempt open. -/
theorem exists_started (r : PipelineRun) (hstart : r.startRefused = false) (db : WorkerTables) :
    ∃ db₁, r.run db = r.afterStages db₁ ∧
      db₁.workerInstances.contains r.launchSpec.runtimeId ∧
        (attemptStateOf db₁ r.launchSpec.runtimeId r.launchSpec.launchAttempt).isSome ∧
          db₁.workerEvents = db.workerEvents := by
  have hwritable : (Callback.start r.startedAt.val).writable = true := isOk_wireTs r.startedAt
  obtain ⟨db₁, hcommit, hcommits⟩ : ∃ db₁,
      onBootstrapStart r.launchSpec r.startedAt.val db = .ok db₁ ∧
        Commits r.launchSpec (.start r.startedAt.val) db db₁ := start_commits hwritable db
  refine ⟨db₁, ?_, ?_, ?_, workerEvents_of_start hcommit⟩
  · simp only [run, transact, hstart, hcommit, Bool.false_eq_true, if_false]
  · rcases hcommits.row with ⟨row, hrow, -⟩
    exact KeyedTable.contains_iff.2 ⟨row, hrow⟩
  · rw [hcommits.attempts, if_pos rfl, Callback.isStart, if_pos rfl]
    rfl

/-- With a database that takes every transaction, the attempt is closed exactly when the stages
return or report a failure that can be recorded. -/
theorem closes_iff {r : PipelineRun} (hstart : r.startRefused = false)
    (hend : r.endRefused = false) (db : WorkerTables) :
    r.Closes db ↔ ∀ x, r.stages = .error x → x.Recordable := by
  rcases r.exists_started hstart db with ⟨db₁, hrun, hknown, hopened, -⟩
  unfold Closes
  rw [hrun]
  unfold afterStages
  cases hstages : r.stages with
  | ok payload =>
      refine iff_of_true ?_ (fun x hx => by cases hx)
      exact (finish_returns_iff hend hopened hknown).2 (r.writable_endCallback_success payload)
  | error x =>
      cases x with
      | failure failure =>
          rw [finish_returns_iff hend hopened hknown, r.writable_endCallback_failure_iff failure]
          simp [Raised.Recordable]
      | other c => simp [Raised.Recordable]

end PipelineRun

/-! ## The pipeline -/

/-- The pipeline with its parts; the verifier and the loader have no state. -/
structure BootstrapPipeline where
  fetcher : ArtifactFetcher
  sdkValidator : SdkContractValidator

namespace BootstrapPipeline

/-- The four stages of {lit}`run(launch_spec)`. -/
def stages (w : World) (p : BootstrapPipeline) (launchSpec : LaunchSpec) :
    Stage BootstrapPipelineSuccess := do
  let artifact ← p.fetcher.fetch w launchSpec
  ArtifactVerifier.verify w artifact
  let entrypoint ← EntrypointLoader.load w launchSpec artifact
  let sdkValidation ← p.sdkValidator.validate w entrypoint
  pure ⟨entrypoint, sdkValidation⟩

/-- The calls of the stages, with what each raised. -/
def calls (w : World) (p : BootstrapPipeline) (launchSpec : LaunchSpec) : List BootstrapCall :=
  (p.stages w launchSpec []).2

/-- The run of a launch in a world, with a database that takes every transaction. -/
def runIn (w : World) (p : BootstrapPipeline) (launchSpec : LaunchSpec)
    (startedAt observedAt : UtcDateTime) : PipelineRun where
  launchSpec := launchSpec
  startedAt := startedAt
  observedAt := observedAt
  stages := (p.stages w launchSpec []).1
  startRefused := false
  endRefused := false

theorem converts_stages (w : World) (p : BootstrapPipeline) (launchSpec : LaunchSpec) :
    ConvertsUnder none (p.stages w launchSpec) := by
  refine Converts.bind (ArtifactFetcher.converts_fetch w _ _) fun artifact => ?_
  refine Converts.bind (ArtifactVerifier.converts_verify w _) fun _ => ?_
  refine Converts.bind (EntrypointLoader.converts_load w _ _) fun entrypoint => ?_
  exact Converts.bind (SdkContractValidator.converts_validate w _ _) fun _ => Converts.pure _

/-- The pipeline returns with its attempt closed exactly when every call of its stages raised
nothing or what the clauses around it convert. -/
theorem run_closes_iff (w : World) (p : BootstrapPipeline) (launchSpec : LaunchSpec)
    (startedAt observedAt : UtcDateTime) (db : WorkerTables) :
    (p.runIn w launchSpec startedAt observedAt).Closes db ↔
      ∀ c ∈ p.calls w launchSpec, c.Sound := by
  rw [PipelineRun.closes_iff rfl rfl]
  rcases (p.converts_stages w launchSpec).cases_run with ⟨payload, hok, hsound⟩ | ⟨x, herror, hsound⟩
  · refine iff_of_true (fun x hx => ?_) hsound
    rw [runIn, hok] at hx
    cases hx
  · have hconverted : Converted none x ↔ x.Recordable := by simp [Converted]
    rw [calls, hsound, hconverted, runIn]
    dsimp only
    rw [herror]
    simp

/-! ## A zip that is none -/

/-- A first launch of an artifact that is named as a zip. -/
def zipLaunch : LaunchSpec :=
  { paperSpec none with artifactUri := "/srv/artifacts/bot.zip" }

/-- A fetcher without a bundle directory and without a registry. -/
def plainPipeline : BootstrapPipeline where
  fetcher :=
    { workRoot := PyPath.ofText "/srv/work"
      providers := [("", .fileSystem), ("file", .fileSystem)]
      strategyBundleBase := none
      artifactLocalBase := none }
  sdkValidator := .default

/-- The file is there, but {lit}`zipfile` finds no zip in it. -/
def truncatedZip : World := fun _ operation =>
  match operation with
  | .cwd => .ok (PyPath.ofText "/srv")
  | .resolve p => .ok p
  | .isFile _ => .ok true
  | .mkdir _ => .ok ()
  | _ => .error (.other .exception)

/-- An exception that no stage converts is raised. -/
def raisesOther {α : Type} : Except Raised α → Bool
  | .error (.other .exception) => true
  | _ => false

theorem eq_of_raisesOther {α : Type} {r : Except Raised α} (h : raisesOther r = true) :
    r = .error (.other .exception) := by
  cases r with
  | ok a => cases h
  | error e =>
      cases e with
      | failure f => cases h
      | other c => cases c <;> first | rfl | cases h

/-- The exception of {lit}`zipfile` leaves the pipeline. -/
theorem truncated_zip_stays_open : ¬ ∀ (w : World) (p : BootstrapPipeline) (launchSpec : LaunchSpec)
    (startedAt observedAt : UtcDateTime) (db : WorkerTables),
      (p.runIn w launchSpec startedAt observedAt).Closes db := by
  intro hcloses
  have hraised : raisesOther (plainPipeline.stages truncatedZip zipLaunch []).1 = true := by
    decide +kernel
  have hrecordable := (PipelineRun.closes_iff rfl rfl _).1
    (hcloses truncatedZip plainPipeline zipLaunch clock
      clock .migrated)
  rw [runIn] at hrecordable
  dsimp only at hrecordable
  exact hrecordable _ (eq_of_raisesOther hraised)

end BootstrapPipeline
end Bootstrap
end StrategyWorker
