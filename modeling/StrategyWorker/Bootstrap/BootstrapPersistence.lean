import StrategyWorker.Bootstrap.Failures
import StrategyWorker.Bootstrap.LaunchSpec
import StrategyWorker.Persistence.RuntimeJournal

/-!
# The bootstrap in the worker's tables

{lit}`BootstrapPersistenceCoordinator` writes the start and the end of a
bootstrap, each in one transaction: the instance of the runtime, the row of the
launch attempt, and at the end an event and, for a failure, a diagnostic.

Main results:

- Theorem {lit}`start_commits` and theorem {lit}`finish_commits`: what the
  transactions leave of the instance and of the attempts.
- Theorem {lit}`writable_of_ok`, theorem {lit}`known_of_ok`: what a transaction
  that commits needs.
- Theorem {lit}`workerEvents_of_ok`: the row that it leaves of its event.
-/

namespace StrategyWorker
namespace Bootstrap

open Library Persistence
open WorkerTables

/-! ## The coordinator -/

/-- {lit}`_canonical_worker_identity(launch_spec)`. -/
def canonicalWorkerIdentity (launchSpec : LaunchSpec) : String :=
  launchSpec.runtimeId ++ ":" ++ launchSpec.strategyVersionId ++ ":" ++
    toString launchSpec.launchAttempt

/-- What {lit}`on_bootstrap_success` reads of a success. -/
structure BootstrapSuccess where
  entrypointSpec : String
  sdkDetails : PyDict

namespace BootstrapPersistenceCoordinator

variable (launchSpec : LaunchSpec)

/-- The instance of a bootstrap that begins. -/
def startingInstance (observedAt : PyDateTime) : WorkerInstanceRecord where
  runtimeId := launchSpec.runtimeId
  workerIdentity := canonicalWorkerIdentity launchSpec
  tenantId := launchSpec.tenantId
  traderId := launchSpec.traderId
  accountId := launchSpec.accountId
  strategyVersionId := launchSpec.strategyVersionId
  launchAttempt := launchSpec.launchAttempt
  state := "INITIALIZING"
  reasonCode := none
  occurredAt := observedAt
  observedAt := observedAt
  lastHeartbeatAt := none
  correlationId := none
  causationId := none

/-- The attempt of a bootstrap that begins. -/
def startingAttempt (observedAt : PyDateTime) : LaunchAttemptRecord where
  runtimeId := launchSpec.runtimeId
  launchAttempt := launchSpec.launchAttempt
  state := "STARTING"
  reasonCode := none
  occurredAt := observedAt
  observedAt := observedAt
  correlationId := none
  causationId := none
  details := some [("stage", .str "bootstrap_start")]

/-- {lit}`except IntegrityError: pass`. -/
def ignoringIntegrityError (db : WorkerTables) (result : Except StoreError WorkerTables) :
    Except StoreError WorkerTables :=
  match result with
  | .error .integrityError => .ok db
  | other => other

/-- {lit}`on_bootstrap_start(launch_spec, observed_at=...)`. -/
def onBootstrapStart (observedAt : PyDateTime) (db : WorkerTables) :
    Except StoreError WorkerTables := do
  let db ← db.upsertInstance (startingInstance launchSpec observedAt)
  ignoringIntegrityError db (db.appendAttempt (startingAttempt launchSpec observedAt))

/-- The state of an instance at the end of a bootstrap. -/
def endUpdate (state : String) (reasonCode : Option String) (occurredAt observedAt : PyDateTime) :
    StateUpdate where
  state := state
  reasonCode := reasonCode
  launchAttempt := launchSpec.launchAttempt
  occurredAt := occurredAt
  observedAt := observedAt
  correlationId := none
  causationId := none

/-- The event at the end of a bootstrap; its id is made of the launch and its family. -/
def endEvent (eventFamily state : String) (reasonCode : Option String)
    (occurredAt observedAt : PyDateTime) (payload : PyDict) : WorkerEventRecord where
  eventId := launchSpec.runtimeId ++ ":" ++ toString launchSpec.launchAttempt ++ ":" ++ eventFamily
  runtimeId := launchSpec.runtimeId
  workerIdentity := canonicalWorkerIdentity launchSpec
  launchAttempt := launchSpec.launchAttempt
  eventFamily := eventFamily
  occurredAt := occurredAt
  observedAt := observedAt
  state := some state
  reasonCode := reasonCode
  correlationId := none
  causationId := none
  payload := payload

/-- The details that a failure leaves with its attempt. -/
def failureDetails (failure : BootstrapFailure) : PyDict :=
  [("stage", .str failure.stage.value), ("retryable", .bool failure.retryable),
    ("details", .dict failure.details)]

def failureOutcome (failure : BootstrapFailure) (occurredAt observedAt : PyDateTime) : Outcome where
  state := "FAILED"
  reasonCode := some failure.reasonCode
  occurredAt := occurredAt
  observedAt := observedAt
  details := some (failureDetails failure)

/-- The payload of the event of a failure. -/
def failurePayload (failure : BootstrapFailure) : PyDict :=
  [("stage", .str failure.stage.value), ("details", .dict failure.details),
    ("retryable", .bool failure.retryable)]

def failureDiagnostic (failure : BootstrapFailure) (occurredAt observedAt : PyDateTime) :
    DiagnosticRecord where
  runtimeId := launchSpec.runtimeId
  launchAttempt := launchSpec.launchAttempt
  diagnosticType := "bootstrap_failure"
  occurredAt := occurredAt
  observedAt := observedAt
  stage := some failure.stage.value
  reasonCode := some failure.reasonCode
  correlationId := none
  causationId := none
  details := some failure.details

/-- {lit}`on_bootstrap_failure(launch_spec, failure, occurred_at=..., observed_at=...)`. -/
def onBootstrapFailure (failure : BootstrapFailure) (occurredAt observedAt : PyDateTime)
    (db : WorkerTables) : Except StoreError WorkerTables := do
  let db ← db.updateState launchSpec.runtimeId
    (endUpdate launchSpec "FAILED" (some failure.reasonCode) occurredAt observedAt)
  let db ← db.markOutcome launchSpec.runtimeId launchSpec.launchAttempt
    (failureOutcome failure occurredAt observedAt)
  let db ← db.appendDiagnostic (failureDiagnostic launchSpec failure occurredAt observedAt)
  let stored ← db.appendEvent (endEvent launchSpec "runtime.launch_failed" "FAILED"
    (some failure.reasonCode) occurredAt observedAt (failurePayload failure))
  return stored.2

/-- The details that a success leaves with its attempt. -/
def successDetails (success : BootstrapSuccess) : PyDict :=
  [("entrypoint", .str success.entrypointSpec), ("sdk_validation", .dict success.sdkDetails)]

def successOutcome (success : BootstrapSuccess) (occurredAt observedAt : PyDateTime) : Outcome where
  state := "SUCCEEDED"
  reasonCode := none
  occurredAt := occurredAt
  observedAt := observedAt
  details := some (successDetails success)

/-- {lit}`on_bootstrap_success(launch_spec, success, occurred_at=..., observed_at=...)`. -/
def onBootstrapSuccess (success : BootstrapSuccess) (occurredAt observedAt : PyDateTime)
    (db : WorkerTables) : Except StoreError WorkerTables := do
  let db ← db.updateState launchSpec.runtimeId
    (endUpdate launchSpec "READY" none occurredAt observedAt)
  let db ← db.markOutcome launchSpec.runtimeId launchSpec.launchAttempt
    (successOutcome success occurredAt observedAt)
  let stored ← db.appendEvent (endEvent launchSpec "runtime.launch_succeeded" "READY" none
    occurredAt observedAt [("entrypoint", .str success.entrypointSpec)])
  return stored.2

end BootstrapPersistenceCoordinator

/-! ## Callbacks -/

/-- A callback of the pipeline with its arguments beside the launch. -/
inductive Callback where
  | start (observedAt : PyDateTime)
  | failure (failure : BootstrapFailure) (occurredAt observedAt : PyDateTime)
  | success (success : BootstrapSuccess) (occurredAt observedAt : PyDateTime)

namespace Callback

open BootstrapPersistenceCoordinator

/-- The transaction of a callback. -/
def transaction (launchSpec : LaunchSpec) :
    Callback → WorkerTables → Except StoreError WorkerTables
  | start observedAt => onBootstrapStart launchSpec observedAt
  | failure exc occurredAt observedAt => onBootstrapFailure launchSpec exc occurredAt observedAt
  | success payload occurredAt observedAt =>
      onBootstrapSuccess launchSpec payload occurredAt observedAt

def isStart : Callback → Bool
  | start _ => true
  | _ => false

/-- The state that a callback gives the instance. -/
def instanceState : Callback → String
  | start _ => "INITIALIZING"
  | failure .. => "FAILED"
  | success .. => "READY"

/-- The state that a callback gives the attempt. -/
def attemptState : Callback → String
  | start _ => "STARTING"
  | failure .. => "FAILED"
  | success .. => "SUCCEEDED"

/-- The times and the payloads of a callback can be written. -/
def writable : Callback → Bool
  | start observedAt => (wireTs observedAt).isOk
  | failure exc occurredAt observedAt =>
      (wireTs occurredAt).isOk && (wireTs observedAt).isOk &&
        (toJson (failureDetails exc)).isOk && (toJson exc.details).isOk &&
          (toJson (failurePayload exc)).isOk
  | success payload occurredAt observedAt =>
      (wireTs occurredAt).isOk && (wireTs observedAt).isOk &&
        (toJson (successDetails payload)).isOk

end Callback

/-! ## What the transactions leave -/

theorem isOk_iff {ε α : Type} {x : Except ε α} : x.isOk = true ↔ ∃ a, x = .ok a := by
  cases x <;> simp [Except.isOk, Except.toBool]

/-- The state of an attempt. -/
def attemptStateOf (db : WorkerTables) (runtimeId : String) (attempt : Int) : Option String :=
  (db.launchAttempts.get? (runtimeId, attempt)).map LaunchAttemptRow.state

/-- What a callback that commits leaves of the instance and of the attempts. -/
structure Commits (launchSpec : LaunchSpec) (c : Callback) (db db' : WorkerTables) : Prop where
  row : ∃ row, db'.workerInstances.get? launchSpec.runtimeId = some row ∧
    row.launchAttempt = launchSpec.launchAttempt ∧ row.state = c.instanceState
  attempts : ∀ attempt, attemptStateOf db' launchSpec.runtimeId attempt =
    if attempt = launchSpec.launchAttempt then
      if c.isStart then some ((attemptStateOf db launchSpec.runtimeId attempt).getD "STARTING")
      else (attemptStateOf db launchSpec.runtimeId attempt).map fun _ => c.attemptState
    else attemptStateOf db launchSpec.runtimeId attempt

namespace BootstrapPersistenceCoordinator

variable {launchSpec : LaunchSpec} {db : WorkerTables}

theorem start_commits {observedAt : PyDateTime} (h : (Callback.start observedAt).writable = true)
    (db : WorkerTables) : ∃ db', onBootstrapStart launchSpec observedAt db = .ok db' ∧
      Commits launchSpec (.start observedAt) db db' := by
  rcases isOk_iff.1 h with ⟨ts, hts⟩
  rcases exists_upsertInstance db (startingInstance launchSpec observedAt) hts hts rfl with
    ⟨instances, row, hupsert, hrow, hattempt, hstate⟩
  rcases (exists_toJson rfl : ∃ text, toJson [("stage", .str "bootstrap_start")] = .ok text) with
    ⟨details, hdetails⟩
  have hdetails : toJsonOrNull (startingAttempt launchSpec observedAt).details =
      .ok (some details) := by
    simp only [startingAttempt, toJsonOrNull, hdetails]
    rfl
  have hknown : instances.contains launchSpec.runtimeId := KeyedTable.contains_iff.2 ⟨row, hrow⟩
  have happend : ignoringIntegrityError { db with workerInstances := instances }
      (WorkerTables.appendAttempt { db with workerInstances := instances }
        (startingAttempt launchSpec observedAt)) =
      .ok { db with
        workerInstances := instances
        launchAttempts := db.launchAttempts.insertOrIgnore
          (attemptRow (startingAttempt launchSpec observedAt) ts ts (some details)) } := by
    rcases appendAttempt_cases { db with workerInstances := instances }
      (startingAttempt launchSpec observedAt) hts hts hdetails hknown with
      hnew | ⟨hold, hsame⟩
    · rw [hnew]
      rfl
    · rw [hold]
      dsimp only at hsame
      rw [hsame]
      rfl
  refine ⟨_, by rw [onBootstrapStart, hupsert]; exact happend, ⟨row, hrow, hattempt, hstate⟩, ?_⟩
  intro attempt
  have hkey : (attemptRow (startingAttempt launchSpec observedAt) ts ts (some details)).key =
      (launchSpec.runtimeId, launchSpec.launchAttempt) := rfl
  rw [attemptStateOf, KeyedTable.get?_insertOrIgnore, hkey]
  by_cases hsame : attempt = launchSpec.launchAttempt
  · rw [if_pos (by rw [hsame]), if_pos hsame, attemptStateOf]
    cases db.launchAttempts.get? (launchSpec.runtimeId, attempt) <;> rfl
  · rw [if_neg fun h => hsame (Prod.mk.inj h).2.symm, if_neg hsame]
    rfl

/-- The rows that the end of a bootstrap leaves. -/
theorem commits_of_updates {c : Callback} {db' : WorkerTables} {u : StateUpdate} {o : Outcome}
    {occurredAt observedAt : WireTs} {details : Option String}
    (hknown : db.workerInstances.contains launchSpec.runtimeId) (hend : c.isStart = false)
    (hattempt : u.launchAttempt = launchSpec.launchAttempt) (hstate : u.state = c.instanceState)
    (houtcome : o.state = c.attemptState)
    (hinstances : db'.workerInstances =
      (db.setState launchSpec.runtimeId u occurredAt observedAt).workerInstances)
    (hattempts : db'.launchAttempts = (db.setOutcome launchSpec.runtimeId
      launchSpec.launchAttempt o occurredAt observedAt details).launchAttempts) :
    Commits launchSpec c db db' := by
  constructor
  · rcases KeyedTable.contains_iff.1 hknown with ⟨row, hrow⟩
    refine ⟨stateColumns u occurredAt observedAt row, ?_, hattempt, hstate⟩
    rw [hinstances, setState, KeyedTable.get?_update, if_pos rfl, hrow, Option.map_some]
  · intro attempt
    rw [attemptStateOf, hattempts, setOutcome, KeyedTable.get?_update, hend]
    by_cases hsame : attempt = launchSpec.launchAttempt
    · rw [if_pos (by rw [hsame]), if_pos hsame, if_neg (by decide), attemptStateOf,
        Option.map_map, Option.map_map]
      refine congrArg (Option.map · _) ?_
      funext row
      exact houtcome
    · rw [if_neg fun h => hsame (Prod.mk.inj h).2.symm, if_neg hsame]
      rfl

/-- A runtime stays known when its state is set. -/
theorem contains_setState {runtimeId : String} (u : StateUpdate) (o b : WireTs)
    (h : db.workerInstances.contains runtimeId) :
    (db.setState runtimeId u o b).workerInstances.contains runtimeId := by
  rw [setState, KeyedTable.contains_update]
  exact h

/-- The end of a bootstrap commits when the runtime has an instance. -/
theorem finish_commits {c : Callback} (hwritable : c.writable = true) (hend : c.isStart = false)
    (hknown : db.workerInstances.contains launchSpec.runtimeId) :
    ∃ db', c.transaction launchSpec db = .ok db' ∧ Commits launchSpec c db db' := by
  cases c with
  | start observedAt => cases hend
  | failure exc occurredAt observedAt =>
      simp only [Callback.writable, Bool.and_eq_true, isOk_iff] at hwritable
      rcases hwritable with ⟨⟨⟨⟨⟨o, ho⟩, ⟨ob, hob⟩⟩, ⟨details, hdetails⟩⟩, ⟨diagnostic, hdiagnostic⟩⟩,
        ⟨payload, hpayload⟩⟩
      rcases exists_row (endEvent launchSpec "runtime.launch_failed" "FAILED"
        (some exc.reasonCode) occurredAt observedAt (failurePayload exc)) ho hob hpayload with
        ⟨row, hrow, hruntime, -⟩
      have hdetails : toJsonOrNull (some (failureDetails exc)) = .ok (some details) := by
        rw [toJsonOrNull, hdetails]
        rfl
      have hdiagnostic : toJsonOrNull (some exc.details) = .ok (some diagnostic) := by
        rw [toJsonOrNull, hdiagnostic]
        rfl
      have hstated := contains_setState
        (endUpdate launchSpec "FAILED" (some exc.reasonCode) occurredAt observedAt) o ob hknown
      obtain ⟨db₃, hdiagnosed, hinstances, hattempts⟩ : ∃ db₃, ((db.setState launchSpec.runtimeId
          (endUpdate launchSpec "FAILED" (some exc.reasonCode) occurredAt observedAt) o ob).setOutcome
            launchSpec.runtimeId launchSpec.launchAttempt
              (failureOutcome exc occurredAt observedAt) o ob (some details)).appendDiagnostic
                (failureDiagnostic launchSpec exc occurredAt observedAt) = .ok db₃ ∧
          db₃.workerInstances = (db.setState launchSpec.runtimeId
            (endUpdate launchSpec "FAILED" (some exc.reasonCode) occurredAt observedAt)
              o ob).workerInstances ∧
          db₃.launchAttempts = (db.setOutcome launchSpec.runtimeId launchSpec.launchAttempt
            (failureOutcome exc occurredAt observedAt) o ob (some details)).launchAttempts :=
        ⟨_, (appendDiagnostic_eq_ok _ _).2 ⟨o, ob, some diagnostic, ho, hob, hdiagnostic, hstated,
          rfl⟩, rfl, rfl⟩
      have hknown₃ : db₃.workerInstances.contains row.runtimeId := by
        rw [hruntime, hinstances]
        exact hstated
      rcases exists_appendEvent db₃ hrow hknown₃ with ⟨stored, happend⟩
      refine ⟨_, bind_eq_ok.2 ⟨_, updateState_eq_ok.2 ⟨o, ob, ho, hob, rfl⟩, bind_eq_ok.2 ⟨_,
        markOutcome_eq_ok.2 ⟨o, ob, some details, ho, hob, hdetails, rfl⟩, bind_eq_ok.2 ⟨_,
          hdiagnosed, bind_eq_ok.2 ⟨_, happend, rfl⟩⟩⟩⟩, ?_⟩
      exact commits_of_updates hknown rfl rfl rfl rfl hinstances hattempts
  | success payload occurredAt observedAt =>
      simp only [Callback.writable, Bool.and_eq_true, isOk_iff] at hwritable
      rcases hwritable with ⟨⟨⟨o, ho⟩, ⟨ob, hob⟩⟩, ⟨details, hdetails⟩⟩
      rcases (exists_toJson rfl :
        ∃ text, toJson [("entrypoint", .str payload.entrypointSpec)] = .ok text) with ⟨text, htext⟩
      rcases exists_row (endEvent launchSpec "runtime.launch_succeeded" "READY" none
        occurredAt observedAt [("entrypoint", .str payload.entrypointSpec)]) ho hob htext with
        ⟨row, hrow, hruntime, -⟩
      have hdetails : toJsonOrNull (some (successDetails payload)) = .ok (some details) := by
        rw [toJsonOrNull, hdetails]
        rfl
      have hstated := contains_setState
        (endUpdate launchSpec "READY" none occurredAt observedAt) o ob hknown
      rcases exists_appendEvent ((db.setState launchSpec.runtimeId
        (endUpdate launchSpec "READY" none occurredAt observedAt) o ob).setOutcome
          launchSpec.runtimeId launchSpec.launchAttempt
            (successOutcome payload occurredAt observedAt) o ob (some details)) hrow
        (by rw [hruntime]; exact hstated) with ⟨stored, happend⟩
      refine ⟨_, bind_eq_ok.2 ⟨_, updateState_eq_ok.2 ⟨o, ob, ho, hob, rfl⟩, bind_eq_ok.2 ⟨_,
        markOutcome_eq_ok.2 ⟨o, ob, some details, ho, hob, hdetails, rfl⟩, bind_eq_ok.2 ⟨_, happend,
          rfl⟩⟩⟩, ?_⟩
      exact commits_of_updates hknown rfl rfl rfl rfl rfl rfl

/-! ## When the transactions leave nothing -/

theorem exists_of_toJsonOrNull {value : PyDict} {details : Option String}
    (h : toJsonOrNull (some value) = .ok details) : ∃ text, toJson value = .ok text := by
  unfold toJsonOrNull at h
  cases htext : toJson value with
  | error e => simp [htext, Except.map] at h
  | ok text => exact ⟨text, rfl⟩

theorem exists_payload_of_rowOf {record : WorkerEventRecord} {row : WorkerEventRow}
    (h : rowOf record = .ok row) : ∃ text, toJson record.payload = .ok text := by
  simp only [rowOf, bind_eq_ok] at h
  rcases h with ⟨_, -, _, -, text, htext, -⟩
  exact ⟨text, htext⟩

/-- What commits could be written. -/
theorem writable_of_ok {c : Callback} {db' : WorkerTables}
    (h : c.transaction launchSpec db = .ok db') : c.writable = true := by
  cases c with
  | start observedAt =>
      rcases bind_eq_ok.1 h with ⟨db₁, hupsert, -⟩
      simp only [upsertInstance, bind_eq_ok, mapError_eq_ok] at hupsert
      rcases hupsert with ⟨ts, hts, -⟩
      exact isOk_iff.2 ⟨ts, hts⟩
  | failure exc occurredAt observedAt =>
      rcases bind_eq_ok.1 h with ⟨db₁, hstate, h⟩
      rcases bind_eq_ok.1 h with ⟨db₂, houtcome, h⟩
      rcases bind_eq_ok.1 h with ⟨db₃, hdiagnostic, h⟩
      rcases bind_eq_ok.1 h with ⟨⟨stored, db₄⟩, hevent, -⟩
      rcases updateState_eq_ok.1 hstate with ⟨o, ob, ho, hob, -⟩
      rcases markOutcome_eq_ok.1 houtcome with ⟨_, _, details, -, -, hdetails, -⟩
      rcases (appendDiagnostic_eq_ok _ _).1 hdiagnostic with ⟨_, _, text, -, -, htext, -⟩
      rcases appendEvent_eq_ok.1 hevent with ⟨row, hrow, -⟩
      simp only [Callback.writable, Bool.and_eq_true, isOk_iff]
      exact ⟨⟨⟨⟨⟨o, ho⟩, ⟨ob, hob⟩⟩, exists_of_toJsonOrNull hdetails⟩, exists_of_toJsonOrNull htext⟩,
        exists_payload_of_rowOf hrow⟩
  | success payload occurredAt observedAt =>
      rcases bind_eq_ok.1 h with ⟨db₁, hstate, h⟩
      rcases bind_eq_ok.1 h with ⟨db₂, houtcome, -⟩
      rcases updateState_eq_ok.1 hstate with ⟨o, ob, ho, hob, -⟩
      rcases markOutcome_eq_ok.1 houtcome with ⟨_, _, details, -, -, hdetails, -⟩
      simp only [Callback.writable, Bool.and_eq_true, isOk_iff]
      exact ⟨⟨⟨o, ho⟩, ⟨ob, hob⟩⟩, exists_of_toJsonOrNull hdetails⟩

/-- The event of a callback. -/
def eventOf (launchSpec : LaunchSpec) : Callback → Option WorkerEventRecord
  | .start _ => none
  | .failure exc occurredAt observedAt =>
      some (endEvent launchSpec "runtime.launch_failed" "FAILED" (some exc.reasonCode) occurredAt
        observedAt (failurePayload exc))
  | .success payload occurredAt observedAt =>
      some (endEvent launchSpec "runtime.launch_succeeded" "READY" none occurredAt observedAt
        [("entrypoint", .str payload.entrypointSpec)])

/-- The event's row is inserted in any case, when it can be built. -/
theorem workerEvents_of_appendEvent {event : WorkerEventRecord} {stored : Bool}
    {db' : WorkerTables} (h : db.appendEvent event = .ok (stored, db')) :
    ∃ row, rowOf event = .ok row ∧ db'.workerEvents = db.workerEvents.insertOrIgnore row := by
  rcases appendEvent_eq_ok.1 h with ⟨row, hrow, ⟨hthere, -, rfl⟩ | ⟨-, -, -, rfl⟩⟩
  · exact ⟨row, hrow, (KeyedTable.insertOrIgnore_of_contains hthere).symm⟩
  · exact ⟨row, hrow, rfl⟩

theorem workerEvents_of_start {observedAt : PyDateTime} {db' : WorkerTables}
    (h : onBootstrapStart launchSpec observedAt db = .ok db') :
    db'.workerEvents = db.workerEvents := by
  rcases bind_eq_ok.1 h with ⟨db₁, hupsert, hattempt⟩
  have hupserted : db₁.workerEvents = db.workerEvents := by
    simp only [upsertInstance, bind_eq_ok, mapError_eq_ok] at hupsert
    rcases hupsert with ⟨_, -, _, -, heq⟩
    split at heq
    · cases heq
      rfl
    · rcases bind_eq_ok.1 heq with ⟨_, -, heq⟩
      cases heq
      rfl
  rw [← hupserted]
  cases happend : db₁.appendAttempt (startingAttempt launchSpec observedAt) with
  | error e =>
      rw [happend] at hattempt
      cases e with
      | raised e => cases hattempt
      | integrityError =>
          cases hattempt
          rfl
  | ok db₂ =>
      rw [happend] at hattempt
      cases hattempt
      simp only [appendAttempt, bind_eq_ok, mapError_eq_ok] at happend
      rcases happend with ⟨_, -, _, -, _, -, heq⟩
      split at heq
      · cases heq
      · cases heq
        rfl

/-- What a callback that commits leaves of its event. -/
theorem workerEvents_of_ok {c : Callback} {db' : WorkerTables}
    (h : c.transaction launchSpec db = .ok db') :
    match eventOf launchSpec c with
    | none => db'.workerEvents = db.workerEvents
    | some event => ∃ row, rowOf event = .ok row ∧
        db'.workerEvents = db.workerEvents.insertOrIgnore row := by
  cases c with
  | start observedAt => exact workerEvents_of_start h
  | failure exc occurredAt observedAt =>
      rcases bind_eq_ok.1 h with ⟨db₁, hstate, h⟩
      rcases bind_eq_ok.1 h with ⟨db₂, houtcome, h⟩
      rcases bind_eq_ok.1 h with ⟨db₃, hdiagnostic, h⟩
      rcases bind_eq_ok.1 h with ⟨⟨stored, db₄⟩, hevent, hdb'⟩
      rcases updateState_eq_ok.1 hstate with ⟨_, _, -, -, rfl⟩
      rcases markOutcome_eq_ok.1 houtcome with ⟨_, _, _, -, -, -, rfl⟩
      rcases (appendDiagnostic_eq_ok _ _).1 hdiagnostic with ⟨_, _, _, -, -, -, -, rfl⟩
      cases hdb'
      rcases workerEvents_of_appendEvent hevent with ⟨row, hrow, hinserted⟩
      exact ⟨row, hrow, hinserted⟩
  | success payload occurredAt observedAt =>
      rcases bind_eq_ok.1 h with ⟨db₁, hstate, h⟩
      rcases bind_eq_ok.1 h with ⟨db₂, houtcome, h⟩
      rcases bind_eq_ok.1 h with ⟨⟨stored, db₃⟩, hevent, hdb'⟩
      rcases updateState_eq_ok.1 hstate with ⟨_, _, -, -, rfl⟩
      rcases markOutcome_eq_ok.1 houtcome with ⟨_, _, _, -, -, -, rfl⟩
      cases hdb'
      rcases workerEvents_of_appendEvent hevent with ⟨row, hrow, hinserted⟩
      exact ⟨row, hrow, hinserted⟩

theorem not_contains_setState (runtimeId : String) (u : StateUpdate) (o b : WireTs) :
    ¬ (WorkerTables.migrated.setState runtimeId u o b).workerInstances.contains runtimeId := by
  rw [setState, KeyedTable.contains_update]
  intro h
  cases h

/-- The end of a bootstrap of an unknown runtime violates the foreign key. -/
theorem known_of_ok {c : Callback} {db' : WorkerTables} (hend : c.isStart = false)
    (h : c.transaction launchSpec .migrated = .ok db') : False := by
  cases c with
  | start observedAt => cases hend
  | failure exc occurredAt observedAt =>
      rcases bind_eq_ok.1 h with ⟨db₁, hstate, h⟩
      rcases bind_eq_ok.1 h with ⟨db₂, houtcome, h⟩
      rcases bind_eq_ok.1 h with ⟨db₃, hdiagnostic, -⟩
      rcases updateState_eq_ok.1 hstate with ⟨o, ob, -, -, rfl⟩
      rcases markOutcome_eq_ok.1 houtcome with ⟨_, _, _, -, -, -, rfl⟩
      rcases (appendDiagnostic_eq_ok _ _).1 hdiagnostic with ⟨_, _, _, -, -, -, hknown, -⟩
      exact not_contains_setState _ _ o ob hknown
  | success payload occurredAt observedAt =>
      rcases bind_eq_ok.1 h with ⟨db₁, hstate, h⟩
      rcases bind_eq_ok.1 h with ⟨db₂, houtcome, h⟩
      rcases bind_eq_ok.1 h with ⟨⟨stored, db₃⟩, hevent, -⟩
      rcases updateState_eq_ok.1 hstate with ⟨o, ob, -, -, rfl⟩
      rcases markOutcome_eq_ok.1 houtcome with ⟨_, _, _, -, -, -, rfl⟩
      rcases appendEvent_eq_ok.1 hevent with ⟨row, hrow, ⟨hold, -⟩ | ⟨-, hknown, -⟩⟩
      · cases hold
      · rw [(rowOf_eq_ok hrow).2] at hknown
        exact not_contains_setState _ _ o ob hknown

end BootstrapPersistenceCoordinator
end Bootstrap
end StrategyWorker
