import Mathlib.Logic.Relation
import Mathlib.Tactic.IntervalCases
import StrategyWorker.Library.SqlTables

/-!
# Migrations of the worker database

The eighteen migration files in their order, the repair of a database that
records versions but has no tables, and the two checks on the order intent
journal after the loop.  What the files do to the columns and indexes is
computed; the functions of SQLite on stored values are a parameter.

Two files call {lit}`json_extract` on every stored payload without asking
{lit}`json_valid` first, and the repair runs all files over the tables that are
still there.

Main results:

- Theorem {lit}`applyMigrations_eq_ok`: the migrations not yet recorded, run in
  their order.
- Theorem {lit}`migrations_converge_iff`: from which states the migrations
  reach the form of a new database and keep the order intents.
-/

namespace StrategyWorker
namespace Persistence

open Library

/-! ## SQLite functions on stored values -/

/-- What the statements of the files use of SQLite. -/
structure SqlFunctions (V : Type) where
  null : V
  emptyText : V
  isNull : V → Bool
  /-- A value on which {lit}`json_extract` raises. -/
  malformed : V → Bool
  jsonValid : V → Bool
  /-- {lit}`json_type(value) = 'object'`. -/
  isObject : V → Bool
  jsonExtract : V → String → V
  jsonRemove : V → String → V
  trim : V → V
  castText : V → V
  castInteger : V → V
  /-- {lit}`value = ''`. -/
  isEmpty : V → Bool
  /-- A value as a column of a declared type keeps it. -/
  stored : String → V → V
  isNull_null : isNull null = true
  valid_not_malformed : ∀ v, jsonValid v = true → malformed v = false
  removed_not_malformed : ∀ v path, jsonValid v = true →
    malformed (stored "TEXT NOT NULL" (jsonRemove v path)) = false

namespace SqlFunctions

variable {V : Type} (F : SqlFunctions V)

/-- {lit}`json_extract`, which raises at malformed JSON. -/
def extract (v : V) (path : String) : Except SqlError V :=
  if F.malformed v then .error .malformedJson else .ok (F.jsonExtract v path)

/-- {lit}`COALESCE(value, '')`. -/
def coalesce (v : V) : V :=
  if F.isNull v then F.emptyText else v

end SqlFunctions

/-! ## Tables and statements -/

inductive TableName where
  | workerInstances
  | workerLaunchAttempts
  | workerHeartbeatObservations
  | workerEvents
  | workerDiagnostics
  | runtimeStateJournal
  | orderIntentJournal
  deriving DecidableEq

section

variable {V : Type} (F : SqlFunctions V)

def createTable (table : TableName) (columns : List (String × String))
    (constraints : List String) : SqlStatement TableName V :=
  ⟨table, .form (.createTable (columns.map fun c => ⟨c.1, c.2⟩) constraints)⟩

def createIndex (table : TableName) (name : String) (columns : List String) :
    SqlStatement TableName V :=
  ⟨table, .form (.createIndex ⟨name, columns⟩)⟩

def addColumn (table : TableName) (name type : String) : SqlStatement TableName V :=
  ⟨table, .form (.addColumn ⟨name, type⟩)⟩

/-- The key of a payload, else its older name; only where the column is still empty. -/
def newIdempotencyKey (old payload : V) : Except SqlError (Option V) :=
  if F.isNull old then do
    let key ← F.extract payload "$.idempotency_key"
    if F.isEmpty (F.trim (F.coalesce key)) then
      let client ← F.extract payload "$.client_intent_id"
      if F.isEmpty (F.trim (F.coalesce client)) then return some F.null
      else return some (F.stored "TEXT" (F.trim client))
    else return some (F.stored "TEXT" (F.trim key))
  else return none

def setIdempotencyKey : TableAction V :=
  .update "idempotency_key" ["payload_json"] fun row =>
    newIdempotencyKey F (row "idempotency_key") (row "payload_json")

def newOrderIntentId (old payload : V) : Except SqlError (Option V) :=
  if F.isNull old then do
    let id ← F.extract payload "$.order_intent_id"
    if F.isNull id then return none
    else return some (F.stored "INTEGER" (F.castInteger id))
  else return none

def setOrderIntentId : TableAction V :=
  .update "order_intent_id" ["payload_json"] fun row =>
    newOrderIntentId F (row "order_intent_id") (row "payload_json")

/-- A payload that is an object without one of its members. -/
def newPayload (path : String) (payload : V) : Except SqlError (Option V) :=
  if F.jsonValid payload && F.isObject payload then do
    let value ← F.extract payload path
    if F.isNull value then return none
    else return some (F.stored "TEXT NOT NULL" (F.jsonRemove payload path))
  else return none

def stripPayload (path : String) : TableAction V :=
  .update "payload_json" [] fun row => newPayload F path (row "payload_json")

def newSymbol (old payload : V) : Except SqlError (Option V) :=
  if F.isNull old && F.jsonValid payload && F.isObject payload then do
    let symbol ← F.extract payload "$.symbol"
    if F.isNull symbol || F.isEmpty (F.trim (F.castText symbol)) then return none
    else return some (F.stored "TEXT" (F.trim (F.castText symbol)))
  else return none

def setSymbol : TableAction V :=
  .update "symbol" ["payload_json"] fun row => newSymbol F (row "symbol") (row "payload_json")

def newIdText (old : V) : Option V :=
  if F.isNull old then none else some (F.stored "INTEGER" (F.castText old))

def orderIntentIdText : TableAction V :=
  .update "order_intent_id" [] fun row => .ok (newIdText F (row "order_intent_id"))

/-! ## The files -/

open TableName

def createWorkerInstances : List (SqlStatement TableName V) :=
  [createTable workerInstances
    [("runtime_id", "TEXT PRIMARY KEY"), ("worker_identity", "TEXT NOT NULL"),
      ("tenant_id", "TEXT NOT NULL"), ("trader_id", "TEXT NULL"), ("account_id", "TEXT NULL"),
      ("strategy_version_id", "TEXT NOT NULL"), ("launch_attempt", "INTEGER NOT NULL"),
      ("state", "TEXT NOT NULL"), ("reason_code", "TEXT NULL"), ("occurred_at", "TEXT NOT NULL"),
      ("observed_at", "TEXT NOT NULL"), ("last_heartbeat_at", "TEXT NULL"),
      ("correlation_id", "TEXT NULL"), ("causation_id", "TEXT NULL")] []]

/-- The reference of the other worker tables to their worker. -/
def runtimeForeignKey (name : String) : String :=
  "CONSTRAINT " ++ name ++
    " FOREIGN KEY(runtime_id) REFERENCES worker_instances(runtime_id) ON DELETE CASCADE"

def createWorkerLaunchAttempts : List (SqlStatement TableName V) :=
  [createTable workerLaunchAttempts
    [("id", "INTEGER PRIMARY KEY AUTOINCREMENT"), ("runtime_id", "TEXT NOT NULL"),
      ("launch_attempt", "INTEGER NOT NULL"), ("state", "TEXT NOT NULL"),
      ("reason_code", "TEXT NULL"), ("occurred_at", "TEXT NOT NULL"),
      ("observed_at", "TEXT NOT NULL"), ("correlation_id", "TEXT NULL"),
      ("causation_id", "TEXT NULL"), ("details", "TEXT NULL")]
    [runtimeForeignKey "fk_worker_launch_attempts_runtime_id",
      "CONSTRAINT uq_worker_launch_attempt_runtime_attempt UNIQUE(runtime_id, launch_attempt)"]]

def createWorkerHeartbeatObservations : List (SqlStatement TableName V) :=
  [createTable workerHeartbeatObservations
    [("id", "INTEGER PRIMARY KEY AUTOINCREMENT"), ("runtime_id", "TEXT NOT NULL"),
      ("launch_attempt", "INTEGER NOT NULL"), ("occurred_at", "TEXT NOT NULL"),
      ("observed_at", "TEXT NOT NULL"), ("correlation_id", "TEXT NULL"),
      ("causation_id", "TEXT NULL"), ("details", "TEXT NULL")]
    [runtimeForeignKey "fk_worker_heartbeat_runtime_id"]]

def createWorkerEvents : List (SqlStatement TableName V) :=
  [createTable workerEvents
    [("event_id", "TEXT PRIMARY KEY"), ("runtime_id", "TEXT NOT NULL"),
      ("worker_identity", "TEXT NOT NULL"), ("launch_attempt", "INTEGER NOT NULL"),
      ("event_family", "TEXT NOT NULL"), ("state", "TEXT NULL"), ("reason_code", "TEXT NULL"),
      ("occurred_at", "TEXT NOT NULL"), ("observed_at", "TEXT NOT NULL"),
      ("correlation_id", "TEXT NULL"), ("causation_id", "TEXT NULL"), ("payload", "TEXT NULL")]
    [runtimeForeignKey "fk_worker_events_runtime_id"]]

def createWorkerDiagnostics : List (SqlStatement TableName V) :=
  [createTable workerDiagnostics
    [("id", "INTEGER PRIMARY KEY AUTOINCREMENT"), ("runtime_id", "TEXT NOT NULL"),
      ("launch_attempt", "INTEGER NOT NULL"), ("diagnostic_type", "TEXT NOT NULL"),
      ("stage", "TEXT NULL"), ("reason_code", "TEXT NULL"), ("occurred_at", "TEXT NOT NULL"),
      ("observed_at", "TEXT NOT NULL"), ("correlation_id", "TEXT NULL"),
      ("causation_id", "TEXT NULL"), ("details", "TEXT NULL")]
    [runtimeForeignKey "fk_worker_diagnostics_runtime_id"]]

def addRuntimeIndexes : List (SqlStatement TableName V) :=
  [createIndex workerInstances "ix_worker_instances_strategy_version_id" ["strategy_version_id"],
    createIndex workerInstances "ix_worker_instances_tenant_id" ["tenant_id"],
    createIndex workerInstances "ix_worker_instances_account_id" ["account_id"],
    createIndex workerInstances "ix_worker_instances_trader_id" ["trader_id"],
    createIndex workerInstances "ix_worker_instances_state" ["state"],
    createIndex workerInstances "ix_worker_instances_reason_code" ["reason_code"],
    createIndex workerInstances "ix_worker_instances_last_heartbeat_at" ["last_heartbeat_at"],
    createIndex workerEvents "ix_worker_events_runtime_launch_occurred"
      ["runtime_id", "launch_attempt", "occurred_at"],
    createIndex workerDiagnostics "ix_worker_diagnostics_runtime_launch_type_observed"
      ["runtime_id", "launch_attempt", "diagnostic_type", "observed_at"]]

def createRuntimeStateJournal : List (SqlStatement TableName V) :=
  [createTable runtimeStateJournal
    [("id", "INTEGER PRIMARY KEY AUTOINCREMENT"), ("runtime_id", "TEXT NOT NULL"),
      ("launch_attempt", "INTEGER NOT NULL"), ("kind", "TEXT NOT NULL"), ("phase", "TEXT"),
      ("previous_phase", "TEXT"), ("step_name", "TEXT"), ("level", "TEXT"),
      ("reason_code", "TEXT"), ("observed_at", "TEXT NOT NULL"), ("details_json", "TEXT")] [],
    createIndex runtimeStateJournal "ix_runtime_state_journal_runtime_launch_observed"
      ["runtime_id", "launch_attempt", "observed_at"]]

def createOrderIntentJournal : List (SqlStatement TableName V) :=
  [createTable orderIntentJournal
    [("id", "INTEGER PRIMARY KEY AUTOINCREMENT"), ("runtime_id", "TEXT NOT NULL"),
      ("launch_attempt", "INTEGER NOT NULL"), ("source", "TEXT NOT NULL"),
      ("payload_json", "TEXT NOT NULL"), ("result_json", "TEXT"),
      ("occurred_at", "TEXT NOT NULL"), ("correlation_id", "TEXT")] [],
    createIndex orderIntentJournal "ix_order_intent_journal_runtime_launch_occurred"
      ["runtime_id", "launch_attempt", "occurred_at"]]

def addIdempotencyKey : List (SqlStatement TableName V) :=
  [addColumn orderIntentJournal "idempotency_key" "TEXT",
    ⟨orderIntentJournal, setIdempotencyKey F⟩,
    createIndex orderIntentJournal "ix_order_intent_journal_idempotency_key" ["idempotency_key"]]

def addOrderIntentId : List (SqlStatement TableName V) :=
  [addColumn orderIntentJournal "order_intent_id" "INTEGER",
    ⟨orderIntentJournal, setOrderIntentId F⟩,
    createIndex orderIntentJournal "ix_order_intent_journal_order_intent_id" ["order_intent_id"]]

def addSymbol : List (SqlStatement TableName V) :=
  [addColumn orderIntentJournal "symbol" "TEXT",
    ⟨orderIntentJournal, setSymbol F⟩,
    createIndex orderIntentJournal "ix_order_intent_journal_symbol" ["symbol"]]

def renameOccurredAt : List (SqlStatement TableName V) :=
  [⟨orderIntentJournal, .form (.renameColumn "occurred_at" "requested_at")⟩,
    ⟨orderIntentJournal, .form (.dropIndex "ix_order_intent_journal_runtime_launch_occurred")⟩,
    createIndex orderIntentJournal "ix_order_intent_journal_runtime_launch_requested"
      ["runtime_id", "launch_attempt", "requested_at"]]

/-- The names of the files with their statements. -/
def migrations : List (String × List (SqlStatement TableName V)) :=
  [("001_create_worker_instances.sql", createWorkerInstances),
    ("002_create_worker_launch_attempts.sql", createWorkerLaunchAttempts),
    ("003_create_worker_heartbeat_observations.sql", createWorkerHeartbeatObservations),
    ("004_create_worker_events.sql", createWorkerEvents),
    ("005_create_worker_diagnostics.sql", createWorkerDiagnostics),
    ("006_add_runtime_indexes.sql", addRuntimeIndexes),
    ("007_create_runtime_state_journal.sql", createRuntimeStateJournal),
    ("008_create_order_intent_journal.sql", createOrderIntentJournal),
    ("009_add_order_intent_journal_created_at.sql",
      [addColumn orderIntentJournal "created_at" "TEXT"]),
    ("010_add_order_intent_journal_job_id.sql",
      [addColumn orderIntentJournal "job_id" "TEXT"]),
    ("011_order_intent_journal_created_at_index.sql",
      [createIndex orderIntentJournal "ix_order_intent_journal_created_at" ["created_at"]]),
    ("012_add_order_intent_journal_idempotency_key.sql", addIdempotencyKey F),
    ("013_add_order_intent_journal_order_intent_id.sql", addOrderIntentId F),
    ("014_strip_replay_session_id_from_order_intent_journal.sql",
      [⟨orderIntentJournal, stripPayload F "$.replay_session_id"⟩]),
    ("015_add_order_intent_journal_symbol.sql", addSymbol F),
    ("016_rename_order_intent_journal_occurred_at_to_requested_at.sql", renameOccurredAt),
    ("017_strip_strategy_context_from_order_intent_journal.sql",
      [⟨orderIntentJournal, stripPayload F "$.strategy_context"⟩]),
    ("018_order_intent_journal_order_intent_id_text.sql",
      [⟨orderIntentJournal, orderIntentIdText F⟩])]

/-! ## The run -/

/-- The recorded versions, once their table is there, and the tables. -/
structure MigrationDatabase (V : Type) where
  versions : Option (List String)
  tables : TableName → Option (SqlTable V)

abbrev Tables (V : Type) := TableName → Option (SqlTable V)

/-- One file, unless its version is recorded. -/
def applyMigration (state : List String × Tables V)
    (migration : String × List (SqlStatement TableName V)) :
    Except SqlError (List String × Tables V) :=
  if migration.1 ∈ state.1 then .ok state
  else do
    let tables ← runStatementList F.null migration.2 state.2
    return (state.1 ++ [migration.1], tables)

/-- The versions after the repair of a database without {lit}`worker_instances`. -/
def repairedVersions (versions : List String) (tables : Tables V) : List String :=
  if (tables workerInstances).isNone then
    if 0 < versions.length then [] else versions
  else versions

def ensureOrderIntentJournalSymbolColumn (tables : Tables V) : Except SqlError (Tables V) :=
  match tables orderIntentJournal with
  | none => .ok tables
  | some journal =>
      if "symbol" ∈ journal.form.names then .ok tables
      else runStatementList F.null (addSymbol F) tables

def ensureOrderIntentJournalRequestedAtColumn (tables : Tables V) : Except SqlError (Tables V) :=
  match tables orderIntentJournal with
  | none => .ok tables
  | some journal =>
      if "requested_at" ∈ journal.form.names then .ok tables
      else if "occurred_at" ∉ journal.form.names then .ok tables
      else runStatementList F.null renameOccurredAt tables

def applyMigrations (db : MigrationDatabase V) : Except SqlError (MigrationDatabase V) := do
  let state ← (migrations F).foldlM (applyMigration F)
    (repairedVersions (db.versions.getD []) db.tables, db.tables)
  let tables ← ensureOrderIntentJournalSymbolColumn F state.2
  let tables ← ensureOrderIntentJournalRequestedAtColumn F tables
  return ⟨some state.1, tables⟩

/-! ## What the files do to the forms -/

/-- Functions on the one value there is: the forms do not depend on the values. -/
def plainFunctions : SqlFunctions Unit where
  null := ()
  emptyText := ()
  isNull _ := true
  malformed _ := false
  jsonValid _ := true
  isObject _ := true
  jsonExtract _ _ := ()
  jsonRemove _ _ := ()
  trim _ := ()
  castText _ := ()
  castInteger _ := ()
  isEmpty _ := true
  stored _ _ := ()
  isNull_null := rfl
  valid_not_malformed _ _ := rfl
  removed_not_malformed _ _ _ := rfl

/-- The tables of statements with what these do to the forms. -/
def outline (statements : List (SqlStatement TableName V)) : List (TableName × FormAction) :=
  statements.map fun statement => (statement.table, statement.action.formAction)

def formScript : List (List (TableName × FormAction)) :=
  (migrations plainFunctions).map fun migration => outline migration.2

theorem outline_migrations :
    (migrations F).map (fun migration => outline migration.2) = formScript := rfl

def formsOn (table : TableName) (script : List (List (TableName × FormAction))) :
    List FormAction :=
  (script.flatten.filter fun entry => entry.1 = table).map Prod.snd

/-- The form of a table after the first files. -/
def formAfter (k : Nat) (table : TableName) : Option TableForm :=
  match runForm (formsOn table (formScript.take k)) none with
  | .ok form => form
  | .error _ => none

/-- The statements of the files from a position on. -/
def statementsFrom (k : Nat) : List (SqlStatement TableName V) :=
  ((migrations F).drop k).flatMap Prod.snd

theorem formActions_statementsFrom (k : Nat) (table : TableName) :
    (actionsOn table (statementsFrom F k)).map TableAction.formAction =
      formsOn table (formScript.drop k) := by
  have houtline : outline (statementsFrom F k) = (formScript.drop k).flatten := by
    rw [← outline_migrations F, ← List.map_drop, ← List.flatMap_def]
    unfold outline statementsFrom
    rw [List.map_flatMap]
  unfold formsOn actionsOn
  rw [← houtline, outline, List.filter_map, List.map_map, List.map_map]
  rfl

theorem formAfter_zero (table : TableName) : formAfter 0 table = none := by
  cases table <;> decide +kernel

/-- From the form after the first files, the other files lead to the last form. -/
theorem runForm_formAfter {k : Nat} (hk : k ≤ 18) (table : TableName) :
    runForm (formsOn table (formScript.drop k)) (formAfter k table) =
      .ok (formAfter 18 table) := by
  have hall : ∀ k < 19, runForm (formsOn table (formScript.drop k)) (formAfter k table) =
      .ok (formAfter 18 table) := by
    cases table <;> decide +kernel
  exact hall k (by omega)

/-- All files again leave the form of a table other than the order intent journal. -/
theorem runForm_again {k : Nat} (hk : k ≤ 18) {table : TableName}
    (htable : table ≠ orderIntentJournal) :
    runForm (formsOn table formScript) (formAfter k table) = .ok (formAfter 18 table) := by
  have hall : ∀ k < 19, runForm (formsOn table formScript) (formAfter k table) =
      .ok (formAfter 18 table) := by
    cases table with
    | orderIntentJournal => exact absurd rfl htable
    | _ => decide +kernel
  exact hall k (by omega)

/-- Over a journal with the later columns, the files fail. -/
theorem runForm_journal_again {k : Nat} (hk : k ≤ 18) {form : TableForm}
    (hform : formAfter k orderIntentJournal = some form)
    (hne : some form ≠ formAfter 8 orderIntentJournal) {final : Option TableForm} :
    runForm (formsOn orderIntentJournal formScript) (some form) ≠ .ok final := by
  have hall : ∀ k < 19, formAfter k orderIntentJournal = none ∨
      formAfter k orderIntentJournal = formAfter 8 orderIntentJournal ∨
        (runForm (formsOn orderIntentJournal formScript)
          (formAfter k orderIntentJournal)).toOption = none := by
    decide +kernel
  rcases hall k (by omega) with hnone | hsame | hfails
  · simp [hform] at hnone
  · exact absurd (hform.symm.trans hsame) hne
  · intro hrun
    rw [hform, hrun] at hfails
    cases hfails

/-! ## What the files do to the rows -/

/-- The updates of the journal. -/
inductive JournalAction : TableAction V → Prop
  | form (action : FormAction) : JournalAction (.form action)
  | key : JournalAction (setIdempotencyKey F)
  | id : JournalAction (setOrderIntentId F)
  | strip (path : String) (hpath : path ∈ ["$.replay_session_id", "$.strategy_context"]) :
      JournalAction (stripPayload F path)
  | symbol : JournalAction (setSymbol F)
  | idText : JournalAction (orderIntentIdText F)

/-- Only the journal is updated. -/
inductive FileStatement : SqlStatement TableName V → Prop
  | form (table : TableName) (action : FormAction) : FileStatement ⟨table, .form action⟩
  | journal (action : TableAction V) (haction : JournalAction F action) :
      FileStatement ⟨orderIntentJournal, action⟩

theorem fileStatement_of_mem {k : Nat} {statement : SqlStatement TableName V}
    (h : statement ∈ statementsFrom F k) : FileStatement F statement := by
  have hall : ∀ migration ∈ migrations F, ∀ statement ∈ migration.2,
      FileStatement F statement := by
    simp only [migrations, createWorkerInstances, createWorkerLaunchAttempts,
      createWorkerHeartbeatObservations, createWorkerEvents, createWorkerDiagnostics,
      addRuntimeIndexes, createRuntimeStateJournal, createOrderIntentJournal, addIdempotencyKey,
      addOrderIntentId, addSymbol, renameOccurredAt, createTable, createIndex, addColumn,
      List.forall_mem_cons, List.not_mem_nil, false_imp_iff, implies_true, and_true,
      FileStatement.form, true_and]
    exact ⟨.journal _ .key, .journal _ .id, .journal _ (.strip _ (by simp)), .journal _ .symbol,
      .journal _ (.strip _ (by simp)), .journal _ .idText⟩
  rcases List.mem_flatMap.1 h with ⟨migration, hmigration, hmem⟩
  exact hall migration (List.mem_of_mem_drop hmigration) statement hmem

theorem journalAction_of_mem {k : Nat} {action : TableAction V}
    (h : action ∈ actionsOn orderIntentJournal (statementsFrom F k)) : JournalAction F action := by
  rcases List.mem_map.1 h with ⟨statement, hmem, rfl⟩
  rcases fileStatement_of_mem F (List.mem_filter.1 hmem).1 with ⟨table, action⟩ | ⟨action, haction⟩
  · exact .form action
  · exact haction

theorem formAction_of_mem {k : Nat} {table : TableName} (htable : table ≠ orderIntentJournal)
    {action : TableAction V} (h : action ∈ actionsOn table (statementsFrom F k)) :
    ∃ a, action = .form a := by
  rcases List.mem_map.1 h with ⟨statement, hmem, rfl⟩
  rcases List.mem_filter.1 hmem with ⟨hmem, hon⟩
  rcases fileStatement_of_mem F hmem with ⟨table', action⟩ | ⟨action, haction⟩
  · exact ⟨action, rfl⟩
  · exact absurd (of_decide_eq_true hon).symm htable

/-- What the files may do to a value of the journal, by its position. -/
inductive Rewrite : Nat → V → V → Prop
  | stripped (v : V) (path : String)
      (hpath : path ∈ ["$.replay_session_id", "$.strategy_context"]) :
      Rewrite 4 v (F.stored "TEXT NOT NULL" (F.jsonRemove v path))
  | asText (v : V) : Rewrite 11 v (F.stored "INTEGER" (F.castText v))

/-- A row of the journal with its values kept. -/
def KeptRow (row row' : List V) : Prop :=
  ∀ p v, row[p]? = some v → ∃ v', row'[p]? = some v' ∧ Relation.ReflTransGen (Rewrite F p) v v'

theorem KeptRow.refl (row : List V) : KeptRow F row row :=
  fun _ v hv => ⟨v, hv, .refl⟩

variable {F}

theorem KeptRow.append {row row' : List V} (h : KeptRow F row row') (v : V) :
    KeptRow F row (row' ++ [v]) := by
  intro p w hw
  rcases h p w hw with ⟨w', hw', hrewrite⟩
  exact ⟨w', by rw [List.getElem?_append_left (List.getElem?_eq_some_iff.1 hw').1, hw'], hrewrite⟩

/-- A value set past the old columns, or rewritten at its own position. -/
theorem KeptRow.set {row row' : List V} (h : KeptRow F row row') {p : Nat} {v : V}
    (hp : row.length ≤ p ∨ Rewrite F p (row'.getD p F.null) v) : KeptRow F row (row'.set p v) := by
  intro q w hw
  rcases h q w hw with ⟨w', hw', hrewrite⟩
  have hq := (List.getElem?_eq_some_iff.1 hw).1
  have hq' := (List.getElem?_eq_some_iff.1 hw').1
  by_cases hpq : p = q
  · subst hpq
    rcases hp with hp | hp
    · omega
    · refine ⟨v, by rw [List.getElem?_set_self hq'], hrewrite.tail ?_⟩
      rwa [List.getD_eq_getElem?_getD, hw', Option.getD_some] at hp
  · exact ⟨w', by rw [List.getElem?_set_ne hpq, hw'], hrewrite⟩

/-- Whether {lit}`json_extract` can read the stored payload of a row. -/
def ReadablePayload (F : SqlFunctions V) (row : List V) : Prop :=
  F.malformed (row.getD 4 F.null) = false

/-- A statement of the files at a form in which it keeps the first columns; whether one that extracts
from every payload is among them. -/
def keeps (width : Nat) (extracting : Bool) (form : TableForm) : FormAction → Bool
  | .update column reads =>
      form.names.idxOf "payload_json" = 4 &&
      (column = "payload_json" || form.names.idxOf column ≠ 4 &&
        (width ≤ form.names.idxOf column ||
          reads = [] && column = "order_intent_id" && form.names.idxOf column = 11)) &&
      (extracting || reads ≠ ["payload_json"] || column = "symbol")
  | _ => true

theorem extract_of_not_malformed {v : V} (h : F.malformed v = false) (path : String) :
    F.extract v path = .ok (F.jsonExtract v path) := by
  unfold SqlFunctions.extract
  rw [h]
  rfl

theorem ReadablePayload.set {row : List V} (h : ReadablePayload F row) {p : Nat} (hp : p ≠ 4)
    (v : V) : ReadablePayload F (row.set p v) := by
  unfold ReadablePayload at *
  rwa [List.getD_eq_getElem?_getD, List.getElem?_set_ne hp, ← List.getD_eq_getElem?_getD]

theorem ReadablePayload.append {row : List V} (h : ReadablePayload F row) :
    ReadablePayload F (row ++ [F.null]) :=
  (congrArg F.malformed (getD_grown row 1 4)).trans h

/-- The new value of a column in its row. -/
theorem updateRow_of_value {form : TableForm} {column : String}
    {value : (String → V) → Except SqlError (Option V)} {new : Option V} {P : List V → Prop}
    {row : List V} (hvalue : value (form.read F.null row) = .ok new) (hrow : P row)
    (hset : ∀ v, new = some v → P (row.set (form.names.idxOf column) v)) :
    ∃ row', updateRow F.null form column value row = .ok row' ∧ P row' := by
  unfold updateRow
  rw [hvalue]
  cases new with
  | none => exact ⟨row, rfl, hrow⟩
  | some v => exact ⟨_, rfl, hset v rfl⟩

/-- The keys read from a readable payload. -/
theorem exists_newIdempotencyKey {payload : V} (h : F.malformed payload = false) (old : V) :
    ∃ new, newIdempotencyKey F old payload = .ok new := by
  unfold newIdempotencyKey
  rw [extract_of_not_malformed h, extract_of_not_malformed h]
  simp only [bind, Except.bind, pure, Except.pure]
  split_ifs <;> exact ⟨_, rfl⟩

theorem exists_newOrderIntentId {payload : V} (h : F.malformed payload = false) (old : V) :
    ∃ new, newOrderIntentId F old payload = .ok new := by
  unfold newOrderIntentId
  rw [extract_of_not_malformed h]
  simp only [bind, Except.bind, pure, Except.pure]
  split_ifs <;> exact ⟨_, rfl⟩

theorem exists_newSymbol (old payload : V) : ∃ new, newSymbol F old payload = .ok new := by
  unfold newSymbol
  split_ifs with hguard
  · simp only [Bool.and_eq_true] at hguard
    rw [extract_of_not_malformed (F.valid_not_malformed payload hguard.1.2)]
    simp only [bind, Except.bind, pure, Except.pure]
    split_ifs <;> exact ⟨_, rfl⟩
  · exact ⟨none, rfl⟩

/-- A new payload is the old one without the member. -/
theorem exists_newPayload (path : String) (payload : V) :
    ∃ new, newPayload F path payload = .ok new ∧ ∀ v, new = some v →
      F.jsonValid payload = true ∧ v = F.stored "TEXT NOT NULL" (F.jsonRemove payload path) := by
  unfold newPayload
  split_ifs with hguard
  · have hvalid := (Bool.and_eq_true_iff.1 hguard).1
    rw [extract_of_not_malformed (F.valid_not_malformed payload hvalid)]
    simp only [bind, Except.bind, pure, Except.pure]
    split_ifs
    · exact ⟨none, rfl, fun v h => by cases h⟩
    · exact ⟨_, rfl, fun v h => ⟨hvalid, (Option.some.inj h).symm⟩⟩
  · exact ⟨none, rfl, fun v h => by cases h⟩

theorem eq_of_newIdText {old v : V} (h : newIdText F old = some v) :
    v = F.stored "INTEGER" (F.castText old) := by
  unfold newIdText at h
  split_ifs at h
  exact (Option.some.inj h).symm

/-- The payload of a row after a member is taken out. -/
theorem ReadablePayload.strip {row : List V} (hvalid : F.jsonValid (row.getD 4 F.null) = true)
    (path : String) : ReadablePayload F
      (row.set 4 (F.stored "TEXT NOT NULL" (F.jsonRemove (row.getD 4 F.null) path))) := by
  unfold ReadablePayload
  rcases Nat.lt_or_ge 4 row.length with hlt | hge
  · rw [List.getD_eq_getElem?_getD, List.getElem?_set_self hlt]
    exact F.removed_not_malformed _ path hvalid
  · rw [List.set_eq_of_length_le hge]
    exact F.valid_not_malformed _ hvalid

/-- What an update of the files does to a row. -/
theorem updateRow_journal {width : Nat} {extracting : Bool} {form : TableForm} {column : String}
    {reads : List String} {value : (String → V) → Except SqlError (Option V)}
    (haction : JournalAction F (.update column reads value))
    (hkeeps : keeps width extracting form (.update column reads) = true)
    {first row : List V} (hwidth : first.length = width) (hkept : KeptRow F first row)
    (hreadable : extracting = true → ReadablePayload F row) :
    ∃ row', updateRow F.null form column value row = .ok row' ∧ KeptRow F first row' ∧
      (extracting = true → ReadablePayload F row') := by
  have hother : form.names.idxOf column ≠ 4 → width ≤ form.names.idxOf column → ∀ v,
      KeptRow F first (row.set (form.names.idxOf column) v) ∧
        (extracting = true → ReadablePayload F (row.set (form.names.idxOf column) v)) :=
    fun hne hle v => ⟨hkept.set (.inl (hwidth.trans_le hle)), fun he => (hreadable he).set hne v⟩
  have hpayload : form.names.idxOf "payload_json" = 4 := by
    simp only [keeps, Bool.and_eq_true, decide_eq_true_eq] at hkeeps
    exact hkeeps.1.1
  have hread : form.read F.null row "payload_json" = row.getD 4 F.null := by
    unfold TableForm.read
    rw [hpayload]
  cases haction with
  | key =>
      simp [keeps, hpayload] at hkeeps
      rcases hkeeps with ⟨⟨hne, hle⟩, he⟩
      rcases exists_newIdempotencyKey (hreadable he) (form.read F.null row "idempotency_key") with
        ⟨new, hnew⟩
      rw [← hread] at hnew
      exact updateRow_of_value hnew ⟨hkept, hreadable⟩ fun v _ => hother hne hle v
  | id =>
      simp [keeps, hpayload] at hkeeps
      rcases hkeeps with ⟨⟨hne, hle⟩, he⟩
      rcases exists_newOrderIntentId (hreadable he) (form.read F.null row "order_intent_id") with
        ⟨new, hnew⟩
      rw [← hread] at hnew
      exact updateRow_of_value hnew ⟨hkept, hreadable⟩ fun v _ => hother hne hle v
  | strip path hpath =>
      rcases exists_newPayload (F := F) path (row.getD 4 F.null) with ⟨new, hnew, hstripped⟩
      rw [← hread] at hnew
      refine updateRow_of_value hnew ⟨hkept, hreadable⟩ fun v hv => ?_
      rcases hstripped v hv with ⟨hvalid, rfl⟩
      rw [hpayload]
      exact ⟨hkept.set (.inr (.stripped _ path hpath)), fun _ => .strip hvalid path⟩
  | symbol =>
      simp [keeps, hpayload] at hkeeps
      rcases exists_newSymbol (F := F) (form.read F.null row "symbol")
        (form.read F.null row "payload_json") with ⟨new, hnew⟩
      exact updateRow_of_value hnew ⟨hkept, hreadable⟩ fun v _ => hother hkeeps.1 hkeeps.2 v
  | idText =>
      simp [keeps, hpayload] at hkeeps
      rcases hkeeps with ⟨hne, hle | hid⟩
      · exact updateRow_of_value rfl ⟨hkept, hreadable⟩ fun v _ => hother hne hle v
      · refine updateRow_of_value rfl ⟨hkept, hreadable⟩ fun v hv => ?_
        rw [eq_of_newIdText hv, TableForm.read, hid]
        exact ⟨hkept.set (.inr (.asText _)), fun he => (hreadable he).set (by decide) _⟩

/-- The number of columns of a table. -/
def columnCount (form : Option TableForm) : Nat :=
  form.elim 0 fun form => form.columns.length

/-- Rows that none of the statements fails at come out kept. -/
theorem exists_run_journal {actions : List (TableAction V)} {t : Option (SqlTable V)}
    {form : Option TableForm} {extracting : Bool}
    (hactions : ∀ action ∈ actions, JournalAction F action)
    (halong : Along (keeps (columnCount (t.map SqlTable.form)) extracting) (t.map SqlTable.form)
      (actions.map TableAction.formAction) = true)
    (hform : runForm (actions.map TableAction.formAction) (t.map SqlTable.form) = .ok form)
    (hwide : Wide t)
    (hreadable : extracting = true → ∀ row ∈ rowsOf t, ReadablePayload F row) :
    ∃ t', runTable F.null actions t = .ok t' ∧ t'.map SqlTable.form = form ∧
      List.Forall₂ (KeptRow F) (rowsOf t) (rowsOf t') := by
  let I : List (List V) → Prop := List.Forall₂ (fun first row =>
    first.length = columnCount (t.map SqlTable.form) ∧ KeptRow F first row ∧
      (extracting = true → ReadablePayload F row)) (rowsOf t)
  have hfirst : I (rowsOf t) := by
    refine List.forall₂_same.2 fun row hrow => ⟨?_, .refl F row, fun he => hreadable he row hrow⟩
    cases t with
    | none => cases hrow
    | some table => exact hwide table rfl row hrow
  have hstep : ∀ form, ∀ action ∈ actions, ∀ rows,
      keeps (columnCount (t.map SqlTable.form)) extracting form action.formAction = true → I rows →
        ∃ rows', actRows F.null form action rows = .ok rows' ∧ I rows' := by
    intro form action hmem rows hkeeps hI
    cases action with
    | form a =>
        cases a with
        | addColumn column =>
            refine ⟨rows.map fun row => row ++ [F.null], rfl, ?_⟩
            exact List.forall₂_map_right_iff.2 (hI.imp fun _ _ ⟨hwidth, hkept, hreadable⟩ =>
              ⟨hwidth, hkept.append F.null, fun he => (hreadable he).append⟩)
        | _ => exact ⟨rows, rfl, hI⟩
    | update column reads value =>
        refine exists_mapM_forall₂ (fun first row h => ?_) hI
        rcases h with ⟨hwidth, hkept, hreadable⟩
        rcases updateRow_journal (hactions _ hmem) hkeeps hwidth hkept hreadable with
          ⟨row', hrow', hkept', hreadable'⟩
        exact ⟨row', hrow', hwidth, hkept', hreadable'⟩
  rcases exists_runTable _ I hstep halong hfirst (fun hnone => by subst hnone; exact hfirst) hform
    with ⟨t', ht', hI'⟩
  refine ⟨t', ht', ?_, hI'.imp fun _ _ h => h.2.1⟩
  exact Except.ok.inj ((form_of_runTable ht').symm.trans hform)

/-- An update that extracts from the payload of every row whose column is still empty. -/
inductive Extracting (F : SqlFunctions V) : TableAction V → String → Prop
  | key : Extracting F (setIdempotencyKey F) "idempotency_key"
  | id : Extracting F (setOrderIntentId F) "order_intent_id"

theorem extract_malformed {v : V} (h : F.malformed v = true) (path : String) :
    F.extract v path = .error .malformedJson :=
  if_pos h

theorem newIdempotencyKey_malformed {old payload : V} (hold : F.isNull old = true)
    (h : F.malformed payload = true) :
    newIdempotencyKey F old payload = .error .malformedJson := by
  unfold newIdempotencyKey
  rw [if_pos hold, extract_malformed h]
  rfl

theorem newOrderIntentId_malformed {old payload : V} (hold : F.isNull old = true)
    (h : F.malformed payload = true) :
    newOrderIntentId F old payload = .error .malformedJson := by
  unfold newOrderIntentId
  rw [if_pos hold, extract_malformed h]
  rfl

/-- A row at which such an update fails. -/
theorem actRows_extracting {action : TableAction V} {column : String}
    (haction : Extracting F action column) {form : TableForm} {rows rows' : List (List V)}
    {row : List V} (hmem : row ∈ rows) (hpayload : form.names.idxOf "payload_json" = 4)
    (hnull : row.getD (form.names.idxOf column) F.null = F.null)
    (hmalformed : ¬ ReadablePayload F row) : actRows F.null form action rows ≠ .ok rows' := by
  have hmalformed' : F.malformed (form.read F.null row "payload_json") = true := by
    rw [TableForm.read, hpayload]
    exact Bool.of_not_eq_false hmalformed
  have hempty : F.isNull (form.read F.null row column) = true := by
    rw [TableForm.read, hnull]
    exact F.isNull_null
  cases haction with
  | key =>
      exact mapM_of_error hmem (updateRow_of_error (newIdempotencyKey_malformed hempty hmalformed'))
  | id =>
      exact mapM_of_error hmem (updateRow_of_error (newOrderIntentId_malformed hempty hmalformed'))

/-- Statements that add the column and then extract fail at a malformed payload. -/
theorem runTable_extracting {forms : List FormAction} {action : TableAction V} {column : String}
    {rest : List (TableAction V)} {table : SqlTable V} {t' : Option (SqlTable V)}
    (haction : Extracting F action column)
    (hforms : ∀ form, runForm forms (some table.form) = .ok (some form) →
      form.names.idxOf "payload_json" = 4 ∧ table.form.columns.length ≤ form.names.idxOf column)
    (hwide : Wide (some table)) {row : List V} (hrow : row ∈ table.rows)
    (hmalformed : ¬ ReadablePayload F row) :
    runTable F.null (forms.map TableAction.form ++ action :: rest) (some table) ≠ .ok t' := by
  intro hrun
  rcases runTable_append.1 hrun with ⟨u, hu, hrun⟩
  rcases bind_eq_ok.1 hrun with ⟨u', hu', -⟩
  have hform := form_of_runTable hu
  rw [List.map_map, show TableAction.formAction ∘ TableAction.form (V := V) = id from rfl,
    List.map_id] at hform
  rcases List.mem_iff_get.1 hrow with ⟨i, rfl⟩
  rcases List.forall₂_iff_get.1 (rows_of_forms hu) with ⟨hlen, hget⟩
  cases u with
  | none =>
      have hrows : table.rows.length = 0 := hlen
      have hi := i.2
      omega
  | some grown =>
      rcases hforms grown.form hform with ⟨hpayload, hcolumn⟩
      rcases actTable_eq_ok.1 hu' with ⟨form, hact, ⟨rfl, -⟩ | ⟨f, -, hnone, -⟩ |
        ⟨f, before, rows, -, hbefore, hact, -⟩⟩
      · rcases act_of_actForm hact with ⟨f, hnone, -⟩
        cases hnone
      · cases hnone
      · obtain rfl := Option.some.inj hbefore
        have hi : i.1 < grown.rows.length := hlen ▸ i.2
        rcases hget i.1 i.2 hi with ⟨m, hgrown⟩
        have hwidth := hwide table rfl _ (List.get_mem _ i)
        have hmem : table.rows.get i ++ List.replicate m F.null ∈ grown.rows :=
          hgrown ▸ List.get_mem grown.rows ⟨i.1, hi⟩
        refine actRows_extracting haction hmem hpayload ?_ (fun h => hmalformed ?_) hact
        · rw [getD_grown]
          exact List.getD_eq_default _ _ (hwidth.trans_le hcolumn)
        · exact (congrArg F.malformed (getD_grown _ m 4)).symm.trans h

/-! ## The loop over the files -/

variable (F)

def migrationFilenames : List String :=
  (migrations plainFunctions).map Prod.fst

theorem fst_migrations : (migrations F).map Prod.fst = migrationFilenames := rfl

theorem nodup_migrationFilenames : migrationFilenames.Nodup := by
  decide +kernel

theorem foldlM_recorded {migrations : List (String × List (SqlStatement TableName V))}
    {versions : List String} (h : ∀ migration ∈ migrations, migration.1 ∈ versions)
    (tables : Tables V) :
    migrations.foldlM (applyMigration F) (versions, tables) = .ok (versions, tables) := by
  induction migrations with
  | nil => rfl
  | cons migration migrations ih =>
      rw [List.foldlM_cons, applyMigration, if_pos (h migration List.mem_cons_self)]
      exact ih fun later hlater => h later (List.mem_cons_of_mem _ hlater)

theorem foldlM_new {migrations : List (String × List (SqlStatement TableName V))}
    {versions : List String} (hnew : ∀ migration ∈ migrations, migration.1 ∉ versions)
    (hnodup : (migrations.map Prod.fst).Nodup) {tables : Tables V}
    {state : List String × Tables V} :
    migrations.foldlM (applyMigration F) (versions, tables) = .ok state ↔
      ∃ tables', runStatementList F.null (migrations.flatMap Prod.snd) tables = .ok tables' ∧
        state = (versions ++ migrations.map Prod.fst, tables') := by
  induction migrations generalizing versions tables with
  | nil => simp [runStatementList, pure, Except.pure, eq_comm]
  | cons migration migrations ih =>
      rw [List.map_cons, List.nodup_cons] at hnodup
      have hlater : ∀ later ∈ migrations, later.1 ∉ versions ++ [migration.1] := by
        intro later hmem h
        rcases List.mem_append.1 h with h | h
        · exact hnew later (List.mem_cons_of_mem _ hmem) h
        · exact hnodup.1 (List.mem_singleton.1 h ▸ List.mem_map_of_mem hmem)
      rw [List.foldlM_cons, applyMigration, if_neg (hnew migration List.mem_cons_self),
        List.flatMap_cons]
      simp only [bind_eq_ok, List.map_cons, runStatementList_append]
      constructor
      · rintro ⟨_, ⟨tables₁, hrun, h⟩, hrest⟩
        obtain rfl := Except.ok.inj h
        rcases (ih hlater hnodup.2).1 hrest with ⟨tables', hrun', rfl⟩
        exact ⟨tables', ⟨tables₁, hrun, hrun'⟩, by rw [List.append_assoc]; rfl⟩
      · rintro ⟨tables', ⟨tables₁, hrun, hrun'⟩, rfl⟩
        refine ⟨_, ⟨tables₁, hrun, rfl⟩, (ih hlater hnodup.2).2 ⟨tables', hrun', ?_⟩⟩
        rw [List.append_assoc]
        rfl

/-- The loop over a database that records the first files. -/
theorem foldlM_migrations {k : Nat} {tables : Tables V} {state : List String × Tables V} :
    (migrations F).foldlM (applyMigration F) (migrationFilenames.take k, tables) = .ok state ↔
      ∃ tables', runStatementList F.null (statementsFrom F k) tables = .ok tables' ∧
        state = (migrationFilenames, tables') := by
  have hnodup := nodup_migrationFilenames
  rw [← List.take_append_drop k migrationFilenames, List.nodup_append] at hnodup
  rcases hnodup with ⟨-, hnodup, hdisjoint⟩
  have hrecorded : ∀ migration ∈ (migrations F).take k,
      migration.1 ∈ migrationFilenames.take k := by
    intro migration hmem
    rw [← fst_migrations F, ← List.map_take]
    exact List.mem_map_of_mem hmem
  have hnew : ∀ migration ∈ (migrations F).drop k,
      migration.1 ∉ migrationFilenames.take k := by
    intro migration hmem h
    have hdrop : migration.1 ∈ migrationFilenames.drop k := by
      rw [← fst_migrations F, ← List.map_drop]
      exact List.mem_map_of_mem hmem
    exact hdisjoint _ h _ hdrop rfl
  have hnames : ((migrations F).drop k).map Prod.fst = migrationFilenames.drop k := by
    rw [List.map_drop, fst_migrations]
  conv => lhs; rw [← List.take_append_drop k (migrations F), List.foldlM_append]
  rw [foldlM_recorded F hrecorded]
  refine (foldlM_new F hnew (hnames ▸ hnodup)).trans ?_
  rw [hnames, List.take_append_drop]
  rfl

/-! ## Convergence -/

/-- Every table in the form that all files give it. -/
def Migrated (tables : Tables V) : Prop :=
  ∀ table, (tables table).map SqlTable.form = formAfter 18 table

theorem ensure_migrated {tables : Tables V} (h : Migrated tables) :
    ensureOrderIntentJournalSymbolColumn F tables = .ok tables ∧
      ensureOrderIntentJournalRequestedAtColumn F tables = .ok tables := by
  have hnames : ∀ form, formAfter 18 orderIntentJournal = some form →
      "symbol" ∈ form.names ∧ "requested_at" ∈ form.names := by
    decide +kernel
  unfold ensureOrderIntentJournalSymbolColumn ensureOrderIntentJournalRequestedAtColumn
  cases hjournal : tables orderIntentJournal with
  | none => exact ⟨rfl, rfl⟩
  | some journal =>
      have hform := h orderIntentJournal
      rw [hjournal] at hform
      rcases hnames journal.form hform.symm with ⟨hsymbol, hrequested⟩
      exact ⟨if_pos hsymbol, if_pos hrequested⟩

/-- The migrations from a database that, after the repair, records the first files. -/
theorem applyMigrations_eq_ok {db : MigrationDatabase V} {k : Nat}
    (hversions : repairedVersions (db.versions.getD []) db.tables = migrationFilenames.take k)
    {tables : Tables V}
    (hrun : ∀ table, runTable F.null (actionsOn table (statementsFrom F k)) (db.tables table) =
      .ok (tables table)) (hmigrated : Migrated tables) :
    applyMigrations F db = .ok ⟨some migrationFilenames, tables⟩ := by
  have hloop : (migrations F).foldlM (applyMigration F)
      (migrationFilenames.take k, db.tables) = .ok (migrationFilenames, tables) :=
    (foldlM_migrations F).2 ⟨tables, runStatements_eq_ok.2 hrun, rfl⟩
  unfold applyMigrations
  rw [hversions, hloop]
  simp only [bind, Except.bind, (ensure_migrated F hmigrated).1, (ensure_migrated F hmigrated).2]
  rfl

/-- No file of a run fails. -/
theorem exists_run_of_applyMigrations {db db' : MigrationDatabase V} {k : Nat}
    (hversions : repairedVersions (db.versions.getD []) db.tables = migrationFilenames.take k)
    (h : applyMigrations F db = .ok db') (table : TableName) :
    ∃ t', runTable F.null (actionsOn table (statementsFrom F k)) (db.tables table) = .ok t' := by
  unfold applyMigrations at h
  rcases bind_eq_ok.1 h with ⟨state, hloop, -⟩
  rw [hversions] at hloop
  rcases (foldlM_migrations F).1 hloop with ⟨tables, hrun, -⟩
  exact ⟨tables table, runStatements_eq_ok.1 hrun table⟩

/-- A migrated database stays as it is. -/
theorem applyMigrations_migrated {tables : Tables V} (h : Migrated tables) :
    applyMigrations F ⟨some migrationFilenames, tables⟩ =
      .ok ⟨some migrationFilenames, tables⟩ := by
  have hpresent : (tables workerInstances).isNone = false := by
    have hform := h workerInstances
    cases hnone : tables workerInstances with
    | none =>
        rw [hnone] at hform
        have hsome : formAfter 18 workerInstances ≠ none := by
          decide +kernel
        exact absurd hform.symm hsome
    | some table => rfl
  refine applyMigrations_eq_ok F (k := 18) ?_ (fun table => ?_) h
  · rw [repairedVersions, hpresent]
    rfl
  · rfl

/-- The migrations succeed, reach the form of a new database, keep the order intents, and change
nothing when run again. -/
def Converges (db : MigrationDatabase V) : Prop :=
  ∃ db' fresh, applyMigrations F db = .ok db' ∧
    applyMigrations F ⟨none, fun _ => none⟩ = .ok fresh ∧
    (∀ table, (db'.tables table).map SqlTable.form = (fresh.tables table).map SqlTable.form) ∧
    List.Forall₂ (KeptRow F) (rowsOf (db.tables orderIntentJournal))
      (rowsOf (db'.tables orderIntentJournal)) ∧
    applyMigrations F db' = .ok db'

/-- A run of the files on a table of which no row is updated. -/
theorem exists_run_other {k : Nat} {table : TableName} (htable : table ≠ orderIntentJournal)
    {t : Option (SqlTable V)} {form : Option TableForm}
    (hform : runForm (formsOn table (formScript.drop k)) (t.map SqlTable.form) = .ok form) :
    ∃ t', runTable F.null (actionsOn table (statementsFrom F k)) t = .ok t' ∧
      t'.map SqlTable.form = form := by
  rw [← formActions_statementsFrom F] at hform
  have hstep : ∀ form, ∀ action ∈ actionsOn table (statementsFrom F k), ∀ rows,
      (fun _ _ => true) form action.formAction = true → True →
        ∃ rows', actRows F.null form action rows = .ok rows' ∧ True := by
    intro form action hmem rows _ _
    rcases formAction_of_mem F htable hmem with ⟨a, rfl⟩
    cases a <;> exact ⟨_, rfl, trivial⟩
  rcases exists_runTable (fun _ _ => true) (fun _ => True) hstep (along_true _ _) trivial
    (fun _ => trivial) hform with ⟨t', ht', -⟩
  exact ⟨t', ht', Except.ok.inj ((form_of_runTable ht').symm.trans hform)⟩

/-- What the migrations of a new database leave. -/
theorem exists_fresh : ∃ fresh, applyMigrations F ⟨none, fun _ => none⟩ = .ok fresh ∧
    Migrated fresh.tables := by
  have hrun : ∀ table, ∃ t', runTable F.null (actionsOn table (statementsFrom F 0)) none =
      .ok t' ∧ t'.map SqlTable.form = formAfter 18 table := by
    intro table
    have hform := runForm_formAfter (Nat.zero_le 18) table
    rw [formAfter_zero] at hform
    by_cases htable : table = orderIntentJournal
    · subst htable
      rw [← formActions_statementsFrom F] at hform
      have halong : Along (keeps 0 true) none (formsOn orderIntentJournal (formScript.drop 0)) =
          true := by
        decide +kernel
      rw [← formActions_statementsFrom F] at halong
      rcases exists_run_journal (t := none) (fun action hmem => journalAction_of_mem F hmem) halong
        hform (fun _ h => by cases h) (fun _ _ h => by cases h) with ⟨t', ht', hform', -⟩
      exact ⟨t', ht', hform'⟩
    · exact exists_run_other F htable (t := none) hform
  choose tables htables hmigrated using hrun
  exact ⟨_, applyMigrations_eq_ok F (k := 0) rfl htables hmigrated, hmigrated⟩

/-- What convergence takes of the other tables and of the journal. -/
theorem converges_of_runs {db : MigrationDatabase V} {k : Nat}
    (hversions : repairedVersions (db.versions.getD []) db.tables = migrationFilenames.take k)
    (hothers : ∀ table ≠ orderIntentJournal,
      runForm (formsOn table (formScript.drop k)) ((db.tables table).map SqlTable.form) =
        .ok (formAfter 18 table))
    (hjournal : ∃ t', runTable F.null (actionsOn orderIntentJournal (statementsFrom F k))
      (db.tables orderIntentJournal) = .ok t' ∧
        t'.map SqlTable.form = formAfter 18 orderIntentJournal ∧
          List.Forall₂ (KeptRow F) (rowsOf (db.tables orderIntentJournal)) (rowsOf t')) :
    Converges F db := by
  have hrun : ∀ table, ∃ t', runTable F.null (actionsOn table (statementsFrom F k))
      (db.tables table) = .ok t' ∧ t'.map SqlTable.form = formAfter 18 table ∧
        (table = orderIntentJournal → List.Forall₂ (KeptRow F) (rowsOf (db.tables table))
          (rowsOf t')) := by
    intro table
    by_cases htable : table = orderIntentJournal
    · subst htable
      rcases hjournal with ⟨t', ht', hform, hkept⟩
      exact ⟨t', ht', hform, fun _ => hkept⟩
    · rcases exists_run_other F htable (hothers table htable) with ⟨t', ht', hform⟩
      exact ⟨t', ht', hform, fun h => absurd h htable⟩
  choose tables htables hmigrated hkept using hrun
  rcases exists_fresh F with ⟨fresh, hfresh, hforms⟩
  exact ⟨_, fresh, applyMigrations_eq_ok F hversions htables hmigrated, hfresh,
    fun table => (hmigrated table).trans (hforms table).symm, hkept orderIntentJournal rfl,
    applyMigrations_migrated F hmigrated⟩

/-- The first files applied: their versions recorded and their tables made, with any rows. -/
structure AppliedFirst (k : Nat) (db : MigrationDatabase V) : Prop where
  le : k ≤ 18
  versions : db.versions.getD [] = migrationFilenames.take k
  forms : ∀ table, (db.tables table).map SqlTable.form = formAfter k table
  wide : Wide (db.tables orderIntentJournal)

/-- Versions recorded and {lit}`worker_instances` gone; any of the other tables there, each in a form
that the files once gave it. -/
structure RepairTarget (db : MigrationDatabase V) : Prop where
  recorded : 0 < (db.versions.getD []).length
  absent : db.tables workerInstances = none
  others : ∀ table, db.tables table = none ∨
    ∃ k ≤ 18, (db.tables table).map SqlTable.form = formAfter k table
  wide : Wide (db.tables orderIntentJournal)

def ReadableJournal (db : MigrationDatabase V) : Prop :=
  ∀ row ∈ rowsOf (db.tables orderIntentJournal), ReadablePayload F row

/-- Where the files from a position on first extract from the payloads of a journal. -/
structure FirstExtraction (k : Nat) (before : TableForm) where
  forms : List FormAction
  action : TableAction V
  column : String
  rest : List (TableAction V)
  extracting : Extracting F action column
  split : actionsOn orderIntentJournal (statementsFrom F k) =
    forms.map TableAction.form ++ action :: rest
  fits : ∀ form, runForm forms (some before) = .ok (some form) →
    form.names.idxOf "payload_json" = 4 ∧ before.columns.length ≤ form.names.idxOf column

/-- Whether the form found after statements has the payload where it was, and the column after all
old ones. -/
def fitsExtraction (forms : List FormAction) (before : Option TableForm) (column : String) : Bool :=
  match runForm forms before with
  | .ok (some form) => form.names.idxOf "payload_json" = 4 &&
      columnCount before ≤ form.names.idxOf column
  | _ => true

theorem fits_of_fitsExtraction {forms : List FormAction} {before : TableForm} {column : String}
    (h : fitsExtraction forms (some before) column = true) (form : TableForm)
    (hform : runForm forms (some before) = .ok (some form)) :
    form.names.idxOf "payload_json" = 4 ∧ before.columns.length ≤ form.names.idxOf column := by
  unfold fitsExtraction at h
  rw [hform] at h
  simp only [Bool.and_eq_true, decide_eq_true_eq] at h
  exact h

/-- Where the key of the payloads is set first. -/
def keyExtraction {k : Nat} {before : TableForm} (hk : k ≤ 11)
    (hfits : fitsExtraction (formsOn orderIntentJournal ((formScript.take 11).drop k) ++
      [.addColumn ⟨"idempotency_key", "TEXT"⟩]) (some before) "idempotency_key" = true) :
    FirstExtraction F k before where
  forms := formsOn orderIntentJournal ((formScript.take 11).drop k) ++
    [.addColumn ⟨"idempotency_key", "TEXT"⟩]
  action := setIdempotencyKey F
  column := "idempotency_key"
  rest := actionsOn orderIntentJournal ((addIdempotencyKey F).drop 2 ++ statementsFrom F 12)
  extracting := .key
  split := by interval_cases k <;> rfl
  fits := fits_of_fitsExtraction hfits

/-- Where the order intent id is set first. -/
def idExtraction {before : TableForm}
    (hfits : fitsExtraction [.addColumn ⟨"order_intent_id", "INTEGER"⟩] (some before)
      "order_intent_id" = true) :
    FirstExtraction F 12 before where
  forms := [.addColumn ⟨"order_intent_id", "INTEGER"⟩]
  action := setOrderIntentId F
  column := "order_intent_id"
  rest := actionsOn orderIntentJournal ((addOrderIntentId F).drop 2 ++ statementsFrom F 13)
  extracting := .id
  split := rfl
  fits := fits_of_fitsExtraction hfits

/-- A malformed payload stops the files before they are through. -/
theorem not_converges_of_malformed {db : MigrationDatabase V} {k : Nat} {journal : SqlTable V}
    (hversions : repairedVersions (db.versions.getD []) db.tables = migrationFilenames.take k)
    (hjournal : db.tables orderIntentJournal = some journal)
    (hextraction : FirstExtraction F k journal.form) (hwide : Wide (some journal))
    {row : List V} (hrow : row ∈ journal.rows) (hmalformed : ¬ ReadablePayload F row) :
    ¬ Converges F db := by
  rintro ⟨db', fresh, happly, -⟩
  rcases exists_run_of_applyMigrations F hversions happly orderIntentJournal with ⟨t', hrun⟩
  rw [hjournal, hextraction.split] at hrun
  exact runTable_extracting hextraction.extracting hextraction.fits hwide hrow hmalformed hrun

theorem repairedVersions_of_appliedFirst {k : Nat} {db : MigrationDatabase V}
    (h : AppliedFirst k db) :
    repairedVersions (db.versions.getD []) db.tables = migrationFilenames.take k := by
  have hpresent : ∀ k < 19, 0 < k → (formAfter k workerInstances).isNone = false := by
    decide +kernel
  rw [h.versions, repairedVersions]
  rcases Nat.eq_zero_or_pos k with rfl | hk
  · simp
  · have hform := hpresent k (by have hle := h.le; omega) hk
    rw [← h.forms, Option.isNone_map] at hform
    rw [hform]
    rfl

theorem converges_of_appliedFirst {k : Nat} {db : MigrationDatabase V} (h : AppliedFirst k db) :
    Converges F db ↔ 13 ≤ k ∨ ReadableJournal F db := by
  have hle := h.le
  have hversions := repairedVersions_of_appliedFirst h
  have halong : ∀ k < 19, Along (keeps (columnCount (formAfter k orderIntentJournal))
      (decide (k < 13))) (formAfter k orderIntentJournal)
        (formsOn orderIntentJournal (formScript.drop k)) = true := by
    decide +kernel
  constructor
  · intro hconverges
    by_contra hnot
    rw [not_or, Nat.not_le] at hnot
    rcases hnot with ⟨hk, hmalformed⟩
    unfold ReadableJournal at hmalformed
    push Not at hmalformed
    rcases hmalformed with ⟨row, hrow, hmalformed⟩
    cases hjournal : db.tables orderIntentJournal with
    | none =>
        rw [hjournal] at hrow
        cases hrow
    | some journal =>
        rw [hjournal] at hrow
        have hform := h.forms orderIntentJournal
        have hwide := h.wide
        rw [hjournal] at hform hwide
        have hkey : ∀ k < 12, formAfter k orderIntentJournal = none ∨
            fitsExtraction (formsOn orderIntentJournal ((formScript.take 11).drop k) ++
              [.addColumn ⟨"idempotency_key", "TEXT"⟩]) (formAfter k orderIntentJournal)
                "idempotency_key" = true := by
          decide +kernel
        have hid : fitsExtraction [.addColumn ⟨"order_intent_id", "INTEGER"⟩]
            (formAfter 12 orderIntentJournal) "order_intent_id" = true := by
          decide +kernel
        rcases Nat.lt_or_ge k 12 with hlt | hge
        · have hfits := hkey k hlt
          rw [← hform] at hfits
          exact not_converges_of_malformed F hversions hjournal
            (keyExtraction F (by omega) (hfits.resolve_left (by simp))) hwide hrow hmalformed
            hconverges
        · obtain rfl : k = 12 := by omega
          rw [← hform] at hid
          exact not_converges_of_malformed F hversions hjournal (idExtraction F hid) hwide hrow
            hmalformed hconverges
  · intro hcondition
    have hform : ∀ table, runForm (formsOn table (formScript.drop k))
        ((db.tables table).map SqlTable.form) = .ok (formAfter 18 table) := by
      intro table
      rw [h.forms]
      exact runForm_formAfter hle table
    refine converges_of_runs F hversions (fun table _ => hform table) ?_
    have hjournal := hform orderIntentJournal
    have hkeeps := halong k (by omega)
    rw [← formActions_statementsFrom F] at hjournal hkeeps
    rw [← h.forms] at hkeeps
    refine exists_run_journal (fun action hmem => journalAction_of_mem F hmem) hkeeps hjournal
      h.wide fun hk row hrow => ?_
    have hlt : k < 13 := of_decide_eq_true hk
    exact hcondition.resolve_left (by omega) row hrow

theorem converges_of_repairTarget {db : MigrationDatabase V} (h : RepairTarget db) :
    Converges F db ↔ db.tables orderIntentJournal = none ∨
      (db.tables orderIntentJournal).map SqlTable.form = formAfter 8 orderIntentJournal ∧
        ReadableJournal F db := by
  have hversions : repairedVersions (db.versions.getD []) db.tables =
      migrationFilenames.take 0 := by
    rw [repairedVersions, h.absent, if_pos Option.isNone_none, if_pos h.recorded]
    rfl
  constructor
  · intro hconverges
    cases hjournal : db.tables orderIntentJournal with
    | none => exact .inl rfl
    | some journal =>
        have hwide := h.wide
        rw [hjournal] at hwide
        rcases (h.others orderIntentJournal).resolve_left (by simp [hjournal]) with ⟨k, hk, hform⟩
        rw [hjournal] at hform
        have hfirst : (some journal).map SqlTable.form = formAfter 8 orderIntentJournal := by
          by_contra hne
          rcases hconverges with ⟨db', fresh, happly, -⟩
          rcases exists_run_of_applyMigrations F hversions happly orderIntentJournal with
            ⟨t', hrun⟩
          have hrunForm := form_of_runTable hrun
          rw [formActions_statementsFrom, hjournal] at hrunForm
          exact runForm_journal_again hk hform.symm hne hrunForm
        refine .inr ⟨hfirst, ?_⟩
        by_contra hmalformed
        unfold ReadableJournal at hmalformed
        push Not at hmalformed
        rcases hmalformed with ⟨row, hrow, hmalformed⟩
        rw [hjournal] at hrow
        have hfits : fitsExtraction (formsOn orderIntentJournal ((formScript.take 11).drop 0) ++
            [.addColumn ⟨"idempotency_key", "TEXT"⟩]) (formAfter 8 orderIntentJournal)
              "idempotency_key" = true := by
          decide +kernel
        rw [← hfirst] at hfits
        exact not_converges_of_malformed F hversions hjournal
          (keyExtraction F (by omega) hfits) hwide hrow hmalformed hconverges
  · intro hcondition
    refine converges_of_runs F hversions (fun table htable => ?_) ?_
    · rcases h.others table with hnone | ⟨k, hk, hform⟩
      · have hform := runForm_formAfter (Nat.zero_le 18) table
        rw [formAfter_zero] at hform
        rw [hnone]
        exact hform
      · rw [hform]
        exact runForm_again hk htable
    · have hfrom : ∀ k ∈ [0, 8],
          Along (keeps (columnCount (formAfter k orderIntentJournal)) true)
            (formAfter k orderIntentJournal) (formsOn orderIntentJournal (formScript.drop 0)) =
              true ∧
          runForm (formsOn orderIntentJournal (formScript.drop 0))
            (formAfter k orderIntentJournal) = .ok (formAfter 18 orderIntentJournal) := by
        decide +kernel
      have hstart : ∃ k ∈ [0, 8], (db.tables orderIntentJournal).map SqlTable.form =
          formAfter k orderIntentJournal := by
        rcases hcondition with hnone | ⟨hform, -⟩
        · exact ⟨0, by simp, by rw [hnone, formAfter_zero]; rfl⟩
        · exact ⟨8, by simp, hform⟩
      rcases hstart with ⟨k, hk, hform⟩
      rcases hfrom k hk with ⟨hkeeps, hrun⟩
      rw [← formActions_statementsFrom F, ← hform] at hkeeps hrun
      refine exists_run_journal (fun action hmem => journalAction_of_mem F hmem) hkeeps hrun
        h.wide fun _ row hrow => ?_
      rcases hcondition with hnone | ⟨-, hreadable⟩
      · rw [hnone] at hrow
        cases hrow
      · exact hreadable row hrow

/-- A database after the first files, with rows in its journal. -/
def databaseAfter (k : Nat) (rows : List (List V)) : MigrationDatabase V where
  versions := some (migrationFilenames.take k)
  tables table := (formAfter k table).map fun form =>
    ⟨form, if table = orderIntentJournal then rows else []⟩

/-- A database whose {lit}`worker_instances` is gone. -/
def MigrationDatabase.withoutWorkers (db : MigrationDatabase V) : MigrationDatabase V :=
  { db with tables := Function.update db.tables workerInstances none }

@[simp]
theorem withoutWorkers_self (db : MigrationDatabase V) :
    db.withoutWorkers.tables workerInstances = none := by
  simp [MigrationDatabase.withoutWorkers]

theorem withoutWorkers_of_ne (db : MigrationDatabase V) {table : TableName}
    (h : table ≠ workerInstances) : db.withoutWorkers.tables table = db.tables table := by
  simp [MigrationDatabase.withoutWorkers, h]

theorem form_databaseAfter (k : Nat) (rows : List (List V)) (table : TableName) :
    ((databaseAfter k rows).tables table).map SqlTable.form = formAfter k table := by
  cases hform : formAfter k table <;> simp [databaseAfter, hform]

theorem wide_databaseAfter {k : Nat} {rows : List (List V)}
    (hwide : ∀ row ∈ rows, row.length = columnCount (formAfter k orderIntentJournal)) :
    Wide ((databaseAfter k rows).tables orderIntentJournal) := by
  intro table htable row hrow
  cases hform : formAfter k orderIntentJournal with
  | none => simp [databaseAfter, hform] at htable
  | some form =>
      simp only [databaseAfter, hform, Option.map_some, if_true, Option.some.injEq] at htable
      subst htable
      rw [hform] at hwide
      exact hwide row hrow

theorem appliedFirst_databaseAfter {k : Nat} (hk : k ≤ 18) {rows : List (List V)}
    (hwide : ∀ row ∈ rows, row.length = columnCount (formAfter k orderIntentJournal)) :
    AppliedFirst k (databaseAfter k rows) :=
  ⟨hk, rfl, form_databaseAfter k rows, wide_databaseAfter hwide⟩

theorem repairTarget_withoutWorkers {k : Nat} (hk : k ≤ 18) (hpos : 0 < k)
    {rows : List (List V)}
    (hwide : ∀ row ∈ rows, row.length = columnCount (formAfter k orderIntentJournal)) :
    RepairTarget (databaseAfter k rows).withoutWorkers where
  recorded := by
    have hlength : migrationFilenames.length = 18 := rfl
    simp only [MigrationDatabase.withoutWorkers, databaseAfter, Option.getD_some,
      List.length_take]
    omega
  absent := withoutWorkers_self _
  others table := by
    by_cases htable : table = workerInstances
    · exact .inl (htable ▸ withoutWorkers_self _)
    · refine .inr ⟨k, hk, ?_⟩
      rw [withoutWorkers_of_ne _ htable]
      exact form_databaseAfter k rows table
  wide := by
    rw [withoutWorkers_of_ne _ (by decide)]
    exact wide_databaseAfter hwide

/-- From the first files the migrations converge unless one of the two that extract is still to come
and meets a malformed payload.  From the state of the repair they converge when the journal is
absent, or has the form it was created with and no malformed payload. -/
theorem migrations_converge_iff :
    (∀ (k : Nat) (db : MigrationDatabase V), AppliedFirst k db →
      (Converges F db ↔ 13 ≤ k ∨ ReadableJournal F db)) ∧
    ∀ db : MigrationDatabase V, RepairTarget db →
      (Converges F db ↔ db.tables orderIntentJournal = none ∨
        (db.tables orderIntentJournal).map SqlTable.form = formAfter 8 orderIntentJournal ∧
          ReadableJournal F db) :=
  ⟨fun _ _ h => converges_of_appliedFirst F h, fun _ h => converges_of_repairTarget F h⟩

/-- SQLite on texts of which only {lit}`{}` is JSON. -/
def emptyObjectFunctions : SqlFunctions (Option String) where
  null := none
  emptyText := some ""
  isNull := Option.isNone
  malformed v := v.isSome && v ≠ some "\x7b\x7d"
  jsonValid v := v = some "\x7b\x7d"
  isObject v := v = some "\x7b\x7d"
  jsonExtract _ _ := none
  jsonRemove v _ := v
  trim := id
  castText := id
  castInteger := id
  isEmpty v := v = some ""
  stored _ := id
  isNull_null := rfl
  valid_not_malformed v h := by simp [of_decide_eq_true h]
  removed_not_malformed v path h := by simp [of_decide_eq_true h]

/-- An order intent as the journal first stored it. -/
def createdRow : List (Option String) :=
  [some "1", some "r-1", some "1", some "strategy", some "\x7b\x7d", none,
    some "2026-01-02T00:00:00Z", none]

theorem migrations_converge_created :
    Converges emptyObjectFunctions (databaseAfter 8 [createdRow]) ∧
      Converges emptyObjectFunctions (databaseAfter 8 [createdRow]).withoutWorkers := by
  have hwide : ∀ row ∈ [createdRow], row.length =
      columnCount (formAfter 8 orderIntentJournal) := by
    decide +kernel
  have hreadable : ∀ row ∈ [createdRow], emptyObjectFunctions.malformed
      (row.getD 4 emptyObjectFunctions.null) = false := by
    decide +kernel
  refine ⟨((migrations_converge_iff emptyObjectFunctions).1 8 _
    (appliedFirst_databaseAfter (by omega) hwide)).2 (.inr ?_),
    ((migrations_converge_iff emptyObjectFunctions).2 _
      (repairTarget_withoutWorkers (by omega) (by omega) hwide)).2 (.inr ⟨?_, ?_⟩)⟩
  · exact hreadable
  · exact form_databaseAfter 8 [createdRow] orderIntentJournal
  · exact hreadable

/-- A fully migrated database that lost {lit}`worker_instances`: the repair stops at an index on the
column that the last files renamed. -/
theorem repair_of_migrated_fails :
    RepairTarget (databaseAfter 18 ([] : List (List (Option String)))).withoutWorkers ∧
      ¬ Converges emptyObjectFunctions (databaseAfter 18 []).withoutWorkers := by
  refine ⟨repairTarget_withoutWorkers (by omega) (by omega) (fun _ h => by cases h), ?_⟩
  have hfails : (applyMigrations emptyObjectFunctions (databaseAfter 18 []).withoutWorkers).map
      (fun _ => ()) = .error .noSuchColumn := by
    decide +kernel
  rintro ⟨db', fresh, happly, -⟩
  rw [happly] at hfails
  cases hfails

end

end Persistence
end StrategyWorker
