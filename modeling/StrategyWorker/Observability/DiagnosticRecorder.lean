import Mathlib.Data.Prod.Lex
import StrategyWorker.Bootstrap.BootstrapPersistence
import StrategyWorker.Observability.DiagnosticEntry

/-!
# The diagnostic recorder

Two writers share the table {lit}`worker_diagnostics`.  The recorder keeps the
identity of the worker in the details of a row, and reads every row of a runtime
through the constructor of its entries; {lit}`append_diagnostic` writes the
details as they are.  The recorder then lists a runtime only when each row that
the other writer left for it names a worker in its details.

Main results:

- Theorem {lit}`diagnostics_afterAll`: the rows after a run of both writers.
- Theorem {lit}`exists_rowToEntry`: which rows are read, and as what.
- Theorem {lit}`diagnostics_readable_iff`: when every row of a runtime is listed
  and recorded entries come back equal.
- Theorem {lit}`not_survives_bootstrap`: the row of a failed bootstrap makes the
  diagnostics of its runtime unreadable.
-/

namespace StrategyWorker
namespace Observability

open Library Persistence
open Events (UtcDateTime)
open PyText

/-! ## The recorder -/

namespace SQLiteDiagnosticRecorder

/-- The row of an entry. -/
def entryRow (entry : DiagnosticEntry) (occurredAt observedAt : WireTs) (details : String) :
    DiagnosticRow where
  runtimeId := entry.runtimeId.val
  launchAttempt := entry.launchAttempt.val
  diagnosticType := entry.diagnosticType.val
  stage := none
  reasonCode := entry.reasonCode.val
  occurredAt := occurredAt
  observedAt := observedAt
  correlationId := entry.correlationId.val
  causationId := none
  details := some details

/-- {lit}`record(entry)`. -/
def record (room : Nat) (entry : DiagnosticEntry) (db : WorkerTables) :
    Except RecorderError WorkerTables := do
  let occurredAt ← (wireTs entry.observedAt.val).mapError .raised
  let observedAt ← (wireTs entry.observedAt.val).mapError .raised
  let details ← serializeDetails room entry.details entry.workerIdentity.val
  if ¬ db.workerInstances.contains entry.runtimeId.val then .error .integrityError
  else
    return { db with
      diagnostics := db.diagnostics ++ [entryRow entry occurredAt observedAt details] }

/-- The arguments of the entry of a row. -/
def rowArgs (row : DiagnosticRow) (workerIdentity : String) (details : PyMapping) :
    DiagnosticEntryArgs where
  runtimeId := row.runtimeId
  workerIdentity := workerIdentity
  launchAttempt := row.launchAttempt
  diagnosticType := row.diagnosticType
  observedAt := row.observedAt.datetime
  reasonCode := row.reasonCode
  details := some details
  correlationId := row.correlationId

/-- {lit}`_row_to_entry(row)`. -/
def rowToEntry (room : Nat) (row : DiagnosticRow) : Except RecorderError DiagnosticEntry := do
  let read ← (deserializeDetails room row.details).mapError .loads
  (DiagnosticEntry.make (rowArgs row read.1 read.2)).mapError .raised

/-- The rows of a runtime, in the order of their ids. -/
def diagnosticRows (db : WorkerTables) (runtimeId : String) : List DiagnosticRow :=
  db.diagnostics.filter fun row => row.runtimeId = runtimeId

/-- {lit}`ORDER BY observed_at, launch_attempt, diagnostic_type, id`. -/
def byRuntime :=
  OrderBy.ascending fun row : DiagnosticRow =>
    toLex (row.observedAt.text, toLex (row.launchAttempt, row.diagnosticType))

/-- {lit}`ORDER BY observed_at, diagnostic_type, id`. -/
def byAttempt :=
  OrderBy.ascending fun row : DiagnosticRow => toLex (row.observedAt.text, row.diagnosticType)

/-- {lit}`list_for_runtime(runtime_id)`. -/
def listForRuntime (room : Nat) (db : WorkerTables) (runtimeId : String) :
    Except RecorderError (List DiagnosticEntry) := do
  let normalized ← (requireNonEmpty runtimeId "runtime_id").mapError .raised
  (byRuntime.sort (diagnosticRows db normalized.val)).mapM (rowToEntry room)

/-- {lit}`list_for_runtime_attempt(runtime_id, launch_attempt)`. -/
def listForRuntimeAttempt (room : Nat) (db : WorkerTables) (runtimeId : String)
    (launchAttempt : Int) : Except RecorderError (List DiagnosticEntry) := do
  let normalized ← (requireNonEmpty runtimeId "runtime_id").mapError .raised
  let attempt ← (DiagnosticEntry.checkLaunchAttempt launchAttempt).mapError .raised
  (byAttempt.sort ((diagnosticRows db normalized.val).filter fun row =>
    row.launchAttempt = attempt.val)).mapM (rowToEntry room)

end SQLiteDiagnosticRecorder

/-! ## Runs -/

open SQLiteDiagnosticRecorder

/-- What the two writers are given; no dictionary has a key twice. -/
inductive Written where
  | record (entry : DiagnosticEntry) (hdetails : DetailsOf entry.details)
  | appendDiagnostic (diagnostic : DiagnosticRecord)
      (hkeys : ∀ d ∈ diagnostic.details, (d.map Prod.fst).Nodup)

def RecorderError.ofStore : StoreError → RecorderError
  | .raised e => .raised e
  | .integrityError => .integrityError

namespace Written

def runtimeId : Written → String
  | record entry _ => entry.runtimeId.val
  | appendDiagnostic diagnostic _ => diagnostic.runtimeId

def launchAttempt : Written → Int
  | record entry _ => entry.launchAttempt.val
  | appendDiagnostic diagnostic _ => diagnostic.launchAttempt

/-- The tables after a write; details that the interpreter cannot write raise. -/
def store (room : Nat) (db : WorkerTables) : Written → Except RecorderError WorkerTables
  | record entry _ => SQLiteDiagnosticRecorder.record room entry db
  | appendDiagnostic diagnostic _ =>
      if DetailsFit room diagnostic.details then
        (db.appendDiagnostic diagnostic).mapError RecorderError.ofStore
      else .error .recursionError

end Written

/-- A step of the program: a write, or a statement that leaves the diagnostics alone. -/
inductive Step where
  | write (w : Written)
  | other (statement : WorkerTables → WorkerTables)
      (hdiagnostics : ∀ db, (statement db).diagnostics = db.diagnostics)

/-- The tables after a step; a write that raises leaves them. -/
def after (room : Nat) (db : WorkerTables) : Step → WorkerTables
  | .write w => (w.store room db).toOption.getD db
  | .other statement _ => statement db

/-- The tables after steps in sequence. -/
def afterAll (room : Nat) (db : WorkerTables) : List Step → WorkerTables
  | [] => db
  | step :: steps => afterAll room (after room db step) steps

/-- The writes of a run that return. -/
def stored (room : Nat) (db : WorkerTables) : List Step → List Written
  | [] => []
  | .other statement h :: steps => stored room (after room db (.other statement h)) steps
  | .write w :: steps =>
      if (w.store room db).toOption.isSome then w :: stored room (after room db (.write w)) steps
      else stored room db steps

/-! ## Entries that are listed -/

namespace Written

/-- The write is listed as this entry: a recorded one as an equal one, another one with its
columns. -/
def ShownAs : Written → DiagnosticEntry → Prop
  | record entry _, listed => entry.equal listed = true
  | appendDiagnostic diagnostic _, listed =>
      listed.runtimeId.val = strip diagnostic.runtimeId ∧
        listed.launchAttempt.val = diagnostic.launchAttempt ∧
        listed.diagnosticType.val = strip diagnostic.diagnosticType ∧
        listed.reasonCode.val = diagnostic.reasonCode.map strip ∧
        listed.correlationId.val = diagnostic.correlationId.map strip ∧
        listed.observedAt.val.instant = diagnostic.observedAt.instant

/-- What a write needs to be listed: plain details of a recorded entry, and otherwise details that
name a worker and columns that the constructor of an entry takes. -/
def Survives : Written → Prop
  | record entry _ => DetailsSurvive entry.details
  | appendDiagnostic diagnostic _ =>
      strip diagnostic.diagnosticType ≠ "" ∧ 1 ≤ diagnostic.launchAttempt ∧
        (∀ t ∈ diagnostic.reasonCode, strip t ≠ "") ∧
        (∀ t ∈ diagnostic.correlationId, strip t ≠ "") ∧ NamesWorker diagnostic.details

end Written

/-- Each write is listed once. -/
def Lists (writes : List Written) (listed : List DiagnosticEntry) : Prop :=
  ∃ order, order.Perm writes ∧ List.Forall₂ Written.ShownAs order listed

/-- Both listings of a runtime return every row that the writes have left for it, and recorded
entries come back equal. -/
structure Readable (room : Nat) (db : WorkerTables) (runtimeId : String) (writes : List Written) :
    Prop where
  runtime : ∃ listed, listForRuntime room db runtimeId = .ok listed ∧ Lists writes listed
  attempt : ∀ launchAttempt, 1 ≤ launchAttempt →
    ∃ listed, listForRuntimeAttempt room db runtimeId launchAttempt = .ok listed ∧
      Lists (writes.filter fun w => w.launchAttempt = launchAttempt) listed

/-! ## Rows -/

variable {room : Nat} {db db' : WorkerTables}

/-- The row that a write leaves. -/
def Written.Leaves (room : Nat) : Written → DiagnosticRow → Prop
  | record entry _, row => ∃ details,
      serializeDetails room entry.details entry.workerIdentity.val = .ok details ∧
        row = entryRow entry (.ofUtc entry.observedAt) (.ofUtc entry.observedAt) details
  | appendDiagnostic diagnostic _, row => DetailsFit room diagnostic.details ∧
      ∃ occurredAt observedAt details, wireTs diagnostic.observedAt = .ok observedAt ∧
        toJsonOrNull diagnostic.details = .ok details ∧
          row = WorkerTables.diagnosticRow diagnostic occurredAt observedAt details

/-- A write that returns appends a row. -/
theorem store_eq_ok {w : Written} (h : w.store room db = .ok db') :
    ∃ row, w.Leaves room row ∧ db'.diagnostics = db.diagnostics ++ [row] := by
  cases w with
  | record entry hdetails =>
      rw [Written.store, SQLiteDiagnosticRecorder.record, wireTs_utc] at h
      simp only [bind_eq_ok, WorkerTables.mapError_eq_ok] at h
      rcases h with ⟨occurredAt, hoccurred, observedAt, hobserved, details, hdetails, h⟩
      obtain rfl := Except.ok.inj hoccurred
      obtain rfl := Except.ok.inj hobserved
      split at h
      · cases h
      · obtain rfl := Except.ok.inj h
        exact ⟨_, ⟨details, hdetails, rfl⟩, rfl⟩
  | appendDiagnostic diagnostic hkeys =>
      rw [Written.store] at h
      split at h
      · rename_i hfit
        rw [WorkerTables.mapError_eq_ok, WorkerTables.appendDiagnostic_eq_ok] at h
        rcases h with ⟨occurredAt, observedAt, details, -, hobserved, hdetails, -, rfl⟩
        exact ⟨_, ⟨hfit, occurredAt, observedAt, details, hobserved, hdetails, rfl⟩, rfl⟩
      · cases h

/-- The rows after a run of both writers. -/
theorem diagnostics_afterAll (room : Nat) (db : WorkerTables) (steps : List Step) :
    ∃ rows, (afterAll room db steps).diagnostics = db.diagnostics ++ rows ∧
      List.Forall₂ (Written.Leaves room) (stored room db steps) rows := by
  induction steps generalizing db with
  | nil => exact ⟨[], (List.append_nil _).symm, .nil⟩
  | cons step steps ih =>
      rcases ih (after room db step) with ⟨rows, hrows, hleaves⟩
      cases step with
      | other statement hdiagnostics =>
          refine ⟨rows, ?_, hleaves⟩
          rw [afterAll, hrows, after, hdiagnostics]
      | write w =>
          cases hstore : w.store room db with
          | error e =>
              have hafter : after room db (.write w) = db := by
                rw [after, hstore]
                rfl
              rw [hafter] at hrows hleaves
              refine ⟨rows, ?_, ?_⟩
              · rw [afterAll, hafter, hrows]
              · rw [stored, hstore]
                exact hleaves
          | ok db' =>
              have hafter : after room db (.write w) = db' := by
                rw [after, hstore]
                rfl
              rcases store_eq_ok hstore with ⟨row, hrow, happend⟩
              refine ⟨row :: rows, ?_, ?_⟩
              · rw [afterAll, hrows, hafter, happend, List.append_assoc, List.singleton_append]
              · rw [stored, hstore]
                exact .cons hrow hleaves

/-! ## What is read of a row -/

theorem strip_optional (t : Domain.OptionalText) : t.val.map strip = t.val := by
  rcases t with ⟨value, hvalue⟩
  cases value with
  | none => rfl
  | some text => exact congrArg some (hvalue text rfl).2

/-- The arguments that are read of the row of an entry. -/
def entryArgs (entry : DiagnosticEntry) (details : PyMapping) : DiagnosticEntryArgs where
  runtimeId := entry.runtimeId.val
  workerIdentity := entry.workerIdentity.val
  launchAttempt := entry.launchAttempt.val
  diagnosticType := entry.diagnosticType.val
  observedAt := entry.observedAt.val
  reasonCode := entry.reasonCode.val
  details := some details
  correlationId := entry.correlationId.val

theorem rowArgs_entryRow (entry : DiagnosticEntry) (details : String) (rest : PyMapping) :
    rowArgs (entryRow entry (.ofUtc entry.observedAt) (.ofUtc entry.observedAt) details)
      entry.workerIdentity.val rest = entryArgs entry rest := by
  simp only [rowArgs, entryRow, entryArgs, WireTs.datetime_ofUtc]

/-- The arguments of an entry give the entry. -/
theorem make_entryArgs (entry : DiagnosticEntry) (rest : PyMapping) :
    DiagnosticEntry.make (entryArgs entry rest) = .ok { entry with details := some rest } := by
  rw [DiagnosticEntry.make_eq_ok]
  simp only [entryArgs, strip_optional, entry.runtimeId.property.2,
    entry.workerIdentity.property.2, entry.diagnosticType.property.2, requireAwareUtc_utc,
    and_self]

/-- An entry comes back with what is read of its details. -/
theorem rowToEntry_entryRow {entry : DiagnosticEntry} {details : String} {rest : PyMapping}
    (h : deserializeDetails room (some details) = .ok (entry.workerIdentity.val, rest)) :
    rowToEntry room
        (entryRow entry (.ofUtc entry.observedAt) (.ofUtc entry.observedAt) details) =
      .ok { entry with details := some rest } := by
  have hdetails : (entryRow entry (.ofUtc entry.observedAt) (.ofUtc entry.observedAt)
      details).details = some details := rfl
  rw [rowToEntry, hdetails, h]
  simp only [Except.mapError, bind, Except.bind, rowArgs_entryRow, make_entryArgs]

theorem equal_details (entry : DiagnosticEntry) (rest : PyMapping) :
    entry.equal { entry with details := some rest } =
      DiagnosticEntry.sameDetails entry.details (some rest) := by
  simp [DiagnosticEntry.equal]

theorem isText_optional {value : Option String} (h : ∀ t ∈ value, strip t ≠ "") :
    ∀ text ∈ value.map strip, IsText text := by
  intro text htext
  rcases Option.map_eq_some_iff.1 htext with ⟨t, ht, rfl⟩
  exact isText_strip (h t ht)

theorem strip_ne_empty_of_optional {value : Option String} {t : Domain.OptionalText}
    (h : t.val = value.map strip) : ∀ text ∈ value, strip text ≠ "" := by
  rintro text rfl
  exact (t.property (strip text) (by rw [h]; rfl)).1

section

variable {diagnostic : DiagnosticRecord} {hkeys : ∀ d ∈ diagnostic.details, (d.map Prod.fst).Nodup}
  {row : DiagnosticRow} {listed : DiagnosticEntry}

/-- What is read of a row that the other writer has left. -/
theorem exists_rowToEntry_eq (h : (Written.appendDiagnostic diagnostic hkeys).Leaves room row) :
    ∃ identity rest utc, (strip identity ≠ "" ↔ NamesWorker diagnostic.details) ∧
      utc.val.instant = diagnostic.observedAt.instant ∧
      ∀ listed, rowToEntry room row = .ok listed ↔
        listed.runtimeId.val = strip diagnostic.runtimeId ∧
          listed.workerIdentity.val = strip identity ∧
          listed.diagnosticType.val = strip diagnostic.diagnosticType ∧
          listed.launchAttempt.val = diagnostic.launchAttempt ∧
          listed.reasonCode.val = diagnostic.reasonCode.map strip ∧
          listed.correlationId.val = diagnostic.correlationId.map strip ∧
          listed.observedAt = utc ∧ listed.details = some rest := by
  rcases h with ⟨hfit, occurredAt, observedAt, details, hobserved, hdetails, rfl⟩
  rcases exists_deserialize_toJsonOrNull hfit hkeys hdetails with ⟨identity, rest, hread, hnames⟩
  rcases observedAt.exists_ofUtc with ⟨utc, rfl⟩
  have hinstant := instant_wireTs hobserved
  rw [WireTs.datetime_ofUtc] at hinstant
  refine ⟨identity, rest, utc, hnames, hinstant, fun listed => ?_⟩
  have hcolumn : (WorkerTables.diagnosticRow diagnostic occurredAt (.ofUtc utc) details).details =
      details := rfl
  simp only [rowToEntry, hcolumn, hread, bind_eq_ok, WorkerTables.mapError_eq_ok, Except.ok.injEq,
    exists_eq_left', DiagnosticEntry.make_eq_ok]
  simp only [rowArgs, WorkerTables.diagnosticRow, WireTs.datetime_ofUtc, requireAwareUtc_utc,
    Except.ok.injEq, eq_comm (a := utc)]

/-- A row of the other writer is read when it names a worker and the columns are valid, and only
then. -/
theorem rowToEntry_append_iff (h : (Written.appendDiagnostic diagnostic hkeys).Leaves room row)
    (hid : strip diagnostic.runtimeId ≠ "") :
    (∃ listed, rowToEntry room row = .ok listed) ↔
      (Written.appendDiagnostic diagnostic hkeys).Survives := by
  rcases exists_rowToEntry_eq h with ⟨identity, rest, utc, hnames, -, hread⟩
  constructor
  · rintro ⟨listed, hlisted⟩
    rcases (hread listed).1 hlisted with ⟨-, hidentity, htype, hattempt, hreason, hcorrelation, -⟩
    refine ⟨?_, ?_, strip_ne_empty_of_optional hreason, strip_ne_empty_of_optional hcorrelation,
      hnames.1 ?_⟩
    · rw [← htype]
      exact listed.diagnosticType.property.1
    · rw [← hattempt]
      exact listed.launchAttempt.property
    · rw [← hidentity]
      exact listed.workerIdentity.property.1
  · rintro ⟨htype, hattempt, hreason, hcorrelation, hworker⟩
    refine ⟨⟨⟨_, isText_strip hid⟩, ⟨_, isText_strip (hnames.2 hworker)⟩, ⟨_, hattempt⟩,
      ⟨_, isText_strip htype⟩, utc, ⟨_, isText_optional hreason⟩, some rest,
      ⟨_, isText_optional hcorrelation⟩⟩, (hread _).2 ?_⟩
    exact ⟨rfl, rfl, rfl, rfl, rfl, rfl, rfl, rfl⟩

theorem shownAs_of_rowToEntry (h : (Written.appendDiagnostic diagnostic hkeys).Leaves room row)
    (hread : rowToEntry room row = .ok listed) :
    (Written.appendDiagnostic diagnostic hkeys).ShownAs listed := by
  rcases exists_rowToEntry_eq h with ⟨identity, rest, utc, -, hinstant, hiff⟩
  rcases (hiff listed).1 hread with
    ⟨hid, -, htype, hattempt, hreason, hcorrelation, hobserved, -⟩
  refine ⟨hid, hattempt, htype, hreason, hcorrelation, ?_⟩
  rw [hobserved]
  exact hinstant

end

/-- A write that survives is read as it should be. -/
theorem exists_rowToEntry {w : Written} {row : DiagnosticRow} (h : w.Leaves room row)
    (hid : strip w.runtimeId ≠ "") (hsurvives : w.Survives) :
    ∃ listed, rowToEntry room row = .ok listed ∧ w.ShownAs listed := by
  cases w with
  | record entry hdetails =>
      rcases h with ⟨details, hdetails', rfl⟩
      rcases equal_of_deserializeDetails hdetails hsurvives hdetails' with ⟨rest, hrest, hequal⟩
      refine ⟨_, rowToEntry_entryRow hrest, ?_⟩
      exact (equal_details entry rest).trans hequal
  | appendDiagnostic diagnostic hkeys =>
      rcases (rowToEntry_append_iff h hid).2 hsurvives with ⟨listed, hlisted⟩
      exact ⟨listed, hlisted, shownAs_of_rowToEntry h hlisted⟩

/-- The details of an entry that was read. -/
theorem details_of_rowToEntry {row : DiagnosticRow} {listed : DiagnosticEntry}
    (h : rowToEntry room row = .ok listed) :
    ∃ read : PyDict, listed.details = some (.ofJson read) ∧
      workerIdentityDetailsKey ∉ read.map Prod.fst := by
  simp only [rowToEntry, bind_eq_ok, WorkerTables.mapError_eq_ok] at h
  rcases h with ⟨⟨identity, rest⟩, hread, hmake⟩
  rcases exists_ofJson_of_deserialize hread with ⟨read, rfl, hkey⟩
  exact ⟨read, (DiagnosticEntry.make_eq_ok.1 hmake).2.2.2.2.2.2.2, hkey⟩

/-- A recorded entry that equals an entry that was read survives. -/
theorem survives_of_equal {entry listed : DiagnosticEntry} {row : DiagnosticRow}
    (h : rowToEntry room row = .ok listed) (hequal : entry.equal listed = true) :
    DetailsSurvive entry.details := by
  rcases details_of_rowToEntry h with ⟨read, hdetails, hkey⟩
  simp only [DiagnosticEntry.equal, Bool.and_eq_true] at hequal
  have hsame := hequal.1.2
  rw [hdetails] at hsame
  exact survives_of_sameDetails hkey hsame

/-! ## Listings -/

theorem columns_of_leaves {w : Written} {row : DiagnosticRow} (h : w.Leaves room row) :
    row.runtimeId = w.runtimeId ∧ row.launchAttempt = w.launchAttempt := by
  cases w with
  | record entry hdetails =>
      rcases h with ⟨details, -, rfl⟩
      exact ⟨rfl, rfl⟩
  | appendDiagnostic diagnostic hkeys =>
      rcases h with ⟨-, occurredAt, observedAt, details, -, -, rfl⟩
      exact ⟨rfl, rfl⟩

theorem listForRuntime_eq_ok {runtimeId : String} {listed : List DiagnosticEntry} :
    listForRuntime room db runtimeId = .ok listed ↔ strip runtimeId ≠ "" ∧
      (byRuntime.sort (diagnosticRows db (strip runtimeId))).mapM (rowToEntry room) =
        .ok listed := by
  simp only [listForRuntime, bind_eq_ok, WorkerTables.mapError_eq_ok, requireNonEmpty_eq_ok]
  constructor
  · rintro ⟨normalized, hnormalized, h⟩
    rw [← hnormalized]
    exact ⟨normalized.property.1, h⟩
  · rintro ⟨hne, h⟩
    exact ⟨⟨_, isText_strip hne⟩, rfl, h⟩

theorem listForRuntimeAttempt_of_mapM {runtimeId : String} {launchAttempt : Int}
    {listed : List DiagnosticEntry} (hid : strip runtimeId ≠ "") (hattempt : 1 ≤ launchAttempt)
    (h : (byAttempt.sort ((diagnosticRows db (strip runtimeId)).filter fun row =>
      row.launchAttempt = launchAttempt)).mapM (rowToEntry room) = .ok listed) :
    listForRuntimeAttempt room db runtimeId launchAttempt = .ok listed := by
  simp only [listForRuntimeAttempt, bind_eq_ok, WorkerTables.mapError_eq_ok,
    requireNonEmpty_eq_ok, DiagnosticEntry.checkLaunchAttempt_eq_ok]
  exact ⟨⟨_, isText_strip hid⟩, rfl, ⟨_, hattempt⟩, rfl, h⟩

section

variable {writes : List Written} {rows sorted : List DiagnosticRow}

/-- Rows that survive are read one by one. -/
theorem exists_mapM_shown (h : List.Forall₂ (Written.Leaves room) writes rows)
    (hall : ∀ w ∈ writes, strip w.runtimeId ≠ "" ∧ w.Survives) :
    ∃ listed, rows.mapM (rowToEntry room) = .ok listed ∧
      List.Forall₂ Written.ShownAs writes listed := by
  induction h with
  | nil => exact ⟨[], rfl, .nil⟩
  | @cons w row writes rows hfirst _ ih =>
      rcases List.forall_mem_cons.1 hall with ⟨hw, hrest⟩
      rcases exists_rowToEntry hfirst hw.1 hw.2 with ⟨l, hl, hshown⟩
      rcases ih hrest with ⟨ls, hls, hshowns⟩
      refine ⟨l :: ls, ?_, .cons hshown hshowns⟩
      rw [List.mapM_cons, hl, hls]
      rfl

/-- Rows that survive are listed, in whatever order. -/
theorem exists_lists (h : List.Forall₂ (Written.Leaves room) writes rows)
    (hperm : sorted.Perm rows) (hid : ∀ w ∈ writes, strip w.runtimeId ≠ "")
    (hsurvives : ∀ w ∈ writes, w.Survives) :
    ∃ listed, sorted.mapM (rowToEntry room) = .ok listed ∧ Lists writes listed := by
  have hcomp : Relation.Comp List.Perm (List.Forall₂ (Written.Leaves room)) writes sorted := by
    rw [← List.forall₂_comp_perm_eq_perm_comp_forall₂]
    exact ⟨rows, h, hperm.symm⟩
  rcases hcomp with ⟨order, horder, hleaves⟩
  rcases exists_mapM_shown hleaves fun w hw =>
    ⟨hid w (horder.mem_iff.2 hw), hsurvives w (horder.mem_iff.2 hw)⟩ with ⟨listed, hlisted, hshown⟩
  exact ⟨listed, hlisted, order, horder.symm, hshown⟩

/-- Writes that are listed survive. -/
theorem survives_of_lists {listed : List DiagnosticEntry}
    (h : List.Forall₂ (Written.Leaves room) writes rows) (hperm : sorted.Perm rows)
    (hid : ∀ w ∈ writes, strip w.runtimeId ≠ "")
    (hlisted : sorted.mapM (rowToEntry room) = .ok listed) (hlists : Lists writes listed) :
    ∀ w ∈ writes, w.Survives := by
  have hread := forall₂_of_mapM hlisted
  intro w hw
  cases w with
  | record entry hdetails =>
      rcases hlists with ⟨order, horder, hshown⟩
      rcases PyObject.exists_of_forall₂_left hshown (horder.mem_iff.2 hw) with ⟨l, hl, hequal⟩
      rcases PyObject.exists_of_forall₂_right hread hl with ⟨row, -, hrow⟩
      exact survives_of_equal hrow hequal
  | appendDiagnostic diagnostic hkeys =>
      rcases PyObject.exists_of_forall₂_left h hw with ⟨row, hrow, hleaves⟩
      rcases PyObject.exists_of_forall₂_left hread (hperm.mem_iff.2 hrow) with ⟨l, -, hl⟩
      have hne : strip diagnostic.runtimeId ≠ "" := hid (.appendDiagnostic diagnostic hkeys) hw
      exact (rowToEntry_append_iff hleaves hne).1 ⟨l, hl⟩

end

/--
For every run of both writers from tables without a diagnostic of the runtime:
its diagnostics are readable exactly when the runtime id is not blank, each entry
that was recorded has plain details without the recorder's own key, and each row
of the other writer names a worker in its details and has valid columns.
-/
theorem diagnostics_readable_iff (room : Nat) (db : WorkerTables) (runtimeId : String)
    (hnew : ∀ row ∈ db.diagnostics, row.runtimeId ≠ strip runtimeId) (steps : List Step) :
    Readable room (afterAll room db steps) runtimeId
        ((stored room db steps).filter fun w => w.runtimeId = strip runtimeId) ↔
      strip runtimeId ≠ "" ∧
        ∀ w ∈ stored room db steps, w.runtimeId = strip runtimeId → w.Survives := by
  rcases diagnostics_afterAll room db steps with ⟨rows, hrows, hall⟩
  have hold : (db.diagnostics.filter fun row => row.runtimeId = strip runtimeId) = [] := by
    rw [List.filter_eq_nil_iff]
    intro row hrow
    simpa using hnew row hrow
  have hruntime : List.Forall₂ (Written.Leaves room)
      ((stored room db steps).filter fun w => w.runtimeId = strip runtimeId)
      (diagnosticRows (afterAll room db steps) (strip runtimeId)) := by
    rw [diagnosticRows, hrows, List.filter_append, hold, List.nil_append]
    refine List.rel_filter (fun w row hrow => ?_) hall
    simp only [(columns_of_leaves hrow).1]
  have hid (h : strip runtimeId ≠ "") :
      ∀ w ∈ (stored room db steps).filter fun w => w.runtimeId = strip runtimeId,
        strip w.runtimeId ≠ "" := by
    intro w hw
    have hsame : w.runtimeId = strip runtimeId := by simpa using (List.mem_filter.1 hw).2
    rw [hsame, strip_strip]
    exact h
  constructor
  · rintro ⟨⟨listed, hlisted, hlists⟩, -⟩
    rcases listForRuntime_eq_ok.1 hlisted with ⟨hne, hmap⟩
    refine ⟨hne, fun w hw hsame => ?_⟩
    exact survives_of_lists hruntime (byRuntime.perm _) (hid hne) hmap hlists w
      (List.mem_filter.2 ⟨hw, decide_eq_true hsame⟩)
  · rintro ⟨hne, hsurvives⟩
    have hsurvives' :
        ∀ w ∈ (stored room db steps).filter fun w => w.runtimeId = strip runtimeId,
          w.Survives := by
      intro w hw
      rcases List.mem_filter.1 hw with ⟨hmem, hsame⟩
      exact hsurvives w hmem (by simpa using hsame)
    constructor
    · rcases exists_lists hruntime (byRuntime.perm _) (hid hne) hsurvives' with
        ⟨listed, hlisted, hlists⟩
      exact ⟨listed, listForRuntime_eq_ok.2 ⟨hne, hlisted⟩, hlists⟩
    · intro launchAttempt hattempt
      have hboth := List.rel_filter (p := fun w : Written => decide (w.launchAttempt = launchAttempt))
        (q := fun row : DiagnosticRow => decide (row.launchAttempt = launchAttempt))
        (fun w row hrow => by simp only [(columns_of_leaves hrow).2]) hruntime
      rcases exists_lists hboth (byAttempt.perm _)
        (fun w hw => hid hne w (List.mem_of_mem_filter hw))
        (fun w hw => hsurvives' w (List.mem_of_mem_filter hw)) with ⟨listed, hlisted, hlists⟩
      exact ⟨listed, listForRuntimeAttempt_of_mapM hne hattempt hlisted, hlists⟩

/-! ## A failed bootstrap -/

open Bootstrap (LaunchSpec BootstrapFailure)
open Bootstrap.BootstrapPersistenceCoordinator (failureDiagnostic)

/-- The row of a failed bootstrap does not survive: its details name no worker. -/
theorem not_survives_bootstrap {launchSpec : LaunchSpec} {failure : BootstrapFailure}
    {occurredAt observedAt : PyDateTime}
    {hkeys : ∀ d ∈ (failureDiagnostic launchSpec failure occurredAt observedAt).details,
      (d.map Prod.fst).Nodup}
    (h : PyDict.get? failure.details workerIdentityDetailsKey = none) :
    ¬ (Written.appendDiagnostic (failureDiagnostic launchSpec failure occurredAt observedAt)
      hkeys).Survives := by
  rintro ⟨-, -, -, -, d, v, hd, hget, -⟩
  obtain rfl := Option.some.inj hd
  rw [h] at hget
  cases hget

theorem firstAttempt_le : (1 : Int) ≤ 1 :=
  le_rfl

/-- An entry about the worker of {lit}`rt-1`. -/
def slowTick : DiagnosticEntry where
  runtimeId := ⟨"rt-1", by decide⟩
  workerIdentity := ⟨"rt-1:sv-1:1", by decide⟩
  launchAttempt := ⟨1, firstAttempt_le⟩
  diagnosticType := ⟨"slow_tick", by decide⟩
  observedAt := ⟨WorkerTables.noon, rfl⟩
  reasonCode := ⟨none, by simp⟩
  details := some [("symbol", .str "ES"), ("limits", .list [.int 5, .none])]
  correlationId := ⟨none, by simp⟩

/-- Recording the entry. -/
def slowTickStep : Written :=
  .record slowTick fun d hd => by
    obtain rfl := Option.some.inj hd
    refine PyMapping.wellFormed_iff.2 ⟨by decide, ?_⟩
    simp [PyObject.WellFormed, PyObject.WellFormedList]

theorem artifactNotFound_ne : "ARTIFACT_NOT_FOUND" ≠ "" := by
  decide

/-- What a bootstrap without its artifact leaves. -/
def missingArtifact : BootstrapFailure where
  stage := .artifactFetch
  reasonCode := "ARTIFACT_NOT_FOUND"
  retryable := false
  details := [("artifact_uri", .str "file:///bundle")]
  message := "Artifact not found"
  reasonCode_ne := artifactNotFound_ne

/-- The write of the coordinator for this failure. -/
def missingArtifactStep : Written :=
  .appendDiagnostic
    (failureDiagnostic (Bootstrap.paperSpec none) missingArtifact WorkerTables.noon
      WorkerTables.noon) fun d hd => by
    obtain rfl := Option.some.inj hd
    decide

theorem mem_of_mem_stored {w : Written} {steps : List Step} (h : w ∈ stored room db steps) :
    Step.write w ∈ steps := by
  induction steps generalizing db with
  | nil => cases h
  | cons step steps ih =>
      cases step with
      | other statement hdiagnostics => exact List.mem_cons_of_mem _ (ih h)
      | write w' =>
          rw [stored] at h
          split at h
          · rcases List.mem_cons.1 h with rfl | h
            · exact List.mem_cons_self
            · exact List.mem_cons_of_mem _ (ih h)
          · exact List.mem_cons_of_mem _ (ih h)

/-- The entry is stored, and listed by both queries. -/
theorem slow_tick_readable :
    (slowTickStep.store 100 WorkerTables.oneInstance).toOption.isSome = true ∧
      Readable 100 (afterAll 100 WorkerTables.oneInstance [.write slowTickStep]) "rt-1"
        ((stored 100 WorkerTables.oneInstance [.write slowTickStep]).filter fun w =>
          w.runtimeId = strip "rt-1") := by
  refine ⟨by decide +kernel, (diagnostics_readable_iff 100 WorkerTables.oneInstance "rt-1"
    (by decide +kernel) [.write slowTickStep]).2 ⟨by decide, ?_⟩⟩
  intro w hw _
  obtain rfl : w = slowTickStep := by simpa using mem_of_mem_stored hw
  refine ⟨_, rfl, by decide, ?_⟩
  simp [PyObject.Plain, PyObject.PlainList]

/-- After a failed bootstrap the entry that was recorded before is not listed any more. -/
theorem bootstrap_failure_unreadable :
    ¬ ∀ (room : Nat) (db : WorkerTables) (runtimeId : String), strip runtimeId ≠ "" →
      (∀ row ∈ db.diagnostics, row.runtimeId ≠ strip runtimeId) → ∀ steps : List Step,
        Readable room (afterAll room db steps) runtimeId
          ((stored room db steps).filter fun w => w.runtimeId = strip runtimeId) := by
  intro h
  rcases (h 100 WorkerTables.oneInstance "rt-1" (by decide) (by decide +kernel)
    [.write slowTickStep, .write missingArtifactStep]).runtime with ⟨listed, hlisted, -⟩
  have hraises : (listForRuntime 100 (afterAll 100 WorkerTables.oneInstance
      [.write slowTickStep, .write missingArtifactStep]) "rt-1").toOption.isSome = false := by
    decide +kernel
  rw [hlisted] at hraises
  cases hraises

end Observability
end StrategyWorker
