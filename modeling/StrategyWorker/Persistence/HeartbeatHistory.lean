import StrategyWorker.Library.IsoOrder
import StrategyWorker.Library.PyJsonRead
import StrategyWorker.Library.SqlOrder
import StrategyWorker.Library.SqlTables
import StrategyWorker.Persistence.LastHeartbeat

/-!
# The history of heartbeats

{lit}`list_for_runtime` and {lit}`latest_for_runtime` let the database order the
observations by the text of {lit}`observed_at`.  The texts are in the order of the
instants, except within a second: there the text of the whole second comes after
those with a fraction.

Main results:

- Theorem {lit}`text_le_iff`: texts and instants.
- Theorem {lit}`heartbeatObservations_observeAll`: the rows after a run.
- Theorem {lit}`history_chronological_iff`: the history is chronological exactly
  when no second holds both a heartbeat at its start and one within it.
-/

namespace StrategyWorker
namespace Persistence

open Library Events
open PyJson (depth intsFit loads LoadsError)

/-! ## Columns -/

/-- {lit}`_from_json(value)`, given room for the nesting of the value. -/
def fromJson (room : Nat) : Option String → Except LoadsError PyDict
  | none => .ok []
  | some value =>
      if value = "" then .ok []
      else
        match loads room value with
        | .ok (.dict loaded) => .ok loaded
        | .ok loaded => .ok [("value", loaded)]
        | .error e => .error e

/-- Details that the interpreter can write and read again: they do not nest deeper than it allows,
and their integers have a text. -/
def DetailsFit (room : Nat) (details : Option PyDict) : Prop :=
  ∀ d ∈ details, depth (.dict d) ≤ room ∧ intsFit (.dict d) = true

instance (room : Nat) (details : Option PyDict) : Decidable (DetailsFit room details) :=
  inferInstanceAs (Decidable (∀ d ∈ details, _))

/-- Details that have been written are read. -/
theorem exists_fromJson {room : Nat} {details : Option PyDict} {text : Option String}
    (hfit : DetailsFit room details) (h : toJsonOrNull details = .ok text) :
    ∃ read, fromJson room text = .ok read := by
  cases details with
  | none =>
      obtain rfl := Except.ok.inj h
      exact ⟨[], rfl⟩
  | some d =>
      rcases hfit d rfl with ⟨hdepth, hints⟩
      cases hencode : PyJson.encode ⟨true, fun _ => .error .typeError⟩ (.dict d) with
      | error e =>
          rw [toJsonOrNull, toJson, hencode] at h
          cases h
      | ok value =>
          rw [toJsonOrNull, toJson, hencode] at h
          obtain rfl := Except.ok.inj h
          rcases PyJson.exists_loads_encode hencode hdepth hints with ⟨loaded, hloaded⟩
          unfold fromJson
          dsimp only
          split
          · exact ⟨[], rfl⟩
          · rw [hloaded]
            cases loaded <;> exact ⟨_, rfl⟩

/-- Two instants of one second, of which one is its start and the other is not. -/
def Mixes (i j : Int) : Prop :=
  i / 1000000 = j / 1000000 ∧ ¬ (i % 1000000 = 0 ↔ j % 1000000 = 0)

instance (i j : Int) : Decidable (Mixes i j) :=
  inferInstanceAs (Decidable (_ ∧ _))

namespace WireTs

/-- The instant that a text denotes. -/
def instant (ts : WireTs) : Int :=
  ts.datetime.instant

theorem exists_ofUtc (ts : WireTs) : ∃ utc, ts = ofUtc utc := by
  rcases ts with ⟨text, utc, rfl⟩
  exact ⟨utc, rfl⟩

theorem instant_ofUtc (utc : UtcDateTime) : (ofUtc utc).instant = utc.val.wall - epochWall := by
  have hutc : utc.val.utcoffset = some 0 := utc.property
  rw [instant, datetime_ofUtc, PyDateTime.instant, hutc]
  simp

theorem toList_text_ofUtc (utc : UtcDateTime) : (ofUtc utc).text.toList = utc.val.zulu := by
  have hutc : utc.val.utcoffset = some 0 := utc.property
  have htext : (ofUtc utc).text = PyText.replace (utc.val.isoformat "T") "+00:00" "Z" := rfl
  rw [htext, PyDateTime.replace_offset hutc, String.toList_ofList]
  rfl

theorem mixed_iff (utc utc' : UtcDateTime) :
    PyDateTime.Mixed utc.val utc'.val ↔ Mixes (ofUtc utc).instant (ofUtc utc').instant := by
  rw [instant_ofUtc, instant_ofUtc]
  unfold PyDateTime.Mixed Mixes PyDateTime.second PyDateTime.microsecond epochWall microsPerDay
  omega

/-- Texts are in the order of the instants, except within a second. -/
theorem text_le_iff {ts ts' : WireTs} (h : ¬ Mixes ts.instant ts'.instant) :
    ts.text ≤ ts'.text ↔ ts.instant ≤ ts'.instant := by
  rcases ts.exists_ofUtc with ⟨utc, rfl⟩
  rcases ts'.exists_ofUtc with ⟨utc', rfl⟩
  have hmixed : ¬ PyDateTime.Mixed utc'.val utc.val := by
    intro hmixed
    exact h ((mixed_iff utc utc').1 ⟨hmixed.1.symm, fun hiff => hmixed.2 hiff.symm⟩)
  have hlt := PyDateTime.zulu_lt_zulu_iff hmixed
  rw [← not_lt, String.lt_iff_toList_lt, toList_text_ofUtc, toList_text_ofUtc, hlt, instant_ofUtc,
    instant_ofUtc]
  omega

/-- The start of a second is earlier than the rest of it, and its text comes later. -/
theorem text_lt_of_mixes {ts ts' : WireTs} (h : ts.instant / 1000000 = ts'.instant / 1000000)
    (hfraction : ts.instant % 1000000 ≠ 0) (hwhole : ts'.instant % 1000000 = 0) :
    ts.text < ts'.text := by
  rcases ts.exists_ofUtc with ⟨utc, rfl⟩
  rcases ts'.exists_ofUtc with ⟨utc', rfl⟩
  rw [instant_ofUtc, instant_ofUtc] at h
  rw [instant_ofUtc] at hfraction hwhole
  rw [String.lt_iff_toList_lt, toList_text_ofUtc, toList_text_ofUtc]
  unfold epochWall microsPerDay at h hfraction hwhole
  apply PyDateTime.zulu_lt_of_whole
  · unfold PyDateTime.second
    omega
  · unfold PyDateTime.microsecond
    omega
  · unfold PyDateTime.microsecond
    omega

end WireTs

/-! ## Observations -/

/-- The record of a row. -/
def observationOf (room : Nat) (row : HeartbeatRow) :
    Except LoadsError HeartbeatObservationRecord := do
  let details ← fromJson room row.details
  return {
    runtimeId := row.runtimeId
    launchAttempt := row.launchAttempt
    occurredAt := row.occurredAt.datetime
    observedAt := row.observedAt.datetime
    correlationId := row.correlationId
    causationId := row.causationId
    details := some details }

/-- {lit}`ORDER BY observed_at`, from the first text on. -/
abbrev Ascending :=
  OrderBy fun a b : HeartbeatRow => a.observedAt.text ≤ b.observedAt.text

/-- {lit}`ORDER BY observed_at DESC`. -/
abbrev Descending :=
  OrderBy fun a b : HeartbeatRow => b.observedAt.text ≤ a.observedAt.text

/-- What an observation tells beside its details. -/
structure Seen where
  runtimeId : String
  launchAttempt : Int
  occurredAt : Int
  observedAt : Int
  correlationId : Option String
  causationId : Option String
  deriving DecidableEq

def HeartbeatObservationRecord.seen (record : HeartbeatObservationRecord) : Seen where
  runtimeId := record.runtimeId
  launchAttempt := record.launchAttempt
  occurredAt := record.occurredAt.instant
  observedAt := record.observedAt.instant
  correlationId := record.correlationId
  causationId := record.causationId

def HeartbeatRow.seen (row : HeartbeatRow) : Seen where
  runtimeId := row.runtimeId
  launchAttempt := row.launchAttempt
  occurredAt := row.occurredAt.instant
  observedAt := row.observedAt.instant
  correlationId := row.correlationId
  causationId := row.causationId

theorem observedAt_of_seen {row : HeartbeatRow} {record : HeartbeatObservationRecord}
    (h : row.seen = record.seen) : row.observedAt.instant = record.observedAt.instant := by
  have hinstant := congrArg Seen.observedAt h
  simp only [HeartbeatRow.seen, HeartbeatObservationRecord.seen] at hinstant
  exact hinstant

theorem seen_observationOf {room : Nat} {row : HeartbeatRow} {listed : HeartbeatObservationRecord}
    (h : observationOf room row = .ok listed) : listed.seen = row.seen := by
  rcases bind_eq_ok.1 h with ⟨details, -, hlisted⟩
  rw [← Except.ok.inj hlisted]
  simp only [HeartbeatObservationRecord.seen, HeartbeatRow.seen, WireTs.instant]

namespace WorkerTables

/-- The rows of a runtime. -/
def heartbeatRows (db : WorkerTables) (runtimeId : String) : List HeartbeatRow :=
  db.heartbeatObservations.filter fun row => row.runtimeId = runtimeId

/-- {lit}`SQLiteHeartbeatRepository.list_for_runtime(runtime_id)`. -/
def listForRuntime (order : Ascending) (room : Nat) (db : WorkerTables) (runtimeId : String) :
    Except LoadsError (List HeartbeatObservationRecord) :=
  (order.sort (db.heartbeatRows runtimeId)).mapM (observationOf room)

/-- {lit}`SQLiteHeartbeatRepository.latest_for_runtime(runtime_id)`. -/
def latestForRuntime (order : Descending) (room : Nat) (db : WorkerTables) (runtimeId : String) :
    Except LoadsError (Option HeartbeatObservationRecord) :=
  (order.sort (db.heartbeatRows runtimeId)).head?.mapM (observationOf room)

/-- Whether an observation is appended: the interpreter writes its details, and nothing else
raises. -/
def Appends (room : Nat) (db : WorkerTables) (record : HeartbeatObservationRecord) : Prop :=
  DetailsFit room record.details ∧ (db.appendObservation record).toOption.isSome = true

instance (room : Nat) (db : WorkerTables) (record : HeartbeatObservationRecord) :
    Decidable (Appends room db record) :=
  inferInstanceAs (Decidable (_ ∧ _))

/-- The tables after an append; one that raises leaves them. -/
def observe (room : Nat) (db : WorkerTables) (record : HeartbeatObservationRecord) :
    WorkerTables :=
  if Appends room db record then (db.appendObservation record).toOption.getD db else db

/-- The tables after appends in sequence. -/
def observeAll (room : Nat) (db : WorkerTables) :
    List HeartbeatObservationRecord → WorkerTables
  | [] => db
  | record :: records => observeAll room (observe room db record) records

/-- The observations of a run that are appended. -/
def appended (room : Nat) (db : WorkerTables) :
    List HeartbeatObservationRecord → List HeartbeatObservationRecord
  | [] => []
  | record :: records =>
      if Appends room db record then record :: appended room (observe room db record) records
      else appended room db records

/-! ## Rows after a run -/

/-- A row holds an observation, and is read again. -/
structure Holds (room : Nat) (record : HeartbeatObservationRecord) (row : HeartbeatRow) : Prop where
  seen : row.seen = record.seen
  read : ∃ listed, observationOf room row = .ok listed

variable {room : Nat} {db : WorkerTables} {record : HeartbeatObservationRecord}

/-- An appended observation is the last row. -/
theorem heartbeatObservations_observe (h : Appends room db record) :
    ∃ row, (observe room db record).heartbeatObservations = db.heartbeatObservations ++ [row] ∧
      Holds room record row := by
  rcases h with ⟨hfit, hsome⟩
  rcases Option.isSome_iff_exists.1 hsome with ⟨db', hdb'⟩
  have hok := eq_ok_of_toOption hdb'
  rcases (appendObservation_eq_ok db record).1 hok with
    ⟨occurredAt, observedAt, details, hoccurred, hobserved, hdetails, -, rfl⟩
  refine ⟨observationRow record occurredAt observedAt details, ?_, ?_⟩
  · rw [observe, if_pos ⟨hfit, hsome⟩, hdb']
    rfl
  · rcases exists_fromJson hfit hdetails with ⟨read, hread⟩
    constructor
    · have hoccurredAt : occurredAt.instant = record.occurredAt.instant := instant_wireTs hoccurred
      have hobservedAt : observedAt.instant = record.observedAt.instant := instant_wireTs hobserved
      simp only [HeartbeatRow.seen, HeartbeatObservationRecord.seen, observationRow, hoccurredAt,
        hobservedAt]
    · exact ⟨_, by rw [observationOf, observationRow, hread]; rfl⟩

theorem observe_of_not (h : ¬ Appends room db record) : observe room db record = db :=
  if_neg h

/-- After a run the appended observations stand behind the earlier rows. -/
theorem heartbeatObservations_observeAll (room : Nat) (db : WorkerTables)
    (records : List HeartbeatObservationRecord) :
    ∃ rows, (observeAll room db records).heartbeatObservations = db.heartbeatObservations ++ rows ∧
      List.Forall₂ (Holds room) (appended room db records) rows := by
  induction records generalizing db with
  | nil => exact ⟨[], (List.append_nil _).symm, .nil⟩
  | cons record records ih =>
      rcases ih (observe room db record) with ⟨rows, hrows, hholds⟩
      by_cases happends : Appends room db record
      · rcases heartbeatObservations_observe happends with ⟨row, hrow, hrowHolds⟩
        refine ⟨row :: rows, ?_, ?_⟩
        · rw [observeAll, hrows, hrow, List.append_assoc, List.singleton_append]
        · rw [appended, if_pos happends]
          exact .cons hrowHolds hholds
      · refine ⟨rows, ?_, ?_⟩
        · rw [observeAll, hrows, observe_of_not happends]
        · rw [appended, if_neg happends]
          rw [observe_of_not happends] at hholds
          exact hholds

/-! ## The history of a runtime -/

/-- All known observations are listed by their instants, and the latest is one of them that is
not earlier than any. -/
structure Chronological (asc : Ascending) (desc : Descending) (room : Nat) (db : WorkerTables)
    (runtimeId : String) (known : List HeartbeatObservationRecord) : Prop where
  listed : ∃ listed, listForRuntime asc room db runtimeId = .ok listed ∧
    (listed.map HeartbeatObservationRecord.seen).Perm
      (known.map HeartbeatObservationRecord.seen) ∧
    listed.Pairwise fun a b => a.observedAt.instant ≤ b.observedAt.instant
  latest : ∃ latest, latestForRuntime desc room db runtimeId = .ok latest ∧
    (latest = none ↔ known = []) ∧
    ∀ l ∈ latest, l.seen ∈ known.map HeartbeatObservationRecord.seen ∧
      ∀ record ∈ known, record.observedAt.instant ≤ l.observedAt.instant

section

variable {runtimeId : String} {known : List HeartbeatObservationRecord}

theorem seen_of_holds {rows : List HeartbeatRow} (h : List.Forall₂ (Holds room) known rows) :
    rows.map HeartbeatRow.seen = known.map HeartbeatObservationRecord.seen := by
  induction h with
  | nil => rfl
  | cons hrow _ ih => rw [List.map_cons, List.map_cons, hrow.seen, ih]

theorem exists_read {rows : List HeartbeatRow} (h : List.Forall₂ (Holds room) known rows) :
    ∀ row ∈ rows, ∃ listed, observationOf room row = .ok listed := by
  induction h with
  | nil =>
      intro row hrow
      cases hrow
  | cons hfirst _ ih => exact List.forall_mem_cons.2 ⟨hfirst.read, ih⟩

/-- The observations of one runtime are in its rows. -/
theorem holds_filter {records : List HeartbeatObservationRecord} {rows : List HeartbeatRow}
    (h : List.Forall₂ (Holds room) records rows) :
    List.Forall₂ (Holds room) (records.filter fun record => record.runtimeId = runtimeId)
      (rows.filter fun row => row.runtimeId = runtimeId) := by
  refine List.rel_filter (fun record row hrow => ?_) h
  have hid : row.runtimeId = record.runtimeId := congrArg Seen.runtimeId hrow.seen
  simp only [hid]

/-- Rows that can be read are read in any order. -/
theorem exists_mapM_observationOf {rows : List HeartbeatRow}
    (h : ∀ row ∈ rows, ∃ listed, observationOf room row = .ok listed) :
    ∃ listed, rows.mapM (observationOf room) = .ok listed ∧
      listed.map HeartbeatObservationRecord.seen = rows.map HeartbeatRow.seen := by
  induction rows with
  | nil => exact ⟨[], rfl, rfl⟩
  | cons row rows ih =>
      rcases h row List.mem_cons_self with ⟨l, hl⟩
      rcases ih fun r hr => h r (List.mem_cons_of_mem row hr) with ⟨ls, hls, hseen⟩
      refine ⟨l :: ls, ?_, ?_⟩
      · rw [List.mapM_cons, hl, hls]
        rfl
      · rw [List.map_cons, List.map_cons, seen_observationOf hl, hseen]

variable {asc : Ascending} {desc : Descending}

/-- The list is in the order of the instants when the rows are that the database has ordered. -/
theorem exists_listed (asc : Ascending)
    (hholds : List.Forall₂ (Holds room) known (db.heartbeatRows runtimeId)) :
    ∃ listed, listForRuntime asc room db runtimeId = .ok listed ∧
      (listed.map HeartbeatObservationRecord.seen).Perm
        (known.map HeartbeatObservationRecord.seen) ∧
      (listed.Pairwise (fun a b => a.observedAt.instant ≤ b.observedAt.instant) ↔
        (asc.sort (db.heartbeatRows runtimeId)).Pairwise fun a b =>
          a.observedAt.instant ≤ b.observedAt.instant) := by
  have hread : ∀ row ∈ asc.sort (db.heartbeatRows runtimeId),
      ∃ listed, observationOf room row = .ok listed :=
    fun row hrow => exists_read hholds row (asc.mem_sort.1 hrow)
  rcases exists_mapM_observationOf hread with ⟨listed, hlisted, hseen⟩
  refine ⟨listed, hlisted, ?_, ?_⟩
  · rw [hseen, ← seen_of_holds hholds]
    exact (asc.perm _).map _
  · have hpairs := congrArg (List.Pairwise fun a b : Seen => a.observedAt ≤ b.observedAt) hseen
    rw [List.pairwise_map, List.pairwise_map] at hpairs
    exact iff_of_eq hpairs

/-- No second holds both an observation at its start and one within it. -/
def Unmixed (known : List HeartbeatObservationRecord) : Prop :=
  ∀ a ∈ known, ∀ b ∈ known, ¬ Mixes a.observedAt.instant b.observedAt.instant

instance (known : List HeartbeatObservationRecord) : Decidable (Unmixed known) :=
  inferInstanceAs (Decidable (∀ a ∈ known, ∀ b ∈ known, _))

theorem unmixed_iff {rows : List HeartbeatRow}
    (hseen : rows.map HeartbeatRow.seen = known.map HeartbeatObservationRecord.seen) :
    Unmixed known ↔ ∀ a ∈ rows, ∀ b ∈ rows, ¬ Mixes a.observedAt.instant b.observedAt.instant := by
  have hknown : Unmixed known ↔ ∀ a ∈ known.map HeartbeatObservationRecord.seen,
      ∀ b ∈ known.map HeartbeatObservationRecord.seen, ¬ Mixes a.observedAt b.observedAt := by
    simp only [List.forall_mem_map]
    rfl
  rw [hknown, ← hseen]
  simp only [List.forall_mem_map]
  rfl

/-- The rows are in the order of their instants when no second is mixed, and only then. -/
theorem sort_pairwise_iff {rows : List HeartbeatRow} :
    ((asc.sort rows).Pairwise fun a b => a.observedAt.instant ≤ b.observedAt.instant) ↔
      ∀ a ∈ rows, ∀ b ∈ rows, ¬ Mixes a.observedAt.instant b.observedAt.instant := by
  constructor
  · intro hsorted
    -- a row within the second comes before the row of its start, which is the earlier one
    have hback (a b : HeartbeatRow) (ha : a ∈ rows) (hb : b ∈ rows)
        (hsecond : a.observedAt.instant / 1000000 = b.observedAt.instant / 1000000)
        (hfraction : a.observedAt.instant % 1000000 ≠ 0)
        (hwhole : b.observedAt.instant % 1000000 = 0) : False := by
      have hlt := WireTs.text_lt_of_mixes hsecond hfraction hwhole
      have hne : a ≠ b := by
        rintro rfl
        exact hfraction hwhole
      have hle := asc.of_pairwise hsorted ha hb hne (not_le.2 hlt)
      omega
    intro a ha b hb hmixes
    rcases hmixes with ⟨hsecond, hnot⟩
    by_cases hwhole : a.observedAt.instant % 1000000 = 0
    · exact hback b a hb ha hsecond.symm (fun h => hnot (iff_of_true hwhole h)) hwhole
    · by_cases hwhole' : b.observedAt.instant % 1000000 = 0
      · exact hback a b ha hb hsecond hwhole hwhole'
      · exact hnot (iff_of_false hwhole hwhole')
  · intro hunmixed
    apply asc.pairwise_of_agrees
    intro a ha b hb
    exact (WireTs.text_le_iff (hunmixed a ha b hb)).1

/-- The latest row is not earlier than any, when no second is mixed. -/
theorem exists_latest (hholds : List.Forall₂ (Holds room) known (db.heartbeatRows runtimeId))
    (hunmixed : Unmixed known) :
    ∃ latest, latestForRuntime desc room db runtimeId = .ok latest ∧ (latest = none ↔ known = []) ∧
      ∀ l ∈ latest, l.seen ∈ known.map HeartbeatObservationRecord.seen ∧
        ∀ record ∈ known, record.observedAt.instant ≤ l.observedAt.instant := by
  have hseen := seen_of_holds hholds
  have hempty : db.heartbeatRows runtimeId = [] ↔ known = [] := by
    rw [← List.map_eq_nil_iff, hseen, List.map_eq_nil_iff]
  unfold latestForRuntime
  cases hhead : (desc.sort (db.heartbeatRows runtimeId)).head? with
  | none =>
      refine ⟨none, rfl, iff_of_true rfl (hempty.1 ((desc.head?_sort_eq_none).1 hhead)), ?_⟩
      intro l hl
      cases hl
  | some row =>
      have hmem : row ∈ db.heartbeatRows runtimeId :=
        desc.mem_sort.1 (List.mem_of_mem_head? hhead)
      rcases exists_read hholds row hmem with ⟨l, hl⟩
      have hlatest : l.seen = row.seen := seen_observationOf hl
      refine ⟨some l, ?_, ?_, ?_⟩
      · rw [Option.mapM_some, hl]
        rfl
      · refine iff_of_false (by simp) fun hnone => ?_
        rw [hempty.2 hnone] at hmem
        cases hmem
      · intro l' hl'
        obtain rfl : l = l' := Option.some.inj hl'
        constructor
        · rw [hlatest, ← hseen]
          exact List.mem_map_of_mem hmem
        · intro record hrecord
          have hrow : record.seen ∈ (db.heartbeatRows runtimeId).map HeartbeatRow.seen :=
            hseen ▸ List.mem_map_of_mem hrecord
          rcases List.mem_map.1 hrow with ⟨b, hb, hbseen⟩
          rw [← observedAt_of_seen hbseen, ← observedAt_of_seen hlatest.symm]
          by_cases hsame : row = b
          · rw [hsame]
          · have hle := (desc.of_head? hhead hb hsame).2
            exact (WireTs.text_le_iff ((unmixed_iff hseen).1 hunmixed b hb row hmem)).1 hle

/--
For every run of appends to tables without an observation of the runtime,
whatever order the database gives to rows with one text: the history of the
runtime is chronological exactly when no second holds both an appended
observation at its start and one within it.
-/
theorem history_chronological_iff (asc : Ascending) (desc : Descending) (room : Nat)
    (db : WorkerTables) (runtimeId : String)
    (hnew : ∀ row ∈ db.heartbeatObservations, row.runtimeId ≠ runtimeId)
    (records : List HeartbeatObservationRecord) :
    Chronological asc desc room (observeAll room db records) runtimeId
        ((appended room db records).filter fun record => record.runtimeId = runtimeId) ↔
      Unmixed ((appended room db records).filter fun record => record.runtimeId = runtimeId) := by
  rcases heartbeatObservations_observeAll room db records with ⟨rows, hrows, hall⟩
  have hold : (db.heartbeatObservations.filter fun row => row.runtimeId = runtimeId) = [] := by
    rw [List.filter_eq_nil_iff]
    intro row hrow
    simpa using hnew row hrow
  have hholds : List.Forall₂ (Holds room)
      ((appended room db records).filter fun record => record.runtimeId = runtimeId)
      ((observeAll room db records).heartbeatRows runtimeId) := by
    rw [heartbeatRows, hrows, List.filter_append, hold, List.nil_append]
    exact holds_filter hall
  rcases exists_listed asc hholds with ⟨listed, hlisted, hperm, hsorted⟩
  have hunmixed := unmixed_iff (seen_of_holds hholds)
  constructor
  · intro h
    rcases h.listed with ⟨listed', hlisted', -, hpairs⟩
    obtain rfl : listed = listed' := Except.ok.inj (hlisted.symm.trans hlisted')
    exact hunmixed.2 (sort_pairwise_iff.1 (hsorted.1 hpairs))
  · intro h
    constructor
    · exact ⟨listed, hlisted, hperm, hsorted.2 (sort_pairwise_iff.2 (hunmixed.1 h))⟩
    · exact exists_latest hholds h

end

/-! ## Two histories -/

/-- The table with one instance. -/
def oneInstance : WorkerTables :=
  migrated.after (.upsertInstance newInstance)

def observationAt (observedAt : PyDateTime) : HeartbeatObservationRecord where
  runtimeId := "rt-1"
  launchAttempt := 1
  occurredAt := observedAt
  observedAt := observedAt
  correlationId := none
  causationId := none
  details := some [("local_state", .str "RUNNING")]

/-- Half a second after noon. -/
def halfPastNoon : PyDateTime :=
  ⟨epochWall + 43200500000, some 0, by decide, PyDateTime.utc_offset_range⟩

def byText : Ascending :=
  .ascending fun row : HeartbeatRow => row.observedAt.text

def byTextBackward : Descending :=
  .descending fun row : HeartbeatRow => row.observedAt.text

/-- Heartbeats at whole seconds, the later one first. -/
theorem whole_seconds_chronological :
    Chronological byText byTextBackward 100
      (observeAll 100 oneInstance [observationAt noon, observationAt easternNoon]) "rt-1"
      ((appended 100 oneInstance [observationAt noon, observationAt easternNoon]).filter
        fun record => record.runtimeId = "rt-1") :=
  (history_chronological_iff byText byTextBackward 100 oneInstance "rt-1" (by decide +kernel) _).2
    (by decide +kernel)

/-- The half second after noon is listed before noon. -/
theorem half_second_before_noon :
    ¬ ∀ (asc : Ascending) (desc : Descending) (room : Nat) (db : WorkerTables) (runtimeId : String),
      (∀ row ∈ db.heartbeatObservations, row.runtimeId ≠ runtimeId) →
        ∀ records : List HeartbeatObservationRecord,
          Chronological asc desc room (observeAll room db records) runtimeId
            ((appended room db records).filter fun record => record.runtimeId = runtimeId) := by
  intro h
  rcases (h byText byTextBackward 100 oneInstance "rt-1" (by decide +kernel)
    [observationAt noon, observationAt halfPastNoon]).listed with ⟨listed, hlisted, -, hsorted⟩
  have hinstants : ((listForRuntime byText 100
      (observeAll 100 oneInstance [observationAt noon, observationAt halfPastNoon])
      "rt-1").toOption.map fun l => l.map fun record => record.observedAt.instant) =
        some [43200500000, 43200000000] := by
    decide +kernel
  rw [hlisted] at hinstants
  have hmap : listed.map (fun record => record.observedAt.instant) = [43200500000, 43200000000] :=
    Option.some.inj hinstants
  have hpairs : (listed.map fun record => record.observedAt.instant).Pairwise (· ≤ ·) :=
    List.pairwise_map.2 hsorted
  rw [hmap] at hpairs
  revert hpairs
  decide

end WorkerTables
end Persistence
end StrategyWorker
