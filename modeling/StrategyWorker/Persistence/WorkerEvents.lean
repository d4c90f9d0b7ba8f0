import StrategyWorker.Events.EventId
import StrategyWorker.Integration.EpochTime

/-!
# Lifecycle events in the worker's database

The journal turns an event into a record with texts for times and payload and
inserts it; the event id is the primary key of the table.  The decider of
duplicates compares the fields of an event instead.

Main results:

- Theorem {lit}`storeAll_eq_keepFirst`: the table keeps the first event with
  each id that can be written.
- Theorem {lit}`dedup_agrees_iff`: the table keeps the events that the decider
  accepts exactly when no runtime is spelled in two ways.
-/

namespace StrategyWorker
namespace Persistence

open Library Events
open PyText

/-! ## Records -/

/-- A journal of one runtime; the zone gives the local offset at a wall clock reading. -/
structure RuntimeJournalSink where
  runtimeId : String
  launchAttempt : Int
  zone : Int → Int

/-- {lit}`astimezone(timezone.utc)`; a naive value is local time. -/
def astimezone (sink : RuntimeJournalSink) (d : PyDateTime) : Except PyException PyDateTime :=
  match PyDateTime.ofWall? (d.wall - d.utcoffset.getD (sink.zone d.wall)) (some 0) with
  | some utc => .ok utc
  | none => .error PyError.overflowError.raised

/-- {lit}`isoformat().replace("+00:00", "Z")`. -/
def wireText (utc : PyDateTime) : String :=
  replace (utc.isoformat "T") "+00:00" "Z"

/-- {lit}`_wire_iso(dt)`. -/
def wireIso (sink : RuntimeJournalSink) (d : PyDateTime) : Except PyException String := do
  return wireText (← astimezone sink d)

mutual

/-- {lit}`_json_safe(value)`. -/
def jsonSafe (sink : RuntimeJournalSink) : PyVal → Except PyException PyVal
  | .none => .ok .none
  | .bool b => .ok (.bool b)
  | .int n => .ok (.int n)
  | .float f => .ok (.float f)
  | .str s => .ok (.str s)
  | .datetime d => do return .str (← wireIso sink d)
  | .scalar v => .ok (.str v.text)
  | .list vs => do return .list (← jsonSafeList sink vs)
  | .dict fields => do return .dict (← jsonSafeFields sink fields)

def jsonSafeList (sink : RuntimeJournalSink) : List PyVal → Except PyException (List PyVal)
  | [] => .ok []
  | v :: vs => do return (← jsonSafe sink v) :: (← jsonSafeList sink vs)

def jsonSafeFields (sink : RuntimeJournalSink) :
    List (String × PyVal) → Except PyException (List (String × PyVal))
  | [] => .ok []
  | (key, v) :: fields => do return (key, ← jsonSafe sink v) :: (← jsonSafeFields sink fields)

end

/-- {lit}`_parse_dt(value)`. -/
def parseDt : PyVal → Option PyDateTime
  | .datetime d => some d.naiveAsUtc
  | .str s => Integration.parseIsoText s
  | _ => none

structure WorkerEventRecord where
  eventId : String
  runtimeId : String
  workerIdentity : String
  launchAttempt : Int
  eventFamily : String
  occurredAt : PyDateTime
  observedAt : PyDateTime
  state : Option String
  reasonCode : Option String
  correlationId : Option String
  causationId : Option String
  payload : PyDict

/-- {lit}`payload.get(key)` when it is a text. -/
def textOf (payload : PyDict) (key : String) : Option String :=
  match payload.get key with
  | .str s => some s
  | _ => none

/-- The record of a lifecycle event; its name is stored as its family. -/
def lifecycleRecord (sink : RuntimeJournalSink) (event : LifecycleEventEnvelope) :
    Except PyException WorkerEventRecord := do
  let payload : PyDict ← jsonSafeFields sink event.payload
  return {
    eventId := event.eventId.val
    runtimeId := sink.runtimeId
    workerIdentity := event.workerIdentity.val
    launchAttempt := sink.launchAttempt
    eventFamily := event.eventName.val
    occurredAt := event.occurredAt.val
    observedAt := (parseDt (payload.get "observed_at")).getD event.occurredAt.val
    state := textOf payload "local_state"
    reasonCode := textOf payload "reason_code"
    correlationId := some event.correlationId.val
    causationId := event.causationId
    payload := payload }

/-! ## The table -/

/-- A row of the table {lit}`worker_events`. -/
structure WorkerEventRow where
  eventId : String
  runtimeId : String
  workerIdentity : String
  launchAttempt : Int
  eventFamily : String
  state : Option String
  reasonCode : Option String
  occurredAt : String
  observedAt : String
  correlationId : Option String
  causationId : Option String
  payload : String

/-- The runtime ids of {lit}`worker_instances` and the rows of {lit}`worker_events`. -/
structure Database where
  workerInstances : List String
  workerEvents : List WorkerEventRow

/-- {lit}`_to_wire_ts(value)`. -/
def toWireTs (value : PyDateTime) : Except PyException String :=
  if value.utcoffset.isNone then .error ⟨.valueError, some "datetime must be timezone-aware"⟩
  else
    match value.astimezoneUtc with
    | some utc => .ok (wireText utc)
    | none => .error PyError.overflowError.raised

/-- {lit}`_to_json(value)`. -/
def toJson (value : PyDict) : Except PyException String :=
  (PyJson.encode ⟨true, fun _ => .error .typeError⟩ (.dict value)).mapError PyError.raised

/-- The values of the insertion. -/
def rowOf (event : WorkerEventRecord) : Except PyException WorkerEventRow := do
  let occurredAt ← toWireTs event.occurredAt
  let observedAt ← toWireTs event.observedAt
  let payload ← toJson event.payload
  return {
    eventId := event.eventId
    runtimeId := event.runtimeId
    workerIdentity := event.workerIdentity
    launchAttempt := event.launchAttempt
    eventFamily := event.eventFamily
    state := event.state
    reasonCode := event.reasonCode
    occurredAt, observedAt
    correlationId := event.correlationId
    causationId := event.causationId
    payload }

/-- Why an insertion raised. -/
inductive StoreError where
  | raised (e : PyException)
  | integrityError

/-- {lit}`SQLiteWorkerEventRepository.append_event(event)`: a violated key is {lit}`False` when the
row is there, and raised again otherwise. -/
def appendEvent (db : Database) (event : WorkerEventRecord) :
    Except StoreError (Bool × Database) := do
  let row ← (rowOf event).mapError .raised
  if row.eventId ∈ db.workerEvents.map WorkerEventRow.eventId then return (false, db)
  else if row.runtimeId ∉ db.workerInstances then .error .integrityError
  else return (true, { db with workerEvents := db.workerEvents ++ [row] })

/-- {lit}`_ensure_worker_instance_stub(...)`. -/
def ensureWorkerInstanceStub (sink : RuntimeJournalSink) (db : Database) : Database :=
  if sink.runtimeId ∈ db.workerInstances then db
  else { db with workerInstances := db.workerInstances ++ [sink.runtimeId] }

/-- The insertion of {lit}`record_lifecycle_event(event)`, in a transaction. -/
def recordLifecycleEvent (sink : RuntimeJournalSink) (db : Database)
    (event : LifecycleEventEnvelope) : Except StoreError (Bool × Database) := do
  let record ← (lifecycleRecord sink event).mapError .raised
  appendEvent (ensureWorkerInstanceStub sink db) record

/-! ## The rows that are kept -/

/-- The values of the row of an event can be built. -/
def writable (sink : RuntimeJournalSink) (event : LifecycleEventEnvelope) : Bool :=
  match (lifecycleRecord sink event).bind rowOf with
  | .ok _ => true
  | .error _ => false

/-- The events whose insertion returned {lit}`True` so far, and the database; an insertion that
raises is rolled back. -/
def store (sink : LifecycleEventEnvelope → RuntimeJournalSink)
    (s : List LifecycleEventEnvelope × Database) (event : LifecycleEventEnvelope) :
    List LifecycleEventEnvelope × Database :=
  match recordLifecycleEvent (sink event) s.2 event with
  | .ok (true, db) => (s.1 ++ [event], db)
  | .ok (false, db) => (s.1, db)
  | .error _ => s

def emptyDatabase : Database :=
  ⟨[], []⟩

/-- Insertion of a sequence of events into an empty database. -/
def storeAll (sink : LifecycleEventEnvelope → RuntimeJournalSink)
    (events : List LifecycleEventEnvelope) : List LifecycleEventEnvelope × Database :=
  events.foldl (store sink) ([], emptyDatabase)

theorem rowOf_eq_ok {record : WorkerEventRecord} {row : WorkerEventRow}
    (h : rowOf record = .ok row) : row.eventId = record.eventId ∧
      row.runtimeId = record.runtimeId := by
  simp only [rowOf, bind_eq_ok] at h
  rcases h with ⟨_, -, _, -, _, -, hrow⟩
  obtain rfl := Except.ok.inj hrow
  exact ⟨rfl, rfl⟩

theorem lifecycleRecord_eq_ok {sink : RuntimeJournalSink} {event : LifecycleEventEnvelope}
    {record : WorkerEventRecord} (h : lifecycleRecord sink event = .ok record) :
    record.eventId = event.eventId.val ∧ record.runtimeId = sink.runtimeId := by
  simp only [lifecycleRecord, bind_eq_ok] at h
  rcases h with ⟨_, -, hrecord⟩
  obtain rfl := Except.ok.inj hrecord
  exact ⟨rfl, rfl⟩

theorem workerEvents_ensure (sink : RuntimeJournalSink) (db : Database) :
    (ensureWorkerInstanceStub sink db).workerEvents = db.workerEvents := by
  unfold ensureWorkerInstanceStub
  split <;> rfl

theorem mem_workerInstances_ensure (sink : RuntimeJournalSink) (db : Database) :
    sink.runtimeId ∈ (ensureWorkerInstanceStub sink db).workerInstances := by
  unfold ensureWorkerInstanceStub
  split
  · rename_i h
    exact h
  · simp

/-- An insertion raises when the row cannot be built, leaves the table alone when the id is there,
and appends the row otherwise. -/
theorem recordLifecycleEvent_cases (sink : RuntimeJournalSink) (db : Database)
    (event : LifecycleEventEnvelope) :
    (writable sink event = false ∧ ∃ e, recordLifecycleEvent sink db event = .error e) ∨
    (writable sink event = true ∧
      event.eventId.val ∈ db.workerEvents.map WorkerEventRow.eventId ∧
      ∃ db', recordLifecycleEvent sink db event = .ok (false, db') ∧
        db'.workerEvents = db.workerEvents) ∨
    (writable sink event = true ∧
      event.eventId.val ∉ db.workerEvents.map WorkerEventRow.eventId ∧
      ∃ db' row, recordLifecycleEvent sink db event = .ok (true, db') ∧
        row.eventId = event.eventId.val ∧ db'.workerEvents = db.workerEvents ++ [row]) := by
  cases hrecord : lifecycleRecord sink event with
  | error e =>
      refine Or.inl ⟨by simp [writable, hrecord, Except.bind], .raised e, ?_⟩
      simp [recordLifecycleEvent, hrecord, Except.mapError, bind, Except.bind]
  | ok record =>
      rcases lifecycleRecord_eq_ok hrecord with ⟨hid, hruntime⟩
      cases hrow : rowOf record with
      | error e =>
          refine Or.inl ⟨by simp [writable, hrecord, hrow, Except.bind], .raised e, ?_⟩
          simp [recordLifecycleEvent, appendEvent, hrecord, hrow, Except.mapError, bind, Except.bind]
      | ok row =>
          rcases rowOf_eq_ok hrow with ⟨hrowId, hrowRuntime⟩
          rw [hruntime] at hrowRuntime
          rw [hid] at hrowId
          have hwritable : writable sink event = true := by
            simp [writable, hrecord, hrow, Except.bind]
          have hinstance := mem_workerInstances_ensure sink db
          rw [← hrowRuntime] at hinstance
          have hevents := workerEvents_ensure sink db
          by_cases hmem : event.eventId.val ∈ db.workerEvents.map WorkerEventRow.eventId
          · refine Or.inr (Or.inl ⟨hwritable, hmem, _, ?_, hevents⟩)
            simp [recordLifecycleEvent, appendEvent, hrecord, hrow, Except.mapError, bind,
              Except.bind, hevents, hrowId, List.mem_map.1 hmem, pure, Except.pure]
          · refine Or.inr (Or.inr ⟨hwritable, hmem,
              { ensureWorkerInstanceStub sink db with workerEvents := db.workerEvents ++ [row] },
              row, ?_, hrowId, rfl⟩)
            have hnew : ¬ row.eventId ∈ db.workerEvents.map WorkerEventRow.eventId := by
              rwa [hrowId]
            simp only [recordLifecycleEvent, appendEvent, hrecord, hrow, Except.mapError, bind,
              Except.bind, hevents, if_neg hnew, if_neg (not_not.2 hinstance), pure, Except.pure]

/-- The ids in the table are those of the events that were kept. -/
def IdsOf (s : List LifecycleEventEnvelope × Database) : Prop :=
  s.2.workerEvents.map WorkerEventRow.eventId = s.1.map fun e => e.eventId.val

/-- An insertion keeps an event that can be written and whose id is new, and the table goes on
holding the ids of the events that were kept. -/
theorem store_spec (sink : LifecycleEventEnvelope → RuntimeJournalSink)
    {s : List LifecycleEventEnvelope × Database} (h : IdsOf s) (event : LifecycleEventEnvelope) :
    (store sink s event).1 =
        keep (fun e => writable (sink e) e) (fun e => e.eventId.val) s.1 event ∧
      IdsOf (store sink s event) := by
  unfold IdsOf at h
  rcases recordLifecycleEvent_cases (sink event) s.2 event with
    ⟨hw, e, hrun⟩ | ⟨hw, hmem, db, hrun, hevents⟩ | ⟨hw, hmem, db, row, hrun, hid, hevents⟩
  · simp only [store, hrun, keep, hw, Bool.false_eq_true, false_and, if_false, true_and]
    exact h
  · rw [h] at hmem
    simp only [store, hrun, keep, hw, hmem, not_true_eq_false, and_false, if_false, true_and]
    rw [IdsOf, hevents, h]
  · rw [h] at hmem
    simp only [store, hrun, keep, hw, hmem, not_false_eq_true, and_self, if_true, true_and]
    rw [IdsOf, hevents, List.map_append, List.map_append, h]
    simp [hid]

/-- The table keeps the first event with each id that can be written. -/
theorem storeAll_eq_keepFirst (sink : LifecycleEventEnvelope → RuntimeJournalSink)
    (events : List LifecycleEventEnvelope) :
    (storeAll sink events).1 =
        keepFirst (fun e => writable (sink e) e) (fun e => e.eventId.val) events ∧
      IdsOf (storeAll sink events) := by
  induction events using List.reverseRecOn with
  | nil => exact ⟨rfl, rfl⟩
  | append_singleton events e ih =>
      have hlast : storeAll sink (events ++ [e]) = store sink (storeAll sink events) e :=
        List.foldl_append ..
      rcases store_spec sink ih.2 e with ⟨hkept, hids⟩
      rw [hlast, keepFirst_concat, ← ih.1]
      exact ⟨hkept, hids⟩

/-! ## The two ways to find duplicates -/

open LifecycleSignalDedupe CreatedEvent

/-- The launch attempts of each runtime never decrease. -/
def AttemptsOrdered (events : List CreatedEvent) : Prop :=
  events.Pairwise fun x y => x.event.runtimeId.val = y.event.runtimeId.val →
    x.event.launchAttempt.val ≤ y.event.launchAttempt.val

/-- Calls of the decider with the launch attempt of each event as the current one. -/
def ownCalls (events : List LifecycleEventEnvelope) : List Call :=
  events.map fun e => (e, e.launchAttempt.val)

/-- Event ids are equal exactly for events of the same identity, and the table keeps the events that
the decider accepts. -/
def DedupAgrees (sink : LifecycleEventEnvelope → RuntimeJournalSink)
    (events : List CreatedEvent) : Prop :=
  (∀ x ∈ events, ∀ y ∈ events, x.event.eventId.val = y.event.eventId.val ↔ SameIdentity x y) ∧
    (storeAll sink (events.map event)).1 =
      LifecycleSignalDedupe.empty.accepted (ownCalls (events.map event))

/-- Events of the same identity were given the same spelling of their runtime id. -/
def SpelledAlike (events : List CreatedEvent) : Prop :=
  ∀ x ∈ events, ∀ y ∈ events, SameIdentity x y → x.givenRuntimeId = y.givenRuntimeId

/-- An event that cannot be written repeats an earlier one. -/
def UnwritableRepeats (sink : LifecycleEventEnvelope → RuntimeJournalSink)
    (events : List CreatedEvent) : Prop :=
  ∀ before x after, events = before ++ x :: after → ¬ writable (sink x.event) x.event →
    ∃ y ∈ before, SameIdentity y x

/-- Of events in the order of their attempts the decider accepts the first with each identity. -/
theorem accepted_ownCalls {events : List CreatedEvent} (h : AttemptsOrdered events) :
    LifecycleSignalDedupe.empty.accepted (ownCalls (events.map event)) =
      keepFirst (fun _ => true) identityKeyOf (events.map event) := by
  have hordered : admission.Ordered (events.map event) := List.pairwise_map.2 h
  rw [accepted_eq_admitAll]
  exact Admission.admitAll_of_ordered hordered

/-- As long as the digests of the event ids do not collide, the table and the decider agree exactly
when no runtime id is spelled in two ways in events of one identity and every event that cannot be
written repeats an earlier one. -/
theorem dedup_agrees_iff (sink : LifecycleEventEnvelope → RuntimeJournalSink)
    (events : List CreatedEvent)
    (hdigests : ∀ x ∈ events, ∀ y ∈ events, DigestsDiffer x.idText y.idText)
    (hordered : AttemptsOrdered events) :
    DedupAgrees sink events ↔ SpelledAlike events ∧ UnwritableRepeats sink events := by
  rw [DedupAgrees, (storeAll_eq_keepFirst sink _).1, accepted_ownCalls hordered]
  constructor
  · rintro ⟨hids, hkept⟩
    refine ⟨fun x hx y hy hsame => ?_, fun before x after heq hunwritable => ?_⟩
    · exact ((eventId_eq_iff (hdigests x hx y hy)).1 ((hids x hx y hy).2 hsame)).2
    · have hsplit : events.map event = before.map event ++ x.event :: after.map event := by
        simp [heq]
      rcases exists_before_of_keepFirst_eq hkept hsplit hunwritable with ⟨e, he, hkey⟩
      rcases List.mem_map.1 he with ⟨y, hy, rfl⟩
      exact ⟨y, hy, identityKeyOf_eq_iff.1 hkey⟩
  · rintro ⟨hspelled, hunwritable⟩
    have hids : ∀ x ∈ events, ∀ y ∈ events,
        x.event.eventId.val = y.event.eventId.val ↔ SameIdentity x y := by
      intro x hx y hy
      rw [eventId_eq_iff (hdigests x hx y hy)]
      exact ⟨And.left, fun hsame => ⟨hsame, hspelled x hx y hy hsame⟩⟩
    refine ⟨hids, keepFirst_congr ?_ ?_⟩
    · intro e he e' he'
      rcases List.mem_map.1 he with ⟨x, hx, rfl⟩
      rcases List.mem_map.1 he' with ⟨y, hy, rfl⟩
      rw [identityKeyOf_eq_iff, hids x hx y hy]
    · intro before e after heq hwritable
      rcases List.map_eq_append_iff.1 heq with ⟨xs, rest, rfl, rfl, hrest⟩
      rcases List.map_eq_cons_iff.1 hrest with ⟨x, ys, rfl, rfl, rfl⟩
      rcases hunwritable xs x ys rfl hwritable with ⟨y, hy, hsame⟩
      exact ⟨y.event, List.mem_map.2 ⟨y, hy, rfl⟩, identityKeyOf_eq_iff.2 hsame⟩

/-- A failed launch of a runtime. -/
def launchFailedArgs (runtimeId : String) : CreateArgs where
  signalType := "bootstrap_failed"
  identity := [("runtime_id", .str runtimeId), ("launch_attempt", .int 1),
    ("worker_identity", .str "worker-1")]
  payload := [("occurred_at", .datetime march30.val)]
  correlationId := none
  causationId := none
  triggeringEventId := none

def clock : UtcDateTime :=
  march30

/-- A journal in UTC. -/
def journal : LifecycleEventEnvelope → RuntimeJournalSink :=
  fun _ => ⟨"rt-1", 1, fun _ => 0⟩

def launchFailed : CreatedEvent :=
  .ofArgs clock defaultProducer (launchFailedArgs "rt-1") (by decide +kernel)

/-- The same event with a blank after the runtime id. -/
def launchFailedBlank : CreatedEvent :=
  .ofArgs clock defaultProducer (launchFailedArgs "rt-1 ") (by decide +kernel)

/-- What the event of a failed launch holds. -/
theorem signature_launchFailed {x : CreatedEvent} {runtimeId : String}
    (h : x.args = launchFailedArgs runtimeId) (hne : runtimeId ≠ "") :
    signature x.event = (strip runtimeId, 1, "runtime.launch_failed", "bootstrap_failed") ∧
      x.givenRuntimeId = runtimeId := by
  have hgiven : x.givenRuntimeId = runtimeId := by
    simp [givenRuntimeId, h, launchFailedArgs, identityText, PyDict.get, PyDict.get?,
      PyVal.orElse, PyVal.truthy, hne, PyVal.text]
  rcases created_of_create x.created with ⟨t, n, key, hcreated⟩
  have ht : t = .bootstrapFailed := by
    have hname : t.name = SignalType.bootstrapFailed.name := by
      rw [hcreated.signalType, h]
      rfl
    have hfound := SignalType.ofName?_name t
    rw [hname, SignalType.ofName?_name] at hfound
    exact (Option.some.inj hfound).symm
  subst ht
  have hn : n = 1 := by
    have hattempt := hcreated.attempt
    rw [h] at hattempt
    simp [identityAttempt, launchFailedArgs, PyDict.get, PyDict.get?, PyVal.orElse, PyVal.truthy,
      PyVal.toInt, Except.mapError] at hattempt
    exact hattempt.symm
  have hkey : key = "bootstrap_failed" := (Except.ok.inj hcreated.identity).symm
  refine ⟨?_, hgiven⟩
  rw [signature, runtimeId_val, hgiven, hcreated.launchAttempt, hcreated.eventName,
    hcreated.identityKey, hn, hkey]
  have hstrip : strip "bootstrap_failed" = "bootstrap_failed" := by decide +kernel
  rw [hstrip]
  rfl

theorem idText_launchFailed {x : CreatedEvent} {runtimeId : String}
    (h : x.args = launchFailedArgs runtimeId) (hne : runtimeId ≠ "") :
    x.idText = eventIdText runtimeId 1 "runtime.launch_failed" "bootstrap_failed" := by
  rcases signature_launchFailed h hne with ⟨hsignature, hgiven⟩
  simp only [signature, Prod.mk.injEq] at hsignature
  rcases hsignature with ⟨-, hattempt, hname, hkey⟩
  rw [idText, hgiven, hattempt, hname, hkey]

theorem dedup_agrees_iff_launchFailed :
    DedupAgrees journal [launchFailed, launchFailed] ↔
      SpelledAlike [launchFailed, launchFailed] ∧
        UnwritableRepeats journal [launchFailed, launchFailed] :=
  dedup_agrees_iff journal [launchFailed, launchFailed] (by simp [DigestsDiffer])
    (by simp [AttemptsOrdered])

/-- The decider takes the two spellings for one runtime, the table does not. -/
theorem dedup_disagrees :
    ¬ ∀ (sink : LifecycleEventEnvelope → RuntimeJournalSink) (events : List CreatedEvent),
      (∀ x ∈ events, ∀ y ∈ events, DigestsDiffer x.idText y.idText) → AttemptsOrdered events →
        DedupAgrees sink events := by
  intro hagrees
  have hargs : launchFailed.args = launchFailedArgs "rt-1" := args_ofArgs ..
  have hargs' : launchFailedBlank.args = launchFailedArgs "rt-1 " := args_ofArgs ..
  rcases signature_launchFailed hargs (by decide) with ⟨hsignature, hgiven⟩
  rcases signature_launchFailed hargs' (by decide) with ⟨hsignature', hgiven'⟩
  have hstrip : strip "rt-1 " = strip "rt-1" := by decide +kernel
  have hsame : SameIdentity launchFailed launchFailedBlank := by
    rw [SameIdentity, hsignature, hsignature', hstrip]
  have hdigest : DigestsDiffer launchFailed.idText launchFailedBlank.idText := by
    rw [idText_launchFailed hargs (by decide), idText_launchFailed hargs' (by decide)]
    decide +kernel
  have hpair := hagrees journal [launchFailed, launchFailedBlank]
    (by
      simp only [List.forall_mem_cons, List.not_mem_nil, false_implies, implies_true, and_true]
      exact ⟨⟨fun _ => rfl, hdigest⟩, fun h => (hdigest h.symm).symm, fun _ => rfl⟩)
    (by simpa [AttemptsOrdered] using fun _ => le_of_eq (sameIdentity_iff.1 hsame).2.1)
  have hid := (hpair.1 launchFailed (by simp) launchFailedBlank (by simp)).2 hsame
  have hspelled := ((eventId_eq_iff hdigest).1 hid).2
  rw [hgiven, hgiven'] at hspelled
  exact absurd hspelled (by decide)

end Persistence
end StrategyWorker
