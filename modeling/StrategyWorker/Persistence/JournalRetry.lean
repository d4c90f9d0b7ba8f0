import StrategyWorker.Library.LockedCalls
import StrategyWorker.Persistence.JournalRecords

/-!
# Writing the journal under lock contention

A record of the journal is written while the lock of the journal is held: a
transaction inserts its row, and when it has committed the line is appended to
the text file.  An attempt that finds the database locked is rolled back and
made again, four times at most.  Threads make their calls concurrently, and any
statement or commit may find the database locked.  The text file can always be
appended to; the delay before an attempt and what is printed on the console are
left out.

Main results:

- Theorem {lit}`completes_cases`: a call that took the lock either stores its row
  and its line, or gives up and leaves both as they were.
- Theorem {lit}`writes_exactly_once`: in every run of any number of threads, the
  rows and the lines are those of the calls that returned, once each and in the
  order of the calls.
-/

namespace StrategyWorker
namespace Persistence

open Library
open PyText WorkerTables

/-! ## Attempts -/

/-- Why an attempt failed. -/
inductive WriteError where
  /-- An {lit}`OperationalError` with its message. -/
  | operational (message : String)
  | store (e : StoreError)
  | raised (e : PyException)

/-- The attempt may be made again. -/
def WriteError.isLocked : WriteError → Bool
  | operational message =>
      Integration.containsText (lower message) "database is locked" ||
        Integration.containsText (lower message) "database table is locked"
  | _ => false

/-- The tables and the text file. -/
structure JournalState where
  tables : JournalTables
  lines : List String

/-- Where an attempt is. -/
inductive AttemptStage where
  /-- The connection is taken and the transaction begins. -/
  | connecting
  /-- A transaction with its tables, and the statements that are left. -/
  | executing (pending : JournalTables) (rest : List Statement)
  /-- The transaction has committed. -/
  | writing
  | sleeping

/-- A record that is written, with the errors of the attempts that failed. -/
structure Write where
  record : JournalRecord
  failures : List WriteError
  stage : AttemptStage

/-- What a call comes to, with the errors of its attempts. -/
inductive CallResult where
  | returned (failures : List WriteError)
  | raised (failures : List WriteError) (e : WriteError)

/-- {lit}`retries`. -/
def retries : Nat := 4

/-- The {lit}`except` clause of {lit}`_with_sqlite_lock_retry`. -/
def Write.failed (w : Write) (e : WriteError) : Write ⊕ CallResult :=
  if e.isLocked ∧ w.failures.length < retries then
    .inl { w with failures := w.failures ++ [e], stage := .sleeping }
  else .inr (.raised w.failures e)

namespace OrderJournalSink

variable (sink : OrderJournalSink)

/-- A step of a call that holds the lock.  The outcome of a statement or of the commit is the
message of the error that it raises, if any; a transaction that raises is rolled back. -/
def stepWrite (s : JournalState) (w : Write) (out : Option String) :
    Option (JournalState × (Write ⊕ CallResult)) :=
  match w.stage, out with
  | .connecting, none =>
      some (s, .inl { w with stage := .executing s.tables (sink.statements w.record) })
  | .executing pending (statement :: rest), none =>
      match statement pending with
      | .ok pending => some (s, .inl { w with stage := .executing pending rest })
      | .error e => some (s, w.failed (.store e))
  | .executing pending [], none =>
      some ({ s with tables := pending }, .inl { w with stage := .writing })
  | .writing, none =>
      match lineText w.record.line with
      | .ok text => some ({ s with lines := s.lines ++ [text] }, .inr (.returned w.failures))
      | .error e => some (s, w.failed (.raised e))
  | .sleeping, none => some (s, .inl { w with stage := .connecting })
  | .connecting, some message | .executing _ _, some message =>
      some (s, w.failed (.operational message))
  | .writing, some _ | .sleeping, some _ => none

/-- The calls of the journal: the record is built, and then written while the lock is held. -/
def calls : LockedCalls JournalState JournalCall Write CallResult (Option String) where
  prepare call :=
    match call.build sink with
    | .ok record => .ok ⟨record, [], .connecting⟩
    | .error e => .error (.raised [] (.raised e))
  step := sink.stepWrite

/-- The transaction of a record. -/
def transaction (record : JournalRecord) (t : JournalTables) : Except StoreError JournalTables :=
  runStatements (sink.statements record) t

end OrderJournalSink

/-! ## One call that holds the lock -/

variable {sink : OrderJournalSink}

theorem failed_cases (w : Write) (e : WriteError) :
    (e.isLocked = true ∧ w.failures.length < retries ∧
      w.failed e = .inl { w with failures := w.failures ++ [e], stage := .sleeping }) ∨
    ((e.isLocked = true → retries ≤ w.failures.length) ∧ w.failed e = .inr (.raised w.failures e)) := by
  unfold Write.failed
  split
  · rename_i h
    exact .inl ⟨h.1, h.2, rfl⟩
  · rename_i h
    refine .inr ⟨fun hlocked => ?_, rfl⟩
    by_contra hlt
    exact h ⟨hlocked, not_le.1 hlt⟩

/-- What a call has done since it took the lock: its attempts that failed found the database
locked, and the tables change when its transaction commits. -/
structure Writing (sink : OrderJournalSink) (record : JournalRecord) (s : JournalState)
    (now : JournalState) (w : Write) : Prop where
  record_eq : w.record = record
  locked : ∀ e ∈ w.failures, e.isLocked = true
  attempts : w.failures.length ≤ retries
  lines : now.lines = s.lines
  stage : match w.stage with
    | .connecting | .sleeping => now.tables = s.tables
    | .executing pending rest => now.tables = s.tables ∧ ∃ before,
        sink.statements record = before ++ rest ∧ runStatements before s.tables = .ok pending
    | .writing => sink.transaction record s.tables = .ok now.tables

/-- What a call comes to: its row and its line, or neither. -/
inductive Wrote (sink : OrderJournalSink) (record : JournalRecord) (s : JournalState) :
    JournalState → CallResult → Prop where
  | stored {tables : JournalTables} {text : String} {failures : List WriteError} :
      sink.transaction record s.tables = .ok tables → lineText record.line = .ok text →
      (∀ e ∈ failures, e.isLocked = true) → failures.length ≤ retries →
        Wrote sink record s ⟨tables, s.lines ++ [text]⟩ (.returned failures)
  | gaveUp {failures : List WriteError} {e : WriteError} :
      (∀ e ∈ failures, e.isLocked = true) → failures.length ≤ retries →
      (e.isLocked = true → failures.length = retries) →
        Wrote sink record s s (.raised failures e)

variable {record : JournalRecord} {s now now' : JournalState} {w w' : Write}
  {out : Option String} {result : CallResult}

/-- An attempt that fails before its transaction has committed. -/
theorem Writing.failed (h : Writing sink record s now w) (htables : now.tables = s.tables)
    (e : WriteError) :
    (∃ w', w.failed e = .inl w' ∧ Writing sink record s now w') ∨
      ∃ result, w.failed e = .inr result ∧ Wrote sink record s now result := by
  have hnow : now = s := by
    cases now
    cases s
    simp only [JournalState.mk.injEq]
    exact ⟨htables, h.lines⟩
  rcases failed_cases w e with ⟨hlocked, hlt, hfailed⟩ | ⟨hexhausted, hfailed⟩
  · refine .inl ⟨_, hfailed, h.record_eq, ?_, ?_, h.lines, htables⟩
    · intro e' he'
      rcases List.mem_append.1 he' with he' | he'
      · exact h.locked e' he'
      · rw [List.mem_singleton.1 he']
        exact hlocked
    · rw [List.length_append, List.length_singleton]
      exact hlt
  · refine .inr ⟨_, hfailed, ?_⟩
    rw [hnow]
    exact .gaveUp h.locked h.attempts fun hlocked => le_antisymm h.attempts (hexhausted hlocked)

/-- A step of a call that holds the lock. -/
theorem Writing.step (hline : ∃ text, lineText record.line = .ok text)
    (h : Writing sink record s now w) {next : Write ⊕ CallResult}
    (hstep : sink.stepWrite now w out = some (now', next)) :
    (∃ w', next = .inl w' ∧ Writing sink record s now' w') ∨
      ∃ result, next = .inr result ∧ Wrote sink record s now' result := by
  have hstage := h.stage
  unfold OrderJournalSink.stepWrite at hstep
  split at hstep <;> rename_i hw <;> rw [hw] at hstage
  · obtain ⟨rfl, rfl⟩ : now = now' ∧ _ = next := by simpa using hstep
    refine .inl ⟨_, rfl, h.record_eq, h.locked, h.attempts, h.lines, hstage, [], ?_, ?_⟩
    · rw [h.record_eq, List.nil_append]
    · rw [hstage]
      rfl
  · rename_i pending statement rest
    rcases hstage with ⟨htables, before, hbefore, hrun⟩
    split at hstep
    · rename_i pending' hstatement
      obtain ⟨rfl, rfl⟩ : now = now' ∧ _ = next := by simpa using hstep
      refine .inl ⟨_, rfl, h.record_eq, h.locked, h.attempts, h.lines, htables,
        before ++ [statement], ?_, runStatements_concat hrun hstatement⟩
      rw [hbefore, List.append_assoc, List.singleton_append]
    · rename_i e _
      obtain ⟨rfl, rfl⟩ : now = now' ∧ _ = next := by simpa using hstep
      exact h.failed htables (.store e)
  · rename_i pending
    rcases hstage with ⟨htables, before, hbefore, hrun⟩
    obtain ⟨rfl, rfl⟩ : _ = now' ∧ _ = next := by simpa using hstep
    refine .inl ⟨_, rfl, h.record_eq, h.locked, h.attempts, h.lines, ?_⟩
    dsimp only
    rw [OrderJournalSink.transaction, hbefore, List.append_nil]
    exact hrun
  · rcases hline with ⟨text, htext⟩
    rw [h.record_eq, htext] at hstep
    obtain ⟨rfl, rfl⟩ : _ = now' ∧ _ = next := by simpa using hstep
    refine .inr ⟨_, rfl, ?_⟩
    rw [h.lines]
    exact .stored hstage htext h.locked h.attempts
  · obtain ⟨rfl, rfl⟩ : now = now' ∧ _ = next := by simpa using hstep
    exact .inl ⟨_, rfl, h.record_eq, h.locked, h.attempts, h.lines, hstage⟩
  · obtain ⟨rfl, rfl⟩ : now = now' ∧ _ = next := by simpa using hstep
    exact h.failed hstage _
  · obtain ⟨rfl, rfl⟩ : now = now' ∧ _ = next := by simpa using hstep
    exact h.failed hstage.1 _
  · cases hstep
  · cases hstep

theorem prepare_eq_ok {call : JournalCall} (h : sink.calls.prepare call = .ok w) :
    ∃ record, call.build sink = .ok record ∧ w = ⟨record, [], .connecting⟩ := by
  simp only [OrderJournalSink.calls] at h
  cases hbuild : call.build sink with
  | error e => simp [hbuild] at h
  | ok record =>
      simp only [hbuild, Except.ok.injEq] at h
      exact ⟨record, rfl, h.symm⟩

/-- A call alone keeps what it has done so far. -/
theorem writing_of_alone (hline : ∃ text, lineText record.line = .ok text)
    (h : sink.calls.Alone s ⟨record, [], .connecting⟩ now w) : Writing sink record s now w := by
  refine h.invariant (Writing sink record s) ?_ ?_
  · intro t w out t' w' hw hstep
    rcases hw.step hline hstep with ⟨w'', heq, hw'⟩ | ⟨result, heq, -⟩
    · obtain rfl := Sum.inl.inj heq
      exact hw'
    · cases heq
  · exact ⟨rfl, by simp, by simp, rfl, rfl⟩

/-- A call that took the lock either stores its row and its line, or gives up and leaves both as
they were. -/
theorem completes_cases {call : JournalCall} (hbuild : call.build sink = .ok record)
    (h : sink.calls.Completes s ⟨record, [], .connecting⟩ now result) :
    Wrote sink record s now result := by
  have hline := exists_text_of_build hbuild
  rcases h with ⟨s₁, w₁, out, halone, hstep⟩
  rcases (writing_of_alone hline halone).step hline hstep with ⟨w', heq, -⟩ | ⟨result', heq, h⟩
  · cases heq
  · obtain rfl := Sum.inr.inj heq
    exact h

/-! ## Runs -/

abbrev JournalConfig := LockedConfig JournalState JournalCall Write CallResult

/-- The call returned; its row and its line are there. -/
def CallResult.isReturned : CallResult → Bool
  | returned _ => true
  | raised _ _ => false

/-- The record whose row has been committed and whose line has not been appended yet. -/
def inFlight (c : JournalConfig) : List JournalRecord :=
  match c.holder with
  | none => []
  | some i =>
      match (c.callers i).position with
      | .inside _ ⟨record, _, .writing⟩ => [record]
      | _ => []

/-- Transactions one after the other. -/
def storeRecords (sink : OrderJournalSink) (t : JournalTables) (records : List JournalRecord) :
    Except StoreError JournalTables :=
  records.foldlM (fun t record => sink.transaction record t) t

theorem storeRecords_concat {t u v : JournalTables} {records : List JournalRecord}
    (hbefore : storeRecords sink t records = .ok u) (hlast : sink.transaction record u = .ok v) :
    storeRecords sink t (records ++ [record]) = .ok v := by
  unfold storeRecords at hbefore ⊢
  rw [List.foldlM_append, hbefore]
  exact (bind_eq_ok.2 ⟨v, hlast, rfl⟩ : sink.transaction record u >>= pure = .ok v)

/-- The records of the calls that returned, in the order in which they did. -/
def recordsOf (sink : OrderJournalSink) (calls : List (Finished JournalCall CallResult)) :
    List JournalRecord :=
  (calls.filter fun call => call.result.isReturned).filterMap
    fun call => (call.job.build sink).toOption

/-- Both copies hold the records of the calls that returned, and each call that raised gave up. -/
structure Kept (sink : OrderJournalSink) (s : JournalState)
    (calls : List (Finished JournalCall CallResult)) (now : JournalState) : Prop where
  tables : storeRecords sink s.tables (recordsOf sink calls) = .ok now.tables
  lines : ∃ texts, (recordsOf sink calls).mapM (fun record => lineText record.line) = .ok texts ∧
    now.lines = s.lines ++ texts
  results : ∀ call ∈ calls, ∃ record s' now', call.job.build sink = .ok record ∧
    Wrote sink record s' now' call.result

theorem Kept.of_serial {calls : List (Finished JournalCall CallResult)}
    (h : sink.calls.Serial s calls now) : Kept sink s calls now := by
  induction h with
  | nil => exact ⟨rfl, ⟨[], rfl, by simp⟩, by simp⟩
  | @concat calls m m' call work hserial hprepare hcompletes ih =>
      rcases prepare_eq_ok hprepare with ⟨record, hbuild, rfl⟩
      have hwrote := completes_cases hbuild hcompletes
      have hresults : ∀ call' ∈ calls ++ [call], ∃ record s' now',
          call'.job.build sink = .ok record ∧ Wrote sink record s' now' call'.result := by
        intro call' hmem
        rcases List.mem_append.1 hmem with hmem | hmem
        · exact ih.results call' hmem
        · rw [List.mem_singleton.1 hmem]
          exact ⟨record, m, m', hbuild, hwrote⟩
      rcases ih.lines with ⟨texts, htexts, hlines⟩
      cases hresult : call.result with
      | returned failures =>
          have hrecords : recordsOf sink (calls ++ [call]) = recordsOf sink calls ++ [record] := by
            simp [recordsOf, hresult, CallResult.isReturned, hbuild, Except.toOption]
          rw [hresult] at hwrote
          cases hwrote with
          | @stored tables text failures htransaction htext _ _ =>
              refine ⟨?_, ⟨texts ++ [text], ?_, ?_⟩, hresults⟩
              · rw [hrecords]
                exact storeRecords_concat ih.tables htransaction
              · rw [hrecords, List.mapM_append, htexts]
                simp [htext, bind, Except.bind, pure, Except.pure]
              · rw [hlines, List.append_assoc]
      | raised failures e =>
          have hrecords : recordsOf sink (calls ++ [call]) = recordsOf sink calls := by
            simp [recordsOf, hresult, CallResult.isReturned]
          rw [hresult] at hwrote
          cases hwrote with
          | gaveUp _ _ _ =>
              refine ⟨?_, ⟨texts, ?_, hlines⟩, hresults⟩
              · rw [hrecords]
                exact ih.tables
              · rw [hrecords]
                exact htexts

/-- Calls that did not take the lock have no record. -/
theorem recordsOf_served (c : JournalConfig) :
    recordsOf sink (sink.calls.served c) = recordsOf sink (finishedCalls c.history) := by
  unfold LockedCalls.served
  generalize finishedCalls c.history = calls
  unfold recordsOf
  induction calls with
  | nil => rfl
  | cons call calls ih =>
      cases hbuild : call.job.build sink with
      | ok record =>
          have hprepared : sink.calls.prepared call = true := by
            simp [LockedCalls.prepared, OrderJournalSink.calls, hbuild, Except.isOk, Except.toBool]
          rw [List.filter_cons_of_pos hprepared, List.filter_cons, List.filter_cons]
          split
          · rw [List.filterMap_cons, List.filterMap_cons, ih]
          · exact ih
      | error e =>
          have hprepared : ¬ sink.calls.prepared call = true := by
            simp [LockedCalls.prepared, OrderJournalSink.calls, hbuild, Except.isOk, Except.toBool]
          rw [List.filter_cons_of_neg hprepared, List.filter_cons, ih]
          split
          · simp [hbuild, Except.toOption]
          · rfl

/-! ## Rows -/

namespace JournalRecord

/-- The row of a record in {lit}`runtime_state_journal`. -/
def stateRows : JournalRecord → List StateJournalRow
  | state record _ => (stateJournalRow record).toOption.toList
  | orderIntent _ _ => []

/-- The row of a record in {lit}`order_intent_journal`. -/
def orderRows : JournalRecord → List OrderIntentRow
  | state _ _ => []
  | orderIntent record _ => (orderIntentRow record).toOption.toList

end JournalRecord

/-- The statements on the instance leave the journals alone. -/
theorem instance_statement_journals {phase : String} {reasonCode : Option String}
    {observedAt : PyDateTime} {t u : JournalTables} {statement : Statement}
    (hmem : statement ∈ sink.instanceStatements phase reasonCode observedAt)
    (h : statement t = .ok u) :
    u.stateJournal = t.stateJournal ∧ u.orderIntents = t.orderIntents := by
  have honWorkers : ∀ f : WorkerTables → Except StoreError WorkerTables, onWorkers f t = .ok u →
      u.stateJournal = t.stateJournal ∧ u.orderIntents = t.orderIntents := by
    intro f hf
    simp only [onWorkers, bind_eq_ok] at hf
    rcases hf with ⟨db, -, hf⟩
    obtain rfl := Except.ok.inj hf
    exact ⟨rfl, rfl⟩
  simp only [OrderJournalSink.instanceStatements, List.mem_cons, List.not_mem_nil, or_false] at hmem
  rcases hmem with rfl | rfl | rfl
  · exact honWorkers _ h
  · obtain rfl := Except.ok.inj h
    exact ⟨rfl, rfl⟩
  · exact honWorkers _ h

theorem runStatements_journals {statements : List Statement} (hstatements : ∀ statement ∈ statements,
    ∀ t u, statement t = .ok u →
      u.stateJournal = t.stateJournal ∧ u.orderIntents = t.orderIntents)
    {t u : JournalTables} (h : runStatements statements t = .ok u) :
    u.stateJournal = t.stateJournal ∧ u.orderIntents = t.orderIntents := by
  unfold runStatements at h
  induction statements generalizing t with
  | nil =>
      obtain rfl := Except.ok.inj h
      exact ⟨rfl, rfl⟩
  | cons statement statements ih =>
      rcases bind_eq_ok.1 h with ⟨v, hv, h⟩
      rcases hstatements statement List.mem_cons_self t v hv with ⟨hstate, horder⟩
      rcases ih (fun s hs => hstatements s (List.mem_cons_of_mem _ hs)) h with ⟨hstate', horder'⟩
      exact ⟨hstate'.trans hstate, horder'.trans horder⟩

/-- A transaction that commits inserts one row. -/
theorem transaction_rows {t u : JournalTables} (h : sink.transaction record t = .ok u) :
    u.stateJournal = t.stateJournal ++ record.stateRows ∧
      u.orderIntents = t.orderIntents ++ record.orderRows ∧
        record.stateRows.length + record.orderRows.length = 1 := by
  unfold OrderJournalSink.transaction at h
  cases record with
  | orderIntent record line =>
      rcases bind_eq_ok.1 h with ⟨v, hv, h⟩
      obtain rfl := Except.ok.inj h
      simp only [appendOrderIntent, bind_eq_ok, mapError_eq_ok] at hv
      rcases hv with ⟨row, hrow, hv⟩
      obtain rfl := Except.ok.inj hv
      simp [JournalRecord.stateRows, JournalRecord.orderRows, hrow, Except.toOption]
  | state record line =>
      have hsplit : ∃ before, sink.statements (.state record line) = before ++ [appendState record] ∧
          ∀ statement ∈ before, ∀ t u, statement t = .ok u →
            u.stateJournal = t.stateJournal ∧ u.orderIntents = t.orderIntents := by
        refine ⟨_, rfl, ?_⟩
        intro statement hmem t u hstatement
        split at hmem
        · split at hmem
          · exact instance_statement_journals hmem hstatement
          · cases hmem
        · cases hmem
      rcases hsplit with ⟨before, hstatements, hbefore⟩
      rw [hstatements, runStatements, List.foldlM_append] at h
      rcases bind_eq_ok.1 h with ⟨v, hv, h⟩
      rcases bind_eq_ok.1 h with ⟨u', hlast, h⟩
      obtain rfl := Except.ok.inj h
      rcases runStatements_journals hbefore hv with ⟨hstate, horder⟩
      simp only [appendState, bind_eq_ok, mapError_eq_ok] at hlast
      rcases hlast with ⟨row, hrow, hlast⟩
      obtain rfl := Except.ok.inj hlast
      simp [JournalRecord.stateRows, JournalRecord.orderRows, hrow, Except.toOption, hstate, horder]

/-- Transactions insert the rows of their records, one each. -/
theorem storeRecords_rows {records : List JournalRecord} {t u : JournalTables}
    (h : storeRecords sink t records = .ok u) :
    u.stateJournal = t.stateJournal ++ records.flatMap JournalRecord.stateRows ∧
      u.orderIntents = t.orderIntents ++ records.flatMap JournalRecord.orderRows ∧
        ∀ record ∈ records, record.stateRows.length + record.orderRows.length = 1 := by
  unfold storeRecords at h
  induction records generalizing t with
  | nil =>
      obtain rfl := Except.ok.inj h
      simp
  | cons record records ih =>
      rcases bind_eq_ok.1 h with ⟨v, hv, h⟩
      rcases transaction_rows hv with ⟨hstate, horder, hone⟩
      rcases ih h with ⟨hstate', horder', hone'⟩
      refine ⟨?_, ?_, ?_⟩
      · rw [hstate', hstate, List.append_assoc, List.flatMap_cons]
      · rw [horder', horder, List.append_assoc, List.flatMap_cons]
      · exact List.forall_mem_cons.2 ⟨hone, hone'⟩

/-! ## Every attempt comes to an end -/

/-- The steps that are left of an attempt. -/
def AttemptStage.rank (statements : Nat) : AttemptStage → Nat
  | sleeping => statements + 4
  | connecting => statements + 3
  | executing _ rest => rest.length + 2
  | writing => 1

/-- The steps that are left of a call that holds the lock. -/
def Write.weight (sink : OrderJournalSink) (w : Write) : Nat :=
  (retries - w.failures.length) * ((sink.statements w.record).length + 5) +
    w.stage.rank (sink.statements w.record).length

theorem weight_failed {e : WriteError} (h : w.failed e = .inl w') :
    w'.weight sink < w.weight sink := by
  rcases failed_cases w e with ⟨-, hlt, hfailed⟩ | ⟨-, hfailed⟩
  · rw [hfailed] at h
    obtain rfl := Sum.inl.inj h
    have hleft : retries - w.failures.length = retries - (w.failures ++ [e]).length + 1 := by
      rw [List.length_append, List.length_singleton]
      omega
    simp only [Write.weight, AttemptStage.rank]
    rw [hleft, Nat.add_one_mul]
    omega
  · rw [hfailed] at h
    cases h

theorem weight_step (h : sink.stepWrite now w out = some (now', .inl w')) :
    w'.weight sink < w.weight sink := by
  unfold OrderJournalSink.stepWrite at h
  split at h <;> rename_i hw
  · obtain ⟨-, rfl⟩ : now = now' ∧ _ = w' := by simpa using h
    simp only [Write.weight, hw, AttemptStage.rank]
    omega
  · split at h
    · obtain ⟨-, rfl⟩ : now = now' ∧ _ = w' := by simpa using h
      simp only [Write.weight, hw, AttemptStage.rank, List.length_cons]
      omega
    · rename_i e _
      have hfailed : w.failed (.store e) = .inl w' := congrArg Prod.snd (Option.some.inj h)
      exact weight_failed hfailed
  · obtain ⟨-, rfl⟩ : _ = now' ∧ _ = w' := by simpa using h
    simp only [Write.weight, hw, AttemptStage.rank, List.length_nil]
    omega
  · split at h
    · simp at h
    · rename_i e _
      have hfailed : w.failed (.raised e) = .inl w' := congrArg Prod.snd (Option.some.inj h)
      exact weight_failed hfailed
  · obtain ⟨-, rfl⟩ : now = now' ∧ _ = w' := by simpa using h
    simp only [Write.weight, hw, AttemptStage.rank]
    omega
  · have hfailed : w.failed _ = .inl w' := congrArg Prod.snd (Option.some.inj h)
    exact weight_failed hfailed
  · have hfailed : w.failed _ = .inl w' := congrArg Prod.snd (Option.some.inj h)
    exact weight_failed hfailed
  · cases h
  · cases h

/-- The steps that a call can take while it holds the lock. -/
def JournalCall.cost (sink : OrderJournalSink) (call : JournalCall) : Nat :=
  match call.build sink with
  | .ok record => Write.weight sink ⟨record, [], .connecting⟩
  | .error _ => 0

theorem weight_of_prepare {call : JournalCall} (h : sink.calls.prepare call = .ok w) :
    w.weight sink ≤ call.cost sink := by
  rcases prepare_eq_ok h with ⟨record, hbuild, rfl⟩
  simp only [JournalCall.cost, hbuild]
  exact Nat.le_refl _

def journalMeasure (sink : OrderJournalSink) : sink.calls.Measure where
  weight := Write.weight sink
  cost := JournalCall.cost sink
  prepared_le _ _ h := weight_of_prepare h
  step_lt _ _ _ _ _ h := weight_step h

/-- A call that holds the lock can go on. -/
theorem exists_stepWrite (s : JournalState) (w : Write) :
    ∃ out, (sink.calls.step s w out).isSome := by
  refine ⟨none, ?_⟩
  simp only [OrderJournalSink.calls, OrderJournalSink.stepWrite]
  cases w.stage with
  | connecting | sleeping => rfl
  | executing pending rest =>
      cases rest with
      | nil => rfl
      | cons statement rest =>
          dsimp only
          split <;> rfl
  | writing =>
      dsimp only
      split <;> rfl

/-! ## Exactly once -/

/-- The records that the calls of a history that returned have written. -/
def written (sink : OrderJournalSink) (c : JournalConfig) : List JournalRecord :=
  recordsOf sink (finishedCalls c.history)

/-- The rows are those of the calls that returned, and of the one whose line is about to be appended;
the lines are those of the calls that returned.  A call that returned did so after at most four
attempts that found the database locked; a call that raised had no record, or an error of another
kind, or used up its attempts. -/
structure WrittenOnce (sink : OrderJournalSink) (programs : Nat → List JournalCall)
    (start : JournalState) (c : JournalConfig) : Prop where
  tables : storeRecords sink start.tables (written sink c ++ inFlight c) = .ok c.shared.tables
  stateRows : c.shared.tables.stateJournal = start.tables.stateJournal ++
    (written sink c ++ inFlight c).flatMap JournalRecord.stateRows
  orderRows : c.shared.tables.orderIntents = start.tables.orderIntents ++
    (written sink c ++ inFlight c).flatMap JournalRecord.orderRows
  oneRow : ∀ record ∈ written sink c ++ inFlight c,
    record.stateRows.length + record.orderRows.length = 1
  lines : ∃ texts, (written sink c).mapM (fun record => lineText record.line) = .ok texts ∧
    c.shared.lines = start.lines ++ texts
  once : ((finishedCalls c.history).map Finished.id).Nodup
  own : ∀ call ∈ finishedCalls c.history,
    (programs call.id.caller)[call.id.index]? = some call.job
  returned : ∀ call ∈ finishedCalls c.history, ∀ failures, call.result = .returned failures →
    (∃ record, call.job.build sink = .ok record) ∧
      (∀ e ∈ failures, e.isLocked = true) ∧ failures.length ≤ retries
  raised : ∀ call ∈ finishedCalls c.history, ∀ failures e, call.result = .raised failures e →
    (∀ e ∈ failures, e.isLocked = true) ∧ (e.isLocked = true → failures.length = retries)
  inTurn : (finishedCalls c.history).Pairwise fun a b =>
    a.id.caller = b.id.caller → a.id.index < b.id.index
  inTime : (finishedCalls c.history).Pairwise fun a b => ¬ Precedes c.history b.id a.id

theorem kept_of_sound {start : JournalState} {c : JournalConfig}
    (h : sink.calls.Sound start c) : ∃ m, Kept sink start (sink.calls.served c) m ∧
      c.shared.lines = m.lines ∧
        storeRecords sink m.tables (inFlight c) = .ok c.shared.tables := by
  rcases h.serial with ⟨m, hserial, hfree, hheld⟩
  refine ⟨m, .of_serial hserial, ?_⟩
  unfold inFlight
  cases hholder : c.holder with
  | none =>
      rw [hfree hholder]
      exact ⟨rfl, rfl⟩
  | some i =>
      rcases hheld i hholder with ⟨job, begun, work, hposition, hprepare, halone⟩
      rcases prepare_eq_ok hprepare with ⟨record, hbuild, rfl⟩
      have hwriting := writing_of_alone (exists_text_of_build hbuild) halone
      refine ⟨hwriting.lines, ?_⟩
      have hstage := hwriting.stage
      rcases work with ⟨record', failures, stage⟩
      obtain rfl : record' = record := hwriting.record_eq
      simp only [hposition]
      cases stage with
      | connecting | sleeping => exact congrArg Except.ok hstage.symm
      | executing pending rest => exact congrArg Except.ok hstage.1.symm
      | writing =>
          have hnone : storeRecords sink m.tables [] = .ok m.tables := rfl
          exact storeRecords_concat hnone hstage

theorem result_of_finished {start : JournalState} {c : JournalConfig}
    {programs : Nat → List JournalCall} (hordered : sink.calls.Ordered programs c)
    {m : JournalState} (hkept : Kept sink start (sink.calls.served c) m)
    {call : Finished JournalCall CallResult} (hmem : call ∈ finishedCalls c.history) :
    (∃ record s now, call.job.build sink = .ok record ∧ Wrote sink record s now call.result) ∨
      ∃ e, call.job.build sink = .error e ∧ call.result = .raised [] (.raised e) := by
  cases hbuild : call.job.build sink with
  | ok record =>
      have hprepared : sink.calls.prepared call = true := by
        simp [LockedCalls.prepared, OrderJournalSink.calls, hbuild, Except.isOk, Except.toBool]
      have hresults := hkept.results call (List.mem_filter.2 ⟨hmem, hprepared⟩)
      rw [hbuild] at hresults
      exact .inl hresults
  | error e =>
      refine .inr ⟨e, rfl, hordered.unprepared call hmem _ ?_⟩
      simp [OrderJournalSink.calls, hbuild]

/-- In every run of any number of threads, whatever statements and commits find the database locked,
both copies hold the records of the calls that returned, once each and in the order of the calls.
Every thread takes a bounded number of steps, and when nobody can go on every call has ended. -/
theorem writes_exactly_once (sink : OrderJournalSink) (programs : Nat → List JournalCall)
    (start : JournalState) (schedule : List (Nat × Option String)) (c : JournalConfig)
    (hrun : (sink.calls.system start programs).run (sink.calls.system start programs).init schedule =
      some c) :
    WrittenOnce sink programs start c ∧
      (∀ i, TransitionSystem.count (fun l => l.1 = i) schedule ≤
        (journalMeasure sink).total (programs i)) ∧
      ((∀ j out, sink.calls.stepCaller c j out = none) → inFlight c = [] ∧
        ∀ i k, k < (programs i).length → ∃ call ∈ finishedCalls c.history, call.id = ⟨i, k⟩) := by
  have hsound := LockedCalls.run_sound hrun
  have hordered := LockedCalls.run_ordered hrun
  rcases kept_of_sound hsound with ⟨m, hkept, hlines, hflight⟩
  have hrecords : recordsOf sink (sink.calls.served c) = written sink c := recordsOf_served c
  have htables : storeRecords sink start.tables (written sink c ++ inFlight c) =
      .ok c.shared.tables := by
    have hbefore := hkept.tables
    rw [hrecords] at hbefore
    unfold storeRecords at hbefore hflight ⊢
    rw [List.foldlM_append, hbefore]
    exact hflight
  rcases storeRecords_rows htables with ⟨hstateRows, horderRows, honeRow⟩
  refine ⟨⟨htables, hstateRows, horderRows, honeRow, ?_, hordered.nodup, ?_, ?_, ?_,
    hordered.inTurn, hordered.inTime⟩, LockedCalls.run_bounded (journalMeasure sink) hrun, ?_⟩
  · rw [← hrecords, hlines]
    exact hkept.lines
  · exact fun call hcall => (hordered.ended call hcall).2
  · intro call hcall failures hresult
    rcases result_of_finished hordered hkept hcall with ⟨record, s, now, hbuild, hwrote⟩ | ⟨e, -, he⟩
    · rw [hresult] at hwrote
      cases hwrote with
      | stored _ _ hlocked hlength => exact ⟨⟨record, hbuild⟩, hlocked, hlength⟩
    · rw [hresult] at he
      cases he
  · intro call hcall failures e hresult
    rcases result_of_finished hordered hkept hcall with ⟨record, s, now, hbuild, hwrote⟩ | ⟨e', -, he⟩
    · rw [hresult] at hwrote
      cases hwrote with
      | gaveUp hlocked _ hexhausted => exact ⟨hlocked, hexhausted⟩
    · rw [hresult] at he
      obtain ⟨rfl, rfl⟩ : failures = [] ∧ e = .raised e' := by simpa using he
      exact ⟨by simp, by simp [WriteError.isLocked]⟩
  · intro hstuck
    refine ⟨?_, fun i k hk => LockedCalls.all_ended hsound hordered exists_stepWrite none hstuck hk⟩
    unfold inFlight
    cases hholder : c.holder with
    | none => rfl
    | some i =>
        rcases hsound.serial with ⟨m, -, -, hheld⟩
        rcases hheld i hholder with ⟨job, begun, work, hposition, -⟩
        have hmoves : ∃ out, (sink.calls.step c.shared work out).isSome :=
          exists_stepWrite c.shared work
        rcases hmoves with ⟨out, hout⟩
        have hnone := hstuck i out
        simp only [LockedCalls.stepCaller, hposition, Option.map_eq_none_iff] at hnone
        rw [hnone] at hout
        cases hout

/-! ## A retried record -/

/-- A journal on a host in UTC. -/
def quietSink : OrderJournalSink :=
  ⟨⟨"rt-1", 1, fun _ => 0⟩, none⟩

/-- The first two threads make a call each. -/
def twoThreads : Nat → List JournalCall
  | 0 => [.startupStep "load" ⟨⟨0, some 0, by decide, PyDateTime.utc_offset_range⟩, rfl⟩]
  | 1 => [.firstData ⟨⟨0, some 0, by decide, PyDateTime.utc_offset_range⟩, rfl⟩]
  | _ => []

def emptyJournal : JournalState :=
  ⟨⟨.migrated, [], []⟩, []⟩

/-- The first thread finds the database locked at its commit and makes another attempt, while the
second one waits. -/
def lockedAtCommit : List (Nat × Option String) :=
  [(0, none), (0, none), (0, none), (1, none), (1, none), (0, none), (0, none),
    (0, some "database is locked"), (0, none), (0, none), (0, none), (0, none), (0, none),
    (1, none), (1, none)]

theorem lockedAtCommit_exactly_once :
    ∃ c, (quietSink.calls.system emptyJournal twoThreads).run
        (quietSink.calls.system emptyJournal twoThreads).init lockedAtCommit = some c ∧
      WrittenOnce quietSink twoThreads emptyJournal c := by
  have hsome : ((quietSink.calls.system emptyJournal twoThreads).run
      (quietSink.calls.system emptyJournal twoThreads).init lockedAtCommit).isSome = true := by
    decide +kernel
  rcases Option.isSome_iff_exists.1 hsome with ⟨c, hc⟩
  exact ⟨c, hc, (writes_exactly_once quietSink twoThreads emptyJournal lockedAtCommit c hc).1⟩

end Persistence
end StrategyWorker
