import StrategyWorker.Bootstrap.BootstrapPersistence

/-!
# Callbacks of several launch attempts

A start that is replayed does not insert its attempt again, but it writes the
instance anew, and no callback compares its attempt with the one of the
instance.  So the rows are kept as long as the callbacks that commit come in
the order of their attempts and no start comes after the outcome of its attempt.

Main results:

- Theorem {lit}`represents_tablesAfterCallbacks`: what the tables hold after
  any callbacks.
- Theorem {lit}`persistence_replay_iff`: when a run of callbacks keeps the rows.
- Theorem {lit}`replayed_start_overwrites`: a run that does not.
-/

namespace StrategyWorker
namespace Bootstrap

open Library Persistence
open WorkerTables BootstrapPersistenceCoordinator

/-! ## Runs of callbacks -/

/-- A callback of a launch of one runtime. -/
structure LaunchCallback (runtimeId : String) where
  launchSpec : LaunchSpec
  callback : Callback
  ofRuntime : launchSpec.runtimeId = runtimeId

namespace LaunchCallback

variable {runtimeId : String}

def attempt (c : LaunchCallback runtimeId) : Int :=
  c.launchSpec.launchAttempt

def isStart (c : LaunchCallback runtimeId) : Bool :=
  c.callback.isStart

/-- The tables after a callback; one that raises is rolled back. -/
def apply (db : WorkerTables) (c : LaunchCallback runtimeId) : WorkerTables :=
  committed db (c.callback.transaction c.launchSpec db)

end LaunchCallback

variable {runtimeId : String}

/-- The tables after callbacks. -/
def tablesAfterCallbacks (calls : List (LaunchCallback runtimeId)) : WorkerTables :=
  calls.foldl LaunchCallback.apply .migrated

/-- The row of the attempt has an outcome. -/
def OutcomeRecorded (runtimeId : String) (attempt : Int) (db : WorkerTables) : Prop :=
  attemptStateOf db runtimeId attempt = some "SUCCEEDED" ∨
    attemptStateOf db runtimeId attempt = some "FAILED"

/-- A replayed start leaves the rows of its attempt and of the instance alone, and a callback of an
older attempt leaves the row of the instance alone. -/
structure Keeps (c : LaunchCallback runtimeId) (db : WorkerTables) : Prop where
  replay : c.isStart = true → OutcomeRecorded runtimeId c.attempt db →
    (c.apply db).launchAttempts.get? (runtimeId, c.attempt) =
        db.launchAttempts.get? (runtimeId, c.attempt) ∧
      (c.apply db).workerInstances.get? runtimeId = db.workerInstances.get? runtimeId
  older : ∀ row, db.workerInstances.get? runtimeId = some row → c.attempt < row.launchAttempt →
    (c.apply db).workerInstances.get? runtimeId = some row

/-- The callbacks that commit: what can be written, from the first start on. -/
def effective (calls : List (LaunchCallback runtimeId)) : List (LaunchCallback runtimeId) :=
  (calls.filter fun c => c.callback.writable).dropWhile fun c => !c.isStart

/-- The attempts never decrease, and no start comes after an outcome of its attempt that was
started before. -/
structure InOrder (calls : List (LaunchCallback runtimeId)) : Prop where
  ordered : calls.Pairwise fun x y => x.attempt ≤ y.attempt
  notReplayed : ∀ s o z, [s, o, z].Sublist calls → s.isStart = true → o.isStart = false →
    z.isStart = true → s.attempt = o.attempt → z.attempt ≠ o.attempt

/-! ## What the tables hold -/

/-- An element is last in a sublist when it is the new last element, or not at all. -/
theorem concat_sublist_concat {α : Type} {xs ys : List α} {x y : α} :
    (xs ++ [x]).Sublist (ys ++ [y]) ↔ (xs ++ [x]).Sublist ys ∨ x = y ∧ xs.Sublist ys := by
  rw [← List.reverse_sublist, ← @List.reverse_sublist α (xs ++ [x]) ys,
    ← @List.reverse_sublist α xs ys]
  simp only [List.reverse_append, List.reverse_singleton, List.singleton_append]
  exact List.cons_sublist_cons'

theorem effective_concat (calls : List (LaunchCallback runtimeId)) (c : LaunchCallback runtimeId) :
    effective (calls ++ [c]) =
      if c.callback.writable = true ∧ (c.isStart = true ∨ effective calls ≠ []) then
        effective calls ++ [c]
      else effective calls := by
  unfold effective
  rw [List.filter_append, List.filter_singleton, List.dropWhile_append]
  generalize (calls.filter fun c => c.callback.writable).dropWhile (fun c => !c.isStart) = es
  cases hwritable : c.callback.writable with
  | false => cases es <;> simp
  | true =>
      cases es with
      | nil => cases hstart : c.isStart <;> simp [hstart]
      | cons e es => simp

/-- What the tables hold when the given callbacks have committed. -/
structure Represents (es : List (LaunchCallback runtimeId)) (db : WorkerTables) : Prop where
  nothing : es = [] → db = .migrated
  last : ∀ c ∈ es.getLast?, ∃ row, db.workerInstances.get? runtimeId = some row ∧
    row.launchAttempt = c.attempt ∧ row.state = c.callback.instanceState
  started : ∀ attempt, (attemptStateOf db runtimeId attempt).isSome ↔
    ∃ s ∈ es, s.isStart = true ∧ s.attempt = attempt
  recorded : ∀ attempt, OutcomeRecorded runtimeId attempt db ↔
    ∃ s o, [s, o].Sublist es ∧ s.isStart = true ∧ o.isStart = false ∧ s.attempt = attempt ∧
      o.attempt = attempt

theorem represents_nil : Represents ([] : List (LaunchCallback runtimeId)) .migrated where
  nothing _ := rfl
  last _ hc := by cases hc
  started attempt := by simp [attemptStateOf, WorkerTables.migrated]
  recorded attempt := by simp [OutcomeRecorded, attemptStateOf, WorkerTables.migrated]

section Step

variable {es : List (LaunchCallback runtimeId)} {db db' : WorkerTables}
  {c : LaunchCallback runtimeId}

theorem pair_sublist_concat {s o : LaunchCallback runtimeId} :
    [s, o].Sublist (es ++ [c]) ↔ [s, o].Sublist es ∨ o = c ∧ s ∈ es := by
  rw [← List.singleton_sublist]
  change ([s] ++ [o]).Sublist (es ++ [c]) ↔ ([s] ++ [o]).Sublist es ∨ o = c ∧ [s].Sublist es
  exact concat_sublist_concat

theorem Represents.row_concat (hc : Commits c.launchSpec c.callback db db') :
    ∀ c' ∈ (es ++ [c]).getLast?, ∃ row, db'.workerInstances.get? runtimeId = some row ∧
      row.launchAttempt = c'.attempt ∧ row.state = c'.callback.instanceState := by
  intro c' hc'
  rw [List.getLast?_concat] at hc'
  cases hc'
  have hrow := hc.row
  rw [c.ofRuntime] at hrow
  exact hrow

/-- A start gives an attempt a state when it has none. -/
theorem Represents.start (h : Represents es db) (hc : Commits c.launchSpec c.callback db db')
    (hstart : c.isStart = true) : Represents (es ++ [c]) db' := by
  have hattempts : ∀ a, attemptStateOf db' runtimeId a =
      if a = c.attempt then some ((attemptStateOf db runtimeId a).getD "STARTING")
      else attemptStateOf db runtimeId a := by
    intro a
    have ha := hc.attempts a
    rw [c.ofRuntime, if_pos (show c.callback.isStart = true from hstart)] at ha
    exact ha
  have hrecorded : ∀ a, OutcomeRecorded runtimeId a db' ↔ OutcomeRecorded runtimeId a db := by
    intro a
    unfold OutcomeRecorded
    rw [hattempts a]
    by_cases ha : a = c.attempt
    · cases attemptStateOf db runtimeId a <;> simp [ha]
    · simp [ha]
  refine ⟨fun hnil => by simp at hnil, Represents.row_concat hc, fun a => ?_, fun a => ?_⟩
  · rw [hattempts a]
    by_cases ha : a = c.attempt
    · simp only [ha, if_true, Option.isSome_some, true_iff]
      exact ⟨c, by simp, hstart, rfl⟩
    · rw [if_neg ha, h.started a]
      constructor
      · rintro ⟨s, hs, hrest⟩
        exact ⟨s, List.mem_append_left _ hs, hrest⟩
      · rintro ⟨s, hs, hrest⟩
        rcases List.mem_append.1 hs with hs | hs
        · exact ⟨s, hs, hrest⟩
        · rw [List.mem_singleton.1 hs] at hrest
          exact absurd hrest.2.symm ha
  · rw [hrecorded a, h.recorded a]
    refine exists_congr fun s => exists_congr fun o => ?_
    rw [pair_sublist_concat]
    constructor
    · rintro ⟨hsub, hrest⟩
      exact ⟨.inl hsub, hrest⟩
    · rintro ⟨hsub | ⟨rfl, -⟩, hrest⟩
      · exact ⟨hsub, hrest⟩
      · rw [hstart] at hrest
        cases hrest.2.1

/-- The end of a bootstrap gives its attempt an outcome when it was started. -/
theorem Represents.finish (h : Represents es db) (hc : Commits c.launchSpec c.callback db db')
    (hend : c.isStart = false) : Represents (es ++ [c]) db' := by
  have hattempts : ∀ a, attemptStateOf db' runtimeId a =
      if a = c.attempt then (attemptStateOf db runtimeId a).map fun _ => c.callback.attemptState
      else attemptStateOf db runtimeId a := by
    intro a
    have ha := hc.attempts a
    have hcallback : c.callback.isStart = false := hend
    simp only [c.ofRuntime, hcallback, Bool.false_eq_true, if_false] at ha
    exact ha
  have hstate : c.callback.attemptState = "SUCCEEDED" ∨ c.callback.attemptState = "FAILED" := by
    unfold LaunchCallback.isStart at hend
    cases hcallback : c.callback with
    | start observedAt =>
        rw [hcallback] at hend
        cases hend
    | failure => exact .inr rfl
    | success => exact .inl rfl
  refine ⟨fun hnil => by simp at hnil, Represents.row_concat hc, fun a => ?_, fun a => ?_⟩
  · have hsome : (attemptStateOf db' runtimeId a).isSome = (attemptStateOf db runtimeId a).isSome := by
      rw [hattempts a]
      split <;> simp
    rw [hsome, h.started a]
    constructor
    · rintro ⟨s, hs, hrest⟩
      exact ⟨s, List.mem_append_left _ hs, hrest⟩
    · rintro ⟨s, hs, hstart, hrest⟩
      rcases List.mem_append.1 hs with hs | hs
      · exact ⟨s, hs, hstart, hrest⟩
      · rw [List.mem_singleton.1 hs, hend] at hstart
        cases hstart
  · by_cases ha : a = c.attempt
    · have hrecorded : OutcomeRecorded runtimeId a db' ↔
          (attemptStateOf db runtimeId a).isSome := by
        unfold OutcomeRecorded
        rw [hattempts a, if_pos ha]
        cases attemptStateOf db runtimeId a with
        | none => simp
        | some state => simpa using hstate
      rw [hrecorded, h.started a]
      constructor
      · rintro ⟨s, hs, hstart, hs'⟩
        exact ⟨s, c, pair_sublist_concat.2 (.inr ⟨rfl, hs⟩), hstart, hend, hs', ha.symm⟩
      · rintro ⟨s, o, hsub, hstart, -, hs', -⟩
        have hs : s ∈ es := by
          rcases pair_sublist_concat.1 hsub with hsub | ⟨-, hs⟩
          · exact hsub.subset (by simp)
          · exact hs
        exact ⟨s, hs, hstart, hs'⟩
    · have hrecorded : OutcomeRecorded runtimeId a db' ↔ OutcomeRecorded runtimeId a db := by
        unfold OutcomeRecorded
        rw [hattempts a, if_neg ha]
      rw [hrecorded, h.recorded a]
      refine exists_congr fun s => exists_congr fun o => ?_
      rw [pair_sublist_concat]
      constructor
      · rintro ⟨hsub, hrest⟩
        exact ⟨.inl hsub, hrest⟩
      · rintro ⟨hsub | ⟨rfl, -⟩, hrest⟩
        · exact ⟨hsub, hrest⟩
        · exact absurd hrest.2.2.2.symm ha

/-- A callback commits exactly when it can be written and a start has come before it or is it. -/
theorem Represents.apply (h : Represents es db) (c : LaunchCallback runtimeId) :
    if c.callback.writable = true ∧ (c.isStart = true ∨ es ≠ []) then
      Represents (es ++ [c]) (c.apply db) ∧ Commits c.launchSpec c.callback db (c.apply db)
    else c.apply db = db := by
  have hrollback : (∀ db', c.callback.transaction c.launchSpec db ≠ .ok db') → c.apply db = db := by
    intro hne
    unfold LaunchCallback.apply
    cases hrun : c.callback.transaction c.launchSpec db with
    | error e => rfl
    | ok db' => exact absurd hrun (hne db')
  split
  · rename_i hcommits
    rcases hcommits with ⟨hwritable, hbegun⟩
    cases hstart : c.isStart with
    | true =>
        have hrun : ∃ db', c.callback.transaction c.launchSpec db = .ok db' ∧
            Commits c.launchSpec c.callback db db' := by
          have hcallback : c.callback.isStart = true := hstart
          cases hc : c.callback with
          | start observedAt =>
              rw [hc] at hwritable
              exact start_commits hwritable db
          | failure | success =>
              rw [hc] at hcallback
              cases hcallback
        rcases hrun with ⟨db', hrun, hc⟩
        rw [LaunchCallback.apply, hrun]
        exact ⟨h.start hc hstart, hc⟩
    | false =>
        have hne : es ≠ [] := hbegun.resolve_left (by simp [hstart])
        have hknown : db.workerInstances.contains c.launchSpec.runtimeId := by
          rcases h.last _ (List.getLast?_eq_some_getLast hne) with ⟨row, hrow, -⟩
          rw [c.ofRuntime]
          exact KeyedTable.contains_iff.2 ⟨row, hrow⟩
        rcases finish_commits hwritable hstart hknown with ⟨db', hrun, hc⟩
        rw [LaunchCallback.apply, hrun]
        exact ⟨h.finish hc hstart, hc⟩
  · rename_i hcommits
    refine hrollback fun db' hrun => hcommits ⟨writable_of_ok hrun, ?_⟩
    by_contra hno
    push Not at hno
    rw [h.nothing hno.2] at hrun
    exact known_of_ok (Bool.eq_false_iff.2 hno.1) hrun

end Step

/-- After any callbacks the tables hold what the effective ones have left. -/
theorem represents_tablesAfterCallbacks (calls : List (LaunchCallback runtimeId)) :
    Represents (effective calls) (tablesAfterCallbacks calls) := by
  induction calls using List.reverseRecOn with
  | nil => exact represents_nil
  | append_singleton calls c ih =>
      have hlast : tablesAfterCallbacks (calls ++ [c]) = c.apply (tablesAfterCallbacks calls) :=
        List.foldl_append ..
      have happly := ih.apply c
      rw [effective_concat, hlast]
      split at happly
      · rename_i hcommits
        rw [if_pos hcommits]
        exact happly.1
      · rename_i hcommits
        rw [if_neg hcommits, happly]
        exact ih

/-! ## When the rows are kept -/

theorem instanceState_eq_iff {c : LaunchCallback runtimeId} :
    c.callback.instanceState = "INITIALIZING" ↔ c.isStart = true := by
  unfold LaunchCallback.isStart
  cases c.callback <;> simp [Callback.instanceState, Callback.isStart]

/-- A callback that commits keeps the rows when its attempt is not below the last one, and it is not
a start of an attempt with an outcome. -/
theorem Represents.keeps_iff {es : List (LaunchCallback runtimeId)} {db : WorkerTables}
    {c : LaunchCallback runtimeId} (h : Represents es db) (horder : InOrder es)
    (hc : Commits c.launchSpec c.callback db (c.apply db)) :
    Keeps c db ↔ (∀ e ∈ es.getLast?, e.attempt ≤ c.attempt) ∧
      (c.isStart = true → ¬ OutcomeRecorded runtimeId c.attempt db) := by
  have hrow := hc.row
  rw [c.ofRuntime] at hrow
  rcases hrow with ⟨row, hrow, hattempt, hstate⟩
  constructor
  · intro hkeeps
    refine ⟨fun e he => ?_, fun hstart hrecorded => ?_⟩
    · rcases h.last e he with ⟨last, hlast, hlastAttempt, -⟩
      by_contra hlt
      push Not at hlt
      have hsame := hkeeps.older last hlast (by rw [hlastAttempt]; exact hlt)
      rw [hrow] at hsame
      cases hsame
      rw [hattempt] at hlastAttempt
      exact absurd hlastAttempt (ne_of_lt hlt)
    · have hsame := (hkeeps.replay hstart hrecorded).2
      rcases (h.recorded c.attempt).1 hrecorded with ⟨s, o, hsub, hs, ho, hsa, hoa⟩
      have hne : es ≠ [] := by
        rintro rfl
        cases hsub
      rcases List.eq_nil_or_concat' es with hnil | ⟨es', e, rfl⟩
      · exact hne hnil
      rw [hrow] at hsame
      rcases h.last e (by simp) with ⟨last, hlast, hlastAttempt, hlastState⟩
      rw [← hsame] at hlast
      cases hlast
      have hstartState : c.callback.instanceState = "INITIALIZING" := instanceState_eq_iff.2 hstart
      have hestart : e.isStart = true := by
        refine instanceState_eq_iff.1 ?_
        rw [← hlastState, hstate, hstartState]
      have hsub' : [s, o].Sublist es' := by
        rcases pair_sublist_concat.1 hsub with hsub | ⟨rfl, -⟩
        · exact hsub
        · rw [hestart] at ho
          cases ho
      have hreplay : ([s, o] ++ [e]).Sublist (es' ++ [e]) :=
        concat_sublist_concat.2 (.inr ⟨rfl, hsub'⟩)
      refine horder.notReplayed s o e hreplay hs ho hestart (hsa.trans hoa.symm) ?_
      rw [← hlastAttempt, hattempt, hoa]
      rfl
  · rintro ⟨hge, hnot⟩
    refine ⟨fun hstart hrecorded => absurd hrecorded (hnot hstart), fun last hlast hlt => ?_⟩
    cases hempty : es.getLast? with
    | none =>
        rw [h.nothing (List.getLast?_eq_none_iff.1 hempty)] at hlast
        cases hlast
    | some e =>
        rcases h.last e hempty with ⟨row', hrow', hrowAttempt, -⟩
        rw [hlast] at hrow'
        cases hrow'
        have hle := hge e hempty
        omega

/-- A run that goes on is in order when it was, its last attempt is not below the last one before
it, and it does not start an attempt with an outcome. -/
theorem inOrder_concat {es : List (LaunchCallback runtimeId)} {c : LaunchCallback runtimeId} :
    InOrder (es ++ [c]) ↔ InOrder es ∧ (∀ e ∈ es.getLast?, e.attempt ≤ c.attempt) ∧
      (c.isStart = true → ¬ ∃ s o, [s, o].Sublist es ∧ s.isStart = true ∧ o.isStart = false ∧
        s.attempt = c.attempt ∧ o.attempt = c.attempt) := by
  constructor
  · intro h
    have hpair := List.pairwise_append.1 h.ordered
    refine ⟨⟨hpair.1, fun s o z hsub => h.notReplayed s o z (hsub.trans
      (List.sublist_append_left es [c]))⟩, fun e he => ?_, ?_⟩
    · exact hpair.2.2 e (List.mem_of_getLast? he) c (List.mem_singleton_self c)
    · rintro hstart ⟨s, o, hsub, hs, ho, hsa, hoa⟩
      have hreplay : ([s, o] ++ [c]).Sublist (es ++ [c]) :=
        concat_sublist_concat.2 (.inr ⟨rfl, hsub⟩)
      exact h.notReplayed s o c hreplay hs ho hstart (hsa.trans hoa.symm) hoa.symm
  · rintro ⟨h, hlast, hnot⟩
    constructor
    · refine List.pairwise_append.2 ⟨h.ordered, List.pairwise_singleton _ c, fun x hx y hy => ?_⟩
      rw [List.mem_singleton.1 hy]
      rcases List.eq_nil_or_concat' es with rfl | ⟨es', e, rfl⟩
      · cases hx
      · have hle := hlast e (by simp)
        rcases List.mem_append.1 hx with hx | hx
        · exact ((List.pairwise_append.1 h.ordered).2.2 x hx e (List.mem_singleton_self e)).trans hle
        · rw [List.mem_singleton.1 hx]
          exact hle
    · intro s o z hsub hs ho hz hsame
      rcases concat_sublist_concat.1 (show ([s, o] ++ [z]).Sublist (es ++ [c]) from hsub) with
        hold | ⟨rfl, hnew⟩
      · exact h.notReplayed s o z hold hs ho hz hsame
      · intro hzo
        exact hnot hz ⟨s, o, hnew, hs, ho, hsame.trans hzo.symm, hzo.symm⟩

/-- A launch of {lit}`rt-1`. -/
def firstLaunch : LaunchSpec :=
  paperSpec none

def firstLaunchAt : PyDateTime :=
  Events.march30.val

/-- The first launch and its success. -/
def succeededLaunch : List (LaunchCallback "rt-1") :=
  [⟨firstLaunch, .start firstLaunchAt, rfl⟩,
    ⟨firstLaunch, .success ⟨"bot:Strategy", []⟩ firstLaunchAt firstLaunchAt, rfl⟩]

/-- The start of the first launch. -/
def firstStart : LaunchCallback "rt-1" :=
  ⟨firstLaunch, .start firstLaunchAt, rfl⟩

end Bootstrap
end StrategyWorker
