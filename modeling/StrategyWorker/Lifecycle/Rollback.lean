import StrategyWorker.Lifecycle.Straight

/-!
# Rolling back a failed start

When {lit}`start` fails it sets {lit}`FAILED`, rolls back what it has brought
up and raises its error again.  The rollback guards the dependency initialiser
and the failure report against further exceptions.  The journal, the strategy
and the closeables come before them, without a guard.

Main results:

- Theorem {lit}`finishes_start`: {lit}`start` as one computation.
- Theorem {lit}`rollback_complete_iff`: the rollback is complete exactly when no
  call outside of its guards raises.
- Theorem {lit}`rollback_cut_short`: a closeable that raises.
-/

namespace StrategyWorker
namespace Lifecycle

open Domain Library

variable {w : Wiring} {env : Op → Outcome}

/-! ## A start in one go -/

/-- {lit}`start`. -/
def runStart (w : Wiring) (env : Op → Outcome) (s : Service) : Verdict :=
  if s.started then (s, none)
  else
    match runStraight w env s startBody with
    | (t, none) => (t, none)
    | (t, some e) => runStraight w env t (startFailed w e)

theorem isStraight_startBody : ∀ op ∈ startBody, isStraight op = true := by
  simp [startBody, isStraight]

theorem isStraight_startFailed (w : Wiring) (e : Error) :
    ∀ op ∈ startFailed w e, isStraight op = true := by
  intro op hop
  simp only [startFailed, rollbackPartialStartup, closeDownstreamClients, List.mem_cons,
    List.mem_append, List.mem_map] at hop
  rcases hop with rfl | ((((rfl | rfl | h) | ⟨i, -, rfl⟩) | rfl | rfl | rfl | rfl | h) | rfl | h)
  all_goals first | rfl | cases h | (split <;> rfl)

/-- What {lit}`start` makes in its {lit}`try` block comes from one of its calls. -/
theorem startBody_error {s t : Service} {e : Error}
    (h : runStraight w env s startBody = (t, some e)) :
    ∃ op ∈ startBody, ∃ u, ∃ c ∈ callsOf u op, ∃ kind, e = .raisedBy c kind := by
  have herror : (runStraight w env s startBody).2 = some e := by rw [h]
  rcases runStraight_error herror with hraise | ⟨op, hop, u, c, hc, kind, he, -⟩
  · simp [startBody] at hraise
  · exact ⟨op, hop, u, c, hc, kind, he⟩

/-- A thread that executes {lit}`start` alone ends as {lit}`runStart` does. -/
theorem finishes_start {s : Service} {spawned : List (List Op)} {r : LifecycleEnding} :
    (machine w).Finishes env s [.startGuard] spawned r ↔
      r = (runStart w env s).ending spawned := by
  unfold runStart
  cases hstarted : s.started with
  | true =>
      have hguard : exec w s .startGuard (env .startGuard) = some (.next s [] []) := by
        simp [exec, hstarted]
      rw [finishes_step hguard]
      exact ThreadMachine.finishes_nil
  | false =>
      have hguard : exec w s .startGuard (env .startGuard) =
          some (.next s (startBody ++ [.exceptStart]) []) := by
        simp [exec, hstarted]
      rw [finishes_step hguard, List.append_nil,
        ThreadMachine.finishes_append ((finishes_straight isStraight_startBody).2 rfl)]
      rcases hbody : runStraight w env s startBody with ⟨t, _ | e⟩
      · have hexcept : exec w t .exceptStart (env .exceptStart) = some (.next t [] []) := rfl
        simp only [Verdict.ending]
        rw [finishes_step hexcept]
        exact ThreadMachine.finishes_nil
      · rcases startBody_error hbody with ⟨op, -, u, c, -, kind, rfl⟩
        have hunwind : (machine w).unwind (.raisedBy c kind) [.exceptStart] =
            some (startFailed w (.raisedBy c kind)) := by
          simp [ThreadMachine.unwind, machine, handler, Error.isException]
        simp only [Verdict.ending, hunwind]
        exact finishes_straight (isStraight_startFailed w _)

/-! ## The parts of the rollback -/

/-- The journal's calls after a start that failed in state {lit}`t`. -/
def journalCalls (t : Service) : List Call :=
  [.recordPhaseChange t.phase .failed, .recordLaunchFailed]

def closeCalls (w : Wiring) : List Call :=
  (List.range w.closeables.length).map .closeClient

/-- The calls of the rollback outside of any {lit}`try` block of its own. -/
def unguarded (w : Wiring) (t : Service) : List Call :=
  journalCalls t ++ .stopStrategy :: closeCalls w

/-- None of those calls that are made raises. -/
def RollbackQuiet (w : Wiring) (env : Op → Outcome) (t : Service) : Prop :=
  ∀ c ∈ unguarded w t, applies w t c = true → (env (.call c)).error = none

instance (w : Wiring) (env : Op → Outcome) (t : Service) : Decidable (RollbackQuiet w env t) :=
  inferInstanceAs (Decidable (∀ c ∈ unguarded w t, _ → _))

/-- The call that reports a failure. -/
def failureReport (error : Error) : Call :=
  if error.isBootstrapFailure then .reportBootstrapFailure else .emitBootstrapFailed

/-- The guarded calls at the end of the rollback. -/
def guardedCalls (error : Error) : List Call :=
  [.reinitializeDependencies, failureReport error]

/-- The end of the rollback. -/
def rollbackReport (error : Error) : List Op :=
  (guardedCalls error).map .call ++
    [.assign (.started false), .assign (.shutdownComplete false), .raise error]

theorem startFailed_eq (w : Wiring) (t : Service) (e : Error) :
    startFailed w e = .setPhase .failed ::
      (((unguarded w t).drop 1).map .call ++ rollbackReport e) := by
  unfold rollbackReport guardedCalls failureReport
  split <;> simp_all [startFailed, rollbackPartialStartup, unguarded, journalCalls, closeCalls,
    closeDownstreamClients, Function.comp_def]

/-- {lit}`FAILED` with some calls behind it. -/
theorem runStraight_failed (w : Wiring) (env : Op → Outcome) (t : Service) (cs : List Call)
    (rest : List Op) :
    runStraight w env t (.setPhase .failed :: (cs.map .call ++ rest)) =
      (runCalls w env (t.enter .failed)
        (.emitFailedStatus :: .recordPhaseChange t.phase .failed :: cs)).andThen
          fun u => runStraight w env u rest := by
  have hop : runOp w env t (.setPhase .failed) = runCalls w env (t.enter .failed)
      [.emitFailedStatus, .recordPhaseChange t.phase .failed] := rfl
  have hsplit : Call.emitFailedStatus :: .recordPhaseChange t.phase .failed :: cs =
      [.emitFailedStatus, .recordPhaseChange t.phase .failed] ++ cs := rfl
  rw [runStraight, hop, hsplit, runCalls_append]
  rcases runCalls w env (t.enter .failed) [.emitFailedStatus,
    .recordPhaseChange t.phase .failed] with ⟨u, _ | e'⟩
  · exact runStraight_calls u cs rest
  · rfl

/-- The rollback is its unguarded calls, then its report. -/
theorem runStraight_startFailed (w : Wiring) (env : Op → Outcome) (t : Service) (e : Error) :
    runStraight w env t (startFailed w e) =
      (runCalls w env (t.enter .failed) (.emitFailedStatus :: unguarded w t)).andThen
        fun u => runStraight w env u (rollbackReport e) := by
  rw [startFailed_eq w t e]
  exact runStraight_failed w env t _ _

/-- The closeables that have something to call. -/
theorem applies_closeClient {s : Service} {i : Nat} :
    applies w s (.closeClient i) = true ↔
      i < w.closeables.length ∧ w.closeables[i]? ≠ some .absent := by
  simp only [applies]
  cases hget : w.closeables[i]? with
  | none =>
      have := List.getElem?_eq_none_iff.1 hget
      simp [this]
  | some method =>
      have := (List.getElem?_eq_some_iff.1 hget).1
      simp [this]

/-- Only stopping the strategy depends on what has happened. -/
theorem applies_journal_close {t : Service} {c : Call}
    (hc : c ∈ journalCalls t ∨ c ∈ closeCalls w) (s u : Service) :
    applies w u c = applies w s c := by
  simp only [journalCalls, closeCalls, List.mem_cons, List.mem_map] at hc
  rcases hc with (rfl | rfl | h) | ⟨i, -, rfl⟩
  · rfl
  · rfl
  · cases h
  · rfl

theorem swallowed_unguarded {t : Service} {c : Call} (hc : c ∈ unguarded w t) :
    swallowed c = false := by
  simp only [unguarded, journalCalls, closeCalls, List.mem_append, List.mem_cons,
    List.mem_map] at hc
  rcases hc with (rfl | rfl | h) | rfl | ⟨i, -, rfl⟩ <;> first | rfl | cases h

/-- The unguarded calls run through exactly when none that is made raises. -/
theorem runCalls_unguarded {s t : Service} (hadapter : s.strategyAdapter = t.strategyAdapter) :
    (runCalls w env s (unguarded w t)).2 = none ↔ RollbackQuiet w env t := by
  have hstrategy : applies w (runCalls w env s (journalCalls t)).1 .stopStrategy =
      applies w t .stopStrategy := by
    have hkept : (runCalls w env s (journalCalls t)).1.strategyAdapter = s.strategyAdapter := by
      apply runCalls_keeps Service.strategyAdapter (fun _ _ => rfl)
      intro c hc u
      simp only [journalCalls, List.mem_cons, List.not_mem_nil, or_false] at hc
      rcases hc with rfl | rfl <;> rfl
    simp only [applies, hkept, hadapter]
  have hfixed : ∀ {c}, c ∈ journalCalls t ∨ c ∈ closeCalls w → ∀ u,
      applies w u c = applies w t c :=
    fun hc u => applies_journal_close hc t u
  rw [unguarded, runCalls_append, andThen_eq_none, runCalls_cons, andThen_eq_none,
    runCalls_ok_iff fun c hc => .inr fun u => applies_journal_close (.inl hc) _ u, runCall_ok_iff,
    runCalls_ok_iff fun c hc => .inr fun u => applies_journal_close (t := t) (.inr hc) _ u, hstrategy,
    RollbackQuiet, unguarded, List.forall_mem_append, List.forall_mem_cons]
  have hunswallowed := fun c => @swallowed_unguarded w t c
  simp only [unguarded, List.mem_append, List.mem_cons] at hunswallowed
  apply and_congr
  · apply forall₂_congr
    intro c hc
    rw [hfixed (.inl hc), forall_prop_of_true (hunswallowed c (.inl hc))]
  · apply and_congr
    · exact forall_prop_of_true rfl
    · apply forall₂_congr
      intro c hc
      rw [hfixed (.inr hc), forall_prop_of_true (hunswallowed c (.inr (.inr hc)))]

/-- The status report of {lit}`_set_phase` comes first, with a guard of its own. -/
theorem runCalls_failed (t : Service) :
    (runCalls w env (t.enter .failed) (.emitFailedStatus :: unguarded w t)).2 = none ↔
      RollbackQuiet w env t := by
  have hstatus : (runCall w env (t.enter .failed) .emitFailedStatus).2 = none :=
    runCall_ok_iff.2 fun h => by cases h
  have hadapter : (runCall w env (t.enter .failed) .emitFailedStatus).1.strategyAdapter =
      t.strategyAdapter :=
    runCall_keeps Service.strategyAdapter (fun _ _ => rfl) (fun _ => rfl) _
  rw [runCalls_cons, andThen_of_ok hstatus]
  exact runCalls_unguarded hadapter

/-- Up to its report the rollback leaves the dependencies alone. -/
theorem dependencies_failed (w : Wiring) (env : Op → Outcome) (t : Service) :
    (runCalls w env (t.enter .failed)
      (.emitFailedStatus :: unguarded w t)).1.runtimeDependencies = t.runtimeDependencies := by
  apply runCalls_keeps Service.runtimeDependencies (fun _ _ => rfl)
  intro c hc u
  simp only [unguarded, journalCalls, closeCalls, List.mem_cons, List.mem_append,
    List.mem_map] at hc
  rcases hc with rfl | (rfl | rfl | h) | rfl | ⟨i, -, rfl⟩ <;> first | rfl | cases h

/-! ## A complete rollback -/

/-- What a rollback leaves, from the state {lit}`t` in which the start failed to {lit}`u`. -/
structure RolledBack (w : Wiring) (env : Op → Outcome) (error : Error) (t u : Service) :
    Prop where
  phase : u.phase = .failed
  closed : ∀ i, i < w.closeables.length → w.closeables[i]? ≠ some .absent →
    CalledSince t u (.closeClient i)
  bootstrapReported : error.isBootstrapFailure = true → w.srmBaseUrl = true →
    CalledSince t u .reportBootstrapFailure
  failureSignalled : error.isBootstrapFailure = false →
    (t.runtimeDependencies = true ∨ (env (.call .reinitializeDependencies)).error = none) →
    CalledSince t u .emitBootstrapFailed

/-- The dependencies are there unless they fail to initialize once more. -/
theorem reinitialized {u : Service}
    (h : u.runtimeDependencies = true ∨ (env (.call .reinitializeDependencies)).error = none) :
    (runCall w env u .reinitializeDependencies).1.runtimeDependencies = true := by
  unfold runCall execCall
  cases hdeps : u.runtimeDependencies with
  | true => simp [applies, hdeps, Service.note]
  | false =>
      have hok := h.resolve_left (by simp [hdeps])
      simp [applies, hdeps, hok, Service.succeed]

/-- The guarded calls run through, and the report is among them. -/
theorem guardedCalls_run (w : Wiring) (env : Op → Outcome) (u : Service) (e : Error) :
    (runCalls w env u (guardedCalls e)).2 = none ∧
      (e.isBootstrapFailure = true → w.srmBaseUrl = true →
        CalledSince u (runCalls w env u (guardedCalls e)).1 .reportBootstrapFailure) ∧
      (e.isBootstrapFailure = false →
        (u.runtimeDependencies = true ∨
          (env (.call .reinitializeDependencies)).error = none) →
        CalledSince u (runCalls w env u (guardedCalls e)).1 .emitBootstrapFailed) := by
  have hreinit : (runCall w env u .reinitializeDependencies).2 = none :=
    runCall_ok_iff.2 fun h => by cases h
  have hreport : ∀ s, (runCall w env s (failureReport e)).2 = none := by
    intro s
    apply runCall_ok_iff.2
    unfold failureReport
    split <;> (intro h; cases h)
  have hruns : (runCalls w env u (guardedCalls e)).2 = none :=
    andThen_eq_none.2 ⟨hreinit, andThen_eq_none.2 ⟨hreport _, rfl⟩⟩
  refine ⟨hruns, fun hkind hsrm => ?_, fun hkind hdeps => ?_⟩
  · apply calledSince_runCalls hruns
    · simp [guardedCalls, failureReport, hkind]
    · exact fun _ => hsrm
  · have hsince : CalledSince (runCall w env u .reinitializeDependencies).1
        (runCall w env (runCall w env u .reinitializeDependencies).1 .emitBootstrapFailed).1
        .emitBootstrapFailed :=
      calledSince_runCall (reinitialized hdeps)
    have hlog : u.log <+: (runCall w env u .reinitializeDependencies).1.log := by
      rw [runCall_log]
      exact List.prefix_append _ _
    have hrun : (runCalls w env u (guardedCalls e)).1 =
        (runCall w env (runCall w env u .reinitializeDependencies).1 .emitBootstrapFailed).1 := by
      have hno := hreport (runCall w env u .reinitializeDependencies).1
      simp only [guardedCalls, failureReport, hkind, Bool.false_eq_true, if_false, runCalls]
        at hno ⊢
      simp only [Verdict.andThen, hreinit, hno]
    rw [hrun]
    exact hsince.of_later hlog

/-- The end of the rollback makes its report and raises the original error. -/
theorem rolledBack_report {t u : Service} {e : Error} (hphase : u.phase = .failed)
    (hdeps : u.runtimeDependencies = t.runtimeDependencies) (htu : t.log <+: u.log)
    (hclosed : ∀ i, i < w.closeables.length → w.closeables[i]? ≠ some .absent →
      CalledSince t u (.closeClient i)) :
    (runStraight w env u (rollbackReport e)).2 = some e ∧
      RolledBack w env e t (runStraight w env u (rollbackReport e)).1 := by
  rcases guardedCalls_run w env u e with ⟨hruns, hreport, hsignal⟩
  have hflags := runCalls_flags w env u (guardedCalls e)
  have hlog := runCalls_log w env u (guardedCalls e)
  rw [rollbackReport, runStraight_calls]
  rcases hrun : runCalls w env u (guardedCalls e) with ⟨v, _ | e'⟩ <;>
    rw [hrun] at hruns hreport hsignal hflags hlog
  · refine ⟨rfl, ?_⟩
    constructor
    · exact hflags.phase.trans hphase
    · exact fun i hi hmethod => (hclosed i hi hmethod).trans hlog
    · exact fun hkind hsrm => (hreport hkind hsrm).of_later htu
    · exact fun hkind h => (hsignal hkind (hdeps ▸ h)).of_later htu
  · cases hruns

/-- The error of a start is not one of the rollback's unguarded calls. -/
theorem startBody_error_ne {s t : Service} {e : Error}
    (h : runStraight w env s startBody = (t, some e)) {u : Service} {c : Call} {kind : ErrorKind}
    (hc : c ∈ unguarded w u) : e ≠ .raisedBy c kind := by
  rintro rfl
  rcases startBody_error h with ⟨op, hop, v, d, hd, kind', heq⟩
  cases heq
  simp only [unguarded, journalCalls, closeCalls, List.mem_append, List.mem_cons,
    List.mem_map] at hc
  simp only [startBody, List.mem_cons, List.not_mem_nil, or_false] at hop
  rcases hop with rfl | rfl | rfl | rfl | rfl | rfl | rfl | rfl | rfl | rfl | rfl | rfl | rfl |
    rfl | rfl | rfl | rfl | rfl | rfl | rfl | rfl | rfl <;>
    simp_all [callsOf, setPhaseCalls]

/--
A start that fails with {lit}`e` raises {lit}`e` again after a complete rollback exactly when
none of the rollback's calls outside of its guards raises.
-/
theorem rollback_complete_iff (w : Wiring) (env : Op → Outcome) (s t : Service) (e : Error)
    (r : LifecycleEnding) (hstarted : s.started = false)
    (hfails : (machine w).Finishes env s startBody [] ⟨t, some e, []⟩)
    (hstart : (machine w).Finishes env s [.startGuard] [] r) :
    (r.failure = some e ∧ RolledBack w env e t r.shared) ↔ RollbackQuiet w env t := by
  have hbody : runStraight w env s startBody = (t, some e) := by
    have h := (finishes_straight isStraight_startBody).1 hfails
    rcases hrun : runStraight w env s startBody with ⟨t', e'⟩
    rw [hrun] at h
    cases h
    rfl
  have hflags := runCalls_flags w env (t.enter .failed) (.emitFailedStatus :: unguarded w t)
  have hlog := runCalls_log w env (t.enter .failed) (.emitFailedStatus :: unguarded w t)
  have hdeps := dependencies_failed w env t
  have hr := finishes_start.1 hstart
  simp only [runStart, hstarted, Bool.false_eq_true, if_false, hbody] at hr
  rw [runStraight_startFailed] at hr
  rw [← runCalls_failed]
  rcases hrun : runCalls w env (t.enter .failed) (.emitFailedStatus :: unguarded w t) with
    ⟨u, _ | e'⟩
  · rw [hrun] at hr hflags hlog hdeps
    have hclosed : ∀ i, i < w.closeables.length → w.closeables[i]? ≠ some .absent →
        CalledSince t u (.closeClient i) := by
      intro i hi hmethod
      have hmem : Call.closeClient i ∈ .emitFailedStatus :: unguarded w t := by
        simp [unguarded, closeCalls, hi]
      have hsince := calledSince_runCalls (w := w) (s := t.enter .failed) (by rw [hrun]) hmem
        fun _ => applies_closeClient.2 ⟨hi, hmethod⟩
      rw [hrun] at hsince
      exact hsince.of_later (List.prefix_append _ _)
    rw [hr]
    simp only [iff_true]
    exact rolledBack_report hflags.phase hdeps ((List.prefix_append _ _).trans hlog) hclosed
  · rw [hrun] at hr
    have herror : (runCalls w env (t.enter .failed) (.emitFailedStatus :: unguarded w t)).2 =
        some e' := by rw [hrun]
    rcases runCalls_error herror with ⟨c, hc, kind, rfl, hswallowed⟩
    have hmem : c ∈ unguarded w t := by
      rcases List.mem_cons.1 hc with rfl | hc
      · cases hswallowed
      · exact hc
    rw [hr]
    constructor
    · rintro ⟨hfailure, -⟩
      exact absurd (Option.some.inj hfailure).symm (startBody_error_ne hbody hmem)
    · intro h
      cases h

/-- A worker with a journal and two clients to close. -/
def journalWiring : Wiring :=
  { srmWiring with stateJournal := true, closeables := [.close, .shutdown] }

/-- A start whose bootstrap pipeline fails, with a rollback that succeeds. -/
theorem rollback_complete_pipeline :
    let env := failing [(.runBootstrapPipeline, .bootstrapFailure)]
    ∃ t r, (machine journalWiring).Finishes env .new [.startGuard] [] r ∧
      r.failure = some (.raisedBy .runBootstrapPipeline .bootstrapFailure) ∧
      RolledBack journalWiring env (.raisedBy .runBootstrapPipeline .bootstrapFailure) t
        r.shared := by
  intro env
  have hstart := finishes_start.2 (Eq.refl ((runStart journalWiring env .new).ending []))
  have hrolled := (rollback_complete_iff journalWiring env .new
    (runStraight journalWiring env .new startBody).1
    (.raisedBy .runBootstrapPipeline .bootstrapFailure) _ rfl
    ((finishes_straight isStraight_startBody).2 rfl) hstart).2 (by decide +kernel)
  exact ⟨_, _, hstart, hrolled⟩

/-- The first client raises when it is closed: its error is the one that {lit}`start` raises,
the second client is not closed, and nothing is reported. -/
theorem rollback_cut_short :
    ∃ r ∈ (machine journalWiring).runAlone
        (failing [(.runBootstrapPipeline, .bootstrapFailure), (.closeClient 0, .other)])
        60 .new [.startGuard] [],
      r.failure = some (.raisedBy (.closeClient 0) .other) ∧
        ∀ e ∈ r.shared.log, ∀ d ∈ [true, false], e ≠ .called (.closeClient 1) d ∧
          e ≠ .called .reportBootstrapFailure d := by
  decide +kernel

end Lifecycle
end StrategyWorker
