import StrategyWorker.Lifecycle.Straight
import StrategyWorker.Lifecycle.WorkerLoop

/-!
# Stopping after a failed teardown

{lit}`stop` sets {lit}`_shutdown_in_progress` before its first step and nothing
releases it, so a stop request that comes after a teardown that raised is told
that the stop is in progress.  Only SIGTERM goes on after that answer, and the
coordinator starts one thread in its life.

Main results:

- Theorem {lit}`inProgress_of_entered`: the flag outlasts the teardown.
- Theorem {lit}`served_run`: a request that is served is a schedule.
- Theorem {lit}`retried_iff`: the requests that complete a failed teardown.
- Theorem {lit}`failed_teardown_refuses`: a run in which two requests do not.
-/

namespace StrategyWorker
namespace Lifecycle

open Domain Library
open ThreadMachine (weigh total)

/-! ## The flag -/

/-- Some thread has just passed the guard of {lit}`stop`. -/
def AtBody (w : Wiring) (c : LifecycleConfig) : Prop :=
  ∃ t ∈ c.threads, ∃ args rest, t.code = stopBody w args ++ rest

/-- Whoever has entered a teardown sets the flag first. -/
def Flagged (w : Wiring) (c : LifecycleConfig) : Prop :=
  0 < entered c.shared.log → c.shared.shutdownInProgress = true ∨ AtBody w c

theorem flagged_step {w : Wiring} {c d : LifecycleConfig} {m : LifecycleMove}
    (h : Flagged w c) (hstep : (workerSystem w).step c m = some d) : Flagged w d := by
  cases m with
  | request r =>
      rcases workerSystem_step_request hstep with ⟨-, rfl⟩
      intro hentered
      rcases h hentered with hflag | ⟨t, ht, hbody⟩
      · exact .inl hflag
      · exact .inr ⟨t, List.mem_append_left _ ht, hbody⟩
  | step i out =>
      rcases ThreadMachine.stepThread_eq_some.1 hstep with ⟨op, rest, f, eff, hget, hexec, rfl⟩
      have hexec : exec w c.shared op out = some eff := hexec
      intro hentered
      by_cases henter : ∀ args, op = .stopGuard args → c.shared.shutdownComplete = true
      · have hlog : entered eff.shared.log = entered c.shared.log := by
          rw [exec_log hexec, entered_append, entered_emits henter, Nat.add_zero]
        rcases h (hlog ▸ hentered) with hflag | ⟨t, ht, args, rest', hcode⟩
        · exact .inl (exec_shutdownInProgress hexec hflag)
        · rcases List.mem_iff_getElem?.1 ht with ⟨j, hj⟩
          by_cases hji : j = i
          · -- the first operation of the body
            subst hji
            rw [hget] at hj
            cases hj
            obtain rfl : op = .assign .shutdownInProgress := by
              simpa [stopBody, stopWork] using (List.cons.inj hcode).1
            cases hexec
            exact .inl rfl
          · exact .inr ⟨t, List.mem_of_getElem? (after_other hji hj), args, rest', hcode⟩
      · rcases not_forall.1 henter with ⟨args, hguard⟩
        rcases Classical.not_imp.1 hguard with ⟨rfl, hincomplete⟩
        have hfalse : c.shared.shutdownComplete = false := by simpa using hincomplete
        have heff : eff = .next (c.shared.note (.stopEntered args)) (stopBody w args) [] := by
          simpa [exec, hfalse, eq_comm] using hexec
        have hself : (c.after w i rest eff).threads[i]? = some ((machine w).resume rest eff) :=
          after_self hget
        refine .inr ⟨_, List.mem_of_getElem? hself, args, rest, ?_⟩
        rw [heff]
        rfl

/-- A teardown that nobody is inside of has left the flag set. -/
theorem inProgress_of_entered {w : Wiring} {ls : List LifecycleMove} {c : LifecycleConfig}
    (hrun : (workerSystem w).run (workerSystem w).init ls = some c)
    (hentered : 0 < entered c.shared.log) (hover : total insideWeight c.threads = 0) :
    c.shared.shutdownInProgress = true := by
  have hinv : Flagged w c := by
    refine TransitionSystem.run_invariant' (Flagged w)
      (fun _ _ _ hs hstep => flagged_step hs hstep) ?_ hrun
    intro h
    exact absurd h (Nat.lt_irrefl 0)
  rcases hinv hentered with hflag | ⟨t, ht, args, rest, hcode⟩
  · exact hflag
  · rcases List.mem_iff_getElem?.1 ht with ⟨i, hi⟩
    have hle := ThreadMachine.weigh_le_total (w := insideWeight) hi
    have hbody : 0 < weigh insideWeight (stopBody w args) := by
      unfold stopBody stopReport
      split <;> simp [insideWeight]
    rw [hcode, ThreadMachine.weigh_append] at hle
    omega

/-! ## Serving a request -/

/-- Collaborators that succeed. -/
def succeeding : Op → Outcome :=
  fun _ => .ok

/-- The request is served alone, with the thread that it starts, and every collaborator
succeeds. -/
def Served (w : Wiring) (c : LifecycleConfig) (r : Request) (t : Service) : Prop :=
  (machine w).FinishesAll succeeding c.shared [r.code] t

/-- A request that is served is a schedule of the worker. -/
theorem served_run {w : Wiring} {c : LifecycleConfig} {r : Request} {t : Service}
    (hexternal : r.external = true) (h : Served w c r t) :
    ∃ ls d, (∀ l ∈ ls, ∃ i, c.threads.length ≤ i ∧ l = .step i .ok) ∧
      (workerSystem w).run c (.request r :: ls) = some d ∧ d.shared = t := by
  have hschedule : ∃ (ls : List LifecycleMove) (d : LifecycleConfig),
      (∀ l ∈ ls, ∃ i op, c.threads.length ≤ i ∧ l = .step i (succeeding op)) ∧
        (workerSystem w).run ⟨c.shared, c.threads ++ [r.code].map .fresh⟩ ls = some d ∧
        d.shared = t :=
    ThreadMachine.finishesAll_run h c.threads
  rcases hschedule with ⟨ls, d, hthreads, hrun, hd⟩
  refine ⟨ls, d, fun l hl => ?_, ?_, hd⟩
  · rcases hthreads l hl with ⟨i, op, hi, rfl⟩
    exact ⟨i, hi, rfl⟩
  · have hstep : (workerSystem w).step c (.request r) =
        some ⟨c.shared, c.threads ++ [.fresh r.code]⟩ := by
      simp [workerSystem, ThreadMachine.system, hexternal]
    rw [TransitionSystem.run_cons, hstep]
    exact hrun

variable {w : Wiring}

theorem escapes_succeeding (s : Service) (c : Call) : escapes w succeeding s c = none := by
  unfold escapes
  split <;> rfl

/-- With collaborators that succeed, code without {lit}`raise` runs through. -/
theorem runStraight_succeeding {s : Service} {code : List Op} (h : ∀ e, .raise e ∉ code) :
    (runStraight w succeeding s code).2 = none := by
  have hcalls : ∀ cs t, (runCalls w succeeding t cs).2 = none := by
    intro cs
    induction cs with
    | nil => exact fun _ => rfl
    | cons c cs ih =>
        intro t
        rw [runCalls_cons, andThen_eq_none, runCall_error]
        exact ⟨escapes_succeeding t c, ih _⟩
  induction code generalizing s with
  | nil => rfl
  | cons op rest ih =>
      have hop : (runOp w succeeding s op).2 = none := by
        unfold runOp
        split
        · exact absurd List.mem_cons_self (h _)
        · exact hcalls _ _
      rw [runStraight_cons_ok hop]
      exact ih fun e he => h e (List.mem_cons_of_mem _ he)

theorem isStraight_stopBody (w : Wiring) (args : StopArgs) :
    ∀ op ∈ stopBody w args, isStraight op = true := by
  intro op hop
  have hbody := isBodyOp_stopBody hop
  cases op with
  | writePhase p q =>
      simp only [stopBody, List.mem_append] at hop
      rcases hop with (h | h) | h
      · simp [stopWork] at h
      · simp [closeDownstreamClients] at h
      · unfold stopReport at h
        split at h <;> simp at h
  | _ => first | rfl | cases hbody

/-- The end of a teardown, from the final phase on. -/
def stopEnd (w : Wiring) (args : StopArgs) : List Op :=
  [.setPhase (finalPhase w args), .call .reportFinalShutdown, .assign (.shutdownComplete true),
    .assign (.started false), .stopReturn]

theorem stopEnd_completes (s : Service) (args : StopArgs) :
    (runStraight w succeeding s (stopEnd w args)).1.shutdownComplete = true ∧
      (runStraight w succeeding s (stopEnd w args)).1.phase = finalPhase w args := by
  have hset : (runOp w succeeding s (.setPhase (finalPhase w args))).2 = none := by
    have hok := runStraight_succeeding (w := w) (s := s)
      (by simp : ∀ e, .raise e ∉ [Op.setPhase (finalPhase w args)])
    rw [runStraight, andThen_eq_none] at hok
    exact hok.1
  have hreport : ∀ u, (runOp w succeeding u (.call .reportFinalShutdown)).2 = none := by
    intro u
    rw [runOp_call, runCall_error]
    exact escapes_succeeding u _
  have hphase : (runOp w succeeding s (.setPhase (finalPhase w args))).1.phase =
      finalPhase w args :=
    (runCalls_flags w succeeding (s.enter (finalPhase w args)) _).phase
  have hkept := (runCall_flags w succeeding
    (runOp w succeeding s (.setPhase (finalPhase w args))).1 .reportFinalShutdown).phase
  rw [stopEnd, runStraight_cons_ok hset, runStraight_cons_ok (hreport _), runOp_call]
  exact ⟨rfl, hkept.trans hphase⟩

/-- A teardown whose collaborators succeed completes. -/
theorem stopBody_completes (s : Service) (args : StopArgs) :
    ∃ t, runStraight w succeeding s (stopBody w args) = (t, none) ∧
      t.shutdownComplete = true ∧ isFinalPhase t.phase = true := by
  have hfinal : isFinalPhase (finalPhase w args) = true := by
    unfold finalPhase
    split <;> rfl
  have hsplit : ∃ before, stopBody w args = before ++ stopEnd w args ∧
      ∀ e, .raise e ∉ before := by
    refine ⟨stopWork ++ closeDownstreamClients w ++ ([.recordShutdown .emitWorkerShutdownSignal] ++
      if args.emitTerminationSignal then [.call .emitTerminated] else []), ?_, ?_⟩
    · simp [stopBody, stopReport, stopEnd]
    · intro e
      split <;> simp [stopWork, closeDownstreamClients]
  rcases hsplit with ⟨before, hbody, hbefore⟩
  have hbeforeOk := runStraight_succeeding (w := w) (s := s) hbefore
  have hendOk : ∀ u, (runStraight w succeeding u (stopEnd w args)).2 = none := by
    intro u
    apply runStraight_succeeding
    simp [stopEnd]
  rw [hbody, runStraight_append, andThen_of_ok hbeforeOk]
  rcases stopEnd_completes (w := w) (runStraight w succeeding s before).1 args with
    ⟨hcomplete, hphase⟩
  refine ⟨_, Prod.ext rfl (hendOk _), hcomplete, ?_⟩
  rw [hphase, hfinal]

/-! ## A failed teardown -/

/-- A teardown was entered and did not complete, no thread is inside of one, and no other
request holds {lit}`_stop_initiate_lock`. -/
structure FailedTeardown (c : LifecycleConfig) : Prop where
  entered : 0 < entered c.shared.log
  incomplete : c.shared.shutdownComplete = false
  noneInside : total insideWeight c.threads = 0
  free : c.shared.stopInitiateLock = false

/-- The {lit}`with` block releases the lock and raises the error again. -/
theorem finishes_release {s : Service} (hfree : s.stopInitiateLock = false) (locked : Bool)
    (e : Error) :
    (machine w).Finishes succeeding { s with stopInitiateLock := locked }
      [.releaseStopLock, .raise e] [] ⟨s, some e, []⟩ := by
  have hrelease : exec w { s with stopInitiateLock := locked } .releaseStopLock
      (succeeding .releaseStopLock) = some (.next s [] []) := by
    simp only [exec, Option.some.injEq, Effect.next.injEq, and_true]
    rw [← hfree]
  rw [finishes_step hrelease]
  exact (ThreadMachine.finishes_escaped (M := machine w) rfl rfl).2 rfl

theorem failedTeardown_iff {c : LifecycleConfig} :
    FailedTeardown c ↔ 0 < Lifecycle.entered c.shared.log ∧ c.shared.shutdownComplete = false ∧
      total insideWeight c.threads = 0 ∧ c.shared.stopInitiateLock = false :=
  ⟨fun ⟨h₁, h₂, h₃, h₄⟩ => ⟨h₁, h₂, h₃, h₄⟩, fun ⟨h₁, h₂, h₃, h₄⟩ => ⟨h₁, h₂, h₃, h₄⟩⟩

instance (c : LifecycleConfig) : Decidable (FailedTeardown c) :=
  decidable_of_iff _ failedTeardown_iff.symm

/-- {lit}`initiate_stop_from_request` refuses, and leaves the service as it was. -/
theorem initiate_refuses {s : Service} (hprogress : s.shutdownInProgress = true)
    (hincomplete : s.shutdownComplete = false) (hfree : s.stopInitiateLock = false) :
    ∃ e, (e = .notConfigured ∨ e = .stopAlreadyInProgress) ∧
      (machine w).Finishes succeeding s initiateStopFromRequest [] ⟨s, some e, []⟩ := by
  cases hsrm : w.srmBaseUrl with
  | false =>
      refine ⟨.notConfigured, .inl rfl, ?_⟩
      have hrequire : (machine w).exec s .requireBaseUrl (succeeding .requireBaseUrl) =
          some (.raise s .notConfigured) := by
        simp [machine, exec, hsrm]
      rw [initiateStopFromRequest, ThreadMachine.finishes_caught hrequire rfl]
      have hrelease := finishes_release (w := w) hfree s.stopInitiateLock .notConfigured
      exact hrelease
  | true =>
      refine ⟨.stopAlreadyInProgress, .inr rfl, ?_⟩
      have hrequire : exec w s .requireBaseUrl (succeeding .requireBaseUrl) =
          some (.next s [] []) := by
        simp [exec, hsrm]
      have hacquire : exec w s .acquireStopLock (succeeding .acquireStopLock) =
          some (.next { s with stopInitiateLock := true } [] []) := by
        simp [exec, hfree]
      have hstopped : exec w { s with stopInitiateLock := true } .checkStopped
          (succeeding .checkStopped) = some (.next { s with stopInitiateLock := true } [] []) := by
        simp [exec, hincomplete]
      have haccepted : (machine w).exec { s with stopInitiateLock := true } .checkAccepted
          (succeeding .checkAccepted) =
            some (.raise { s with stopInitiateLock := true } .stopAlreadyInProgress) := by
        simp [machine, exec, hprogress]
      rw [initiateStopFromRequest, finishes_step hrequire, List.nil_append, finishes_step hacquire,
        List.nil_append, finishes_step hstopped, List.nil_append,
        ThreadMachine.finishes_caught haccepted rfl]
      exact finishes_release hfree true .stopAlreadyInProgress

/-- The requests that stop a worker. -/
def Request.stops : Request → Bool
  | httpStop | sigterm | stopWorker => true
  | _ => false

variable {c : LifecycleConfig}

/-- HTTP is refused. -/
theorem httpStop_served (hprogress : c.shared.shutdownInProgress = true) (h : FailedTeardown c) :
    Served w c .httpStop c.shared := by
  rcases initiate_refuses (w := w) hprogress h.incomplete h.free with ⟨e, -, hinitiate⟩
  have hfinishes : (machine w).Finishes succeeding c.shared Request.httpStop.code []
      ⟨c.shared, some e, []⟩ := (ThreadMachine.finishes_append hinitiate).2 rfl
  exact .thread hfinishes (.done _)

/-- {lit}`StopWorker` is refused after it has journaled the request. -/
theorem stopWorker_served (hprogress : c.shared.shutdownInProgress = true)
    (h : FailedTeardown c) :
    ∃ t, Served w c .stopWorker t ∧ t.shutdownComplete = false := by
  have hcall : exec w c.shared (.call .recordManagerStopRequest)
      (succeeding (.call .recordManagerStopRequest)) =
        some (.next (runCall w succeeding c.shared .recordManagerStopRequest).1 [] []) := by
    simp only [exec, runCall, execCall]
    split <;> rfl
  have hflags := runCall_flags w succeeding c.shared .recordManagerStopRequest
  have hlock : (runCall w succeeding c.shared .recordManagerStopRequest).1.stopInitiateLock =
      false :=
    (runCall_keeps Service.stopInitiateLock (fun _ _ => rfl) (fun _ => rfl) _).trans h.free
  have hincomplete := hflags.shutdownComplete.trans h.incomplete
  rcases initiate_refuses (w := w) (hflags.shutdownInProgress.trans hprogress) hincomplete hlock
    with ⟨e, -, hinitiate⟩
  have hfinishes : (machine w).Finishes succeeding c.shared Request.stopWorker.code []
      ⟨(runCall w succeeding c.shared .recordManagerStopRequest).1, some e, []⟩ :=
    (finishes_step hcall).2 ((ThreadMachine.finishes_append hinitiate).2 rfl)
  exact ⟨_, .thread hfinishes (.done _), hincomplete⟩

/-- The coordinator's thread completes the teardown. -/
theorem runShutdown_completes {s : Service} (hincomplete : s.shutdownComplete = false) :
    ∃ t, (machine w).Finishes succeeding s runShutdown [] ⟨t, none, []⟩ ∧
      t.shutdownComplete = true ∧ isFinalPhase t.phase = true := by
  have hguard : exec w s (.stopGuard shutdownThreadArgs)
      (succeeding (.stopGuard shutdownThreadArgs)) =
        some (.next (s.note (.stopEntered shutdownThreadArgs))
          (stopBody w shutdownThreadArgs) []) := by
    simp [exec, hincomplete]
  rcases stopBody_completes (w := w) (s.note (.stopEntered shutdownThreadArgs))
    shutdownThreadArgs with ⟨t, hbody, hdone⟩
  refine ⟨t, ?_, hdone⟩
  have hend : exec w t .exceptShutdownThread (succeeding .exceptShutdownThread) =
      some (.next t [] []) := rfl
  rw [runShutdown, finishes_step hguard, ThreadMachine.finishes_append
    ((finishes_straight (isStraight_stopBody w shutdownThreadArgs)).2 rfl), hbody]
  simp only [Verdict.ending]
  rw [finishes_step hend]
  exact ThreadMachine.finishes_nil.2 rfl

/-- SIGTERM tears the worker down again when it is the first one and the coordinator has not
started its thread. -/
theorem sigterm_served (hprogress : c.shared.shutdownInProgress = true) (h : FailedTeardown c) :
    ∃ t, Served w c .sigterm t ∧
      ((t.shutdownComplete = true ∧ isFinalPhase t.phase = true) ↔
        c.shared.handlerInvoked = false ∧ c.shared.shutdownThreadStarted = false) := by
  cases hinvoked : c.shared.handlerInvoked with
  | true =>
      have honce : exec w c.shared .sigtermOnce (succeeding .sigtermOnce) =
          some (.next c.shared [] []) := by
        simp [exec, hinvoked]
      refine ⟨c.shared, .thread ((finishes_step honce).2 (ThreadMachine.finishes_nil.2 rfl))
        (.done _), ?_⟩
      simp [h.incomplete]
  | false =>
      let s : Service := { c.shared with handlerInvoked := true }
      have honce : exec w c.shared .sigtermOnce (succeeding .sigtermOnce) =
          some (.next s requestSigtermShutdown []) := by
        simp [exec, hinvoked, s]
      rcases initiate_refuses (w := w) (s := s) hprogress h.incomplete h.free with
        ⟨e, he, hinitiate⟩
      have hcaught : (machine w).unwind e [.exceptSigterm] = some [.ensureShutdownThread] := by
        rcases he with rfl | rfl <;> rfl
      have hensure : ∀ r, (machine w).Finishes succeeding s [.ensureShutdownThread] [] r →
          (machine w).Finishes succeeding c.shared Request.sigterm.code [] r := by
        intro r hr
        rw [Request.code, finishes_step honce, List.append_nil, requestSigtermShutdown,
          ThreadMachine.finishes_append hinitiate]
        simp only [hcaught]
        exact hr
      cases hthread : c.shared.shutdownThreadStarted with
      | true =>
          have hnothing : exec w s .ensureShutdownThread (succeeding .ensureShutdownThread) =
              some (.next s [] []) := by
            simp [exec, s, hthread]
          refine ⟨s, .thread (hensure _ ((finishes_step hnothing).2
            (ThreadMachine.finishes_nil.2 rfl))) (.done _), ?_⟩
          simp [s, h.incomplete]
      | false =>
          have hspawn : (machine w).exec s .ensureShutdownThread
              (succeeding .ensureShutdownThread) =
                some (.next { s with shutdownThreadStarted := true } [] [runShutdown]) := by
            simp [machine, exec, s, hthread]
          rcases runShutdown_completes (w := w) (s := { s with shutdownThreadStarted := true })
            h.incomplete with ⟨t, hshutdown, hdone⟩
          refine ⟨t, .thread (hensure _ ((ThreadMachine.finishes_next hspawn).2
            (ThreadMachine.finishes_nil.2 rfl))) (.thread hshutdown (.done _)), ?_⟩
          simp [hdone]

/-- After a failed teardown a request completes the teardown exactly when it is a SIGTERM, the
first one, and the coordinator has not started its thread. -/
theorem retried_iff (w : Wiring) (ls : List LifecycleMove) (c : LifecycleConfig) (r : Request)
    (hrun : (workerSystem w).run (workerSystem w).init ls = some c) (hfailed : FailedTeardown c)
    (hr : r.stops = true) :
    (∃ t, Served w c r t ∧ t.shutdownComplete = true ∧ isFinalPhase t.phase = true) ↔
      r = .sigterm ∧ c.shared.handlerInvoked = false ∧
        c.shared.shutdownThreadStarted = false := by
  have hprogress := inProgress_of_entered hrun hfailed.entered hfailed.noneInside
  cases r with
  | httpStop =>
      have hserved := httpStop_served (w := w) hprogress hfailed
      simp only [reduceCtorEq, false_and, iff_false]
      rintro ⟨t, ht, hcomplete, -⟩
      rw [← hserved.unique ht, hfailed.incomplete] at hcomplete
      cases hcomplete
  | stopWorker =>
      rcases stopWorker_served (w := w) hprogress hfailed with ⟨t', hserved, hincomplete⟩
      simp only [reduceCtorEq, false_and, iff_false]
      rintro ⟨t, ht, hcomplete, -⟩
      rw [← hserved.unique ht, hincomplete] at hcomplete
      cases hcomplete
  | sigterm =>
      rcases sigterm_served (w := w) hprogress hfailed with ⟨t', hserved, hiff⟩
      rw [← hiff]
      constructor
      · rintro ⟨t, ht, hdone⟩
        rw [hserved.unique ht]
        exact ⟨rfl, hdone⟩
      · rintro ⟨-, hdone⟩
        exact ⟨t', hserved, hdone⟩
  | _ => cases hr

/-- A worker with a diagnostic flusher. -/
def flushWiring : Wiring :=
  { srmWiring with diagnosticFlusher := true }

/-- The flusher raises during a {lit}`StopWorker` call, and SIGTERM completes the teardown. -/
theorem retried_by_sigterm :
    ∃ c ∈ (workerSystem flushWiring).run (workerSystem flushWiring).init
        (steps 0 44 ++ .request .stopWorker :: steps 1 34 ++ [raises 1]),
      ∃ t, Served flushWiring c .sigterm t ∧ t.shutdownComplete = true ∧
        isFinalPhase t.phase = true := by
  have hrun : ∃ c ∈ (workerSystem flushWiring).run (workerSystem flushWiring).init
      (steps 0 44 ++ .request .stopWorker :: steps 1 34 ++ [raises 1]),
      FailedTeardown c ∧ c.shared.handlerInvoked = false ∧
        c.shared.shutdownThreadStarted = false := by
    decide +kernel
  rcases hrun with ⟨c, hc, hfailed, hfirst⟩
  exact ⟨c, hc, (retried_iff flushWiring _ c .sigterm hc hfailed rfl).2 ⟨rfl, hfirst⟩⟩

/--
The flusher raises during the teardown of an HTTP stop.  SIGTERM, HTTP and {lit}`StopWorker`
come after it and are served to their ends: no teardown is entered again.
-/
theorem failed_teardown_refuses :
    ∃ c ∈ (workerSystem flushWiring).run (workerSystem flushWiring).init
        (steps 0 44 ++ .request .httpStop :: steps 1 9 ++ steps 2 25 ++ raises 2 ::
          .request .sigterm :: steps 3 8 ++ .request .httpStop :: steps 4 6 ++
          .request .stopWorker :: steps 5 7),
      c.shared.shutdownComplete = false ∧ c.shared.phase = .stopping ∧
        entered c.shared.log = 1 ∧ c.threads.drop 1 = [⟨[], none⟩, ⟨[], none⟩, ⟨[], none⟩,
          ⟨[], some .stopAlreadyInProgress⟩, ⟨[], some .stopAlreadyInProgress⟩] := by
  decide +kernel

end Lifecycle
end StrategyWorker
