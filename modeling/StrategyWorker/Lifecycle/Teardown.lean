import StrategyWorker.Lifecycle.StopOnce

/-!
# A teardown on its way to the end

A thread inside {lit}`stop` has the rest of its body before the code of its
caller.  {lit}`EndsWell` follows that body: it sets only {lit}`STOPPING` and the
final phase, reaches the end of its reports and assigns
{lit}`_shutdown_complete` in the final phase, and returns after that.

Main results:

- Theorem {lit}`inTeardown_resume`: an operation of a thread keeps this.
- Theorem {lit}`inTeardown_beside`: so does an operation of another thread that
  leaves the phase alone.
-/

namespace StrategyWorker
namespace Lifecycle

open Domain Library
open ThreadMachine (weigh total)

/-! ## Attempts -/

/-- The run came to a call, whether the collaborator was there or not. -/
def attempted (c : Call) (log : List Event) : Prop :=
  ∃ e ∈ log, e = .called c true ∨ e = .called c false ∨ e = .skipped c

/-- Every teardown that was to send {lit}`runtime.terminated` came to it. -/
def signalAttempted (log : List Event) : Prop :=
  ∀ args, .stopEntered args ∈ log → args.emitTerminationSignal = true →
    attempted .emitTerminated log

theorem attempted_append {c : Call} {log : List Event} (h : attempted c log)
    (log' : List Event) : attempted c (log ++ log') := by
  rcases h with ⟨e, he, hc⟩
  exact ⟨e, List.mem_append_left _ he, hc⟩

/-- Executing a call attempts it. -/
theorem attempted_emits (w : Wiring) (s : Service) (out : Outcome) (c : Call)
    (log : List Event) : attempted c (log ++ emits w s out (.call c)) := by
  simp only [emits]
  split
  · refine ⟨.called c out.delivered, by simp, ?_⟩
    cases out.delivered <;> simp
  · exact ⟨.skipped c, by simp, by simp⟩

/-- Events other than the entry of a teardown leave no signal owing. -/
theorem signalAttempted_append {log log' : List Event} (h : signalAttempted log)
    (hnew : entered log' = 0) : signalAttempted (log ++ log') := by
  intro args hargs hemit
  rcases List.mem_append.1 hargs with hargs | hargs
  · exact attempted_append (h args hargs hemit) log'
  · have := List.countP_eq_zero.1 hnew _ hargs
    simp [Event.isStopEntered] at this

/-! ## Following a body -/

/-- The phases that only {lit}`stop` sets. -/
def isStopPhase (phase : WorkerPhase) : Bool :=
  phase == .stopping || isFinalPhase phase

/-- The operations of a teardown that matter to its end. -/
def tearWeight : Op → Nat
  | .setPhase phase => if isStopPhase phase then 1 else 0
  | .writePhase _ phase => if isStopPhase phase then 1 else 0
  | .assign (.shutdownComplete true) => 1
  | .stopReturn => 1
  | _ => 0

/-- The operations that stand in the body of {lit}`stop`; no handler is among them. -/
def isBodyOp : Op → Bool
  | .assign _ | .recordShutdown _ | .call _ | .setPhase _ | .writePhase _ _ | .stopReturn => true
  | _ => false

/--
Executed from a phase without an error, the code assigns {lit}`_shutdown_complete` in a
final phase with the report and the signal attempted, and returns after that.
-/
def EndsWell : WorkerPhase → Prop → Prop → Prop → List Op → Prop
  | _, _, _, _, [] => True
  | phase, reported, signalled, completed, op :: rest =>
      match op with
      | .setPhase next | .writePhase _ next =>
          isStopPhase next = true ∧ 0 < weigh Milestone.completed.weight rest ∧
            EndsWell next reported signalled completed rest
      | .call .reportFinalShutdown => EndsWell phase True signalled completed rest
      | .call .emitTerminated => EndsWell phase reported True completed rest
      | .assign (.shutdownComplete true) =>
          isFinalPhase phase = true ∧ reported ∧ signalled ∧
            EndsWell phase reported signalled True rest
      | .stopReturn => completed ∧ EndsWell phase reported signalled completed rest
      | _ => EndsWell phase reported signalled completed rest

attribute [local simp] EndsWell tearWeight isBodyOp in
theorem EndsWell.mono {phase : WorkerPhase} {r t d r' t' d' : Prop} {code : List Op}
    (h : EndsWell phase r t d code) (hr : r → r') (ht : t → t') (hd : d → d') :
    EndsWell phase r' t' d' code := by
  induction code generalizing phase r t d r' t' d' with
  | nil => trivial
  | cons op rest ih =>
      unfold EndsWell at h ⊢
      split <;> simp only at h
      · exact ⟨h.1, h.2.1, ih h.2.2 hr ht hd⟩
      · exact ⟨h.1, h.2.1, ih h.2.2 hr ht hd⟩
      · exact ih h id ht hd
      · exact ih h hr id hd
      · exact ⟨h.1, hr h.2.1, ht h.2.2.1, ih h.2.2.2 hr ht id⟩
      · exact ⟨hd h.1, ih h.2 hr ht hd⟩
      · exact ih h hr ht hd

/-- Code that is past its completion fits every phase. -/
theorem EndsWell.of_completed {phase phase' : WorkerPhase} {r t d : Prop} {code : List Op}
    (h : EndsWell phase r t d code) (hfree : weigh Milestone.completed.weight code = 0) :
    EndsWell phase' r t d code := by
  induction code generalizing phase phase' r t d with
  | nil => trivial
  | cons op rest ih =>
      have hrest : weigh Milestone.completed.weight rest = 0 := by simp at hfree; omega
      unfold EndsWell at h ⊢
      split <;> simp only at h
      · omega
      · omega
      · exact ih h hrest
      · exact ih h hrest
      · simp [Milestone.weight] at hfree
      · exact ⟨h.1, ih h.2 hrest⟩
      · exact ih h hrest

theorem endsWell_closes (w : Wiring) {phase : WorkerPhase} {r t d : Prop} {rest : List Op}
    (h : EndsWell phase r t d rest) : EndsWell phase r t d (closeDownstreamClients w ++ rest) := by
  unfold closeDownstreamClients
  induction List.range w.closeables.length with
  | nil => exact h
  | cons i is ih => simpa [EndsWell] using ih

/-- The body of {lit}`stop` ends well, when no signal is owing that it will not send. -/
theorem endsWell_stopBody (w : Wiring) (args : StopArgs) {phase : WorkerPhase} {r t d : Prop}
    (ht : args.emitTerminationSignal = false → t) :
    EndsWell phase r t d (stopBody w args) := by
  have hfinal : isFinalPhase (finalPhase w args) = true := by
    unfold finalPhase
    split <;> rfl
  have hstop : isStopPhase (finalPhase w args) = true := by simp [isStopPhase, hfinal]
  have hreport : EndsWell .stopping r t d (stopReport w args) := by
    unfold stopReport
    split
    · simp [EndsWell, hfinal, hstop, Milestone.weight]
    · rename_i hemit
      simp [EndsWell, hfinal, hstop, Milestone.weight, ht (by simpa using hemit)]
  have hweight : 0 < weigh Milestone.completed.weight (stopReport w args) := by
    unfold stopReport
    split <;> simp [Milestone.weight]
  have hcloses := endsWell_closes w hreport
  have hstopping : isStopPhase .stopping = true := rfl
  simp [stopBody, stopWork, EndsWell, hcloses, hstopping, Milestone.weight]
  omega

theorem isBodyOp_stopBody {w : Wiring} {args : StopArgs} {op : Op} (h : op ∈ stopBody w args) :
    isBodyOp op = true := by
  simp only [stopBody, List.mem_append] at h
  rcases h with (h | h) | h
  · revert h op
    simp [stopWork, isBodyOp]
  · rcases List.mem_map.1 h with ⟨i, -, rfl⟩
    rfl
  · unfold stopReport at h
    split at h <;> (revert h op; simp [isBodyOp])

/-- A weight of teardown operations that code gains by entering one. -/
theorem codeWeight_tear (w : Wiring) : CodeWeight w tearWeight 4 where
  control op h := by
    cases op with
    | call c => rfl
    | assign a => cases a <;> first | rfl | cases h
    | _ => first | rfl | cases h
  raise e := rfl
  close i := rfl
  start := by simp [startBody, tearWeight, isStopPhase, isFinalPhase]
  ready := by simp [runReadyBody, tearWeight, isStopPhase, isFinalPhase]
  set previous phase := by
    unfold setPhaseBody
    split <;> simp [tearWeight]
  failed e := by
    rw [weigh_startFailed w e fun _ => rfl]
    split <;> simp [tearWeight, isStopPhase, isFinalPhase]
  stop args := by
    have hfinal : isStopPhase (finalPhase w args) = true := by
      unfold finalPhase
      split <;> rfl
    have hstopping : isStopPhase .stopping = true := rfl
    rw [weigh_stopBody w args fun _ => rfl]
    unfold stopReport
    split <;> simp [stopWork, tearWeight, hfinal, hstopping]

/-! ## A thread inside a teardown -/

/-- What a log has settled for the end of a teardown. -/
def EndsWellFrom (s : Service) (body : List Op) : Prop :=
  EndsWell s.phase (attempted .reportFinalShutdown s.log) (signalAttempted s.log)
    (0 < reached .completed s.log) body

/-- The thread has the rest of a teardown to do, possibly none, before code without any. -/
def InTeardown (s : Service) (code : List Op) : Prop :=
  ∃ body rest, code = body ++ rest ∧ (∀ op ∈ body, isBodyOp op = true) ∧
    EndsWellFrom s body ∧ weigh tearWeight rest = 0

theorem inTeardown_of_free {s : Service} {code : List Op} (h : weigh tearWeight code = 0) :
    InTeardown s code :=
  ⟨[], code, rfl, by simp, trivial, h⟩

/-- Nothing in a body handles an error, so one ends the teardown of its thread. -/
theorem unwind_body {w : Wiring} {e : Error} {body rest : List Op}
    (hbody : ∀ op ∈ body, isBodyOp op = true) :
    (machine w).unwind e (body ++ rest) = (machine w).unwind e rest := by
  induction body with
  | nil => rfl
  | cons op body ih =>
      have hop := hbody op List.mem_cons_self
      have hnone : (machine w).handler op e = none := by
        cases op <;> first | rfl | cases hop
      rw [List.cons_append, ThreadMachine.unwind, hnone]
      exact ih fun o ho => hbody o (List.mem_cons_of_mem _ ho)

/-- An error leaves its thread outside of any teardown. -/
theorem inTeardown_raise {w : Wiring} {s : Service} {e : Error} {body rest : List Op}
    (hbody : ∀ op ∈ body, isBodyOp op = true) (hrest : weigh tearWeight rest = 0) (t : Service) :
    InTeardown s ((machine w).resume (body ++ rest) (.raise t e)).code := by
  apply inTeardown_of_free
  have hle := ThreadMachine.weigh_resume_raise_le (M := machine w) (w := tearWeight) (e := e)
    (fun _ _ => (codeWeight_tear w).handler) rest t
  simp only [ThreadMachine.resume, unwind_body hbody] at hle ⊢
  omega

/-- Ending well outlasts the operations that enter no teardown. -/
theorem endsWellFrom_of_emits {w : Wiring} {s t : Service} {op : Op} {out : Outcome}
    {code : List Op} (hlog : t.log = s.log ++ emits w s out op)
    (hnew : entered (emits w s out op) = 0) {r g d : Prop}
    (hr : r → attempted .reportFinalShutdown t.log) (hg : g → signalAttempted t.log)
    (hd : d → 0 < reached .completed t.log)
    (hcode : EndsWell t.phase (attempted .reportFinalShutdown s.log ∨ r)
      (signalAttempted s.log ∨ g) (0 < reached .completed s.log ∨ d) code) :
    EndsWellFrom t code := by
  refine hcode.mono ?_ ?_ ?_
  · rintro (h | h)
    · rw [hlog]
      exact attempted_append h _
    · exact hr h
  · rintro (h | h)
    · rw [hlog]
      exact signalAttempted_append h hnew
    · exact hg h
  · rintro (h | h)
    · rw [hlog, reached_append]
      omega
    · exact hd h

/-- What an operation of a body pushes belongs to the body, and ends well with it. -/
theorem endsWell_exec {w : Wiring} {s : Service} {op : Op} {out : Outcome} {body : List Op}
    {t : Service} {push : List Op} {codes : List (List Op)}
    (h : exec w s op out = some (.next t push codes)) (hop : isBodyOp op = true)
    (hends : EndsWellFrom s (op :: body)) :
    (∀ o ∈ push, isBodyOp o = true) ∧ EndsWellFrom t (push ++ body) := by
  have hlog : t.log = s.log ++ emits w s out op := exec_log h
  have hnew : entered (emits w s out op) = 0 := by
    apply entered_emits
    rintro args rfl
    cases hop
  -- the rest of the body as it stood before the operation
  have hkeep : ∀ code, EndsWell t.phase (attempted .reportFinalShutdown s.log)
      (signalAttempted s.log) (0 < reached .completed s.log) code → EndsWellFrom t code := by
    intro code hcode
    exact endsWellFrom_of_emits hlog hnew False.elim False.elim False.elim
      (hcode.mono .inl .inl .inl)
  unfold EndsWellFrom at hends
  cases op with
  | setPhase next =>
      cases h
      simp only [EndsWell] at hends
      simp only [setPhaseBody]
      constructor
      · split <;> simp [isBodyOp]
      · apply hkeep
        split <;> simp [EndsWell, Milestone.weight, hends]
  | writePhase previous next =>
      cases h
      simp only [EndsWell] at hends
      exact ⟨by simp, hkeep _ hends.2.2⟩
  | recordShutdown step =>
      cases h
      exact ⟨by simp [isBodyOp], hkeep _ hends⟩
  | stopReturn =>
      cases h
      simp only [EndsWell] at hends
      exact ⟨by simp, hkeep _ hends.2⟩
  | assign a =>
      cases h
      refine ⟨by simp, ?_⟩
      rcases a with v | v | _ | _
      · exact hkeep _ hends
      · cases v
        · exact hkeep _ hends
        · simp only [EndsWell] at hends
          refine endsWellFrom_of_emits (d := True) hlog hnew False.elim False.elim ?_
            (hends.2.2.2.mono .inl .inl .inr)
          intro _
          rw [hlog, reached_append]
          exact Nat.lt_add_left _ Nat.one_pos
      · exact hkeep _ hends
      · exact hkeep _ hends
  | call c =>
      have hcall : execCall w s c out = .next t push codes := Option.some.inj h
      have hpush : push = [] := by
        have := execCall_pushed w s c out
        rw [hcall] at this
        exact this
      have hphase : t.phase = s.phase := by
        have := (sameFlags_execCall w s c out).phase
        rw [hcall] at this
        exact this
      have hattempted : attempted c t.log := by
        rw [hlog]
        exact attempted_emits w s out c s.log
      subst hpush
      refine ⟨by simp, ?_⟩
      rw [← hphase] at hends
      by_cases hreport : c = .reportFinalShutdown
      · subst hreport
        simp only [EndsWell] at hends
        exact endsWellFrom_of_emits (r := True) hlog hnew (fun _ => hattempted) False.elim
          False.elim (hends.mono .inr .inl .inl)
      by_cases hsignal : c = .emitTerminated
      · subst hsignal
        simp only [EndsWell] at hends
        exact endsWellFrom_of_emits (g := True) hlog hnew False.elim
          (fun _ _ _ _ => hattempted) False.elim (hends.mono .inl .inr .inl)
      · apply hkeep
        cases c <;> first | exact hends | contradiction
  | _ => cases hop

/-- An operation keeps its thread on the way to the end of its teardown. -/
theorem inTeardown_resume {w : Wiring} {s : Service} {op : Op} {rest : List Op} {out : Outcome}
    {eff : LifecycleEffect} (h : exec w s op out = some eff) (hin : InTeardown s (op :: rest))
    (hfirst : ∀ args, op = .stopGuard args → s.shutdownComplete = false →
      entered s.log = 0 ∧ weigh tearWeight rest = 0) :
    InTeardown eff.shared ((machine w).resume rest eff).code := by
  rcases hin with ⟨body, after, hcode, hbody, hends, hafter⟩
  cases body with
  | cons o body =>
      cases hcode
      have hop := hbody _ List.mem_cons_self
      have htail := fun o ho => hbody o (List.mem_cons_of_mem _ ho)
      cases eff with
      | raise t e => exact inTeardown_raise htail hafter t
      | next t push codes =>
          rcases endsWell_exec h hop hends with ⟨hpush, hends⟩
          refine ⟨push ++ body, after, by simp [ThreadMachine.resume], ?_, hends, hafter⟩
          intro o ho
          rcases List.mem_append.1 ho with ho | ho
          · exact hpush o ho
          · exact htail o ho
  | nil =>
      simp only [List.nil_append] at hcode
      subst hcode
      by_cases henter : ∃ args, op = .stopGuard args ∧ s.shutdownComplete = false
      · rcases henter with ⟨args, rfl, hs⟩
        rcases hfirst args rfl hs with ⟨hnone, hrest⟩
        simp only [exec, hs, Bool.false_eq_true, if_false, Option.some.injEq] at h
        subst h
        refine ⟨stopBody w args, rest, rfl, fun o ho => isBodyOp_stopBody ho, ?_, hrest⟩
        apply endsWell_stopBody
        -- the only teardown that was entered is this one
        intro hemit args' hargs hemit'
        rcases List.mem_append.1 hargs with hold | hnew
        · have := List.countP_eq_zero.1 hnone _ hold
          simp [Event.isStopEntered] at this
        · cases List.mem_singleton.1 hnew
          rw [hemit] at hemit'
          cases hemit'
      · apply inTeardown_of_free
        refine (codeWeight_tear w).resume_eq_zero h hafter (.inl fun args heq => ?_)
        by_contra hs
        exact henter ⟨args, heq, by simpa using hs⟩

/-- The operations beside a thread keep it on its way as long as they leave the phase alone
while it has the teardown to complete. -/
theorem inTeardown_beside {w : Wiring} {s : Service} {op : Op} {out : Outcome}
    {eff : LifecycleEffect} (h : exec w s op out = some eff) {code : List Op}
    (hin : InTeardown s code)
    (hphase : eff.shared.phase = s.phase ∨ weigh Milestone.completed.weight code = 0)
    (hnew : entered (emits w s out op) = 0 ∨ weigh tearWeight code = 0) :
    InTeardown eff.shared code := by
  by_cases hfree : weigh tearWeight code = 0
  · exact inTeardown_of_free hfree
  rcases hin with ⟨body, after, rfl, hbody, hends, hafter⟩
  have hnew := hnew.resolve_right hfree
  refine ⟨body, after, rfl, hbody, ?_, hafter⟩
  have hbodyEnds : EndsWell eff.shared.phase (attempted .reportFinalShutdown s.log)
      (signalAttempted s.log) (0 < reached .completed s.log) body := by
    rcases hphase with hphase | hzero
    · rw [hphase]
      exact hends
    · rw [ThreadMachine.weigh_append] at hzero
      exact EndsWell.of_completed hends (by omega)
  exact endsWellFrom_of_emits (exec_log h) hnew False.elim False.elim False.elim
    (hbodyEnds.mono .inl .inl .inl)

end Lifecycle
end StrategyWorker
