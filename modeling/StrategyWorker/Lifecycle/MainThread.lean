import StrategyWorker.Lifecycle.Teardown

/-!
# The main thread

{lit}`WorkerApp.run` on the main thread: {lit}`LifecycleService.run`, the two
loops, and a teardown of its own after a completed backtest job or an
interrupt.  {lit}`MainCode` says which code it has at any time, and when it is
at its end.

Main results:

- Theorem {lit}`setsPhase_resume`: up to the first phase that it sets, the main
  thread cannot leave {lit}`start`.
- Theorem {lit}`mainCode_resume`: an operation leads the main thread on within
  its code, and to the end only by leaving the loop or returning from a
  teardown.
-/

namespace StrategyWorker
namespace Lifecycle

open Domain Library
open ThreadMachine (weigh total)

/-! ## Weights -/

/-- The operations of {lit}`start` and {lit}`run` that set phases and flags. -/
def bringUpWeight : Op → Nat
  | .startGuard => 5
  | .runReady => 1
  | .exceptStart => 2
  | .setPhase phase => if isStopPhase phase then 0 else 1
  | .writePhase _ phase => if isStopPhase phase then 0 else 1
  | .assign (.started true) => 1
  | .assign (.shutdownComplete false) => 1
  | _ => 0

/-- The end of {lit}`stop`. -/
def insideWeight : Op → Nat
  | .stopReturn => 1
  | _ => 0

/-- The phases that nothing sets. -/
def unsetWeight : Op → Nat
  | .setPhase phase => if phase = .initializing ∨ phase = .degraded then 1 else 0
  | .writePhase _ phase => if phase = .initializing ∨ phase = .degraded then 1 else 0
  | _ => 0

theorem isStopPhase_finalPhase (w : Wiring) (args : StopArgs) :
    isStopPhase (finalPhase w args) = true := by
  unfold finalPhase
  split <;> rfl

theorem codeWeight_bringUp (w : Wiring) : CodeWeight w bringUpWeight 0 where
  control op h := by
    cases op with
    | call c => rfl
    | assign a =>
        rcases a with v | v | _ | _ <;> first | rfl | cases h
    | _ => first | rfl | cases h
  raise e := rfl
  close i := rfl
  start := by simp [startBody, bringUpWeight, isStopPhase, isFinalPhase]
  ready := by simp [runReadyBody, bringUpWeight, isStopPhase, isFinalPhase]
  set previous phase := by
    unfold setPhaseBody
    split <;> simp [bringUpWeight]
  failed e := by
    rw [weigh_startFailed w e fun _ => rfl]
    split <;> simp [bringUpWeight, isStopPhase, isFinalPhase]
  stop args := by
    have hfinal := isStopPhase_finalPhase w args
    have hstopping : isStopPhase .stopping = true := rfl
    rw [weigh_stopBody w args fun _ => rfl]
    unfold stopReport
    split <;> simp [stopWork, bringUpWeight, hfinal, hstopping]

theorem codeWeight_inside (w : Wiring) : CodeWeight w insideWeight 1 where
  control op h := by cases op <;> first | rfl | cases h
  raise e := rfl
  close i := rfl
  start := by simp [startBody, insideWeight]
  ready := by simp [runReadyBody, insideWeight]
  set previous phase := by
    unfold setPhaseBody
    split <;> simp [insideWeight]
  failed e := by
    rw [weigh_startFailed w e fun _ => rfl]
    split <;> simp [insideWeight]
  stop args := by
    rw [weigh_stopBody w args fun _ => rfl]
    unfold stopReport
    split <;> simp [stopWork, insideWeight]

theorem codeWeight_unset (w : Wiring) : CodeWeight w unsetWeight 0 where
  control op h := by cases op <;> first | rfl | cases h
  raise e := rfl
  close i := rfl
  start := by simp [startBody, unsetWeight]
  ready := by simp [runReadyBody, unsetWeight]
  set previous phase := by
    unfold setPhaseBody
    split <;> simp [unsetWeight]
  failed e := by
    rw [weigh_startFailed w e fun _ => rfl]
    split <;> simp [unsetWeight]
  stop args := by
    have hfinal : ¬ (finalPhase w args = .initializing ∨ finalPhase w args = .degraded) := by
      unfold finalPhase
      split <;> simp
    rw [weigh_stopBody w args fun _ => rfl]
    unfold stopReport
    split <;> simp [stopWork, unsetWeight, hfinal]

/-- A bring-up that is over resets nothing. -/
theorem resetWeight_le_bringUp (op : Op) : resetWeight op ≤ bringUpWeight op := by
  unfold resetWeight
  split <;> simp [bringUpWeight]

/-! ## The main thread -/

/-- The read that ends the loop of {lit}`WorkerApp.run`, or a {lit}`stop` of its own that
finds the teardown complete. -/
def LeavesLoop (s : Service) : Op → Prop
  | .loopPhase false => ¬ (s.phase = .ready ∨ s.phase = .running ∨ s.phase = .failed)
  | .stopGuard _ => s.shutdownComplete = true
  | .interrupted => s.phase = .stopped ∨ s.phase = .completed
  | _ => False

instance (s : Service) : (op : Op) → Decidable (LeavesLoop s op)
  | .loopPhase false => inferInstanceAs (Decidable (¬ _))
  | .stopGuard _ => inferInstanceAs (Decidable (_ = true))
  | .interrupted => inferInstanceAs (Decidable (_ ∨ _))
  | .loopPhase true | .startGuard | .stopReturn | .runReady | .setPhase _ | .writePhase _ _
  | .recordStartup _ | .recordShutdown _ | .call _ | .assign _ | .raise _ | .requireBaseUrl
  | .acquireStopLock | .checkStopped | .checkAccepted | .releaseStopLock | .sigtermOnce
  | .ensureShutdownThread | .loopFirstData | .shouldStop _ _ | .sleep _ | .exceptStart
  | .exceptRun | .exceptInterrupt | .exceptSigterm | .exceptShutdownThread | .ingest _ =>
      inferInstanceAs (Decidable False)

/-- The operations of {lit}`start` and {lit}`run`. -/
def isBringUpOp : Op → Bool
  | .startGuard | .runReady | .recordStartup _ | .call _ | .setPhase _ | .writePhase _ _
  | .assign _ | .exceptStart | .raise _ => true
  | _ => false

/-- The operations of the loops, one at a time. -/
def isLoopOp : Op → Bool
  | .loopPhase _ | .loopFirstData | .shouldStop _ _ | .sleep _ | .interrupted | .stopGuard _ =>
      true
  | _ => false

/-- What stands behind the loop: the block for {lit}`KeyboardInterrupt`, until it is used. -/
def LoopEnd (tail : List Op) : Prop :=
  tail = [.exceptInterrupt] ∨ tail = []

/--
The code of the main thread: {lit}`LifecycleService.run` before the loop, one operation of
the loop, or a teardown of its own; it comes to the end only when {lit}`done` holds.
-/
def MainCode (done : Prop) (code : List Op) : Prop :=
  (∃ body tail, code = body ++ .exceptRun :: tail ∧ LoopEnd tail ∧
      ∀ op ∈ body, isBringUpOp op = true) ∨
    (∃ op tail, code = op :: tail ∧ LoopEnd tail ∧ isLoopOp op = true) ∨
    ∃ body tail, code = body ++ tail ∧ LoopEnd tail ∧ (∀ op ∈ body, isBodyOp op = true) ∧
      (body = [] → done) ∧ (body = [] ∨ body.getLast? = some .stopReturn)

theorem MainCode.mono {d d' : Prop} {code : List Op} (h : MainCode d code) (hd : d → d') :
    MainCode d' code := by
  rcases h with h | h | ⟨body, tail, hcode, htail, hbody, hdone, hlast⟩
  · exact .inl h
  · exact .inr (.inl h)
  · exact .inr (.inr ⟨body, tail, hcode, htail, hbody, fun h => hd (hdone h), hlast⟩)

/-- The end of the main thread. -/
theorem MainCode.returned {d : Prop} (h : MainCode d []) : d := by
  rcases h with ⟨body, tail, hcode, -⟩ | ⟨op, tail, hcode, -⟩ | ⟨body, tail, hcode, -, -, hd, -⟩
  · simp at hcode
  · cases hcode
  · rcases List.append_eq_nil_iff.1 hcode.symm with ⟨hbody, -⟩
    exact hd hbody

/-! ## Before a phase is set -/

/-- An error comes to the {lit}`except` block of {lit}`start`. -/
def FailsInStart : List Op → Prop
  | [] => False
  | .exceptStart :: _ => True
  | op :: rest => isBringUpOp op = true ∧ FailsInStart rest

/-- The code sets a phase before anything else can come of it. -/
def SetsPhase : List Op → Prop
  | .startGuard :: _ | .setPhase _ :: _ | .writePhase _ _ :: _ => True
  | .recordStartup _ :: rest => SetsPhase rest ∧ FailsInStart rest
  | .call _ :: rest => SetsPhase rest ∧ FailsInStart rest
  | _ => False

theorem setsPhase_startBody (rest : List Op) : SetsPhase (startBody ++ .exceptStart :: rest) := by
  simp [startBody, SetsPhase, FailsInStart, isBringUpOp]

/-- An exception unwinds to the rollback, which sets {lit}`FAILED` first. -/
theorem setsPhase_unwind {w : Wiring} {e : Error} (he : e.isException = true) {rest : List Op}
    (h : FailsInStart rest) : ∃ code, (machine w).unwind e rest = some code ∧ SetsPhase code := by
  induction rest with
  | nil => cases h
  | cons op rest ih =>
      by_cases hop : op = .exceptStart
      · subst hop
        refine ⟨startFailed w e ++ rest, ?_, trivial⟩
        simp [ThreadMachine.unwind, machine, handler, he]
      · have hrest : isBringUpOp op = true ∧ FailsInStart rest := by
          unfold FailsInStart at h
          split at h <;> simp_all
        have hnone : (machine w).handler op e = none := by
          have := hrest.1
          cases op <;> first | rfl | contradiction
        rw [ThreadMachine.unwind, hnone]
        exact ih hrest.2

/-- Code that has still to set a phase does so after any operation that sets none. -/
theorem setsPhase_resume {w : Wiring} {s : Service} {op : Op} {rest : List Op} {out : Outcome}
    {eff : LifecycleEffect} (h : exec w s op out = some eff) (hsets : SetsPhase (op :: rest))
    (hstarted : s.started = false) (hwrite : ∀ p q, op ≠ .writePhase p q) :
    SetsPhase ((machine w).resume rest eff).code ∧ eff.shared.started = false := by
  cases op with
  | startGuard =>
      simp only [exec, hstarted, Bool.false_eq_true, if_false, Option.some.injEq] at h
      subst h
      refine ⟨?_, hstarted⟩
      simpa [ThreadMachine.resume] using setsPhase_startBody rest
  | setPhase phase =>
      cases h
      exact ⟨trivial, hstarted⟩
  | writePhase p q => exact absurd rfl (hwrite p q)
  | recordStartup step =>
      cases h
      exact ⟨hsets, hstarted⟩
  | call c =>
      obtain rfl := Option.some.inj h
      have hsame := sameFlags_execCall w s c out
      refine ⟨?_, by rw [hsame.started, hstarted]⟩
      rcases execCall_cases w s c out with
        ⟨-, he⟩ | ⟨-, ⟨-, he⟩ | ⟨kind, -, ⟨-, he⟩ | ⟨-, he⟩⟩⟩ <;> rw [he]
      · exact hsets.1
      · exact hsets.1
      · exact hsets.1
      · have hexception : Error.isException (.raisedBy c kind) = true := rfl
        rcases setsPhase_unwind (w := w) hexception hsets.2 with ⟨code, hcode, hcodeSets⟩
        simp only [ThreadMachine.resume, hcode]
        exact hcodeSets
  | _ => cases hsets

/-! ## The steps of the main thread -/

theorem unwind_loopEnd {w : Wiring} {e : Error} {tail code : List Op} (htail : LoopEnd tail)
    (h : (machine w).unwind e tail = some code) (d : Prop) : MainCode d code := by
  rcases htail with rfl | rfl
  · simp only [ThreadMachine.unwind, machine] at h
    cases e <;> simp [handler] at h
    subst h
    exact .inr (.inl ⟨.interrupted, [], rfl, .inr rfl, rfl⟩)
  · cases h

theorem isBringUpOp_startFailed {w : Wiring} {e : Error} {op : Op} (h : op ∈ startFailed w e) :
    isBringUpOp op = true := by
  simp only [startFailed, rollbackPartialStartup, List.mem_cons, List.mem_append] at h
  rcases h with rfl | ((((rfl | rfl | h) | h) | rfl | rfl | rfl | rfl | h) | rfl | h)
  all_goals first | rfl | (exact absurd h List.not_mem_nil) | skip
  · rcases List.mem_map.1 h with ⟨i, -, rfl⟩
    rfl
  · split <;> rfl

/-- An error of {lit}`start` or {lit}`run` leads into the rollback or into the second loop. -/
theorem unwind_bringUp {w : Wiring} {e : Error} {body tail code : List Op}
    (hbody : ∀ op ∈ body, isBringUpOp op = true) (htail : LoopEnd tail)
    (h : (machine w).unwind e (body ++ .exceptRun :: tail) = some code) (d : Prop) :
    MainCode d code := by
  induction body with
  | nil =>
      simp only [List.nil_append, ThreadMachine.unwind] at h
      cases hrun : (machine w).handler .exceptRun e with
      | some handled =>
          simp only [hrun, Option.some.injEq] at h
          have hloop : handled = [.loopPhase false] := by
            have hrun : handler w .exceptRun e = some handled := hrun
            simp only [handler] at hrun
            split at hrun <;> cases hrun
            rfl
          subst hloop
          exact .inr (.inl ⟨.loopPhase false, tail, h.symm, htail, rfl⟩)
      | none =>
          simp only [hrun] at h
          exact unwind_loopEnd htail h d
  | cons op body ih =>
      have hop := hbody op List.mem_cons_self
      have hrest := fun o ho => hbody o (List.mem_cons_of_mem _ ho)
      simp only [List.cons_append, ThreadMachine.unwind] at h
      cases hhandler : (machine w).handler op e with
      | none =>
          simp only [hhandler] at h
          exact ih hrest h
      | some handled =>
          simp only [hhandler, Option.some.injEq] at h
          have hfailed : handled = startFailed w e := by
            have hhandler : handler w op e = some handled := hhandler
            rcases handler_cases hhandler with ⟨rfl, rfl⟩ | ⟨rfl, -⟩ | ⟨rfl, -⟩ | ⟨rfl, -⟩ |
              ⟨rfl, -⟩ | ⟨rfl, -⟩ <;> first | rfl | cases hop
          subst hfailed
          refine .inl ⟨startFailed w e ++ body, tail, by rw [← h, List.append_assoc], htail, ?_⟩
          intro o ho
          rcases List.mem_append.1 ho with ho | ho
          · exact isBringUpOp_startFailed ho
          · exact hrest o ho

/-- What {lit}`start` and {lit}`run` push stays within them. -/
theorem isBringUpOp_pushed {w : Wiring} {s t : Service} {op : Op} {out : Outcome}
    {push : List Op} {codes : List (List Op)} (h : exec w s op out = some (.next t push codes))
    (hop : isBringUpOp op = true) : ∀ o ∈ push, isBringUpOp o = true := by
  cases op with
  | startGuard =>
      simp only [exec] at h
      split at h <;> cases h <;> simp [startBody, isBringUpOp]
  | runReady =>
      simp only [exec] at h
      split at h <;> cases h <;> simp [runReadyBody, isBringUpOp]
  | setPhase phase =>
      cases h
      unfold setPhaseBody
      split <;> simp [isBringUpOp]
  | call c =>
      have hcall : execCall w s c out = .next t push codes := Option.some.inj h
      have hpush := execCall_pushed w s c out
      rw [hcall] at hpush
      simp only [Effect.pushed] at hpush
      simp [hpush]
  | recordStartup _ | writePhase _ _ | assign _ | exceptStart =>
      cases h
      simp [isBringUpOp]
  | raise e => cases h
  | _ => cases hop

theorem isBodyOp_pushed {w : Wiring} {s t : Service} {op : Op} {out : Outcome}
    {push : List Op} {codes : List (List Op)} (h : exec w s op out = some (.next t push codes))
    (hop : isBodyOp op = true) : ∀ o ∈ push, isBodyOp o = true := by
  cases op with
  | setPhase phase =>
      cases h
      unfold setPhaseBody
      split <;> simp [isBodyOp]
  | call c =>
      have hcall : execCall w s c out = .next t push codes := Option.some.inj h
      have hpush := execCall_pushed w s c out
      rw [hcall] at hpush
      simp only [Effect.pushed] at hpush
      simp [hpush]
  | recordShutdown _ | writePhase _ _ | assign _ | stopReturn =>
      cases h
      simp [isBodyOp]
  | _ => cases hop

theorem getLast?_stopBody (w : Wiring) (args : StopArgs) :
    (stopBody w args).getLast? = some .stopReturn := by
  unfold stopBody stopReport
  split <;> simp

/-- An operation of the loops leads to another one, into a teardown, or out of the loop. -/
theorem mainCode_loop {w : Wiring} {s : Service} {op : Op} {tail : List Op} {out : Outcome}
    {eff : LifecycleEffect} {d : Prop} (h : exec w s op out = some eff) (htail : LoopEnd tail)
    (hop : isLoopOp op = true) (hleaves : LeavesLoop s op → d)
    (hfailure : ((machine w).resume tail eff).failure = none) :
    MainCode d ((machine w).resume tail eff).code := by
  have hloop : ∀ o, isLoopOp o = true → MainCode d ([o] ++ tail) :=
    fun o ho => .inr (.inl ⟨o, tail, rfl, htail, ho⟩)
  have hend : d → MainCode d ([] ++ tail) :=
    fun hd => .inr (.inr ⟨[], tail, rfl, htail, by simp, fun _ => hd, .inl rfl⟩)
  cases op with
  | loopPhase first =>
      cases first <;> simp only [exec] at h <;> split at h <;> cases h
      · exact hloop _ rfl
      · rename_i hphase
        exact hend (hleaves hphase)
      · exact hloop _ rfl
      · exact hloop _ rfl
  | loopFirstData =>
      simp only [exec] at h
      split at h <;> cases h <;> exact hloop _ rfl
  | shouldStop first read =>
      simp only [exec] at h
      split at h <;> cases h <;> exact hloop _ rfl
  | sleep first =>
      simp only [exec] at h
      split at h <;> cases h
      · exact hloop _ rfl
      · simp only [ThreadMachine.resume] at hfailure ⊢
        cases hcode : (machine w).unwind .keyboardInterrupt tail with
        | some code => exact unwind_loopEnd htail hcode d
        | none => simp [hcode] at hfailure
  | interrupted =>
      simp only [exec] at h
      split at h <;> cases h
      · rename_i hphase
        exact hend (hleaves hphase)
      · exact hloop _ rfl
  | stopGuard args =>
      simp only [exec] at h
      split at h <;> cases h
      · rename_i hcomplete
        exact hend (hleaves hcomplete)
      · refine .inr (.inr ⟨stopBody w args, tail, rfl, htail, fun o => isBodyOp_stopBody, ?_, ?_⟩)
        · intro hnil
          simp [stopBody, stopWork] at hnil
        · exact .inr (getLast?_stopBody w args)
  | _ => cases hop

/--
An operation of the main thread leads on within its code, and to the end of it only by
leaving the loop or returning from a teardown.
-/
theorem mainCode_resume {w : Wiring} {s : Service} {op : Op} {rest : List Op} {out : Outcome}
    {eff : LifecycleEffect} {d d' : Prop} (h : exec w s op out = some eff)
    (hmain : MainCode d (op :: rest)) (hd : d → d')
    (hdone : (LeavesLoop s op ∨ op = .stopReturn) → d')
    (hfailure : ((machine w).resume rest eff).failure = none) :
    MainCode d' ((machine w).resume rest eff).code := by
  have hraise : ∀ t e, eff = .raise t e →
      ∃ code, (machine w).unwind e rest = some code ∧ ((machine w).resume rest eff).code = code := by
    rintro t e rfl
    simp only [ThreadMachine.resume] at hfailure ⊢
    cases hcode : (machine w).unwind e rest with
    | some code => exact ⟨code, rfl, rfl⟩
    | none => simp [hcode] at hfailure
  rcases hmain with ⟨body, tail, hcode, htail, hbody⟩ | ⟨o, tail, hcode, htail, ho⟩ |
    ⟨body, tail, hcode, htail, hbody, hend, hlast⟩
  · cases body with
    | nil =>
        cases hcode
        cases h
        exact .inr (.inl ⟨.loopPhase true, rest, rfl, htail, rfl⟩)
    | cons o body =>
        cases hcode
        have hop := hbody _ List.mem_cons_self
        have hrest := fun o ho => hbody o (List.mem_cons_of_mem _ ho)
        cases eff with
        | raise t e =>
            rcases hraise t e rfl with ⟨code, hunwind, heq⟩
            rw [heq]
            exact unwind_bringUp hrest htail hunwind d'
        | next t push codes =>
            refine .inl ⟨push ++ body, tail, by simp [ThreadMachine.resume], htail, ?_⟩
            intro o ho
            rcases List.mem_append.1 ho with ho | ho
            · exact isBringUpOp_pushed h hop o ho
            · exact hrest o ho
  · cases hcode
    exact mainCode_loop h htail ho (fun hl => hdone (.inl hl)) hfailure
  · cases body with
    | nil =>
        rcases htail with rfl | rfl
        · cases hcode
          cases h
          exact .inr (.inr ⟨[], [], rfl, .inr rfl, by simp, fun _ => hd (hend rfl), .inl rfl⟩)
        · cases hcode
    | cons o body =>
        cases hcode
        have hop := hbody _ List.mem_cons_self
        have hrest := fun o ho => hbody o (List.mem_cons_of_mem _ ho)
        cases eff with
        | raise t e =>
            rcases hraise t e rfl with ⟨code, hunwind, heq⟩
            have hunwind : (machine w).unwind e (body ++ tail) = some code := hunwind
            rw [unwind_body hrest] at hunwind
            have heq : ((machine w).resume (body ++ tail) (.raise t e)).code = code := heq
            rw [List.append_eq, heq]
            exact unwind_loopEnd htail hunwind d'
        | next t push codes =>
            have hlast : (op :: body).getLast? = some .stopReturn := hlast.resolve_left (by simp)
            refine .inr (.inr ⟨push ++ body, tail, by simp [ThreadMachine.resume], htail, ?_, ?_, ?_⟩)
            · intro o ho
              rcases List.mem_append.1 ho with ho | ho
              · exact isBodyOp_pushed h hop o ho
              · exact hrest o ho
            · intro hnil
              rcases List.append_eq_nil_iff.1 hnil with ⟨-, rfl⟩
              exact hdone (.inr (by simpa using hlast))
            · cases body with
              | nil =>
                  obtain rfl : op = .stopReturn := by simpa using hlast
                  cases h
                  exact .inl rfl
              | cons b body =>
                  right
                  rw [List.getLast?_append]
                  simp only [List.getLast?_cons_cons] at hlast
                  simp [hlast]

end Lifecycle
end StrategyWorker
