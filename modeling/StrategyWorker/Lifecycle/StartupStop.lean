import StrategyWorker.Lifecycle.Aspects

/-!
# Stops while the worker starts

A startup that is still under way on the main thread opens again behind a
teardown what the teardown has ended: nothing in {lit}`start` or {lit}`run`
reads {lit}`_shutdown_in_progress`, and {lit}`_maybe_start_…` clears the stop
events of the feeds.

Main results:

- Theorem {lit}`stop_is_final`: the runs in which everything that a completed
  stop has ended stays ended.
- Theorem {lit}`startup_undoes_stop`: a run in which a startup goes on after a
  completed stop.
-/

namespace StrategyWorker
namespace Lifecycle

open Domain Library
open ThreadMachine (weigh total)

/-! ## Teardowns behind the startup -/

/-- {lit}`self._shutdown_complete = True`. -/
def completes : WorkerOp :=
  .inl (.assign (.shutdownComplete true))

/-- The end of a teardown. -/
def completeWeight : WorkerOp → Nat
  | .inl (.assign (.shutdownComplete true)) => 1
  | _ => 0

/--
A teardown ends an aspect only when no thread has still to execute an operation that opens it
again, its joins do not run into their timeouts, and a caller passes the guard of {lit}`stop` only
when no other teardown is under way.
-/
def StopsBehindStartup (c : WorkerConfig) : LifecycleMove → Prop
  | .request _ => True
  | .step i out => ∀ op ∈ c.next i,
      (∀ a ∈ ends op, total a.opens c.threads = 0) ∧
      (isJoin op = true → out.delivered = true) ∧
      (isStopEntry op = true → c.shared.1.shutdownComplete = false →
        total completeWeight c.threads = 0)

instance (c : WorkerConfig) : (m : LifecycleMove) → Decidable (StopsBehindStartup c m)
  | .request _ => inferInstanceAs (Decidable True)
  | .step i _ => inferInstanceAs (Decidable (∀ op ∈ c.next i, _))

section

variable {w : Wiring} {configured : Feed → Bool}

/-! ## Teardowns on their way to the end -/

theorem completeWeight_of_ne {op : WorkerOp} (h : op ≠ completes) : completeWeight op = 0 := by
  unfold completeWeight
  split
  · exact absurd rfl h
  · rfl

/-- The code up to the end of a teardown. -/
def upToEnd : List WorkerOp → Option (List WorkerOp)
  | [] => none
  | op :: rest => if op = completes then some [op] else (upToEnd rest).map (op :: ·)

theorem upToEnd_cons {op : WorkerOp} {rest : List WorkerOp} (hop : op ≠ completes) :
    upToEnd (op :: rest) = (upToEnd rest).map (op :: ·) := by
  rw [upToEnd, if_neg hop]

theorem upToEnd_append {code rest : List WorkerOp} (h : ∀ op ∈ code, op ≠ completes) :
    upToEnd (code ++ rest) = (upToEnd rest).map (code ++ ·) := by
  induction code with
  | nil => simp
  | cons op code ih =>
      have hop := h op List.mem_cons_self
      rw [List.cons_append, upToEnd_cons hop, ih fun o ho => h o (List.mem_cons_of_mem _ ho),
        Option.map_map]
      rfl

theorem upToEnd_eq_none {code : List WorkerOp} (h : weigh completeWeight code = 0) :
    upToEnd code = none := by
  induction code with
  | nil => rfl
  | cons op rest ih =>
      rw [ThreadMachine.weigh_cons] at h
      have hop : op ≠ completes := by
        rintro rfl
        simp [completeWeight, completes] at h
      rw [upToEnd_cons hop, ih (by omega)]
      rfl

theorem upToEnd_isSome {code : List WorkerOp} (h : 0 < weigh completeWeight code) :
    (upToEnd code).isSome = true := by
  induction code with
  | nil => cases h
  | cons op rest ih =>
      by_cases hop : op = completes
      · simp [upToEnd, hop]
      · rw [upToEnd_cons hop, Option.isSome_map]
        rw [ThreadMachine.weigh_cons, completeWeight_of_ne hop, Nat.zero_add] at h
        exact ih h

/-- The end of the teardown is the last operation of that code. -/
theorem upToEnd_split {code front : List WorkerOp} (h : upToEnd code = some front) :
    ∃ after, code = front ++ after ∧ 0 < weigh completeWeight front := by
  induction code generalizing front with
  | nil => cases h
  | cons op rest ih =>
      unfold upToEnd at h
      split at h
      · rename_i hop
        subst hop
        cases h
        exact ⟨rest, rfl, Nat.one_pos⟩
      · rcases Option.map_eq_some_iff.1 h with ⟨front, hfront, rfl⟩
        rcases ih hfront with ⟨after, rfl, hpos⟩
        refine ⟨after, rfl, ?_⟩
        rw [ThreadMachine.weigh_cons]
        omega

/-- The operations of a teardown; no handler is among them. -/
def isStopOp : WorkerOp → Bool
  | .inl op => isBodyOp op
  | .inr (.jobs .setStop) | .inr (.jobs .join) | .inr (.feed _ .setStop) | .inr (.feed _ .join) =>
      true
  | _ => false

theorem handler_of_stopOp {op : WorkerOp} (h : isStopOp op = true) (e : Error) :
    (background w configured).machine.handler op e = none := by
  cases op with
  | inl op =>
      have hnone : handler w op e = none := by
        cases op <;> first | rfl | cases h
      exact (congrArg (Option.map _) hnone).trans rfl
  | inr own =>
      have hnone : ownHandler own e = none := by
        cases own with
        | jobs step => cases step <;> first | rfl | cases h
        | _ => rfl
      exact hnone

theorem unwind_stopOps {front rest : List WorkerOp} (h : ∀ op ∈ front, isStopOp op = true)
    (e : Error) : (background w configured).machine.unwind e (front ++ rest) =
      (background w configured).machine.unwind e rest := by
  induction front with
  | nil => rfl
  | cons op front ih =>
      rw [List.cons_append, ThreadMachine.unwind, handler_of_stopOp (h op List.mem_cons_self)]
      exact ih fun o ho => h o (List.mem_cons_of_mem _ ho)

theorem resume_raise_stopOps {front rest : List WorkerOp} {t : Worker} {e : Error}
    (h : ∀ op ∈ front, isStopOp op = true) :
    (background w configured).machine.resume (front ++ rest) (.raise t e) =
      (background w configured).machine.resume rest (.raise t e) := by
  simp only [ThreadMachine.resume, unwind_stopOps h]

/-- An operation of a teardown goes on within it, and not to its end. -/
theorem stopOp_pushed {s : Worker} {op : WorkerOp} {out : Outcome} {eff : WorkerEffect}
    (h : (background w configured).machine.exec s op out = some eff) (hop : isStopOp op = true) :
    ∀ o ∈ eff.pushed, isStopOp o = true ∧ o ≠ completes := by
  cases op with
  | inl op =>
      rcases MachineLayer.exec_base_eq_some.1 h with ⟨below, hbelow, rfl⟩
      have hbelow : exec w s.1 op out = some below := hbelow
      rw [MachineLayer.pushed_lift]
      cases op with
      | setPhase phase =>
          cases hbelow
          simp only [Effect.pushed, setPhaseBody]
          split <;> simp [background, lower, isStopOp, isBodyOp, completes]
      | call c =>
          obtain rfl : execCall w s.1 c out = below := Option.some.inj hbelow
          simp
      | recordShutdown _ | writePhase _ _ | assign _ | stopReturn =>
          cases hbelow
          simp [Effect.pushed, background, lower, isStopOp, isBodyOp, completes]
      | _ => cases hop
  | inr own =>
      have h : execOwn w configured s own out = some eff := h
      cases own with
      | heartbeat step => cases hop
      | jobs step =>
          cases step <;> first | (cases hop; done) | skip
          all_goals
            simp only [execOwn, execJobs] at h
            (repeat' split at h) <;> cases h <;> simp [Effect.pushed, isStopOp, completes]
      | feed f step =>
          cases step <;> first | (cases hop; done) | skip
          all_goals
            simp only [execOwn, execFeed] at h
            (try split at h) <;> cases h
            simp [Effect.pushed, isStopOp, completes]

/-- What an operation of a teardown leads to is ended by it or is led to by what it pushes. -/
theorem leads_exec {s t : Worker} {op : WorkerOp} {out : Outcome} {push : List WorkerOp}
    {codes : List (List WorkerOp)} {a : Aspect}
    (h : (background w configured).machine.exec s op out = some (.next t push codes))
    (hleads : a ∈ leads op) :
    ends op = some a ∨ (∃ o ∈ push, a ∈ leads o) ∨
      (ends op = some .jobsStop ∧ a = .jobsThread ∧ w.periodicJobs = false) := by
  unfold leads at hleads
  split at hleads
  · rcases List.mem_cons.1 hleads with rfl | hthread
    · exact .inl rfl
    · obtain rfl := List.mem_singleton.1 hthread
      cases h
      exact .inr (.inl ⟨_, List.mem_singleton_self _, List.mem_singleton_self _⟩)
  · rcases List.mem_cons.1 hleads with rfl | hthread
    · exact .inl rfl
    · obtain rfl := List.mem_singleton.1 hthread
      rw [MachineLayer.exec_own] at h
      change execJobs w s out .setStop = _ at h
      simp only [execJobs] at h
      split at h <;> cases h
      · rename_i hnone
        exact .inr (.inr ⟨rfl, rfl, by simpa using hnone⟩)
      · exact .inr (.inl ⟨_, List.mem_singleton_self _, List.mem_singleton_self _⟩)
  · rename_i phase
    split at hleads
    · rename_i hfinal
      obtain rfl := List.mem_singleton.1 hleads
      cases h
      refine .inr (.inl ⟨.inl (.writePhase s.1.phase phase), ?_, ?_⟩)
      · simp [setPhaseBody, background, lower]
      · simp [leads, ends, hfinal]
    · cases hleads
  · left
    simpa using hleads

theorem layerWeight_complete (w : Wiring) : LayerWeight w completeWeight 1 where
  base := {
    control := fun op h => by
      cases op with
      | assign v => rcases v with v | v | _ | _ <;> first | rfl | cases h
      | _ => rfl
    raise := fun e => rfl
    close := fun i => rfl
    start := by simp [startBody, completeWeight]
    ready := by simp [runReadyBody, completeWeight]
    set := fun previous phase => by
      unfold setPhaseBody
      split <;> simp [completeWeight]
    failed := fun e => by
      rw [weigh_startFailed w e fun _ => rfl]
      split <;> simp [completeWeight]
    stop := fun args => by
      rw [weigh_stopBody w args fun _ => rfl]
      unfold stopReport
      split <;> simp [stopWork, completeWeight] }
  lower op := by
    cases op with
    | call c => cases c <;> rfl
    | _ => rfl

/-- An operation leaves no more of a teardown than it stood for, or it enters one. -/
theorem complete_exec {s : Worker} {op : WorkerOp} {out : Outcome} {eff : WorkerEffect}
    (h : (background w configured).machine.exec s op out = some eff)
    (henter : isStopEntry op = true → s.1.shutdownComplete = true) :
    ThreadMachine.leaves completeWeight eff ≤ completeWeight op := by
  cases op with
  | inl op =>
      rcases (layerWeight_complete w).exec_base h with hle | ⟨args, rfl, hs, -⟩
      · exact hle
      · simp [henter rfl] at hs
  | inr own =>
      rw [LayerWeight.leaves_own (v := completeWeight) (fun _ => rfl) h]
      exact Nat.zero_le _

/-- Only the end of a teardown completes a stop. -/
theorem completed_exec {s : Worker} {op : WorkerOp} {out : Outcome} {eff : WorkerEffect}
    (h : (background w configured).machine.exec s op out = some eff)
    (hcompleted : 0 < reached .completed eff.shared.1.log) :
    0 < reached .completed s.1.log ∨ op = completes := by
  cases op with
  | inl op =>
      rcases MachineLayer.exec_base_eq_some.1 h with ⟨below, hbelow, rfl⟩
      rw [MachineLayer.shared_lift, exec_log hbelow, reached_append] at hcompleted
      have hweight := milestone_emits .completed w s.1 out op
      by_cases hold : 0 < reached .completed s.1.log
      · exact .inl hold
      · right
        unfold Milestone.weight at hweight
        split at hweight <;> first | rfl | contradiction | omega
  | inr own =>
      left
      have h : execOwn w configured s own out = some eff := h
      rcases exec_own_log h with ⟨noted, hlog, hcalls⟩
      have hnone : reached .completed noted = 0 := by
        apply List.countP_eq_zero.2
        intro e he
        rcases hcalls e he with ⟨c, rfl | rfl⟩ <;> simp [Milestone.marks]
      rwa [hlog, reached_append, hnone, Nat.add_zero] at hcompleted

/-! ## The invariant -/

/-- An aspect has ended, and nothing that opens it again is ahead. -/
def Ended (w : Wiring) (c : WorkerConfig) (a : Aspect) : Prop :=
  a.Holds w c.shared ∧ total a.opens c.threads = 0

/-- A thread inside {lit}`stop` still comes to the end of every aspect that has not ended. -/
def Finishing (w : Wiring) (c : WorkerConfig) (code : List WorkerOp) : Prop :=
  ∀ front, upToEnd code = some front →
    (∀ op ∈ front, isStopOp op = true) ∧ ∀ a, (∃ op ∈ front, a ∈ leads op) ∨ Ended w c a

structure StopInv (w : Wiring) (c : WorkerConfig) : Prop where
  kept : Kept w c.shared
  single : total completeWeight c.threads ≤ 1
  finishing : ∀ t ∈ c.threads, Finishing w c t.code
  done : 0 < reached .completed c.shared.1.log →
    total completeWeight c.threads = 0 ∧ ∀ a, Ended w c a

theorem finishing_of_weightless {c : WorkerConfig} {code : List WorkerOp}
    (h : weigh completeWeight code = 0) : Finishing w c code := by
  intro front hfront
  rw [upToEnd_eq_none h] at hfront
  cases hfront

theorem Finishing.mono {c d : WorkerConfig} {code : List WorkerOp} (h : Finishing w c code)
    (hended : ∀ a, Ended w c a → Ended w d a) : Finishing w d code := by
  intro front hfront
  rcases h front hfront with ⟨hops, haspects⟩
  exact ⟨hops, fun a => (haspects a).imp_right (hended a)⟩

/-! ## One step -/

section

variable {c : WorkerConfig} {i : Nat} {out : Outcome} {op : WorkerOp} {rest : List WorkerOp}
  {f : Option Error} {eff : WorkerEffect}

/-- The configuration after an operation of thread {lit}`i`. -/
def WorkerConfig.after (w : Wiring) (configured : Feed → Bool) (c : WorkerConfig) (i : Nat)
    (rest : List WorkerOp) (eff : WorkerEffect) : WorkerConfig :=
  ⟨eff.shared, c.threads.set i ((background w configured).machine.resume rest eff) ++
    eff.spawned.map .fresh⟩

/-- Without the entry of a teardown the total of an aspect does not grow. -/
theorem opens_total (hget : c.threads[i]? = some ⟨op :: rest, f⟩)
    (hexec : (background w configured).machine.exec c.shared op out = some eff)
    (henter : isStopEntry op = true → c.shared.1.shutdownComplete = true) (a : Aspect) :
    total a.opens (c.after w configured i rest eff).threads ≤ total a.opens c.threads := by
  have htotal := ThreadMachine.step_total (M := (background w configured).machine)
    (fun o e code => (layerWeight_opens w a).handler o e code) hget eff
  have hleaves := opens_exec hexec henter a
  simp only [WorkerConfig.after]
  omega

theorem complete_total (hget : c.threads[i]? = some ⟨op :: rest, f⟩)
    (hexec : (background w configured).machine.exec c.shared op out = some eff)
    (henter : isStopEntry op = true → c.shared.1.shutdownComplete = true) :
    total completeWeight (c.after w configured i rest eff).threads ≤
      total completeWeight c.threads := by
  have htotal := ThreadMachine.step_total (M := (background w configured).machine)
    (fun o e code => (layerWeight_complete w).handler o e code) hget eff
  have hleaves := complete_exec hexec henter
  simp only [WorkerConfig.after]
  omega

/-- So what has ended stays so. -/
theorem ended_step (hget : c.threads[i]? = some ⟨op :: rest, f⟩)
    (hexec : (background w configured).machine.exec c.shared op out = some eff)
    (henter : isStopEntry op = true → c.shared.1.shutdownComplete = true) {a : Aspect}
    (h : Ended w c a) : Ended w (c.after w configured i rest eff) a := by
  rcases h with ⟨hholds, hzero⟩
  have hle := ThreadMachine.weigh_le_total (w := a.opens) hget
  have htotal := opens_total hget hexec henter a
  simp only [ThreadMachine.weigh_cons] at hle
  exact ⟨holds_exec hexec hholds (by omega), by omega⟩

/-- What the operation of a teardown ends has ended behind it. -/
theorem ended_of_ends {t : Worker} {push : List WorkerOp} {codes : List (List WorkerOp)}
    (hinv : StopInv w c) (hbehind : StopsBehindStartup c (.step i out))
    (hget : c.threads[i]? = some ⟨op :: rest, f⟩)
    (hexec : (background w configured).machine.exec c.shared op out = some (.next t push codes))
    {a : Aspect} (hends : ends op = some a) :
    Ended w (c.after w configured i rest (.next t push codes)) a := by
  rcases hbehind op (WorkerConfig.next_eq_some hget) with ⟨hclosed, hjoin, -⟩
  have henter : isStopEntry op = true → c.shared.1.shutdownComplete = true := by
    intro hentry
    unfold isStopEntry at hentry
    split at hentry
    · cases hends
    · cases hentry
  have htotal := opens_total hget hexec henter a
  have hzero := hclosed a hends
  exact ⟨holds_of_ends hexec hinv.kept hjoin hends, by omega⟩

/-- The stepping thread still comes to the end of every aspect. -/
theorem finishing_self (hinv : StopInv w c) (hbehind : StopsBehindStartup c (.step i out))
    (hget : c.threads[i]? = some ⟨op :: rest, f⟩)
    (hexec : (background w configured).machine.exec c.shared op out = some eff)
    (henter : isStopEntry op = true → c.shared.1.shutdownComplete = true) :
    Finishing w (c.after w configured i rest eff)
      ((background w configured).machine.resume rest eff).code := by
  have hself := hinv.finishing _ (List.mem_of_getElem? hget)
  have hsingle := hinv.single
  have hle := ThreadMachine.weigh_le_total (w := completeWeight) hget
  have hresume := ThreadMachine.weigh_resume_le (M := (background w configured).machine)
    (fun o e code => (layerWeight_complete w).handler o e code) rest eff
  have hleaves := complete_exec hexec henter
  simp only [ThreadMachine.weigh_cons] at hle
  by_cases hop : op = completes
  · -- the end of the teardown: nothing of it is left
    subst hop
    have hnone : ThreadMachine.leaves completeWeight eff = 0 := by
      cases hexec
      rfl
    have hone : completeWeight completes = 1 := rfl
    exact finishing_of_weightless (by omega)
  · have hrest : upToEnd (op :: rest) = (upToEnd rest).map (op :: ·) := upToEnd_cons hop
    cases hfront : upToEnd rest with
    | none =>
        -- outside of a teardown
        apply finishing_of_weightless
        have hzero : weigh completeWeight (op :: rest) = 0 := by
          by_contra hpos
          have hsome := upToEnd_isSome (Nat.pos_of_ne_zero hpos)
          rw [hrest, hfront] at hsome
          cases hsome
        rw [ThreadMachine.weigh_cons] at hzero
        omega
    | some front =>
        rw [hfront, Option.map_some] at hrest
        rcases hself _ hrest with ⟨hops, haspects⟩
        have hstop := hops op List.mem_cons_self
        have hfrontOps := fun o ho => hops o (List.mem_cons_of_mem _ ho)
        cases eff with
        | raise t e =>
            -- an error leaves the teardown
            apply finishing_of_weightless
            rcases upToEnd_split hfront with ⟨after, rfl, hpos⟩
            have hafter : weigh completeWeight after = 0 := by
              rw [ThreadMachine.weigh_append] at hle
              omega
            have hunwound := ThreadMachine.weigh_resume_le (M := (background w configured).machine)
              (fun o e code => (layerWeight_complete w).handler o e code) after (.raise t e)
            rw [resume_raise_stopOps hfrontOps]
            have hraise : ThreadMachine.leaves completeWeight (.raise t e : WorkerEffect) = 0 := rfl
            omega
        | next t push codes =>
            have hpushed : ∀ o ∈ push, isStopOp o = true ∧ o ≠ completes :=
              stopOp_pushed hexec hstop
            intro front' hfront'
            have hcode : upToEnd (push ++ rest) = some (push ++ front) := by
              rw [upToEnd_append fun o ho => (hpushed o ho).2, hfront]
              rfl
            obtain rfl : push ++ front = front' := Option.some.inj (hcode.symm.trans hfront')
            refine ⟨?_, fun a => ?_⟩
            · intro o ho
              rcases List.mem_append.1 ho with ho | ho
              · exact (hpushed o ho).1
              · exact hfrontOps o ho
            · rcases haspects a with ⟨o, ho, hleads⟩ | hended
              · rcases List.mem_cons.1 ho with rfl | ho
                · rcases leads_exec hexec hleads with hends | ⟨o', ho', hleads'⟩ |
                    ⟨hends, rfl, hnone⟩
                  · exact .inr (ended_of_ends hinv hbehind hget hexec hends)
                  · exact .inl ⟨o', List.mem_append_left _ ho', hleads'⟩
                  · -- a worker without a heartbeat job
                    have hstopped := ended_of_ends hinv hbehind hget hexec hends
                    exact .inr ⟨fun hperiodic => by simp [hnone] at hperiodic, hstopped.2⟩
                · exact .inl ⟨o, List.mem_append_right _ ho, hleads⟩
              · exact .inr (ended_step hget hexec henter hended)

/-- The body of {lit}`stop` before the assignment of its flag: it holds all of {lit}`stopWork`
and sets the final phase. -/
theorem stopBody_split (w : Wiring) (args : StopArgs) : ∃ body, stopBody w args = body ++
    [.assign (.shutdownComplete true), .assign (.started false), .stopReturn] ∧
      (∀ o ∈ body, o ≠ .assign (.shutdownComplete true) ∧ isStopOp (lower o) = true) ∧
      .setPhase (finalPhase w args) ∈ body ∧ ∀ o ∈ stopWork, o ∈ body := by
  have hwork : ∀ o ∈ stopWork, o ≠ .assign (.shutdownComplete true) ∧
      isStopOp (lower o) = true := by
    decide
  have hclose : ∀ o ∈ closeDownstreamClients w, o ≠ .assign (.shutdownComplete true) ∧
      isStopOp (lower o) = true := by
    intro o ho
    rcases List.mem_map.1 ho with ⟨i, -, rfl⟩
    exact ⟨by simp, rfl⟩
  have hbody : ∀ report : List Op, (∀ o ∈ report, o ≠ .assign (.shutdownComplete true) ∧
      isStopOp (lower o) = true) → ∀ o ∈ stopWork ++ closeDownstreamClients w ++ report,
        o ≠ .assign (.shutdownComplete true) ∧ isStopOp (lower o) = true := by
    intro report hreport o ho
    rcases List.mem_append.1 ho with ho | ho
    · rcases List.mem_append.1 ho with ho | ho
      · exact hwork o ho
      · exact hclose o ho
    · exact hreport o ho
  unfold stopBody stopReport
  split
  · refine ⟨stopWork ++ closeDownstreamClients w ++ [.recordShutdown .emitWorkerShutdownSignal,
      .call .emitTerminated, .setPhase (finalPhase w args), .call .reportFinalShutdown],
      by simp, hbody _ ?_, by simp, by simp +contextual⟩
    simp [lower, isStopOp, isBodyOp]
  · refine ⟨stopWork ++ closeDownstreamClients w ++ [.recordShutdown .emitWorkerShutdownSignal,
      .setPhase (finalPhase w args), .call .reportFinalShutdown],
      by simp, hbody _ ?_, by simp, by simp +contextual⟩
    simp [lower, isStopOp, isBodyOp]

/-- A teardown that is entered comes to the end of every aspect. -/
theorem finishing_enter {args : StopArgs} (d : WorkerConfig) :
    Finishing w d ((background w configured).lowerAll (stopBody w args) ++ rest) := by
  rcases stopBody_split w args with ⟨body, hbody, hops, hphase, hwork⟩
  have hfront : upToEnd ((background w configured).lowerAll (stopBody w args) ++ rest) =
      some ((background w configured).lowerAll body ++ [completes]) := by
    have hfree : ∀ op ∈ (background w configured).lowerAll body, op ≠ completes := by
      intro op hop heq
      rcases List.mem_map.1 hop with ⟨o, ho, hlower⟩
      apply (hops o ho).1
      have hlower : lower o = completes := hlower.trans heq
      unfold lower at hlower
      split at hlower <;> cases hlower
      rfl
    rw [hbody, MachineLayer.lowerAll, List.map_append, List.append_assoc, ← MachineLayer.lowerAll,
      upToEnd_append hfree]
    rfl
  intro front hsome
  obtain rfl := Option.some.inj (hfront.symm.trans hsome)
  have hlowered : ∀ o ∈ body, lower o ∈ (background w configured).lowerAll body ++ [completes] :=
    fun o ho => List.mem_append_left _ (List.mem_map_of_mem ho)
  refine ⟨?_, fun a => .inl ?_⟩
  · intro op hop
    rcases List.mem_append.1 hop with hop | hop
    · rcases List.mem_map.1 hop with ⟨o, ho, rfl⟩
      exact (hops o ho).2
    · obtain rfl := List.mem_singleton.1 hop
      rfl
  · cases a with
    | feedStop f =>
        have hmem : .call (.stopFeed f) ∈ stopWork := by cases f <;> decide
        exact ⟨_, hlowered _ (hwork _ hmem), by simp [lower, leads]⟩
    | feedThread f =>
        have hmem : .call (.stopFeed f) ∈ stopWork := by cases f <;> decide
        exact ⟨_, hlowered _ (hwork _ hmem), by simp [lower, leads]⟩
    | jobsStop =>
        have hmem : .call .stopPeriodicJobs ∈ stopWork := by decide
        exact ⟨_, hlowered _ (hwork _ hmem), by simp [lower, leads]⟩
    | jobsThread =>
        have hmem : .call .stopPeriodicJobs ∈ stopWork := by decide
        exact ⟨_, hlowered _ (hwork _ hmem), by simp [lower, leads]⟩
    | strategy =>
        have hmem : .call .stopStrategy ∈ stopWork := by decide
        exact ⟨_, hlowered _ (hwork _ hmem), by simp [lower, leads, ends]⟩
    | phase =>
        have hfinal : isFinalPhase (finalPhase w args) = true := by
          unfold finalPhase
          split <;> rfl
        exact ⟨_, hlowered _ hphase, by simp [lower, leads, hfinal]⟩
    | complete =>
        exact ⟨completes, List.mem_append_right _ (List.mem_singleton_self _),
          by simp [completes, leads, ends]⟩

/-- A teardown is entered when no other one is under way. -/
theorem stopInv_enter (hinv : StopInv w c) (hbehind : StopsBehindStartup c (.step i out))
    (hget : c.threads[i]? = some ⟨op :: rest, f⟩)
    (hexec : (background w configured).machine.exec c.shared op out = some eff)
    (hentry : isStopEntry op = true) (hincomplete : c.shared.1.shutdownComplete = false) :
    StopInv w (c.after w configured i rest eff) := by
  rcases hbehind op (WorkerConfig.next_eq_some hget) with ⟨-, hjoin, hfree⟩
  have hzero := hfree hentry hincomplete
  obtain ⟨args, rfl⟩ : ∃ args, op = .inl (.stopGuard args) := by
    unfold isStopEntry at hentry
    split at hentry
    · exact ⟨_, rfl⟩
    · cases hentry
  have heff : eff = .next (c.shared.1.note (.stopEntered args), c.shared.2)
      ((background w configured).lowerAll (stopBody w args)) [] := by
    rcases MachineLayer.exec_base_eq_some.1 hexec with ⟨below, hbelow, rfl⟩
    have hbelow : exec w c.shared.1 (.stopGuard args) out = some below := hbelow
    simp only [exec, hincomplete, Bool.false_eq_true, if_false, Option.some.injEq] at hbelow
    subst hbelow
    simp [Effect.lift, background, sends, MachineLayer.lowerAll]
  have hnone : ¬ 0 < reached .completed c.shared.1.log := by
    intro hcompleted
    have hset : c.shared.1.shutdownComplete = true := ((hinv.done hcompleted).2 .complete).1
    rw [hincomplete] at hset
    cases hset
  have htotal := ThreadMachine.step_total (M := (background w configured).machine)
    (fun o e code => (layerWeight_complete w).handler o e code) hget eff
  subst heff
  refine ⟨kept_exec hexec hinv.kept hjoin, ?_, ?_, ?_⟩
  · rcases (layerWeight_complete w).exec_base hexec with hle | ⟨-, -, -, hle⟩ <;>
      simp only [WorkerConfig.after] <;> omega
  · intro t ht
    rcases List.mem_iff_getElem?.1 ht with ⟨j, hj⟩
    rcases ThreadMachine.getElem?_after hget hj with ⟨rfl, rfl⟩ | ⟨-, hold⟩ | ⟨-, code, hcode, -⟩
    · exact finishing_enter _
    · apply finishing_of_weightless
      have hle := ThreadMachine.weigh_le_total (w := completeWeight) hold
      omega
    · cases hcode
  · intro hcompleted
    simp only [WorkerConfig.after, Effect.shared, note_log, reached_append] at hcompleted
    have hentered : reached .completed [.stopEntered args] = 0 := rfl
    omega

/-- Any other operation of a thread. -/
theorem stopInv_thread (hinv : StopInv w c) (hbehind : StopsBehindStartup c (.step i out))
    (hget : c.threads[i]? = some ⟨op :: rest, f⟩)
    (hexec : (background w configured).machine.exec c.shared op out = some eff)
    (henter : isStopEntry op = true → c.shared.1.shutdownComplete = true) :
    StopInv w (c.after w configured i rest eff) := by
  rcases hbehind op (WorkerConfig.next_eq_some hget) with ⟨hclosed, hjoin, -⟩
  have hself := hinv.finishing _ (List.mem_of_getElem? hget)
  have hcomplete := complete_total hget hexec henter
  have hsingle := hinv.single
  have hstable : ∀ a, Ended w c a → Ended w (c.after w configured i rest eff) a :=
    fun a h => ended_step hget hexec henter h
  refine ⟨kept_exec hexec hinv.kept hjoin, by omega, ?_, ?_⟩
  · intro t ht
    rcases List.mem_iff_getElem?.1 ht with ⟨j, hj⟩
    rcases ThreadMachine.getElem?_after hget hj with ⟨rfl, rfl⟩ | ⟨-, hold⟩ |
      ⟨-, code, hcode, rfl⟩
    · exact finishing_self hinv hbehind hget hexec henter
    · exact (hinv.finishing t (List.mem_of_getElem? hold)).mono hstable
    · apply finishing_of_weightless
      cases op with
      | inl op => exact (layerWeight_complete w).spawned_base hexec hcode
      | inr own =>
          have hle := ThreadMachine.weigh_spawned_le (w := completeWeight) hcode
          rw [LayerWeight.leaves_own (v := completeWeight) (fun _ => rfl) hexec] at hle
          exact Nat.le_zero.1 hle
  · intro hcompleted
    rcases completed_exec hexec hcompleted with hold | rfl
    · rcases hinv.done hold with ⟨hzero, hended⟩
      exact ⟨by omega, fun a => hstable a (hended a)⟩
    · -- the teardown completes with every aspect ended
      have hle := ThreadMachine.step_total (M := (background w configured).machine)
        (fun o e code => (layerWeight_complete w).handler o e code) hget eff
      have heff : ∃ t, eff = .next t [] [] := by
        cases hexec
        exact ⟨_, rfl⟩
      rcases heff with ⟨t, rfl⟩
      have hone : completeWeight completes = 1 := rfl
      have hleaves : ThreadMachine.leaves completeWeight (.next t [] [] : WorkerEffect) = 0 := rfl
      refine ⟨by simp only [WorkerConfig.after]; omega, fun a => ?_⟩
      have hfront : upToEnd (completes :: rest) = some [completes] := by simp [upToEnd]
      rcases (hself _ hfront).2 a with ⟨o, ho, hleads⟩ | hended
      · obtain rfl := List.mem_singleton.1 ho
        have hends : ends completes = some a := by simpa [completes, leads, eq_comm] using hleads
        exact ended_of_ends hinv hbehind hget hexec hends
      · exact hstable a hended

end

theorem stopInv_step {c d : WorkerConfig} {m : LifecycleMove} (hinv : StopInv w c)
    (hbehind : StopsBehindStartup c m) (hstep : (backgroundSystem w configured).step c m = some d) :
    StopInv w d := by
  cases m with
  | request r =>
      rcases ThreadMachine.system_step_request.1 hstep with ⟨code, hcode, rfl⟩
      split at hcode
      · rename_i hbesideMain
        cases hcode
        have hcomplete : weigh completeWeight ((background w configured).lowerAll r.code) = 0 :=
          (layerWeight_complete w).request hbesideMain
        have hstable : ∀ a, Ended w c a → Ended w
            ⟨c.shared, c.threads ++ [.fresh ((background w configured).lowerAll r.code)]⟩ a := by
          rintro a ⟨hholds, hzero⟩
          have hopens : weigh a.opens ((background w configured).lowerAll r.code) = 0 :=
            (layerWeight_opens w a).request hbesideMain
          exact ⟨hholds, by simp [Thread.fresh, hzero, hopens]⟩
        refine ⟨hinv.kept, ?_, ?_, fun hcompleted => ?_⟩
        · simpa [Thread.fresh, hcomplete] using hinv.single
        · intro t ht
          rcases List.mem_append.1 ht with ht | ht
          · exact (hinv.finishing t ht).mono hstable
          · obtain rfl := List.mem_singleton.1 ht
            exact finishing_of_weightless hcomplete
        · rcases hinv.done hcompleted with ⟨hzero, hended⟩
          exact ⟨by simp [Thread.fresh, hzero, hcomplete], fun a => hstable a (hended a)⟩
      · cases hcode
  | step i out =>
      rcases ThreadMachine.stepThread_eq_some.1 hstep with ⟨op, rest, f, eff, hget, hexec, rfl⟩
      by_cases henter : isStopEntry op = true → c.shared.1.shutdownComplete = true
      · exact stopInv_thread hinv hbehind hget hexec henter
      · rcases Classical.not_imp.1 henter with ⟨hentry, hincomplete⟩
        exact stopInv_enter hinv hbehind hget hexec hentry (by simpa using hincomplete)

theorem stopInv_init : StopInv w (backgroundSystem w configured).init where
  kept := { adapter := fun h => Bool.noConfusion h, thread := fun h => absurd rfl h }
  single := Nat.zero_le _
  finishing := by
    intro t ht
    obtain rfl := List.mem_singleton.1 ht
    exact finishing_of_weightless rfl
  done := by
    intro h
    cases h

end

/-! ## Runs -/

/--
In every run of the worker whose teardowns stay behind its startup, in turn and with joins that do
not run into their timeouts, every state after a completed stop is settled.
-/
theorem stop_is_final (w : Wiring) (configured : Feed → Bool) (ls : List LifecycleMove)
    (c : WorkerConfig)
    (hbehind : (backgroundSystem w configured).Meets StopsBehindStartup
      (backgroundSystem w configured).init ls)
    (hrun : (backgroundSystem w configured).run (backgroundSystem w configured).init ls = some c)
    (hstopped : Event.stopCompleted ∈ c.shared.1.log) : Settled w c.shared := by
  have hinv := TransitionSystem.run_invariant (StopInv w)
    (fun _ _ _ hs hC hstep => stopInv_step hs hC hstep) stopInv_init hbehind hrun
  have hcompleted : 0 < reached .completed c.shared.1.log :=
    List.countP_pos_iff.2 ⟨.stopCompleted, hstopped, rfl⟩
  exact settled_iff.2 fun a => ((hinv.done hcompleted).2 a).1

/-- A paper worker with a strategy, a heartbeat job and a runtime manager. -/
def paperWiring : Wiring :=
  { srmWiring with mode := .paper, strategyInstanceManager := true, periodicJobs := true }

/-- Its settings name a market data feed only. -/
def liveFeedOnly (f : Feed) : Bool :=
  f = .liveMarketData

/-- A running worker is stopped over HTTP; its threads end when they are joined. -/
def stopsWhileRunning : List LifecycleMove :=
  steps 0 61 ++ .request .httpStop :: steps 3 9 ++ steps 4 5 ++ steps 2 1 ++ steps 4 12 ++
    steps 1 1 ++ steps 4 25

theorem stop_is_final_running :
    ∃ c ∈ (backgroundSystem paperWiring liveFeedOnly).run
        (backgroundSystem paperWiring liveFeedOnly).init stopsWhileRunning,
      Event.stopCompleted ∈ c.shared.1.log ∧ Settled paperWiring c.shared := by
  have hrun : ∃ c ∈ (backgroundSystem paperWiring liveFeedOnly).run
      (backgroundSystem paperWiring liveFeedOnly).init stopsWhileRunning,
      Event.stopCompleted ∈ c.shared.1.log := by
    decide +kernel
  rcases hrun with ⟨c, hc, hstopped⟩
  exact ⟨c, hc, hstopped, stop_is_final paperWiring _ _ c (by decide +kernel) hc hstopped⟩

/-- A stop over HTTP completes while the bootstrap pipeline runs; the startup goes on, clears the
stop event of the feed, starts it, and leaves the worker running. -/
theorem startup_undoes_stop :
    ∃ c ∈ (backgroundSystem paperWiring liveFeedOnly).run
        (backgroundSystem paperWiring liveFeedOnly).init
        (steps 0 10 ++ .request .httpStop :: steps 1 9 ++ steps 2 42 ++ steps 0 37),
      Event.stopCompleted ∈ c.shared.1.log ∧ ¬ Settled paperWiring c.shared ∧
        c.shared.1.phase = .running ∧ c.shared.1.shutdownComplete = false ∧
        (c.shared.2.feeds .liveMarketData).stop = false ∧
        (c.shared.2.feeds .liveMarketData).running = 1 := by
  decide +kernel

end Lifecycle
end StrategyWorker
