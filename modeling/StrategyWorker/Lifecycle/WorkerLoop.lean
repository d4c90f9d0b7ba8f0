import StrategyWorker.Lifecycle.MainThread

/-!
# When the worker loop ends

{lit}`WorkerApp.run` leaves its loop when it reads a phase other than
{lit}`READY`, {lit}`RUNNING` and {lit}`FAILED`.  {lit}`STOPPING` is such a
phase, and the teardown that set it may run on the coordinator's daemon thread
with most of its steps still to come.

Main results:

- Theorem {lit}`run_returns_after_teardown`: the runs in which
  {lit}`WorkerApp.run` returns only after a completed teardown.
- Theorem {lit}`run_returns_during_teardown`: a run in which it does not.
-/

namespace StrategyWorker
namespace Lifecycle

open Domain Library
open ThreadMachine (weigh total)

/-! ## Leaving in turn -/

/-- Every teardown that was entered has completed, and no thread is inside {lit}`stop`. -/
def AllReturned (c : LifecycleConfig) : Prop :=
  entered c.shared.log = reached .completed c.shared.log ∧ total insideWeight c.threads = 0

instance (c : LifecycleConfig) : Decidable (AllReturned c) :=
  inferInstanceAs (Decidable (_ ∧ _))

/--
A caller passes the guard of {lit}`stop` only when every teardown that was entered has
completed and {lit}`LifecycleService.run` is over; the main thread leaves its loop only when
every teardown has returned.
-/
def LoopInTurn (c : LifecycleConfig) : LifecycleMove → Prop
  | .request _ => True
  | .step i _ => ∀ op ∈ c.next i,
      (isStopGuard op = true → c.shared.shutdownComplete = false →
        entered c.shared.log = reached .completed c.shared.log ∧
          total bringUpWeight c.threads = 0) ∧
      (i = 0 → LeavesLoop c.shared op → AllReturned c)

instance (c : LifecycleConfig) : (m : LifecycleMove) → Decidable (LoopInTurn c m)
  | .request _ => inferInstanceAs (Decidable True)
  | .step i _ => inferInstanceAs (Decidable (∀ op ∈ c.next i, _))

theorem stopsInTurn_of_loopInTurn {c : LifecycleConfig} {m : LifecycleMove}
    (h : LoopInTurn c m) : StopsInTurn c m := by
  cases m with
  | request r => trivial
  | step i out =>
      intro op hop hguard hs
      rcases (h op hop).1 hguard hs with ⟨heq, hzero⟩
      have hle : total resetWeight c.threads ≤ total bringUpWeight c.threads :=
        ThreadMachine.total_mono resetWeight_le_bringUp c.threads
      exact ⟨heq, by omega⟩

/-! ## The invariant -/

/-- The main thread may be at its end: a teardown has completed, and none is under way. -/
def Returned (c : LifecycleConfig) : Prop :=
  0 < reached .completed c.shared.log ∧ total insideWeight c.threads = 0

/-- What holds of a run whose main thread leaves its loop in turn. -/
structure LoopInv (c : LifecycleConfig) : Prop where
  one : OneTeardown c
  -- what the threads still hold of a teardown
  tears : total tearWeight c.threads ≤ 4 * entered c.shared.log
  inside : total insideWeight c.threads ≤ entered c.shared.log
  -- what they still hold of `start` and `run`
  unset : total unsetWeight c.threads = 0
  broughtUp : entered c.shared.log = 1 → total bringUpWeight c.threads = 0
  beside : ∀ (j : Nat) t, j ≠ 0 → c.threads[j]? = some t → weigh bringUpWeight t.code = 0
  -- before the teardown
  phases : entered c.shared.log = 0 → c.shared.phase = .initializing ∨
    c.shared.phase = .ready ∨ c.shared.phase = .running ∨ c.shared.phase = .failed
  early : entered c.shared.log = 0 → c.shared.phase = .initializing →
    c.shared.started = false ∧ ∀ t, c.threads[0]? = some t → SetsPhase t.code
  -- on the way to its end, and after it
  teardown : ∀ t ∈ c.threads, InTeardown c.shared t.code
  flag : c.shared.shutdownComplete = true → 0 < reached .completed c.shared.log
  final : 0 < reached .completed c.shared.log → isFinalPhase c.shared.phase = true ∧
    attempted .reportFinalShutdown c.shared.log ∧ signalAttempted c.shared.log
  main : ∃ t, c.threads[0]? = some t ∧
    (t.failure = none → MainCode (Returned c) t.code) ∧ (t.failure ≠ none → t.code = [])

/-! ## One step -/

section

variable {w : Wiring} {c : LifecycleConfig} {i : Nat} {out : Outcome} {op : Op} {rest : List Op}
  {f : Option Error} {eff : LifecycleEffect}

/-- The configuration after an operation of thread {lit}`i`. -/
def LifecycleConfig.after (c : LifecycleConfig) (w : Wiring) (i : Nat) (rest : List Op)
    (eff : LifecycleEffect) : LifecycleConfig :=
  ⟨eff.shared, c.threads.set i ((machine w).resume rest eff) ++ eff.spawned.map .fresh⟩

/-- A step either enters no teardown, or it enters the first one. -/
theorem entering (hinv : LoopInv c) (hturn : LoopInTurn c (.step i out))
    (hget : c.threads[i]? = some ⟨op :: rest, f⟩) (hexec : exec w c.shared op out = some eff) :
    ((∀ args, op = .stopGuard args → c.shared.shutdownComplete = true) ∧
        entered eff.shared.log = entered c.shared.log) ∨
      ((∃ args, op = .stopGuard args) ∧ c.shared.shutdownComplete = false ∧
        entered c.shared.log = 0 ∧ entered eff.shared.log = 1 ∧
        total bringUpWeight c.threads = 0) := by
  have hlog := exec_log hexec
  by_cases henter : ∀ args, op = .stopGuard args → c.shared.shutdownComplete = true
  · left
    refine ⟨henter, ?_⟩
    rw [hlog, entered_append, entered_emits henter, Nat.add_zero]
  · right
    rcases not_forall.1 henter with ⟨args, hguard⟩
    rcases Classical.not_imp.1 hguard with ⟨rfl, hincomplete⟩
    have hfalse : c.shared.shutdownComplete = false := by simpa using hincomplete
    rcases (hturn _ (next_eq_some hget)).1 rfl hfalse with ⟨heq, hzero⟩
    have hnone : entered c.shared.log = 0 := by
      by_contra hne
      exact hincomplete (hinv.one.complete (by omega))
    refine ⟨⟨args, rfl⟩, hfalse, hnone, ?_, hzero⟩
    rw [hlog, entered_append, hnone]
    simp [emits, hfalse, entered, Event.isStopEntered]

/-- What a step adds to a weight of teardowns is covered by the teardown it enters. -/
theorem weight_covered {v : Op → Nat} {k : Nat} (hv : CodeWeight w v k) (hinv : LoopInv c)
    (hturn : LoopInTurn c (.step i out)) (hget : c.threads[i]? = some ⟨op :: rest, f⟩)
    (hexec : exec w c.shared op out = some eff)
    (hbound : total v c.threads ≤ k * entered c.shared.log) :
    total v (c.after w i rest eff).threads ≤ k * entered eff.shared.log := by
  rcases entering hinv hturn hget hexec with ⟨henter, heq⟩ | ⟨-, -, hzero, hone, -⟩
  · rw [heq]
    exact (hv.total_le hget hexec henter).trans hbound
  · have hle := hv.total_le_add hget hexec
    rw [hzero] at hbound
    rw [hone]
    exact hle.trans (by omega)

/-- Whoever sets a phase of {lit}`stop` has the flag still to assign. -/
theorem completes_of_writePhase {s : Service} {p q : WorkerPhase}
    (hin : InTeardown s (.writePhase p q :: rest)) (hq : isStopPhase q = true) :
    0 < weigh Milestone.completed.weight (.writePhase p q :: rest) := by
  rcases hin with ⟨body, after, hcode, -, hends, hafter⟩
  cases body with
  | nil =>
      simp only [List.nil_append] at hcode
      subst hcode
      simp [tearWeight, hq] at hafter
  | cons o body =>
      cases hcode
      have hcompletes := hends.2.1
      simp only [ThreadMachine.weigh_cons, List.append_eq, ThreadMachine.weigh_append]
      omega

/-- A phase is set beside no other thread that has the flag to assign, and after none. -/
theorem writePhase_alone (hinv : LoopInv c) {p q : WorkerPhase}
    (hget : c.threads[i]? = some ⟨.writePhase p q :: rest, f⟩) :
    reached .completed c.shared.log = 0 ∧
      ∀ (j : Nat) t, j ≠ i → c.threads[j]? = some t →
        weigh Milestone.completed.weight t.code = 0 := by
  have hbudget := hinv.one.budget .completed
  have honce := hinv.one.once
  cases hq : isStopPhase q with
  | true =>
      have hcompletes := completes_of_writePhase (hinv.teardown _ (List.mem_of_getElem? hget)) hq
      have hself := ThreadMachine.weigh_le_total (w := Milestone.completed.weight) hget
      simp only at hcompletes hself
      refine ⟨by omega, fun j t hji hj => ?_⟩
      have hpair := ThreadMachine.weigh_add_le_total (w := Milestone.completed.weight) hget hj
        (Ne.symm hji)
      simp only at hpair
      omega
  | false =>
      have hself := ThreadMachine.weigh_le_total (w := bringUpWeight) hget
      have hone : bringUpWeight (.writePhase p q) = 1 := by simp [bringUpWeight, hq]
      rw [ThreadMachine.weigh_cons, hone] at hself
      have hzero : entered c.shared.log = 0 := by
        by_contra hne
        have := hinv.broughtUp (by omega)
        omega
      refine ⟨by omega, fun j t _ hj => ?_⟩
      have hother := ThreadMachine.weigh_le_total (w := Milestone.completed.weight) hj
      omega

/-- Every thread stays on the way to the end of its teardown. -/
theorem teardown_step (hinv : LoopInv c) (hturn : LoopInTurn c (.step i out))
    (hget : c.threads[i]? = some ⟨op :: rest, f⟩) (hexec : exec w c.shared op out = some eff) :
    ∀ t ∈ (c.after w i rest eff).threads, InTeardown eff.shared t.code := by
  have htears : entered c.shared.log = 0 → ∀ (j : Nat) t, c.threads[j]? = some t →
      weigh tearWeight t.code = 0 := by
    intro hzero j t hj
    have hle := ThreadMachine.weigh_le_total (w := tearWeight) hj
    have := hinv.tears
    omega
  apply ThreadMachine.step_forall (InTeardown eff.shared ·.code) hinv.teardown
  · apply inTeardown_resume hexec (hinv.teardown _ (List.mem_of_getElem? hget))
    rintro args rfl hs
    have hzero : entered c.shared.log = 0 := by
      rcases entering hinv hturn hget hexec with ⟨henter, -⟩ | ⟨-, -, hzero, -⟩
      · simp [henter args rfl] at hs
      · exact hzero
    have hweight := htears hzero i _ hget
    rw [ThreadMachine.weigh_cons] at hweight
    exact ⟨hzero, by omega⟩
  · intro code hcode
    exact inTeardown_of_free ((codeWeight_tear w).spawned_eq_zero hexec hcode)
  · intro j u hji hj hu
    apply inTeardown_beside hexec hu
    · by_cases hwrite : ∃ p q, op = .writePhase p q
      · rcases hwrite with ⟨p, q, rfl⟩
        exact .inr ((writePhase_alone hinv hget).2 j u hji hj)
      · left
        apply exec_phase hexec
        rintro p q rfl
        exact hwrite ⟨p, q, rfl⟩
    · rcases entering hinv hturn hget hexec with ⟨henter, -⟩ | ⟨-, -, hzero, -⟩
      · exact .inl (entered_emits henter)
      · exact .inr (htears hzero j u hj)

/-- The flag comes with a completed teardown. -/
theorem flag_step (hinv : LoopInv c) (hexec : exec w c.shared op out = some eff)
    (hcomplete : eff.shared.shutdownComplete = true) : 0 < reached .completed eff.shared.log := by
  have hlog := exec_log hexec
  rw [hlog, reached_append]
  have hkeep : c.shared.shutdownComplete = true → 0 < reached .completed c.shared.log +
      reached .completed (emits w c.shared out op) := by
    intro hs
    have := hinv.flag hs
    omega
  rcases exec_flags hexec with ⟨p, q, rfl⟩ | ⟨a, rfl⟩ | hsame
  · cases hexec
    exact hkeep hcomplete
  · cases hexec
    rcases a with v | v | _ | _
    · exact hkeep hcomplete
    · cases v
      · cases hcomplete
      · exact Nat.lt_add_left _ Nat.one_pos
    · exact hkeep hcomplete
    · exact hkeep hcomplete
  · exact hkeep (by rw [← hsame.shutdownComplete, hcomplete])

/-- A completed teardown has set the final phase and attempted its reports. -/
theorem final_step (hinv : LoopInv c) (hget : c.threads[i]? = some ⟨op :: rest, f⟩)
    (hexec : exec w c.shared op out = some eff)
    (hcompleted : 0 < reached .completed eff.shared.log) :
    isFinalPhase eff.shared.phase = true ∧ attempted .reportFinalShutdown eff.shared.log ∧
      signalAttempted eff.shared.log := by
  have hlog := exec_log hexec
  by_cases hold : 0 < reached .completed c.shared.log
  · rcases hinv.final hold with ⟨hphase, hreport, hsignal⟩
    have hcomplete := hinv.one.complete hold
    rw [exec_phase hexec, hlog]
    · exact ⟨hphase, attempted_append hreport _,
        signalAttempted_append hsignal (entered_emits fun _ _ => hcomplete)⟩
    · rintro p q rfl
      have := (writePhase_alone hinv hget).1
      omega
  · -- the operation is the assignment at the end of a body
    rw [hlog, reached_append] at hcompleted
    have hweight := milestone_emits .completed w c.shared out op
    have hop : op = .assign (.shutdownComplete true) := by
      unfold Milestone.weight at hweight
      split at hweight <;> first | rfl | contradiction | omega
    subst hop
    rcases hinv.teardown _ (List.mem_of_getElem? hget) with
      ⟨body, after, hcode, -, hends, hafter⟩
    cases body with
    | nil =>
        simp only [List.nil_append] at hcode
        subst hcode
        simp [tearWeight] at hafter
    | cons o body =>
        cases hcode
        cases hexec
        have hnone : entered [Event.stopCompleted] = 0 := rfl
        exact ⟨hends.1, attempted_append hends.2.1 _, signalAttempted_append hends.2.2.1 hnone⟩

/-- A thread other than the stepping one stays as it is. -/
theorem after_other {j : Nat} {t : Thread Op Error} (hji : j ≠ i) (hj : c.threads[j]? = some t) :
    (c.after w i rest eff).threads[j]? = some t := by
  have hlt : j < c.threads.length := (List.getElem?_eq_some_iff.1 hj).1
  simp only [LifecycleConfig.after]
  rw [List.getElem?_append_left (by simpa using hlt), List.getElem?_set_ne (Ne.symm hji), hj]

theorem after_self (hget : c.threads[i]? = some ⟨op :: rest, f⟩) :
    (c.after w i rest eff).threads[i]? = some ((machine w).resume rest eff) :=
  ThreadMachine.getElem?_set_append_self hget _ _

/-- No thread beside the main one gets anything of {lit}`start` or {lit}`run`. -/
theorem beside_step (hinv : LoopInv c) (hget : c.threads[i]? = some ⟨op :: rest, f⟩)
    (hexec : exec w c.shared op out = some eff) {j : Nat} {t : Thread Op Error} (hj0 : j ≠ 0)
    (hj : (c.after w i rest eff).threads[j]? = some t) : weigh bringUpWeight t.code = 0 := by
  simp only [LifecycleConfig.after] at hj
  by_cases hlt : j < c.threads.length
  · rw [List.getElem?_append_left (by simpa using hlt)] at hj
    by_cases hji : j = i
    · subst hji
      rw [List.getElem?_set_self hlt] at hj
      cases hj
      exact (codeWeight_bringUp w).resume_eq_zero hexec (hinv.beside j _ hj0 hget) (.inr rfl)
    · rw [List.getElem?_set_ne (Ne.symm hji)] at hj
      exact hinv.beside j t hj0 hj
  · rw [List.getElem?_append_right (by simpa using hlt)] at hj
    rcases List.mem_map.1 (List.mem_of_getElem? hj) with ⟨code, hcode, rfl⟩
    exact (codeWeight_bringUp w).spawned_eq_zero hexec hcode

/-- Before a teardown the phase is one of bringing the worker up. -/
theorem phases_step (hinv : LoopInv c) (hget : c.threads[i]? = some ⟨op :: rest, f⟩)
    (hexec : exec w c.shared op out = some eff) (hzero : entered c.shared.log = 0) :
    (eff.shared.phase = c.shared.phase ∧ ∀ p q, op ≠ .writePhase p q) ∨
      eff.shared.phase = .ready ∨ eff.shared.phase = .running ∨ eff.shared.phase = .failed := by
  by_cases hwrite : ∃ p q, op = .writePhase p q
  · right
    rcases hwrite with ⟨p, q, rfl⟩
    have htear := ThreadMachine.weigh_le_total (w := tearWeight) hget
    have hunset := ThreadMachine.weigh_le_total (w := unsetWeight) hget
    have htears := hinv.tears
    have hodd := hinv.unset
    simp only [ThreadMachine.weigh_cons] at htear hunset
    have htear : tearWeight (.writePhase p q) = 0 := by omega
    have hunset : unsetWeight (.writePhase p q) = 0 := by omega
    cases hexec
    cases q <;> simp_all [tearWeight, unsetWeight, isStopPhase, isFinalPhase, Effect.shared,
      Service.note]
  · left
    have hno : ∀ p q, op ≠ .writePhase p q := fun p q h => hwrite ⟨p, q, h⟩
    exact ⟨exec_phase hexec hno, hno⟩

/-- Until it sets a phase the main thread does not leave {lit}`start`. -/
theorem early_step (hinv : LoopInv c) (hget : c.threads[i]? = some ⟨op :: rest, f⟩)
    (hexec : exec w c.shared op out = some eff) (hzero : entered c.shared.log = 0)
    (hphase : eff.shared.phase = .initializing) :
    eff.shared.started = false ∧
      ∀ t, (c.after w i rest eff).threads[0]? = some t → SetsPhase t.code := by
  have hkept : eff.shared.phase = c.shared.phase ∧ ∀ p q, op ≠ .writePhase p q := by
    rcases phases_step hinv hget hexec hzero with h | h | h | h
    · exact h
    all_goals rw [hphase] at h; cases h
  rcases hkept with ⟨hkeep, hwrite⟩
  rcases hinv.early hzero (by rw [← hkeep, hphase]) with ⟨hstarted, hsets⟩
  by_cases hi : i = 0
  · subst hi
    rcases setsPhase_resume hexec (hsets _ hget) hstarted hwrite with ⟨hcode, hstarted⟩
    refine ⟨hstarted, fun t ht => ?_⟩
    rw [after_self hget] at ht
    cases ht
    exact hcode
  · constructor
    · rcases exec_flags hexec with ⟨p, q, rfl⟩ | ⟨a, rfl⟩ | hsame
      · exact absurd rfl (hwrite p q)
      · have hfree := hinv.beside i _ hi hget
        cases hexec
        rcases a with v | v | _ | _
        · cases v
          · rfl
          · simp [bringUpWeight] at hfree
        · cases v <;> exact hstarted
        · exact hstarted
        · exact hstarted
      · rw [hsame.started, hstarted]
    · intro t ht
      rcases hinv.main with ⟨t', ht', -⟩
      rw [after_other (Ne.symm hi) ht'] at ht
      cases ht
      exact hsets _ ht'

/-- After a completed teardown nobody enters another one. -/
theorem returned_step (hinv : LoopInv c) (hget : c.threads[i]? = some ⟨op :: rest, f⟩)
    (hexec : exec w c.shared op out = some eff) (hreturned : Returned c) :
    Returned (c.after w i rest eff) := by
  rcases hreturned with ⟨hcompleted, hnone⟩
  have hcomplete := hinv.one.complete hcompleted
  constructor
  · simp only [LifecycleConfig.after]
    rw [exec_log hexec, reached_append]
    omega
  · have hle := (codeWeight_inside w).total_le hget hexec fun _ _ => hcomplete
    simp only [LifecycleConfig.after]
    omega

/-- Leaving the loop in turn, the main thread leaves it after a teardown. -/
theorem returned_of_leaves (hinv : LoopInv c) (hturn : LoopInTurn c (.step 0 out))
    (hget : c.threads[0]? = some ⟨op :: rest, f⟩) (hleaves : LeavesLoop c.shared op) :
    Returned c := by
  rcases (hturn op (next_eq_some hget)).2 rfl hleaves with ⟨heq, hnone⟩
  refine ⟨?_, hnone⟩
  by_contra hzero
  have hzero : entered c.shared.log = 0 := by omega
  unfold LeavesLoop at hleaves
  split at hleaves
  · rcases hinv.phases hzero with h | h | h | h
    · exact (hinv.early hzero h).2 _ hget
    · exact hleaves (.inl h)
    · exact hleaves (.inr (.inl h))
    · exact hleaves (.inr (.inr h))
  · have := hinv.flag hleaves
    omega
  · rcases hinv.phases hzero with h | h | h | h <;> simp [h] at hleaves
  · exact hleaves

/-- Returning from a teardown, a thread was the last one inside. -/
theorem returned_of_stopReturn (hinv : LoopInv c)
    (hget : c.threads[i]? = some ⟨.stopReturn :: rest, f⟩)
    (hexec : exec w c.shared .stopReturn out = some eff) : Returned (c.after w i rest eff) := by
  have hcompleted : 0 < reached .completed c.shared.log := by
    rcases hinv.teardown _ (List.mem_of_getElem? hget) with
      ⟨body, after, hcode, -, hends, hafter⟩
    cases body with
    | nil =>
        simp only [List.nil_append] at hcode
        subst hcode
        simp [tearWeight] at hafter
    | cons o body =>
        cases hcode
        exact hends.1
  have htotal := ThreadMachine.step_total (M := machine w)
    (fun _ _ _ => (codeWeight_inside w).handler) hget eff
  have hinside := hinv.inside
  have honce := hinv.one.once
  have hone : insideWeight .stopReturn = 1 := rfl
  cases hexec
  refine ⟨hcompleted, ?_⟩
  simp only [ThreadMachine.leaves, Effect.pushed, Effect.spawned, ThreadMachine.weigh_nil,
    List.map_nil, List.sum_nil] at htotal
  simp only [LifecycleConfig.after, Effect.spawned, List.map_nil]
  omega

/-- The main thread stays within its code. -/
theorem main_step (hinv : LoopInv c) (hturn : LoopInTurn c (.step i out))
    (hget : c.threads[i]? = some ⟨op :: rest, f⟩) (hexec : exec w c.shared op out = some eff) :
    ∃ t, (c.after w i rest eff).threads[0]? = some t ∧
      (t.failure = none → MainCode (Returned (c.after w i rest eff)) t.code) ∧
      (t.failure ≠ none → t.code = []) := by
  have hreturned := returned_step hinv hget hexec
  rcases hinv.main with ⟨t, ht, hmain, hended⟩
  by_cases hi : i = 0
  · subst hi
    rw [hget] at ht
    cases ht
    have hrunning : f = none := by
      by_contra hne
      cases hended hne
    refine ⟨_, after_self hget, fun hfailure => ?_, fun hfailure => ?_⟩
    · apply mainCode_resume hexec (hmain hrunning) hreturned _ hfailure
      rintro (hleaves | rfl)
      · exact hreturned (returned_of_leaves hinv hturn hget hleaves)
      · exact returned_of_stopReturn hinv hget hexec
    · exact ThreadMachine.code_of_failure hfailure
  · exact ⟨t, after_other (Ne.symm hi) ht, fun hfailure => (hmain hfailure).mono hreturned, hended⟩

/-- A step keeps everything that holds of such a run. -/
theorem loopInv_thread (hinv : LoopInv c) (hturn : LoopInTurn c (.step i out))
    (hstep : (workerSystem w).step c (.step i out) = some (c.after w i rest eff))
    (hget : c.threads[i]? = some ⟨op :: rest, f⟩) (hexec : exec w c.shared op out = some eff) :
    LoopInv (c.after w i rest eff) := by
  have hentering := entering hinv hturn hget hexec
  have hbringUp := (codeWeight_bringUp w).total_le_add hget hexec
  have hunset := (codeWeight_unset w).total_le_add hget hexec
  -- before a teardown none was entered
  have hbefore : entered eff.shared.log = 0 → entered c.shared.log = 0 := by
    intro h
    rcases hentering with ⟨-, heq⟩ | ⟨-, -, -, hone, -⟩ <;> omega
  constructor
  case one => exact oneTeardown_step hinv.one (stopsInTurn_of_loopInTurn hturn) hstep
  case tears => exact weight_covered (codeWeight_tear w) hinv hturn hget hexec hinv.tears
  case inside =>
    have hle := weight_covered (codeWeight_inside w) hinv hturn hget hexec
      (by simpa using hinv.inside)
    exact hle.trans_eq (Nat.one_mul _)
  case unset =>
    have := hinv.unset
    simp only [LifecycleConfig.after]
    omega
  case broughtUp =>
    intro hone
    have hone : entered eff.shared.log = 1 := hone
    simp only [LifecycleConfig.after]
    rcases hentering with ⟨-, heq⟩ | ⟨-, -, -, -, hzero⟩
    · have := hinv.broughtUp (by omega)
      omega
    · omega
  case beside => exact fun j t hj0 hj => beside_step hinv hget hexec hj0 hj
  case phases =>
    intro hzero
    have hzero := hbefore hzero
    rcases phases_step hinv hget hexec hzero with ⟨hkeep, -⟩ | h
    · simp only [LifecycleConfig.after, hkeep]
      exact hinv.phases hzero
    · exact .inr h
  case early => exact fun hzero hphase => early_step hinv hget hexec (hbefore hzero) hphase
  case teardown => exact teardown_step hinv hturn hget hexec
  case flag => exact flag_step hinv hexec
  case final => exact final_step hinv hget hexec
  case main => exact main_step hinv hturn hget hexec

end

/-- A request from outside brings code without weight. -/
theorem loopInv_request {w : Wiring} {c : LifecycleConfig} {r : Request}
    (hinv : LoopInv c) (hexternal : r.external = true)
    (hstep : (workerSystem w).step c (.request r) =
      some ⟨c.shared, c.threads ++ [.fresh r.code]⟩) :
    LoopInv ⟨c.shared, c.threads ++ [.fresh r.code]⟩ := by
  have htotal : ∀ {v k}, CodeWeight w v k →
      total v (c.threads ++ [.fresh r.code]) = total v c.threads := by
    intro v k hv
    simp [Thread.fresh, hv.external hexternal]
  have hold : ∀ {t}, c.threads[0]? = some t →
      (c.threads ++ [Thread.fresh r.code])[0]? = some t := by
    intro t ht
    rw [List.getElem?_append_left (List.getElem?_eq_some_iff.1 ht).1, ht]
  rcases hinv.main with ⟨t, ht, hmain, hended⟩
  have hreturned : Returned c → Returned ⟨c.shared, c.threads ++ [.fresh r.code]⟩ := by
    rintro ⟨hcompleted, hnone⟩
    exact ⟨hcompleted, by rw [htotal (codeWeight_inside w), hnone]⟩
  constructor
  case one => exact oneTeardown_step (m := .request r) hinv.one trivial hstep
  case tears =>
    rw [htotal (codeWeight_tear w)]
    exact hinv.tears
  case inside =>
    rw [htotal (codeWeight_inside w)]
    exact hinv.inside
  case unset =>
    rw [htotal (codeWeight_unset w)]
    exact hinv.unset
  case broughtUp =>
    rw [htotal (codeWeight_bringUp w)]
    exact hinv.broughtUp
  case beside =>
    intro j u hj0 hj
    by_cases hlt : j < c.threads.length
    · rw [List.getElem?_append_left hlt] at hj
      exact hinv.beside j u hj0 hj
    · rw [List.getElem?_append_right (by omega)] at hj
      cases List.mem_singleton.1 (List.mem_of_getElem? hj)
      exact (codeWeight_bringUp w).external hexternal
  case phases => exact hinv.phases
  case early =>
    intro hzero hphase
    rcases hinv.early hzero hphase with ⟨hstarted, hsets⟩
    refine ⟨hstarted, fun u hu => ?_⟩
    rw [hold ht] at hu
    cases hu
    exact hsets t ht
  case teardown =>
    intro u hu
    rcases List.mem_append.1 hu with hu | hu
    · exact hinv.teardown u hu
    · cases List.mem_singleton.1 hu
      exact inTeardown_of_free ((codeWeight_tear w).external hexternal)
  case flag => exact hinv.flag
  case final => exact hinv.final
  case main => exact ⟨t, hold ht, fun hfailure => (hmain hfailure).mono hreturned, hended⟩

theorem loopInv_step {w : Wiring} {c d : LifecycleConfig} {m : LifecycleMove}
    (hinv : LoopInv c) (hturn : LoopInTurn c m) (hstep : (workerSystem w).step c m = some d) :
    LoopInv d := by
  cases m with
  | request r =>
      rcases workerSystem_step_request hstep with ⟨hexternal, rfl⟩
      exact loopInv_request hinv hexternal hstep
  | step i out =>
      rcases ThreadMachine.stepThread_eq_some.1 hstep with ⟨op, rest, f, eff, hget, hexec, rfl⟩
      exact loopInv_thread hinv hturn hstep hget hexec

theorem loopInv_init (w : Wiring) : LoopInv (workerSystem w).init := by
  have hfree : ∀ m : Milestone, total m.weight (workerSystem w).init.threads = 0 := by
    intro m
    cases m <;> rfl
  have hnone : ∀ m : Milestone, reached m (workerSystem w).init.shared.log = 0 := fun m => rfl
  constructor
  case one =>
    constructor
    · exact Nat.zero_le _
    · intro h
      cases h
    · intro m
      rw [hfree m, hnone m]
      exact Nat.zero_le _
    · intro h
      cases h
  case tears => exact Nat.le_refl 0
  case inside => exact Nat.le_refl 0
  case unset => rfl
  case broughtUp =>
    intro h
    cases h
  case beside =>
    intro j t hj0 hj
    cases j with
    | zero => exact absurd rfl hj0
    | succ j => cases hj
  case phases => exact fun _ => .inl rfl
  case early =>
    intro _ _
    refine ⟨rfl, fun t ht => ?_⟩
    cases ht
    trivial
  case teardown =>
    intro t ht
    cases List.mem_singleton.1 ht
    exact inTeardown_of_free rfl
  case flag =>
    intro h
    cases h
  case final =>
    intro h
    cases h
  case main =>
    refine ⟨_, rfl, fun _ => ?_, fun h => absurd rfl h⟩
    exact .inl ⟨runBody, [.exceptInterrupt], rfl, .inl rfl, by simp [runBody, isBringUpOp]⟩

/-! ## Runs -/

end Lifecycle
end StrategyWorker
