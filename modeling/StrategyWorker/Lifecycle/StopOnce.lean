import StrategyWorker.Lifecycle.Machine

/-!
# One teardown

The loop of {lit}`WorkerApp`, the coordinator's thread behind
{lit}`POST /internal/v1/stop` and SIGTERM, and {lit}`StopWorker` all end in
{lit}`stop`, whose guard reads {lit}`_shutdown_complete`.  That flag is set
only at the end of the teardown, so the guard keeps out whoever comes after a
teardown, not who comes during one.

Each thing that a teardown does once is a milestone.  What a run has logged of
a milestone and what its threads still hold of it never exceed the number of
teardowns that were entered.

Main results:

- Theorem {lit}`teardown_once`: the runs with one teardown at most.
- Theorem {lit}`sigterm_tears_down_again`: a SIGTERM during a {lit}`StopWorker`
  call enters a second one.
-/

namespace StrategyWorker
namespace Lifecycle

open Domain Library
open ThreadMachine (weigh total)

/-! ## Milestones -/

/-- What a teardown does once. -/
inductive Milestone where
  | shutdownStep (step : ShutdownStep)
  | finalPhase
  | terminatedSignal
  | finalReport
  | completed
  deriving DecidableEq, Repr

/-- The phases that {lit}`stop` ends in. -/
def isFinalPhase (phase : WorkerPhase) : Bool :=
  phase == .stopped || phase == .completed

namespace Milestone

/-- The events of the log that show a milestone. -/
def marks : Milestone → Event → Bool
  | shutdownStep step, .shutdownStep step' => step = step'
  | finalPhase, .phaseSet _ phase => isFinalPhase phase
  | terminatedSignal, .called .emitTerminated _ => true
  | finalReport, .called .reportFinalShutdown _ => true
  | completed, .stopCompleted => true
  | _, _ => false

/-- The operations that will show it. -/
def weight : Milestone → Op → Nat
  | shutdownStep step, .recordShutdown step' => if step = step' then 1 else 0
  | finalPhase, .setPhase phase => if isFinalPhase phase then 1 else 0
  | finalPhase, .writePhase _ phase => if isFinalPhase phase then 1 else 0
  | terminatedSignal, .call .emitTerminated => 1
  | finalReport, .call .reportFinalShutdown => 1
  | completed, .assign (.shutdownComplete true) => 1
  | _, _ => 0

end Milestone

/-- How often a run has logged a milestone. -/
def reached (m : Milestone) (log : List Event) : Nat :=
  log.countP m.marks

def Event.isStopEntered : Event → Bool
  | .stopEntered _ => true
  | _ => false

/-- How many teardowns a run has entered. -/
def entered (log : List Event) : Nat :=
  log.countP Event.isStopEntered

@[simp]
theorem reached_append (m : Milestone) (log log' : List Event) :
    reached m (log ++ log') = reached m log + reached m log' := by
  simp [reached]

@[simp]
theorem entered_append (log log' : List Event) :
    entered (log ++ log') = entered log + entered log' := by
  simp [entered]

/-! ## The bodies -/

attribute [local simp] Milestone.weight Milestone.marks in
theorem milestone_close (m : Milestone) (i : Nat) : m.weight (.call (.closeClient i)) = 0 := by
  cases m <;> rfl

/-- The body of {lit}`stop` holds each milestone once at most. -/
theorem milestone_stopBody (m : Milestone) (w : Wiring) (args : StopArgs) :
    weigh m.weight (stopBody w args) ≤ 1 := by
  have hfinal : isFinalPhase (finalPhase w args) = true := by
    unfold finalPhase
    split <;> rfl
  rw [weigh_stopBody w args (milestone_close m)]
  unfold stopReport
  cases m with
  | shutdownStep step =>
      cases step <;> split <;> simp [stopWork, Milestone.weight]
  | finalPhase =>
      have hstopping : isFinalPhase .stopping = false := rfl
      split <;> simp [stopWork, Milestone.weight, hfinal, hstopping]
  | terminatedSignal | finalReport | completed => split <;> simp [stopWork, Milestone.weight]

theorem milestone_startFailed (m : Milestone) (w : Wiring) (e : Error) :
    weigh m.weight (startFailed w e) = 0 := by
  rw [weigh_startFailed w e (milestone_close m)]
  split <;> cases m <;> simp [Milestone.weight, isFinalPhase]

/-- A handler brings no milestone. -/
theorem milestone_handler {m : Milestone} {w : Wiring} {op : Op} {e : Error} {code : List Op}
    (h : handler w op e = some code) : weigh m.weight code ≤ m.weight op := by
  rcases handler_cases h with ⟨rfl, rfl⟩ | ⟨rfl, rfl⟩ | ⟨rfl, rfl⟩ | ⟨rfl, rfl | rfl⟩ |
    ⟨rfl, rfl⟩ | ⟨rfl, rfl⟩
  · rw [milestone_startFailed]
    exact Nat.zero_le _
  all_goals cases m <;> simp [Milestone.weight]

/-- Stands for no milestone. -/
def idle : Op → Bool
  | .setPhase phase | .writePhase _ phase => !isFinalPhase phase
  | .recordShutdown _ => false
  | .call .emitTerminated | .call .reportFinalShutdown => false
  | .assign (.shutdownComplete true) => false
  | _ => true

theorem weight_of_idle {op : Op} (h : idle op = true) (m : Milestone) : m.weight op = 0 := by
  unfold idle at h
  split at h <;> cases m <;> simp_all [Milestone.weight]

/-- An operation logs no more of a milestone than it stood for. -/
theorem milestone_emits (m : Milestone) (w : Wiring) (s : Service) (out : Outcome) (op : Op) :
    reached m (emits w s out op) ≤ m.weight op := by
  unfold emits
  split
  · split <;> cases m <;> simp [reached, Milestone.marks]
  · cases m <;> simp [reached, Milestone.marks, Milestone.weight]
  · rename_i previous phase
    cases hfinal : isFinalPhase phase <;> cases m <;>
      simp [reached, Milestone.marks, Milestone.weight, hfinal]
  · cases m <;> simp [reached, Milestone.marks]
  · cases m <;> simp [reached, Milestone.marks, Milestone.weight]
  · rename_i c
    split <;> cases m <;> cases c <;> simp [reached, Milestone.marks, Milestone.weight]
  · rename_i i
    unfold ingestEmits
    split <;> (try split) <;> cases m <;> simp [reached, Milestone.marks]
  · cases m <;> simp [reached]

theorem idle_of_control {op : Op} (h : control op = true) : idle op = true := by
  cases op with
  | call c => cases c <;> first | rfl | cases h
  | assign a => cases a <;> first | rfl | cases h
  | _ => first | rfl | cases h

/-- Only {lit}`_set_phase` and the guard of {lit}`stop` push milestones. -/
theorem exec_idle {w : Wiring} {s : Service} {op : Op} {out : Outcome} {eff : LifecycleEffect}
    (h : exec w s op out = some eff) (hop : ∀ q, op ≠ .setPhase q)
    (henter : ∀ args, op = .stopGuard args → s.shutdownComplete = true) :
    ∀ o ∈ eff.pushed, idle o = true := by
  rcases exec_pushed h with ⟨rfl, -, rfl⟩ | ⟨args, rfl, hs, -⟩ | ⟨rfl, -, rfl⟩ | ⟨q, rfl, -⟩ |
    hcontrol
  · simp [Effect.pushed, startBody, idle, isFinalPhase]
  · simp [henter args rfl] at hs
  · simp [Effect.pushed, runReadyBody, idle, isFinalPhase]
  · exact absurd rfl (hop q)
  · exact fun o ho => idle_of_control (hcontrol o ho)

theorem milestone_spawned (m : Milestone) {w : Wiring} {s : Service} {op : Op} {out : Outcome}
    {eff : LifecycleEffect} (h : exec w s op out = some eff) :
    (eff.spawned.map (weigh m.weight)).sum = 0 := by
  rcases exec_spawned h with hnone | ⟨-, hsome⟩
  · simp [hnone]
  · rw [hsome]
    cases m <;> rfl

/--
An operation logs and leaves no more of a milestone than it stood for, unless it enters the
body of {lit}`stop`.
-/
theorem milestone_exec (m : Milestone) {w : Wiring} {s : Service} {op : Op} {out : Outcome}
    {eff : LifecycleEffect} (h : exec w s op out = some eff)
    (henter : ∀ args, op = .stopGuard args → s.shutdownComplete = true) :
    reached m (emits w s out op) + ThreadMachine.leaves m.weight eff ≤ m.weight op := by
  rw [ThreadMachine.leaves, milestone_spawned m h]
  by_cases hset : ∃ q, op = .setPhase q
  · rcases hset with ⟨q, rfl⟩
    cases h
    simp only [Effect.pushed, emits, setPhaseBody]
    split <;> cases m <;> simp [Milestone.weight, reached]
  · have hpushed := exec_idle h (fun q heq => hset ⟨q, heq⟩) henter
    have hweigh : weigh m.weight eff.pushed = 0 :=
      ThreadMachine.weigh_eq_zero fun o ho => weight_of_idle (hpushed o ho) m
    have hemits := milestone_emits m w s out op
    omega

/-! ## Starts that are still under way -/

/-- The operations of {lit}`start`, or of its rollback, that reset {lit}`_shutdown_complete`. -/
def resetWeight : Op → Nat
  | .startGuard => 2
  | .exceptStart => 1
  | .assign (.shutdownComplete false) => 1
  | _ => 0

/-- No operation begins a start that was not there before. -/
theorem codeWeight_reset (w : Wiring) : CodeWeight w resetWeight 0 where
  control op h := by
    cases op with
    | call c => rfl
    | assign a => cases a <;> first | rfl | cases h
    | _ => first | rfl | cases h
  raise e := rfl
  close i := rfl
  start := by simp [startBody, resetWeight]
  ready := by simp [runReadyBody, resetWeight]
  set previous phase := by
    unfold setPhaseBody
    split <;> simp [resetWeight]
  failed e := by
    rw [weigh_startFailed w e fun _ => rfl]
    split <;> simp [resetWeight]
  stop args := by
    rw [weigh_stopBody w args fun _ => rfl]
    unfold stopReport
    split <;> simp [stopWork, resetWeight]

/-! ## Runs -/

def isStopGuard : Op → Bool
  | .stopGuard _ => true
  | _ => false

/--
A caller passes the guard of {lit}`stop` only when every teardown that was entered has set
{lit}`_shutdown_complete`, and no {lit}`start` is under way that would reset it.
-/
def StopsInTurn (c : LifecycleConfig) : LifecycleMove → Prop
  | .request _ => True
  | .step i _ => ∀ op ∈ c.next i, isStopGuard op = true → c.shared.shutdownComplete = false →
      entered c.shared.log = reached .completed c.shared.log ∧ total resetWeight c.threads = 0

instance (c : LifecycleConfig) : (m : LifecycleMove) → Decidable (StopsInTurn c m)
  | .request _ => inferInstanceAs (Decidable True)
  | .step i _ => inferInstanceAs (Decidable (∀ op ∈ c.next i, _))

/-- What holds of a run in which teardowns are entered in turn. -/
structure OneTeardown (c : LifecycleConfig) : Prop where
  once : entered c.shared.log ≤ 1
  settled : entered c.shared.log = 1 → total resetWeight c.threads = 0
  budget : ∀ m : Milestone,
    reached m c.shared.log + total m.weight c.threads ≤ entered c.shared.log
  complete : 0 < reached .completed c.shared.log → c.shared.shutdownComplete = true

/-- Only the guard of {lit}`stop` logs a teardown. -/
theorem entered_emits {w : Wiring} {s : Service} {out : Outcome} {op : Op}
    (henter : ∀ args, op = .stopGuard args → s.shutdownComplete = true) :
    entered (emits w s out op) = 0 := by
  unfold emits
  split <;> (try split) <;> simp_all [entered, Event.isStopEntered]
  rename_i i
  unfold ingestEmits
  split <;> (try split) <;> simp

/-- The completed mark comes with the flag. -/
theorem complete_of_mark {w : Wiring} {s : Service} {op : Op} {out : Outcome}
    {eff : LifecycleEffect} (h : exec w s op out = some eff)
    (hmark : 0 < reached .completed (emits w s out op)) : eff.shared.shutdownComplete = true := by
  have hweight := milestone_emits .completed w s out op
  have hop : op = .assign (.shutdownComplete true) := by
    unfold Milestone.weight at hweight
    split at hweight <;> first | rfl | contradiction | omega
  subst hop
  cases h
  rfl

/-- Only a start resets the flag. -/
theorem complete_kept {w : Wiring} {s : Service} {op : Op} {out : Outcome}
    {eff : LifecycleEffect} (h : exec w s op out = some eff) (hs : s.shutdownComplete = true)
    (hreset : resetWeight op = 0) : eff.shared.shutdownComplete = true := by
  rcases exec_flags h with ⟨p, q, rfl⟩ | ⟨a, rfl⟩ | hsame
  · cases h
    exact hs
  · cases h
    rcases a with v | v | _ | _
    · exact hs
    · cases v
      · cases hreset
      · rfl
    · exact hs
    · exact hs
  · rw [hsame.shutdownComplete, hs]

theorem external_weights {r : Request} (h : r.external = true) :
    weigh resetWeight r.code = 0 ∧ ∀ m : Milestone, weigh m.weight r.code = 0 :=
  ⟨(codeWeight_reset bareWiring).external h,
    fun m => ThreadMachine.weigh_eq_zero fun _ ho =>
      weight_of_idle (idle_of_control (control_of_external h ho)) m⟩

/-- Teardowns entered in turn stay one. -/
theorem oneTeardown_step {w : Wiring} {c d : LifecycleConfig} {m : LifecycleMove}
    (hinv : OneTeardown c) (hturn : StopsInTurn c m)
    (hstep : (workerSystem w).step c m = some d) : OneTeardown d := by
  rcases hinv with ⟨honce, hsettled, hbudget, hcomplete⟩
  cases m with
  | request r =>
      rcases workerSystem_step_request hstep with ⟨hexternal, rfl⟩
      rcases external_weights hexternal with ⟨hreset, hweight⟩
      refine ⟨honce, fun h => ?_, fun m => ?_, hcomplete⟩
      · simp [Thread.fresh, hsettled h, hreset]
      · simpa [Thread.fresh, hweight m] using hbudget m
  | step i out =>
      rcases ThreadMachine.stepThread_eq_some.1 hstep with ⟨op, rest, f, eff, hget, hexec, rfl⟩
      have hexec : exec w c.shared op out = some eff := hexec
      have htotal := fun m : Milestone => ThreadMachine.step_total (M := machine w)
        (fun _ _ _ h => milestone_handler (m := m) h) hget eff
      have hreset := ThreadMachine.step_total (M := machine w)
        (fun _ _ _ h => (codeWeight_reset w).handler h) hget eff
      by_cases henter : ∀ args, op = .stopGuard args → c.shared.shutdownComplete = true
      · -- the teardowns that were entered stay as they are
        have hentered : entered eff.shared.log = entered c.shared.log := by
          rw [exec_log hexec, entered_append, entered_emits henter, Nat.add_zero]
        have hleaves : ThreadMachine.leaves resetWeight eff ≤ resetWeight op := by
          rcases (codeWeight_reset w).exec hexec with hle | ⟨args, rfl, hs, -⟩
          · exact hle
          · simp [henter args rfl] at hs
        refine ⟨?_, ?_, fun m => ?_, ?_⟩
        · exact hentered ▸ honce
        · intro h
          have := hsettled (hentered ▸ h)
          dsimp only
          omega
        · have := milestone_exec m hexec henter
          have := htotal m
          have := hbudget m
          dsimp only
          rw [hentered, exec_log hexec, reached_append]
          omega
        · intro hmarked
          rw [exec_log hexec, reached_append] at hmarked
          by_cases hnew : 0 < reached .completed (emits w c.shared out op)
          · exact complete_of_mark hexec hnew
          · have hold : 0 < reached .completed c.shared.log := by omega
            have hone : entered c.shared.log = 1 := by
              have := hbudget .completed
              omega
            have hle := ThreadMachine.weigh_le_total (w := resetWeight) hget
            have hzero := hsettled hone
            simp only [ThreadMachine.weigh_cons] at hle
            exact complete_kept hexec (hcomplete hold) (by omega)
      · -- a first teardown is entered
        rcases not_forall.1 henter with ⟨args, hguard⟩
        rcases Classical.not_imp.1 hguard with ⟨rfl, hincomplete⟩
        have hfalse : c.shared.shutdownComplete = false := by simpa using hincomplete
        rcases hturn _ (next_eq_some hget) rfl hfalse with ⟨heq, hzero⟩
        have hnone : entered c.shared.log = 0 := by
          by_contra hne
          exact hincomplete (hcomplete (by omega))
        have heff : eff = .next (c.shared.note (.stopEntered args)) (stopBody w args) [] := by
          simpa [exec, hfalse, eq_comm] using hexec
        have hshared : eff.shared = c.shared.note (.stopEntered args) := by
          rw [heff]
          rfl
        have hleaves : ∀ v, ThreadMachine.leaves v eff = weigh v (stopBody w args) := by
          intro v
          simp [heff, ThreadMachine.leaves, Effect.pushed, Effect.spawned]
        have hlog : entered eff.shared.log = 1 := by
          rw [hshared, note_log, entered_append, hnone]
          rfl
        have hmarks : ∀ m : Milestone, reached m eff.shared.log = reached m c.shared.log := by
          intro m
          rw [hshared, note_log, reached_append]
          cases m <;> rfl
        rw [hleaves, Nat.le_zero.1 ((codeWeight_reset w).stop args)] at hreset
        refine ⟨?_, ?_, fun m => ?_, ?_⟩
        · exact Nat.le_of_eq hlog
        · intro _
          dsimp only
          omega
        · have hbody := milestone_stopBody m w args
          have hle := htotal m
          have := hbudget m
          rw [hleaves] at hle
          dsimp only
          rw [hlog, hmarks]
          omega
        · intro h
          have := hbudget .completed
          rw [hmarks] at h
          omega

/--
In a run whose teardowns are entered in turn the body of {lit}`stop` is entered once at
most: each shutdown step is recorded, the final phase set, and the terminated signal and the
final report made at most once.
-/
theorem teardown_once (w : Wiring) (ls : List LifecycleMove) (c : LifecycleConfig)
    (hturn : (workerSystem w).Meets StopsInTurn (workerSystem w).init ls)
    (hrun : (workerSystem w).run (workerSystem w).init ls = some c) :
    entered c.shared.log ≤ 1 ∧ ∀ m : Milestone, reached m c.shared.log ≤ 1 := by
  have hinit : OneTeardown (workerSystem w).init := by
    refine ⟨?_, ?_, fun m => ?_, ?_⟩
    · exact Nat.zero_le _
    · intro h
      cases h
    · cases m <;> exact Nat.le_refl 0
    · intro h
      cases h
  have hinv := TransitionSystem.run_invariant OneTeardown
    (fun _ _ _ hs hC hstep => oneTeardown_step hs hC hstep) hinit hturn hrun
  refine ⟨hinv.once, fun m => ?_⟩
  have := hinv.budget m
  have := hinv.once
  omega

/-- A running worker that is stopped over HTTP is torn down once. -/
theorem teardown_once_http :
    ∃ c ∈ (workerSystem srmWiring).run (workerSystem srmWiring).init
        (steps 0 44 ++ .request .httpStop :: steps 1 9 ++ steps 2 38),
      (entered c.shared.log ≤ 1 ∧ ∀ m : Milestone, reached m c.shared.log ≤ 1) ∧
        c.shared.shutdownComplete = true := by
  have hrun : ∃ c ∈ (workerSystem srmWiring).run (workerSystem srmWiring).init
      (steps 0 44 ++ .request .httpStop :: steps 1 9 ++ steps 2 38),
      c.shared.shutdownComplete = true := by
    decide +kernel
  rcases hrun with ⟨c, hc, hcomplete⟩
  exact ⟨c, hc, teardown_once srmWiring _ c (by decide +kernel) hc, hcomplete⟩

/--
While {lit}`StopWorker` tears the worker down, SIGTERM finds the stop in progress and starts
the coordinator's thread all the same.  Every milestone but the unsent signal comes twice.
-/
theorem sigterm_tears_down_again :
    ∃ c ∈ (workerSystem srmWiring).run (workerSystem srmWiring).init
        (steps 0 44 ++ .request .stopWorker :: steps 1 20 ++ .request .sigterm :: steps 2 8 ++
          steps 3 38 ++ steps 1 26),
      entered c.shared.log = 2 ∧ reached .finalPhase c.shared.log = 2 ∧
        reached .finalReport c.shared.log = 2 ∧
        reached (.shutdownStep .flushDiagnostics) c.shared.log = 2 := by
  decide +kernel

end Lifecycle
end StrategyWorker
