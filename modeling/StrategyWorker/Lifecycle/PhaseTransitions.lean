import StrategyWorker.Lifecycle.Machine

/-!
# The phases that a worker goes through

{lit}`_set_phase` reads the previous phase, writes the new one and hands the
pair to the state journal.  The table of {lit}`runtime_state.py` says which
pairs are allowed, and nothing in the service consults it: whether every pair
is an edge depends on the phase in which the guards of {lit}`start`,
{lit}`stop` and {lit}`run` let a caller through.

{lit}`Safe` follows the phase along the code of one thread, through the
{lit}`except` block of {lit}`start` as well.  It is kept as long as one thread
at a time has phases to write.

Main results:

- Theorem {lit}`transitions_allowed`: the runs in which every pair is an edge.
- Theorem {lit}`restart_resurrects`: a start after a failed one leaves a
  terminal phase.
-/

namespace StrategyWorker
namespace Lifecycle

open Domain Library
open Domain.WorkerPhase (Edge)
open ThreadMachine (weigh total Exclusive)

/-! ## Following the phase along code -/

/-- What an operation has to do with phases. -/
inductive PhaseRole where
  | sets (phase : WorkerPhase)
  | writes (previous phase : WorkerPhase)
  | records (previous phase : WorkerPhase)
  /-- The block that answers an error with {lit}`FAILED`. -/
  | fails
  /-- Any other block that goes on after an error. -/
  | handles
  | plain

def phaseRole : Op → PhaseRole
  | .setPhase phase => .sets phase
  | .writePhase previous phase => .writes previous phase
  | .call (.recordPhaseChange previous phase) => .records previous phase
  | .exceptStart => .fails
  | .exceptRun | .exceptInterrupt | .exceptSigterm | .exceptShutdownThread
  | .releaseStopLock => .handles
  | _ => .plain

attribute [local simp] phaseRole in
theorem phaseRole_eq_sets {op : Op} {phase : WorkerPhase} (h : phaseRole op = .sets phase) :
    op = .setPhase phase := by
  unfold phaseRole at h
  split at h <;> cases h
  rfl

theorem phaseRole_eq_writes {op : Op} {previous phase : WorkerPhase}
    (h : phaseRole op = .writes previous phase) : op = .writePhase previous phase := by
  unfold phaseRole at h
  split at h <;> cases h
  rfl

mutual

/-- Executed from a phase, the code writes and records only edges of the table. -/
def Safe : WorkerPhase → List Op → Prop
  | _, [] => True
  | phase, op :: rest =>
      match phaseRole op with
      | .sets next => Edge phase next ∧ Safe next rest ∧ Caught next rest
      | .writes previous next =>
          previous = phase ∧ Edge previous next ∧ Safe next rest ∧ Caught next rest
      | .records previous next => Edge previous next ∧ Safe phase rest ∧ Caught phase rest
      | _ => Safe phase rest ∧ Caught phase rest

/-- So does the code that an error raised in a phase unwinds to. -/
def Caught : WorkerPhase → List Op → Prop
  | _, [] => True
  | phase, op :: rest =>
      match phaseRole op with
      | .fails => Edge phase .failed ∧ Safe .failed rest ∧ Caught .failed rest ∧ Caught phase rest
      | .handles => Safe phase rest ∧ Caught phase rest
      | _ => Caught phase rest

end

/-- The operations that write a phase, or will after an error. -/
def phaseWeight (op : Op) : Nat :=
  match phaseRole op with
  | .sets _ | .writes _ _ | .fails => 1
  | _ => 0

attribute [local simp] Safe Caught phaseWeight in
@[simp]
theorem safe_nil (phase : WorkerPhase) : Safe phase [] := by
  simp [Safe]

@[simp]
theorem caught_nil (phase : WorkerPhase) : Caught phase [] := by
  simp [Caught]

/-- A plain operation leaves the phase and lets errors through. -/
theorem safe_cons_plain {phase : WorkerPhase} {op : Op} {rest : List Op}
    (h : phaseRole op = .plain) : Safe phase (op :: rest) ↔ Safe phase rest ∧ Caught phase rest := by
  rw [Safe, h]

theorem caught_cons_plain {phase : WorkerPhase} {op : Op} {rest : List Op}
    (h : phaseRole op = .plain) : Caught phase (op :: rest) ↔ Caught phase rest := by
  rw [Caught, h]

theorem safe_setPhase {phase next : WorkerPhase} {rest : List Op} :
    Safe phase (.setPhase next :: rest) ↔ Edge phase next ∧ Safe next rest ∧ Caught next rest := by
  rw [Safe, phaseRole]

theorem caught_setPhase {phase next : WorkerPhase} {rest : List Op} :
    Caught phase (.setPhase next :: rest) ↔ Caught phase rest := by
  rw [Caught, phaseRole]

/-- Code that writes no phase is as good in one phase as in another. -/
theorem safe_of_free {code : List Op} (hfree : weigh phaseWeight code = 0)
    (phase phase' : WorkerPhase) :
    (Safe phase code → Safe phase' code) ∧ (Caught phase code → Caught phase' code) := by
  induction code with
  | nil => simp
  | cons op rest ih =>
      have hop : phaseWeight op = 0 := by simp at hfree; omega
      rcases ih (by simp at hfree; omega) with ⟨ihs, ihc⟩
      unfold phaseWeight at hop
      rw [Safe, Safe, Caught, Caught]
      cases hrole : phaseRole op <;> simp_all

/-- An error raised in safe code unwinds to safe code. -/
theorem caught_of_safe {code : List Op} {phase : WorkerPhase} (h : Safe phase code)
    (hfree : weigh phaseWeight code = 0) : Caught phase code := by
  induction code with
  | nil => simp
  | cons op rest ih =>
      have hop : phaseWeight op = 0 := by simp at hfree; omega
      unfold phaseWeight at hop
      rw [Safe] at h
      rw [Caught]
      cases hrole : phaseRole op <;> simp_all

/-- Plain code can be put before other code. -/
theorem caught_append_plain {code rest : List Op} {phase : WorkerPhase}
    (hplain : ∀ op ∈ code, phaseRole op = .plain) (hc : Caught phase rest) :
    Caught phase (code ++ rest) := by
  induction code with
  | nil => exact hc
  | cons op code ih =>
      have hop := hplain op List.mem_cons_self
      exact (caught_cons_plain hop).2 (ih fun op h => hplain op (List.mem_cons_of_mem _ h))

/-- Neither writes nor records a phase, nor answers an error with one. -/
def neutral (op : Op) : Bool :=
  match phaseRole op with
  | .plain | .handles => true
  | _ => false

/-- Neutral code can be put before safe code. -/
theorem safe_append_neutral {code rest : List Op} {phase : WorkerPhase}
    (hneutral : ∀ op ∈ code, neutral op = true) (hs : Safe phase rest) (hc : Caught phase rest) :
    Safe phase (code ++ rest) ∧ Caught phase (code ++ rest) := by
  induction code with
  | nil => exact ⟨hs, hc⟩
  | cons op code ih =>
      have hop := hneutral op List.mem_cons_self
      rcases ih fun op h => hneutral op (List.mem_cons_of_mem _ h) with ⟨ihs, ihc⟩
      unfold neutral at hop
      rw [List.cons_append, Safe, Caught]
      cases hrole : phaseRole op <;> simp_all

theorem neutral_of_plain {op : Op} (h : phaseRole op = .plain) : neutral op = true := by
  rw [neutral, h]

/-! ## The bodies -/

theorem closeDownstreamClients_plain {w : Wiring} {op : Op} (h : op ∈ closeDownstreamClients w) :
    phaseRole op = .plain := by
  rcases List.mem_map.1 h with ⟨i, -, rfl⟩
  rfl

/-- The rollback writes no phase. -/
theorem rollback_plain {w : Wiring} {e : Error} {op : Op}
    (h : op ∈ rollbackPartialStartup w e ++ [.raise e]) : phaseRole op = .plain := by
  simp only [rollbackPartialStartup, List.mem_append, List.mem_cons] at h
  rcases h with (((rfl | rfl | h) | h) | rfl | h) | h
  all_goals first | rfl | skip
  · cases h
  · exact closeDownstreamClients_plain h
  · split at h <;> rcases h with rfl | rfl | rfl | h <;> first | rfl | cases h
  · rcases h with rfl | h <;> first | rfl | cases h

/-- The {lit}`except` block of {lit}`start` sets {lit}`FAILED` and raises again. -/
theorem safe_startFailed (w : Wiring) (e : Error) {rest : List Op} {phase : WorkerPhase}
    (hedge : Edge phase .failed) (hs : Safe .failed rest) (hc : Caught .failed rest) :
    Safe phase (startFailed w e ++ rest) := by
  have hplain : ∀ op ∈ rollbackPartialStartup w e ++ [.raise e], phaseRole op = .plain :=
    fun op => rollback_plain
  rw [startFailed, List.cons_append, safe_setPhase]
  exact ⟨hedge, safe_append_neutral (fun op h => neutral_of_plain (hplain op h)) hs hc⟩

/-- From {lit}`INITIALIZING`, {lit}`start` goes to {lit}`READY`, and to {lit}`FAILED` from both. -/
theorem safe_startBody {rest : List Op} (hs : ∀ phase, Safe phase rest)
    (hc : ∀ phase, Caught phase rest) :
    Safe .initializing (startBody ++ [.exceptStart] ++ rest) := by
  simp [startBody, Safe, Caught, phaseRole, hs, hc]
  decide

/-- {lit}`stop` goes to {lit}`STOPPING` and from there to its final phase. -/
theorem safe_stopBody (w : Wiring) (args : StopArgs) {rest : List Op} {phase : WorkerPhase}
    (hedge : Edge phase .stopping) (hs : ∀ phase, Safe phase rest)
    (hc : ∀ phase, Caught phase rest) : Safe phase (stopBody w args ++ rest) := by
  have hfinal : Edge .stopping (finalPhase w args) := by
    unfold finalPhase
    split <;> decide
  have hreport : Safe .stopping (stopReport w args ++ rest) := by
    unfold stopReport
    split <;> simp [Safe, Caught, phaseRole, hs, hc, hfinal]
  have hcaught : ∀ phase, Caught phase (closeDownstreamClients w ++ (stopReport w args ++ rest)) := by
    intro phase
    apply caught_append_plain fun op => closeDownstreamClients_plain
    unfold stopReport
    split <;> simp [Caught, phaseRole, hc]
  have hcloses : Safe .stopping (closeDownstreamClients w ++ (stopReport w args ++ rest)) := by
    refine (safe_append_neutral ?_ hreport ?_).1
    · exact fun op h => neutral_of_plain (closeDownstreamClients_plain h)
    · unfold stopReport
      split <;> simp [Caught, phaseRole, hc]
  simp [stopBody, stopWork, Safe, Caught, phaseRole, hedge, hcloses, hcaught]

/-- {lit}`run` goes from {lit}`READY` to {lit}`RUNNING`. -/
theorem safe_runReadyBody {rest : List Op} (hs : ∀ phase, Safe phase rest)
    (hc : ∀ phase, Caught phase rest) : Safe .ready (runReadyBody ++ rest) := by
  simp [runReadyBody, Safe, Caught, phaseRole, hs, hc]
  decide

/-! ## One operation -/

/-- The operations with which a thread comes to have phases to write. -/
def Enters (s : Service) : Op → Prop
  | .startGuard => s.started = false
  | .stopGuard _ => s.shutdownComplete = false
  | .runReady => s.phase = .ready
  | _ => False

instance (s : Service) (op : Op) : Decidable (Enters s op) := by
  unfold Enters
  split <;> infer_instance

/-- The phases in which these operations start from an edge of the table. -/
def EntersFrom (phase : WorkerPhase) : Op → Prop
  | .startGuard => phase = .initializing
  | .stopGuard _ => Edge phase .stopping
  | _ => True

instance (phase : WorkerPhase) (op : Op) : Decidable (EntersFrom phase op) := by
  unfold EntersFrom
  split <;> infer_instance

/-- The handlers other than the one of {lit}`start` write no phase. -/
theorem neutral_handler {w : Wiring} {op : Op} {e : Error} {code : List Op}
    (h : handler w op e = some code) :
    (op = .exceptStart ∧ code = startFailed w e) ∨
      (phaseRole op = .handles ∧ ∀ o ∈ code, neutral o = true) := by
  rcases handler_cases h with hstart | ⟨rfl, rfl⟩ | ⟨rfl, rfl⟩ | ⟨rfl, rfl | rfl⟩ | ⟨rfl, rfl⟩ |
    ⟨rfl, rfl⟩
  · exact .inl hstart
  all_goals exact .inr ⟨rfl, by simp [neutral, phaseRole]⟩

theorem caught_tail {phase : WorkerPhase} {op : Op} {rest : List Op}
    (h : Caught phase (op :: rest)) : Caught phase rest := by
  rw [Caught] at h
  cases hrole : phaseRole op <;> simp_all

/-- An error unwinds to safe code. -/
theorem safe_unwind {w : Wiring} {phase : WorkerPhase} {e : Error} {rest code : List Op}
    (hc : Caught phase rest) (h : (machine w).unwind e rest = some code) : Safe phase code := by
  induction rest with
  | nil => cases h
  | cons op rest ih =>
      simp only [ThreadMachine.unwind, machine] at h
      cases hhandler : handler w op e with
      | none =>
          simp only [hhandler] at h
          exact ih (caught_tail hc) h
      | some handled =>
          simp only [hhandler] at h
          cases h
          rcases neutral_handler hhandler with ⟨rfl, rfl⟩ | ⟨hrole, hneutral⟩
          · rw [Caught, phaseRole] at hc
            exact safe_startFailed w e hc.1 hc.2.1 hc.2.2.1
          · rw [Caught, hrole] at hc
            exact (safe_append_neutral hneutral hc.1 hc.2).1

theorem safe_raise {w : Wiring} {phase : WorkerPhase} {e : Error} {rest : List Op}
    (hc : Caught phase rest) (s : Service) :
    Safe phase ((machine w).resume rest (.raise s e)).code := by
  simp only [ThreadMachine.resume]
  split
  · rename_i code hcode
    exact safe_unwind hc hcode
  · simp

theorem neutral_of_control {op : Op} (h : control op = true) : neutral op = true := by
  cases op with
  | call c => cases c <;> first | rfl | cases h
  | assign a => rfl
  | _ => first | rfl | cases h

/-- Only the guards and {lit}`_set_phase` push code that is not neutral. -/
theorem exec_neutral {w : Wiring} {s : Service} {op : Op} {out : Outcome} {eff : LifecycleEffect}
    (h : exec w s op out = some eff) (hop : ∀ q, op ≠ .setPhase q) (henters : ¬ Enters s op) :
    ∀ o ∈ eff.pushed, neutral o = true := by
  rcases exec_pushed h with ⟨rfl, hs, -⟩ | ⟨args, rfl, hs, -⟩ | ⟨rfl, hs, -⟩ | ⟨q, rfl, -⟩ |
    hcontrol
  · exact absurd hs henters
  · exact absurd hs henters
  · exact absurd hs henters
  · exact absurd rfl (hop q)
  · exact fun o ho => neutral_of_control (hcontrol o ho)

/-- The guards let through to safe bodies. -/
theorem safe_resume_enters {w : Wiring} {s : Service} {op : Op} {rest : List Op} {out : Outcome}
    {eff : LifecycleEffect} (h : exec w s op out = some eff) (hsafe : Safe s.phase (op :: rest))
    (henters : Enters s op) (hfrom : EntersFrom s.phase op)
    (hfree : weigh phaseWeight rest = 0) :
    Safe eff.shared.phase ((machine w).resume rest eff).code := by
  have hplain : phaseRole op = .plain := by
    cases op <;> first | rfl | cases henters
  have hrest : Safe s.phase rest ∧ Caught s.phase rest := (safe_cons_plain hplain).1 hsafe
  have hs : ∀ phase, Safe phase rest := fun phase => (safe_of_free hfree s.phase phase).1 hrest.1
  have hc : ∀ phase, Caught phase rest :=
    fun phase => (safe_of_free hfree s.phase phase).2 hrest.2
  cases op with
  | startGuard =>
      simp only [Enters] at henters
      simp only [EntersFrom] at hfrom
      simp only [exec, henters, Bool.false_eq_true, if_false] at h
      cases h
      simp only [ThreadMachine.resume, Effect.shared, hfrom]
      exact safe_startBody hs hc
  | stopGuard args =>
      simp only [Enters] at henters
      simp only [exec, henters, Bool.false_eq_true, if_false] at h
      cases h
      exact safe_stopBody w args hfrom hs hc
  | runReady =>
      simp only [Enters] at henters
      simp only [exec, henters, if_true] at h
      cases h
      simp only [ThreadMachine.resume, Effect.shared, henters]
      exact safe_runReadyBody hs hc
  | _ => cases henters

/--
An operation leaves its thread safe in the phase it leaves behind, when the guards let
through only from the right phases and only code that has no phase left to write.
-/
theorem safe_resume {w : Wiring} {s : Service} {op : Op} {rest : List Op} {out : Outcome}
    {eff : LifecycleEffect} (h : exec w s op out = some eff) (hsafe : Safe s.phase (op :: rest))
    (henters : Enters s op → EntersFrom s.phase op ∧ weigh phaseWeight rest = 0) :
    Safe eff.shared.phase ((machine w).resume rest eff).code := by
  by_cases henter : Enters s op
  · exact safe_resume_enters h hsafe henter (henters henter).1 (henters henter).2
  by_cases hset : ∃ q, op = .setPhase q
  · rcases hset with ⟨q, rfl⟩
    cases h
    rw [safe_setPhase] at hsafe
    simp only [ThreadMachine.resume, Effect.shared, setPhaseBody]
    split <;> simp [Safe, Caught, phaseRole, hsafe]
  by_cases hwrite : ∃ p q, op = .writePhase p q
  · rcases hwrite with ⟨p, q, rfl⟩
    cases h
    simp only [Safe, phaseRole] at hsafe
    exact hsafe.2.2.1
  -- every other operation keeps the phase and pushes neutral code
  have hphase : eff.shared.phase = s.phase := exec_phase h fun p q heq => hwrite ⟨p, q, heq⟩
  have hrest : Safe s.phase rest ∧ Caught s.phase rest := by
    rw [Safe] at hsafe
    cases hrole : phaseRole op with
    | sets q => exact absurd ⟨q, phaseRole_eq_sets hrole⟩ hset
    | writes p q => exact absurd ⟨p, q, phaseRole_eq_writes hrole⟩ hwrite
    | records p q =>
        rw [hrole] at hsafe
        exact hsafe.2
    | fails | handles | plain =>
        rw [hrole] at hsafe
        exact hsafe
  have hpushed := exec_neutral h (fun q heq => hset ⟨q, heq⟩) henter
  rw [hphase]
  cases eff with
  | next t push spawned =>
      exact (safe_append_neutral hpushed hrest.1 hrest.2).1
  | raise t e => exact safe_raise hrest.2 t

/-! ## Who has phases to write -/

theorem phaseWeight_of_neutral {op : Op} (h : neutral op = true) : phaseWeight op = 0 := by
  unfold neutral at h
  unfold phaseWeight
  split at h <;> simp_all

theorem weigh_of_neutral {code : List Op} (h : ∀ op ∈ code, neutral op = true) :
    weigh phaseWeight code = 0 :=
  ThreadMachine.weigh_eq_zero fun op hop => phaseWeight_of_neutral (h op hop)

/-- A handler adds no phase that its block did not stand for. -/
theorem phaseWeight_handler {w : Wiring} {op : Op} {e : Error} {code : List Op}
    (h : handler w op e = some code) : weigh phaseWeight code ≤ phaseWeight op := by
  rcases neutral_handler h with ⟨rfl, rfl⟩ | ⟨-, hneutral⟩
  · have hrollback : weigh phaseWeight (rollbackPartialStartup w e ++ [.raise e]) = 0 :=
      weigh_of_neutral fun o ho => neutral_of_plain (rollback_plain ho)
    rw [startFailed, ThreadMachine.weigh_cons, hrollback]
    exact Nat.le_refl 1
  · rw [weigh_of_neutral hneutral]
    exact Nat.zero_le _

/-- Code without phases to write gets some only by passing a guard. -/
theorem free_resume {w : Wiring} {s : Service} {op : Op} {rest : List Op} {out : Outcome}
    {eff : LifecycleEffect} (h : exec w s op out = some eff)
    (hfree : weigh phaseWeight (op :: rest) = 0) (henters : ¬ Enters s op) :
    weigh phaseWeight ((machine w).resume rest eff).code = 0 := by
  simp only [ThreadMachine.weigh_cons] at hfree
  have hset : ∀ q, op ≠ .setPhase q := by
    rintro q rfl
    simp [phaseWeight, phaseRole] at hfree
  have hpushed := weigh_of_neutral (exec_neutral h hset henters)
  cases eff with
  | next t push spawned =>
      simp only [Effect.pushed] at hpushed
      rw [ThreadMachine.weigh_resume_next]
      omega
  | raise t e =>
      have hle := ThreadMachine.weigh_resume_raise_le (M := machine w) (w := phaseWeight) (e := e)
        (fun op code => phaseWeight_handler) rest t
      omega

theorem free_spawned {w : Wiring} {s : Service} {op : Op} {out : Outcome} {eff : LifecycleEffect}
    (h : exec w s op out = some eff) {code : List Op} (hcode : code ∈ eff.spawned) :
    weigh phaseWeight code = 0 ∧ ∀ phase, Safe phase code := by
  rcases exec_spawned h with hnone | ⟨-, hsome⟩
  · simp [hnone] at hcode
  · simp only [hsome, List.mem_singleton] at hcode
    subst hcode
    exact ⟨rfl, fun phase => by simp [runShutdown, Safe, Caught, phaseRole]⟩

/-! ## Runs -/

/-- An applied or journaled pair is an edge of the table. -/
def EdgeEvent : Event → Prop
  | .phaseSet previous phase => Edge previous phase
  | .called (.recordPhaseChange previous phase) _ => Edge previous phase
  | _ => True

instance (e : Event) : Decidable (EdgeEvent e) := by
  unfold EdgeEvent
  split <;> infer_instance

/-- Safe code adds only edges to the log. -/
theorem edgeEvent_of_safe {w : Wiring} {s : Service} {op : Op} {rest : List Op} {out : Outcome}
    (hsafe : Safe s.phase (op :: rest)) {e : Event} (he : e ∈ emits w s out op) :
    EdgeEvent e := by
  unfold emits at he
  split at he
  · split at he <;> simp_all [EdgeEvent]
  · simp_all [EdgeEvent]
  · rename_i previous phase
    simp only [Safe, phaseRole] at hsafe
    simp only [List.mem_singleton] at he
    subst he
    exact hsafe.2.1
  · simp_all [EdgeEvent]
  · simp_all [EdgeEvent]
  · rename_i c
    split at he
    · simp only [List.mem_singleton] at he
      subst he
      unfold EdgeEvent
      split
      · rename_i heq
        cases heq
      · rename_i heq
        cases heq
        simp only [Safe, phaseRole] at hsafe
        exact hsafe.1
      · trivial
    · simp only [List.mem_singleton] at he
      subst he
      trivial
  · rename_i i
    cases i <;> simp only [ingestEmits] at he <;> (try split at he) <;> simp_all [EdgeEvent]
  · cases he

/--
When {lit}`start`, {lit}`stop` or {lit}`run` goes on to set phases, it does so from a phase
from which its first one is an edge, and no thread has phases to write by then.
-/
def EntersInTurn (c : LifecycleConfig) : LifecycleMove → Prop
  | .request _ => True
  | .step i _ => ∀ op ∈ c.next i, Enters c.shared op →
      EntersFrom c.shared.phase op ∧ total phaseWeight c.threads = 0

instance (c : LifecycleConfig) : (m : LifecycleMove) → Decidable (EntersInTurn c m)
  | .request _ => inferInstanceAs (Decidable True)
  | .step i _ => inferInstanceAs (Decidable (∀ op ∈ c.next i, _))

/-- What holds of a run in which phases are written in turn. -/
structure InTurn (c : LifecycleConfig) : Prop where
  safe : ∀ t ∈ c.threads, Safe c.shared.phase t.code
  exclusive : Exclusive phaseWeight c.threads
  edges : ∀ e ∈ c.shared.log, EdgeEvent e

/-- The code that serves a request has no phase to write before it passes a guard. -/
theorem request_free (r : Request) :
    weigh phaseWeight r.code = 0 ∧ ∀ phase, Safe phase r.code := by
  have hneutral : ∀ op ∈ r.code, neutral op = true := by
    cases r <;> simp [Request.code, requestHttpStop, initiateStopFromRequest, stopWorker, runBody,
      neutral, phaseRole]
  refine ⟨weigh_of_neutral hneutral, fun phase => ?_⟩
  have hsafe := (safe_append_neutral hneutral (safe_nil phase) (caught_nil phase)).1
  simpa using hsafe

/-- Phases written in turn stay so, and a terminal phase is kept. -/
theorem inTurn_step {w : Wiring} {c d : LifecycleConfig} {m : LifecycleMove} (hinv : InTurn c)
    (hturn : EntersInTurn c m) (hstep : (serviceSystem w).step c m = some d) :
    InTurn d ∧ (c.shared.phase.isTerminalPhase = true → d.shared.phase = c.shared.phase) := by
  cases m with
  | request r =>
      rcases ThreadMachine.system_step_request.1 hstep with ⟨code, hcode, rfl⟩
      cases hcode
      rcases request_free r with ⟨hfree, hsafe⟩
      refine ⟨⟨?_, ?_, hinv.edges⟩, fun _ => rfl⟩
      · intro t ht
        rcases List.mem_append.1 ht with ht | ht
        · exact hinv.safe t ht
        · cases List.mem_singleton.1 ht
          exact hsafe c.shared.phase
      · have hnew : ∀ code ∈ [r.code], weigh phaseWeight code = 0 := by simp [hfree]
        exact hinv.exclusive.append hnew
  | step i out =>
      rcases ThreadMachine.stepThread_eq_some.1 hstep with ⟨op, rest, f, eff, hget, hexec, rfl⟩
      have hexec : exec w c.shared op out = some eff := hexec
      have hturn := hturn op (by simp [next_eq_some hget])
      have hsafe : Safe c.shared.phase (op :: rest) := hinv.safe _ (List.mem_of_getElem? hget)
      have hle := ThreadMachine.weigh_le_total (w := phaseWeight) hget
      simp only [ThreadMachine.weigh_cons] at hle
      have henters : Enters c.shared op →
          EntersFrom c.shared.phase op ∧ weigh phaseWeight rest = 0 := by
        intro h
        exact ⟨(hturn h).1, by have := (hturn h).2; omega⟩
      refine ⟨⟨?_, ?_, ?_⟩, ?_⟩
      · refine ThreadMachine.step_forall _ hinv.safe (safe_resume hexec hsafe henters) ?_ ?_
        · exact fun code hcode => (free_spawned hexec hcode).2 eff.shared.phase
        · -- beside a thread that writes the phase no other one has phases to write
          intro j u hji hj hu
          by_cases hwrite : ∃ p q, op = .writePhase p q
          · rcases hwrite with ⟨p, q, rfl⟩
            have hfree : weigh phaseWeight u.code = 0 := by
              refine (hinv.exclusive i j _ u (Ne.symm hji) hget hj).resolve_left ?_
              simp [phaseWeight, phaseRole]
            exact (safe_of_free hfree c.shared.phase eff.shared.phase).1 hu
          · rw [exec_phase hexec fun p q heq => hwrite ⟨p, q, heq⟩]
            exact hu
      · apply Exclusive.append
        · refine hinv.exclusive.set hget fun hfree => ?_
          by_cases henter : Enters c.shared op
          · refine .inr fun j u _ hj => ?_
            have := ThreadMachine.weigh_le_total (w := phaseWeight) hj
            have := (hturn henter).2
            omega
          · exact .inl (free_resume hexec hfree henter)
        · exact fun code hcode => (free_spawned hexec hcode).1
      · intro e he
        rw [exec_log hexec] at he
        rcases List.mem_append.1 he with he | he
        · exact hinv.edges e he
        · exact edgeEvent_of_safe hsafe he
      · intro hterminal
        apply exec_phase hexec
        rintro p q rfl
        simp only [Safe, phaseRole] at hsafe
        rw [hsafe.1] at hsafe
        exact WorkerPhase.not_edge_of_terminal hterminal hsafe.2.1

/--
In a run whose guards let through in turn, every pair that {lit}`_set_phase` applies or hands
to the journal is an edge of the table, and a terminal phase is never left.
-/
theorem transitions_allowed (w : Wiring) (ls : List LifecycleMove) (c : LifecycleConfig)
    (hturn : (serviceSystem w).Meets EntersInTurn (serviceSystem w).init ls)
    (hrun : (serviceSystem w).run (serviceSystem w).init ls = some c) :
    (∀ e ∈ c.shared.log, EdgeEvent e) ∧
      ∀ before after d, ls = before ++ after →
        (serviceSystem w).run (serviceSystem w).init before = some d →
        d.shared.phase.isTerminalPhase = true → c.shared.phase = d.shared.phase := by
  have hinit : InTurn (serviceSystem w).init :=
    ⟨by simp [serviceSystem, ThreadMachine.system],
      fun i j t u _ h => by simp [serviceSystem, ThreadMachine.system] at h,
      by simp [serviceSystem, ThreadMachine.system, Service.new]⟩
  constructor
  · have := TransitionSystem.run_invariant InTurn
      (fun s l t hs hC hstep => (inTurn_step hs hC hstep).1) hinit hturn hrun
    exact this.edges
  · intro before after d hls hbefore hterminal
    subst hls
    rcases TransitionSystem.meets_append.1 hturn with ⟨hmeets, hafter⟩
    have hd := TransitionSystem.run_invariant InTurn
      (fun s l t hs hC hstep => (inTurn_step hs hC hstep).1) hinit hmeets hbefore
    rw [TransitionSystem.run_append, hbefore] at hrun
    have hkept := TransitionSystem.run_invariant
      (fun e => InTurn e ∧ e.shared.phase = d.shared.phase)
      (fun s l t hs hC hstep => by
        rcases inTurn_step hs.1 hC hstep with ⟨hinv, hphase⟩
        exact ⟨hinv, (hphase (by rw [hs.2, hterminal])).trans hs.2⟩)
      ⟨hd, rfl⟩ (hafter d hbefore) hrun
    exact hkept.2

/-- A worker that is run and then stopped as completed keeps to the table. -/
theorem transitions_allowed_run_then_stop :
    ∃ c ∈ (serviceSystem bareWiring).run (serviceSystem bareWiring).init
        (.request .run :: steps 0 43 ++ .request (.stop jobCompletedArgs) :: steps 1 38),
      (∀ e ∈ c.shared.log, EdgeEvent e) ∧ c.shared.phase = .completed := by
  have hrun : ∃ c ∈ (serviceSystem bareWiring).run (serviceSystem bareWiring).init
      (.request .run :: steps 0 43 ++ .request (.stop jobCompletedArgs) :: steps 1 38),
      c.shared.phase = .completed := by
    decide +kernel
  rcases hrun with ⟨c, hc, hphase⟩
  exact ⟨c, hc, (transitions_allowed bareWiring _ c (by decide +kernel) hc).1, hphase⟩

/-- A start after a failed one goes from {lit}`FAILED`, a terminal phase, to {lit}`READY`. -/
theorem restart_resurrects :
    ∃ c ∈ (serviceSystem bareWiring).run (serviceSystem bareWiring).init
        (.request .start :: steps 0 3 ++ raises 0 :: steps 0 11 ++ .request .start :: steps 1 25),
      .phaseSet .failed .ready ∈ c.shared.log ∧ ¬ Edge .failed .ready := by
  decide +kernel

end Lifecycle
end StrategyWorker
