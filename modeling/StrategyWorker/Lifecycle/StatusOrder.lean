import StrategyWorker.Lifecycle.Background

/-!
# The order of the reported statuses

{lit}`emit_periodic_heartbeat` checks {lit}`_shutdown_in_progress` and the
phase, and then reports; {lit}`initiate_stop_from_request` reports
{lit}`STOPPING` and then raises the flag; {lit}`start` reports its success
without a check.  A report that has been checked for before a stop can follow
the {lit}`STOPPING` of that stop.

Main results:

- Theorem {lit}`status_monotone`: the runs in which no {lit}`READY` or
  {lit}`RUNNING` follows a {lit}`STOPPING` or a final status.
- Theorem {lit}`running_after_stopping`: a run in which one does.
-/

namespace StrategyWorker
namespace Lifecycle

open Domain Library
open ThreadMachine (weigh total OnlyIn)

/-! ## Statuses -/

def isUpPhase (phase : WorkerPhase) : Bool :=
  phase = .ready || phase = .running

def isDownPhase (phase : WorkerPhase) : Bool :=
  phase = .stopping || phase = .stopped || phase = .failed || phase = .completed

namespace SentStatus

/-- {lit}`READY` or {lit}`RUNNING`. -/
def isUp : SentStatus → Bool
  | heartbeat localState => isUpPhase localState
  | update localState => isUpPhase localState
  | bootstrapSuccess => true
  | _ => false

/-- {lit}`STOPPING` or final. -/
def isDown : SentStatus → Bool
  | heartbeat localState => isDownPhase localState
  | update localState => isDownPhase localState
  | stopping => true
  | finalShutdown => true
  | _ => false

end SentStatus

/-- No {lit}`READY` or {lit}`RUNNING` after a {lit}`STOPPING` or a final status. -/
def StatusMonotone (sent : List SentStatus) : Prop :=
  sent.Pairwise fun earlier later => earlier.isDown = true → later.isUp = false

instance (sent : List SentStatus) : Decidable (StatusMonotone sent) :=
  inferInstanceAs (Decidable (List.Pairwise _ _))

/-- A {lit}`STOPPING` or a final status has been reported. -/
def WentDown (sent : List SentStatus) : Prop :=
  ∃ status ∈ sent, status.isDown = true

instance (sent : List SentStatus) : Decidable (WentDown sent) :=
  inferInstanceAs (Decidable (∃ status ∈ sent, _))

theorem statusMonotone_append {sent : List SentStatus} {status : SentStatus}
    (h : StatusMonotone sent) (hup : status.isUp = true → ¬ WentDown sent) :
    StatusMonotone (sent ++ [status]) := by
  refine List.pairwise_append.2 ⟨h, List.pairwise_singleton _ _, ?_⟩
  intro earlier hearlier later hlater hdown
  obtain rfl := List.mem_singleton.1 hlater
  by_contra hlater
  exact hup (by simpa using hlater) ⟨earlier, hearlier, hdown⟩

theorem wentDown_append {sent : List SentStatus} {status : SentStatus}
    (h : WentDown (sent ++ [status])) : WentDown sent ∨ status.isDown = true := by
  rcases h with ⟨s, hs, hdown⟩
  rcases List.mem_append.1 hs with hs | hs
  · exact .inl ⟨s, hs, hdown⟩
  · obtain rfl := List.mem_singleton.1 hs
    exact .inr hdown

/-! ## Reports that are on their way -/

/-- The operations between the check that lets an up status through and its report; a startup is
let through by its guard. -/
def upWeight : WorkerOp → Nat
  | .inl .startGuard => 1
  | .inl (.call .reportBootstrapSuccess) => 1
  | .inr (.heartbeat .checkDependencies) => 1
  | .inr (.heartbeat .checkPhase) => 1
  | .inr (.heartbeat .readPhase) => 1
  | .inr (.heartbeat (.send localState)) => if isUpPhase localState then 1 else 0
  | _ => 0

/-- The status that an operation reports. -/
def reports (w : Wiring) (s : Worker) (out : Outcome) : WorkerOp → List SentStatus
  | .inl op => sends w s.1 out op
  | .inr (.heartbeat (.send localState)) => if out.delivered then [.heartbeat localState] else []
  | .inr _ => []

/--
{lit}`STOPPING` and the final statuses are reported only when no heartbeat is between its check
of {lit}`_shutdown_in_progress` and its report and no startup has its success to report.  No
heartbeat finds the flag down after such a report.
-/
def ReportsInTurn (w : Wiring) (c : WorkerConfig) : LifecycleMove → Prop
  | .request _ => True
  | .step i out => ∀ op ∈ c.next i,
      (WentDown (reports w c.shared out op) → total upWeight c.threads = 0) ∧
      (op = .inr (.heartbeat .checkShutdown) → c.shared.1.shutdownInProgress = false →
        ¬ WentDown c.shared.2.sent)

instance (w : Wiring) (c : WorkerConfig) : (m : LifecycleMove) → Decidable (ReportsInTurn w c m)
  | .request _ => inferInstanceAs (Decidable True)
  | .step i _ => inferInstanceAs (Decidable (∀ op ∈ c.next i, _))

attribute [local simp] upWeight in
theorem layerWeight_up (w : Wiring) : LayerWeight w upWeight 0 where
  base := {
    control := fun op h => by
      cases op with
      | call c => cases c <;> first | rfl | cases h
      | _ => first | rfl | cases h
    raise := fun e => rfl
    close := fun i => rfl
    start := by simp [startBody, upWeight]
    ready := by simp [runReadyBody, upWeight]
    set := fun previous phase => by
      unfold setPhaseBody
      split <;> simp [upWeight]
    failed := fun e => by
      rw [weigh_startFailed w e fun _ => rfl]
      split <;> simp [upWeight]
    stop := fun args => by
      rw [weigh_stopBody w args fun _ => rfl]
      unfold stopReport
      split <;> simp [stopWork, upWeight] }
  lower op := by
    cases op with
    | call c => cases c <;> rfl
    | _ => rfl

section

variable {w : Wiring} {configured : Feed → Bool}

/-- Only the check of a heartbeat lets a report on its way. -/
theorem upWeight_exec {s : Worker} {op : WorkerOp} {out : Outcome} {eff : WorkerEffect}
    (h : (background w configured).machine.exec s op out = some eff)
    (hcheck : op = .inr (.heartbeat .checkShutdown) → s.1.shutdownInProgress = true) :
    ThreadMachine.leaves upWeight eff ≤ upWeight op := by
  cases op with
  | inl op =>
      rcases (layerWeight_up w).exec_base h with hle | ⟨-, -, -, hle⟩
      · exact hle
      · exact hle.trans (Nat.zero_le _)
  | inr own =>
      have h : execOwn w configured s own out = some eff := h
      cases own with
      | heartbeat step =>
          obtain rfl := Option.some.inj h
          cases step with
          | checkShutdown => simp [execHeartbeat, hcheck rfl, ThreadMachine.leaves, Effect.pushed,
              Effect.spawned]
          | send localState =>
              simp only [execHeartbeat]
              split <;> simp [ThreadMachine.leaves, Effect.pushed, Effect.spawned]
          | readPhase =>
              simp only [execHeartbeat, ThreadMachine.leaves, Effect.pushed, Effect.spawned,
                upWeight, ThreadMachine.weigh_cons]
              split <;> simp
          | _ =>
              simp only [execHeartbeat]
              split <;> simp [ThreadMachine.leaves, Effect.pushed, Effect.spawned, upWeight]
      | jobs step =>
          have hzero : ThreadMachine.leaves upWeight eff = 0 := by
            cases step <;> simp only [execOwn, execJobs] at h <;> (repeat' split at h) <;>
              cases h <;> simp [ThreadMachine.leaves, Effect.pushed, Effect.spawned, upWeight]
          rw [hzero]
          exact Nat.zero_le _
      | feed f step =>
          have hzero : ThreadMachine.leaves upWeight eff = 0 := by
            cases step <;> simp only [execOwn, execFeed] at h <;> (repeat' split at h) <;>
              cases h <;> simp [ThreadMachine.leaves, Effect.pushed, Effect.spawned, upWeight]
          rw [hzero]
          exact Nat.zero_le _

/-- What a step records. -/
theorem exec_sent {s : Worker} {op : WorkerOp} {out : Outcome} {eff : WorkerEffect}
    (h : (background w configured).machine.exec s op out = some eff) :
    eff.shared.2.sent = s.2.sent ++ reports w s out op := by
  cases op with
  | inl op =>
      rcases MachineLayer.exec_base_eq_some.1 h with ⟨below, -, rfl⟩
      rw [MachineLayer.shared_lift]
      rfl
  | inr own =>
      have h : execOwn w configured s own out = some eff := h
      cases own with
      | heartbeat step =>
          obtain rfl := Option.some.inj h
          cases step <;> simp only [execHeartbeat, reports] <;> (repeat' split) <;>
            simp_all [Effect.shared]
      | jobs step =>
          cases step <;> simp only [execOwn, execJobs] at h <;> (repeat' split at h) <;>
            cases h <;> simp [Effect.shared, reports]
      | feed f step =>
          cases step <;> simp only [execOwn, execFeed] at h <;> (repeat' split at h) <;>
            cases h <;> simp [Effect.shared, reports, Background.setFeed]

/-- An operation makes one report at most. -/
theorem reports_length (w : Wiring) (s : Worker) (out : Outcome) (op : WorkerOp) :
    reports w s out op = [] ∨ ∃ status, reports w s out op = [status] := by
  unfold reports sends
  repeat' split
  all_goals try simp
  rename_i c _
  cases c <;> simp [statusOf]

/-- An up status on its way weighs something; the one of {lit}`_set_phase` is up only in an up
phase. -/
theorem upWeight_of_isUp {s : Worker} {out : Outcome} {op : WorkerOp} {status : SentStatus}
    (h : status ∈ reports w s out op) (hup : status.isUp = true) :
    0 < upWeight op ∨ op = .inl (.call .emitFailedStatus) ∧ isUpPhase s.1.phase = true := by
  unfold reports at h
  split at h
  · rename_i op
    unfold sends at h
    split at h
    · rename_i c
      split at h
      · cases c <;> simp only [statusOf, List.mem_singleton, List.not_mem_nil] at h
        · exact .inl Nat.one_pos
        · subst h
          exact .inr ⟨rfl, hup⟩
        all_goals subst h; cases hup
      · cases h
    · cases h
  · rename_i localState
    split at h
    · obtain rfl := List.mem_singleton.1 h
      left
      simp only [SentStatus.isUp] at hup
      simp [upWeight, hup]
    · cases h
  · cases h

end

/-! ## The report of a failure -/

/-- {lit}`self._phase = WorkerPhase.FAILED`. -/
def SetsFailed (op : WorkerOp) : Prop :=
  ∃ previous, op = .inl (.writePhase previous .failed)

/-- The report of {lit}`FAILED` comes right after the phase was set, or the phase is not up. -/
def Announced (calm : Prop) : List WorkerOp → Prop
  | [] => True
  | op :: rest => (op = .inl (.call .emitFailedStatus) → calm) ∧ Announced (SetsFailed op) rest

theorem Announced.mono {calm calm' : Prop} {code : List WorkerOp} (h : Announced calm code)
    (himp : calm → calm') : Announced calm' code := by
  cases code with
  | nil => trivial
  | cons op rest => exact ⟨fun hop => himp (h.1 hop), h.2⟩

theorem announced_of_free {code : List WorkerOp} (calm : Prop)
    (hfree : ∀ op ∈ code, op ≠ .inl (.call .emitFailedStatus)) : Announced calm code := by
  induction code generalizing calm with
  | nil => trivial
  | cons op rest ih =>
      refine ⟨fun hop => absurd hop (hfree op List.mem_cons_self), ih _ ?_⟩
      exact fun o ho => hfree o (List.mem_cons_of_mem _ ho)

theorem Announced.append {calm : Prop} {code rest : List WorkerOp} (h : Announced calm code)
    (hrest : Announced False rest) : Announced calm (code ++ rest) := by
  induction code generalizing calm with
  | nil => exact hrest.mono False.elim
  | cons op code ih => exact ⟨h.1, ih h.2⟩

section

variable {w : Wiring} {configured : Feed → Bool}

/-- What the code of the service does not hold is not in it when it is lowered. -/
theorem lowerAll_free {code : List Op} (h : ∀ op ∈ code, op ≠ .call .emitFailedStatus) :
    ∀ op ∈ (background w configured).lowerAll code, op ≠ .inl (.call .emitFailedStatus) := by
  intro op hop heq
  rcases List.mem_map.1 hop with ⟨below, hbelow, hlower⟩
  have hlower : lower below = .inl (.call .emitFailedStatus) := hlower.trans heq
  apply h below hbelow
  unfold lower at hlower
  split at hlower <;> cases hlower
  rfl

theorem startFailed_free (e : Error) : ∀ op ∈ startFailed w e, op ≠ .call .emitFailedStatus := by
  intro op hop heq
  subst heq
  simp only [startFailed, rollbackPartialStartup, closeDownstreamClients] at hop
  split at hop <;> simp at hop

/-- No handler reports a failure, and none stands in for the write of a phase. -/
theorem handler_announced {op : WorkerOp} {e : Error} {code : List WorkerOp}
    (h : (background w configured).machine.handler op e = some code) :
    Announced False code ∧ ¬ SetsFailed op := by
  cases op with
  | inl op =>
      rcases MachineLayer.handler_base_eq_some.1 h with ⟨below, hbelow, rfl⟩
      have hbelow : handler w op e = some below := hbelow
      refine ⟨announced_of_free _ (lowerAll_free ?_), ?_⟩
      · rcases handler_cases hbelow with ⟨-, rfl⟩ | ⟨-, rfl⟩ | ⟨-, rfl⟩ | ⟨-, rfl | rfl⟩ |
          ⟨-, rfl⟩ | ⟨-, rfl⟩
        · exact startFailed_free e
        all_goals simp
      · rintro ⟨previous, heq⟩
        cases heq
        cases hbelow
  | inr own =>
      refine ⟨announced_of_free _ fun o ho => ?_, fun ⟨previous, heq⟩ => by cases heq⟩
      have hnil : code = [] := by
        have hcode : ownHandler own e = some code := h
        unfold ownHandler at hcode
        split at hcode <;> simp_all
      subst hnil
      cases ho

theorem announced_unwind {e : Error} {rest code : List WorkerOp} {calm : Prop}
    (hrest : Announced calm rest)
    (h : (background w configured).machine.unwind e rest = some code) : Announced False code := by
  induction rest generalizing calm with
  | nil => cases h
  | cons op rest ih =>
      unfold ThreadMachine.unwind at h
      split at h
      · rename_i handled hhandled
        cases h
        rcases handler_announced hhandled with ⟨hcode, hsets⟩
        exact hcode.append (hrest.2.mono hsets)
      · exact ih hrest.2 h

/-- What an operation pushes reports a failure only behind the phase. -/
theorem announced_pushed {s : Worker} {op : WorkerOp} {out : Outcome} {eff : WorkerEffect}
    (h : (background w configured).machine.exec s op out = some eff) :
    Announced False eff.pushed := by
  cases op with
  | inr own =>
      apply announced_of_free
      intro o ho heq
      rcases exec_own_codes h (.inl rfl) ho with ⟨next, rfl⟩
      cases heq
  | inl op =>
      rcases MachineLayer.exec_base_eq_some.1 h with ⟨below, hbelow, rfl⟩
      rw [MachineLayer.pushed_lift]
      have hfree : (∀ o ∈ below.pushed, o ≠ .call .emitFailedStatus) →
          Announced False ((background w configured).lowerAll below.pushed) :=
        fun hfree => announced_of_free _ (lowerAll_free hfree)
      rcases exec_pushed hbelow with ⟨-, -, rfl⟩ | ⟨args, -, -, rfl⟩ | ⟨-, -, rfl⟩ |
        ⟨phase, -, rfl⟩ | hcontrol
      · exact hfree (by simp [Effect.pushed, startBody])
      · refine hfree ?_
        intro o ho heq
        subst heq
        simp only [Effect.pushed, stopBody, stopWork, stopReport, closeDownstreamClients] at ho
        split at ho <;> simp at ho
      · exact hfree (by simp [Effect.pushed, runReadyBody])
      · -- the write and the report stand next to each other
        simp only [Effect.pushed, setPhaseBody]
        split
        · rename_i hfailed
          subst hfailed
          simp [Announced, SetsFailed, background, lower]
        · simp [Announced, background, lower]
      · refine hfree fun o ho heq => ?_
        subst heq
        cases hcontrol _ ho

theorem exec_phase_layer {s : Worker} {op : WorkerOp} {out : Outcome} {eff : WorkerEffect}
    (h : (background w configured).machine.exec s op out = some eff) :
    (∃ previous phase, op = .inl (.writePhase previous phase) ∧ eff.shared.1.phase = phase) ∨
      eff.shared.1.phase = s.1.phase := by
  cases op with
  | inr own =>
      rcases exec_own_same h with ⟨log, stop, heq⟩
      exact .inr (by rw [heq])
  | inl op =>
      rcases MachineLayer.exec_base_eq_some.1 h with ⟨below, hbelow, rfl⟩
      rw [MachineLayer.shared_lift]
      by_cases hwrite : ∃ p q, op = .writePhase p q
      · rcases hwrite with ⟨p, q, rfl⟩
        cases hbelow
        exact .inl ⟨p, q, rfl, rfl⟩
      · exact .inr (exec_phase hbelow fun p q heq => hwrite ⟨p, q, heq⟩)

/-- The code of a thread stays so through its own steps. -/
theorem announced_resume {s : Worker} {op : WorkerOp} {rest : List WorkerOp} {out : Outcome}
    {eff : WorkerEffect} (h : (background w configured).machine.exec s op out = some eff)
    {calm : Prop} (hcode : Announced calm (op :: rest)) :
    Announced (isUpPhase eff.shared.1.phase = false)
      ((background w configured).machine.resume rest eff).code := by
  cases eff with
  | raise t e =>
      simp only [ThreadMachine.resume]
      split
      · rename_i code hunwind
        exact (announced_unwind hcode.2 hunwind).mono False.elim
      · trivial
  | next t push codes =>
      by_cases hsets : SetsFailed op
      · rcases hsets with ⟨previous, rfl⟩
        rcases MachineLayer.exec_base_eq_some.1 h with ⟨below, hbelow, heff⟩
        cases hbelow
        cases heff
        exact hcode.2.mono fun _ => rfl
      · have hrest : Announced False rest := hcode.2.mono hsets
        have hpushed : Announced False push := announced_pushed h
        exact (hpushed.append hrest).mono False.elim

end

/-! ## What only the main thread does -/

/-- The operations that set {lit}`READY` or {lit}`RUNNING` or report a failure. -/
def startupWeight : WorkerOp → Nat
  | .inl .startGuard => 2
  | .inl .exceptStart => 1
  | .inl .runReady => 1
  | .inl (.setPhase phase) => if isUpPhase phase || phase = .failed then 1 else 0
  | .inl (.writePhase _ phase) => if isUpPhase phase then 1 else 0
  | .inl (.call .emitFailedStatus) => 1
  | _ => 0

attribute [local simp] startupWeight in
theorem layerWeight_startup (w : Wiring) : LayerWeight w startupWeight 0 where
  base := {
    control := fun op h => by
      cases op with
      | call c => cases c <;> first | rfl | cases h
      | _ => first | rfl | cases h
    raise := fun e => rfl
    close := fun i => rfl
    start := by simp [startBody, startupWeight, isUpPhase]
    ready := by simp [runReadyBody, startupWeight, isUpPhase]
    set := fun previous phase => by
      unfold setPhaseBody
      cases phase <;> simp [startupWeight, isUpPhase]
    failed := fun e => by
      rw [weigh_startFailed w e fun _ => rfl]
      split <;> simp [startupWeight]
    stop := fun args => by
      rw [weigh_stopBody w args fun _ => rfl]
      unfold stopReport finalPhase
      split <;> split <;> simp [stopWork, startupWeight, isUpPhase] }
  lower op := by
    cases op with
    | call c => cases c <;> rfl
    | _ => rfl

/-- Code without weight reports no failure. -/
theorem announced_of_weightless {code : List WorkerOp} (calm : Prop)
    (h : weigh startupWeight code = 0) : Announced calm code := by
  apply announced_of_free
  intro op hop heq
  subst heq
  induction code with
  | nil => cases hop
  | cons o code ih =>
      rw [ThreadMachine.weigh_cons] at h
      rcases List.mem_cons.1 hop with rfl | hop
      · have hone : startupWeight (.inl (.call .emitFailedStatus)) = 1 := rfl
        omega
      · exact ih (by omega) hop

/-! ## Runs -/

/-- What holds of a run that reports in turn. -/
structure StatusInv (c : WorkerConfig) : Prop where
  monotone : StatusMonotone c.shared.2.sent
  clear : WentDown c.shared.2.sent → total upWeight c.threads = 0
  beside : OnlyIn 0 startupWeight c.threads
  announced : ∀ t ∈ c.threads, Announced (isUpPhase c.shared.1.phase = false) t.code

section

variable {w : Wiring} {configured : Feed → Bool}

theorem startupWeight_exec {s : Worker} {op : WorkerOp} {out : Outcome} {eff : WorkerEffect}
    (h : (background w configured).machine.exec s op out = some eff) :
    ThreadMachine.leaves startupWeight eff ≤ startupWeight op ∧
      ∀ code ∈ eff.spawned, weigh startupWeight code = 0 := by
  cases op with
  | inl op =>
      refine ⟨?_, fun code hcode => (layerWeight_startup w).spawned_base h hcode⟩
      rcases (layerWeight_startup w).exec_base h with hle | ⟨-, -, -, hle⟩
      · exact hle
      · exact hle.trans (Nat.zero_le _)
  | inr own =>
      have hzero := LayerWeight.leaves_own (v := startupWeight) (fun _ => rfl) h
      refine ⟨by omega, fun code hcode => ?_⟩
      have hle := ThreadMachine.weigh_spawned_le (w := startupWeight) hcode
      omega

/-- A step of a thread keeps the invariant. -/
theorem statusInv_thread {c : WorkerConfig} {i : Nat} {out : Outcome} {op : WorkerOp}
    {rest : List WorkerOp} {f : Option Error} {eff : WorkerEffect} (hinv : StatusInv c)
    (hturn : ReportsInTurn w c (.step i out)) (hget : c.threads[i]? = some ⟨op :: rest, f⟩)
    (hexec : (background w configured).machine.exec c.shared op out = some eff) :
    StatusInv ⟨eff.shared, c.threads.set i ((background w configured).machine.resume rest eff) ++
      eff.spawned.map .fresh⟩ := by
  rcases hinv with ⟨hmonotone, hclear, hbeside, hannounced⟩
  rcases hturn op (WorkerConfig.next_eq_some hget) with ⟨hdown, hcheck⟩
  have hself := hannounced _ (List.mem_of_getElem? hget)
  have hle := ThreadMachine.weigh_le_total (w := upWeight) hget
  simp only [ThreadMachine.weigh_cons] at hle
  -- an up status comes from an operation that weighs something
  have hup : ∀ status ∈ reports w c.shared out op, status.isUp = true →
      ¬ WentDown c.shared.2.sent := by
    intro status hstatus hisUp hwent
    have hzero := hclear hwent
    rcases upWeight_of_isUp hstatus hisUp with hpos | ⟨rfl, hphase⟩
    · omega
    · have hcalm := hself.1 rfl
      simp [hphase] at hcalm
  have htotal := ThreadMachine.step_total (M := (background w configured).machine)
    (fun o e code => (layerWeight_up w).handler o e code) hget eff
  have hstartup := startupWeight_exec hexec
  refine ⟨?_, ?_, ?_, ?_⟩
  · rw [exec_sent hexec]
    rcases reports_length w c.shared out op with hnone | ⟨status, hone⟩
    · rwa [hnone, List.append_nil]
    · rw [hone] at hup ⊢
      exact statusMonotone_append hmonotone (hup status (List.mem_singleton_self _))
  · intro hwent
    rw [exec_sent hexec] at hwent
    -- the total was used up before, and the operation leaves nothing
    have hzero : total upWeight c.threads = 0 := by
      rcases reports_length w c.shared out op with hnone | ⟨status, hone⟩
      · rw [hnone, List.append_nil] at hwent
        exact hclear hwent
      · rw [hone] at hwent hdown
        rcases wentDown_append hwent with hwent | hisDown
        · exact hclear hwent
        · exact hdown ⟨status, List.mem_singleton_self _, hisDown⟩
    have hleaves : ThreadMachine.leaves upWeight eff ≤ upWeight op := by
      apply upWeight_exec hexec
      rintro rfl
      have hnone : reports w c.shared out (.inr (.heartbeat .checkShutdown)) = [] := rfl
      rw [hnone, List.append_nil] at hwent
      by_contra hflag
      exact hcheck rfl (by simpa using hflag) hwent
    simp only
    omega
  · exact hbeside.step (fun o e code => (layerWeight_startup w).handler o e code) hget hstartup.1
      hstartup.2
  · intro t ht
    rcases List.mem_iff_getElem?.1 ht with ⟨j, hj⟩
    rcases ThreadMachine.getElem?_after hget hj with ⟨rfl, rfl⟩ | ⟨hji, hold⟩ |
      ⟨-, code, hcode, rfl⟩
    · exact announced_resume hexec hself
    · have hother := hannounced t (List.mem_of_getElem? hold)
      rcases exec_phase_layer hexec with ⟨previous, phase, rfl, hphase⟩ | hphase
      · cases hisUp : isUpPhase phase with
        | false => exact hother.mono fun _ => by rw [hphase, hisUp]
        | true =>
            -- only the main thread sets an up phase
            have hi : i = 0 := by
              by_contra hi
              have hzero := hbeside i _ hi hget
              simp [startupWeight, hisUp] at hzero
            subst hi
            exact announced_of_weightless _ (hbeside j t hji hold)
      · rw [hphase]
        exact hother
    · exact announced_of_weightless _ (hstartup.2 code hcode)

theorem statusInv_step {c d : WorkerConfig} {m : LifecycleMove} (hinv : StatusInv c)
    (hturn : ReportsInTurn w c m) (hstep : (backgroundSystem w configured).step c m = some d) :
    StatusInv d := by
  cases m with
  | request r =>
      rcases ThreadMachine.system_step_request.1 hstep with ⟨code, hcode, rfl⟩
      split at hcode
      · rename_i hbesideMain
        cases hcode
        have hup : weigh upWeight ((background w configured).lowerAll r.code) = 0 :=
          (layerWeight_up w).request hbesideMain
        have hstartup : weigh startupWeight ((background w configured).lowerAll r.code) = 0 :=
          (layerWeight_startup w).request hbesideMain
        refine ⟨hinv.monotone, fun hwent => ?_, hinv.beside.append hstartup, ?_⟩
        · simp [Thread.fresh, hinv.clear hwent, hup]
        · intro t ht
          rcases List.mem_append.1 ht with ht | ht
          · exact hinv.announced t ht
          · obtain rfl := List.mem_singleton.1 ht
            exact announced_of_weightless _ hstartup
      · cases hcode
  | step i out =>
      rcases ThreadMachine.stepThread_eq_some.1 hstep with ⟨op, rest, f, eff, hget, hexec, rfl⟩
      exact statusInv_thread hinv hturn hget hexec

theorem statusInv_init : StatusInv (backgroundSystem w configured).init where
  monotone := List.Pairwise.nil
  clear := by
    rintro ⟨status, hstatus, -⟩
    cases hstatus
  beside := by
    intro j t hj ht
    cases j with
    | zero => exact absurd rfl hj
    | succ j => simp [backgroundSystem, ThreadMachine.system] at ht
  announced := by
    intro t ht
    obtain rfl := List.mem_singleton.1 ht
    apply announced_of_free
    apply lowerAll_free
    decide

end

/-- A worker with a runtime manager and the heartbeat job. -/
def heartbeatWiring : Wiring :=
  { srmWiring with periodicJobs := true }

/-- A sleeping worker is stopped over HTTP while its heartbeat job waits. -/
def stopsWhileWaiting : List LifecycleMove :=
  steps 0 59 ++ steps 1 1 ++ .request .httpStop :: steps 2 9 ++ steps 3 17 ++ steps 1 2 ++ steps 3 25

end Lifecycle
end StrategyWorker
