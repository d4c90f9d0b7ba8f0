import StrategyWorker.Lifecycle.Background
import StrategyWorker.Lifecycle.Teardown

/-!
# What a teardown ends

A teardown ends the feeds, the heartbeat job, the strategy and the phase one
after the other and sets {lit}`_shutdown_complete`.  Each of these is an
{lit}`Aspect`, with the operations that would open it again, those that lead to
its end, and what holds at its end.

Main results:

- Theorem {lit}`opens_exec`: outside of the entry of a teardown an operation
  leaves no more to open an aspect than it stood for.
- Theorem {lit}`holds_exec`: what has ended stays so as long as nothing opens it.
- Theorem {lit}`holds_of_ends`: what a teardown ends has ended behind it.
-/

namespace StrategyWorker
namespace Lifecycle

open Domain Library
open ThreadMachine (weigh total)

/-! ## What a teardown ends -/

inductive Aspect where
  /-- The stop event of a feed. -/
  | feedStop (f : Feed)
  /-- The thread of a feed. -/
  | feedThread (f : Feed)
  /-- The stop event of the heartbeat job. -/
  | jobsStop
  /-- The thread of the heartbeat job. -/
  | jobsThread
  | strategy
  | phase
  /-- {lit}`_shutdown_complete`. -/
  | complete
  deriving DecidableEq

namespace Aspect

/-- The operations that open an aspect again, or lead to one that does. -/
def opens : Aspect → WorkerOp → Nat
  | feedStop f, op | feedThread f, op =>
      match op with
      | .inl .runReady => 2
      | .inl (.call (.startFeed g)) => if g = f then 2 else 0
      | .inr (.feed g .checkStarted) => if g = f then 2 else 0
      | .inr (.feed g .clearStop) => if g = f then 1 else 0
      | .inr (.feed g .startThread) => if g = f then 1 else 0
      | _ => 0
  | jobsStop, op | jobsThread, op =>
      match op with
      | .inl .startGuard => 2
      | .inl (.call .startPeriodicJobs) => 2
      | .inr (.jobs .checkAlive) => 2
      | .inr (.jobs .clearStop) => 1
      | .inr (.jobs .startThread) => 1
      | _ => 0
  | strategy, op =>
      match op with
      | .inl .startGuard => 1
      | .inl (.call .initializeStrategyCoordinator) => 1
      | _ => 0
  | phase, op =>
      match op with
      | .inl .startGuard => 1
      | .inl .runReady => 1
      | .inl (.setPhase next) => if WorkerPhase.isTerminalPhase next then 0 else 1
      | .inl (.writePhase _ next) => if WorkerPhase.isTerminalPhase next then 0 else 1
      | _ => 0
  | complete, op =>
      match op with
      | .inl .startGuard => 2
      | .inl .exceptStart => 1
      | .inl (.assign (.shutdownComplete false)) => 1
      | _ => 0

/-- What holds when an aspect has ended; a worker may have no heartbeat job. -/
def Holds (w : Wiring) (s : Worker) : Aspect → Prop
  | feedStop f => (s.2.feeds f).stop = true
  | feedThread f => (s.2.feeds f).running = 0
  | jobsStop => w.periodicJobs = true → s.2.jobs.stop = true
  | jobsThread => w.periodicJobs = true → s.2.jobs.running = 0
  | strategy => s.1.strategyAdapter = false
  | phase => WorkerPhase.isTerminalPhase s.1.phase = true
  | complete => s.1.shutdownComplete = true

instance (w : Wiring) (s : Worker) (a : Aspect) : Decidable (a.Holds w s) := by
  cases a <;> unfold Holds <;> infer_instance

end Aspect

/-- The aspect that an operation of a teardown ends. -/
def ends : WorkerOp → Option Aspect
  | .inr (.feed f .setStop) => some (.feedStop f)
  | .inr (.feed f .join) => some (.feedThread f)
  | .inr (.jobs .setStop) => some .jobsStop
  | .inr (.jobs .join) => some .jobsThread
  | .inl (.call .stopStrategy) => some .strategy
  | .inl (.writePhase _ next) => if isFinalPhase next then some .phase else none
  | .inl (.assign (.shutdownComplete true)) => some .complete
  | _ => none

/-- The aspects that an operation of a teardown ends itself or by what it goes on with. -/
def leads : WorkerOp → List Aspect
  | .inr (.feed f .setStop) => [.feedStop f, .feedThread f]
  | .inr (.jobs .setStop) => [.jobsStop, .jobsThread]
  | .inl (.setPhase next) => if isFinalPhase next then [.phase] else []
  | op => (ends op).toList


/-- A completed stop holds: the phase is terminal, {lit}`_shutdown_complete` is set, there is no
strategy adapter, every feed and the heartbeat job has its stop event set, and none of their
threads runs. -/
def Settled (w : Wiring) (s : Worker) : Prop :=
  WorkerPhase.isTerminalPhase s.1.phase = true ∧ s.1.shutdownComplete = true ∧
    s.1.strategyAdapter = false ∧
    (∀ f, (s.2.feeds f).stop = true ∧ (s.2.feeds f).running = 0) ∧
    (w.periodicJobs = true → s.2.jobs.stop = true ∧ s.2.jobs.running = 0)

instance (w : Wiring) (s : Worker) : Decidable (Settled w s) :=
  inferInstanceAs (Decidable (_ ∧ _))

theorem settled_iff {w : Wiring} {s : Worker} : Settled w s ↔ ∀ a : Aspect, a.Holds w s := by
  constructor
  · rintro ⟨hphase, hcomplete, hstrategy, hfeeds, hjobs⟩ a
    cases a with
    | feedStop f => exact (hfeeds f).1
    | feedThread f => exact (hfeeds f).2
    | jobsStop => exact fun h => (hjobs h).1
    | jobsThread => exact fun h => (hjobs h).2
    | strategy => exact hstrategy
    | phase => exact hphase
    | complete => exact hcomplete
  · intro h
    exact ⟨h .phase, h .complete, h .strategy, fun f => ⟨h (.feedStop f), h (.feedThread f)⟩,
      fun hw => ⟨h .jobsStop hw, h .jobsThread hw⟩⟩

def isJoin : WorkerOp → Bool
  | .inr (.feed _ .join) | .inr (.jobs .join) => true
  | _ => false

def isStopEntry : WorkerOp → Bool
  | .inl (.stopGuard _) => true
  | _ => false

/-! ## What one operation does to the aspects -/

theorem terminal (phase : WorkerPhase) : WorkerPhase.isTerminalPhase phase =
    (phase == .stopped || phase == .completed || phase == .failed) := by
  cases phase <;> rfl

theorem layerWeight_opens (w : Wiring) (a : Aspect) : LayerWeight w a.opens 1 where
  base := {
    control := fun op h => by
      cases op with
      | call c => cases c <;> cases a <;> first | rfl | cases h
      | assign v => rcases v with v | v | _ | _ <;> cases a <;> first | rfl | cases h
      | _ => cases a <;> first | rfl | cases h
    raise := fun e => by cases a <;> rfl
    close := fun i => by cases a <;> rfl
    start := by cases a <;> simp [startBody, Aspect.opens, terminal]
    ready := by
      cases a with
      | feedStop f => cases f <;> simp [runReadyBody, Aspect.opens]
      | feedThread f => cases f <;> simp [runReadyBody, Aspect.opens]
      | _ => simp [runReadyBody, Aspect.opens, terminal]
    set := fun previous phase => by
      unfold setPhaseBody
      cases a <;> split <;> simp [Aspect.opens]
    failed := fun e => by
      rw [weigh_startFailed w e fun _ => by cases a <;> rfl]
      split <;> cases a <;> simp [Aspect.opens, terminal]
    stop := fun args => by
      rw [weigh_stopBody w args fun _ => by cases a <;> rfl]
      unfold stopReport finalPhase
      split <;> split <;> cases a <;> simp [stopWork, Aspect.opens, terminal] }
  lower op := by
    cases op with
    | call c => cases c <;> cases a <;> rfl
    | _ => rfl

section

variable {w : Wiring} {configured : Feed → Bool}

/-- Outside of the entry of a teardown nothing comes to open an aspect that did not before. -/
theorem opens_exec {s : Worker} {op : WorkerOp} {out : Outcome} {eff : WorkerEffect}
    (h : (background w configured).machine.exec s op out = some eff)
    (henter : isStopEntry op = true → s.1.shutdownComplete = true) (a : Aspect) :
    ThreadMachine.leaves a.opens eff ≤ a.opens op := by
  cases op with
  | inl op =>
      rcases (layerWeight_opens w a).exec_base h with hle | ⟨args, rfl, hs, -⟩
      · exact hle
      · simp [henter rfl] at hs
  | inr own =>
      have h : execOwn w configured s own out = some eff := h
      cases own with
      | heartbeat step =>
          obtain rfl := Option.some.inj h
          have hzero : ThreadMachine.leaves a.opens (execHeartbeat s out step) = 0 := by
            cases step <;> simp only [execHeartbeat] <;> (try split) <;> cases a <;>
              simp [ThreadMachine.leaves, Effect.pushed, Effect.spawned, Aspect.opens]
          rw [hzero]
          exact Nat.zero_le _
      | jobs step =>
          cases step <;> simp only [execOwn, execJobs] at h <;> (repeat' split at h) <;>
            cases h <;> cases a <;>
            simp [ThreadMachine.leaves, Effect.pushed, Effect.spawned, Aspect.opens]
      | feed g step =>
          cases step <;> simp only [execOwn, execFeed] at h <;> (repeat' split at h) <;>
            cases h <;> cases a <;>
            simp [ThreadMachine.leaves, Effect.pushed, Effect.spawned, Aspect.opens] <;>
            split <;> simp

/-- Only the start of a worker makes it have a strategy adapter. -/
theorem exec_strategyAdapter {s : Service} {op : Op} {out : Outcome} {eff : LifecycleEffect}
    (h : exec w s op out = some eff) (hs : s.strategyAdapter = false) :
    eff.shared.strategyAdapter = false ∨
      op = .call .initializeStrategyCoordinator ∧ w.strategyInstanceManager = true := by
  cases op with
  | call c =>
      obtain rfl := Option.some.inj h
      rcases execCall_cases w s c out with
        ⟨-, he⟩ | ⟨happlies, ⟨-, he⟩ | ⟨kind, -, ⟨-, he⟩ | ⟨-, he⟩⟩⟩ <;> rw [he]
      · exact .inl hs
      · by_cases hc : c = .initializeStrategyCoordinator
        · subst hc
          exact .inr ⟨rfl, happlies⟩
        · left
          simp only [Effect.shared]
          unfold Service.succeed
          split <;> first | exact hs | rfl | (exact absurd rfl hc)
      · exact .inl hs
      · exact .inl hs
  | ingest i =>
      obtain rfl := Option.some.inj h
      left
      unfold execIngest
      split <;> (try split) <;> exact hs
  | assign a =>
      obtain rfl := Option.some.inj h
      left
      simp only [Effect.shared]
      unfold Service.assign
      split <;> exact hs
  | loopPhase first =>
      left
      cases first <;> simp only [exec] at h <;> split at h <;> cases h <;> exact hs
  | _ =>
      left
      simp only [exec] at h
      first
        | (cases h; exact hs)
        | (split at h <;> cases h <;> exact hs)

/-- The heartbeat job stays stopped, and without a thread. -/
theorem jobs_kept {s : Worker} {own : Own} {out : Outcome} {eff : WorkerEffect}
    (h : execOwn w configured s own out = some eff)
    (hopens : Aspect.jobsStop.opens (.inr own) = 0) :
    (s.2.jobs.stop = true → eff.shared.2.jobs.stop = true) ∧
      (s.2.jobs.running = 0 → eff.shared.2.jobs.running = 0) := by
  cases own with
  | heartbeat step =>
      obtain rfl := Option.some.inj h
      cases step <;> simp only [execHeartbeat] <;> (try split) <;> exact ⟨id, id⟩
  | jobs step =>
      cases step <;> simp only [execOwn, execJobs] at h <;> (repeat' split at h) <;>
        first | (cases hopens; done) | skip
      all_goals cases h <;> simp +contextual [Effect.shared]
  | feed g step =>
      cases step <;> simp only [execOwn, execFeed] at h <;> (repeat' split at h) <;> cases h <;>
        exact ⟨id, id⟩

/-- A feed stays stopped, and without a thread. -/
theorem feed_kept {s : Worker} {own : Own} {out : Outcome} {eff : WorkerEffect} {f : Feed}
    (h : execOwn w configured s own out = some eff)
    (hopens : (Aspect.feedStop f).opens (.inr own) = 0) :
    ((s.2.feeds f).stop = true → (eff.shared.2.feeds f).stop = true) ∧
      ((s.2.feeds f).running = 0 → (eff.shared.2.feeds f).running = 0) := by
  cases own with
  | heartbeat step =>
      obtain rfl := Option.some.inj h
      cases step <;> simp only [execHeartbeat] <;> (try split) <;> exact ⟨id, id⟩
  | jobs step =>
      cases step <;> simp only [execOwn, execJobs] at h <;> (repeat' split at h) <;> cases h <;>
        exact ⟨id, id⟩
  | feed g step =>
      by_cases hg : g = f
      · subst hg
        cases step <;> simp only [execOwn, execFeed] at h <;> (repeat' split at h) <;>
          first | (simp [Aspect.opens] at hopens; done) | skip
        all_goals cases h <;> simp +contextual [Effect.shared, Background.setFeed]
      · -- another feed
        have hother : ∀ t, (s.2.setFeed g t).feeds f = s.2.feeds f := by
          intro t
          exact Function.update_of_ne (Ne.symm hg) _ _
        cases step <;> simp only [execOwn, execFeed] at h <;> (repeat' split at h) <;> cases h <;>
          simp only [Effect.shared, hother] <;> exact ⟨id, id⟩

/-- What has ended stays so as long as nothing opens it. -/
theorem holds_exec {s : Worker} {op : WorkerOp} {out : Outcome} {eff : WorkerEffect}
    (h : (background w configured).machine.exec s op out = some eff) {a : Aspect}
    (hs : a.Holds w s) (hopens : a.opens op = 0) : a.Holds w eff.shared := by
  cases op with
  | inl op =>
      rcases MachineLayer.exec_base_eq_some.1 h with ⟨below, hbelow, rfl⟩
      have hbelow : exec w s.1 op out = some below := hbelow
      rw [MachineLayer.shared_lift]
      cases a with
      | strategy =>
          rcases exec_strategyAdapter hbelow hs with hkept | ⟨rfl, -⟩
          · exact hkept
          · cases hopens
      | phase =>
          simp only [Aspect.Holds] at hs ⊢
          by_cases hwrite : ∃ p q, op = .writePhase p q
          · rcases hwrite with ⟨p, q, rfl⟩
            have hterminal : WorkerPhase.isTerminalPhase q = true := by
              by_contra hq
              simp [Aspect.opens, hq] at hopens
            cases hbelow
            exact hterminal
          · rw [exec_phase hbelow fun p q heq => hwrite ⟨p, q, heq⟩]
            exact hs
      | complete =>
          simp only [Aspect.Holds] at hs ⊢
          apply complete_kept hbelow hs
          unfold resetWeight
          split <;> first | rfl | cases hopens
      | _ => exact hs
  | inr own =>
      have h : execOwn w configured s own out = some eff := h
      rcases exec_own_same h with ⟨log, stop, hsame⟩
      cases a with
      | strategy =>
          simp only [Aspect.Holds] at hs ⊢
          rw [hsame]
          exact hs
      | phase =>
          simp only [Aspect.Holds] at hs ⊢
          rw [hsame]
          exact hs
      | complete =>
          simp only [Aspect.Holds] at hs ⊢
          rw [hsame]
          exact hs
      | jobsStop => exact fun hw => (jobs_kept h hopens).1 (hs hw)
      | jobsThread => exact fun hw => (jobs_kept h hopens).2 (hs hw)
      | feedStop f => exact (feed_kept h hopens).1 hs
      | feedThread f => exact (feed_kept h hopens).2 hs

/-- What the worker keeps of its collaborators: an adapter comes from the strategy manager, and a
running heartbeat thread is known to its job. -/
structure Kept (w : Wiring) (s : Worker) : Prop where
  adapter : s.1.strategyAdapter = true → w.strategyInstanceManager = true
  thread : s.2.jobs.running ≠ 0 → s.2.jobs.thread = true

theorem kept_exec {s : Worker} {op : WorkerOp} {out : Outcome} {eff : WorkerEffect}
    (h : (background w configured).machine.exec s op out = some eff) (hs : Kept w s)
    (hjoin : isJoin op = true → out.delivered = true) : Kept w eff.shared := by
  rcases hs with ⟨hadapter, hthread⟩
  cases op with
  | inl op =>
      rcases MachineLayer.exec_base_eq_some.1 h with ⟨below, hbelow, rfl⟩
      have hbelow : exec w s.1 op out = some below := hbelow
      rw [MachineLayer.shared_lift]
      refine ⟨fun hbound => ?_, hthread⟩
      by_cases hs : s.1.strategyAdapter = true
      · exact hadapter hs
      · rcases exec_strategyAdapter hbelow (by simpa using hs) with hkept | ⟨-, hmanager⟩
        · rw [hkept] at hbound
          cases hbound
        · exact hmanager
  | inr own =>
      have h : execOwn w configured s own out = some eff := h
      rcases exec_own_same h with ⟨log, stop, hsame⟩
      refine ⟨by rw [hsame]; exact hadapter, ?_⟩
      clear hsame
      cases own with
      | heartbeat step =>
          obtain rfl := Option.some.inj h
          cases step <;> simp only [execHeartbeat] <;> (try split) <;> exact hthread
      | feed g step =>
          cases step <;> simp only [execOwn, execFeed] at h <;> (repeat' split at h) <;>
            cases h <;> exact hthread
      | jobs step =>
          cases step with
          | join =>
              simp only [execOwn, execJobs] at h
              split at h
              · cases h
                exact hthread
              · split at h
                · rename_i hjoins
                  simp only [joins, hjoin rfl, Bool.not_true, Bool.or_false,
                    decide_eq_true_eq] at hjoins
                  split at h <;> cases h <;> exact fun hrunning => absurd hjoins hrunning
                · cases h
          | checkStop =>
              simp only [execOwn, execJobs] at h
              split at h <;> cases h
              · exact fun hrunning => hthread (by simp [Effect.shared] at hrunning; omega)
              · exact hthread
          | _ =>
              simp only [execOwn, execJobs] at h
              (repeat' split at h) <;> cases h <;> first | exact hthread | exact fun _ => rfl

/-- An operation that ends an aspect and goes on has ended it. -/
theorem holds_of_ends {s t : Worker} {op : WorkerOp} {out : Outcome} {push : List WorkerOp}
    {codes : List (List WorkerOp)} {a : Aspect}
    (h : (background w configured).machine.exec s op out = some (.next t push codes))
    (hkept : Kept w s) (hjoin : isJoin op = true → out.delivered = true)
    (hends : ends op = some a) : a.Holds w t := by
  unfold ends at hends
  split at hends
  · cases hends
    cases h
    simp [Aspect.Holds, Background.setFeed]
  · cases hends
    rw [MachineLayer.exec_own] at h
    change execFeed configured s out _ .join = _ at h
    simp only [execFeed, joins, hjoin rfl, Bool.not_true, Bool.or_false] at h
    split at h
    · rename_i hrunning
      cases h
      simpa [Aspect.Holds] using hrunning
    · cases h
  · cases hends
    intro hperiodic
    rw [MachineLayer.exec_own] at h
    change execJobs w s out .setStop = _ at h
    simp only [execJobs, hperiodic, Bool.not_true, Bool.false_eq_true, if_false] at h
    cases h
    rfl
  · cases hends
    intro hperiodic
    rw [MachineLayer.exec_own] at h
    change execJobs w s out .join = _ at h
    simp only [execJobs, joins, hjoin rfl, Bool.not_true, Bool.or_false] at h
    split at h
    · rename_i hnone
      cases h
      by_contra hrunning
      simp [hkept.thread hrunning] at hnone
    · split at h
      · rename_i hrunning
        split at h <;> cases h
        simpa using hrunning
      · cases h
  · cases hends
    rcases MachineLayer.exec_base_eq_some.1 h with ⟨below, hbelow, heff⟩
    obtain rfl : execCall w s.1 .stopStrategy out = below := Option.some.inj hbelow
    rcases execCall_cases w s.1 .stopStrategy out with
      ⟨happlies, he⟩ | ⟨-, ⟨-, he⟩ | ⟨kind, -, ⟨hswallowed, -⟩ | ⟨-, he⟩⟩⟩
    · rw [he] at heff
      cases heff
      -- no manager, or no adapter
      simp only [applies] at happlies
      simp only [Aspect.Holds]
      by_contra hbound
      have hbound : s.1.strategyAdapter = true := Bool.eq_true_of_not_eq_false hbound
      simp [hbound, hkept.adapter hbound] at happlies
    · rw [he] at heff
      cases heff
      rfl
    · cases hswallowed
    · rw [he] at heff
      cases heff
  · rename_i previous next
    split at hends
    · rename_i hfinal
      cases hends
      cases h
      change WorkerPhase.isTerminalPhase next = true
      cases next <;> first | rfl | cases hfinal
    · cases hends
  · cases hends
    cases h
    rfl
  · cases hends

end

end Lifecycle
end StrategyWorker
