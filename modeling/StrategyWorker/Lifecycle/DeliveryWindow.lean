import Mathlib.Data.Nat.Cast.Basic
import StrategyWorker.Lifecycle.Machine

/-!
# Deliveries while a worker stops

The live path and the historical driver read the shutdown flag, the phase and
the adapter before they call the strategy; {lit}`push_replay_context` reads the
adapter only, and counts an event without it as well.  Between what a thread has
read and the call that follows, another one may raise the flag or write a phase.

Main results:

- Theorem {lit}`deliveries_while_open`: events that are counted are handed over,
  and callbacks start while the worker is open, in every run in which pushes come
  in time and stops wait for the callbacks that are on their way.
- Theorem {lit}`push_after_stop`: a push that comes after a stop.
-/

namespace StrategyWorker
namespace Lifecycle

open Library
open Domain
open ThreadMachine (weigh total)

/-! ## Deliveries in a log -/

/-- The worker is stopping, or has ended. -/
def phaseOver (phase : WorkerPhase) : Bool :=
  phase == .stopping || phase.isTerminalPhase

/-- Callbacks may start. -/
def Service.isOpen (s : Service) : Bool :=
  !s.shutdownInProgress && !phaseOver s.phase

/-- The {lit}`consumed_count` of a response. -/
def acknowledgedIn : Event → Nat
  | .responded consumed => consumed
  | _ => 0

/-- {lit}`on_event` was called for an event of a push. -/
def isPushCallback : Event → Bool
  | .callback .pushReplayContext _ _ => true
  | _ => false

/-- Every counted event was handed to the adapter, responses count no more events than it was
called with, and no callback started when the worker was stopping or had ended. -/
structure DeliversWhileOpen (log : List Event) : Prop where
  handed : ∀ handed, Event.consumed handed ∈ log → handed = true
  acknowledged : (log.map acknowledgedIn).sum ≤ log.countP isPushCallback
  callbacks : ∀ source shutdownInProgress phase,
    Event.callback source shutdownInProgress phase ∈ log →
      shutdownInProgress = false ∧ phaseOver phase = false

/-! ## Checks -/

/-- The flag was read, and a callback follows that does not read it again. -/
def pastFlag : Op → Bool
  | .ingest .livePhase | .ingest .liveAdapter | .ingest (.startCallback _) => true
  | _ => false

/-- The phase was read, and a callback follows that does not read it again; the historical driver
still reads the flag. -/
def pastPhase (s : Service) : Op → Bool
  | .ingest .liveAdapter | .ingest (.startCallback _) => true
  | .ingest (.driverBars _ _) => !s.shutdownInProgress
  | _ => false

/-- No thread is between its checks and its callback. -/
def NonePast (past : Op → Bool) (c : LifecycleConfig) : Prop :=
  ∀ t ∈ c.threads, ∀ op ∈ t.code, past op = false

instance (past : Op → Bool) (c : LifecycleConfig) : Decidable (NonePast past c) :=
  inferInstanceAs (Decidable (∀ t ∈ c.threads, ∀ op ∈ t.code, past op = false))

/-- An operation that a push takes an event with finds an adapter and an open worker, and one that
closes the worker finds no callback on its way. -/
def InTime (c : LifecycleConfig) : Op → Prop
  | .ingest .pushEvent => c.shared.strategyAdapter = true ∧ c.shared.isOpen = true
  | .assign .shutdownInProgress => NonePast pastFlag c
  | .writePhase _ phase => phaseOver phase = true → NonePast (pastPhase c.shared) c
  | _ => True

instance (c : LifecycleConfig) (op : Op) : Decidable (InTime c op) := by
  unfold InTime
  split <;> infer_instance

/-- Every step is in time. -/
def StepsInTime (c : LifecycleConfig) : LifecycleMove → Prop
  | .request _ => True
  | .step i _ => ∀ op ∈ c.next i, InTime c op

instance (c : LifecycleConfig) : (m : LifecycleMove) → Decidable (StepsInTime c m)
  | .request _ => inferInstanceAs (Decidable True)
  | .step i _ => inferInstanceAs (Decidable (∀ op ∈ c.next i, _))

/-- What an operation relies on. -/
def Relies (s : Service) : Op → Prop
  | .ingest .livePhase => s.shutdownInProgress = false
  | .ingest .liveAdapter | .ingest (.startCallback _) => s.isOpen = true
  | .ingest (.driverBars _ _) => s.shutdownInProgress = true ∨ phaseOver s.phase = false
  | .ingest (.pushConsumed handed) => handed = true
  | _ => True

/-! ## Code without deliveries -/

def isIngest : Op → Bool
  | .ingest _ => true
  | _ => false

theorem relies_of_not_ingest {s : Service} {op : Op} (h : isIngest op = false) : Relies s op := by
  cases op with
  | ingest i => cases h
  | _ => trivial

theorem isIngest_closes {w : Wiring} {op : Op} (h : op ∈ closeDownstreamClients w) :
    isIngest op = false := by
  rcases List.mem_map.1 h with ⟨i, -, rfl⟩
  rfl

theorem isIngest_stopBody {w : Wiring} {args : StopArgs} {op : Op} (h : op ∈ stopBody w args) :
    isIngest op = false := by
  simp only [stopBody, List.mem_append] at h
  rcases h with (h | h) | h
  · revert op
    simp [stopWork, isIngest]
  · exact isIngest_closes h
  · revert op
    unfold stopReport
    split <;> simp [isIngest]

theorem isIngest_startFailed {w : Wiring} {e : Error} {op : Op} (h : op ∈ startFailed w e) :
    isIngest op = false := by
  simp only [startFailed, rollbackPartialStartup, List.mem_cons, List.mem_append,
    List.not_mem_nil, or_false] at h
  rcases h with rfl | (((rfl | rfl) | h) | rfl | rfl | rfl | rfl) | rfl
  all_goals first | rfl | exact isIngest_closes h | (split <;> rfl)

/-- Only ingest operations push ingest operations. -/
theorem isIngest_pushed {w : Wiring} {s : Service} {op : Op} {out : Outcome} {eff : LifecycleEffect}
    (h : exec w s op out = some eff) (hop : isIngest op = false) {o : Op} (ho : o ∈ eff.pushed) :
    isIngest o = false := by
  cases op with
  | ingest i => cases hop
  | call c =>
      obtain rfl := Option.some.inj h
      simp at ho
  | stopGuard args =>
      simp only [exec] at h
      split at h <;> cases h
      · cases ho
      · exact isIngest_stopBody ho
  | setPhase phase =>
      cases h
      revert o
      unfold setPhaseBody
      split <;> simp [Effect.pushed, isIngest]
  | loopPhase first =>
      revert o
      cases first <;> simp only [exec] at h <;> split at h <;> cases h <;>
        simp [Effect.pushed, isIngest]
  | _ =>
      revert o
      simp only [exec] at h
      first
        | (cases h; simp [Effect.pushed, isIngest])
        | (split at h <;> cases h <;> simp [Effect.pushed, isIngest, startBody, runReadyBody,
            requestSigtermShutdown, initiateStopFromRequest])

theorem isIngest_handler {w : Wiring} {op : Op} {e : Error} {code : List Op}
    (h : handler w op e = some code) {o : Op} (ho : o ∈ code) : isIngest o = false := by
  rcases handler_cases h with ⟨-, rfl⟩ | ⟨-, rfl⟩ | ⟨-, rfl⟩ | ⟨-, rfl | rfl⟩ | ⟨-, rfl⟩ | ⟨-, rfl⟩
  · exact isIngest_startFailed ho
  all_goals
    revert o
    simp [isIngest]

theorem isIngest_spawned {w : Wiring} {s : Service} {op : Op} {out : Outcome}
    {eff : LifecycleEffect} (h : exec w s op out = some eff) {code : List Op}
    (hcode : code ∈ eff.spawned) {o : Op} (ho : o ∈ code) : isIngest o = false := by
  rcases exec_spawned h with hnone | ⟨-, hsome⟩
  · simp [hnone] at hcode
  · simp only [hsome, List.mem_singleton] at hcode
    subst hcode
    simp only [runShutdown, List.mem_cons, List.not_mem_nil, or_false] at ho
    rcases ho with rfl | rfl <;> rfl

/-! ## Callbacks start while the worker is open -/

/-- What every thread relies on is so, and what the log holds is as it should be. -/
structure Watched (c : LifecycleConfig) : Prop where
  relies : ∀ t ∈ c.threads, ∀ op ∈ t.code, Relies c.shared op
  handed : ∀ handed, Event.consumed handed ∈ c.shared.log → handed = true
  callbacks : ∀ source shutdownInProgress phase,
    Event.callback source shutdownInProgress phase ∈ c.shared.log →
      shutdownInProgress = false ∧ phaseOver phase = false

section

variable {w : Wiring} {c : LifecycleConfig} {op : Op} {out : Outcome} {eff : LifecycleEffect}

theorem relies_of_same {s t : Service} (hphase : t.phase = s.phase)
    (hflag : t.shutdownInProgress = s.shutdownInProgress) {o : Op} (h : Relies s o) :
    Relies t o := by
  unfold Relies Service.isOpen at h ⊢
  rw [hphase, hflag]
  exact h

/-- Raising the flag leaves the threads that did not read it. -/
theorem relies_of_flag {s t : Service} (hflag : t.shutdownInProgress = true) {o : Op}
    (h : Relies s o) (hpast : pastFlag o = false) : Relies t o := by
  cases o with
  | ingest i =>
      cases i with
      | livePhase | liveAdapter | startCallback _ => cases hpast
      | driverBars bars pages => exact .inl hflag
      | pushConsumed handed => exact h
      | _ => trivial
  | _ => trivial

/-- Writing a phase leaves the threads that did not read it. -/
theorem relies_of_phase {s t : Service} (hflag : t.shutdownInProgress = s.shutdownInProgress)
    {o : Op} (h : Relies s o) (hpast : phaseOver t.phase = true → pastPhase s o = false) :
    Relies t o := by
  cases hover : phaseOver t.phase with
  | true =>
      have hnot := hpast hover
      cases o with
      | ingest i =>
          cases i with
          | liveAdapter | startCallback _ => cases hnot
          | livePhase => exact hflag.trans h
          | driverBars bars pages =>
              refine .inl (hflag.trans ?_)
              simpa [pastPhase] using hnot
          | pushConsumed handed => exact h
          | _ => trivial
      | _ => trivial
  | false =>
      cases o with
      | ingest i =>
          cases i with
          | liveAdapter | startCallback _ =>
              simp only [Relies, Service.isOpen, Bool.and_eq_true, Bool.not_eq_true'] at h ⊢
              exact ⟨hflag.trans h.1, hover⟩
          | livePhase => exact hflag.trans h
          | driverBars bars pages => exact .inr hover
          | pushConsumed handed => exact h
          | _ => trivial
      | _ => trivial

/-- A step in time keeps what the other threads rely on. -/
theorem relies_kept (h : exec w c.shared op out = some eff) (htime : InTime c op)
    {t : Thread Op Error} (ht : t ∈ c.threads) {o : Op} (ho : o ∈ t.code)
    (hrelies : Relies c.shared o) : Relies eff.shared o := by
  rcases exec_flags h with ⟨p, q, rfl⟩ | ⟨a, rfl⟩ | hsame
  · obtain rfl := Option.some.inj h
    refine relies_of_phase ?_ hrelies fun hover => ?_
    · rfl
    · exact htime hover t ht o ho
  · obtain rfl := Option.some.inj h
    cases a with
    | shutdownInProgress => exact relies_of_flag rfl hrelies (htime t ht o ho)
    | shutdownComplete value => cases value <;> exact relies_of_same rfl rfl hrelies
    | started value => exact relies_of_same rfl rfl hrelies
    | stopRequestAccepted => exact relies_of_same rfl rfl hrelies
  · exact relies_of_same hsame.phase hsame.shutdownInProgress hrelies

theorem isOpen_iff {s : Service} :
    s.isOpen = true ↔ s.shutdownInProgress = false ∧ phaseOver s.phase = false := by
  simp [Service.isOpen]

theorem over_of_live {phase : WorkerPhase} (h : phase = .ready ∨ phase = .running) :
    phaseOver phase = false := by
  rcases h with rfl | rfl <;> rfl

/-- The gateway calls the adapter when the worker is open. -/
theorem relies_gatewayIngest {s : Service} {source : Option Source}
    (hopen : source ≠ none → s.isOpen = true) {o : Op} (ho : o ∈ gatewayIngest source) :
    Relies s o := by
  cases source with
  | none =>
      simp only [gatewayIngest, List.append_nil, List.mem_cons, List.not_mem_nil, or_false] at ho
      rcases ho with rfl | rfl <;> trivial
  | some source =>
      simp only [gatewayIngest, List.mem_append, List.mem_cons, List.not_mem_nil, or_false] at ho
      rcases ho with (rfl | rfl) | rfl
      · trivial
      · trivial
      · exact hopen (Option.some_ne_none source)

/-- What an ingest operation goes on with relies on what it has read. -/
theorem relies_pushed_ingest {i : Ingest} (htime : InTime c (.ingest i))
    (hrelies : Relies c.shared (.ingest i)) {o : Op}
    (ho : o ∈ (execIngest w c.shared out i).pushed) : Relies c.shared o := by
  cases i with
  | pushReplay accepted endOfStream =>
      unfold execIngest at ho
      dsimp only at ho
      split at ho
      · cases ho
      · rcases List.mem_append.1 ho with ho | ho
        · obtain rfl := List.eq_of_mem_replicate ho
          trivial
        · obtain rfl := List.mem_singleton.1 ho
          trivial
  | pushEvent =>
      unfold execIngest at ho
      dsimp only at ho
      rw [if_pos htime.1] at ho
      rcases List.mem_append.1 ho with ho | ho
      · exact relies_gatewayIngest (fun _ => htime.2) ho
      · obtain rfl := List.mem_singleton.1 ho
        rfl
  | liveTick =>
      unfold execIngest at ho
      dsimp only at ho
      split at ho <;> rename_i hflag
      · cases ho
      · obtain rfl := List.mem_singleton.1 ho
        exact Bool.eq_false_iff.2 hflag
  | livePhase =>
      unfold execIngest at ho
      dsimp only at ho
      split at ho <;> rename_i hphase
      · obtain rfl := List.mem_singleton.1 ho
        exact isOpen_iff.2 ⟨hrelies, over_of_live hphase⟩
      · cases ho
  | liveAdapter =>
      unfold execIngest at ho
      dsimp only at ho
      split at ho
      · simp only [Effect.pushed, List.mem_cons, List.not_mem_nil, or_false] at ho
        rcases ho with rfl | rfl
        · trivial
        · exact hrelies
      · cases ho
  | driverPage pages =>
      cases pages with
      | nil =>
          unfold execIngest at ho
          dsimp only at ho
          split at ho <;> cases ho
      | cons bars pages =>
          unfold execIngest at ho
          dsimp only at ho
          split at ho <;> rename_i hstop
          · cases ho
          · obtain rfl := List.mem_singleton.1 ho
            simp only [Bool.or_eq_true, not_or, Bool.not_eq_true', Bool.not_eq_false,
              beq_iff_eq] at hstop
            exact .inr (over_of_live hstop.2)
  | driverBars bars pages =>
      cases bars with
      | zero =>
          obtain rfl := List.mem_singleton.1 ho
          trivial
      | succ bars =>
          unfold execIngest at ho
          dsimp only at ho
          split at ho <;> rename_i hstop
          · cases ho
          · simp only [Bool.or_eq_true, not_or, Bool.not_eq_true] at hstop
            have hover : phaseOver c.shared.phase = false := by
              rcases hrelies with hflag | hover
              · rw [hstop.2] at hflag
                cases hflag
              · exact hover
            rcases List.mem_append.1 ho with ho | ho
            · exact relies_gatewayIngest (fun _ => isOpen_iff.2 ⟨hstop.2, hover⟩) ho
            · obtain rfl := List.mem_singleton.1 ho
              exact .inr hover
  | pushConsumed _ | pushDone _ _ | liveFirstData | driver _ | gatewayTick | gatewayMarked
  | markFirstData | startCallback _ =>
      revert o
      unfold execIngest
      split <;> (try split) <;> simp_all [Effect.pushed, Relies]

theorem relies_pushed (h : exec w c.shared op out = some eff) (htime : InTime c op)
    (hrelies : Relies c.shared op) {o : Op} (ho : o ∈ eff.pushed) : Relies eff.shared o := by
  cases hop : isIngest op with
  | false => exact relies_of_not_ingest (isIngest_pushed h hop ho)
  | true =>
      cases op with
      | ingest i =>
          obtain rfl := Option.some.inj h
          have hsame := sameFlags_execIngest w c.shared out i
          exact relies_of_same hsame.phase hsame.shutdownInProgress
            (relies_pushed_ingest htime hrelies ho)
      | _ => cases hop

/-- What an operation logs of events and callbacks. -/
theorem emits_cases {e : Event} (h : e ∈ emits w c.shared out op) :
    (∃ handed, op = .ingest (.pushConsumed handed) ∧ e = .consumed handed) ∨
      (∃ source, op = .ingest (.startCallback source) ∧
        e = .callback source c.shared.shutdownInProgress c.shared.phase) ∨
      ((∀ handed, e ≠ .consumed handed) ∧
        ∀ source flag phase, e ≠ .callback source flag phase) := by
  cases op with
  | ingest i =>
      cases i with
      | pushConsumed handed =>
          obtain rfl := List.mem_singleton.1 h
          exact .inl ⟨handed, rfl, rfl⟩
      | startCallback source =>
          obtain rfl := List.mem_singleton.1 h
          exact .inr (.inl ⟨source, rfl, rfl⟩)
      | pushDone consumed endOfStream =>
          obtain rfl := List.mem_singleton.1 h
          exact .inr (.inr ⟨by simp, by simp⟩)
      | pushReplay accepted endOfStream =>
          simp only [emits, ingestEmits] at h
          split at h
          · obtain rfl := List.mem_singleton.1 h
            exact .inr (.inr ⟨by simp, by simp⟩)
          · cases h
      | _ => cases h
  | call d =>
      simp only [emits] at h
      split at h <;> obtain rfl := List.mem_singleton.1 h <;> exact .inr (.inr ⟨by simp, by simp⟩)
  | stopGuard args =>
      simp only [emits] at h
      split at h
      · cases h
      · obtain rfl := List.mem_singleton.1 h
        exact .inr (.inr ⟨by simp, by simp⟩)
  | assign a =>
      unfold emits at h
      split at h <;> simp_all
  | writePhase _ _ | recordStartup _ | recordShutdown _ =>
      obtain rfl := List.mem_singleton.1 h
      exact .inr (.inr ⟨by simp, by simp⟩)
  | _ => cases h

/-- A step of a thread in time. -/
theorem watched_thread {i : Nat} {rest : List Op} {f : Option Error} (hinv : Watched c)
    (hget : c.threads[i]? = some ⟨op :: rest, f⟩) (h : exec w c.shared op out = some eff)
    (htime : InTime c op) :
    Watched ⟨eff.shared,
      c.threads.set i ((machine w).resume rest eff) ++ eff.spawned.map .fresh⟩ := by
  have hmem := List.mem_of_getElem? hget
  have hop := hinv.relies _ hmem op List.mem_cons_self
  have hlog := exec_log h
  refine ⟨?_, fun handed hhanded => ?_, fun source flag phase hcallback => ?_⟩
  · refine ThreadMachine.step_forall (P := fun t => ∀ o ∈ t.code, Relies c.shared o)
      (fun t => ∀ o ∈ t.code, Relies eff.shared o) hinv.relies (fun o ho => ?_)
      (fun code hcode o ho => ?_) (fun j u _ hj hu o ho => ?_)
    · rcases ThreadMachine.mem_resume ho with ho | ho | ⟨o', e, code, hhandler, ho⟩
      · exact relies_pushed h htime hop ho
      · have hrest := List.mem_cons_of_mem op ho
        exact relies_kept h htime hmem hrest (hinv.relies _ hmem o hrest)
      · exact relies_of_not_ingest (isIngest_handler hhandler ho)
    · exact relies_of_not_ingest (isIngest_spawned h hcode ho)
    · exact relies_kept h htime (List.mem_of_getElem? hj) ho (hu o ho)
  · rw [hlog] at hhanded
    rcases List.mem_append.1 hhanded with hold | hnew
    · exact hinv.handed handed hold
    · rcases emits_cases hnew with ⟨handed', rfl, heq⟩ | ⟨_, -, heq⟩ | ⟨hnone, -⟩
      · cases heq
        exact hop
      · cases heq
      · exact absurd rfl (hnone handed)
  · rw [hlog] at hcallback
    rcases List.mem_append.1 hcallback with hold | hnew
    · exact hinv.callbacks source flag phase hold
    · rcases emits_cases hnew with ⟨_, -, heq⟩ | ⟨source', rfl, heq⟩ | ⟨-, hnone⟩
      · cases heq
      · cases heq
        exact isOpen_iff.1 hop
      · exact absurd rfl (hnone source flag phase)

/-- What is asked of a worker relies on nothing yet. -/
theorem relies_request (s : Service) (r : Request) {o : Op} (ho : o ∈ r.code) : Relies s o := by
  revert o
  cases r <;> simp [Request.code, requestHttpStop, initiateStopFromRequest, stopWorker, runBody,
    Relies]

end

/-! ## Responses count what was handed over -/

/-- The operations of a push that take, hand over and count events. -/
def ofPush : Op → Bool
  | .ingest (.pushReplay _ _) | .ingest .pushEvent | .ingest (.pushConsumed _)
  | .ingest (.pushDone _ _) | .ingest (.startCallback .pushReplayContext) => true
  | _ => false

/-- An event that is still to be handed over. -/
def toHand : Op → Nat
  | .ingest .pushEvent | .ingest (.startCallback .pushReplayContext) => 1
  | _ => 0

/-- The count of a response that is still to come. -/
def toAcknowledge : Op → Nat
  | .ingest (.pushDone consumed _) => consumed
  | _ => 0

/-- An error goes past it. -/
def unhandled : Op → Bool
  | .ingest _ | .call _ => true
  | _ => false

/-- From every point on no more events are to be handed over than to be counted. -/
def Balanced : List Op → Prop
  | [] => True
  | op :: code => weigh toHand (op :: code) ≤ weigh toAcknowledge (op :: code) ∧ Balanced code

/-- The code of a push. -/
structure PushCode (code : List Op) : Prop where
  unhandled : ∀ op ∈ code, unhandled op = true
  balanced : Balanced code

/-- A thread has no part in a push, or is one. -/
def Accountable (code : List Op) : Prop :=
  (∀ op ∈ code, ofPush op = false) ∨ PushCode code

/-- No response counts more than was handed over or is going to be. -/
structure Accounted (c : LifecycleConfig) : Prop where
  threads : ∀ t ∈ c.threads, Accountable t.code
  counted : (c.shared.log.map acknowledgedIn).sum + total toAcknowledge c.threads ≤
    c.shared.log.countP isPushCallback + total toHand c.threads

theorem ofPush_of_not_ingest {op : Op} (h : isIngest op = false) : ofPush op = false := by
  cases op with
  | ingest i => cases h
  | _ => rfl

theorem toHand_of_not_push {op : Op} (h : ofPush op = false) : toHand op = 0 := by
  unfold toHand
  split <;> first | cases h | rfl

theorem toAcknowledge_of_not_push {op : Op} (h : ofPush op = false) : toAcknowledge op = 0 := by
  unfold toAcknowledge
  split <;> first | cases h | rfl

theorem weigh_of_no_push {code : List Op} (h : ∀ op ∈ code, ofPush op = false) :
    weigh toHand code = 0 ∧ weigh toAcknowledge code = 0 :=
  ⟨ThreadMachine.weigh_eq_zero fun op hop => toHand_of_not_push (h op hop),
    ThreadMachine.weigh_eq_zero fun op hop => toAcknowledge_of_not_push (h op hop)⟩

theorem Balanced.weigh_le {code : List Op} (h : Balanced code) :
    weigh toHand code ≤ weigh toAcknowledge code := by
  cases code with
  | nil => exact le_refl 0
  | cons op code => exact h.1

theorem balanced_cons {op : Op} {code : List Op} :
    Balanced (op :: code) ↔
      weigh toHand (op :: code) ≤ weigh toAcknowledge (op :: code) ∧ Balanced code :=
  Iff.rfl

theorem Balanced.tail {op : Op} {code : List Op} (h : Balanced (op :: code)) : Balanced code :=
  h.2

/-- Code without a push before balanced code. -/
theorem Balanced.append {code rest : List Op} (h : Balanced rest)
    (hcode : ∀ op ∈ code, ofPush op = false) : Balanced (code ++ rest) := by
  induction code with
  | nil => exact h
  | cons op code ih =>
      have hrest := ih fun o ho => hcode o (List.mem_cons_of_mem op ho)
      have hzero := hcode op List.mem_cons_self
      rw [List.cons_append, balanced_cons]
      refine ⟨?_, hrest⟩
      rw [ThreadMachine.weigh_cons, ThreadMachine.weigh_cons,
        toHand_of_not_push hzero, toAcknowledge_of_not_push hzero, Nat.zero_add, Nat.zero_add]
      exact hrest.weigh_le

/-- Events to take before their count. -/
theorem Balanced.events {accepted : Nat} {endOfStream : Bool} {rest : List Op}
    (h : Balanced rest) {n : Nat} (hn : n ≤ accepted) :
    Balanced (List.replicate n (.ingest .pushEvent) ++
      .ingest (.pushDone accepted endOfStream) :: rest) := by
  have hle := h.weigh_le
  have hdone : weigh toAcknowledge (.ingest (.pushDone accepted endOfStream) :: rest) =
      accepted + weigh toAcknowledge rest := rfl
  have hnone : weigh toHand (.ingest (.pushDone accepted endOfStream) :: rest) =
      weigh toHand rest := by
    rw [ThreadMachine.weigh_cons]
    exact Nat.zero_add _
  induction n with
  | zero => exact ⟨by rw [hdone, hnone]; omega, h⟩
  | succ n ih =>
      rw [List.replicate_succ, List.cons_append, balanced_cons]
      refine ⟨?_, ih (by omega)⟩
      have hhand : weigh toHand (List.replicate n (Op.ingest .pushEvent)) = n := by
        simp [ThreadMachine.weigh, toHand]
      have hcount : weigh toAcknowledge (List.replicate n (Op.ingest .pushEvent)) = 0 := by
        simp [ThreadMachine.weigh, toAcknowledge]
      rw [ThreadMachine.weigh_cons, ThreadMachine.weigh_cons, ThreadMachine.weigh_append,
        ThreadMachine.weigh_append, hhand, hcount, hdone, hnone]
      simp only [toHand, toAcknowledge]
      omega

/-- An error ends the thread of a push. -/
theorem unwind_push {w : Wiring} {e : Error} {code : List Op}
    (h : ∀ op ∈ code, unhandled op = true) : (machine w).unwind e code = none := by
  induction code with
  | nil => rfl
  | cons op code ih =>
      have hop := h op List.mem_cons_self
      have hnone : (machine w).handler op e = none := by
        cases op with
        | ingest _ | call _ => rfl
        | _ => cases hop
      unfold ThreadMachine.unwind
      rw [hnone]
      exact ih fun o ho => h o (List.mem_cons_of_mem op ho)

section

variable {w : Wiring} {c : LifecycleConfig} {op : Op} {out : Outcome} {eff : LifecycleEffect}

/-- Only a push pushes operations of a push. -/
theorem ofPush_pushed (h : exec w c.shared op out = some eff) (hop : ofPush op = false) {o : Op}
    (ho : o ∈ eff.pushed) : ofPush o = false := by
  cases hingest : isIngest op with
  | false => exact ofPush_of_not_ingest (isIngest_pushed h hingest ho)
  | true =>
      cases op with
      | ingest i =>
          obtain rfl := Option.some.inj h
          revert o
          unfold execIngest
          split <;> (try split) <;> simp_all [Effect.pushed, ofPush, gatewayIngest]
      | _ => cases hingest

/-- The operations of a push push what no error is handled by. -/
theorem unhandled_pushed (h : exec w c.shared op out = some eff) (hop : unhandled op = true)
    {o : Op} (ho : o ∈ eff.pushed) : unhandled o = true := by
  cases op with
  | ingest i =>
      obtain rfl := Option.some.inj h
      rcases execIngest_pushed ho with ⟨j, rfl⟩ | rfl | rfl <;> rfl
  | call d =>
      obtain rfl := Option.some.inj h
      simp at ho
  | _ => cases hop

/-- Outside of pushes nothing is counted and nothing of a push is handed over. -/
theorem emits_of_not_push (hop : ofPush op = false) :
    ((emits w c.shared out op).map acknowledgedIn).sum = 0 ∧
      (emits w c.shared out op).countP isPushCallback = 0 := by
  cases op with
  | ingest i =>
      cases i with
      | startCallback source =>
          cases source with
          | pushReplayContext => cases hop
          | liveTick | historicalBar => exact ⟨rfl, rfl⟩
      | pushReplay _ _ | pushConsumed _ | pushDone _ _ => cases hop
      | _ => exact ⟨rfl, rfl⟩
  | call d =>
      simp only [emits]
      split <;> exact ⟨rfl, rfl⟩
  | stopGuard args =>
      simp only [emits]
      split <;> exact ⟨rfl, rfl⟩
  | assign a =>
      unfold emits
      split <;> first | exact ⟨rfl, rfl⟩ | simp_all
  | _ => exact ⟨rfl, rfl⟩

/-- What a step does to the accounts of its thread. -/
structure AccountStep (w : Wiring) (s : Service) (op : Op) (out : Outcome) (rest code : List Op) :
    Prop where
  accountable : Accountable code
  balance : ((emits w s out op).map acknowledgedIn).sum + weigh toAcknowledge code +
      weigh toHand (op :: rest) ≤
    (emits w s out op).countP isPushCallback + weigh toHand code +
      weigh toAcknowledge (op :: rest)

theorem accountStep_of_free (h : exec w c.shared op out = some eff) {rest : List Op}
    (hfree : ∀ o ∈ op :: rest, ofPush o = false) :
    AccountStep w c.shared op out rest ((machine w).resume rest eff).code := by
  have hop := hfree op List.mem_cons_self
  have hnew : ∀ o ∈ ((machine w).resume rest eff).code, ofPush o = false := by
    intro o ho
    rcases ThreadMachine.mem_resume ho with ho | ho | ⟨o', e, code, hhandler, ho⟩
    · exact ofPush_pushed h hop ho
    · exact hfree o (List.mem_cons_of_mem op ho)
    · exact ofPush_of_not_ingest (isIngest_handler hhandler ho)
  refine ⟨.inl hnew, ?_⟩
  have hold := weigh_of_no_push hfree
  have hzero := weigh_of_no_push hnew
  have hlog : ((emits w c.shared out op).map acknowledgedIn).sum = 0 ∧
      (emits w c.shared out op).countP isPushCallback = 0 := emits_of_not_push hop
  omega

/-- An error drops what was to be handed over and at least as much to be counted. -/
theorem accountStep_of_raise {rest : List Op} (hcode : PushCode (op :: rest)) (s : Service)
    (e : Error) (hlog : ((emits w c.shared out op).map acknowledgedIn).sum = 0) :
    AccountStep w c.shared op out rest ((machine w).resume rest (.raise s e)).code := by
  have hunwind : (machine w).unwind e rest = none :=
    unwind_push fun o ho => hcode.unhandled o (List.mem_cons_of_mem op ho)
  have hle := hcode.balanced.weigh_le
  simp only [ThreadMachine.resume, hunwind]
  refine ⟨.inl (by simp), ?_⟩
  rw [hlog, ThreadMachine.weigh_nil, ThreadMachine.weigh_nil]
  omega

/-- An operation of a push that goes on. -/
theorem accountStep_of_next (h : exec w c.shared op out = some eff) {rest push : List Op}
    {s : Service} {spawned : List (List Op)} (heff : eff = .next s push spawned)
    (hcode : PushCode (op :: rest)) (hbalanced : Balanced (push ++ rest))
    (hbalance : ((emits w c.shared out op).map acknowledgedIn).sum + weigh toAcknowledge push +
        toHand op ≤
      (emits w c.shared out op).countP isPushCallback + weigh toHand push + toAcknowledge op) :
    AccountStep w c.shared op out rest ((machine w).resume rest eff).code := by
  subst heff
  simp only [ThreadMachine.resume]
  refine ⟨.inr ⟨fun o ho => ?_, hbalanced⟩, ?_⟩
  · rcases List.mem_append.1 ho with ho | ho
    · exact unhandled_pushed h (hcode.unhandled op List.mem_cons_self) ho
    · exact hcode.unhandled o (List.mem_cons_of_mem op ho)
  · simp only [ThreadMachine.weigh_append, ThreadMachine.weigh_cons]
    omega

/-- A push sets out to take its events and to count them. -/
theorem accountStep_pushReplay {accepted : Nat} {endOfStream : Bool} {rest : List Op}
    (h : exec w c.shared (.ingest (.pushReplay accepted endOfStream)) out = some eff)
    (hcode : PushCode (.ingest (.pushReplay accepted endOfStream) :: rest)) :
    AccountStep w c.shared (.ingest (.pushReplay accepted endOfStream)) out rest
      ((machine w).resume rest eff).code := by
  have htail := hcode.balanced.tail
  have heff := (Option.some.inj h).symm
  simp only [execIngest] at heff
  split at heff <;> rename_i hskip
  · refine accountStep_of_next h heff hcode htail ?_
    simp [emits, ingestEmits, hskip, acknowledgedIn, toHand]
  · refine accountStep_of_next h heff hcode ?_ ?_
    · rw [List.append_assoc]
      exact htail.events (le_refl accepted)
    · simp [emits, ingestEmits, hskip, ThreadMachine.weigh, toHand, toAcknowledge]

/-- An event that is taken with an adapter is handed over before it is counted. -/
theorem accountStep_pushEvent {rest : List Op}
    (h : exec w c.shared (.ingest .pushEvent) out = some eff)
    (hadapter : c.shared.strategyAdapter = true) (hcode : PushCode (.ingest .pushEvent :: rest)) :
    AccountStep w c.shared (.ingest .pushEvent) out rest ((machine w).resume rest eff).code := by
  have heff := (Option.some.inj h).symm
  simp only [execIngest, if_pos hadapter] at heff
  refine accountStep_of_next h heff hcode ?_ ?_
  · have hle := hcode.balanced.1
    have htail := hcode.balanced.tail
    simp only [gatewayIngest, List.cons_append, List.nil_append, balanced_cons]
    simp only [ThreadMachine.weigh_cons, toHand, toAcknowledge] at hle ⊢
    exact ⟨by omega, by omega, by omega, by omega, htail⟩
  · simp [emits, ingestEmits, gatewayIngest, ThreadMachine.weigh, toHand, toAcknowledge]

theorem accountStep_startCallback {rest : List Op}
    (h : exec w c.shared (.ingest (.startCallback .pushReplayContext)) out = some eff)
    (hcode : PushCode (.ingest (.startCallback .pushReplayContext) :: rest)) :
    AccountStep w c.shared (.ingest (.startCallback .pushReplayContext)) out rest
      ((machine w).resume rest eff).code := by
  have heff := (Option.some.inj h).symm
  simp only [execIngest] at heff
  split at heff
  · refine accountStep_of_next h heff hcode hcode.balanced.tail ?_
    simp [emits, ingestEmits, isPushCallback, acknowledgedIn, toHand]
  · rw [heff]
    exact accountStep_of_raise hcode _ _ rfl

theorem accountStep (h : exec w c.shared op out = some eff) (htime : InTime c op)
    {rest : List Op} (hthread : Accountable (op :: rest)) :
    AccountStep w c.shared op out rest ((machine w).resume rest eff).code := by
  rcases hthread with hfree | hcode
  · exact accountStep_of_free h hfree
  cases hpush : ofPush op with
  | false =>
      have hlog : ((emits w c.shared out op).map acknowledgedIn).sum = 0 ∧
          (emits w c.shared out op).countP isPushCallback = 0 := emits_of_not_push hpush
      cases heff : eff with
      | raise s e => exact accountStep_of_raise hcode s e hlog.1
      | next s push spawned =>
          have hpushed : ∀ o ∈ push, ofPush o = false := fun o ho =>
            ofPush_pushed h hpush (by rw [heff]; exact ho)
          have hzero := weigh_of_no_push hpushed
          rw [← heff]
          refine accountStep_of_next h heff hcode (hcode.balanced.tail.append hpushed) ?_
          rw [hlog.1, hlog.2, hzero.1, hzero.2, toHand_of_not_push hpush,
            toAcknowledge_of_not_push hpush]
  | true =>
      cases op with
      | ingest i =>
          cases i with
          | pushReplay accepted endOfStream => exact accountStep_pushReplay h hcode
          | pushEvent => exact accountStep_pushEvent h htime.1 hcode
          | pushConsumed handed =>
              refine accountStep_of_next h (Option.some.inj h).symm hcode hcode.balanced.tail ?_
              simp [emits, ingestEmits, acknowledgedIn, toHand]
          | pushDone consumed endOfStream =>
              have heff := (Option.some.inj h).symm
              simp only [execIngest] at heff
              split at heff <;>
                exact accountStep_of_next h heff hcode hcode.balanced.tail
                  (by simp [emits, ingestEmits, acknowledgedIn, toHand, toAcknowledge])
          | startCallback source =>
              cases source with
              | pushReplayContext => exact accountStep_startCallback h hcode
              | liveTick | historicalBar => cases hpush
          | _ => cases hpush
      | _ => cases hpush

/-- A step of a thread in time keeps the accounts. -/
theorem accounted_thread {i : Nat} {rest : List Op} {f : Option Error} (hinv : Accounted c)
    (hget : c.threads[i]? = some ⟨op :: rest, f⟩) (h : exec w c.shared op out = some eff)
    (htime : InTime c op) :
    Accounted ⟨eff.shared,
      c.threads.set i ((machine w).resume rest eff) ++ eff.spawned.map .fresh⟩ := by
  have hstep := accountStep h htime (hinv.threads _ (List.mem_of_getElem? hget))
  have hspawned : ∀ code ∈ eff.spawned, ∀ o ∈ code, ofPush o = false := fun code hcode o ho =>
    ofPush_of_not_ingest (isIngest_spawned h hcode ho)
  refine ⟨?_, ?_⟩
  · exact ThreadMachine.step_forall (P := fun t => Accountable t.code) (fun t => Accountable t.code)
      hinv.threads hstep.accountable (fun code hcode => .inl (hspawned code hcode))
      fun j u _ _ hu => hu
  · have hhand := ThreadMachine.total_set (w := toHand) hget ((machine w).resume rest eff)
    have hcount := ThreadMachine.total_set (w := toAcknowledge) hget ((machine w).resume rest eff)
    have hnone : (eff.spawned.map (weigh toHand)).sum = 0 ∧
        (eff.spawned.map (weigh toAcknowledge)).sum = 0 := by
      refine ⟨List.sum_eq_zero fun n hn => ?_, List.sum_eq_zero fun n hn => ?_⟩ <;>
        rcases List.mem_map.1 hn with ⟨code, hcode, rfl⟩
      · exact (weigh_of_no_push (hspawned code hcode)).1
      · exact (weigh_of_no_push (hspawned code hcode)).2
    have hold := hinv.counted
    have hbalance := hstep.balance
    rw [exec_log h, List.map_append, List.sum_append, List.countP_append,
      ThreadMachine.total_append, ThreadMachine.total_append, ThreadMachine.total_fresh,
      ThreadMachine.total_fresh, hnone.1, hnone.2]
    dsimp only at hhand hcount ⊢
    omega

/-- What is asked of a worker has no part in a push, or is one. -/
theorem accountable_request (r : Request) :
    Accountable r.code ∧ weigh toAcknowledge r.code = 0 := by
  cases r with
  | pushReplayContext accepted endOfStream =>
      refine ⟨.inr ⟨?_, ?_⟩, rfl⟩
      · simp [Request.code, unhandled]
      · simp only [Request.code, balanced_cons]
        exact ⟨le_refl 0, le_refl 0, trivial⟩
  | _ =>
      refine ⟨.inl ?_, ?_⟩ <;>
      simp [Request.code, requestHttpStop, initiateStopFromRequest, stopWorker, runBody, ofPush,
        ThreadMachine.weigh, toAcknowledge]

/-! ## Runs -/

/-- The worker is watched and its accounts hold. -/
def Delivering (c : LifecycleConfig) : Prop :=
  Watched c ∧ Accounted c

/-- Of a worker whose methods and requests are admitted in any way. -/
theorem delivering_step {s : Service} {main : List (List Op)} {entry : Request → Option (List Op)}
    (hentry : ∀ r code, entry r = some code → code = r.code) {c d : LifecycleConfig}
    {m : LifecycleMove} (hinv : Delivering c) (htime : StepsInTime c m)
    (hstep : ((machine w).system s main entry).step c m = some d) : Delivering d := by
  cases m with
  | request r =>
      rcases ThreadMachine.system_step_request.1 hstep with ⟨code, hcode, rfl⟩
      obtain rfl := hentry r code hcode
      have hrequest := accountable_request r
      refine ⟨⟨fun t ht o ho => ?_, hinv.1.handed, hinv.1.callbacks⟩, fun t ht => ?_, ?_⟩
      · rcases List.mem_append.1 ht with ht | ht
        · exact hinv.1.relies t ht o ho
        · obtain rfl := List.mem_singleton.1 ht
          exact relies_request _ r ho
      · rcases List.mem_append.1 ht with ht | ht
        · exact hinv.2.threads t ht
        · obtain rfl := List.mem_singleton.1 ht
          exact hrequest.1
      · have hold := hinv.2.counted
        rw [ThreadMachine.total_append, ThreadMachine.total_append,
          ThreadMachine.total_singleton, ThreadMachine.total_singleton]
        simp only [Thread.fresh, hrequest.2]
        omega
  | step i out =>
      rcases ThreadMachine.stepThread_eq_some.1 hstep with ⟨op, rest, f, eff, hget, hexec, rfl⟩
      have hop : InTime c op := htime op (next_eq_some hget)
      exact ⟨watched_thread hinv.1 hget hexec hop, accounted_thread hinv.2 hget hexec hop⟩

theorem Accountable.weigh_le {code : List Op} (h : Accountable code) :
    weigh toHand code ≤ weigh toAcknowledge code := by
  rcases h with hfree | hcode
  · rw [(weigh_of_no_push hfree).1]
    exact Nat.zero_le _
  · exact hcode.balanced.weigh_le

theorem Delivering.deliversWhileOpen (h : Delivering c) : DeliversWhileOpen c.shared.log := by
  refine ⟨h.1.handed, ?_, h.1.callbacks⟩
  have hpending : total toHand c.threads ≤ total toAcknowledge c.threads :=
    List.sum_le_sum fun t ht => (h.2.threads t ht).weigh_le
  have hcounted := h.2.counted
  omega

/-- A worker that runs code without a push on its main threads. -/
theorem delivering_init {main : List (List Op)} {entry : Request → Option (List Op)}
    (hmain : ∀ code ∈ main, ∀ op ∈ code, isIngest op = false) :
    Delivering ((machine w).system .new main entry).init := by
  have hthreads : ∀ t ∈ (main.map Thread.fresh : List (Thread Op Error)),
      ∀ op ∈ t.code, isIngest op = false := by
    intro t ht op hop
    rcases List.mem_map.1 ht with ⟨code, hcode, rfl⟩
    exact hmain code hcode op hop
  have hzero : total toAcknowledge (main.map Thread.fresh : List (Thread Op Error)) = 0 := by
    refine List.sum_eq_zero fun n hn => ?_
    rcases List.mem_map.1 hn with ⟨t, ht, rfl⟩
    exact (weigh_of_no_push fun op hop => ofPush_of_not_ingest (hthreads t ht op hop)).2
  refine ⟨⟨fun t ht op hop => relies_of_not_ingest (hthreads t ht op hop), nofun, nofun⟩,
    fun t ht => .inl fun op hop => ofPush_of_not_ingest (hthreads t ht op hop), ?_⟩
  exact (congrArg (0 + ·) hzero).trans_le (Nat.zero_le _)

end

/-- When pushes take their events with an adapter while the worker is open, and the worker is closed
while no callback is on its way, events that are counted are handed over and callbacks start while
the worker is open: however its methods are called. -/
theorem deliveries_while_open (w : Wiring) (ms : List LifecycleMove) (c : LifecycleConfig)
    (htime : (serviceSystem w).Meets StepsInTime (serviceSystem w).init ms)
    (hrun : (serviceSystem w).run (serviceSystem w).init ms = some c) :
    DeliversWhileOpen c.shared.log := by
  have hdelivering : Delivering c :=
    TransitionSystem.run_invariant Delivering
      (fun _ _ _ hinv hm hstep => delivering_step (fun _ _ h => (Option.some.inj h).symm) hinv hm
        hstep)
      (delivering_init fun _ h => absurd h List.not_mem_nil) htime hrun
  exact hdelivering.deliversWhileOpen

/-- So it is in the worker process. -/
theorem worker_deliveries_while_open (w : Wiring) (ms : List LifecycleMove) (c : LifecycleConfig)
    (htime : (workerSystem w).Meets StepsInTime (workerSystem w).init ms)
    (hrun : (workerSystem w).run (workerSystem w).init ms = some c) :
    DeliversWhileOpen c.shared.log := by
  have hentry : ∀ (r : Request) (code : List Op),
      (if r.external then some r.code else none) = some code → code = r.code := by
    intro r code h
    split at h
    · exact (Option.some.inj h).symm
    · cases h
  have hmain : ∀ code ∈ [workerAppRun], ∀ op ∈ code, isIngest op = false := by
    simp [workerAppRun, runBody, isIngest]
  have hdelivering : Delivering c :=
    TransitionSystem.run_invariant Delivering
      (fun _ _ _ hinv hm hstep => delivering_step hentry hinv hm hstep) (delivering_init hmain)
      htime hrun
  exact hdelivering.deliversWhileOpen

/-! ## Pushes around a stop -/

/-- A backtest with a replay gateway and a strategy. -/
def pushedWiring : Wiring :=
  { bareWiring with replayGateway := true, strategyInstanceManager := true }

def pushOne : LifecycleMove :=
  .request (.pushReplayContext 1 false)

/-- A start that is over. -/
def startedMoves : List LifecycleMove :=
  .request .start :: steps 0 35

/-- A push that is answered before the stop. -/
def pushBeforeStop : List LifecycleMove :=
  startedMoves ++ pushOne :: steps 1 11 ++ .request (.stop shutdownThreadArgs) :: steps 2 37

/-- A push when the stop has raised its flag, and another one when it is over. -/
def pushesAfterStop : List LifecycleMove :=
  startedMoves ++ .request (.stop shutdownThreadArgs) :: steps 1 2 ++ pushOne :: steps 2 11 ++
    steps 1 35 ++ pushOne :: steps 3 7

theorem pushBeforeStop_runs : ((serviceSystem pushedWiring).run
    (serviceSystem pushedWiring).init pushBeforeStop).isSome = true := by
  decide +kernel

theorem push_before_stop : DeliversWhileOpen (((serviceSystem pushedWiring).run
    (serviceSystem pushedWiring).init pushBeforeStop).get pushBeforeStop_runs).shared.log :=
  deliveries_while_open pushedWiring pushBeforeStop _ (by decide +kernel)
    (Option.some_get pushBeforeStop_runs).symm

/-- A callback starts after the stop, and the event of a counted push reaches no adapter. -/
theorem push_after_stop : ∃ c, (serviceSystem pushedWiring).run (serviceSystem pushedWiring).init
      pushesAfterStop = some c ∧
    Event.callback .pushReplayContext true .ready ∈ c.shared.log ∧
    Event.consumed false ∈ c.shared.log ∧ c.shared.log.getLast? = some (.responded 1) ∧
    ¬ DeliversWhileOpen c.shared.log := by
  have hlog : (((serviceSystem pushedWiring).run (serviceSystem pushedWiring).init
      pushesAfterStop).map fun c => decide
        (Event.callback .pushReplayContext true .ready ∈ c.shared.log ∧
          Event.consumed false ∈ c.shared.log ∧
            c.shared.log.getLast? = some (.responded 1))) = some true := by
    decide +kernel
  rcases Option.map_eq_some_iff.1 hlog with ⟨c, hrun, hevents⟩
  rcases of_decide_eq_true hevents with ⟨hcallback, hconsumed, hlast⟩
  refine ⟨c, hrun, hcallback, hconsumed, hlast, fun hdelivers => ?_⟩
  cases (hdelivers.callbacks _ _ _ hcallback).1

end Lifecycle
end StrategyWorker
