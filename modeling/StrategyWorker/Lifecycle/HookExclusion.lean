import StrategyWorker.Application.ReplayWindow
import StrategyWorker.Lifecycle.Deliveries

/-!
# Hooks of the strategy on several threads

No lock is held while an event is delivered: {lit}`_replay_state_lock` guards
two fields around the delivery.  Two pushes on two workers of the ingress
server, or a push and a stop, call hooks of the strategy at the same time, and
each sets the clock that the hook of the other one reads.

Main results:

- Theorem {lit}`hooks_never_overlap`: hooks exclude each other and find the
  clock at the time of their event in every run in which deliveries and stops
  of the strategy wait for each other.
- Theorem {lit}`two_pushes_overlap`: two pushes that do not wait.
-/

namespace StrategyWorker
namespace Lifecycle

open Library
open Domain
open Integration
open Bootstrap
open Application
open ThreadMachine (weigh total)

/-! ## Deliveries under way -/

/-- The operations of a delivery, or of a stop of the strategy, that is under way. -/
def inside : Op ⊕ DeliveryOp → Nat
  | .inr (.onEvent _) | .inr (.setEventTime _ _) | .inr (.store _ _) | .inr (.callHook _)
  | .inr (.hookReturns _) => 1
  | _ => 0

/-- The operations that begin one: the gateway takes a tick, the live path calls the adapter, and
the instance manager stops the strategy. -/
def begins : Op ⊕ DeliveryOp → Bool
  | .inr (.ingestReplayTick _ _) | .inr (.liveDispatch _) | .inr .managerStop => true
  | _ => false

/-- The operation that thread {lit}`i` executes next. -/
def nextOp (c : DeliveryConfiguration) (i : Nat) : Option (Op ⊕ DeliveryOp) :=
  (c.threads[i]?).bind fun t => t.code.head?

/-- A delivery or a stop of the strategy begins only when no other one is under way. -/
def DeliveriesWait (c : DeliveryConfiguration) : DeliveryMove → Prop
  | .request _ => True
  | .step i _ => ∀ op ∈ nextOp c i, begins op = true → total inside c.threads = 0

instance (c : DeliveryConfiguration) (m : DeliveryMove) : Decidable (DeliveriesWait c m) := by
  unfold DeliveriesWait
  split <;> infer_instance

/-- The hook that is executing on a thread. -/
def runningHook : Thread (Op ⊕ DeliveryOp) Error → Option StrategyHook
  | ⟨.inr (.hookReturns hook) :: _, _⟩ => some hook
  | _ => none

/-- The hooks that are executing. -/
def runningHooks (c : DeliveryConfiguration) : List StrategyHook :=
  c.threads.filterMap runningHook

/-- The raw event of a hook, if it comes from batch {lit}`b`. -/
def Inbound.inBatch (b : Nat) (inbound : Inbound) : Option PyDict :=
  if inbound.origin = .batch b then some inbound.rawEvent else none

def StrategyHook.inBatch (b : Nat) : StrategyHook → Option PyDict
  | .event inbound _ => inbound.inBatch b
  | .stop => none

/-- The events of a batch that have reached the strategy, in the order in which they have. -/
def StrategySide.reachedBy (x : StrategySide) (b : Nat) : List PyDict :=
  x.reached.filterMap (StrategyHook.inBatch b)

/-- The ticks of the events of a batch, in batch order. -/
def StrategySide.batchTicks (x : StrategySide) (b : Nat) : List PyDict :=
  ((x.batches[b]?).getD []).map tickPayloadOf

/-- Hooks exclude each other, the clock shows the time of the event of the hook that is executing,
and the events of every batch reach the strategy in batch order. -/
structure HooksInTurn (c : DeliveryConfiguration) : Prop where
  single : (runningHooks c).length ≤ 1
  timed : ∀ hook ∈ runningHooks c, Shows c.shared.2.replay.clock hook.ownTime
  ordered : ∀ b, (c.shared.2.reachedBy b).Sublist (c.shared.2.batchTicks b)

section

variable {cfg : DeliveryConfig}

/-! ## Hooks exclude each other -/

@[simp]
theorem inside_lowerStop (op : Op) : inside (lowerStop op) = 0 := by
  unfold lowerStop
  split <;> rfl

theorem handler_inside (op : Op ⊕ DeliveryOp) (e : Error) (code : List (Op ⊕ DeliveryOp))
    (h : (deliveries cfg).machine.handler op e = some code) : weigh inside code ≤ inside op := by
  rw [(handler_lowered h).weigh inside_lowerStop]
  exact Nat.zero_le _

theorem inside_calls (hook : Option StrategyHook) :
    weigh inside (hook.toList.map fun h => .inr (.callHook h)) ≤ 1 := by
  cases hook with
  | none => exact Nat.zero_le _
  | some hook => exact Nat.le_refl _

/-- What an operation of the layer pushes is part of a delivery only when the operation is or when it
begins one. -/
theorem inside_pushed (cfg : DeliveryConfig) (s : Service × StrategySide) (op : DeliveryOp) (out : Outcome) :
    weigh inside (execDelivery cfg s out op).pushed ≤ inside (.inr op) ∨
      (begins (.inr op) = true ∧ weigh inside (execDelivery cfg s out op).pushed ≤ 1) := by
  cases op with
  | pushEvents b batchSimulated events consumed endOfStream =>
      left
      cases events with
      | nil => exact Nat.le_refl _
      | cons event events =>
          simp only [execDelivery, execPushEvents]
          split <;> simp [Effect.pushed, inside]
  | ingestReplayTick inbound callback =>
      right
      refine ⟨rfl, ?_⟩
      simp only [execDelivery, execIngestTick]
      split
      · simp [Effect.pushed]
      · cases callback <;> simp [Effect.pushed, inside]
  | driverPage pages =>
      left
      cases pages <;> simp only [execDelivery, finishDriver] <;> (repeat' split) <;>
        simp [Effect.pushed, inside]
  | driverBars bars pages =>
      left
      cases bars <;> simp only [execDelivery] <;> (repeat' split) <;> simp [Effect.pushed, inside]
  | onEvent inbound =>
      left
      simp only [execDelivery, execOnEvent]
      split
      · simp [Effect.pushed, inside]
      · exact inside_calls _
  | store item hook => exact .inl (inside_calls hook)
  | setEventTime e hook => exact .inl (Nat.le_refl _)
  | callHook hook => exact .inl (Nat.le_refl _)
  | liveDispatch tick => exact .inr ⟨rfl, Nat.le_refl _⟩
  | managerStop =>
      right
      refine ⟨rfl, ?_⟩
      simp only [execDelivery, Effect.pushed]
      split <;> simp [inside]
  | _ =>
      left
      simp only [execDelivery]
      (repeat' split) <;> simp [Effect.pushed, inside]

theorem inside_exec {s : Service × StrategySide} {op : Op ⊕ DeliveryOp} {out : Outcome}
    {eff : DeliveryEffect} (h : (deliveries cfg).machine.exec s op out = some eff) :
    ThreadMachine.leaves inside eff ≤ inside op ∨
      (begins op = true ∧ ThreadMachine.leaves inside eff ≤ 1) := by
  cases op with
  | inl op =>
      left
      rcases exec_base_lowered h with ⟨-, hpushed, hspawned⟩
      have hzero : (eff.spawned.map (weigh inside)).sum = 0 := by
        apply List.sum_eq_zero
        intro n hn
        rcases List.mem_map.1 hn with ⟨code, hcode, rfl⟩
        exact (hspawned code hcode).weigh inside_lowerStop
      rw [ThreadMachine.leaves, hpushed.weigh inside_lowerStop, hzero]
      exact Nat.zero_le _
  | inr own =>
      obtain rfl : execDelivery cfg s out own = eff := Option.some.inj h
      have hpushed := inside_pushed cfg s own out
      simpa [ThreadMachine.leaves, execDelivery_spawned] using hpushed

/-- No more than one delivery is under way. -/
theorem inside_total {c : DeliveryConfiguration} {i : Nat} {op : Op ⊕ DeliveryOp}
    {rest : List (Op ⊕ DeliveryOp)} {f : Option Error} {out : Outcome} {eff : DeliveryEffect}
    (hsingle : total inside c.threads ≤ 1) (hwait : DeliveriesWait c (.step i out))
    (hget : c.threads[i]? = some ⟨op :: rest, f⟩)
    (hexec : (deliveries cfg).machine.exec c.shared op out = some eff) :
    total inside (c.threads.set i ((deliveries cfg).machine.resume rest eff) ++
      eff.spawned.map .fresh) ≤ 1 := by
  have htotal := ThreadMachine.step_total (M := (deliveries cfg).machine)
    (fun o e code => handler_inside o e code) hget eff
  rcases inside_exec hexec with hle | ⟨hbegins, hle⟩
  · omega
  · have hzero := hwait op (by simp [nextOp, hget]) hbegins
    omega

theorem runningHook_weight (t : Thread (Op ⊕ DeliveryOp) Error) :
    (runningHook t).toList.length ≤ weigh inside t.code := by
  unfold runningHook
  split
  · simp [inside]
  · exact Nat.zero_le _

/-- Every hook that is executing is part of a delivery under way. -/
theorem length_runningHooks_le (c : DeliveryConfiguration) :
    (runningHooks c).length ≤ total inside c.threads := by
  unfold runningHooks total
  induction c.threads with
  | nil => exact Nat.le_refl _
  | cons t threads ih =>
      have hhead := runningHook_weight t
      rw [List.filterMap_cons]
      cases hrun : runningHook t with
      | none =>
          simp only [List.map_cons, List.sum_cons]
          omega
      | some hook =>
          rw [hrun] at hhead
          simp only [List.map_cons, List.sum_cons, List.length_cons, Option.toList_some,
            List.length_nil] at hhead ⊢
          omega

/-! ## The clock of a delivery -/

/-- The clock is where the operation needs it. -/
def Timed (clock : Option PyDateTime) : Op ⊕ DeliveryOp → Prop
  | .inr (.onEvent inbound) => Shows clock inbound.simulatedTime
  | .inr (.setEventTime e hook) => ∀ h ∈ hook, Shows (some e.now) h.ownTime
  | .inr (.store _ hook) => ∀ h ∈ hook, Shows clock h.ownTime
  | .inr (.callHook hook) | .inr (.hookReturns hook) => Shows clock hook.ownTime
  | _ => True

theorem timed_of_outside {op : Op ⊕ DeliveryOp} (h : inside op = 0) (clock : Option PyDateTime) :
    Timed clock op := by
  unfold inside at h
  split at h <;> first | contradiction | (unfold Timed; split <;> simp_all)

theorem shows_none (clock : Option PyDateTime) : Shows clock none := by
  intro t ht
  cases ht

theorem shows_of_setTime {clock now : Option PyDateTime} {time : Option PyDateTime}
    (h : time.mapM setTime = .ok now) : Shows (now <|> clock) time := by
  intro t ht
  cases ht
  cases hnow : setTime t with
  | error e => simp [Option.mapM_some, hnow, Functor.map, Except.map] at h
  | ok n =>
      obtain rfl : some n = now := by
        simpa [Option.mapM_some, hnow, Functor.map, Except.map] using h
      exact ⟨n, rfl, astimezoneUtc_ok hnow⟩

theorem store_clock (st : ReplayState) (item : Option Item) :
    (item.elim st st.store).clock = st.clock := by
  cases item with
  | none => rfl
  | some item => cases item <;> rfl

/-- Only an operation that begins a delivery or is part of one writes the clock. -/
theorem clock_execDelivery (cfg : DeliveryConfig) (s : Service × StrategySide) (op : DeliveryOp) (out : Outcome) :
    (execDelivery cfg s out op).shared.2.replay.clock = s.2.replay.clock ∨
      begins (.inr op) = true ∨ inside (.inr op) = 1 := by
  cases op with
  | ingestReplayTick _ _ => exact .inr (.inl rfl)
  | setEventTime _ _ => exact .inr (.inr rfl)
  | store _ _ => exact .inr (.inr rfl)
  | onEvent _ => exact .inr (.inr rfl)
  | pushEvents b batchSimulated events consumed endOfStream =>
      left
      cases events with
      | nil => rfl
      | cons event events =>
          simp only [execDelivery, execPushEvents]
          split <;> rfl
  | driverPage pages =>
      left
      cases pages <;> simp only [execDelivery, finishDriver] <;> (repeat' split) <;> rfl
  | driverBars bars pages =>
      left
      cases bars <;> simp only [execDelivery] <;> (try split) <;> rfl
  | _ =>
      left
      simp only [execDelivery]
      first | rfl | (repeat' split) <;> rfl

/-- A hook that {lit}`StrategyAdapter.on_event` calls at once is timed by the clock as it is. -/
theorem timed_onEvent (cfg : DeliveryConfig) (s : Service × StrategySide) (inbound : Inbound) (indicatorRaises : Bool)
    (h : Shows s.2.replay.clock inbound.simulatedTime) :
    ∀ op ∈ (execOnEvent cfg s inbound indicatorRaises).pushed, Timed s.2.replay.clock op := by
  have hown : ∀ hook ∈ (Bootstrap.onEvent cfg.adapter s.2.replay
      ⟨inbound.rawEvent, indicatorRaises⟩).2.map (StrategyHook.event inbound),
      ∃ call, hook = .event inbound call ∧ (Bootstrap.onEvent cfg.adapter s.2.replay
        ⟨inbound.rawEvent, indicatorRaises⟩).2 = some call := by
    intro hook hhook
    rcases Option.map_eq_some_iff.1 hhook with ⟨call, hcall, rfl⟩
    exact ⟨call, rfl, hcall⟩
  intro op hop
  simp only [execOnEvent] at hop
  split at hop
  · rename_i e heffect
    obtain rfl := List.mem_singleton.1 hop
    intro hook hhook
    rcases hown hook hhook with ⟨call, rfl, hcall⟩
    rcases onEvent_time hcall with ⟨e', t, he', htime, hnow⟩ | ⟨hnone, -⟩
    · rw [heffect] at he'
      cases he'
      intro t' ht'
      simp only [StrategyHook.ownTime, htime] at ht'
      cases ht'
      exact ⟨e.now, rfl, hnow⟩
    · rw [heffect] at hnone
      cases hnone
  · rename_i heffect
    rcases List.mem_map.1 hop with ⟨hook, hhook, rfl⟩
    rcases hown hook (Option.mem_toList.1 hhook) with ⟨call, rfl, hcall⟩
    rcases onEvent_time hcall with ⟨e', t, he', -⟩ | ⟨-, htime⟩
    · rw [heffect] at he'
      cases he'
    · have hown : (StrategyHook.event inbound call).ownTime = inbound.simulatedTime := by
        rw [StrategyHook.ownTime, htime]
        cases inbound.simulatedTime <;> rfl
      simp only [Timed, hown]
      exact h

/-- What an operation pushes is timed when the operation is. -/
theorem timed_pushed (s : Service × StrategySide) (op : DeliveryOp) (out : Outcome)
    (h : Timed s.2.replay.clock (.inr op)) :
    ∀ o ∈ (execDelivery cfg s out op).pushed,
      Timed (execDelivery cfg s out op).shared.2.replay.clock o := by
  by_cases houtside : inside (.inr op) = 0 ∧ begins (.inr op) = false
  · intro o ho
    apply timed_of_outside
    have hmem := ThreadMachine.le_weigh_of_mem (w := inside) ho
    rcases inside_pushed cfg s op out with hle | ⟨hbegins, -⟩
    · omega
    · rw [houtside.2] at hbegins
      cases hbegins
  cases op with
  | ingestReplayTick inbound callback =>
      simp only [execDelivery, execIngestTick]
      split
      · simp [Effect.pushed]
      · rename_i now hnow
        cases callback with
        | false => simp [Effect.pushed, Timed]
        | true =>
            simp only [Effect.pushed, Effect.shared, StrategySide.setClock, if_true]
            intro o ho
            simp only [List.cons_append, List.nil_append, List.mem_cons, List.not_mem_nil,
              or_false] at ho
            rcases ho with rfl | rfl | rfl
            · trivial
            · trivial
            · exact shows_of_setTime hnow
  | onEvent inbound =>
      have hpushed := timed_onEvent cfg s inbound out.error.isSome h
      have hclock : (execOnEvent cfg s inbound out.error.isSome).shared = s := by
        simp only [execOnEvent]
        split <;> rfl
      intro o ho
      change Timed (execOnEvent cfg s inbound out.error.isSome).shared.2.replay.clock o
      rw [hclock]
      exact hpushed o ho
  | setEventTime e hook =>
      intro o ho
      obtain rfl := List.mem_singleton.1 ho
      exact h
  | store item hook =>
      intro o ho
      rcases List.mem_map.1 ho with ⟨hook, hhook, rfl⟩
      have hshows := h hook (Option.mem_toList.1 hhook)
      simp only [execDelivery, Effect.shared, Timed]
      rwa [store_clock]
  | callHook hook =>
      intro o ho
      obtain rfl := List.mem_singleton.1 ho
      exact h
  | liveDispatch tick =>
      intro o ho
      obtain rfl := List.mem_singleton.1 ho
      exact shows_none _
  | managerStop =>
      intro o ho
      simp only [execDelivery, Effect.pushed] at ho
      split at ho
      · obtain rfl := List.mem_singleton.1 ho
        exact shows_none _
      · cases ho
  | hookReturns hook =>
      simp only [execDelivery]
      split <;> simp [Effect.pushed]
  | _ => exact absurd ⟨rfl, rfl⟩ houtside

/-- No more than one delivery is under way, and the clock is where its operation needs it. -/
structure Serialized (c : DeliveryConfiguration) : Prop where
  single : total inside c.threads ≤ 1
  timed : ∀ t ∈ c.threads, ∀ op ∈ t.code, Timed c.shared.2.replay.clock op

/-- A step of a thread keeps that. -/
theorem serialized_thread {c : DeliveryConfiguration} {i : Nat} {op : Op ⊕ DeliveryOp}
    {rest : List (Op ⊕ DeliveryOp)} {f : Option Error} {out : Outcome} {eff : DeliveryEffect}
    (hinv : Serialized c) (hwait : DeliveriesWait c (.step i out))
    (hget : c.threads[i]? = some ⟨op :: rest, f⟩)
    (hexec : (deliveries cfg).machine.exec c.shared op out = some eff) :
    Serialized ⟨eff.shared, c.threads.set i ((deliveries cfg).machine.resume rest eff) ++
      eff.spawned.map .fresh⟩ := by
  refine ⟨inside_total hinv.single hwait hget hexec, ?_⟩
  have hself := hinv.timed _ (List.mem_of_getElem? hget)
  -- the clock stays, or nothing else is under way
  have hclock : eff.shared.2.replay.clock = c.shared.2.replay.clock ∨
      total inside c.threads ≤ inside op := by
    cases op with
    | inl op =>
        left
        rw [(exec_base_lowered hexec).1]
    | inr own =>
        obtain rfl : execDelivery cfg c.shared out own = eff := Option.some.inj hexec
        rcases clock_execDelivery cfg c.shared own out with hsame | hbegins | hinside
        · exact .inl hsame
        · right
          rw [hwait _ (by simp [nextOp, hget]) hbegins]
          exact Nat.zero_le _
        · right
          rw [hinside]
          exact hinv.single
  have hold : ∀ o, (inside op + inside o ≤ total inside c.threads) →
      Timed c.shared.2.replay.clock o → Timed eff.shared.2.replay.clock o := by
    intro o hle ho
    rcases hclock with hsame | htotal
    · rw [hsame]
      exact ho
    · exact timed_of_outside (by omega) _
  refine ThreadMachine.step_forall (P := fun t => ∀ op ∈ t.code, Timed c.shared.2.replay.clock op)
    (fun t => ∀ op ∈ t.code, Timed eff.shared.2.replay.clock op) hinv.timed ?_ ?_ ?_
  · intro o ho
    rcases ThreadMachine.mem_resume ho with ho | ho | ⟨o', e, code, hcode, ho⟩
    · cases op with
      | inl op =>
          rcases (exec_base_lowered hexec).2.1 o ho with ⟨below, rfl⟩
          exact timed_of_outside (inside_lowerStop below) _
      | inr own =>
          obtain rfl : execDelivery cfg c.shared out own = eff := Option.some.inj hexec
          exact timed_pushed c.shared own out (hself _ List.mem_cons_self) o ho
    · have hle := ThreadMachine.weigh_le_total (w := inside) hget
      have hmem := ThreadMachine.le_weigh_of_mem (w := inside) ho
      rw [ThreadMachine.weigh_cons] at hle
      exact hold o (by omega) (hself o (List.mem_cons_of_mem _ ho))
    · rcases handler_lowered hcode o ho with ⟨below, rfl⟩
      exact timed_of_outside (inside_lowerStop below) _
  · intro code hcode o ho
    cases op with
    | inl op =>
        rcases (exec_base_lowered hexec).2.2 code hcode o ho with ⟨below, rfl⟩
        exact timed_of_outside (inside_lowerStop below) _
    | inr own =>
        obtain rfl : execDelivery cfg c.shared out own = eff := Option.some.inj hexec
        rw [execDelivery_spawned] at hcode
        cases hcode
  · intro j u hji hj hu o ho
    have hle := ThreadMachine.weigh_add_le_total (w := inside) hget hj (Ne.symm hji)
    have hmem := ThreadMachine.le_weigh_of_mem (w := inside) ho
    rw [ThreadMachine.weigh_cons] at hle
    exact hold o (by omega) (hu o ho)

theorem serialized_step (s₀ : Service) (replay : ReplayState) {c d : DeliveryConfiguration}
    {m : DeliveryMove} (hinv : Serialized c) (hwait : DeliveriesWait c m)
    (hstep : (deliverySystem cfg s₀ replay).step c m = some d) : Serialized d := by
  cases m with
  | request r =>
      rcases ThreadMachine.system_step_request.1 hstep with ⟨code, hcode, rfl⟩
      cases hcode
      have hzero : weigh inside (r.code cfg) = 0 :=
        weigh_request inside_lowerStop (fun _ => rfl) (fun _ => rfl) (fun _ => rfl) r
      constructor
      · rw [ThreadMachine.total_append, ThreadMachine.total_singleton]
        have hsingle := hinv.single
        simp only [Thread.fresh, hzero]
        omega
      · intro t ht op hop
        rcases List.mem_append.1 ht with ht | ht
        · exact hinv.timed t ht op hop
        · obtain rfl := List.mem_singleton.1 ht
          have hmem := ThreadMachine.le_weigh_of_mem (w := inside) hop
          simp only [Thread.fresh] at hmem
          exact timed_of_outside (by omega) _
  | step i out =>
      rcases ThreadMachine.stepThread_eq_some.1 hstep with ⟨op, rest, f, eff, hget, hexec, rfl⟩
      exact serialized_thread hinv hwait hget hexec

/-! ## Batches in order -/

def Inbound.batch (inbound : Inbound) : Option Nat :=
  match inbound.origin with
  | .batch b => some b
  | _ => none

def StrategyHook.batch : StrategyHook → Option Nat
  | .event inbound _ => inbound.batch
  | .stop => none

/-- The batch that an operation still has events of. -/
def batchOf : Op ⊕ DeliveryOp → Option Nat
  | .inr (.pushEvents b _ _ _ _) => some b
  | .inr (.ingestReplayTick inbound _) | .inr (.onEvent inbound) => inbound.batch
  | .inr (.setEventTime _ hook) | .inr (.store _ hook) => hook.bind StrategyHook.batch
  | .inr (.callHook hook) => hook.batch
  | _ => none

def batchWeight (b : Nat) (op : Op ⊕ DeliveryOp) : Nat :=
  if batchOf op = some b then 1 else 0

/-- The ticks of a batch that an operation still has to bring to the strategy. -/
def pending (b : Nat) : Op ⊕ DeliveryOp → List PyDict
  | .inr (.pushEvents b' _ events _ _) => if b' = b then events.map tickPayloadOf else []
  | .inr (.ingestReplayTick inbound _) | .inr (.onEvent inbound) => (inbound.inBatch b).toList
  | .inr (.setEventTime _ hook) | .inr (.store _ hook) =>
      (hook.bind (StrategyHook.inBatch b)).toList
  | .inr (.callHook hook) => (hook.inBatch b).toList
  | _ => []

theorem inbound_inBatch_eq_none {b : Nat} {inbound : Inbound} (h : inbound.batch ≠ some b) :
    inbound.inBatch b = none := by
  unfold Inbound.inBatch
  split
  · rename_i horigin
    simp [Inbound.batch, horigin] at h
  · rfl

theorem hook_inBatch_eq_none {b : Nat} {hook : StrategyHook} (h : hook.batch ≠ some b) :
    hook.inBatch b = none := by
  cases hook with
  | event inbound call => exact inbound_inBatch_eq_none h
  | stop => rfl

theorem pending_eq_nil {b : Nat} {op : Op ⊕ DeliveryOp} (h : batchWeight b op = 0) :
    pending b op = [] := by
  have hbatch : batchOf op ≠ some b := by
    intro heq
    simp [batchWeight, heq] at h
  have hhook : ∀ hook : Option StrategyHook, hook.bind StrategyHook.batch ≠ some b →
      (hook.bind (StrategyHook.inBatch b)).toList = [] := by
    intro hook hne
    cases hook with
    | none => rfl
    | some hook => rw [Option.bind_some, hook_inBatch_eq_none hne, Option.toList_none]
  cases op with
  | inl op => rfl
  | inr own =>
      cases own with
      | pushEvents b' _ events _ _ => exact if_neg fun heq => hbatch (congrArg some heq)
      | ingestReplayTick inbound callback =>
          rw [pending, inbound_inBatch_eq_none hbatch, Option.toList_none]
      | onEvent inbound => rw [pending, inbound_inBatch_eq_none hbatch, Option.toList_none]
      | setEventTime e hook => exact hhook hook hbatch
      | store item hook => exact hhook hook hbatch
      | callHook hook => exact hhook (some hook) hbatch
      | _ => rfl

@[simp]
theorem batchWeight_lowerStop (b : Nat) (op : Op) : batchWeight b (lowerStop op) = 0 := by
  unfold lowerStop
  split <;> rfl

/-- The ticks that a thread still has to bring to the strategy. -/
theorem flatMap_pending_eq_nil {b : Nat} {code : List (Op ⊕ DeliveryOp)}
    (h : weigh (batchWeight b) code = 0) : code.flatMap (pending b) = [] := by
  apply List.flatMap_eq_nil_iff.2
  intro op hop
  have hle := ThreadMachine.le_weigh_of_mem (w := batchWeight b) hop
  exact pending_eq_nil (by omega)

theorem reachedBy_append (x : StrategySide) (hook : StrategyHook) (b : Nat) :
    { x with reached := x.reached ++ [hook] }.reachedBy b =
      x.reachedBy b ++ (hook.inBatch b).toList := by
  simp only [StrategySide.reachedBy, List.filterMap_append]
  cases h : hook.inBatch b <;> simp [h]

theorem batchWeight_eq_zero {b : Nat} {op : Op ⊕ DeliveryOp} (h : batchOf op ≠ some b) :
    batchWeight b op = 0 :=
  if_neg h

theorem weigh_calls {b : Nat} {hook : Option StrategyHook}
    (h : hook.bind StrategyHook.batch ≠ some b) :
    weigh (batchWeight b) (hook.toList.map fun h => .inr (.callHook h)) = 0 := by
  cases hook with
  | none => rfl
  | some hook =>
      have hzero : batchWeight b (.inr (.callHook hook)) = 0 := batchWeight_eq_zero h
      exact hzero

theorem pending_calls (b : Nat) (hook : Option StrategyHook) :
    (hook.toList.map fun h => (.inr (.callHook h) : Op ⊕ DeliveryOp)).flatMap (pending b) =
      (hook.bind (StrategyHook.inBatch b)).toList := by
  cases hook with
  | none => rfl
  | some hook => simp [pending]

/-- What {lit}`push_replay_context` pushes for its next event. -/
theorem batch_pushEvents (cfg : DeliveryConfig) (s : Service × StrategySide) (b b' : Nat)
    (batchSimulated : Option PyDateTime) (consumed : Nat) (endOfStream : Bool)
    (events : List PyDict) :
    (b' ≠ b → weigh (batchWeight b)
        (execPushEvents cfg s b' batchSimulated consumed endOfStream events).pushed = 0) ∧
      ((execPushEvents cfg s b' batchSimulated consumed endOfStream events).pushed.flatMap
        (pending b)).Sublist (if b' = b then events.map tickPayloadOf else []) := by
  have hother : b' ≠ b → weigh (batchWeight b)
      (execPushEvents cfg s b' batchSimulated consumed endOfStream events).pushed = 0 := by
    intro hne
    cases events with
    | nil => rfl
    | cons event events =>
        simp only [execPushEvents]
        split <;> simp [Effect.pushed, batchWeight, batchOf, Inbound.batch, hne]
  refine ⟨hother, ?_⟩
  by_cases hb : b' = b
  · subst hb
    rw [if_pos rfl]
    cases events with
    | nil => exact List.Sublist.refl _
    | cons event events =>
        simp only [execPushEvents]
        split
        · exact List.nil_sublist _
        · simp [Effect.pushed, pending]
        · rename_i tickPayload effectiveSim hadmit
          rcases admitEvent_eq_some hadmit with ⟨-, -, rfl, -⟩
          simp [Effect.pushed, pending, Inbound.inBatch]
  · rw [flatMap_pending_eq_nil (hother hb)]
    exact List.nil_sublist _

/-- What {lit}`StrategyAdapter.on_event` pushes brings the tick of its event to the strategy. -/
theorem batch_onEvent (cfg : DeliveryConfig) (s : Service × StrategySide) (inbound : Inbound) (indicatorRaises : Bool)
    (b : Nat) :
    (inbound.batch ≠ some b →
        weigh (batchWeight b) (execOnEvent cfg s inbound indicatorRaises).pushed = 0) ∧
      ((execOnEvent cfg s inbound indicatorRaises).pushed.flatMap (pending b)).Sublist
        (inbound.inBatch b).toList := by
  have hhook : ∀ call : Option HookCall,
      (inbound.batch ≠ some b →
        (call.map (StrategyHook.event inbound)).bind StrategyHook.batch ≠ some b) ∧
      ((call.map (StrategyHook.event inbound)).bind (StrategyHook.inBatch b)).toList.Sublist
        (inbound.inBatch b).toList := by
    intro call
    cases call with
    | none => exact ⟨fun _ => nofun, List.nil_sublist _⟩
    | some call => exact ⟨id, List.Sublist.refl _⟩
  simp only [execOnEvent]
  split
  · refine ⟨fun hne => ?_, ?_⟩
    · simp only [Effect.pushed, ThreadMachine.weigh_cons, ThreadMachine.weigh_nil]
      exact batchWeight_eq_zero ((hhook _).1 hne)
    · simpa [Effect.pushed, pending] using (hhook _).2
  · refine ⟨fun hne => ?_, ?_⟩
    · exact weigh_calls ((hhook _).1 hne)
    · rw [Effect.pushed, pending_calls]
      exact (hhook _).2

/-- An operation keeps to the batch that it is of, and brings its ticks to the strategy in order. -/
structure BatchStep (b : Nat) (x : StrategySide) (op : Op ⊕ DeliveryOp) (eff : DeliveryEffect) :
    Prop where
  others : batchOf op ≠ some b → weigh (batchWeight b) eff.pushed = 0
  order : (eff.shared.2.reachedBy b ++ eff.pushed.flatMap (pending b)).Sublist
    (x.reachedBy b ++ pending b op)
  ticks : eff.shared.2.batchTicks b = x.batchTicks b
  grows : x.batches.length ≤ eff.shared.2.batches.length

section

variable {b : Nat} {x : StrategySide} {op : Op ⊕ DeliveryOp} {eff : DeliveryEffect}

theorem batchTicks_of_batches {x y : StrategySide} (h : y.batches = x.batches) (b : Nat) :
    y.batchTicks b = x.batchTicks b := by
  rw [StrategySide.batchTicks, StrategySide.batchTicks, h]

/-- An operation that calls no hook. -/
theorem BatchStep.of_reached (hreached : eff.shared.2.reached = x.reached)
    (hbatches : eff.shared.2.batches = x.batches)
    (hothers : batchOf op ≠ some b → weigh (batchWeight b) eff.pushed = 0)
    (hpushed : (eff.pushed.flatMap (pending b)).Sublist (pending b op)) :
    BatchStep b x op eff where
  others := hothers
  ticks := batchTicks_of_batches hbatches b
  grows := hbatches ▸ Nat.le_refl _
  order := by
    rw [StrategySide.reachedBy, hreached]
    exact hpushed.append_left _

/-- An operation that is followed by nothing of the batch. -/
theorem BatchStep.of_free (hreached : eff.shared.2.reached = x.reached)
    (hbatches : eff.shared.2.batches = x.batches)
    (hzero : weigh (batchWeight b) eff.pushed = 0) : BatchStep b x op eff := by
  refine .of_reached hreached hbatches (fun _ => hzero) ?_
  rw [flatMap_pending_eq_nil hzero]
  exact List.nil_sublist _

end

/-- Every operation but the start of the batch does. -/
theorem batchStep_own (s : Service × StrategySide) (op : DeliveryOp) (out : Outcome) {b : Nat}
    (hnew : ∀ payload, op = .pushReplay payload → b ≠ s.2.batches.length) :
    BatchStep b s.2 (.inr op) (execDelivery cfg s out op) := by
  cases op with
  | pushReplay payload =>
      have hne := hnew payload rfl
      simp only [execDelivery]
      split
      · exact .of_free rfl rfl rfl
      · have hzero : batchWeight b (.inr (.pushEvents s.2.batches.length
            (parseDatetime (payload.get "simulated_time")) (eventList payload) 0
            (payload.get "end_of_stream").truthy)) = 0 :=
          batchWeight_eq_zero fun heq => hne (Option.some.inj heq).symm
        refine ⟨fun _ => by simpa [Effect.pushed] using hzero, ?_, ?_, ?_⟩
        · have hpending := pending_eq_nil hzero
          simp only [Effect.pushed, List.flatMap_cons, List.flatMap_nil, hpending]
          simp [Effect.shared, StrategySide.reachedBy]
        · simp only [StrategySide.batchTicks, Effect.shared]
          congr 2
          by_cases hlt : b < s.2.batches.length
          · rw [List.getElem?_append_left hlt]
          · rw [List.getElem?_eq_none (by simp; omega), List.getElem?_eq_none (by omega)]
        · simp [Effect.shared]
  | pushEvents b' batchSimulated events consumed endOfStream =>
      have hpush := batch_pushEvents cfg s b b' batchSimulated consumed endOfStream events
      have hshared : (execPushEvents cfg s b' batchSimulated consumed endOfStream events).shared =
          s := by
        cases events with
        | nil => rfl
        | cons event events =>
            simp only [execPushEvents]
            split <;> rfl
      refine .of_reached ?_ ?_ (fun hne => hpush.1 fun heq => hne (congrArg some heq)) hpush.2
      · exact congrArg (fun t => t.2.reached) hshared
      · exact congrArg (fun t => t.2.batches) hshared
  | ingestReplayTick inbound callback =>
      simp only [execDelivery, execIngestTick]
      split
      · exact .of_free rfl rfl rfl
      · cases callback with
        | false => exact .of_free rfl rfl rfl
        | true =>
            refine .of_reached rfl rfl (fun hne => ?_) ?_
            · have hne : inbound.batch ≠ some b := hne
              simp [Effect.pushed, batchWeight, batchOf, hne]
            · simp [Effect.pushed, pending]
  | onEvent inbound =>
      have hevent := batch_onEvent cfg s inbound out.error.isSome b
      have hshared : (execOnEvent cfg s inbound out.error.isSome).shared = s := by
        simp only [execOnEvent]
        split <;> rfl
      refine .of_reached ?_ ?_ hevent.1 hevent.2
      · exact congrArg (fun t => t.2.reached) hshared
      · exact congrArg (fun t => t.2.batches) hshared
  | setEventTime e hook =>
      refine .of_reached rfl rfl (fun hne => ?_) ?_
      · simp only [execDelivery, Effect.pushed, ThreadMachine.weigh_cons, ThreadMachine.weigh_nil]
        have hzero : batchWeight b (.inr (.store e.item hook)) = 0 := batchWeight_eq_zero hne
        exact hzero
      · simp [execDelivery, Effect.pushed, pending]
  | store item hook =>
      refine .of_reached rfl rfl (fun hne => weigh_calls hne) ?_
      exact (pending_calls b hook).symm ▸ List.Sublist.refl _
  | callHook hook =>
      refine ⟨fun _ => rfl, ?_, rfl, Nat.le_refl _⟩
      simp only [execDelivery, Effect.shared, Effect.pushed]
      rw [reachedBy_append]
      simp [pending]
  | driverPage pages =>
      apply BatchStep.of_free <;> cases pages <;> simp only [execDelivery, finishDriver] <;>
        (repeat' split) <;> rfl
  | driverBars bars pages =>
      apply BatchStep.of_free <;> cases bars <;> simp only [execDelivery] <;> (try split) <;> rfl
  | _ =>
      apply BatchStep.of_free <;> simp only [execDelivery] <;>
        first | rfl | ((repeat' split) <;> rfl)

theorem batchStep_base {s : Service × StrategySide} {op : Op} {out : Outcome}
    {eff : DeliveryEffect} (h : (deliveries cfg).machine.exec s (.inl op) out = some eff) (b : Nat) :
    BatchStep b s.2 (.inl op) eff := by
  rcases exec_base_lowered h with ⟨hshared, hpushed, -⟩
  exact .of_free (congrArg StrategySide.reached hshared) (congrArg StrategySide.batches hshared)
    (hpushed.weigh (batchWeight_lowerStop b))

/-- The events of a batch are with one thread, which brings them to the strategy in order. -/
structure InOrder (b : Nat) (c : DeliveryConfiguration) : Prop where
  exclusive : ThreadMachine.Exclusive (batchWeight b) c.threads
  fresh : c.shared.2.batches.length ≤ b →
    total (batchWeight b) c.threads = 0 ∧ c.shared.2.reachedBy b = []
  reached : (c.shared.2.reachedBy b).Sublist (c.shared.2.batchTicks b)
  ahead : ∀ t ∈ c.threads,
    (c.shared.2.reachedBy b ++ t.code.flatMap (pending b)).Sublist (c.shared.2.batchTicks b)

theorem handler_pending (b : Nat) (op : Op ⊕ DeliveryOp) (e : Error) (code : List (Op ⊕ DeliveryOp))
    (h : (deliveries cfg).machine.handler op e = some code) :
    (code.flatMap (pending b)).Sublist (pending b op) := by
  rw [flatMap_pending_eq_nil ((handler_lowered h).weigh (batchWeight_lowerStop b))]
  exact List.nil_sublist _

theorem handler_batchWeight (b : Nat) (op : Op ⊕ DeliveryOp) (e : Error)
    (code : List (Op ⊕ DeliveryOp)) (h : (deliveries cfg).machine.handler op e = some code) :
    weigh (batchWeight b) code ≤ batchWeight b op := by
  rw [(handler_lowered h).weigh (batchWeight_lowerStop b)]
  exact Nat.zero_le _

section

variable {c : DeliveryConfiguration} {i : Nat} {op : Op ⊕ DeliveryOp}
  {rest : List (Op ⊕ DeliveryOp)} {f : Option Error} {eff : DeliveryEffect} {b : Nat}

/-- Threads that are started bring nothing to the strategy. -/
theorem leaves_eq_pushed
    (hspawned : ∀ code ∈ eff.spawned, weigh (batchWeight b) code = 0) :
    ThreadMachine.leaves (batchWeight b) eff = weigh (batchWeight b) eff.pushed := by
  have hzero : (eff.spawned.map (weigh (batchWeight b))).sum = 0 := by
    apply List.sum_eq_zero
    intro n hn
    rcases List.mem_map.1 hn with ⟨code, hcode, rfl⟩
    exact hspawned code hcode
  rw [ThreadMachine.leaves, hzero, Nat.add_zero]

/-- The stepping thread after an operation that keeps to its batch. -/
theorem ahead_self (cfg : DeliveryConfig) (hinv : InOrder b c) (hget : c.threads[i]? = some ⟨op :: rest, f⟩)
    (hstep : BatchStep b c.shared.2 op eff) :
    (eff.shared.2.reachedBy b ++
      ((deliveries cfg).machine.resume rest eff).code.flatMap (pending b)).Sublist
        (c.shared.2.batchTicks b) := by
  have hahead := hinv.ahead _ (List.mem_of_getElem? hget)
  rw [List.flatMap_cons, ← List.append_assoc] at hahead
  have hresume := ThreadMachine.flatMap_resume_sublist (M := (deliveries cfg).machine)
    (handler_pending b) rest eff
  calc (eff.shared.2.reachedBy b ++
        ((deliveries cfg).machine.resume rest eff).code.flatMap (pending b)).Sublist
        (eff.shared.2.reachedBy b ++
          (eff.pushed.flatMap (pending b) ++ rest.flatMap (pending b))) := hresume.append_left _
    _ = (eff.shared.2.reachedBy b ++ eff.pushed.flatMap (pending b)) ++
          rest.flatMap (pending b) := (List.append_assoc _ _ _).symm
    List.Sublist _ ((c.shared.2.reachedBy b ++ pending b op) ++ rest.flatMap (pending b)) :=
          hstep.order.append_right _
    List.Sublist _ (c.shared.2.batchTicks b) := hahead

/-- So the events of the batch stay in order. -/
theorem inOrder_thread (hinv : InOrder b c) (hget : c.threads[i]? = some ⟨op :: rest, f⟩)
    (hstep : BatchStep b c.shared.2 op eff)
    (hspawned : ∀ code ∈ eff.spawned, weigh (batchWeight b) code = 0) :
    InOrder b ⟨eff.shared, c.threads.set i ((deliveries cfg).machine.resume rest eff) ++
      eff.spawned.map .fresh⟩ := by
  have hself := ahead_self cfg hinv hget hstep
  have hleaves := leaves_eq_pushed hspawned
  have hfree : batchWeight b op = 0 → weigh (batchWeight b) eff.pushed = 0 := by
    intro hzero
    refine hstep.others fun heq => ?_
    simp [batchWeight, heq] at hzero
  have hreached : (eff.shared.2.reachedBy b).Sublist (c.shared.2.batchTicks b) :=
    (List.sublist_append_left _ _).trans hself
  constructor
  · refine ThreadMachine.Exclusive.append (hinv.exclusive.set hget fun hzero => .inl ?_) hspawned
    rw [ThreadMachine.weigh_cons] at hzero
    have hle := ThreadMachine.weigh_resume_le (M := (deliveries cfg).machine)
      (handler_batchWeight b) rest eff
    have hpushed := hfree (by omega)
    omega
  · intro hlen
    rcases hinv.fresh (hstep.grows.trans hlen) with ⟨htotal, hnone⟩
    have hle := ThreadMachine.weigh_le_total (w := batchWeight b) hget
    rw [ThreadMachine.weigh_cons] at hle
    have hop : batchWeight b op = 0 := by omega
    have hsum := ThreadMachine.step_total (M := (deliveries cfg).machine)
      (handler_batchWeight b) hget eff
    have hpushed := hfree hop
    have hzero : total (batchWeight b) (c.threads.set i ((deliveries cfg).machine.resume rest eff) ++
        eff.spawned.map .fresh) = 0 := by omega
    refine ⟨hzero, ?_⟩
    have horder := hstep.order
    rw [hnone, pending_eq_nil hop] at horder
    exact (List.append_eq_nil_iff.1 (List.sublist_nil.1 horder)).1
  · rw [hstep.ticks]
    exact hreached
  · rw [hstep.ticks]
    refine ThreadMachine.step_forall
      (P := fun t => (c.shared.2.reachedBy b ++ t.code.flatMap (pending b)).Sublist
        (c.shared.2.batchTicks b))
      (fun t => (eff.shared.2.reachedBy b ++ t.code.flatMap (pending b)).Sublist
        (c.shared.2.batchTicks b)) hinv.ahead hself ?_ ?_
    · intro code hcode
      have hnil := flatMap_pending_eq_nil (hspawned code hcode)
      simpa only [Thread.fresh, hnil, List.append_nil] using hreached
    · intro j u hji hj hu
      rcases hinv.exclusive i j _ u (Ne.symm hji) hget hj with hzero | hzero
      · -- the operation is of another batch
        rw [ThreadMachine.weigh_cons] at hzero
        have horder := hstep.order
        rw [pending_eq_nil (by omega), List.append_nil] at horder
        exact (((List.sublist_append_left _ _).trans horder).append_right _).trans hu
      · rw [flatMap_pending_eq_nil hzero, List.append_nil]
        exact hreached

/-- A new batch is with the thread of its push. -/
theorem inOrder_newBatch (hinv : InOrder b c) (hget : c.threads[i]? = some ⟨op :: rest, f⟩)
    (hb : b = c.shared.2.batches.length) {s : Service} {events : List PyDict}
    {batchSimulated : Option PyDateTime} {endOfStream : Bool}
    (heff : eff = .next (s, { c.shared.2 with batches := c.shared.2.batches ++ [events] })
      [.inr (.pushEvents b batchSimulated events 0 endOfStream)] []) :
    InOrder b ⟨eff.shared, c.threads.set i ((deliveries cfg).machine.resume rest eff) ++
      eff.spawned.map .fresh⟩ := by
  subst heff
  rcases hinv.fresh hb.ge with ⟨htotal, hnone⟩
  have hnone' : ({ c.shared.2 with batches := c.shared.2.batches ++ [events] } :
      StrategySide).reachedBy b = [] := hnone
  have hticks : ({ c.shared.2 with batches := c.shared.2.batches ++ [events] } :
      StrategySide).batchTicks b = events.map tickPayloadOf := by
    simp [StrategySide.batchTicks, hb]
  have hzero : ∀ (j : Nat) u, c.threads[j]? = some u → weigh (batchWeight b) u.code = 0 := by
    intro j u hj
    have hle := ThreadMachine.weigh_le_total (w := batchWeight b) hj
    omega
  have hrest := hzero i _ hget
  rw [ThreadMachine.weigh_cons] at hrest
  constructor
  · simp only [Effect.spawned, List.map_nil, List.append_nil]
    exact hinv.exclusive.set hget fun _ => .inr fun j u _ hj => hzero j u hj
  · intro hlen
    simp only [Effect.shared, List.length_append, List.length_singleton] at hlen
    omega
  · simp only [Effect.shared, hnone']
    exact List.nil_sublist _
  · simp only [Effect.shared, Effect.spawned, hnone', hticks, List.nil_append]
    refine ThreadMachine.step_forall (P := fun t => True)
      (fun t => (t.code.flatMap (pending b)).Sublist (events.map tickPayloadOf))
      (fun _ _ => trivial) ?_ (by simp) ?_
    · have hbehind : rest.flatMap (pending b) = [] := flatMap_pending_eq_nil (by omega)
      simp [ThreadMachine.resume, pending, hbehind]
    · intro j u _ hj _
      rw [flatMap_pending_eq_nil (hzero j u hj)]
      exact List.nil_sublist _

end

theorem inOrder_step (s₀ : Service) (replay : ReplayState) {c d : DeliveryConfiguration}
    {m : DeliveryMove} {b : Nat} (hinv : InOrder b c)
    (hstep : (deliverySystem cfg s₀ replay).step c m = some d) : InOrder b d := by
  cases m with
  | request r =>
      rcases ThreadMachine.system_step_request.1 hstep with ⟨code, hcode, rfl⟩
      cases hcode
      have hzero : weigh (batchWeight b) (r.code cfg) = 0 :=
        weigh_request (batchWeight_lowerStop b) (fun _ => rfl) (fun _ => rfl) (fun _ => rfl) r
      have hcode : ∀ code ∈ [r.code cfg], weigh (batchWeight b) code = 0 := by simpa using hzero
      refine ⟨hinv.exclusive.append hcode, ?_, hinv.reached, ?_⟩
      · intro hlen
        rcases hinv.fresh hlen with ⟨htotal, hnone⟩
        refine ⟨?_, hnone⟩
        rw [ThreadMachine.total_append, ThreadMachine.total_singleton, htotal, Nat.zero_add]
        exact hzero
      · intro t ht
        rcases List.mem_append.1 ht with ht | ht
        · exact hinv.ahead t ht
        · obtain rfl := List.mem_singleton.1 ht
          simp only [Thread.fresh, flatMap_pending_eq_nil hzero, List.append_nil]
          exact hinv.reached
  | step i out =>
      rcases ThreadMachine.stepThread_eq_some.1 hstep with ⟨op, rest, f, eff, hget, hexec, rfl⟩
      cases op with
      | inl op =>
          refine inOrder_thread hinv hget (batchStep_base hexec b) fun code hcode => ?_
          exact ((exec_base_lowered hexec).2.2 code hcode).weigh (batchWeight_lowerStop b)
      | inr own =>
          obtain rfl : execDelivery cfg c.shared out own = eff := Option.some.inj hexec
          have hspawned : ∀ code ∈ (execDelivery cfg c.shared out own).spawned,
              weigh (batchWeight b) code = 0 := by
            rw [execDelivery_spawned]
            intro code hcode
            cases hcode
          by_cases hnew : ∀ payload, own = .pushReplay payload → b ≠ c.shared.2.batches.length
          · exact inOrder_thread hinv hget (batchStep_own c.shared own out hnew) hspawned
          · rcases not_forall.1 hnew with ⟨payload, hpayload⟩
            rcases Classical.not_imp.1 hpayload with ⟨rfl, hlength⟩
            have hb : b = c.shared.2.batches.length := not_not.1 hlength
            by_cases hclosed : (!cfg.wiring.replayGateway || cfg.wiring.mode == .backtest &&
                c.shared.1.backtestReplayComplete) = true
            · refine inOrder_thread hinv hget ?_ hspawned
              simp only [execDelivery, if_pos hclosed]
              exact .of_free rfl rfl rfl
            · have heff : execDelivery cfg c.shared out (.pushReplay payload) = .next
                  (c.shared.1, { c.shared.2 with
                    batches := c.shared.2.batches ++ [eventList payload] })
                  [.inr (.pushEvents b (parseDatetime (payload.get "simulated_time"))
                    (eventList payload) 0 (payload.get "end_of_stream").truthy)] [] := by
                rw [hb]
                exact if_neg hclosed
              exact inOrder_newBatch hinv hget hb heff

/-! ## Main results -/

theorem serialized_init (s : Service) (replay : ReplayState) :
    Serialized (deliverySystem cfg s replay).init :=
  ⟨Nat.zero_le _, nofun⟩

theorem inOrder_init (s : Service) (replay : ReplayState) (b : Nat) :
    InOrder b (deliverySystem cfg s replay).init :=
  ⟨ThreadMachine.exclusive_of_total rfl, fun _ => ⟨rfl, rfl⟩, List.nil_sublist _, nofun⟩

end

/-- In a run in which deliveries and stops of the strategy wait for each other hooks are called in
turn. -/
theorem hooks_never_overlap (cfg : DeliveryConfig) (s : Service) (replay : ReplayState)
    (ms : List DeliveryMove) (c : DeliveryConfiguration)
    (hwait : (deliverySystem cfg s replay).Meets DeliveriesWait (deliverySystem cfg s replay).init ms)
    (hrun : (deliverySystem cfg s replay).run (deliverySystem cfg s replay).init ms = some c) :
    HooksInTurn c := by
  have hserialized : Serialized c :=
    TransitionSystem.run_invariant Serialized
      (fun c m d hinv hC hstep => serialized_step s replay hinv hC hstep)
      (serialized_init s replay) hwait hrun
  have horder : ∀ b, InOrder b c := fun b =>
    TransitionSystem.run_invariant' (InOrder b)
      (fun c m d hinv hstep => inOrder_step s replay hinv hstep) (inOrder_init s replay b) hrun
  refine ⟨(length_runningHooks_le c).trans hserialized.single, ?_, fun b => (horder b).reached⟩
  intro hook hhook
  rcases List.mem_filterMap.1 hhook with ⟨t, ht, hrunning⟩
  have htimed := hserialized.timed t ht
  unfold runningHook at hrunning
  split at hrunning
  · cases hrunning
    exact htimed _ List.mem_cons_self
  · cases hrunning

/-! ## Two pushes at once -/

/-- A backtest of one hour with a strategy that defines {lit}`on_bar`. -/
def hourWorker : DeliveryConfig where
  wiring := { bareWiring with replayGateway := true, strategyInstanceManager := true }
  replay := hourReplay
  adapter := ⟨"1m", true, false, false, false, false, fun _ => true, fun _ => true, fun _ => true,
    fun _ => true⟩
  onStop := true
  mode_eq := rfl

/-- The worker when it runs and has seen its first data. -/
def runningService : Service :=
  { Service.new with
    phase := .running
    started := true
    runtimeDependencies := true
    strategyAdapter := true
    firstDataReceived := true
    firstDataMarked := true }

/-- A push of one bar at a time of the hour. -/
def pushBarAt (eventTime : String) : DeliveryMove :=
  .request (.pushReplayContext [("events", .list [.dict [("event_type", .str "market.bar"),
    ("event_time", .str eventTime), ("payload", .dict [("symbol", .str "AAPL"), ("open", .int 1),
      ("high", .int 1), ("low", .int 1), ("close", .int 1), ("volume", .int 1)])]])])

/-- Steps of one thread. -/
def stepsOf (i n : Nat) : List DeliveryMove :=
  List.replicate n (.step i .ok)

def hourSystem : TransitionSystem DeliveryConfiguration DeliveryMove :=
  deliverySystem hourWorker runningService replayStateInit

/-- The second push comes after the hook of the first one. -/
def pushesInTurn : List DeliveryMove :=
  [pushBarAt "2026-03-13T11:30:00Z", pushBarAt "2026-03-13T11:45:00Z"] ++ stepsOf 0 11 ++
    stepsOf 1 10

/-- The second push comes while the hook of the first one is executing. -/
def pushesAtOnce : List DeliveryMove :=
  [pushBarAt "2026-03-13T11:30:00Z", pushBarAt "2026-03-13T11:45:00Z"] ++ stepsOf 0 10 ++
    stepsOf 1 10

theorem pushesInTurn_runs : (hourSystem.run hourSystem.init pushesInTurn).isSome = true := by
  decide +kernel

theorem pushes_in_turn : HooksInTurn ((hourSystem.run hourSystem.init pushesInTurn).get
    pushesInTurn_runs) :=
  hooks_never_overlap hourWorker runningService replayStateInit pushesInTurn _
    (by decide +kernel) (Option.some_get pushesInTurn_runs).symm

/-- Two hooks of the strategy execute at the same time. -/
theorem two_pushes_overlap : ¬ ∀ (ms : List DeliveryMove) (c : DeliveryConfiguration),
    hourSystem.run hourSystem.init ms = some c → HooksInTurn c := by
  intro hall
  have hcount : (hourSystem.run hourSystem.init pushesAtOnce).map
      (fun c => (runningHooks c).length) = some 2 := by decide +kernel
  rcases Option.map_eq_some_iff.1 hcount with ⟨c, hrun, hlength⟩
  have hsingle := (hall pushesAtOnce c hrun).single
  omega

end Lifecycle
end StrategyWorker
