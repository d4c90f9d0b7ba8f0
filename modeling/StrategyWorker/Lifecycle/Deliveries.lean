import StrategyWorker.Application.PushReplay
import StrategyWorker.Bootstrap.ReplaySdkBridge
import StrategyWorker.Library.MachineLayer
import StrategyWorker.Lifecycle.Machine

/-!
# Deliveries to the strategy

A layer over the threads of {lit}`Machine` that looks at what
{lit}`push_replay_context`, {lit}`_dispatch_paper_live_tick`, the historical
driver and {lit}`_stop_strategy_loop` do to the strategy: each of them runs on a
thread of its own, and they share one adapter, one simulated clock and one data
store.  A hook of the strategy runs between two operations of its thread, so
that any other thread may come in between.

Main results:

- Theorem {lit}`exec_base_lowered`: the operations of the service leave what the
  deliveries share alone.
- Theorem {lit}`onEvent_finishes`: an event that is delivered with nothing in
  between does to clock and stores what {lit}`StrategyAdapter.on_event` says.
-/

namespace StrategyWorker
namespace Lifecycle

open Library
open Domain
open Integration
open Bootstrap
open Application
open ThreadMachine (weigh total)

/-! ## Hooks -/

/-- Where an event on its way to the strategy comes from. -/
inductive Origin where
  /-- The batch of the push with this number. -/
  | batch (b : Nat)
  | liveTick
  | historicalBar
  deriving DecidableEq, Repr

/-- An event on its way to {lit}`StrategyAdapter.on_event`. -/
structure Inbound where
  origin : Origin
  rawEvent : PyDict
  /-- The {lit}`simulated_time` that comes with it. -/
  simulatedTime : Option PyDateTime

/-- A call of a hook of the strategy. -/
inductive StrategyHook where
  | event (inbound : Inbound) (call : HookCall)
  /-- {lit}`on_stop`, or {lit}`stop` of a strategy without the SDK. -/
  | stop

/-- The own time of the event that a hook gets. -/
def StrategyHook.ownTime : StrategyHook → Option PyDateTime
  | .event inbound call => hookTime call <|> inbound.simulatedTime
  | .stop => none

/-- The clock shows an instant, if there is one to show. -/
def Shows (clock : Option PyDateTime) (time : Option PyDateTime) : Prop :=
  ∀ t ∈ time, ∃ now ∈ clock, now.instant = t.instant

/-! ## Operations -/

/-- What the deliveries share. -/
structure StrategySide where
  replay : ReplayState
  /-- The event lists of the pushes so far. -/
  batches : List (List PyDict)
  /-- The hooks that were called, in order. -/
  reached : List StrategyHook

def StrategySide.setClock (x : StrategySide) (clock : Option PyDateTime) : StrategySide :=
  { x with replay := { x.replay with clock } }

structure DeliveryConfig where
  wiring : Wiring
  replay : ReplayConfig
  adapter : AdapterConfig
  /-- The strategy has a stop hook. -/
  onStop : Bool
  mode_eq : replay.launchSpec.mode = wiring.mode

inductive DeliveryOp where
  /-- {lit}`push_replay_context` after it has its dependencies. -/
  | pushReplay (payload : PyDict)
  /-- The loop of {lit}`push_replay_context` over the events of its batch. -/
  | pushEvents (b : Nat) (batchSimulated : Option PyDateTime) (events : List PyDict)
      (consumed : Nat) (endOfStream : Bool)
  /-- {lit}`ReplayGateway.ingest_replay_tick`, with or without a strategy callback. -/
  | ingestReplayTick (inbound : Inbound) (callback : Bool)
  /-- {lit}`_dispatch_paper_live_tick` reads its four fields one after the other. -/
  | liveTick (tick : PyDict)
  | livePhase (tick : PyDict)
  | liveAdapter (tick : PyDict)
  | liveDispatch (tick : PyDict)
  /-- The historical driver with the ticks of the pages that are to come. -/
  | driver (pages : List (List PyDict))
  | driverPage (pages : List (List PyDict))
  | driverBars (bars : List PyDict) (pages : List (List PyDict))
  /-- {lit}`StrategyAdapter.on_event`. -/
  | onEvent (inbound : Inbound)
  /-- {lit}`set_event_time` of the bridge, with the hook that is called then. -/
  | setEventTime (effect : Bootstrap.Effect) (hook : Option StrategyHook)
  /-- The bridge stores the item of the event. -/
  | store (item : Option Item) (hook : Option StrategyHook)
  | callHook (hook : StrategyHook)
  /-- The hook is executing until this operation. -/
  | hookReturns (hook : StrategyHook)
  /-- {lit}`_stop_strategy_loop`. -/
  | stopStrategyLoop
  /-- {lit}`StrategyInstanceManager.stop`. -/
  | managerStop

abbrev DeliveryEffect := Library.Effect (Service × StrategySide) (Op ⊕ DeliveryOp) Error

/-- The calls that the layer looks closer at. -/
def lowerStop : Op → Op ⊕ DeliveryOp
  | .call .stopStrategy => .inr .stopStrategyLoop
  | op => .inl op

/-- What raises on the way to the replay gateway or in it. -/
def ingestError : Error :=
  .raisedBy .ingestReplayTick .other

/-- One round of the loop of {lit}`push_replay_context`. -/
def execPushEvents (cfg : DeliveryConfig) (s : Service × StrategySide) (b : Nat)
    (batchSimulated : Option PyDateTime) (consumed : Nat) (endOfStream : Bool) :
    List PyDict → DeliveryEffect
  | [] => .next s [.inl (.ingest (.pushDone consumed endOfStream))] []
  | event :: events =>
      match admitEvent cfg.replay batchSimulated event with
      | .error _ => .raise s ingestError
      | .ok none => .next s [.inr (.pushEvents b batchSimulated events consumed endOfStream)] []
      | .ok (some (tickPayload, effectiveSim)) =>
          .next s
            [.inr (.ingestReplayTick ⟨.batch b, tickPayload, effectiveSim⟩ s.1.strategyAdapter),
              .inl (.ingest (.pushConsumed s.1.strategyAdapter)),
              .inr (.pushEvents b batchSimulated events (consumed + 1) endOfStream)] []

/-- {lit}`ReplayGateway.ingest_replay_tick`: the clock is set before anything else. -/
def execIngestTick (s : Service × StrategySide) (inbound : Inbound) (callback : Bool) :
    DeliveryEffect :=
  match inbound.simulatedTime.mapM setTime with
  | .error _ => .raise s ingestError
  | .ok now =>
      .next (s.1, s.2.setClock (now <|> s.2.replay.clock))
        ([.inl (.ingest .gatewayTick), .inl (.call .ingestReplayTick)] ++
          if callback then [.inr (.onEvent inbound)] else []) []

/-- {lit}`StrategyAdapter.on_event`: the bridge applies the event first, if it does. -/
def execOnEvent (cfg : DeliveryConfig) (s : Service × StrategySide) (inbound : Inbound)
    (indicatorRaises : Bool) : DeliveryEffect :=
  let d : Delivery := ⟨inbound.rawEvent, indicatorRaises⟩
  let hook := (Bootstrap.onEvent cfg.adapter s.2.replay d).2.map (.event inbound)
  match effect cfg.adapter d with
  | some e => .next s [.inr (.setEventTime e hook)] []
  | none => .next s (hook.toList.map fun h => .inr (.callHook h)) []

/-- The service lets the historical driver go on. -/
def driverGoesOn (s : Service) : Bool :=
  !s.shutdownInProgress && (s.phase == .ready || s.phase == .running)

/-- The end of the historical driver after its last page. -/
def finishDriver (cfg : DeliveryConfig) (s : Service × StrategySide) : DeliveryEffect :=
  if cfg.wiring.mode = .backtest then .next ({ s.1 with backtestReplayComplete := true }, s.2) [] []
  else .next s [] []

def execDelivery (cfg : DeliveryConfig) (s : Service × StrategySide) (out : Outcome) :
    DeliveryOp → DeliveryEffect
  | .pushReplay payload =>
      if !cfg.wiring.replayGateway || cfg.wiring.mode == .backtest && s.1.backtestReplayComplete then
        .next (s.1.note (.responded 0), s.2) [] []
      else
        .next (s.1, { s.2 with batches := s.2.batches ++ [eventList payload] })
          [.inr (.pushEvents s.2.batches.length (parseDatetime (payload.get "simulated_time"))
            (eventList payload) 0 (payload.get "end_of_stream").truthy)] []
  | .pushEvents b batchSimulated events consumed endOfStream =>
      execPushEvents cfg s b batchSimulated consumed endOfStream events
  | .ingestReplayTick inbound callback => execIngestTick s inbound callback
  | .liveTick tick =>
      if s.1.shutdownInProgress then .next s [] [] else .next s [.inr (.livePhase tick)] []
  | .livePhase tick =>
      if s.1.phase = .ready ∨ s.1.phase = .running then .next s [.inr (.liveAdapter tick)] []
      else .next s [] []
  | .liveAdapter tick =>
      if s.1.strategyAdapter then
        .next s [.inl (.ingest .liveFirstData), .inr (.liveDispatch tick)] []
      else .next s [] []
  | .liveDispatch tick => .next s [.inr (.onEvent ⟨.liveTick, tick, none⟩)] []
  | .driver pages =>
      if !s.1.hdsFeedStop && driverGoesOn s.1 && cfg.wiring.replayGateway &&
          s.1.strategyAdapter then
        .next s [.inr (.driverPage pages)] []
      else .next s [] []
  | .driverPage [] => finishDriver cfg s
  | .driverPage (bars :: pages) =>
      -- its stop event ends the loop and not the function
      if s.1.hdsFeedStop then finishDriver cfg s
      else if driverGoesOn s.1 then .next s [.inr (.driverBars bars pages)] []
      else .next s [] []
  | .driverBars [] pages => .next s [.inr (.driverPage pages)] []
  | .driverBars (tick :: bars) pages =>
      if s.1.hdsFeedStop || s.1.shutdownInProgress then .next s [] []
      else
        .next s [.inr (.ingestReplayTick
          ⟨.historicalBar, tick, parseDatetime (tick.get "event_time")⟩ true),
            .inr (.driverBars bars pages)] []
  | .onEvent inbound => execOnEvent cfg s inbound out.error.isSome
  | .setEventTime e hook => .next (s.1, s.2.setClock (some e.now)) [.inr (.store e.item hook)] []
  | .store item hook =>
      .next (s.1, { s.2 with replay := item.elim s.2.replay s.2.replay.store })
        (hook.toList.map fun h => .inr (.callHook h)) []
  | .callHook hook =>
      .next (s.1, { s.2 with reached := s.2.reached ++ [hook] }) [.inr (.hookReturns hook)] []
  | .hookReturns _ =>
      -- the error boundary catches every `Exception`
      match out.error with
      | none => .next s [] []
      | some _ => .raise s .strategyCallback
  | .stopStrategyLoop =>
      if applies cfg.wiring s.1 .stopStrategy then
        .next s [.inr .managerStop, .inl (.call .stopStrategy)] []
      else .next (s.1.note (.skipped .stopStrategy), s.2) [] []
  | .managerStop => .next s (if cfg.onStop then [.inr (.callHook .stop)] else []) []

/-- The layer of the deliveries. -/
def deliveries (cfg : DeliveryConfig) :
    MachineLayer Service StrategySide Op DeliveryOp Error Outcome where
  base := machine cfg.wiring
  lower := lowerStop
  note _ x _ _ := x
  exec s op out := some (execDelivery cfg s out op)
  handler _ _ := none

/-! ## Requests -/

inductive DeliveryRequest where
  | pushReplayContext (payload : PyDict)
  /-- The feed thread comes to a tick. -/
  | liveTick (tick : PyDict)
  /-- The thread of the historical driver. -/
  | historicalDriver (pages : List (List PyDict))
  /-- A stop, directly or over any of its ways in. -/
  | stop (args : StopArgs)
  | httpStop
  | sigterm
  | stopWorker

def DeliveryRequest.code (cfg : DeliveryConfig) : DeliveryRequest → List (Op ⊕ DeliveryOp)
  | pushReplayContext payload =>
      [.inl (.call .initializeReplayDependencies), .inr (.pushReplay payload)]
  | liveTick tick => [.inr (.liveTick tick)]
  | historicalDriver pages => [.inr (.driver pages)]
  | stop args => (deliveries cfg).lowerAll (Request.stop args).code
  | httpStop => (deliveries cfg).lowerAll Request.httpStop.code
  | sigterm => (deliveries cfg).lowerAll Request.sigterm.code
  | stopWorker => (deliveries cfg).lowerAll Request.stopWorker.code

abbrev DeliveryConfiguration := Config (Service × StrategySide) (Op ⊕ DeliveryOp) Error
abbrev DeliveryMove := Move DeliveryRequest Outcome

/-- A worker in any state with the deliveries and stops that come to it. -/
def deliverySystem (cfg : DeliveryConfig) (s : Service) (replay : ReplayState) :
    TransitionSystem DeliveryConfiguration DeliveryMove :=
  (deliveries cfg).machine.system (s, ⟨replay, [], []⟩) [] fun r => some (r.code cfg)

/-! ## What an operation does -/

/-- Code of the service, seen from the layer. -/
def Lowered (code : List (Op ⊕ DeliveryOp)) : Prop :=
  ∀ op ∈ code, ∃ below, op = lowerStop below

section

variable {cfg : DeliveryConfig}

theorem lowered_lowerAll (cfg : DeliveryConfig) (code : List Op) :
    Lowered ((deliveries cfg).lowerAll code) := by
  intro op hop
  rcases List.mem_map.1 hop with ⟨below, -, rfl⟩
  exact ⟨below, rfl⟩

/-- A weight that the service does not have is not that of its code. -/
theorem Lowered.weigh {v : Op ⊕ DeliveryOp → Nat} (hv : ∀ op, v (lowerStop op) = 0)
    {code : List (Op ⊕ DeliveryOp)} (h : Lowered code) : ThreadMachine.weigh v code = 0 := by
  apply ThreadMachine.weigh_eq_zero
  intro op hop
  rcases h op hop with ⟨below, rfl⟩
  exact hv below

/-- An operation of the service leaves what the deliveries share alone. -/
theorem exec_base_lowered {s : Service × StrategySide} {op : Op} {out : Outcome}
    {eff : DeliveryEffect} (h : (deliveries cfg).machine.exec s (.inl op) out = some eff) :
    eff.shared.2 = s.2 ∧ Lowered eff.pushed ∧ ∀ code ∈ eff.spawned, Lowered code := by
  rcases MachineLayer.exec_base_eq_some.1 h with ⟨below, -, rfl⟩
  refine ⟨by rw [MachineLayer.shared_lift]; rfl, ?_, ?_⟩
  · rw [MachineLayer.pushed_lift]
    exact lowered_lowerAll cfg below.pushed
  · intro code hcode
    rw [MachineLayer.spawned_lift] at hcode
    rcases List.mem_map.1 hcode with ⟨code, -, rfl⟩
    exact lowered_lowerAll cfg code

theorem handler_lowered {op : Op ⊕ DeliveryOp} {e : Error} {code : List (Op ⊕ DeliveryOp)}
    (h : (deliveries cfg).machine.handler op e = some code) : Lowered code := by
  cases op with
  | inl op =>
      rcases MachineLayer.handler_base_eq_some.1 h with ⟨below, -, rfl⟩
      exact lowered_lowerAll cfg below
  | inr own => cases h

/-- Deliveries start no threads. -/
theorem execDelivery_spawned (s : Service × StrategySide) (op : DeliveryOp) (out : Outcome) :
    (execDelivery cfg s out op).spawned = [] := by
  cases op with
  | pushEvents b batchSimulated events consumed endOfStream =>
      cases events with
      | nil => rfl
      | cons event events =>
          simp only [execDelivery, execPushEvents]
          split <;> rfl
  | ingestReplayTick inbound callback =>
      simp only [execDelivery, execIngestTick]
      split <;> rfl
  | driverPage pages =>
      cases pages <;> simp only [execDelivery, finishDriver] <;> (repeat' split) <;> rfl
  | driverBars bars pages => cases bars <;> simp only [execDelivery] <;> (try split) <;> rfl
  | onEvent inbound =>
      simp only [execDelivery, execOnEvent]
      split <;> rfl
  | _ =>
      simp only [execDelivery]
      first | rfl | (repeat' split) <;> rfl

/-- What is asked for from outside is no part of a delivery yet. -/
theorem weigh_request {v : Op ⊕ DeliveryOp → Nat} (hv : ∀ op, v (lowerStop op) = 0)
    (hpush : ∀ payload, v (.inr (.pushReplay payload)) = 0)
    (hlive : ∀ tick, v (.inr (.liveTick tick)) = 0) (hdriver : ∀ pages, v (.inr (.driver pages)) = 0)
    (r : DeliveryRequest) : weigh v (r.code cfg) = 0 := by
  cases r with
  | pushReplayContext payload =>
      have hinit := hv (.call .initializeReplayDependencies)
      simp only [DeliveryRequest.code, ThreadMachine.weigh_cons, ThreadMachine.weigh_nil, hpush]
      exact hinit
  | liveTick tick => simp [DeliveryRequest.code, hlive]
  | historicalDriver pages => simp [DeliveryRequest.code, hdriver]
  | _ => exact (lowered_lowerAll cfg _).weigh hv

/-! ## One event with nothing in between -/

/-- An event whose delivery nothing comes between does to clock and stores what
{lit}`StrategyAdapter.on_event` says, and calls its hook. -/
theorem onEvent_finishes (env : Op ⊕ DeliveryOp → Outcome) (henv : ∀ op, (env op).error = none)
    (s : Service) (x : StrategySide) (inbound : Inbound) :
    let d : Delivery := ⟨inbound.rawEvent, false⟩
    let result := Bootstrap.onEvent cfg.adapter x.replay d
    (deliveries cfg).machine.Finishes env (s, x) [.inr (.onEvent inbound)] []
      ⟨(s, { x with
          replay := result.1
          reached := x.reached ++ (result.2.map (StrategyHook.event inbound)).toList }),
        none, []⟩ := by
  intro d result
  let hook := result.2.map (StrategyHook.event inbound)
  have hcall : ∀ x' : StrategySide, (deliveries cfg).machine.Finishes env (s, x')
      ((hook.toList.map fun h => .inr (.callHook h)) ++ []) []
      ⟨(s, { x' with reached := x'.reached ++ hook.toList }), none, []⟩ := by
    intro x'
    cases hook with
    | none => exact ⟨0, by simp [ThreadMachine.runAlone]⟩
    | some hook =>
        refine ⟨2, ?_⟩
        simp [ThreadMachine.runAlone, MachineLayer.machine, deliveries, execDelivery, henv]
  have hreplay : result.1 = (effect cfg.adapter d).elim x.replay x.replay.apply :=
    onEvent_eq cfg.adapter x.replay d
  have hraises : (env (.inr (.onEvent inbound))).error.isSome = false := by rw [henv]; rfl
  rw [hreplay]
  cases heffect : effect cfg.adapter d with
  | none =>
      have hexec : (deliveries cfg).machine.exec (s, x) (.inr (.onEvent inbound))
          (env (.inr (.onEvent inbound))) =
            some (.next (s, x) (hook.toList.map fun h => .inr (.callHook h)) []) := by
        simp only [MachineLayer.exec_own, deliveries, execDelivery, execOnEvent, hraises]
        rw [heffect]
      exact (ThreadMachine.finishes_next hexec).2 (hcall x)
  | some e =>
      have hexec : (deliveries cfg).machine.exec (s, x) (.inr (.onEvent inbound))
          (env (.inr (.onEvent inbound))) =
            some (.next (s, x) [.inr (.setEventTime e hook)] []) := by
        simp only [MachineLayer.exec_own, deliveries, execDelivery, execOnEvent, hraises]
        rw [heffect]
      -- the bridge sets the clock, then it stores the item
      refine (ThreadMachine.finishes_next hexec).2 ?_
      refine (ThreadMachine.finishes_next (M := (deliveries cfg).machine) rfl).2 ?_
      refine (ThreadMachine.finishes_next (M := (deliveries cfg).machine) rfl).2 ?_
      exact hcall { x with replay := x.replay.apply e }

end

end Lifecycle
end StrategyWorker
