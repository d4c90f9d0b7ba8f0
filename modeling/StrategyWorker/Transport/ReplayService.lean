import StrategyWorker.Application.ReplayWindow

/-!
# Replay batches that are repeated

{lit}`ReplayIngressService.PushReplayContext` answers an exception with
{lit}`INTERNAL`, and the sender repeats the batch.  The loop of
{lit}`push_replay_context` reads the timestamps of an event after it has handed
over the events before it, so that a repeated batch delivers those again when a
later timestamp raises.

Main results:

- Theorem {lit}`replayEvents_outcome`: on which events the loop raises and which
  it has handed over by then.
- Theorem {lit}`allOrReported_iff`: a call that raises has delivered nothing
  exactly when no event that is handed over stands before the first event that
  raises.
- Theorem {lit}`retriedBatch_delivers_twice`: a second event with a broken
  timestamp.
-/

namespace StrategyWorker
namespace Transport

open Library
open Library.Binary64
open Domain
open Integration
open Application

/-! ## Events that raise -/

/-- The simulated clock does not take the time. -/
def clockRaises (effectiveSim : Option PyDateTime) : Bool :=
  !(effectiveSim.mapM setTime).isOk

/-- The loop raises on the event: on a timestamp that it reads or on the clock. -/
def raisesOn (cfg : ReplayConfig) (batchSimulated : Option PyDateTime) (event : PyDict) : Bool :=
  match admitEvent cfg batchSimulated event with
  | .error _ => true
  | .ok none => false
  | .ok (some (_, effectiveSim)) => clockRaises effectiveSim

/-- The loop hands the event over. -/
def takes (cfg : ReplayConfig) (batchSimulated : Option PyDateTime) (event : PyDict) : Bool :=
  match admitEvent cfg batchSimulated event with
  | .ok (some (_, effectiveSim)) => !clockRaises effectiveSim
  | _ => false

/-- The events of a batch that are handed over before the first one that raises. -/
def takenBefore (cfg : ReplayConfig) (batchSimulated : Option PyDateTime) (events : List PyDict) :
    List PyDict :=
  (events.takeWhile fun event => !raisesOn cfg batchSimulated event).filter
    (takes cfg batchSimulated)

/-- If the loop raises on an event of the batch, it takes none of those before the first such
event. -/
def RaisesFirst (cfg : ReplayConfig) (batchSimulated : Option PyDateTime) (events : List PyDict) :
    Prop :=
  (∃ event ∈ events, raisesOn cfg batchSimulated event = true) →
    ∀ event ∈ events.takeWhile fun event => !raisesOn cfg batchSimulated event,
      takes cfg batchSimulated event = false

instance (cfg : ReplayConfig) (batchSimulated : Option PyDateTime) (events : List PyDict) :
    Decidable (RaisesFirst cfg batchSimulated events) :=
  inferInstanceAs (Decidable (_ → _))

section

variable {cfg : ReplayConfig} {batchSimulated : Option PyDateTime}

/-- A gateway whose first data is recorded raises with the clock only. -/
theorem ingest_of_recorded {journalRaises : Bool} {gateway : ReplayGateway PyDict}
    (h : gateway.firstData.marked = true ∨ journalRaises = false) (tick : PyDict)
    (time : Option PyDateTime) :
    (clockRaises time = true ∧
        gateway.ingestReplayTick journalRaises tick time = (gateway, true)) ∨
      (clockRaises time = false ∧ ∃ gateway',
        gateway.ingestReplayTick journalRaises tick time = (gateway', false) ∧
          gateway'.received = gateway.received ++ [tick] ∧
            (gateway'.firstData.marked = true ∨ journalRaises = false)) := by
  unfold ReplayGateway.ingestReplayTick clockRaises
  cases hclock : time.mapM setTime with
  | error e => exact .inl ⟨rfl, rfl⟩
  | ok now =>
      refine .inr ⟨rfl, ?_⟩
      by_cases hmarked : gateway.firstData.marked = true
      · simp [hmarked]
      · have hquiet : journalRaises = false := h.resolve_left hmarked
        simp [hmarked, hquiet]

/-- On which events the loop raises and which it has handed over by then. -/
theorem replayEvents_outcome {journalRaises : Bool} (events : List PyDict) (batch : Batch)
    (hrecorded : batch.gateway.firstData.marked = true ∨ journalRaises = false)
    (hgoing : batch.raised = false) :
    ((replayEvents cfg journalRaises batchSimulated events batch).raised = true ↔
        ∃ event ∈ events, raisesOn cfg batchSimulated event = true) ∧
      (replayEvents cfg journalRaises batchSimulated events batch).gateway.received =
        batch.gateway.received ++ (takenBefore cfg batchSimulated events).map tickPayloadOf := by
  induction events generalizing batch with
  | nil => simp [replayEvents, takenBefore, hgoing]
  | cons event events ih =>
      cases hverdict : admitEvent cfg batchSimulated event with
      | error e =>
          have hraises : raisesOn cfg batchSimulated event = true := by simp [raisesOn, hverdict]
          simp [replayEvents, takenBefore, hverdict, hraises]
      | ok admitted =>
          cases admitted with
          | none =>
              have hraises : raisesOn cfg batchSimulated event = false := by
                simp [raisesOn, hverdict]
              have htakes : takes cfg batchSimulated event = false := by simp [takes, hverdict]
              simpa [replayEvents, takenBefore, hverdict, hraises, htakes] using
                ih batch hrecorded hgoing
          | some admitted =>
              rcases admitted with ⟨tickPayload, effectiveSim⟩
              rcases admitEvent_eq_some hverdict with ⟨-, -, rfl, -, -⟩
              rcases ingest_of_recorded hrecorded (tickPayloadOf event) effectiveSim with
                ⟨hclock, hingest⟩ | ⟨hclock, gateway, hingest, hreceived, hrecorded'⟩
              · have hraises : raisesOn cfg batchSimulated event = true := by
                  simp [raisesOn, hverdict, hclock]
                simp [replayEvents, takenBefore, hverdict, hraises, hingest]
              · have hraises : raisesOn cfg batchSimulated event = false := by
                  simp [raisesOn, hverdict, hclock]
                have htakes : takes cfg batchSimulated event = true := by
                  simp [takes, hverdict, hclock]
                simp only [replayEvents, hverdict, hingest]
                have hrest := ih { batch with
                  gateway
                  consumed := batch.consumed ++ [event]
                  lastEffectiveSim := effectiveSim <|> batch.lastEffectiveSim } hrecorded' hgoing
                refine ⟨by simpa [hraises] using hrest.1, ?_⟩
                simpa [takenBefore, hraises, htakes, hreceived] using hrest.2

/-- Without a record of the first data nothing is handed over. -/
theorem replayEvents_refused (events : List PyDict) (batch : Batch)
    (hunmarked : batch.gateway.firstData.marked = false) :
    (replayEvents cfg true batchSimulated events batch).gateway.received =
      batch.gateway.received := by
  induction events generalizing batch with
  | nil => rfl
  | cons event events ih =>
      unfold replayEvents
      split
      · rfl
      · exact ih batch hunmarked
      · rename_i tickPayload effectiveSim hverdict
        rcases hingest : batch.gateway.ingestReplayTick true tickPayload effectiveSim with
          ⟨gateway, raises⟩
        have hreceived :
            (batch.gateway.ingestReplayTick true tickPayload effectiveSim).1.received =
              batch.gateway.received :=
          ingestReplayTick_refused rfl hunmarked
        rw [hingest] at hreceived
        cases raises with
        | true => exact hreceived
        | false =>
            -- a tick that is taken is received
            rcases ingestReplayTick_ok hingest with ⟨-, htaken, -⟩
            simp [htaken] at hreceived

theorem takenBefore_eq_nil_iff {events : List PyDict} :
    takenBefore cfg batchSimulated events = [] ↔
      ∀ event ∈ events.takeWhile fun event => !raisesOn cfg batchSimulated event,
        takes cfg batchSimulated event = false := by
  simp [takenBefore, List.filter_eq_nil_iff]

end

/-! ## One call -/

/-- What a call hands to the strategy, if there is one. -/
def deliveredBy (cfg : ReplayConfig) (adapterBound : Bool) (w : ReplayWorker) (call : PushCall) :
    List PyDict :=
  if adapterBound then (pushReplayContext cfg w call).1.received.drop w.received.length else []

/-- A call that raises has delivered nothing. -/
def AllOrReported (cfg : ReplayConfig) (adapterBound : Bool) (w : ReplayWorker) (call : PushCall) :
    Prop :=
  (pushReplayContext cfg w call).2 = none → deliveredBy cfg adapterBound w call = []

/-- The call goes through its events: a strategy is bound, there is a gateway, the backtest is not
over and the first data is recorded. -/
def GoesThrough (cfg : ReplayConfig) (adapterBound : Bool) (w : ReplayWorker) (call : PushCall) :
    Prop :=
  adapterBound = true ∧ ∃ gateway, ensureDependencies w call = .ok (some gateway) ∧
    ¬ (cfg.launchSpec.mode = .backtest ∧ w.backtestReplayComplete = true) ∧
      (gateway.firstData.marked = true ∨ call.journalRaises = false)

/-- The simulated time of the batch. -/
def simulatedTimeOf (payload : PyDict) : Option PyDateTime :=
  parseDatetime (payload.get "simulated_time")

section

variable {cfg : ReplayConfig} {adapterBound : Bool} {w : ReplayWorker} {call : PushCall}

@[simp]
theorem received_mk (gateway : ReplayGateway PyDict) (cursor : String)
    (timestamp : Option PyDateTime) (complete : Bool) (consumed : List PyDict) :
    ReplayWorker.received ⟨some (some gateway), cursor, timestamp, complete, consumed⟩ =
      gateway.received :=
  rfl

theorem received_of_ensureDependencies {gateway : ReplayGateway PyDict}
    (h : ensureDependencies w call = .ok (some gateway)) : gateway.received = w.received := by
  unfold ensureDependencies at h
  unfold ReplayWorker.received
  cases hw : w.runtimeDependencies with
  | some dependencies =>
      rw [hw] at h
      obtain rfl := Except.ok.inj h
      rfl
  | none =>
      rw [hw] at h
      cases hinit : call.initializer with
      | error e => simp [hinit, Except.map] at h
      | ok hasReplay =>
          rw [hinit] at h
          cases hasReplay with
          | false => cases h
          | true =>
              obtain rfl := Option.some.inj (Except.ok.inj h)
              rfl

/-- A call that goes through its events raises when one of them does, and has delivered the events
before. -/
theorem pushReplayContext_outcome (h : GoesThrough cfg adapterBound w call) :
    ((pushReplayContext cfg w call).2 = none ↔
        ∃ event ∈ eventList call.payload,
          raisesOn cfg (simulatedTimeOf call.payload) event = true) ∧
      deliveredBy cfg adapterBound w call =
        (takenBefore cfg (simulatedTimeOf call.payload) (eventList call.payload)).map
          tickPayloadOf := by
  rcases h with ⟨hbound, gateway, hdeps, hrunning, hrecorded⟩
  have hreceived := received_of_ensureDependencies hdeps
  have houtcome : ((replayEvents cfg call.journalRaises (simulatedTimeOf call.payload)
      (eventList call.payload) ⟨gateway, [], none, false⟩).raised = true ↔ _) ∧ _ :=
    replayEvents_outcome (eventList call.payload) ⟨gateway, [], none, false⟩ hrecorded rfl
  rcases houtcome with ⟨hraised, hgateway⟩
  unfold deliveredBy pushReplayContext
  simp only [simulatedTimeOf] at hraised hgateway
  simp only [hdeps, hbound, if_true, if_neg hrunning, pushEvents, simulatedTimeOf]
  split
  · rename_i hraises
    refine ⟨by simpa using hraised.1 hraises, ?_⟩
    rw [received_mk, hgateway, hreceived]
    simp
  · rename_i hquiet
    refine ⟨by simpa using mt hraised.2 hquiet, ?_⟩
    rw [received_mk, hgateway, hreceived]
    simp

/-- A call that does not go through its events delivers nothing. -/
theorem deliveredBy_of_not_goesThrough (h : ¬ GoesThrough cfg adapterBound w call) :
    deliveredBy cfg adapterBound w call = [] := by
  cases hbound : adapterBound with
  | false => rfl
  | true =>
      unfold deliveredBy pushReplayContext
      rw [if_pos rfl]
      cases hdeps : ensureDependencies w call with
      | error e => simp
      | ok dependencies =>
          cases dependencies with
          | none => simp [ReplayWorker.received]
          | some gateway =>
              have hreceived := received_of_ensureDependencies hdeps
              dsimp only
              split
              · simp [hreceived]
              · rename_i hrunning
                -- the journal refuses the first data
                have hrefused : gateway.firstData.marked = false ∧ call.journalRaises = true := by
                  by_contra hrecorded
                  apply h
                  refine ⟨hbound, gateway, hdeps, hrunning, ?_⟩
                  by_cases hmarked : gateway.firstData.marked = true
                  · exact .inl hmarked
                  · exact .inr (by simpa [hmarked] using hrecorded)
                have htaken : (replayEvents cfg true (simulatedTimeOf call.payload)
                    (eventList call.payload) ⟨gateway, [], none, false⟩).gateway.received =
                      gateway.received :=
                  replayEvents_refused (eventList call.payload) _ hrefused.1
                rw [simulatedTimeOf] at htaken
                simp only [pushEvents, hrefused.2]
                split <;> simp [htaken, hreceived]

/-- A call that raises has delivered nothing exactly when, if it goes through its events, no event
that it hands over stands before the first event that raises. -/
theorem allOrReported_iff_raisesFirst :
    AllOrReported cfg adapterBound w call ↔
      (GoesThrough cfg adapterBound w call →
        RaisesFirst cfg (simulatedTimeOf call.payload) (eventList call.payload)) := by
  unfold AllOrReported
  by_cases hthrough : GoesThrough cfg adapterBound w call
  · rcases pushReplayContext_outcome hthrough with ⟨hraises, hdelivered⟩
    rw [hraises, hdelivered, List.map_eq_nil_iff, takenBefore_eq_nil_iff]
    exact ⟨fun h _ => h, fun h => h hthrough⟩
  · exact iff_of_true (fun _ => deliveredBy_of_not_goesThrough hthrough)
      (fun h => absurd h hthrough)

end

/-! ## Repeated calls -/

/-- What surrounds a call, apart from its payload. -/
structure Attempt where
  adapterBound : Bool
  journalRaises : Bool
  initializer : Except PyError Bool

def Attempt.call (a : Attempt) (payload : PyDict) : PushCall :=
  ⟨payload, a.journalRaises, a.initializer⟩

/-- The sender repeats a batch until it is acknowledged: what each attempt delivers. -/
def deliveries (cfg : ReplayConfig) (payload : PyDict) :
    ReplayWorker → List Attempt → List (List PyDict)
  | _, [] => []
  | w, a :: attempts =>
      let delivered := deliveredBy cfg a.adapterBound w (a.call payload)
      match pushReplayContext cfg w (a.call payload) with
      | (_, some _) => [delivered]
      | (w, none) => delivered :: deliveries cfg payload w attempts

/-- All attempts but the last one deliver nothing. -/
def DeliversOnce (cfg : ReplayConfig) (payload : PyDict) (w : ReplayWorker)
    (attempts : List Attempt) : Prop :=
  ∀ delivered ∈ (deliveries cfg payload w attempts).dropLast, delivered = []

theorem deliversOnce_of_raisesFirst {cfg : ReplayConfig} {payload : PyDict}
    (h : RaisesFirst cfg (simulatedTimeOf payload) (eventList payload)) (w : ReplayWorker)
    (attempts : List Attempt) : DeliversOnce cfg payload w attempts := by
  unfold DeliversOnce
  induction attempts generalizing w with
  | nil => simp [deliveries]
  | cons a attempts ih =>
      rcases hpush : pushReplayContext cfg w (a.call payload) with ⟨w', response⟩
      cases response with
      | some response => simp [deliveries, hpush]
      | none =>
          have hnothing : deliveredBy cfg a.adapterBound w (a.call payload) = [] :=
            allOrReported_iff_raisesFirst.2 (fun _ => h) (by rw [hpush])
          intro delivered hmem
          simp only [deliveries, hpush] at hmem
          cases hrest : deliveries cfg payload w' attempts with
          | nil => simp [hrest] at hmem
          | cons d ds =>
              rw [hrest, List.dropLast_cons_of_ne_nil (by simp)] at hmem
              rcases List.mem_cons.1 hmem with rfl | hmem
              · exact hnothing
              · exact ih w' delivered (by rwa [hrest])

/-- A call that raises has delivered nothing exactly when, if it goes through its events, no event
that it hands over stands before the first one that raises; and a batch without such an event is
delivered by one attempt at most, however often it is repeated. -/
theorem allOrReported_iff (cfg : ReplayConfig) (payload : PyDict) :
    (∀ (w : ReplayWorker) (a : Attempt),
      AllOrReported cfg a.adapterBound w (a.call payload) ↔
        (GoesThrough cfg a.adapterBound w (a.call payload) →
          RaisesFirst cfg (simulatedTimeOf payload) (eventList payload))) ∧
      (RaisesFirst cfg (simulatedTimeOf payload) (eventList payload) →
        ∀ (w : ReplayWorker) (attempts : List Attempt), DeliversOnce cfg payload w attempts) := by
  refine ⟨fun w a => allOrReported_iff_raisesFirst, fun h w attempts => ?_⟩
  exact deliversOnce_of_raisesFirst h w attempts

/-! ## A broken timestamp -/

mutual

/-- A value of a {lit}`Struct` as {lit}`MessageToDict` gives it. -/
def isStructValue : PyVal → Bool
  | .none | .bool _ | .str _ | .float (.finite _) => true
  | .list vs => isStructList vs
  | .dict fields => isStruct fields
  | _ => false

def isStructList : List PyVal → Bool
  | [] => true
  | v :: vs => isStructValue v && isStructList vs

def isStruct : List (String × PyVal) → Bool
  | [] => true
  | (_, v) :: fields => isStructValue v && isStruct fields

end

/-- A {lit}`ReplayEvent` as {lit}`MessageToDict` gives it. -/
def isReplayEvent : PyVal → Bool
  | .dict fields => fields.all fun
      | ("event_id", .str _) | ("event_type", .str _) | ("instrument_id", .str _) |
        ("event_time", .str _) | ("sequence", .str _) => true
      | ("payload", .dict payload) => isStruct payload
      | _ => false
  | _ => false

/-- A {lit}`ReplayContext` as {lit}`MessageToDict` gives it. -/
def isReplayContext (payload : PyDict) : Bool :=
  payload.all fun
    | ("replay", .dict _) | ("simulated_time", .str _) | ("end_of_stream", .bool _) |
      ("continuation_token", .str _) => true
    | ("events", .list events) => events.all isReplayEvent
    | _ => false

/-- A bar whose payload has more fields. -/
def structBar (eventTime : List (String × PyVal)) (fields : PyDict) : PyVal :=
  .dict (eventTime ++ [("event_type", .str "market.bar"),
    ("payload", .dict ([("symbol", .str "AAPL"), ("close", .float (.finite 1))] ++ fields))])

/-- A bar at half past eleven, and a bar whose {lit}`nanos` is a text. -/
def brokenBatch : PyDict :=
  [("events", .list [structBar [("event_time", .str "2026-03-13T11:30:00Z")] [],
    structBar [] [("timestamp", .dict [("seconds", .float (.finite 1773401400)),
      ("nanos", .str "half")])]])]

def firstAttempt : Attempt :=
  ⟨true, false, .ok true⟩

/-- The first bar is delivered, the second one raises, and the repeated batch delivers the first
bar again. -/
theorem retriedBatch_delivers_twice :
    isReplayContext brokenBatch = true ∧
      ¬ (∀ (cfg : ReplayConfig) (payload : PyDict) (w : ReplayWorker) (a : Attempt),
        isReplayContext payload = true → AllOrReported cfg a.adapterBound w (a.call payload)) ∧
      ¬ DeliversOnce hourReplay brokenBatch replayWorkerInit [firstAttempt, firstAttempt] := by
  refine ⟨by decide +kernel, ?_, ?_⟩
  · intro hall
    have hfirst := hall hourReplay brokenBatch replayWorkerInit firstAttempt (by decide +kernel)
    revert hfirst
    unfold AllOrReported
    decide +kernel
  · unfold DeliversOnce
    decide +kernel

end Transport
end StrategyWorker
