import StrategyWorker.Bootstrap.EventMapper
import StrategyWorker.Domain.RuntimeState
import StrategyWorker.Integration.ReplayGateway

/-!
# Replay ingress

{lit}`LifecycleService.push_replay_context`: it reads the events of a pushed
payload, drops those outside the launch window of a backtest and those that are
no bars of the configured timeframe, and hands the tick of every other event to
the replay gateway.  An exception ends the call, and what the gateway has taken
before stays taken.

Main results:

- Theorem {lit}`replayEvents_log`: the gateway has taken exactly the ticks of
  the consumed events.
- Theorem {lit}`pushAll_log`: the same over any sequence of calls.
- Theorem {lit}`pushReplayContext_consumedCount`: the acknowledged number is the
  number of events that this call has handed over.
-/

namespace StrategyWorker
namespace Application

open Library
open Library.PyText
open Library.Binary64
open Domain
open Integration
open Bootstrap

/-! ## Market time of an event -/

/-- {lit}`_parse_datetime`. -/
def parseDatetime : PyVal → Option PyDateTime
  | .datetime value => some value.naiveAsUtc
  | .str text => parseIsoText text
  | _ => none

/-- {lit}`float(s) + nanos / 1e9`. -/
def epochSeconds (s nanos : Int) : Except PyError PyFloat := do
  let whole ← floatOfInt s
  let fraction ← floatOfInt nanos
  match whole, fraction with
  | .finite a, .finite b => return floatOfRat (a + fl (b / 10 ^ 9))
  | f, _ => return f

/-- {lit}`_coerce_timestamp`: only the conversion of the seconds is guarded. -/
def coerceTimestamp (value : PyVal) : Except PyError (Option PyDateTime) :=
  match parseDatetime value with
  | some parsed => .ok (some parsed)
  | none =>
      match value with
      | .dict fields =>
          let sec := PyDict.get fields "seconds"
          if sec.isNone then .ok none
          else
            match sec.toInt with
            | .error .overflowError => .error .overflowError
            | .error _ => .ok none
            | .ok s => do
                let nanos ← ((PyDict.get fields "nanos").orElse (.int 0)).toInt
                let seconds ← epochSeconds s nanos
                return some (← utcFromEpochSeconds seconds)
      | _ => .ok none

/-- The first of the keys that holds a timestamp. -/
def firstTimestamp (tickPayload : PyDict) : List String → Except PyError (Option PyDateTime)
  | [] => .ok none
  | key :: keys => do
      match ← coerceTimestamp (tickPayload.get key) with
      | some payloadTs => return some payloadTs
      | none => firstTimestamp tickPayload keys

/-- {lit}`_extract_market_timestamp`. -/
def extractMarketTimestamp (event tickPayload : PyDict) : Except PyError (Option PyDateTime) := do
  match ← coerceTimestamp (event.get "event_time") with
  | some eventTs => return some eventTs
  | none => firstTimestamp tickPayload ["event_time", "timestamp", "ts", "time"]

/-- The payload of an event, empty unless it is a mapping. -/
def ownPayload (event : PyDict) : PyDict :=
  match event.get "payload" with
  | .dict fields => fields
  | _ => []

/-- {lit}`type` from an {lit}`event_type` that is a text. -/
def typeFromEventType (tickPayload : PyDict) : PyDict :=
  match tickPayload.get "event_type" with
  | .str eventType =>
      if tickPayload.contains "type" then tickPayload
      else tickPayload.set "type" (.str eventType)
  | _ => tickPayload

/-- The tick payload of an event. -/
def tickPayloadOf (event : PyDict) : PyDict :=
  let tickPayload := ownPayload event
  let tickPayload := tickPayload.setDefault "event_id" (event.get "event_id")
  let tickPayload := tickPayload.setDefault "event_type" (event.get "event_type")
  let tickPayload := tickPayload.setDefault "instrument_id" (event.get "instrument_id")
  let tickPayload := typeFromEventType tickPayload
  let tickPayload := tickPayload.setDefault "sequence" (event.get "sequence")
  tickPayload.setDefault "event_time" (event.get "event_time")

/-! ## Filters -/

/-- {lit}`normalize_bar_timeframe_label`. -/
def normalizeBarTimeframeLabel (raw : String) : String :=
  let label := lower (strip raw)
  if label ∈ ["1min", "60s", "60sec", "m1"] then "1m" else label

/-- {lit}`skip_backtest_replay_tick_for_ingest`. -/
def skipBacktestReplayTickForIngest (tickPayload : PyDict) (expectedBarTimeframe : String) : Bool :=
  let eventType := ((tickPayload.get "type").orElse (tickPayload.get "event_type")).orElse (.str "")
  if lower (strip eventType.text) ≠ "market.bar" then true
  else
    let timeframe := strip ((tickPayload.get "timeframe").orElse (.str "")).text
    if timeframe = "" then false
    else normalizeBarTimeframeLabel timeframe ≠ normalizeBarTimeframeLabel expectedBarTimeframe

/-- The fields of a launch spec that a replay reads.  {lit}`LaunchSpec.from_payload` takes texts
that are not empty and have no spaces around them, both bounds for a backtest and none otherwise. -/
structure LaunchSpec where
  runtimeId : String
  mode : RuntimeMode
  tsStart : Option String
  tsEnd : Option String
  tsStart_text : ∀ s ∈ tsStart, s ≠ "" ∧ Trimmed s
  tsEnd_text : ∀ s ∈ tsEnd, s ≠ "" ∧ Trimmed s
  tsStart_mode : tsStart.isSome = true ↔ mode = .backtest
  tsEnd_mode : tsEnd.isSome = true ↔ mode = .backtest

/-- {lit}`_backtest_window_bounds`: no bounds when a text cannot be read. -/
def backtestWindowBounds (launchSpec : LaunchSpec) : Option (PyDateTime × PyDateTime) := do
  if launchSpec.mode ≠ .backtest then none
  else
    let tsStart ← launchSpec.tsStart
    let tsEnd ← launchSpec.tsEnd
    if tsStart = "" ∨ tsEnd = "" then none
    else
      let lo ← parseIsoText tsStart
      let hi ← parseIsoText tsEnd
      return (lo, hi)

/-- The event lies outside the bounds, as far as there are bounds and a time. -/
def outsideBounds (bounds : Option (PyDateTime × PyDateTime)) (eventTs : Option PyDateTime) : Bool :=
  match bounds, eventTs with
  | some (lo, hi), some ts => ts.instant < lo.instant || hi.instant < ts.instant
  | _, _ => false

/-! ## One call -/

structure ReplayConfig where
  launchSpec : LaunchSpec
  /-- {lit}`replay_bar_timeframe` of the worker settings, empty when there are none. -/
  replayBarTimeframe : String

def ReplayConfig.expectedBarTimeframe (cfg : ReplayConfig) : String :=
  if cfg.replayBarTimeframe = "" then "1m" else cfg.replayBarTimeframe

/-- The tick and the effective simulated time of an event; {lit}`none` when it is skipped. -/
def admitEvent (cfg : ReplayConfig) (batchSimulated : Option PyDateTime) (event : PyDict) :
    Except PyError (Option (PyDict × Option PyDateTime)) := do
  let tickPayload := tickPayloadOf event
  let eventTs := (← extractMarketTimestamp event tickPayload) <|> batchSimulated
  if cfg.launchSpec.mode = .backtest ∧
      outsideBounds (backtestWindowBounds cfg.launchSpec) eventTs = true then
    return none
  else if cfg.launchSpec.mode = .backtest ∧
      skipBacktestReplayTickForIngest tickPayload cfg.expectedBarTimeframe = true then
    return none
  else return some (tickPayload, eventTs <|> batchSimulated)

/-- The loop over the events of a call. -/
structure Batch where
  gateway : ReplayGateway PyDict
  /-- The events whose ticks the gateway has taken, in order; {lit}`consumed` is their number. -/
  consumed : List PyDict
  lastEffectiveSim : Option PyDateTime
  raised : Bool

/-- {lit}`for event in event_list`; the journal is written to at the first data only. -/
def replayEvents (cfg : ReplayConfig) (journalRaises : Bool) (batchSimulated : Option PyDateTime) :
    List PyDict → Batch → Batch
  | [], batch => batch
  | event :: events, batch =>
      match admitEvent cfg batchSimulated event with
      | .error _ => { batch with raised := true }
      | .ok none => replayEvents cfg journalRaises batchSimulated events batch
      | .ok (some (tickPayload, effectiveSim)) =>
          let (gateway, raises) :=
            batch.gateway.ingestReplayTick journalRaises tickPayload effectiveSim
          if raises then { batch with gateway, raised := true }
          else
            replayEvents cfg journalRaises batchSimulated events
              { batch with
                gateway
                consumed := batch.consumed ++ [event]
                lastEffectiveSim := effectiveSim <|> batch.lastEffectiveSim }

/-- The events of a payload that are mappings. -/
def eventList (payload : PyDict) : List PyDict :=
  match payload.get "events" with
  | .list items => items.filterMap fun item => match item with | .dict fields => some fields | _ => none
  | _ => []

/-- A field of the {lit}`replay` mapping of a payload as text. -/
def replayMeta (payload : PyDict) (key : String) : String :=
  match payload.get "replay" with
  | .dict fields => ((PyDict.get fields key).orElse (.str "")).text
  | _ => ""

structure PushResponse where
  runtimeId : String
  replaySessionId : String
  replayCursor : String
  consumedCount : Nat
  deriving DecidableEq

/-- The state of the lifecycle service that a push reads and writes. -/
structure ReplayWorker where
  /-- The replay gateway of the runtime dependencies, once they are built. -/
  runtimeDependencies : Option (Option (ReplayGateway PyDict))
  lastReplayCursor : String
  lastDataEventTimestamp : Option PyDateTime
  backtestReplayComplete : Bool
  /-- All consumed events, in order. -/
  consumed : List PyDict

/-- A call and how its surroundings behave. -/
structure PushCall where
  payload : PyDict
  /-- {lit}`record_first_data` of the state journal raises. -/
  journalRaises : Bool
  /-- The initializer of the runtime dependencies raises, or builds them with or without a replay
  gateway. -/
  initializer : Except PyError Bool

/-- A gateway that has seen no tick. -/
def freshGateway : ReplayGateway PyDict :=
  ⟨none, ⟨false, false, FirstData.received_of_unmarked⟩, []⟩

/-- The dependencies, built by this call if need be. -/
def ensureDependencies (w : ReplayWorker) (call : PushCall) :
    Except PyError (Option (ReplayGateway PyDict)) :=
  match w.runtimeDependencies with
  | some dependencies => .ok dependencies
  | none => call.initializer.map fun hasReplay => if hasReplay then some freshGateway else none

/-- {lit}`push_replay_context` from the loop on. -/
def pushEvents (cfg : ReplayConfig) (w : ReplayWorker) (call : PushCall)
    (gateway : ReplayGateway PyDict) (response : Nat → PushResponse) :
    ReplayWorker × Option PushResponse :=
  let batchSimulated := parseDatetime (call.payload.get "simulated_time")
  let batch := replayEvents cfg call.journalRaises batchSimulated (eventList call.payload)
    ⟨gateway, [], none, false⟩
  let w := { w with
    runtimeDependencies := some (some batch.gateway)
    consumed := w.consumed ++ batch.consumed }
  if batch.raised then (w, none)
  else
    ({ w with
        lastDataEventTimestamp := batch.lastEffectiveSim <|> w.lastDataEventTimestamp
        backtestReplayComplete := w.backtestReplayComplete ||
          (cfg.launchSpec.mode = .backtest && (call.payload.get "end_of_stream").truthy) },
      some (response batch.consumed.length))

/-- {lit}`push_replay_context`: the state it leaves and its answer, {lit}`none` when it raises. -/
def pushReplayContext (cfg : ReplayConfig) (w : ReplayWorker) (call : PushCall) :
    ReplayWorker × Option PushResponse :=
  match ensureDependencies w call with
  | .error _ => (w, none)
  | .ok none =>
      ({ w with runtimeDependencies := some none }, some ⟨cfg.launchSpec.runtimeId, "", "", 0⟩)
  | .ok (some gateway) =>
      let replayCursor := replayMeta call.payload "replay_cursor"
      let response := fun consumedCount =>
        ⟨cfg.launchSpec.runtimeId, replayMeta call.payload "replay_session_id", replayCursor,
          consumedCount⟩
      let served := { w with
        runtimeDependencies := some (some gateway)
        lastReplayCursor := replayCursor }
      if cfg.launchSpec.mode = .backtest ∧ w.backtestReplayComplete = true then
        (served, some (response 0))
      else pushEvents cfg served call gateway response

/-- A worker that has seen no replay. -/
def replayWorkerInit : ReplayWorker :=
  ⟨none, "", none, false, []⟩

/-- Calls one after the other. -/
def pushAll (cfg : ReplayConfig) (w : ReplayWorker) (calls : List PushCall) : ReplayWorker :=
  calls.foldl (fun w call => (pushReplayContext cfg w call).1) w

/-- The ticks that the gateway has taken. -/
def ReplayWorker.received (w : ReplayWorker) : List PyDict :=
  match w.runtimeDependencies with
  | some (some gateway) => gateway.received
  | _ => []

/-! ## What a call hands over -/

section

variable {cfg : ReplayConfig}

/-- The event is handed over by some call. -/
def Admitted (cfg : ReplayConfig) (event : PyDict) : Prop :=
  ∃ batchSimulated effectiveSim,
    admitEvent cfg batchSimulated event = .ok (some (tickPayloadOf event, effectiveSim))

/-- An admitted event is handed over with its own tick payload, and it lies within the bounds. -/
theorem admitEvent_eq_some {batchSimulated : Option PyDateTime} {event tickPayload : PyDict}
    {effectiveSim : Option PyDateTime}
    (h : admitEvent cfg batchSimulated event = .ok (some (tickPayload, effectiveSim))) :
    ∃ eventTs, extractMarketTimestamp event (tickPayloadOf event) = .ok eventTs ∧
      tickPayload = tickPayloadOf event ∧
      effectiveSim = (eventTs <|> batchSimulated) ∧
      (cfg.launchSpec.mode = .backtest →
        outsideBounds (backtestWindowBounds cfg.launchSpec) (eventTs <|> batchSimulated) = false ∧
          skipBacktestReplayTickForIngest tickPayload cfg.expectedBarTimeframe = false) := by
  unfold admitEvent at h
  cases hts : extractMarketTimestamp event (tickPayloadOf event) with
  | error e => simp [hts, bind, Except.bind] at h
  | ok eventTs =>
      simp only [hts, bind, Except.bind, pure, Except.pure] at h
      by_cases hout : cfg.launchSpec.mode = .backtest ∧
          outsideBounds (backtestWindowBounds cfg.launchSpec) (eventTs <|> batchSimulated) = true
      · rw [if_pos hout] at h
        cases h
      · rw [if_neg hout] at h
        by_cases hskip : cfg.launchSpec.mode = .backtest ∧ skipBacktestReplayTickForIngest
            (tickPayloadOf event) cfg.expectedBarTimeframe = true
        · rw [if_pos hskip] at h
          cases h
        · rw [if_neg hskip] at h
          simp only [Except.ok.injEq, Option.some.injEq, Prod.mk.injEq] at h
          rcases h with ⟨rfl, rfl⟩
          refine ⟨eventTs, rfl, rfl, by cases eventTs <;> cases batchSimulated <;> rfl, ?_⟩
          intro hmode
          exact ⟨by simpa [hmode] using hout, by simpa [hmode] using hskip⟩

/-- What the gateway has taken and the events it comes from. -/
structure Log (cfg : ReplayConfig) (received consumed : List PyDict) : Prop where
  ticks : received = consumed.map tickPayloadOf
  admitted : ∀ event ∈ consumed, Admitted cfg event

theorem log_nil : Log cfg [] [] :=
  ⟨rfl, by simp⟩

/-- One more event. -/
theorem Log.snoc {received consumed : List PyDict} (h : Log cfg received consumed) {event : PyDict}
    (hevent : Admitted cfg event) :
    Log cfg (received ++ [tickPayloadOf event]) (consumed ++ [event]) := by
  constructor
  · simp [h.ticks]
  · intro event' hmem
    rcases List.mem_append.1 hmem with hmem | hmem
    · exact h.admitted event' hmem
    · rw [List.mem_singleton.1 hmem]
      exact hevent

/-- A gateway that raises has taken nothing. -/
theorem ingest_received {journalRaises : Bool} {gateway gateway' : ReplayGateway PyDict}
    {tick : PyDict} {time : Option PyDateTime} {raises : Bool}
    (h : gateway.ingestReplayTick journalRaises tick time = (gateway', raises)) :
    gateway'.received = if raises then gateway.received else gateway.received ++ [tick] := by
  cases raises with
  | true => exact (ingestReplayTick_raises h).2
  | false => exact (ingestReplayTick_ok h).2.1

/-- The gateway has taken exactly the ticks of the consumed events. -/
theorem replayEvents_log (journalRaises : Bool) (batchSimulated : Option PyDateTime)
    {before : List PyDict} (events : List PyDict) (batch : Batch)
    (h : Log cfg batch.gateway.received (before ++ batch.consumed)) :
    Log cfg (replayEvents cfg journalRaises batchSimulated events batch).gateway.received
      (before ++ (replayEvents cfg journalRaises batchSimulated events batch).consumed) := by
  induction events generalizing batch with
  | nil => exact h
  | cons event events ih =>
      unfold replayEvents
      split
      · exact h
      · exact ih _ h
      · rename_i tickPayload effectiveSim hadmitted
        rcases hingest : batch.gateway.ingestReplayTick journalRaises tickPayload effectiveSim with
          ⟨gateway, raises⟩
        have hreceived := ingest_received hingest
        rcases admitEvent_eq_some hadmitted with ⟨-, -, rfl, -, -⟩
        cases raises with
        | true => simpa [hreceived] using h
        | false =>
            simp only [Bool.false_eq_true, if_false] at hreceived ⊢
            apply ih
            rw [hreceived, ← List.append_assoc]
            exact h.snoc ⟨batchSimulated, effectiveSim, hadmitted⟩

/-- The log of a worker. -/
def WorkerLog (cfg : ReplayConfig) (w : ReplayWorker) : Prop :=
  Log cfg w.received w.consumed ∧ (w.runtimeDependencies = none → w.consumed = [])

theorem ensureDependencies_log {w : ReplayWorker} (h : WorkerLog cfg w) {call : PushCall}
    {dependencies : Option (ReplayGateway PyDict)}
    (hdeps : ensureDependencies w call = .ok dependencies) :
    Log cfg ((dependencies.map ReplayGateway.received).getD []) w.consumed := by
  unfold ensureDependencies at hdeps
  cases hw : w.runtimeDependencies with
  | some d =>
      rw [hw] at hdeps
      cases hdeps
      have hlog := h.1
      unfold ReplayWorker.received at hlog
      rw [hw] at hlog
      cases dependencies <;> exact hlog
  | none =>
      rw [hw] at hdeps
      rw [h.2 hw]
      cases hinit : call.initializer with
      | error e => simp [hinit, Except.map] at hdeps
      | ok hasReplay =>
          simp only [hinit, Except.map, Except.ok.injEq] at hdeps
          subst hdeps
          cases hasReplay <;> exact log_nil

/-- A call keeps the log. -/
theorem pushReplayContext_log {w : ReplayWorker} (h : WorkerLog cfg w) (call : PushCall) :
    WorkerLog cfg (pushReplayContext cfg w call).1 := by
  unfold pushReplayContext
  split
  · exact h
  · rename_i hdeps
    exact ⟨ensureDependencies_log h hdeps, fun hnone => (nomatch hnone)⟩
  · rename_i gateway hdeps
    have hlog := ensureDependencies_log h hdeps
    simp only
    split
    · exact ⟨hlog, fun hnone => (nomatch hnone)⟩
    · have hevents := replayEvents_log call.journalRaises
        (parseDatetime (call.payload.get "simulated_time")) (eventList call.payload)
        ⟨gateway, [], none, false⟩ (by simpa using hlog)
      unfold pushEvents
      simp only
      split <;> exact ⟨hevents, fun hnone => (nomatch hnone)⟩

/-- Over any sequence of calls the gateway has taken exactly the ticks of the consumed events. -/
theorem pushAll_log (cfg : ReplayConfig) (calls : List PushCall) :
    Log cfg (pushAll cfg replayWorkerInit calls).received
      (pushAll cfg replayWorkerInit calls).consumed := by
  have h : ∀ w, WorkerLog cfg w → WorkerLog cfg (pushAll cfg w calls) := by
    intro w hw
    unfold pushAll
    induction calls generalizing w with
    | nil => exact hw
    | cons call calls ih => exact ih _ (pushReplayContext_log hw call)
  exact (h replayWorkerInit ⟨log_nil, fun _ => rfl⟩).1

/-- The acknowledged number is the number of events that this call has handed over. -/
theorem pushReplayContext_consumedCount {w : ReplayWorker} {call : PushCall}
    {response : PushResponse} (h : (pushReplayContext cfg w call).2 = some response) :
    (pushReplayContext cfg w call).1.consumed.length =
      w.consumed.length + response.consumedCount := by
  unfold pushReplayContext at h ⊢
  split at h
  · cases h
  · cases h
    rfl
  · simp only at h ⊢
    split at h
    · rename_i hcomplete
      cases h
      rw [if_pos hcomplete]
      rfl
    · rename_i hcomplete
      rw [if_neg hcomplete]
      unfold pushEvents at h ⊢
      simp only at h ⊢
      split at h
      · cases h
      · rename_i hraised
        cases h
        rw [if_neg hraised]
        simp

end

end Application
end StrategyWorker
