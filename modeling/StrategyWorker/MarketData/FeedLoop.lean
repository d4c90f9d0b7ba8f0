import StrategyWorker.Library.Logged
import StrategyWorker.MarketData.StreamPayload
import StrategyWorker.MarketData.XreadLoop

/-!
# The market-data loop, call by call

{lit}`run_market_data_redis_loop`, {lit}`_run_xreadgroup_loop` and
{lit}`_process_one_stream_field` as computations that log each call they make:
calls of the Redis client and of {lit}`should_stop`, the logs and the
dispatch of a field, its closing callback.  How a call ends is decided by an
environment that knows everything that happened before; payloads are parsed by
the model.

Redis calls raise connection errors, which the read is guarded against, and
response errors; a strategy raises what it likes.

Main results:

- Definition {lit}`runMarketDataRedisLoop`: the loop in both modes, followed for
  a number of rounds after its start.
- Theorem {lit}`processOneStreamField_yields`: a field whose payload is parsed
  is processed to the end, its callback last.
- Theorem {lit}`processOneStreamField_raises`: a field whose payload is not
  parsed raises at once.
-/

namespace StrategyWorker
namespace MarketData

open Library
open Library.PyText
open Library.Logged

/-- What the loop can raise. -/
inductive FeedError where
  /-- {lit}`redis.ConnectionError`, {lit}`redis.TimeoutError` or {lit}`OSError`. -/
  | connection
  /-- {lit}`redis.ResponseError`, with or without {lit}`BUSYGROUP` in its text. -/
  | response (busyGroup : Bool)
  /-- Parsing or classifying a payload has raised. -/
  | payload (e : PayloadError)
  /-- Another {lit}`Exception`. -/
  | exception
  /-- A {lit}`BaseException` that is no {lit}`Exception`, such as {lit}`SystemExit`. -/
  | baseException
  deriving DecidableEq, Repr

/-- {lit}`except Exception` catches it. -/
def FeedError.isException : FeedError → Bool
  | .baseException => false
  | _ => true

/-- {lit}`except (redis.ConnectionError, redis.TimeoutError, OSError)` catches it. -/
def FeedError.isOutage : FeedError → Bool
  | .connection => true
  | _ => false

/-- A field of a message, the stream and the id of the message as texts. -/
abbrev StreamCall := FieldCall String String

/-- A message of a reply with its stream. -/
abbrev StreamMessage := String × Entry String Fields

/-- The structured logs of {lit}`_process_one_stream_field`. -/
inductive FieldLog where
  | parseFailed (reason : String)
  | eventReceived
  | strategyExecutionTriggered
  | strategyDispatchException
  deriving DecidableEq, Repr

/-- What the loop does; a call of the environment carries what it has raised. -/
inductive FeedEvent where
  | opened
  | closed (raised : Option FeedError)
  | isSet (stopped : Bool)
  /-- {lit}`should_stop.wait(seconds)`. -/
  | wait (seconds : Nat) (stopped : Bool)
  | xgroupCreate (stream : String) (raised : Option FeedError)
  /-- XREAD with the positions, or XREADGROUP without. -/
  | read (positions : Option (List (String × String))) (raised : Option FeedError)
  | xack (stream msgId : String) (raised : Option FeedError)
  /-- {lit}`_process_one_stream_field` is called. -/
  | entered (c : StreamCall)
  | log (c : StreamCall) (l : FieldLog)
  /-- {lit}`on_tick(tick)`. -/
  | onTick (c : StreamCall) (tick : PyDict) (raised : Option FeedError)
  /-- {lit}`_process_one_stream_field` returns. -/
  | left (c : StreamCall)

/-- A computation of the feed thread. -/
abbrev Feed := Logged FeedEvent FeedError

/-- How the calls of the loop end, given everything that happened before. -/
structure FeedEnv where
  read : List FeedEvent → Except FeedError (Reply String String)
  xack : List FeedEvent → Option FeedError
  xgroupCreate : List FeedEvent → Option FeedError
  close : List FeedEvent → Option FeedError
  onTick : List FeedEvent → Option FeedError
  shouldStop : List FeedEvent → Bool

/-- The arguments of the loop. -/
structure FeedConfig extends PayloadConfig where
  streamNames : List String
  streamStartId : String
  strategySymbol : String
  useConsumerGroup : Bool
  consumerGroupName : String
  consumerName : String
  /-- {lit}`str.upper`. -/
  upper : String → String

/-! ## One field -/

/-- {lit}`matches_strategy`. -/
def matchesStrategy (cfg : FeedConfig) (fieldSym : String) : Bool :=
  let traded := cfg.upper (strip cfg.strategySymbol)
  traded = "" || cfg.upper (strip fieldSym) = traded

/-- {lit}`on_tick(tick)` inside {lit}`try: … except Exception`. -/
def dispatch (env : FeedEnv) (c : StreamCall) (tick : PyDict) : Feed Unit :=
  catchWith (attempt env.onTick (.onTick c tick)) fun e =>
    if e.isException then emit (.log c .strategyDispatchException) else raise e

/-- {lit}`_process_one_stream_field`; the callback {lit}`on_parse_failure` closes each of its
exits. -/
def processOneStreamField {β : Type} (env : FeedEnv) (cfg : FeedConfig) (c : StreamCall)
    (onParseFailure : Feed β) : Feed β := do
  emit (.entered c)
  match streamPayloadToTick cfg.toPayloadConfig cfg.room c.streamName c.fieldSym c.payload
      c.msgId with
  | .error e => raise (.payload e)
  | .ok none =>
      match classifyStreamPayloadFailure cfg.toPayloadConfig c.streamName c.fieldSym c.payload
          c.msgId with
      | .error e => raise (.payload e)
      | .ok reason =>
          emit (.log c (.parseFailed (reason.getD "unknown")))
          let b ← onParseFailure
          emit (.left c)
          return b
  | .ok (some tick) =>
      if matchesStrategy cfg c.fieldSym then
        emit (.log c .eventReceived)
        emit (.log c .strategyExecutionTriggered)
        let b ← ensuring (dispatch env c tick) onParseFailure
        emit (.left c)
        return b
      else
        let b ← onParseFailure
        emit (.left c)
        return b

/-! ## One reply of XREADGROUP -/

/-- {lit}`client.xack(stream_name, consumer_group, msg_id)`. -/
def xack (env : FeedEnv) (stream msgId : String) : Feed Unit :=
  attempt env.xack (.xack stream msgId)

/-- The callback of {lit}`_make_ack_one`: it removes the field from {lit}`pending` and
acknowledges once nothing is left. -/
def ackOne (env : FeedEnv) (stream msgId fieldSym : String) (pending : List String) :
    Feed (List String) :=
  if fieldSym ∈ pending then do
    if pending.erase fieldSym = [] then xack env stream msgId
    return pending.erase fieldSym
  else return pending

/-- The loop over the fields of a message. -/
def processFields (env : FeedEnv) (cfg : FeedConfig) (stream msgId : String) :
    List String → List (String × String) → Feed (List String)
  | pending, [] => return pending
  | pending, (fieldSym, payload) :: fields => do
      let pending ← processOneStreamField env cfg ⟨stream, msgId, fieldSym, payload⟩
        (ackOne env stream msgId fieldSym pending)
      processFields env cfg stream msgId pending fields

/-- One message of XREADGROUP: what is left in {lit}`pending` after the loop is acknowledged. -/
def handleGroupMessage (env : FeedEnv) (cfg : FeedConfig) (m : StreamMessage) : Feed Unit :=
  match m.2.fields with
  | none => xack env m.1 m.2.id
  | some [] => xack env m.1 m.2.id
  | some fields => do
      let pending ← processFields env cfg m.1 m.2.id (fields.map Prod.fst) fields
      if pending = [] then return () else xack env m.1 m.2.id

/-- The messages of a reply with their streams. -/
def messagesOf (resp : Reply String String) : List StreamMessage :=
  resp.flatMap fun p => p.2.map fun m => (p.1, m)

/-- {lit}`for stream_name, messages in resp: for msg_id, fields in messages`. -/
def handleGroupReply (env : FeedEnv) (cfg : FeedConfig) (resp : Reply String String) : Feed Unit :=
  forEach (fun p => forEach (handleGroupMessage env cfg) (p.2.map fun m => (p.1, m))) resp

/-! ## One reply of XREAD -/

/-- The keys of {lit}`positions` with their ids. -/
abbrev Positions := List (String × String)

/-- {lit}`positions[stream_name] = last_id`. -/
def setPosition : Positions → String → String → Positions
  | [], stream, id => [(stream, id)]
  | p :: positions, stream, id =>
      if p.1 = stream then (stream, id) :: positions else p :: setPosition positions stream id

/-- {lit}`positions.get(stream_name, start_id)`. -/
def getPosition (positions : Positions) (stream startId : String) : String :=
  ((positions.find? fun p => p.1 = stream).map Prod.snd).getD startId

/-- {lit}`(stream_start_id or "$").strip() or "$"`. -/
def startIdOf (cfg : FeedConfig) : String :=
  if strip cfg.streamStartId = "" then "$" else strip cfg.streamStartId

/-- One message of XREAD: every field is processed, without callback. -/
def handleXreadMessage (env : FeedEnv) (cfg : FeedConfig) (m : StreamMessage) : Feed Unit :=
  match m.2.fields with
  | none => return ()
  | some _ =>
      forEach (fun c => processOneStreamField env cfg c (return ())) (callsOf m.1 m.2)

/-- The loop over the streams of a reply; the position of a stream is set after its messages. -/
def handleXreadReply (env : FeedEnv) (cfg : FeedConfig) :
    Reply String String → Positions → Feed Positions
  | [], positions => return positions
  | (stream, messages) :: resp, positions => do
      forEach (fun m => handleXreadMessage env cfg (stream, m)) messages
      let last := (messages.getLast?.map Entry.id).getD
        (getPosition positions stream (startIdOf cfg))
      handleXreadReply env cfg resp (setPosition positions stream last)

/-! ## The loops -/

/-- {lit}`_reconnect_backoff_seconds`. -/
def reconnectBackoffSeconds (attempt : Nat) : Nat :=
  min 30 (2 ^ min attempt 5)

/-- {lit}`_ensure_consumer_groups`: {lit}`BUSYGROUP` is ignored. -/
def ensureConsumerGroups (env : FeedEnv) (cfg : FeedConfig) : Feed Unit :=
  forEach (fun stream =>
    catchWith (attempt env.xgroupCreate (.xgroupCreate stream)) fun e =>
      if e = .response true then return () else raise e) cfg.streamNames

/-- {lit}`client.close()` inside {lit}`try: … except Exception: pass`. -/
def closeClient (env : FeedEnv) : Feed Unit :=
  catchWith (attempt env.close .closed) fun e => if e.isException then return () else raise e

/-- What a loop keeps from round to round. -/
structure LoopState where
  positions : Positions
  reconnectAttempt : Nat
  deriving DecidableEq

/-- {lit}`should_stop.is_set()`. -/
def isStopped (env : FeedEnv) : Feed Bool := do
  let stopped ← ask env.shouldStop
  emit (.isSet stopped)
  return stopped

/-- {lit}`should_stop.wait(_reconnect_backoff_seconds(reconnect_attempt))`. -/
def backoff (env : FeedEnv) (attempt : Nat) : Feed Bool := do
  let stopped ← ask env.shouldStop
  emit (.wait (reconnectBackoffSeconds attempt) stopped)
  return stopped

/-- {lit}`client.xread(...)` or {lit}`client.xreadgroup(...)`; {lit}`none` when the handler of
connection errors is entered. -/
def readReply (env : FeedEnv) (positions : Option Positions) :
    Feed (Option (Reply String String)) := do
  let outcome ← ask env.read
  match outcome with
  | .ok resp =>
      emit (.read positions none)
      return some resp
  | .error e =>
      emit (.read positions (some e))
      if e.isOutage then return none else raise e

/-- The handler of a connection error: {lit}`none` leaves the loop. -/
def reconnect (env : FeedEnv) (cfg : FeedConfig) (st : LoopState) : Feed (Option LoopState) := do
  if ← backoff env st.reconnectAttempt then return none
  else
    closeClient env
    emit .opened
    if cfg.useConsumerGroup then ensureConsumerGroups env cfg
    return some { st with reconnectAttempt := st.reconnectAttempt + 1 }

/-- The loops over a reply, in the mode of the loop. -/
def handleReply (env : FeedEnv) (cfg : FeedConfig) (resp : Reply String String) (st : LoopState) :
    Feed LoopState := do
  if cfg.useConsumerGroup then
    handleGroupReply env cfg resp
    return { st with reconnectAttempt := 0 }
  else
    let positions ← handleXreadReply env cfg resp st.positions
    return ⟨positions, 0⟩

/-- One round of {lit}`while not should_stop.is_set()`. -/
def loopRound (env : FeedEnv) (cfg : FeedConfig) (st : LoopState) : Feed (Option LoopState) := do
  if ← isStopped env then return none
  else
    match ← readReply env (if cfg.useConsumerGroup then none else some st.positions) with
    | none => reconnect env cfg st
    | some resp =>
        let st ← handleReply env cfg resp st
        return some st

/-- What comes before the loop: the client and, in a group, the group of each stream. -/
def startLoop (env : FeedEnv) (cfg : FeedConfig) : Feed LoopState := do
  emit .opened
  if cfg.useConsumerGroup then ensureConsumerGroups env cfg
  return ⟨cfg.streamNames.map fun stream => (stream, startIdOf cfg), 0⟩

/-- The final clause, entered when the loop is left. -/
def whenLeft (env : FeedEnv) (m : Feed (Option LoopState)) : Feed (Option LoopState) :=
  fun log =>
    match m log with
    | (.ok (some st), log') => (.ok (some st), log')
    | (r, log') => ensuring (fun _ => (r, log')) (do closeClient env; return none) log'

/-- {lit}`run_market_data_redis_loop`, followed for {lit}`n` rounds: {lit}`some` state when it is
still inside, {lit}`none` when it has returned. -/
def runMarketDataRedisLoop (env : FeedEnv) (cfg : FeedConfig) (n : Nat) :
    Feed (Option LoopState) :=
  if cfg.streamNames = [] then return none
  else if cfg.useConsumerGroup ∧
      (strip cfg.consumerGroupName = "" ∨ strip cfg.consumerName = "") then
    raise .exception
  else
    whenLeft env do
      let st ← startLoop env cfg
      rounds (loopRound env cfg) n st

/-! ## What the processing of a field logs -/

/-- A field is processed: it is dropped with a reason, filtered, or dispatched, and an exception of
the strategy is logged. -/
def FieldBody (cfg : FeedConfig) (c : StreamCall) (body : List FeedEvent) : Prop :=
  match streamPayloadToTick cfg.toPayloadConfig cfg.room c.streamName c.fieldSym c.payload
      c.msgId with
  | .error _ => False
  | .ok none => ∃ reason, body = [.entered c, .log c (.parseFailed reason)]
  | .ok (some tick) =>
      if matchesStrategy cfg c.fieldSym then
        ∃ raised, body = [.entered c, .log c .eventReceived, .log c .strategyExecutionTriggered,
          .onTick c tick raised] ++ if raised.isSome then [.log c .strategyDispatchException] else []
      else body = [.entered c]

/-- Payload parsing returns for a call. -/
def CallReturns (cfg : FeedConfig) (c : StreamCall) : Prop :=
  PayloadReturns cfg.toPayloadConfig c.streamName c.fieldSym c.payload c.msgId

instance (cfg : FeedConfig) (c : StreamCall) : Decidable (CallReturns cfg c) :=
  inferInstanceAs (Decidable (PayloadReturns ..))

/-- A strategy that raises nothing but {lit}`Exception`s. -/
def TicksCaught (env : FeedEnv) : Prop :=
  ∀ log, ∀ e ∈ env.onTick log, e.isException

section

variable {env : FeedEnv} {cfg : FeedConfig} {β : Type}

theorem dispatch_yields (hticks : TicksCaught env) (c : StreamCall) (tick : PyDict) :
    Yields (dispatch env c tick) fun r new => r = .ok () ∧ ∃ raised,
      new = .onTick c tick raised :: if raised.isSome then [.log c .strategyDispatchException]
        else [] := by
  refine (Yields.attempt env.onTick (.onTick c tick)).catchWith (fun _ new h => ?_)
    (fun e new h => ?_)
  · rcases h with ⟨log, rfl, hok⟩
    cases hraised : env.onTick log with
    | none => exact ⟨rfl, none, rfl⟩
    | some e => simp [hraised] at hok
  · rcases h with ⟨log, rfl, herror⟩
    cases hraised : env.onTick log with
    | none => simp [hraised] at herror
    | some e' =>
        obtain rfl : e = e' := by simpa [hraised] using herror
        have hexc := hticks log e hraised
        simp only [hexc, if_true]
        exact (Yields.emit _).mono fun r new h => ⟨h.1, some e, by simp [h.2]⟩

/-- The end of every exit: the callback, and the return. -/
theorem closing_yields {callback : Feed β} {K : β → List FeedEvent → Prop} (c : StreamCall)
    (hcallback : Yields callback fun r new => ∃ b, r = .ok b ∧ K b new) :
    Yields (do let b ← callback; emit (.left c); return b) fun r new =>
      ∃ b ack, r = .ok b ∧ K b ack ∧ new = ack ++ [.left c] := by
  refine hcallback.bind (fun b ack hb => ?_) (fun e new h => ?_)
  · rcases hb with ⟨b', hb', hK⟩
    obtain rfl : b = b' := Except.ok.inj hb'
    exact Yields.after_emit ((Yields.pure b).mono fun r new h => ⟨b, ack, h.1, hK, by rw [h.2]⟩)
  · rcases h with ⟨b, hb, -⟩
    cases hb

/-- A field whose payload is parsed is processed to the end, its callback last. -/
theorem processOneStreamField_yields {callback : Feed β} {K : β → List FeedEvent → Prop}
    {c : StreamCall} (hreturns : CallReturns cfg c) (hticks : TicksCaught env)
    (hcallback : Yields callback fun r new => ∃ b, r = .ok b ∧ K b new) :
    Yields (processOneStreamField env cfg c callback) fun r new =>
      ∃ b body ack, r = .ok b ∧ FieldBody cfg c body ∧ K b ack ∧
        new = body ++ ack ++ [.left c] := by
  rcases hreturns with ⟨tick, htick, hclassify⟩
  unfold processOneStreamField FieldBody
  apply Yields.after_emit
  cases tick with
  | none =>
      rcases hclassify rfl with ⟨reason, hreason⟩
      simp only [htick, hreason]
      apply Yields.after_emit
      refine (closing_yields c hcallback).mono fun r new h => ?_
      rcases h with ⟨b, ack, hr, hK, rfl⟩
      exact ⟨b, _, ack, hr, ⟨_, rfl⟩, hK, rfl⟩
  | some tick =>
      simp only [htick]
      by_cases hmatch : matchesStrategy cfg c.fieldSym
      · simp only [hmatch, if_true]
        apply Yields.after_emit
        apply Yields.after_emit
        have hdispatch : Yields (ensuring (dispatch env c tick) callback) fun r new =>
            ∃ b, r = .ok b ∧ ∃ raised ack, K b ack ∧
              new = (.onTick c tick raised :: if raised.isSome then
                [.log c .strategyDispatchException] else []) ++ ack := by
          apply (dispatch_yields hticks c tick).ensuring hcallback
          · intro _ new r ack hnew hr
            rcases hnew with ⟨-, raised, rfl⟩
            rcases hr with ⟨b, rfl, hK⟩
            exact ⟨b, rfl, raised, ack, hK, rfl⟩
          · intro e new b ack hnew
            cases hnew.1
          · intro e new e' ack hnew
            cases hnew.1
        refine (closing_yields c hdispatch).mono fun r new h => ?_
        rcases h with ⟨b, _, hr, ⟨raised, ack, hK, rfl⟩, rfl⟩
        exact ⟨b, _, ack, hr, ⟨raised, rfl⟩, hK, by simp⟩
      · simp only [hmatch, Bool.false_eq_true, if_false]
        refine (closing_yields c hcallback).mono fun r new h => ?_
        rcases h with ⟨b, ack, hr, hK, rfl⟩
        exact ⟨b, _, ack, hr, rfl, hK, rfl⟩

/-- A field whose payload is not parsed raises at once. -/
theorem processOneStreamField_raises {callback : Feed β} {c : StreamCall}
    (h : ¬ CallReturns cfg c) :
    Yields (processOneStreamField env cfg c callback) fun r new =>
      (∃ e, r = .error (.payload e)) ∧ new = [.entered c] := by
  unfold processOneStreamField
  apply Yields.after_emit
  cases htick : streamPayloadToTick cfg.toPayloadConfig cfg.room c.streamName c.fieldSym c.payload
      c.msgId with
  | error e => exact (Yields.raise _).mono fun r new hr => ⟨⟨e, hr.1⟩, by rw [hr.2]⟩
  | ok tick =>
      cases tick with
      | some tick => exact absurd ⟨some tick, htick, by simp⟩ h
      | none =>
          cases hreason : classifyStreamPayloadFailure cfg.toPayloadConfig c.streamName c.fieldSym
              c.payload c.msgId with
          | error e => exact (Yields.raise _).mono fun r new hr => ⟨⟨e, hr.1⟩, by rw [hr.2]⟩
          | ok reason => exact absurd ⟨none, htick, fun _ => ⟨reason, hreason⟩⟩ h

end

end MarketData
end StrategyWorker
