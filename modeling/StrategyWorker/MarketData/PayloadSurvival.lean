import StrategyWorker.MarketData.AckAfterProcessing

/-!
# Payloads that end the loop

{lit}`stream_payload_to_tick` coerces the fields of a message outside every
handler, and so do {lit}`_process_one_stream_field` and both loops call it.  A
payload that makes a coercion raise therefore ends the loop, and what follows
it in the reply is not processed.  A payload is harmless when no coercion can
raise on it, and a reply is processed to its end exactly when all its payloads
are.

Main results:

- Theorem {lit}`reply_survives_iff`: in both loops, and for every single field,
  processing comes to its end exactly when the payloads are harmless.
- Theorem {lit}`bad_price_ends_loop`: a price that is no numeral ends the loop.
-/

namespace StrategyWorker
namespace MarketData

open Library
open Library.Logged

/-- The calls of {lit}`_process_one_stream_field` that have returned. -/
def returnedCalls (events : List FeedEvent) : List StreamCall :=
  events.filterMap fun ev => match ev with
    | .left c => some c
    | _ => none

/-- The calls that a reply leads to. -/
def callsOfReply (resp : Reply String String) : List StreamCall :=
  (messagesOf resp).flatMap fun m => callsOf m.1 m.2

/-- The payload of a call is harmless. -/
def HarmlessCall (cfg : FeedConfig) (c : StreamCall) : Prop :=
  HarmlessPayload cfg.toPayloadConfig c.streamName c.fieldSym c.payload

/-- The calls are processed to the end when all of them return; otherwise an exception of payload
parsing ends the processing. -/
def Processes (cfg : FeedConfig) (calls : List StreamCall) {α : Type} (r : Except FeedError α)
    (new : List FeedEvent) : Prop :=
  ((∃ a, r = .ok a) ∧ (∀ c ∈ calls, CallReturns cfg c) ∧ returnedCalls new = calls) ∨
    ((∃ e, r = .error (.payload e)) ∧ ∃ c ∈ calls, ¬ CallReturns cfg c)

/-- The processing survives: it returns, and every call has returned. -/
def Survives {α : Type} (m : Feed α) (calls : List StreamCall) : Prop :=
  Yields m fun r new => (∃ a, r = .ok a) ∧ returnedCalls new = calls

section

variable {env : FeedEnv} {cfg : FeedConfig} {α β : Type}

@[simp]
theorem returnedCalls_append (new new' : List FeedEvent) :
    returnedCalls (new ++ new') = returnedCalls new ++ returnedCalls new' :=
  List.filterMap_append

/-- What a computation that processes calls comes to. -/
theorem survives_iff_of_processes {m : Feed α} {calls : List StreamCall}
    (h : Yields m (Processes cfg calls)) :
    Survives m calls ↔ ∀ c ∈ calls, CallReturns cfg c := by
  constructor
  · intro hsurvives
    rcases (h.and hsurvives) [] with ⟨r, new, -, hprocess, ⟨a, rfl⟩, -⟩
    rcases hprocess with ⟨-, hall, -⟩ | ⟨⟨e, he⟩, -⟩
    · exact hall
    · cases he
  · intro hall
    refine h.mono fun r new hprocess => ?_
    rcases hprocess with ⟨hok, -, hreturned⟩ | ⟨-, c, hc, hnot⟩
    · exact ⟨hok, hreturned⟩
    · exact absurd (hall c hc) hnot

/-! ## Sequences -/

theorem processes_nil (a : α) : Processes cfg [] (.ok a : Except FeedError α) [] :=
  .inl ⟨⟨a, rfl⟩, by simp, rfl⟩

/-- Calls after calls. -/
theorem Processes.bind {m : Feed α} {f : α → Feed β} {calls calls' : List StreamCall}
    (hm : Yields m (Processes cfg calls)) (hf : ∀ a, Yields (f a) (Processes cfg calls')) :
    Yields (m >>= f) (Processes cfg (calls ++ calls')) := by
  apply hm.bind
  · intro a new h
    refine (hf a).mono fun r new' h' => ?_
    rcases h with ⟨-, hall, hreturned⟩ | ⟨⟨e, he⟩, -⟩
    · rcases h' with ⟨hok, hall', hreturned'⟩ | ⟨herror, c, hc, hnot⟩
      · refine .inl ⟨hok, ?_, by rw [returnedCalls_append, hreturned, hreturned']⟩
        exact List.forall_mem_append.2 ⟨hall, hall'⟩
      · exact .inr ⟨herror, c, List.mem_append_right _ hc, hnot⟩
    · cases he
  · intro e new h
    rcases h with ⟨⟨a, ha⟩, -⟩ | ⟨⟨e', he⟩, c, hc, hnot⟩
    · cases ha
    · refine .inr ⟨⟨e', ?_⟩, c, List.mem_append_left _ hc, hnot⟩
      cases he
      rfl

theorem Processes.forEach (cfg : FeedConfig) {γ : Type} {body : γ → Feed Unit} {calls : γ → List StreamCall}
    (h : ∀ x, Yields (body x) (Processes cfg (calls x))) (xs : List γ) :
    Yields (forEach body xs) (Processes cfg (xs.flatMap calls)) := by
  induction xs with
  | nil =>
      refine (Yields.pure ()).mono fun r new hr => ?_
      rw [hr.1, hr.2]
      exact processes_nil ()
  | cons x xs ih => exact Processes.bind (h x) fun _ => ih

/-! ## A field -/

/-- A computation that returns and completes no call. -/
def Quiet (m : Feed α) : Prop :=
  Yields m fun r new => ∃ a, r = .ok a ∧ returnedCalls new = []

theorem Quiet.pure (a : α) : Quiet (pure a : Feed α) :=
  (Yields.pure a).mono fun _ _ h => ⟨a, h.1, by rw [h.2]; rfl⟩

theorem Quiet.processes {m : Feed α} (h : Quiet m) (cfg : FeedConfig) : Yields m (Processes cfg []) := by
  refine h.mono fun r new hr => ?_
  rcases hr with ⟨a, rfl, hnew⟩
  exact .inl ⟨⟨a, rfl⟩, by simp, hnew⟩

theorem FieldBody.returnedCalls_eq {c : StreamCall} {body : List FeedEvent}
    (h : FieldBody cfg c body) : returnedCalls body = [] := by
  apply List.filterMap_eq_nil_iff.2
  intro ev hev
  have hinner := (h.inner ev hev).1
  cases ev <;> simp_all [FeedEvent.isReturn]

/-- A field is processed to its end exactly when its payload is parsed. -/
theorem processOneStreamField_processes (cfg : FeedConfig) (hticks : TicksCaught env) (c : StreamCall)
    {callback : Feed β} (hcallback : Quiet callback) :
    Yields (processOneStreamField env cfg c callback) (Processes cfg [c]) := by
  by_cases hreturns : CallReturns cfg c
  · refine (processOneStreamField_yields hreturns hticks hcallback).mono fun r new h => ?_
    rcases h with ⟨b, body, ack, rfl, hbody, hack, rfl⟩
    refine .inl ⟨⟨b, rfl⟩, by simpa using hreturns, ?_⟩
    rw [returnedCalls_append, returnedCalls_append, hbody.returnedCalls_eq, hack]
    rfl
  · refine (processOneStreamField_raises hreturns).mono fun r new h => ?_
    exact .inr ⟨h.1, c, by simp, hreturns⟩

theorem Quiet.bind {m : Feed α} {f : α → Feed β} (hm : Quiet m) (hf : ∀ a, Quiet (f a)) :
    Quiet (m >>= f) := by
  apply Yields.bind hm
  · intro a new h
    rcases h with ⟨-, -, hnew⟩
    refine (hf a).mono fun r new' h' => ?_
    rcases h' with ⟨b, hr, hnew'⟩
    exact ⟨b, hr, by rw [returnedCalls_append, hnew, hnew']; rfl⟩
  · intro e new h
    rcases h with ⟨a, ha, -⟩
    cases ha

/-! ## Both loops -/

theorem xack_quiet (hxack : ∀ log, env.xack log = none) (stream msgId : String) :
    Quiet (xack env stream msgId) :=
  (xack_yields hxack stream msgId).mono fun _ _ h => ⟨(), h.1, by rw [h.2]; rfl⟩

theorem ackOne_quiet (hxack : ∀ log, env.xack log = none) (stream msgId fieldSym : String)
    (pending : List String) : Quiet (ackOne env stream msgId fieldSym pending) := by
  unfold ackOne
  split
  · split
    · exact (xack_quiet hxack stream msgId).bind fun _ => Quiet.pure _
    · exact Quiet.pure _
  · exact Quiet.pure _

theorem processFields_processes (cfg : FeedConfig) (hticks : TicksCaught env) (hxack : ∀ log, env.xack log = none)
    (stream msgId : String) (fields : List (String × String)) (pending : List String) :
    Yields (processFields env cfg stream msgId pending fields)
      (Processes cfg (fields.map (callOf stream msgId))) := by
  induction fields generalizing pending with
  | nil => exact (Quiet.pure pending).processes cfg
  | cons f fields ih =>
      exact Processes.bind (processOneStreamField_processes cfg hticks (callOf stream msgId f)
        (ackOne_quiet hxack stream msgId f.1 pending)) ih

theorem handleGroupMessage_processes (cfg : FeedConfig) (hticks : TicksCaught env)
    (hxack : ∀ log, env.xack log = none) (m : StreamMessage) :
    Yields (handleGroupMessage env cfg m) (Processes cfg (callsOf m.1 m.2)) := by
  rcases m with ⟨stream, ⟨id, fields⟩⟩
  have hxackQuiet := (xack_quiet hxack stream id).processes cfg
  unfold handleGroupMessage
  match fields with
  | none => exact hxackQuiet
  | some [] => exact hxackQuiet
  | some (f :: fields) =>
      have hend (pending : List String) :
          Yields (if pending = [] then return () else xack env stream id)
            (Processes cfg []) := by
        split
        · exact (Quiet.pure ()).processes cfg
        · exact hxackQuiet
      have hprocess := Processes.bind
        (processFields_processes cfg hticks hxack stream id (f :: fields)
          ((f :: fields).map Prod.fst)) hend
      rw [List.append_nil] at hprocess
      exact hprocess

/-- The loop over a reply of XREADGROUP. -/
theorem handleGroupReply_processes (cfg : FeedConfig) (hticks : TicksCaught env)
    (hxack : ∀ log, env.xack log = none) (resp : Reply String String) :
    Yields (handleGroupReply env cfg resp) (Processes cfg (callsOfReply resp)) := by
  have h := Processes.forEach cfg
    (fun p : String × List (Entry String Fields) => Processes.forEach cfg
      (handleGroupMessage_processes cfg hticks hxack) (p.2.map fun m => (p.1, m))) resp
  rw [← List.flatMap_assoc] at h
  exact h

theorem handleXreadMessage_processes (cfg : FeedConfig) (hticks : TicksCaught env) (m : StreamMessage) :
    Yields (handleXreadMessage env cfg m) (Processes cfg (callsOf m.1 m.2)) := by
  unfold handleXreadMessage
  cases hfields : m.2.fields with
  | none =>
      have hnil : callsOf m.1 m.2 = [] := by simp [callsOf, hfields]
      rw [hnil]
      exact (Quiet.pure ()).processes cfg
  | some fields =>
      have h := Processes.forEach cfg (fun c => processOneStreamField_processes cfg hticks c
        (Quiet.pure ())) (callsOf m.1 m.2)
      simpa using h

/-- The loop over a reply of XREAD. -/
theorem handleXreadReply_processes (cfg : FeedConfig) (hticks : TicksCaught env) (resp : Reply String String)
    (positions : Positions) :
    Yields (handleXreadReply env cfg resp positions) (Processes cfg (callsOfReply resp)) := by
  induction resp generalizing positions with
  | nil => exact (Quiet.pure positions).processes cfg
  | cons p resp ih =>
      rcases p with ⟨stream, messages⟩
      have hstream := Processes.forEach cfg
        (fun m => handleXreadMessage_processes cfg hticks (stream, m)) messages
      have h := Processes.bind hstream fun _ => ih (setPosition positions stream
        ((messages.getLast?.map Entry.id).getD
          (getPosition positions stream (startIdOf cfg))))
      rw [callsOfReply, messagesOf, List.flatMap_cons, List.flatMap_append, List.flatMap_map]
      exact h

/-! ## When the loop survives -/

theorem callReturns_iff (c : StreamCall) : CallReturns cfg c ↔ HarmlessCall cfg c :=
  payload_returns_iff cfg.toPayloadConfig c.streamName c.fieldSym c.payload c.msgId

/-- In both loops a reply is processed to its end exactly when all its payloads are harmless; so is
a single field. -/
theorem reply_survives_iff (env : FeedEnv) (cfg : FeedConfig) (hticks : TicksCaught env)
    (hxack : ∀ log, env.xack log = none) :
    (∀ c, Survives (processOneStreamField env cfg c (return ())) [c] ↔ HarmlessCall cfg c) ∧
    (∀ resp, Survives (handleGroupReply env cfg resp) (callsOfReply resp) ↔
      ∀ c ∈ callsOfReply resp, HarmlessCall cfg c) ∧
    (∀ resp positions, Survives (handleXreadReply env cfg resp positions) (callsOfReply resp) ↔
      ∀ c ∈ callsOfReply resp, HarmlessCall cfg c) := by
  simp only [← callReturns_iff]
  refine ⟨fun c => ?_, fun resp => ?_, fun resp positions => ?_⟩
  · have h := processOneStreamField_processes cfg hticks c (Quiet.pure ())
    simpa using survives_iff_of_processes h
  · exact survives_iff_of_processes (handleGroupReply_processes cfg hticks hxack resp)
  · exact survives_iff_of_processes (handleXreadReply_processes cfg hticks resp positions)

end

/-! ## A price that is no numeral -/

/-- A trade with a price as given. -/
def pricePayload (price : String) : String :=
  "\x7b\"time_utc\": \"2024-01-01T00:00:00Z\", \"price\": " ++ price ++ "\x7d"

/-- A field of a message on the stream of trades. -/
def tradeCall (payload : String) : StreamCall :=
  ⟨"md:stream:trades:0", "1-0", "AAPL", payload⟩

/-- Payloads that make parsing raise: a text and a list that are no prices, and a time whose UTC
is before year 1. -/
def harmfulPayloads : List String :=
  [pricePayload "\"abc\"", pricePayload "[1]",
    "\x7b\"time_utc\": \"0001-01-01T00:00:00+01:00\"\x7d"]

/-- A reply whose first payload is harmful, and whose second is not. -/
def badThenGood : Reply String String :=
  [("md:stream:trades:0", [⟨"1-0", some [("AAPL", pricePayload "\"abc\"")]⟩, tradeMessage "2-0"])]

theorem quietEnv_ticksCaught : TicksCaught quietEnv := by
  intro log e he
  cases he

theorem trades_survive :
    Survives (handleGroupReply quietEnv groupConfig twoTrades) (callsOfReply twoTrades) := by
  have hreturns : ∀ c ∈ callsOfReply twoTrades, CallReturns groupConfig c := by decide +kernel
  have hiff := reply_survives_iff quietEnv groupConfig quietEnv_ticksCaught fun _ => rfl
  exact (hiff.2.1 twoTrades).2 fun c hc => (callReturns_iff c).1 (hreturns c hc)

/-- A price that is no numeral ends both loops before the next entry; other payloads raise too, one
of them by its nesting when there is room for three lists. -/
theorem bad_price_ends_loop :
    (∀ payload ∈ harmfulPayloads, ¬ CallReturns groupConfig (tradeCall payload)) ∧
    ¬ CallReturns { groupConfig with room := 3 } (tradeCall "[[[[") ∧
    (¬ ∀ c, Survives (processOneStreamField quietEnv groupConfig c (return ())) [c]) ∧
    returnedCalls (handleGroupReply quietEnv groupConfig badThenGood []).2 = [] ∧
    returnedCalls (handleXreadReply quietEnv groupConfig badThenGood [] []).2 = [] := by
  have hharmful : ∀ payload ∈ harmfulPayloads,
      ¬ CallReturns groupConfig (tradeCall payload) := by decide +kernel
  refine ⟨hharmful, by decide +kernel, fun hall => ?_, by decide +kernel, by decide +kernel⟩
  have hprocess := processOneStreamField_processes groupConfig quietEnv_ticksCaught
    (tradeCall (pricePayload "\"abc\"")) (Quiet.pure ())
  have hreturns := (survives_iff_of_processes hprocess).1 (hall _)
  exact hharmful _ List.mem_cons_self (hreturns _ List.mem_cons_self)

end MarketData
end StrategyWorker
