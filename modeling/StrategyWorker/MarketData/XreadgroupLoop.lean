import Mathlib.Data.List.Nodup
import StrategyWorker.MarketData.XreadLoop

/-!
# The XREADGROUP loop

With a consumer group the server keeps, per stream and group, the id of the
last entry it delivered and the entries that were delivered and not yet
acknowledged.  {lit}`_run_xreadgroup_loop` reads with {lit}`>` only: entries
above the last delivered id, which become pending when the server answers,
whether or not the answer arrives.  Each message is acknowledged after its last
field; an XACK that raises leaves the loop.

The system interleaves producers, the server, one consumer loop and its
restarts under the same group, each with a new consumer name.  The state also
records which delivered entries can no longer reach the processing function.
-/

namespace StrategyWorker
namespace MarketData

open Library

section

variable {σ ι : Type*} [DecidableEq σ] [LinearOrder ι] [OrderBot ι]

/-! ## Acknowledgement of one message -/

/-- What the loop does for a message: process a field, or send XACK for the message. -/
inductive MessageAction (σ ι : Type*) where
  | call (c : FieldCall σ ι)
  | ack
  deriving DecidableEq, Repr

namespace MessageAction

/-- The action hands a field to {lit}`_process_one_stream_field`. -/
def isCall : MessageAction σ ι → Bool
  | .call _ => true
  | .ack => false

end MessageAction

/--
The loop over the fields of a message.  The callback of a field removes it from
{lit}`pending` and acknowledges once nothing is left; what is left after the loop is
acknowledged anyway.
-/
def fieldActions (s : σ) (msgId : ι) :
    List String → List (String × String) → List (MessageAction σ ι)
  | pending, [] => if pending = [] then [] else [.ack]
  | pending, (fieldSym, payload) :: fields =>
      .call ⟨s, msgId, fieldSym, payload⟩ ::
        if fieldSym ∈ pending then
          (if pending.erase fieldSym = [] then [.ack] else []) ++
            fieldActions s msgId (pending.erase fieldSym) fields
        else
          fieldActions s msgId pending fields

/-- The actions for one message, {lit}`pending` starting as the names of its fields. -/
def messageActions (s : σ) (m : Entry ι Fields) : List (MessageAction σ ι) :=
  match m.fields with
  | none => [.ack]
  | some [] => [.ack]
  | some fields => fieldActions s m.id (fields.map Prod.fst) fields

/-! ## The loop and the server -/

/-- What the server keeps for the group on one stream. -/
structure Group (ι : Type*) where
  /-- The last id of the stream when the group was created. -/
  created : ι
  lastDelivered : ι
  /-- Entries delivered and not acknowledged. -/
  pending : List (Entry ι Fields)

/-- Where the loop stands. -/
inductive GroupMode (σ ι : Type*) where
  /-- Inside {lit}`_ensure_consumer_groups`, with the streams still to do. -/
  | ensuring (streams : List σ)
  /-- At {lit}`while not should_stop.is_set()`. -/
  | top
  /-- The call waits on the server. -/
  | blocked
  /-- The server has answered and the reply is on its way. -/
  | answered (reply : Reply σ ι)
  /-- In {lit}`should_stop.wait(...)` after a connection error. -/
  | backoff
  /-- Inside the loops over the reply: the message in hand with its actions, and the rest. -/
  | handling (current : Option (σ × Entry ι Fields × List (MessageAction σ ι)))
      (reply : Reply σ ι)
  /-- The loop has returned. -/
  | finished
  /-- An exception has left the loop. -/
  | raised

/-- The arguments of the loop that matter for delivery. -/
structure GroupConfig (σ : Type*) where
  streamNames : List σ
  nodup : streamNames.Nodup
  count : Nat
  count_pos : 0 < count

/-- The streams and groups on the server, the loop, and the calls made. -/
structure GroupState (σ ι : Type*) [LinearOrder ι] [OrderBot ι] where
  log : σ → StreamLog ι Fields
  group : σ → Option (Group ι)
  mode : GroupMode σ ι
  shouldStop : Bool
  calls : List (FieldCall σ ι)
  /-- Blocked calls whose connection is gone and which the server may still serve. -/
  dangling : Nat
  /-- Delivered entries that were on the way when a reply was lost or a loop was left. -/
  lost : σ → List (Entry ι Fields)

/-- One step of a producer, of the server or of the loop. -/
inductive GroupLabel (σ ι : Type*) where
  /-- A producer appends an entry. -/
  | append (s : σ) (e : Entry ι Fields)
  /-- XGROUP CREATE for the next stream; {lit}`BUSYGROUP` is ignored. -/
  | createGroup
  /-- XGROUP CREATE raises, with or without effect on the server. -/
  | createGroupRaises (applied : Bool)
  /-- The loop tests {lit}`should_stop` and sends XREADGROUP. -/
  | read
  /-- The server serves the blocked call from the streams {lit}`ready`. -/
  | serve (ready : List σ)
  /-- The server serves a call whose connection is gone. -/
  | serveDangling (ready : List σ)
  /-- The blocked call ends with an empty result. -/
  | timeout
  /-- The reply reaches the loop. -/
  | deliver
  /-- The call raises {lit}`ConnectionError`, {lit}`TimeoutError` or {lit}`OSError`. -/
  | connectionError
  /-- The backoff wait ends: leave when a stop is requested, else reopen the client. -/
  | reconnect
  /-- The next step inside the reply. -/
  | handle
  /-- The next action on the message in hand raises; an XACK may have reached the server. -/
  | handleRaises (applied : Bool)
  /-- {lit}`should_stop.set()`. -/
  | requestStop
  /-- The loop is gone, in whatever state, and a new one starts under the same group. -/
  | restart

/-- Entries of a stream that a read with {lit}`>` can deliver. -/
def undelivered (st : GroupState σ ι) (s : σ) : List (Entry ι Fields) :=
  match st.group s with
  | none => []
  | some g => (st.log s).after g.lastDelivered

/-- The subscribed streams with something to deliver. -/
def deliverable (cfg : GroupConfig σ) (st : GroupState σ ι) : List σ :=
  cfg.streamNames.filter fun s => !(undelivered st s).isEmpty

/-- The first {lit}`count` undelivered entries of a stream. -/
def deliveryOf (cfg : GroupConfig σ) (st : GroupState σ ι) (s : σ) : List (Entry ι Fields) :=
  (undelivered st s).take cfg.count

/-- Delivered entries become pending and move the last delivered id. -/
def Group.deliver (g : Group ι) (out : List (Entry ι Fields)) : Group ι :=
  { g with
    lastDelivered := StreamLog.readTo g.lastDelivered out
    pending := g.pending ++ out }

/-- XACK. -/
def Group.ack (g : Group ι) (id : ι) : Group ι :=
  { g with pending := g.pending.filter fun e => e.id ≠ id }

/-- The groups after the server has delivered from the streams {lit}`ready`. -/
def deliverOnServer (cfg : GroupConfig σ) (st : GroupState σ ι) (ready : List σ) (s : σ) :
    Option (Group ι) :=
  if s ∈ ready then (st.group s).map fun g => g.deliver (deliveryOf cfg st s) else st.group s

/-- The server answers the call from the streams {lit}`ready`. -/
def answerFrom (cfg : GroupConfig σ) (st : GroupState σ ι) (ready : List σ) : GroupState σ ι :=
  { st with
    group := deliverOnServer cfg st ready
    mode := .answered (ready.map fun s => (s, deliveryOf cfg st s)) }

/-- The server answers a call that nobody waits for. -/
def answerNobody (cfg : GroupConfig σ) (st : GroupState σ ι) (ready : List σ) : GroupState σ ι :=
  { st with
    group := deliverOnServer cfg st ready
    dangling := st.dangling - 1
    lost := fun s => st.lost s ++ if s ∈ ready then deliveryOf cfg st s else [] }

/-- The loop sends XREADGROUP: the server answers at once when it has something to deliver. -/
def sendXreadgroup (cfg : GroupConfig σ) (st : GroupState σ ι) : GroupState σ ι :=
  if deliverable cfg st = [] then { st with mode := .blocked }
  else answerFrom cfg st (deliverable cfg st)

/-- XGROUP CREATE at {lit}`$`, which leaves an existing group alone. -/
def createGroup (st : GroupState σ ι) (s : σ) : GroupState σ ι :=
  match st.group s with
  | some _ => st
  | none =>
      { st with
        group := Function.update st.group s (some ⟨(st.log s).lastId, (st.log s).lastId, []⟩) }

/-- XACK of a message on the server. -/
def ackOnServer (st : GroupState σ ι) (s : σ) (id : ι) : GroupState σ ι :=
  { st with group := Function.update st.group s ((st.group s).map fun g => g.ack id) }

/-- The effect of an action; an XACK that raises may not have reached the server. -/
def perform (st : GroupState σ ι) (s : σ) (m : Entry ι Fields) (applied : Bool) :
    MessageAction σ ι → GroupState σ ι
  | .call c => { st with calls := st.calls ++ [c] }
  | .ack => if applied then ackOnServer st s m.id else st

/-- Messages of a stream in the reply on its way or in hand, the current one included. -/
def GroupMode.inHand : GroupMode σ ι → σ → List (Entry ι Fields)
  | .answered reply, s => reply.messages s
  | .handling (some (s', m, _)) reply, s => (if s' = s then [m] else []) ++ reply.messages s
  | .handling none reply, s => reply.messages s
  | _, _ => []

/-- Entries delivered to the loop whose processing calls are not all made. -/
def GroupMode.onTheWay : GroupMode σ ι → σ → List (Entry ι Fields)
  | .answered reply, s => reply.messages s
  | .handling (some (s', m, actions)) reply, s =>
      (if s' = s ∧ actions.any MessageAction.isCall then [m] else []) ++ reply.messages s
  | .handling none reply, s => reply.messages s
  | _, _ => []

/-- Leave the call, the reply on its way or the one in hand for another mode. -/
def abandon (st : GroupState σ ι) (mode : GroupMode σ ι) : GroupState σ ι :=
  { st with
    lost := fun s => st.lost s ++ st.mode.onTheWay s
    dangling := match st.mode with | .blocked => st.dangling + 1 | _ => st.dangling
    mode := mode }

/-- The next step inside the reply when nothing raises. -/
def handleNextMessage (st : GroupState σ ι) : Option (GroupState σ ι) :=
  match st.mode with
  | .handling none [] => some { st with mode := .top }
  | .handling none ((_, []) :: rest) => some { st with mode := .handling none rest }
  | .handling none ((s, m :: ms) :: rest) =>
      some { st with mode := .handling (some (s, m, messageActions s m)) ((s, ms) :: rest) }
  | .handling (some (_, _, [])) reply => some { st with mode := .handling none reply }
  | .handling (some (s, m, a :: actions)) reply =>
      some { perform st s m true a with mode := .handling (some (s, m, actions)) reply }
  | _ => none

/-- The transition function of the loop together with producers, server and restarts. -/
def groupStep (cfg : GroupConfig σ) (st : GroupState σ ι) :
    GroupLabel σ ι → Option (GroupState σ ι)
  | .append s e =>
      ((st.log s).append? e).map fun log => { st with log := Function.update st.log s log }
  | .createGroup =>
      match st.mode with
      | .ensuring [] => some { st with mode := .top }
      | .ensuring (s :: rest) => some { createGroup st s with mode := .ensuring rest }
      | _ => none
  | .createGroupRaises applied =>
      match st.mode with
      | .ensuring (s :: _) =>
          some { (if applied then createGroup st s else st) with mode := .raised }
      | _ => none
  | .read =>
      match st.mode with
      | .top => some (if st.shouldStop then { st with mode := .finished } else sendXreadgroup cfg st)
      | _ => none
  | .serve ready =>
      match st.mode with
      | .blocked =>
          if ready ≠ [] ∧ ready.Nodup ∧ ∀ s ∈ ready, s ∈ deliverable cfg st then
            some (answerFrom cfg st ready)
          else
            none
      | _ => none
  | .serveDangling ready =>
      if 0 < st.dangling ∧ ready ≠ [] ∧ ready.Nodup ∧ ∀ s ∈ ready, s ∈ deliverable cfg st then
        some (answerNobody cfg st ready)
      else
        none
  | .timeout =>
      match st.mode with
      | .blocked => if deliverable cfg st = [] then some { st with mode := .top } else none
      | _ => none
  | .deliver =>
      match st.mode with
      | .answered reply => some { st with mode := .handling none reply }
      | _ => none
  | .connectionError =>
      match st.mode with
      | .blocked | .answered _ => some (abandon st .backoff)
      | _ => none
  | .reconnect =>
      match st.mode with
      | .backoff =>
          some { st with mode := if st.shouldStop then .finished else .ensuring cfg.streamNames }
      | _ => none
  | .handle => handleNextMessage st
  | .handleRaises applied =>
      match st.mode with
      | .handling (some (s, m, a :: actions)) reply =>
          some (abandon
            { perform st s m applied a with mode := .handling (some (s, m, actions)) reply } .raised)
      | _ => none
  | .requestStop => some { st with shouldStop := true }
  | .restart => some { abandon st (.ensuring cfg.streamNames) with shouldStop := false }

/-- No group yet and the loop about to create them. -/
def groupInit (cfg : GroupConfig σ) (log : σ → StreamLog ι Fields) : GroupState σ ι where
  log := log
  group := fun _ => none
  mode := .ensuring cfg.streamNames
  shouldStop := false
  calls := []
  dangling := 0
  lost := fun _ => []

/-- The XREADGROUP loop on given logs, with its environment. -/
def xreadgroupLoop (cfg : GroupConfig σ) (log : σ → StreamLog ι Fields) :
    TransitionSystem (GroupState σ ι) (GroupLabel σ ι) where
  init := groupInit cfg log
  step := groupStep cfg

/-! ## What is promised -/

/-- Every field of the entry has been handed to {lit}`_process_one_stream_field`. -/
def Handed (st : GroupState σ ι) (s : σ) (e : Entry ι Fields) : Prop :=
  ∀ c ∈ callsOf s e, c ∈ st.calls

/-- The entry is pending for the group on the server. -/
def IsPending (st : GroupState σ ι) (s : σ) (e : Entry ι Fields) : Prop :=
  ∃ g, st.group s = some g ∧ e ∈ g.pending

/-- The steps that lose nothing: whatever leaves a reply finds all of it processed, and no call
whose connection is gone is served. -/
def LossFree (st : GroupState σ ι) : GroupLabel σ ι → Prop
  | .connectionError | .restart => ∀ s, st.mode.onTheWay s = []
  | .handleRaises _ =>
      match st.mode with
      | .handling (some (s, m, _ :: actions)) reply =>
          ∀ s', (GroupMode.handling (some (s, m, actions)) reply).onTheWay s' = []
      | _ => True
  | .serveDangling _ => False
  | _ => True

/-- Labels that can lose an entry. -/
def GroupLabel.mayLose : GroupLabel σ ι → Bool
  | .connectionError | .restart | .handleRaises _ | .serveDangling _ => true
  | _ => false

theorem lossFree_of_not_mayLose (st : GroupState σ ι)
    {l : GroupLabel σ ι} (h : l.mayLose = false) : LossFree st l := by
  cases l with
  | connectionError | restart | handleRaises | serveDangling => simp [GroupLabel.mayLose] at h
  | _ => trivial

/-- A reply reaches the loop. -/
def isGroupReply : GroupLabel σ ι → Bool
  | .deliver => true
  | _ => false

/-- Replies that reach the loop in a schedule. -/
def groupRepliesIn (ls : List (GroupLabel σ ι)) : Nat :=
  TransitionSystem.count isGroupReply ls

end

end MarketData
end StrategyWorker
