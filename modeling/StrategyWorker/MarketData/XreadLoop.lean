import Mathlib.Data.List.Nodup
import Mathlib.Data.Prod.Lex
import Mathlib.Order.Nat
import StrategyWorker.Library.StreamLog
import StrategyWorker.Library.TransitionSystem

/-!
# The plain XREAD loop

{lit}`run_market_data_redis_loop` without a consumer group keeps one position
per stream, {lit}`$` or the id of the last entry it read there, and repeats
{lit}`client.xread(positions, …)`.  The server turns {lit}`$` into the last id
that the stream has when the call arrives.

The system below interleaves producers that append entries, the server that
answers, and the loop that reads, handles messages, waits out connection
errors and stops.  A reply is either computed when the call arrives, from all
streams that have something to read, or later, while the call is blocked.
-/

namespace StrategyWorker
namespace MarketData

open Library

/-! ## Positions, replies and calls -/

/-- Redis ids, milliseconds and sequence number, in lexicographic order. -/
abbrev RedisId := ℕ ×ₗ ℕ

/-- What {lit}`positions` holds for a stream. -/
inductive Position (ι : Type*) where
  /-- {lit}`$`: entries added after the call arrives. -/
  | dollar
  /-- Entries with an id after this one. -/
  | id (i : ι)
  deriving DecidableEq, Repr

/-- The dict that the client library makes of the fields of an entry; {lit}`none` when
{lit}`isinstance(fields, dict)` fails. -/
abbrev Fields := Option (List (String × String))

/-- A call of {lit}`_process_one_stream_field`. -/
structure FieldCall (σ ι : Type*) where
  streamName : σ
  msgId : ι
  fieldSym : String
  payload : String
  deriving DecidableEq, Repr

/-- The messages of one reply, by stream. -/
abbrev Reply (σ ι : Type*) := List (σ × List (Entry ι Fields))

/-- The calls that one message leads to: one for each of its fields, in order. -/
def callsOf {σ ι : Type*} (s : σ) (m : Entry ι Fields) : List (FieldCall σ ι) :=
  match m.fields with
  | none => []
  | some fields => fields.map fun f => ⟨s, m.id, f.1, f.2⟩

theorem mem_callsOf {σ ι : Type*} {s : σ} {m : Entry ι Fields} {c : FieldCall σ ι} (h : c ∈ callsOf s m) :
    c.streamName = s ∧ c.msgId = m.id := by
  unfold callsOf at h
  split at h
  · cases h
  · rcases List.mem_map.1 h with ⟨f, -, rfl⟩
    exact ⟨rfl, rfl⟩

/-- The messages that a reply holds for a stream. -/
def Reply.messages {σ ι : Type*} [DecidableEq σ] (r : Reply σ ι) (s : σ) :
    List (Entry ι Fields) :=
  (r.filter fun p => p.1 = s).flatMap Prod.snd

section

variable {σ ι : Type*} [DecidableEq σ]

/-! ## Messages of a reply -/

@[simp]
theorem messages_nil (s : σ) : Reply.messages ([] : Reply σ ι) s = [] :=
  rfl

theorem messages_cons (p : σ × List (Entry ι Fields)) (r : Reply σ ι) (s : σ) :
    Reply.messages (p :: r) s = (if p.1 = s then p.2 else []) ++ r.messages s := by
  by_cases h : p.1 = s <;> simp [Reply.messages, h]

theorem messages_eq_nil_of_notMem {r : Reply σ ι} {s : σ} (h : s ∉ r.map Prod.fst) :
    r.messages s = [] := by
  have hfilter : (r.filter fun p => p.1 = s) = [] := by
    refine List.filter_eq_nil_iff.2 fun p hp => ?_
    have : p.1 ≠ s := fun heq => h (heq ▸ List.mem_map_of_mem hp)
    simpa using this
  simp [Reply.messages, hfilter]

/-- A reply assembled from distinct streams holds for each what was read from it. -/
theorem messages_map_pair (f : σ → List (Entry ι Fields)) {ready : List σ} (hnodup : ready.Nodup)
    (s : σ) :
    Reply.messages (ready.map fun a => (a, f a)) s = if s ∈ ready then f s else [] := by
  induction ready with
  | nil => simp
  | cons a ready ih =>
      rcases List.nodup_cons.1 hnodup with ⟨ha, hnodup⟩
      rw [List.map_cons, messages_cons, ih hnodup]
      by_cases has : a = s
      · subst has
        simp [ha]
      · have hsa : s ≠ a := fun h => has h.symm
        simp [has, hsa]

end

section

variable {σ ι : Type*} [DecidableEq σ] [LinearOrder ι] [OrderBot ι]

/-! ## The loop and the server -/

/-- Where the loop stands. -/
inductive XreadMode (σ ι : Type*) where
  /-- At {lit}`while not should_stop.is_set()`. -/
  | top
  /-- The call waits on the server, which resolved every position to an id. -/
  | blocked (resolved : σ → ι)
  /-- The server has answered and the reply is on its way. -/
  | answered (reply : Reply σ ι)
  /-- In {lit}`should_stop.wait(...)` after a connection error. -/
  | backoff
  /-- Inside {lit}`for stream_name, messages in resp`, with {lit}`last_id_for_stream`. -/
  | handling (last : Position ι) (reply : Reply σ ι)
  /-- The loop has returned. -/
  | finished
  /-- An exception has left the loop. -/
  | raised

/-- The arguments of the loop that matter for delivery. -/
structure XreadConfig (σ ι : Type*) where
  /-- The keys of {lit}`positions`. -/
  streamNames : List σ
  nodup : streamNames.Nodup
  startId : Position ι
  count : Nat
  count_pos : 0 < count

/-- The streams on the server, the loop, and the calls it has made. -/
structure XreadState (σ ι : Type*) [LinearOrder ι] [OrderBot ι] where
  log : σ → StreamLog ι Fields
  positions : σ → Position ι
  mode : XreadMode σ ι
  shouldStop : Bool
  calls : List (FieldCall σ ι)
  /-- The last ids at the time of the first XREAD, once it has been sent. -/
  firstRead : Option (σ → ι)

/-- One step of a producer, of the server or of the loop. -/
inductive XreadLabel (σ ι : Type*) where
  /-- A producer appends an entry. -/
  | append (s : σ) (e : Entry ι Fields)
  /-- The loop tests {lit}`should_stop` and sends XREAD. -/
  | read
  /-- The server serves the blocked call from the streams {lit}`ready`. -/
  | serve (ready : List σ)
  /-- The blocked call ends with an empty result. -/
  | timeout
  /-- The reply reaches the loop. -/
  | deliver
  /-- The call raises {lit}`ConnectionError`, {lit}`TimeoutError` or {lit}`OSError`. -/
  | connectionError
  /-- The backoff wait ends: leave when a stop is requested, else reopen the client. -/
  | reconnect
  /-- The loop handles the next message, or moves on to the next stream of the reply. -/
  | handle
  /-- The processing of the {lit}`k`-th field of the next message raises. -/
  | handleRaises (k : Nat)
  /-- {lit}`should_stop.set()`. -/
  | requestStop

/-- The id that the server reads a position as. -/
def Position.resolve (log : StreamLog ι Fields) : Position ι → ι
  | .dollar => log.lastId
  | .id i => i

/-- The first {lit}`count` entries of a stream after the resolved id. -/
def readStream (cfg : XreadConfig σ ι) (log : σ → StreamLog ι Fields) (resolved : σ → ι) (s : σ) :
    σ × List (Entry ι Fields) :=
  (s, ((log s).after (resolved s)).take cfg.count)

/-- The subscribed streams with an entry after the resolved id. -/
def readable (cfg : XreadConfig σ ι) (log : σ → StreamLog ι Fields) (resolved : σ → ι) : List σ :=
  cfg.streamNames.filter fun s => !((log s).after (resolved s)).isEmpty

/-- Enter the next stream of a reply, {lit}`last_id_for_stream = positions.get(stream_name)`. -/
def enterReply (positions : σ → Position ι) : Reply σ ι → XreadMode σ ι
  | [] => .top
  | (s, ms) :: rest => .handling (positions s) ((s, ms) :: rest)

/-- The ids that the server reads the positions as when a call arrives. -/
def resolvePositions (st : XreadState σ ι) (s : σ) : ι :=
  (st.positions s).resolve (st.log s)

/-- The loop sends XREAD: the server answers at once when it has something to read. -/
def sendXread (cfg : XreadConfig σ ι) (st : XreadState σ ι) : XreadState σ ι :=
  let resolved := resolvePositions st
  let ready := readable cfg st.log resolved
  { st with
    firstRead := some (st.firstRead.getD fun s => (st.log s).lastId)
    mode :=
      if ready = [] then .blocked resolved
      else .answered (ready.map (readStream cfg st.log resolved)) }

/-- The loop body on the reply it is handling. -/
def handleNext (st : XreadState σ ι) : Option (XreadState σ ι) :=
  match st.mode with
  | .handling _ ((s, m :: ms) :: rest) =>
      some
        { st with
          calls := st.calls ++ callsOf s m
          mode := .handling (.id m.id) ((s, ms) :: rest) }
  | .handling last ((s, []) :: rest) =>
      let positions := Function.update st.positions s last
      some { st with positions := positions, mode := enterReply positions rest }
  | _ => none

/-- The transition function of the loop together with producers and server. -/
def xreadStep (cfg : XreadConfig σ ι) (st : XreadState σ ι) :
    XreadLabel σ ι → Option (XreadState σ ι)
  | .append s e =>
      ((st.log s).append? e).map fun log => { st with log := Function.update st.log s log }
  | .read =>
      match st.mode with
      | .top => some (if st.shouldStop then { st with mode := .finished } else sendXread cfg st)
      | _ => none
  | .serve ready =>
      match st.mode with
      | .blocked resolved =>
          if ready ≠ [] ∧ ready.Nodup ∧ ∀ s ∈ ready, s ∈ readable cfg st.log resolved then
            some { st with mode := .answered (ready.map (readStream cfg st.log resolved)) }
          else
            none
      | _ => none
  | .timeout =>
      match st.mode with
      | .blocked resolved =>
          if readable cfg st.log resolved = [] then some { st with mode := .top } else none
      | _ => none
  | .deliver =>
      match st.mode with
      | .answered reply => some { st with mode := enterReply st.positions reply }
      | _ => none
  | .connectionError =>
      match st.mode with
      | .blocked _ | .answered _ => some { st with mode := .backoff }
      | _ => none
  | .reconnect =>
      match st.mode with
      | .backoff => some { st with mode := if st.shouldStop then .finished else .top }
      | _ => none
  | .handle => handleNext st
  | .handleRaises k =>
      match st.mode with
      | .handling _ ((s, m :: _) :: _) =>
          some { st with calls := st.calls ++ (callsOf s m).take (k + 1), mode := .raised }
      | _ => none
  | .requestStop => some { st with shouldStop := true }

/-- The loop before its first call, on the logs it finds. -/
def xreadInit (cfg : XreadConfig σ ι) (log : σ → StreamLog ι Fields) : XreadState σ ι where
  log := log
  positions := fun _ => cfg.startId
  mode := .top
  shouldStop := false
  calls := []
  firstRead := none

/-- The XREAD loop on given logs, with its environment. -/
def xreadLoop (cfg : XreadConfig σ ι) (log : σ → StreamLog ι Fields) :
    TransitionSystem (XreadState σ ι) (XreadLabel σ ι) where
  init := xreadInit cfg log
  step := xreadStep cfg

/-! ## What one stream sees -/

/-- Calls made for entries of one stream. -/
def callsFor (st : XreadState σ ι) (s : σ) : List (FieldCall σ ι) :=
  st.calls.filter fun c => c.streamName = s

/-- The messages of a stream in the reply on its way or being handled. -/
def outstanding (st : XreadState σ ι) (s : σ) : List (Entry ι Fields) :=
  match st.mode with
  | .answered reply | .handling _ reply => reply.messages s
  | _ => []

/-- The position of a stream, {lit}`last_id_for_stream` while the stream is being handled. -/
def cursorPosition (st : XreadState σ ι) (s : σ) : Position ι :=
  match st.mode with
  | .handling last ((s', _) :: _) => if s = s' then last else st.positions s
  | _ => st.positions s

/-- The resolved id of a stream while the call is blocked. -/
def resolvedAt (st : XreadState σ ι) (s : σ) : Option ι :=
  match st.mode with
  | .blocked resolved => some (resolved s)
  | _ => none

/-- Entries of a stream that the blocked call could be served with. -/
def servable (st : XreadState σ ι) (s : σ) : List (Entry ι Fields) :=
  match resolvedAt st s with
  | some i => (st.log s).after i
  | none => []

/--
The steps on which the loop keeps its promise.  An entry reaches a stream that
still stands at {lit}`$` only before the first call, while the call is blocked,
or behind entries of that stream already on their way to the loop; an entry of a
stream with an explicit start id comes after that id; neither a reply served from
other streams nor a lost one leaves out entries of a stream that stands at
{lit}`$`; and no processing raises.
-/
def XreadAdmissible (cfg : XreadConfig σ ι) (st : XreadState σ ι) : XreadLabel σ ι → Prop
  | .append s e =>
      s ∈ cfg.streamNames →
        match cursorPosition st s with
        | .id i => i < e.id
        | .dollar =>
            st.firstRead = none ∨ resolvedAt st s ≠ none ∨ outstanding st s ≠ []
  | .serve ready =>
      ∀ s ∈ cfg.streamNames, st.positions s = .dollar → servable st s ≠ [] → s ∈ ready
  | .connectionError =>
      ∀ s ∈ cfg.streamNames, st.positions s = .dollar →
        outstanding st s = [] ∧ servable st s = []
  | .handleRaises _ => False
  | _ => True

instance (cfg : XreadConfig σ ι) (st : XreadState σ ι) :
    (l : XreadLabel σ ι) → Decidable (XreadAdmissible cfg st l)
  | .append s e =>
      match h : cursorPosition st s with
      | .dollar =>
          decidable_of_iff (s ∈ cfg.streamNames →
            st.firstRead = none ∨ resolvedAt st s ≠ none ∨ outstanding st s ≠ [])
            (by simp [XreadAdmissible, h])
      | .id i =>
          decidable_of_iff (s ∈ cfg.streamNames → i < e.id) (by simp [XreadAdmissible, h])
  | .serve ready =>
      inferInstanceAs (Decidable (∀ s ∈ cfg.streamNames, st.positions s = .dollar →
        servable st s ≠ [] → s ∈ ready))
  | .connectionError =>
      inferInstanceAs (Decidable (∀ s ∈ cfg.streamNames, st.positions s = .dollar →
        outstanding st s = [] ∧ servable st s = []))
  | .handleRaises _ => instDecidableFalse
  | .read | .timeout | .deliver | .reconnect | .handle | .requestStop => instDecidableTrue

/-- The entries that the stream has received since the first XREAD. -/
def since (st : XreadState σ ι) (s : σ) : List (Entry ι Fields) :=
  match st.firstRead with
  | none => []
  | some first => (st.log s).after (first s)

/-- The calls made for entries that the stream has received since the first XREAD. -/
def callsSince (st : XreadState σ ι) (s : σ) : List (FieldCall σ ι) :=
  match st.firstRead with
  | none => []
  | some first => (callsFor st s).filter fun c => first s < c.msgId

omit [DecidableEq σ] [LinearOrder ι] [OrderBot ι] in
/-- A reply reaches the loop. -/
def isReply : XreadLabel σ ι → Bool
  | .deliver => true
  | _ => false

omit [DecidableEq σ] [LinearOrder ι] [OrderBot ι] in
/-- Replies that reach the loop in a schedule. -/
def repliesIn (ls : List (XreadLabel σ ι)) : Nat :=
  TransitionSystem.count isReply ls

end

end MarketData
end StrategyWorker
