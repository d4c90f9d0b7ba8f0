import StrategyWorker.MarketData.FeedLoop

/-!
# Acknowledgement after processing

{lit}`_run_xreadgroup_loop` acknowledges a message from the callback that closes
the processing of its fields.  With {lit}`pending` starting as the names of the
fields, the callback of the last field finds it empty, so that one XACK is sent
when everything that {lit}`_process_one_stream_field` does for the message is
done, except for the return of the call it is sent from.

Main results:

- Theorem {lit}`acknowledged_after_processing`: for every reply each message is
  acknowledged once, after its fields, when parsing and XACK return and
  {lit}`on_tick` raises nothing but exceptions that are caught.
- Theorem {lit}`not_acknowledged_after_calls`: the last call has not returned at
  the XACK, and an exception that leaves the loop leaves later messages
  unacknowledged.
-/

namespace StrategyWorker
namespace MarketData

open Library
open Library.Logged

/-- A call of {lit}`_process_one_stream_field` returns. -/
def FeedEvent.isReturn : FeedEvent → Bool
  | .left _ => true
  | _ => false

/-- An XACK is sent. -/
def FeedEvent.isAck : FeedEvent → Bool
  | .xack _ _ _ => true
  | _ => false

/-- What a message leads to when it is acknowledged after its processing: its fields are
processed in order, one XACK follows, and after that nothing but returns. -/
def AckedAfter (cfg : FeedConfig) (m : StreamMessage) (segment : List FeedEvent) : Prop :=
  ∃ bodies before after,
    segment = before ++ .xack m.1 m.2.id none :: after ∧
    List.Forall₂ (FieldBody cfg) (callsOf m.1 m.2) bodies ∧
    before.filter (fun ev => !ev.isReturn) = bodies.flatten ∧
    (∀ ev ∈ after, ev.isReturn) ∧
    segment.filter FeedEvent.isAck = [.xack m.1 m.2.id none]

section

variable {env : FeedEnv} {cfg : FeedConfig}

/-! ## The processing of a field contains no return and no XACK -/

/-- What happens in the body of a field: neither returns nor XACKs. -/
theorem FieldBody.inner {c : StreamCall} {body : List FeedEvent} (h : FieldBody cfg c body) :
    ∀ ev ∈ body, ev.isReturn = false ∧ ev.isAck = false := by
  unfold FieldBody at h
  split at h
  · exact h.elim
  · rcases h with ⟨reason, rfl⟩
    simp [FeedEvent.isReturn, FeedEvent.isAck]
  · split at h
    · rcases h with ⟨raised, rfl⟩
      cases raised <;> simp [FeedEvent.isReturn, FeedEvent.isAck]
    · simp [h, FeedEvent.isReturn, FeedEvent.isAck]

theorem bodies_inner {calls : List StreamCall} {bodies : List (List FeedEvent)}
    (h : List.Forall₂ (FieldBody cfg) calls bodies) :
    ∀ ev ∈ bodies.flatten, ev.isReturn = false ∧ ev.isAck = false := by
  induction h with
  | nil => simp
  | cons hbody _ ih =>
      intro ev hev
      rcases List.mem_append.1 hev with hev | hev
      · exact hbody.inner ev hev
      · exact ih ev hev

/-- The parts of a segment make up an acknowledgement after processing. -/
theorem AckedAfter.intro (m : StreamMessage) {bodies : List (List FeedEvent)}
    (before after : List FeedEvent)
    (hbodies : List.Forall₂ (FieldBody cfg) (callsOf m.1 m.2) bodies)
    (hbefore : before.filter (fun ev => !ev.isReturn) = bodies.flatten)
    (hafter : ∀ ev ∈ after, ev.isReturn) :
    AckedAfter cfg m (before ++ .xack m.1 m.2.id none :: after) := by
  refine ⟨bodies, before, after, rfl, hbodies, hbefore, hafter, ?_⟩
  have hnone : before.filter FeedEvent.isAck = [] := by
    apply List.filter_eq_nil_iff.2
    intro ev hev
    cases hret : ev.isReturn with
    | true => cases ev <;> simp_all [FeedEvent.isReturn, FeedEvent.isAck]
    | false =>
        have hmem : ev ∈ bodies.flatten := by
          rw [← hbefore]
          exact List.mem_filter.2 ⟨hev, by simp [hret]⟩
        simp [(bodies_inner hbodies ev hmem).2]
  have hrest : after.filter FeedEvent.isAck = [] := by
    apply List.filter_eq_nil_iff.2
    intro ev hev
    have hret := hafter ev hev
    cases ev <;> simp_all [FeedEvent.isReturn, FeedEvent.isAck]
  rw [List.filter_append, hnone, List.filter_cons_of_pos rfl, hrest]
  rfl

/-! ## One message -/

theorem xack_yields (hxack : ∀ log, env.xack log = none) (stream msgId : String) :
    Yields (xack env stream msgId) fun r new => r = .ok () ∧ new = [.xack stream msgId none] := by
  refine (Yields.attempt env.xack (.xack stream msgId)).mono fun r new h => ?_
  rcases h with ⟨log, rfl, rfl⟩
  rw [hxack log]
  exact ⟨rfl, rfl⟩

/-- The callback of the field in front of {lit}`pending` acknowledges when it is the last. -/
theorem ackOne_yields (hxack : ∀ log, env.xack log = none) (stream msgId fieldSym : String)
    (rest : List String) :
    Yields (ackOne env stream msgId fieldSym (fieldSym :: rest)) fun r new =>
      ∃ b, r = .ok b ∧ b = rest ∧ new = if rest = [] then [.xack stream msgId none] else [] := by
  unfold ackOne
  simp only [List.mem_cons, true_or, if_true, List.erase_cons_head]
  by_cases hrest : rest = []
  · simp only [hrest, if_true]
    refine (xack_yields hxack stream msgId).bind (fun _ new h => ?_) (fun _ new h => by cases h.1)
    exact (Yields.pure []).mono fun r new' h' => ⟨[], h'.1, rfl, by rw [h.2, h'.2]; rfl⟩
  · simp only [hrest, if_false]
    exact (Yields.pure rest).mono fun r new h => ⟨rest, h.1, rfl, h.2⟩

/-- The call for a field of a message. -/
def callOf (stream msgId : String) (f : String × String) : StreamCall :=
  ⟨stream, msgId, f.1, f.2⟩

/-- The loop over the fields: the XACK is sent from the last call. -/
theorem processFields_yields (hticks : TicksCaught env) (hxack : ∀ log, env.xack log = none)
    (stream msgId : String) (f : String × String) (fields : List (String × String))
    (hparse : ∀ g ∈ f :: fields, CallReturns cfg (callOf stream msgId g)) :
    Yields (processFields env cfg stream msgId ((f :: fields).map Prod.fst) (f :: fields))
      fun r new => r = .ok [] ∧ ∃ bodies before after,
        new = before ++ .xack stream msgId none :: after ∧
        List.Forall₂ (FieldBody cfg) ((f :: fields).map (callOf stream msgId)) bodies ∧
        before.filter (fun ev => !ev.isReturn) = bodies.flatten ∧
        ∀ ev ∈ after, ev.isReturn := by
  -- the callback of the first field, with the names of all fields pending
  have hfirst := processOneStreamField_yields (hparse f List.mem_cons_self) hticks
    (ackOne_yields hxack stream msgId f.1 (fields.map Prod.fst))
  induction fields generalizing f with
  | nil =>
      refine hfirst.bind (fun b new h => ?_) (fun e new h => ?_)
      · rcases h with ⟨_, body, _, hb, hbody, ⟨rfl, rfl⟩, rfl⟩
        obtain rfl := Except.ok.inj hb
        refine (Yields.pure []).mono fun r new' h' => 
          ⟨h'.1, [body], body, [.left (callOf stream msgId f)], ?_, ?_, ?_, ?_⟩
        · rw [h'.2]
          simp
        · exact .cons hbody .nil
        · have hinner := fun ev hev => (hbody.inner ev hev).1
          rw [List.filter_eq_self.2 fun ev hev => by simp [hinner ev hev]]
          simp
        · intro ev hev
          rw [List.mem_singleton.1 hev]
          rfl
      · rcases h with ⟨_, _, _, hb, -⟩
        cases hb
  | cons g fields ih =>
      have hparse' : ∀ h ∈ g :: fields, CallReturns cfg (callOf stream msgId h) :=
        fun h hh => hparse h (List.mem_cons_of_mem f hh)
      have hnext := ih g hparse' (processOneStreamField_yields (hparse' g List.mem_cons_self)
        hticks (ackOne_yields hxack stream msgId g.1 (fields.map Prod.fst)))
      refine hfirst.bind (fun b new h => ?_) (fun e new h => ?_)
      · rcases h with ⟨_, body, _, hb, hbody, ⟨rfl, rfl⟩, rfl⟩
        obtain rfl := Except.ok.inj hb
        refine hnext.mono fun r new' h' => ?_
        rcases h' with ⟨hr, bodies, before, after, rfl, hbodies, hbefore, hafter⟩
        refine ⟨hr, body :: bodies, body ++ .left (callOf stream msgId f) :: before, after, ?_, .cons hbody hbodies, ?_,
          hafter⟩
        · simp
        · have hinner := fun ev hev => (hbody.inner ev hev).1
          have hself : body.filter (fun ev => !ev.isReturn) = body :=
            List.filter_eq_self.2 fun ev hev => by simp [hinner ev hev]
          rw [List.filter_append, hself, List.filter_cons_of_neg (by simp [FeedEvent.isReturn]),
            hbefore]
          rfl
      · rcases h with ⟨_, _, _, hb, -⟩
        cases hb

/-- One message: its fields are processed, and it is acknowledged once after that. -/
theorem handleGroupMessage_yields (hticks : TicksCaught env) (hxack : ∀ log, env.xack log = none)
    (m : StreamMessage) (hparse : ∀ c ∈ callsOf m.1 m.2, CallReturns cfg c) :
    Yields (handleGroupMessage env cfg m) fun r new => r = .ok () ∧ AckedAfter cfg m new := by
  rcases m with ⟨stream, ⟨id, fields⟩⟩
  have hempty (hcalls : callsOf stream (Entry.mk id fields) = []) :
      Yields (xack env stream id) fun r new =>
        r = .ok () ∧ AckedAfter cfg (stream, ⟨id, fields⟩) new := by
    refine (xack_yields hxack stream id).mono fun r new h => ⟨h.1, ?_⟩
    have hnone : List.Forall₂ (FieldBody cfg) (callsOf stream (Entry.mk id fields)) [] := by
      rw [hcalls]
      exact .nil
    rw [h.2]
    exact AckedAfter.intro (stream, ⟨id, fields⟩) [] [] hnone rfl (by simp)
  unfold handleGroupMessage
  match fields with
  | none => exact hempty rfl
  | some [] => exact hempty rfl
  | some (f :: fields) =>
      refine (processFields_yields hticks hxack stream id f fields fun g hg => ?_).bind
        (fun b new h => ?_) (fun e new h => by cases h.1)
      · exact hparse _ (List.mem_map_of_mem hg)
      · rcases h with ⟨hb, bodies, before, after, rfl, hbodies, hbefore, hafter⟩
        obtain rfl := Except.ok.inj hb
        refine (Yields.pure ()).mono fun r new' h' => ⟨h'.1, ?_⟩
        rw [h'.2, List.append_nil]
        exact AckedAfter.intro _ before after hbodies hbefore hafter

/-! ## A reply -/

/-- For every reply each message is acknowledged exactly once, and only when everything that is done
for its fields is done; only returns follow. -/
theorem acknowledged_after_processing (env : FeedEnv) (cfg : FeedConfig)
    (resp : Reply String String)
    (hparse : ∀ m ∈ messagesOf resp, ∀ c ∈ callsOf m.1 m.2, CallReturns cfg c)
    (hticks : TicksCaught env) (hxack : ∀ log, env.xack log = none) :
    Yields (handleGroupReply env cfg resp) fun r new => r = .ok () ∧ ∃ segments,
      List.Forall₂ (AckedAfter cfg) (messagesOf resp) segments ∧ new = segments.flatten := by
  apply Yields.forEach_forEach
  intro m hm
  exact handleGroupMessage_yields hticks hxack m (hparse m hm)

end

/-! ## A trade and two environments -/

/-- A trade of a symbol as the market-data service publishes it. -/
def tradePayload : String :=
  "\x7b\"symbol\": \"AAPL\", \"time_utc\": \"2024-01-01T00:00:00Z\", \"price\": 1.5\x7d"

/-- A message with one trade. -/
def tradeMessage (id : String) : Entry String Fields :=
  ⟨id, some [("AAPL", tradePayload)]⟩

/-- A reply with two trades. -/
def twoTrades : Reply String String :=
  [("md:stream:trades:0", [tradeMessage "1-0", tradeMessage "2-0"])]

/-- A consumer group on one stream of trades, for all symbols. -/
def groupConfig : FeedConfig where
  keys := {}
  barTimeframe := "1m"
  room := 900
  streamNames := ["md:stream:trades:0"]
  streamStartId := "$"
  strategySymbol := ""
  useConsumerGroup := true
  consumerGroupName := "swr:job"
  consumerName := "worker"
  upper := fun s => String.ofList (s.toList.map Char.toUpper)

/-- An environment whose calls return, with replies that stay empty. -/
def quietEnv : FeedEnv where
  read := fun _ => .ok []
  xack := fun _ => none
  xgroupCreate := fun _ => none
  close := fun _ => none
  onTick := fun _ => none
  shouldStop := fun _ => false

theorem two_trades_acknowledged :
    Yields (handleGroupReply { quietEnv with onTick := fun _ => some .exception } groupConfig
      twoTrades) fun r new => r = .ok () ∧ ∃ segments,
        List.Forall₂ (AckedAfter groupConfig) (messagesOf twoTrades) segments ∧
          new = segments.flatten :=
  acknowledged_after_processing _ groupConfig twoTrades (by decide +kernel)
    (by intro log e he; cases he; rfl) (fun _ => rfl)

/-- What counts for the order of XACKs and returns. -/
inductive FeedMark where
  | acked (stream msgId : String)
  | returned (c : StreamCall)
  deriving DecidableEq

def FeedEvent.mark : FeedEvent → Option FeedMark
  | .xack stream msgId _ => some (.acked stream msgId)
  | .left c => some (.returned c)
  | _ => none

/-- XACK calls for a message. -/
def ackCount (events : List FeedEvent) (m : StreamMessage) : Nat :=
  (events.filterMap FeedEvent.mark).count (.acked m.1 m.2.id)

/-- Every call for a message has returned before its first XACK. -/
def ReturnsBeforeAck (events : List FeedEvent) (m : StreamMessage) : Prop :=
  ∀ c ∈ callsOf m.1 m.2, (events.filterMap FeedEvent.mark).idxOf (.returned c) <
    (events.filterMap FeedEvent.mark).idxOf (.acked m.1 m.2.id)

instance (events : List FeedEvent) (m : StreamMessage) : Decidable (ReturnsBeforeAck events m) :=
  inferInstanceAs (Decidable (∀ c ∈ callsOf m.1 m.2, _))

/-- Two trades that parse.  The XACK of each is sent before its call has returned; when the strategy
raises {lit}`SystemExit` for the first, or the XACK of the first raises, the second is never
acknowledged. -/
theorem not_acknowledged_after_calls :
    (∀ m ∈ messagesOf twoTrades, ∀ c ∈ callsOf m.1 m.2, CallReturns groupConfig c) ∧
    (∀ m ∈ messagesOf twoTrades,
      ¬ ReturnsBeforeAck (handleGroupReply quietEnv groupConfig twoTrades []).2 m) ∧
    ackCount (handleGroupReply { quietEnv with onTick := fun _ => some .baseException } groupConfig
      twoTrades []).2 ("md:stream:trades:0", tradeMessage "2-0") = 0 ∧
    ackCount (handleGroupReply { quietEnv with xack := fun _ => some .connection } groupConfig
      twoTrades []).2 ("md:stream:trades:0", tradeMessage "2-0") = 0 := by
  decide +kernel

end MarketData
end StrategyWorker
