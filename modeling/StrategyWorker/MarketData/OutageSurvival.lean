import StrategyWorker.MarketData.PayloadSurvival

/-!
# Outages that end the loop

The reads of both loops are guarded: a connection error leads to a wait with
capped exponential backoff, a new client, and another round.  The calls that
are made elsewhere are not guarded.  An XACK is sent while a reply is handled,
and the groups are created again inside the handler itself; when one of these
raises, the exception leaves the loop.

Main results:

- Theorem {lit}`survives_outages_iff`: under any pattern of connection errors a
  run keeps retrying until a stop exactly when no XACK and no XGROUP CREATE
  after the start raises, no payload makes parsing raise, and the strategy
  raises nothing beyond {lit}`Exception`.
- Theorem {lit}`xread_survives_outages`: without a group, connection errors alone
  never end the loop.
- Theorem {lit}`outage_ends_group_loop`: two outages that end it with a group.
-/

namespace StrategyWorker
namespace MarketData

open Library
open Library.PyText
open Library.Logged

/-! ## Runs under outages -/

/-- The Redis calls raise connection errors and nothing else; groups may exist already. -/
structure OnlyOutages (env : FeedEnv) : Prop where
  read : ∀ log e, env.read log = .error e → e = .connection
  xack : ∀ log, ∀ e ∈ env.xack log, e = .connection
  xgroupCreate : ∀ log, ∀ e ∈ env.xgroupCreate log, e = .connection ∨ e = .response true
  close : ∀ log, ∀ e ∈ env.close log, e = .connection

/-- The events of the loop itself. -/
def FeedEvent.isLoopLevel : FeedEvent → Bool
  | .isSet _ => true
  | .wait _ _ => true
  | .read _ _ => true
  | _ => false

/-- An event after which an exception leaves the loop. -/
def Escapes (cfg : FeedConfig) : FeedEvent → Prop
  | .xack _ _ (some _) => True
  | .xgroupCreate _ (some e) => e ≠ .response true
  | .entered c => ¬ CallReturns cfg c
  | .onTick _ _ (some e) => e.isException = false
  | _ => False

/-- How often the loop has called XREAD or XREADGROUP. -/
def readCount (events : List FeedEvent) : Nat :=
  events.countP fun ev => match ev with
    | .read _ _ => true
    | _ => false

/-- The last thing that the loop has done is to see {lit}`should_stop` set. -/
def StopSeen (events : List FeedEvent) : Prop :=
  events.getLast? = some (.isSet true) ∨ ∃ seconds, events.getLast? = some (.wait seconds true)

/-- The wait after a failed read is the first thing after it, and as long as the backoff of its
attempt. -/
def BackoffNext (attempt : Nat) (events : List FeedEvent) : Prop :=
  ∃ stopped, events.head? = some (.wait (reconnectBackoffSeconds attempt) stopped)

/-- Every failed read is followed by its backoff; {lit}`attempt` counts the reads that have failed
since the last one that succeeded. -/
def RetriesWithBackoff : (attempt : Nat) → List FeedEvent → Prop
  | _, [] => True
  | _, .read _ none :: events => RetriesWithBackoff 0 events
  | attempt, .read _ (some _) :: events =>
      BackoffNext attempt events ∧ RetriesWithBackoff (attempt + 1) events
  | attempt, _ :: events => RetriesWithBackoff attempt events

/-- The run of {lit}`n` rounds keeps retrying: no exception has left it, it has returned only when
it saw a stop, it has made one read per round while it is inside, and it backs off. -/
structure KeepsRetrying (n : Nat) (r : Except FeedError (Option LoopState))
    (events : List FeedEvent) : Prop where
  noError : ∀ e, r ≠ .error e
  returned : r = .ok none → StopSeen events
  reads : ∀ st, r = .ok (some st) → readCount events = n
  backoff : RetriesWithBackoff 0 events

section

variable {env : FeedEnv} {cfg : FeedConfig} {α β : Type}

/-! ## What leaves the parts of a round -/

/-- A part of a round: it raises exactly when one of its events lets an exception escape, and it
does nothing that only the loop does. -/
def Guarded (cfg : FeedConfig) (r : Except FeedError α) (new : List FeedEvent) : Prop :=
  ((∃ e, r = .error e) ↔ ∃ ev ∈ new, Escapes cfg ev) ∧ ∀ ev ∈ new, ev.isLoopLevel = false

theorem guarded_ok_iff {a : α} {new : List FeedEvent} :
    Guarded cfg (.ok a : Except FeedError α) new ↔
      (∀ ev ∈ new, ¬ Escapes cfg ev) ∧ ∀ ev ∈ new, ev.isLoopLevel = false := by
  simp [Guarded]

theorem guarded_error_iff {e : FeedError} {new : List FeedEvent} :
    Guarded cfg (.error e : Except FeedError α) new ↔
      (∃ ev ∈ new, Escapes cfg ev) ∧ ∀ ev ∈ new, ev.isLoopLevel = false := by
  simp [Guarded]

/-- After events that let nothing escape. -/
theorem Guarded.append {a : α} {r : Except FeedError β} {new new' : List FeedEvent}
    (h : Guarded cfg (.ok a : Except FeedError α) new) (h' : Guarded cfg r new') :
    Guarded cfg r (new ++ new') := by
  rcases guarded_ok_iff.1 h with ⟨hnone, hinner⟩
  refine ⟨h'.1.trans ?_, List.forall_mem_append.2 ⟨hinner, h'.2⟩⟩
  constructor
  · intro hev
    rcases hev with ⟨ev, hev, hescapes⟩
    exact ⟨ev, List.mem_append_right _ hev, hescapes⟩
  · intro hev
    rcases hev with ⟨ev, hev, hescapes⟩
    rcases List.mem_append.1 hev with hmem | hmem
    · exact absurd hescapes (hnone ev hmem)
    · exact ⟨ev, hmem, hescapes⟩

theorem guarded_bind {m : Feed α} {f : α → Feed β} (hm : Yields m (Guarded cfg))
    (hf : ∀ a, Yields (f a) (Guarded cfg)) : Yields (m >>= f) (Guarded cfg) := by
  apply hm.bind
  · intro a new h
    exact (hf a).mono fun r new' h' => h.append h'
  · intro e new h
    exact guarded_error_iff.2 (guarded_error_iff.1 h)

theorem guarded_pure (a : α) : Yields (pure a : Feed α) (Guarded cfg) := by
  refine (Yields.pure a).mono fun r new h => ?_
  rw [h.1, h.2]
  exact guarded_ok_iff.2 (by simp)

theorem guarded_emit {ev : FeedEvent} (hev : ¬ Escapes cfg ev) (hinner : ev.isLoopLevel = false) :
    Yields (emit ev : Feed Unit) (Guarded cfg) := by
  refine (Yields.emit ev).mono fun r new h => ?_
  rw [h.1, h.2]
  exact guarded_ok_iff.2 (by simp [hev, hinner])

theorem guarded_forEach {γ : Type} {body : γ → Feed Unit}
    (h : ∀ x, Yields (body x) (Guarded cfg)) (xs : List γ) :
    Yields (forEach body xs) (Guarded cfg) := by
  induction xs with
  | nil => exact guarded_pure ()
  | cons x xs ih => exact guarded_bind (h x) fun _ => ih

/-- A call whose exceptions are not caught where it is made. -/
theorem guarded_attempt {outcome : List FeedEvent → Option FeedError}
    {event : Option FeedError → FeedEvent} (hinner : ∀ raised, (event raised).isLoopLevel = false)
    (hnone : ¬ Escapes cfg (event none)) (hsome : ∀ e, Escapes cfg (event (some e))) :
    Yields (attempt outcome event) (Guarded cfg) := by
  refine (Yields.attempt outcome event).mono fun r new h => ?_
  rcases h with ⟨log, rfl, rfl⟩
  cases outcome log with
  | none => exact guarded_ok_iff.2 (by simp [hnone, hinner])
  | some e => exact guarded_error_iff.2 (by simp [hsome, hinner])

/-- A call whose exceptions are caught selectively: those that the handler raises again escape. -/
theorem guarded_catchWith {outcome : List FeedEvent → Option FeedError}
    {event : Option FeedError → FeedEvent} {handler : FeedError → Feed Unit}
    (hinner : ∀ raised, (event raised).isLoopLevel = false) (hnone : ¬ Escapes cfg (event none))
    (hhandler : ∀ log, ∀ e ∈ outcome log,
      (¬ Escapes cfg (event (some e)) ∧ Yields (handler e) (Guarded cfg)) ∨
        (Escapes cfg (event (some e)) ∧ handler e = raise e)) :
    Yields (catchWith (attempt outcome event) handler) (Guarded cfg) := by
  apply (Yields.attempt outcome event).catchWith
  · intro a new h
    rcases h with ⟨log, rfl, hok⟩
    cases hout : outcome log with
    | none => exact guarded_ok_iff.2 (by simp [hnone, hinner])
    | some e => simp [hout] at hok
  · intro e new h
    rcases h with ⟨log, rfl, herror⟩
    cases hout : outcome log with
    | none => simp [hout] at herror
    | some e' =>
        obtain rfl : e = e' := by simpa [hout] using herror
        rcases hhandler log e hout with ⟨hquiet, hyields⟩ | ⟨hescapes, hraise⟩
        · have hevent : Guarded cfg (.ok () : Except FeedError Unit) [event (some e)] :=
            guarded_ok_iff.2 (by simp [hquiet, hinner])
          exact hyields.mono fun r new h => hevent.append h
        · rw [hraise]
          refine (Yields.raise e).mono fun r new h => ?_
          rw [h.1, h.2]
          exact guarded_error_iff.2 (by simp [hescapes, hinner])

theorem dispatch_guarded (c : StreamCall) (tick : PyDict) :
    Yields (dispatch env c tick) (Guarded cfg) := by
  apply guarded_catchWith
  · exact fun _ => rfl
  · exact id
  · intro log e _
    cases hexc : e.isException with
    | true => exact .inl ⟨by simp [Escapes, hexc], guarded_emit id rfl⟩
    | false => exact .inr ⟨hexc, by simp⟩

/-- A final clause is entered in any case. -/
theorem guarded_ensuring {m : Feed α} {final : Feed β} (hm : Yields m (Guarded cfg))
    (hfinal : Yields final (Guarded cfg)) : Yields (ensuring m final) (Guarded cfg) := by
  apply hm.ensuring hfinal
  · intro a new r new' h h'
    exact h.append h'
  · intro e new b new' h h'
    rcases guarded_error_iff.1 h with ⟨⟨ev, hev, hescapes⟩, hinner⟩
    exact guarded_error_iff.2 ⟨⟨ev, List.mem_append_left _ hev, hescapes⟩,
      List.forall_mem_append.2 ⟨hinner, h'.2⟩⟩
  · intro e new e' new' h h'
    rcases guarded_error_iff.1 h with ⟨⟨ev, hev, hescapes⟩, hinner⟩
    exact guarded_error_iff.2 ⟨⟨ev, List.mem_append_left _ hev, hescapes⟩,
      List.forall_mem_append.2 ⟨hinner, h'.2⟩⟩

theorem processOneStreamField_guarded (c : StreamCall) {callback : Feed β}
    (hcallback : Yields callback (Guarded cfg)) :
    Yields (processOneStreamField env cfg c callback) (Guarded cfg) := by
  by_cases hreturns : CallReturns cfg c
  · have hclose (m : Feed β) (hm : Yields m (Guarded cfg)) :
        Yields (do let b ← m; emit (.left c); return b) (Guarded cfg) :=
      guarded_bind hm fun b => guarded_bind (guarded_emit id rfl) fun _ => guarded_pure b
    rcases hreturns with ⟨tick, htick, hclassify⟩
    have hentered : ¬ Escapes cfg (.entered c) := not_not_intro ⟨tick, htick, hclassify⟩
    apply guarded_bind (guarded_emit hentered rfl)
    intro _
    cases tick with
    | none =>
        rcases hclassify rfl with ⟨reason, hreason⟩
        simp only [htick, hreason]
        exact guarded_bind (guarded_emit id rfl) fun _ => hclose _ hcallback
    | some tick =>
        simp only [htick]
        split
        · refine guarded_bind (guarded_emit id rfl) fun _ => ?_
          refine guarded_bind (guarded_emit id rfl) fun _ => ?_
          exact hclose _ (guarded_ensuring (dispatch_guarded c tick) hcallback)
        · exact hclose _ hcallback
  · refine (processOneStreamField_raises hreturns).mono fun r new h => ?_
    rcases h with ⟨⟨e, rfl⟩, rfl⟩
    exact guarded_error_iff.2 ⟨⟨_, List.mem_singleton_self _, hreturns⟩, by simp [FeedEvent.isLoopLevel]⟩

theorem xack_guarded (stream msgId : String) :
    Yields (xack env stream msgId) (Guarded cfg) :=
  guarded_attempt (fun _ => rfl) id fun _ => trivial

theorem ackOne_guarded (stream msgId fieldSym : String) (pending : List String) :
    Yields (ackOne env stream msgId fieldSym pending) (Guarded cfg) := by
  unfold ackOne
  split
  · split
    · exact guarded_bind (xack_guarded stream msgId) fun _ => guarded_pure _
    · exact guarded_pure _
  · exact guarded_pure _

theorem processFields_guarded (stream msgId : String) (fields : List (String × String))
    (pending : List String) :
    Yields (processFields env cfg stream msgId pending fields) (Guarded cfg) := by
  induction fields generalizing pending with
  | nil => exact guarded_pure pending
  | cons f fields ih =>
      exact guarded_bind
        (processOneStreamField_guarded _ (ackOne_guarded stream msgId f.1 pending)) ih

theorem handleGroupMessage_guarded (m : StreamMessage) :
    Yields (handleGroupMessage env cfg m) (Guarded cfg) := by
  unfold handleGroupMessage
  split
  · exact xack_guarded _ _
  · exact xack_guarded _ _
  · refine guarded_bind (processFields_guarded _ _ _ _) fun pending => ?_
    split
    · exact guarded_pure ()
    · exact xack_guarded _ _

theorem handleXreadMessage_guarded (m : StreamMessage) :
    Yields (handleXreadMessage env cfg m) (Guarded cfg) := by
  unfold handleXreadMessage
  split
  · exact guarded_pure ()
  · exact guarded_forEach (fun c => processOneStreamField_guarded c (guarded_pure ())) _

theorem handleXreadReply_guarded (resp : Reply String String) (positions : Positions) :
    Yields (handleXreadReply env cfg resp positions) (Guarded cfg) := by
  induction resp generalizing positions with
  | nil => exact guarded_pure positions
  | cons p resp ih =>
      exact guarded_bind
        (guarded_forEach (fun m => handleXreadMessage_guarded (p.1, m)) p.2) fun _ => ih _

/-- A reply is handled without an outage being caught; the attempts start again from zero. -/
theorem handleReply_guarded (resp : Reply String String) (st : LoopState) :
    Yields (handleReply env cfg resp st) fun r new =>
      Guarded cfg r new ∧ ∀ st', r = .ok st' → st'.reconnectAttempt = 0 := by
  have hend {γ : Type} {m : Feed γ} (hm : Yields m (Guarded cfg)) (next : γ → LoopState)
      (hzero : ∀ a, (next a).reconnectAttempt = 0) :
      Yields (do let a ← m; return next a) fun r new =>
        Guarded cfg r new ∧ ∀ st', r = .ok st' → st'.reconnectAttempt = 0 := by
    apply hm.bind
    · intro a new h
      refine (Yields.pure (next a)).mono fun r new' h' => ?_
      rw [h'.1, h'.2]
      refine ⟨h.append (guarded_ok_iff.2 (by simp)), fun st' hst => ?_⟩
      rw [← Except.ok.inj hst]
      exact hzero a
    · intro e new h
      exact ⟨guarded_error_iff.2 (guarded_error_iff.1 h), fun st' hst => by cases hst⟩
  unfold handleReply
  split
  · refine hend (m := handleGroupReply env cfg resp) ?_ (fun _ => { st with reconnectAttempt := 0 })
      fun _ => rfl
    exact guarded_forEach (fun p => guarded_forEach handleGroupMessage_guarded _) resp
  · exact hend (handleXreadReply_guarded resp st.positions) (fun positions => ⟨positions, 0⟩)
      fun _ => rfl

theorem ensureConsumerGroups_guarded (env : FeedEnv) (cfg : FeedConfig) :
    Yields (ensureConsumerGroups env cfg) (Guarded cfg) := by
  apply guarded_forEach
  intro stream
  apply guarded_catchWith
  · exact fun _ => rfl
  · exact id
  · intro log e _
    by_cases he : e = .response true
    · exact .inl ⟨by simp [Escapes, he], by simpa [he] using guarded_pure ()⟩
    · exact .inr ⟨he, by simp [he]⟩

theorem closeClient_guarded (houtages : OnlyOutages env) :
    Yields (closeClient env) (Guarded cfg) := by
  apply guarded_catchWith
  · exact fun _ => rfl
  · exact id
  · intro log e he
    obtain rfl := houtages.close log e he
    exact .inl ⟨id, guarded_pure ()⟩

/-! ## One round -/

/-- The rest of a round after its read: a guarded part, and a state with this many attempts. -/
def Continues (cfg : FeedConfig) (attempt : Nat) (r : Except FeedError (Option LoopState))
    (new : List FeedEvent) : Prop :=
  ∃ r' : Except FeedError LoopState, r = r'.map some ∧ Guarded cfg r' new ∧
    ∀ st', r' = .ok st' → st'.reconnectAttempt = attempt

theorem not_continues_none {attempt : Nat} {new : List FeedEvent} :
    ¬ Continues cfg attempt (.ok none) new := by
  intro h
  rcases h with ⟨r', hr, -⟩
  cases r' <;> cases hr

theorem Continues.of_error {attempt : Nat} {e : FeedError} {new : List FeedEvent}
    (h : Continues cfg attempt (.error e) new) : ∃ ev ∈ new, Escapes cfg ev := by
  rcases h with ⟨r', hr, hguarded, -⟩
  cases r' with
  | ok st' => cases hr
  | error e' => exact (guarded_error_iff.1 hguarded).1

theorem Continues.of_some {attempt : Nat} {st' : LoopState} {new : List FeedEvent}
    (h : Continues cfg attempt (.ok (some st')) new) :
    (∀ ev ∈ new, ¬ Escapes cfg ev) ∧ st'.reconnectAttempt = attempt := by
  rcases h with ⟨r', hr, hguarded, hnext⟩
  cases r' with
  | error e' => cases hr
  | ok st'' =>
      obtain rfl : st' = st'' := Option.some.inj (Except.ok.inj hr)
      exact ⟨(guarded_ok_iff.1 hguarded).1, hnext st' rfl⟩

theorem Continues.inner {attempt : Nat} {r : Except FeedError (Option LoopState)}
    {new : List FeedEvent} (h : Continues cfg attempt r new) :
    ∀ ev ∈ new, ev.isLoopLevel = false := by
  rcases h with ⟨r', -, hguarded, -⟩
  exact hguarded.2

/-- What a round can do under outages. -/
inductive Round (cfg : FeedConfig) (st : LoopState) :
    Except FeedError (Option LoopState) → List FeedEvent → Prop where
  | stopped : Round cfg st (.ok none) [.isSet true]
  | replied (positions : Option Positions) (r : Except FeedError (Option LoopState))
      (inner : List FeedEvent) (h : Continues cfg 0 r inner) :
      Round cfg st r (.isSet false :: .read positions none :: inner)
  | stoppedWaiting (positions : Option Positions) :
      Round cfg st (.ok none) [.isSet false, .read positions (some .connection),
        .wait (reconnectBackoffSeconds st.reconnectAttempt) true]
  | retried (positions : Option Positions) (r : Except FeedError (Option LoopState))
      (inner : List FeedEvent) (h : Continues cfg (st.reconnectAttempt + 1) r inner) :
      Round cfg st r (.isSet false :: .read positions (some .connection) ::
        .wait (reconnectBackoffSeconds st.reconnectAttempt) false :: inner)

theorem isStopped_yields :
    Yields (isStopped env) fun r new => ∃ stopped, r = .ok stopped ∧ new = [.isSet stopped] := by
  intro log
  exact ⟨.ok (env.shouldStop log), [.isSet (env.shouldStop log)], rfl, _, rfl, rfl⟩

theorem backoff_yields (attempt : Nat) :
    Yields (backoff env attempt) fun r new =>
      ∃ stopped, r = .ok stopped ∧ new = [.wait (reconnectBackoffSeconds attempt) stopped] := by
  intro log
  exact ⟨.ok (env.shouldStop log), [.wait _ (env.shouldStop log)], rfl, _, rfl, rfl⟩

theorem readReply_yields (houtages : OnlyOutages env) (positions : Option Positions) :
    Yields (readReply env positions) fun r new =>
      (∃ resp, (∃ log, env.read log = .ok resp) ∧ r = .ok (some resp) ∧
          new = [.read positions none]) ∨
        (r = .ok none ∧ new = [.read positions (some .connection)]) := by
  intro log
  cases hread : env.read log with
  | ok resp =>
      refine ⟨.ok (some resp), [.read positions none], ?_, .inl ⟨resp, ⟨log, hread⟩, rfl, rfl⟩⟩
      simp [readReply, Bind.bind, ask, hread, emit, Pure.pure]
  | error e =>
      obtain rfl := houtages.read log e hread
      refine ⟨.ok none, [.read positions (some .connection)], ?_, .inr ⟨rfl, rfl⟩⟩
      simp [readReply, Bind.bind, ask, hread, emit, Pure.pure, FeedError.isOutage]

theorem continues_return {attempt : Nat} (st : LoopState) (hst : st.reconnectAttempt = attempt) :
    Yields (return some st : Feed (Option LoopState)) (Continues cfg attempt) := by
  refine (Yields.pure (some st)).mono fun r new h => ?_
  rw [h.1, h.2]
  refine ⟨.ok st, rfl, guarded_ok_iff.2 (by simp), fun st' hst' => ?_⟩
  rw [← Except.ok.inj hst']
  exact hst

theorem continues_bind {attempt : Nat} {m : Feed α} {f : α → Feed (Option LoopState)}
    (hm : Yields m (Guarded cfg)) (hf : ∀ a, Yields (f a) (Continues cfg attempt)) :
    Yields (m >>= f) (Continues cfg attempt) := by
  apply hm.bind
  · intro a new h
    refine (hf a).mono fun r new' h' => ?_
    rcases h' with ⟨r', rfl, hguarded, hnext⟩
    exact ⟨r', rfl, h.append hguarded, hnext⟩
  · intro e new h
    exact ⟨.error e, rfl, guarded_error_iff.2 (guarded_error_iff.1 h), fun st' hst' => by cases hst'⟩

theorem reconnect_yields (houtages : OnlyOutages env) (st : LoopState) :
    Yields (reconnect env cfg st) fun r new =>
      (r = .ok none ∧ new = [.wait (reconnectBackoffSeconds st.reconnectAttempt) true]) ∨
        ∃ inner, Continues cfg (st.reconnectAttempt + 1) r inner ∧
          new = .wait (reconnectBackoffSeconds st.reconnectAttempt) false :: inner := by
  refine (backoff_yields st.reconnectAttempt).bind (fun stopped new h => ?_) (fun e new h => ?_)
  · rcases h with ⟨stopped', hstopped, rfl⟩
    obtain rfl := Except.ok.inj hstopped
    cases stopped with
    | true => exact (Yields.pure none).mono fun r new h => .inl ⟨h.1, by rw [h.2]; rfl⟩
    | false =>
        have hrest : Yields (do
            closeClient env
            emit .opened
            if cfg.useConsumerGroup then ensureConsumerGroups env cfg
            return some { st with reconnectAttempt := st.reconnectAttempt + 1 })
            (Continues cfg (st.reconnectAttempt + 1)) := by
          refine continues_bind (closeClient_guarded houtages) fun _ => ?_
          refine continues_bind (guarded_emit id rfl) fun _ => ?_
          split
          · exact continues_bind (ensureConsumerGroups_guarded env cfg) fun _ => continues_return _ rfl
          · exact continues_return _ rfl
        exact hrest.mono fun r inner h => .inr ⟨inner, h, rfl⟩
  · rcases h with ⟨_, hok, -⟩
    cases hok

theorem handled_continues (resp : Reply String String) (st : LoopState) :
    Yields (do let st ← handleReply env cfg resp st; return some st) (Continues cfg 0) := by
  apply (handleReply_guarded resp st).bind
  · intro st' new h
    have hreturn : Yields (return some st' : Feed (Option LoopState)) (Continues cfg 0) :=
      continues_return st' (h.2 st' rfl)
    refine hreturn.mono fun r new' h' => ?_
    rcases h' with ⟨r', rfl, hguarded, hnext⟩
    exact ⟨r', rfl, h.1.append hguarded, hnext⟩
  · intro e new h
    exact ⟨.error e, rfl, h.1, fun st' hst' => by cases hst'⟩

theorem loopRound_yields (houtages : OnlyOutages env) (st : LoopState) :
    Yields (loopRound env cfg st) (Round cfg st) := by
  refine isStopped_yields.bind (fun stopped new h => ?_) (fun e new h => ?_)
  · rcases h with ⟨stopped', hstopped, rfl⟩
    obtain rfl := Except.ok.inj hstopped
    cases stopped with
    | true =>
        refine (Yields.pure none).mono fun r new h => ?_
        rw [h.1, h.2]
        exact .stopped
    | false =>
        refine (readReply_yields houtages _).bind (fun o new h => ?_) (fun e new h => ?_)
        · rcases h with ⟨resp, -, ho, rfl⟩ | ⟨ho, rfl⟩
          · obtain rfl := Except.ok.inj ho
            exact (handled_continues resp st).mono fun r inner h => .replied _ r inner h
          · obtain rfl := Except.ok.inj ho
            refine (reconnect_yields houtages st).mono fun r new h => ?_
            rcases h with ⟨rfl, rfl⟩ | ⟨inner, hcontinues, rfl⟩
            · exact .stoppedWaiting _
            · exact .retried _ r inner hcontinues
        · rcases h with ⟨resp, -, ho, -⟩ | ⟨ho, -⟩ <;> cases ho
  · rcases h with ⟨_, hok, -⟩
    cases hok

/-! ## Many rounds -/

/-- Events that only the parts of a round do change nothing for the backoff. -/
theorem retries_inner {inner : List FeedEvent} (hinner : ∀ ev ∈ inner, ev.isLoopLevel = false)
    (attempt : Nat) (events : List FeedEvent) :
    RetriesWithBackoff attempt (inner ++ events) ↔ RetriesWithBackoff attempt events := by
  induction inner with
  | nil => rfl
  | cons ev inner ih =>
      have hev := hinner ev List.mem_cons_self
      rw [← ih fun ev' hev' => hinner ev' (List.mem_cons_of_mem ev hev'), List.cons_append]
      cases ev <;> simp_all [FeedEvent.isLoopLevel, RetriesWithBackoff]

theorem readCount_inner {inner : List FeedEvent} (hinner : ∀ ev ∈ inner, ev.isLoopLevel = false) :
    readCount inner = 0 := by
  apply List.countP_eq_zero.2
  intro ev hev
  have hlevel := hinner ev hev
  cases ev <;> simp_all [FeedEvent.isLoopLevel]

/-- What a run of {lit}`n` rounds yields under outages. -/
structure RunSpec (cfg : FeedConfig) (n : Nat) (st : LoopState)
    (r : Except FeedError (Option LoopState)) (new : List FeedEvent) : Prop where
  error_iff : (∃ e, r = .error e) ↔ ∃ ev ∈ new, Escapes cfg ev
  returned : r = .ok none → StopSeen new
  reads : ∀ st', r = .ok (some st') → readCount new = n
  backoff : RetriesWithBackoff st.reconnectAttempt new

theorem readCount_append (new new' : List FeedEvent) :
    readCount (new ++ new') = readCount new + readCount new' :=
  List.countP_append

/-- A round that goes on: nothing escapes, there is one read, and the backoff goes on. -/
theorem Round.again {st st' : LoopState} {new : List FeedEvent}
    (h : Round cfg st (.ok (some st')) new) :
    (∀ ev ∈ new, ¬ Escapes cfg ev) ∧ readCount new = 1 ∧
      ∀ events, RetriesWithBackoff st'.reconnectAttempt events →
        RetriesWithBackoff st.reconnectAttempt (new ++ events) := by
  cases h with
  | replied positions _ inner h =>
      rcases h.of_some with ⟨hnone, hattempt⟩
      refine ⟨by simpa [Escapes] using hnone, ?_, fun events hevents => ?_⟩
      · simpa [readCount] using readCount_inner h.inner
      · rw [hattempt] at hevents
        exact (retries_inner h.inner 0 events).2 hevents
  | retried positions _ inner h =>
      rcases h.of_some with ⟨hnone, hattempt⟩
      refine ⟨by simpa [Escapes] using hnone, ?_, fun events hevents => ?_⟩
      · simpa [readCount] using readCount_inner h.inner
      · rw [hattempt] at hevents
        exact ⟨⟨false, rfl⟩, (retries_inner h.inner _ events).2 hevents⟩

/-- A round that returns has seen a stop last. -/
theorem Round.left {st : LoopState} {new : List FeedEvent} (h : Round cfg st (.ok none) new) :
    (∀ ev ∈ new, ¬ Escapes cfg ev) ∧ StopSeen new ∧
      RetriesWithBackoff st.reconnectAttempt new := by
  cases h with
  | stopped => exact ⟨by simp [Escapes], .inl rfl, trivial⟩
  | replied positions _ inner h => exact absurd h not_continues_none
  | stoppedWaiting positions =>
      exact ⟨by simp [Escapes], .inr ⟨_, rfl⟩, ⟨true, rfl⟩, trivial⟩
  | retried positions _ inner h => exact absurd h not_continues_none

/-- A round that raises has let something escape. -/
theorem Round.raised {st : LoopState} {e : FeedError} {new : List FeedEvent}
    (h : Round cfg st (.error e) new) :
    (∃ ev ∈ new, Escapes cfg ev) ∧ RetriesWithBackoff st.reconnectAttempt new := by
  cases h with
  | replied positions _ inner h =>
      rcases h.of_error with ⟨ev, hev, hescapes⟩
      have hbackoff := (retries_inner h.inner 0 []).2 trivial
      rw [List.append_nil] at hbackoff
      exact ⟨⟨ev, by simp [hev], hescapes⟩, hbackoff⟩
  | retried positions _ inner h =>
      rcases h.of_error with ⟨ev, hev, hescapes⟩
      have hbackoff := (retries_inner h.inner (st.reconnectAttempt + 1) []).2 trivial
      rw [List.append_nil] at hbackoff
      exact ⟨⟨ev, by simp [hev], hescapes⟩, ⟨false, rfl⟩, hbackoff⟩

theorem StopSeen.append {new new' : List FeedEvent} (h : StopSeen new') :
    StopSeen (new ++ new') := by
  rcases h with h | ⟨seconds, h⟩
  · exact .inl (by simp [h])
  · exact .inr ⟨seconds, by simp [h]⟩

theorem rounds_spec (cfg : FeedConfig) (houtages : OnlyOutages env) (n : Nat) (st : LoopState) :
    Yields (rounds (loopRound env cfg) n st) (RunSpec cfg n st) := by
  apply Yields.rounds (loopRound_yields houtages)
  · intro st
    exact ⟨by simp, by simp, fun _ _ => rfl, trivial⟩
  · intro n st new h
    rcases h.left with ⟨hnone, hstop, hbackoff⟩
    exact ⟨by simpa using hnone, fun _ => hstop, by simp, hbackoff⟩
  · intro n st e new h
    rcases h.raised with ⟨hescapes, hbackoff⟩
    exact ⟨by simpa using hescapes, by simp, by simp, hbackoff⟩
  · intro n st st' new r new' hround hrun
    rcases hround.again with ⟨hnone, hread, hbackoff⟩
    refine ⟨hrun.error_iff.trans ?_, fun hr => (hrun.returned hr).append, fun st'' hr => ?_,
      hbackoff new' hrun.backoff⟩
    · constructor
      · intro h
        rcases h with ⟨ev, hev, hescapes⟩
        exact ⟨ev, List.mem_append_right _ hev, hescapes⟩
      · intro h
        rcases h with ⟨ev, hev, hescapes⟩
        rcases List.mem_append.1 hev with hmem | hmem
        · exact absurd hescapes (hnone ev hmem)
        · exact ⟨ev, hmem, hescapes⟩
    · rw [readCount_append, hread, hrun.reads st'' hr]
      omega

/-! ## The loop from its start to its end -/

/-- The loop has started: the client is open, and in a group the groups of all streams exist. -/
structure Started (env : FeedEnv) (cfg : FeedConfig) (log : List FeedEvent) (st : LoopState)
    (log' : List FeedEvent) : Prop where
  streams : cfg.streamNames ≠ []
  names : ¬ (cfg.useConsumerGroup ∧
    (strip cfg.consumerGroupName = "" ∨ strip cfg.consumerName = ""))
  start : startLoop env cfg log = (.ok st, log')

theorem startLoop_yields (env : FeedEnv) (cfg : FeedConfig) :
    Yields (startLoop env cfg) fun r _ => ∀ st, r = .ok st → st.reconnectAttempt = 0 := by
  have hreturn : Yields (return ⟨cfg.streamNames.map fun stream => (stream, startIdOf cfg), 0⟩ :
      Feed LoopState) fun r _ => ∀ st, r = .ok st → st.reconnectAttempt = 0 := by
    refine (Yields.pure _).mono fun r new h st hst => ?_
    rw [← Except.ok.inj (h.1.symm.trans hst)]
  apply Yields.after_emit
  split
  · apply (ensureConsumerGroups_guarded env cfg).bind
    · intro _ new _
      exact hreturn
    · intro e new _ st hst
      cases hst
  · exact hreturn

theorem Started.reconnectAttempt {log log' : List FeedEvent} {st : LoopState}
    (h : Started env cfg log st log') : st.reconnectAttempt = 0 := by
  rcases startLoop_yields env cfg log with ⟨r, new, heq, hzero⟩
  rw [h.start] at heq
  exact hzero st (congrArg Prod.fst heq).symm

theorem closeClient_yields (houtages : OnlyOutages env) :
    Yields (closeClient env) fun r new => r = .ok () ∧ ∃ raised, new = [.closed raised] := by
  apply (Yields.attempt env.close .closed).catchWith
  · intro _ new h
    rcases h with ⟨log, rfl, -⟩
    exact ⟨rfl, _, rfl⟩
  · intro e new h
    rcases h with ⟨log, rfl, herror⟩
    cases hclose : env.close log with
    | none => simp [hclose] at herror
    | some e' =>
        obtain rfl : e = e' := by simpa [hclose] using herror
        obtain rfl := houtages.close log e hclose
        refine (Yields.pure ()).mono fun r new h => ⟨h.1, some .connection, ?_⟩
        rw [h.2]
        rfl

/-- A loop that is left closes its client, and nothing else is changed by that. -/
theorem whenLeft_eq (houtages : OnlyOutages env) {m : Feed (Option LoopState)}
    {log log' : List FeedEvent} {r : Except FeedError (Option LoopState)} (hm : m log = (r, log')) :
    ∃ final, whenLeft env m log = (r, log' ++ final) ∧
      ∀ ev ∈ final, ∃ raised, ev = .closed raised := by
  rcases closeClient_yields houtages log' with ⟨_, _, hclose, rfl, raised, rfl⟩
  unfold whenLeft
  rw [hm]
  match r with
  | .ok (some st) => exact ⟨[], by simp, by simp⟩
  | .ok none => exact ⟨[.closed raised], by simp [ensuring, Bind.bind, hclose, Pure.pure], by simp⟩
  | .error e => exact ⟨[.closed raised], by simp [ensuring, Bind.bind, hclose, Pure.pure], by simp⟩

/-- Under any pattern of connection errors after its start, a run keeps retrying until it sees a
stop exactly when no XACK and no XGROUP CREATE raises in it, no payload makes parsing raise, and the
strategy raises nothing beyond {lit}`Exception`. -/
theorem survives_outages_iff (env : FeedEnv) (cfg : FeedConfig) (houtages : OnlyOutages env)
    {log log' : List FeedEvent} {st : LoopState} (hstart : Started env cfg log st log') (n : Nat) :
    ∃ r new final, runMarketDataRedisLoop env cfg n log = (r, log' ++ new ++ final) ∧
      (∀ ev ∈ final, ∃ raised, ev = .closed raised) ∧
      (KeepsRetrying n r new ↔ ∀ ev ∈ new, ¬ Escapes cfg ev) := by
  rcases rounds_spec cfg houtages n st log' with ⟨r, new, hrun, hspec⟩
  have hbody : (do let st ← startLoop env cfg; rounds (loopRound env cfg) n st :
      Feed (Option LoopState)) log = (r, log' ++ new) := by
    simp only [Bind.bind, hstart.start, hrun]
  rcases whenLeft_eq houtages hbody with ⟨final, hleft, hfinal⟩
  refine ⟨r, new, final, ?_, hfinal, ?_⟩
  · rw [runMarketDataRedisLoop, if_neg hstart.streams, if_neg hstart.names]
    exact hleft
  · constructor
    · intro hkeeps ev hev hescapes
      rcases hspec.error_iff.2 ⟨ev, hev, hescapes⟩ with ⟨e, he⟩
      exact hkeeps.noError e he
    · intro hnone
      have hbackoff := hspec.backoff
      rw [hstart.reconnectAttempt] at hbackoff
      refine ⟨fun e he => ?_, hspec.returned, hspec.reads, hbackoff⟩
      rcases hspec.error_iff.1 ⟨e, he⟩ with ⟨ev, hev, hescapes⟩
      exact hnone ev hev hescapes

/-! ## Without a group -/

/-- The run does not raise. -/
def NeverRaises (m : Feed α) : Prop :=
  Yields m fun r _ => ∀ e, r ≠ .error e

theorem NeverRaises.bind {m : Feed α} {f : α → Feed β} {P : Except FeedError α → List FeedEvent → Prop}
    (hm : Yields m P) (hok : ∀ e new, ¬ P (.error e) new)
    (hf : ∀ a new, P (.ok a) new → NeverRaises (f a)) : NeverRaises (m >>= f) := by
  apply hm.bind
  · intro a new h
    exact hf a new h
  · intro e new h
    exact absurd h (hok e new)

theorem NeverRaises.pure (a : α) : NeverRaises (pure a : Feed α) :=
  (Yields.pure a).mono fun r new h e he => by rw [h.1] at he; cases he

/-- Without a group nothing in a round raises under outages alone. -/
theorem loopRound_neverRaises (houtages : OnlyOutages env) (hmode : cfg.useConsumerGroup = false)
    (hticks : TicksCaught env)
    (hparse : ∀ log resp, env.read log = .ok resp → ∀ c ∈ callsOfReply resp, CallReturns cfg c)
    (st : LoopState) : NeverRaises (loopRound env cfg st) := by
  have hreconnect : NeverRaises (reconnect env cfg st) := by
    apply NeverRaises.bind (backoff_yields st.reconnectAttempt)
    · intro e new h
      rcases h with ⟨_, hok, -⟩
      cases hok
    · intro stopped new _
      split
      · exact NeverRaises.pure none
      · apply NeverRaises.bind (closeClient_yields houtages)
        · intro e new h
          cases h.1
        · intro _ new _
          apply NeverRaises.bind (Yields.emit .opened)
          · intro e new h
            cases h.1
          · intro _ new _
            rw [hmode]
            exact NeverRaises.pure _
  have hhandle (resp : Reply String String) (hresp : ∀ c ∈ callsOfReply resp, CallReturns cfg c) :
      NeverRaises (do let st ← handleReply env cfg resp st; return some st) := by
    have hreply := (survives_iff_of_processes
      (handleXreadReply_processes cfg hticks resp st.positions)).2 hresp
    have hstate : NeverRaises (handleReply env cfg resp st) := by
      unfold handleReply
      rw [hmode]
      apply NeverRaises.bind hreply
      · intro e new h
        rcases h with ⟨⟨a, ha⟩, -⟩
        cases ha
      · intro positions new _
        exact NeverRaises.pure _
    exact NeverRaises.bind hstate (fun e new h => h e rfl) fun st new _ => NeverRaises.pure _
  apply NeverRaises.bind isStopped_yields
  · intro e new h
    rcases h with ⟨_, hok, -⟩
    cases hok
  · intro stopped new _
    split
    · exact NeverRaises.pure none
    · apply NeverRaises.bind (readReply_yields houtages _)
      · intro e new h
        rcases h with ⟨resp, -, ho, -⟩ | ⟨ho, -⟩ <;> cases ho
      · intro o new h
        rcases h with ⟨resp, ⟨log, hread⟩, ho, -⟩ | ⟨ho, -⟩
        · obtain rfl := Except.ok.inj ho
          exact hhandle resp (hparse log resp hread)
        · obtain rfl := Except.ok.inj ho
          exact hreconnect

/-- Without a group, connection errors alone never end the loop: it keeps retrying. -/
theorem xread_survives_outages (houtages : OnlyOutages env) (hmode : cfg.useConsumerGroup = false)
    (hticks : TicksCaught env)
    (hparse : ∀ log resp, env.read log = .ok resp → ∀ c ∈ callsOfReply resp, CallReturns cfg c)
    (n : Nat) (st : LoopState) (hst : st.reconnectAttempt = 0) :
    Yields (rounds (loopRound env cfg) n st) (KeepsRetrying n) := by
  have hnever : NeverRaises (rounds (loopRound env cfg) n st) := by
    apply Yields.rounds (R := fun _ _ r _ => ∀ e, r ≠ .error e)
      (loopRound_neverRaises houtages hmode hticks hparse)
    · simp
    · simp
    · intro n st e new h
      exact absurd rfl (h e)
    · intro n st st' new r new' _ h
      exact h
  refine ((rounds_spec cfg houtages n st).and hnever).mono fun r new h => ?_
  rcases h with ⟨hspec, hnoError⟩
  exact ⟨hnoError, hspec.returned, hspec.reads, hst ▸ hspec.backoff⟩

end

/-! ## Two outages that end the loop with a group -/

/-- A read has been made. -/
def hasRead (log : List FeedEvent) : Bool :=
  readCount log ≠ 0

/-- The connection is lost at the first read, and still is when the groups are created again. -/
def lostConnection : FeedEnv :=
  { quietEnv with
    read := fun _ => .error .connection
    xgroupCreate := fun log => if hasRead log then some .connection else none }

/-- The connection is lost between a reply and its first XACK. -/
def lostAtAck : FeedEnv :=
  { quietEnv with
    read := fun _ => .ok twoTrades
    xack := fun _ => some .connection }

/-- What the loop keeps when it has started with a group. -/
def startedState : LoopState :=
  ⟨[("md:stream:trades:0", "$")], 0⟩

theorem onlyOutages_lostConnection : OnlyOutages lostConnection where
  read log e h := (Except.error.inj h).symm
  xack log e he := by cases he
  xgroupCreate log e he := by
    simp only [lostConnection] at he
    split at he
    · exact .inl (Option.some.inj he).symm
    · cases he
  close log e he := by cases he

theorem onlyOutages_lostAtAck : OnlyOutages lostAtAck where
  read log e h := by cases h
  xack log e he := (Option.some.inj he).symm
  xgroupCreate log e he := by cases he
  close log e he := by cases he

theorem started_lostConnection :
    Started lostConnection groupConfig [] startedState
      (startLoop lostConnection groupConfig []).2 where
  streams := by decide
  names := by decide +kernel
  start := Prod.ext (by decide +kernel) rfl

/-- The run against a lost connection ends with an exception, as an XGROUP CREATE has raised. -/
theorem lost_connection_run :
    ∃ r new final, runMarketDataRedisLoop lostConnection groupConfig 1 [] =
        (r, (startLoop lostConnection groupConfig []).2 ++ new ++ final) ∧
      (∀ ev ∈ final, ∃ raised, ev = .closed raised) ∧
      (KeepsRetrying 1 r new ↔ ∀ ev ∈ new, ¬ Escapes groupConfig ev) :=
  survives_outages_iff lostConnection groupConfig onlyOutages_lostConnection started_lostConnection 1

/-- With a group, a connection error ends the loop although no stop is requested: when it is raised
by XGROUP CREATE in the handler of a failed read, and when it is raised by an XACK. -/
theorem outage_ends_group_loop :
    (∀ env ∈ [lostConnection, lostAtAck], OnlyOutages env ∧ (∀ log, env.shouldStop log = false) ∧
      ∃ st, (startLoop env groupConfig []).1 = .ok st) ∧
    (runMarketDataRedisLoop lostConnection groupConfig 1 []).1 = .error .connection ∧
    (runMarketDataRedisLoop lostAtAck groupConfig 1 []).1 = .error .connection := by
  refine ⟨?_, by decide +kernel, by decide +kernel⟩
  intro env henv
  rcases List.mem_cons.1 henv with rfl | henv
  · exact ⟨onlyOutages_lostConnection, fun _ => rfl, startedState, by decide +kernel⟩
  · obtain rfl := List.mem_singleton.1 henv
    exact ⟨onlyOutages_lostAtAck, fun _ => rfl, startedState, by decide +kernel⟩

end MarketData
end StrategyWorker
