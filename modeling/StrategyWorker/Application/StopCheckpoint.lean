import StrategyWorker.Application.ReplayWindow
import StrategyWorker.Library.ThreadMachine
import StrategyWorker.Persistence.JournalRecords

/-!
# The checkpoint of a stop request

{lit}`push_replay_context` stores the cursor of its batch, then hands the events
of the batch to the gateway, and stores the time of the last one behind the
loop.  {lit}`record_manager_stop_request_checkpoint` reads the pair of the two and
journals it.  Pushes and stop requests run in their own threads, and only the
reads and writes of the pair are under the lock.

The state has two histories beside what the service keeps: the batches whose
cursors were stored, and what the gateway has taken, each tick with the place of
its batch.  A journaled pair is right when every batch up to its cursor was
ingested as a whole and its time is that of the last ingested event.

Main results:

- Theorem {lit}`push_finishes`: a push that nothing interrupts leaves the service that
  {lit}`pushReplayContext` leaves.
- Theorem {lit}`step_inv`: what an orderly step keeps.
- Theorem {lit}`checkpoints_cover_ingested`: in a run in which no cursor is stored
  and no checkpoint taken while a batch with admitted events is under way, no
  such batch raises and none is refused after the end of the stream, every
  journaled pair is right.
- Theorem {lit}`checkpoint_before_ingest`: a checkpoint between the store of the
  cursor and the first event names a batch of which nothing was ingested.
-/

namespace StrategyWorker
namespace Application

open Library
open Library.ThreadMachine
open Domain
open Integration
open Persistence

/-! ## Batches -/

/-- A tick with its effective simulated time. -/
abbrev ReplayTick := PyDict × Option PyDateTime

/-- {lit}`batch_simulated`. -/
def batchSimulated (payload : PyDict) : Option PyDateTime :=
  parseDatetime (payload.get "simulated_time")

/-- The ticks of the events that pass the filters. -/
def admittedTicks (cfg : ReplayConfig) (payload : PyDict) (events : List PyDict) :
    List ReplayTick :=
  events.filterMap fun event =>
    match admitEvent cfg (batchSimulated payload) event with
    | .ok admitted => admitted
    | .error _ => none

/-- The admitted events of a payload. -/
def admittedOf (cfg : ReplayConfig) (payload : PyDict) : List ReplayTick :=
  admittedTicks cfg payload (eventList payload)

/-- A batch whose cursor was stored. -/
structure ReplayBatch where
  cursor : String
  admitted : List ReplayTick

/-- The pair that the lock guards, with the histories of batches and ticks. -/
structure Ingress where
  lastReplayCursor : String
  lastDataEventTimestamp : Option PyDateTime
  batches : List ReplayBatch
  /-- What the gateway has taken, with the place of the batch. -/
  ingested : List (Nat × ReplayTick)

namespace Ingress

/-- What was ingested of a batch. -/
def ingestedOf (g : Ingress) (n : Nat) : List ReplayTick :=
  g.ingested.filterMap fun entry => if entry.1 = n then some entry.2 else none

/-- The time of the last ingested event that has one. -/
def lastTime (g : Ingress) : Option PyDateTime :=
  g.ingested.foldl (fun time entry => entry.2.2 <|> time) none

/-- The cursor of the last batch, empty before the first one. -/
def lastCursor (g : Ingress) : String :=
  (g.batches.getLast?.map ReplayBatch.cursor).getD ""

/-- All admitted events of a batch were ingested. -/
def Complete (g : Ingress) (n : Nat) : Prop :=
  ∀ batch, g.batches[n]? = some batch → g.ingestedOf n = batch.admitted

/-- The store of a cursor. -/
def start (g : Ingress) (cfg : ReplayConfig) (payload : PyDict) : Ingress :=
  { g with
    lastReplayCursor := replayMeta payload "replay_cursor"
    batches := g.batches ++ [⟨replayMeta payload "replay_cursor", admittedOf cfg payload⟩] }

/-- A tick that the gateway has taken. -/
def take (g : Ingress) (n : Nat) (tick : ReplayTick) : Ingress :=
  { g with ingested := g.ingested ++ [(n, tick)] }

/-- The store of the time behind the loop. -/
def finish (g : Ingress) (lastEffectiveSim : Option PyDateTime) : Ingress :=
  { g with lastDataEventTimestamp := lastEffectiveSim <|> g.lastDataEventTimestamp }

end Ingress

/-- The journaled pair names the last batch and the time of the last ingested event, and every
batch so far was ingested as a whole. -/
def Covers (call : JournalCall) (g : Ingress) : Prop :=
  (∃ lastClockAt stopRequestedAt,
      call = .managerStopRequest g.lastTime lastClockAt g.lastCursor stopRequestedAt) ∧
    ∀ n, g.Complete n

/-! ## Pushes and stop requests -/

/-- The state of the lifecycle service that pushes and stop requests share. -/
structure StopState where
  /-- The runtime dependencies, once they are built, with or without a replay gateway. -/
  runtimeDependencies : Option Bool
  backtestReplayComplete : Bool
  ingress : Ingress
  /-- The calls of the state journal, with the histories when their pair was read. -/
  checkpoints : List (JournalCall × Ingress)

/-- The steps of {lit}`push_replay_context` and of the checkpoint of a stop request, and what the
rest of the service does to the fields that a push reads. -/
inductive PushOp where
  | readDependencies (payload : PyDict)
  | initializeDependencies (payload : PyDict)
  | readGateway (payload : PyDict)
  | storeCursor (payload : PyDict)
  | checkComplete (batch : Nat) (payload : PyDict)
  | ingestEvents (batch : Nat) (payload : PyDict) (remaining : List PyDict)
      (lastEffectiveSim : Option PyDateTime)
  | storeTimestamp (batch : Nat) (payload : PyDict) (lastEffectiveSim : Option PyDateTime)
  | finishPush (payload : PyDict)
  | recordCheckpoint (lastClockAt : Option PyDateTime) (stopAt : PyDateTime)
  | setDependencies (dependencies : Option Bool)
  | completeReplay

/-- What the initializer of the dependencies or the gateway does. -/
inductive PushOutcome where
  | returns
  | raises (error : PyError)
  | builds (replay : Bool)

def PushOutcome.raising : PushOutcome → Bool
  | raises _ => true
  | _ => false

/-- A backtest takes no events after the end of the stream. -/
def StopState.refuses (cfg : ReplayConfig) (s : StopState) : Bool :=
  cfg.launchSpec.mode = .backtest && s.backtestReplayComplete

/-- A push, a stop request whose clock reads are given, the dependencies set by the bootstrap or
by a failed one, or the end of the historical driver. -/
inductive StopRequest where
  | push (payload : PyDict)
  | stop (lastClockAt : Option PyDateTime) (stopAt : PyDateTime)
  | dependencies (dependencies : Option Bool)
  | driverFinished

def StopRequest.code : StopRequest → List PushOp
  | push payload => [.readDependencies payload]
  | stop lastClockAt stopAt => [.recordCheckpoint lastClockAt stopAt]
  | dependencies deps => [.setDependencies deps]
  | driverFinished => [.completeReplay]

/-- One step, {lit}`stateJournal` saying whether the service has a journal. -/
def PushOp.exec (cfg : ReplayConfig) (stateJournal : Bool) (s : StopState) :
    PushOp → PushOutcome → Option (Effect StopState PushOp PyError)
  | .readDependencies payload, _ =>
      match s.runtimeDependencies with
      | none => some (.next s [.initializeDependencies payload] [])
      | some _ => some (.next s [.readGateway payload] [])
  | .initializeDependencies payload, .builds replay =>
      some (.next { s with runtimeDependencies := some replay } [.readGateway payload] [])
  | .initializeDependencies _, .raises e => some (.raise s e)
  | .initializeDependencies _, .returns => none
  | .readGateway payload, _ =>
      match s.runtimeDependencies with
      | some true => some (.next s [.storeCursor payload] [])
      | _ => some (.next s [] [])
  | .storeCursor payload, _ =>
      some (.next { s with ingress := s.ingress.start cfg payload }
        [.checkComplete s.ingress.batches.length payload] [])
  | .checkComplete n payload, _ =>
      if s.refuses cfg then some (.next s [] [])
      else some (.next s [.ingestEvents n payload (eventList payload) none] [])
  | .ingestEvents n payload [] lastEffectiveSim, _ =>
      some (.next s [.storeTimestamp n payload lastEffectiveSim] [])
  | .ingestEvents n payload (event :: events) lastEffectiveSim, out =>
      match admitEvent cfg (batchSimulated payload) event, out with
      | .error e, _ => some (.raise s e)
      | .ok none, _ => some (.next s [.ingestEvents n payload events lastEffectiveSim] [])
      | .ok (some _), .raises e => some (.raise s e)
      | .ok (some tick), _ =>
          some (.next { s with ingress := s.ingress.take n tick }
            [.ingestEvents n payload events (tick.2 <|> lastEffectiveSim)] [])
  | .storeTimestamp _ payload lastEffectiveSim, _ =>
      some (.next { s with ingress := s.ingress.finish lastEffectiveSim } [.finishPush payload] [])
  | .finishPush payload, _ =>
      some (.next { s with
        backtestReplayComplete := s.backtestReplayComplete ||
          (cfg.launchSpec.mode = .backtest && (payload.get "end_of_stream").truthy) } [] [])
  | .recordCheckpoint lastClockAt stopAt, _ =>
      if stateJournal then
        some (.next { s with
          checkpoints := s.checkpoints ++ [(.managerStopRequest s.ingress.lastDataEventTimestamp
            lastClockAt s.ingress.lastReplayCursor stopAt, s.ingress)] } [] [])
      else some (.next s [] [])
  | .setDependencies dependencies, _ =>
      some (.next { s with runtimeDependencies := dependencies } [] [])
  | .completeReplay, _ => some (.next { s with backtestReplayComplete := true } [] [])

/-- No step of these handles an error. -/
def stopMachine (cfg : ReplayConfig) (stateJournal : Bool) :
    ThreadMachine StopState PushOp PyError PushOutcome where
  exec := PushOp.exec cfg stateJournal
  handler _ _ := none

/-- A service that has seen no push. -/
def stopInit : StopState :=
  ⟨none, false, ⟨"", none, [], []⟩, []⟩

/-- Pushes and stop requests in every interleaving. -/
def stopSystem (cfg : ReplayConfig) (stateJournal : Bool) :
    TransitionSystem (Config StopState PushOp PyError) (Move StopRequest PushOutcome) :=
  (stopMachine cfg stateJournal).system stopInit [] fun r => some r.code

/-! ## A push that nothing interrupts -/

/-- The service of a sequence of pushes and the one of the interleavings have the same fields. -/
structure Agrees (w : ReplayWorker) (s : StopState) : Prop where
  dependencies : s.runtimeDependencies = w.runtimeDependencies.map Option.isSome
  cursor : s.ingress.lastReplayCursor = w.lastReplayCursor
  timestamp : s.ingress.lastDataEventTimestamp = w.lastDataEventTimestamp
  complete : s.backtestReplayComplete = w.backtestReplayComplete

/-- The initializer does what the call says, and the gateway returns. -/
def undisturbed (call : PushCall) : PushOp → PushOutcome
  | .initializeDependencies _ =>
      match call.initializer with
      | .ok replay => .builds replay
      | .error e => .raises e
  | _ => .returns

section

variable {cfg : ReplayConfig} {stateJournal : Bool} {call : PushCall}

attribute [local simp] PushOp.exec in
/-- The loop of a push that does not raise, up to its end. -/
theorem ingestEvents_finishes (stateJournal : Bool) (n : Nat) (events : List PyDict)
    (batch : Batch) (s : StopState)
    (hraised : (replayEvents cfg call.journalRaises (batchSimulated call.payload) events
      batch).raised = false) :
    ∃ t : StopState, (stopMachine cfg stateJournal).Finishes (undisturbed call) s
        [.ingestEvents n call.payload events batch.lastEffectiveSim] [] ⟨t, none, []⟩ ∧
      t.runtimeDependencies = s.runtimeDependencies ∧
      t.ingress.lastReplayCursor = s.ingress.lastReplayCursor ∧
      t.ingress.lastDataEventTimestamp = ((replayEvents cfg call.journalRaises
        (batchSimulated call.payload) events batch).lastEffectiveSim <|>
          s.ingress.lastDataEventTimestamp) ∧
      t.backtestReplayComplete = (s.backtestReplayComplete ||
        (cfg.launchSpec.mode = .backtest && (call.payload.get "end_of_stream").truthy)) ∧
      t.ingress.ingested.length + batch.consumed.length = s.ingress.ingested.length +
        (replayEvents cfg call.journalRaises (batchSimulated call.payload) events
          batch).consumed.length := by
  induction events generalizing batch s with
  | nil =>
      refine ⟨{ s with
        ingress := s.ingress.finish batch.lastEffectiveSim
        backtestReplayComplete := s.backtestReplayComplete ||
          (cfg.launchSpec.mode = .backtest && (call.payload.get "end_of_stream").truthy) },
        ?_, rfl, rfl, rfl, rfl, rfl⟩
      -- the end of the loop, the store of the time and the end of the stream
      refine (finishes_next rfl).2 ?_
      refine (finishes_next rfl).2 ?_
      refine (finishes_next rfl).2 ?_
      exact finishes_nil.2 rfl
  | cons event events ih =>
      unfold replayEvents at hraised ⊢
      cases hadmits : admitEvent cfg (batchSimulated call.payload) event with
      | error e =>
          rw [hadmits] at hraised
          cases hraised
      | ok admitted =>
          cases admitted with
          | none =>
              rw [hadmits] at hraised
              rcases ih batch s hraised with ⟨t, hfinishes, hrest⟩
              have hexec : (stopMachine cfg stateJournal).exec s
                  (.ingestEvents n call.payload (event :: events) batch.lastEffectiveSim)
                    .returns = some (.next s
                      [.ingestEvents n call.payload events batch.lastEffectiveSim] []) := by
                simp [stopMachine, PushOp.exec, hadmits]
              exact ⟨t, (finishes_next hexec).2 hfinishes, hrest⟩
          | some tick =>
              rcases tick with ⟨tickPayload, effectiveSim⟩
              rw [hadmits] at hraised
              simp only at hraised ⊢
              split at hraised
              · cases hraised
              · rename_i hreturns
                rw [if_neg hreturns]
                rcases ih _ { s with ingress := s.ingress.take n (tickPayload, effectiveSim) }
                  hraised with ⟨t, hfinishes, hdeps, hcursor, htime, hcomplete, hcount⟩
                have hexec : (stopMachine cfg stateJournal).exec s
                    (.ingestEvents n call.payload (event :: events) batch.lastEffectiveSim)
                      .returns = some (.next
                        { s with ingress := s.ingress.take n (tickPayload, effectiveSim) }
                          [.ingestEvents n call.payload events
                            (effectiveSim <|> batch.lastEffectiveSim)] []) := by
                  simp [stopMachine, PushOp.exec, hadmits]
                refine ⟨t, (finishes_next hexec).2 hfinishes, hdeps, hcursor, htime, hcomplete, ?_⟩
                simp only [Ingress.take, List.length_append, List.length_singleton] at hcount
                omega

/-- The dependencies that a push goes on with. -/
theorem readDependencies_finishes {w : ReplayWorker} {s : StopState} (h : Agrees w s)
    {dependencies : Option (ReplayGateway PyDict)} {r : Ending StopState PushOp PyError}
    (hdeps : ensureDependencies w call = .ok dependencies)
    (hrest : (stopMachine cfg stateJournal).Finishes (undisturbed call)
      { s with runtimeDependencies := some dependencies.isSome } [.readGateway call.payload] [] r) :
    (stopMachine cfg stateJournal).Finishes (undisturbed call) s
      [.readDependencies call.payload] [] r := by
  unfold ensureDependencies at hdeps
  cases hw : w.runtimeDependencies with
  | some d =>
      rw [hw] at hdeps
      cases hdeps
      have hs : s.runtimeDependencies = some dependencies.isSome := by rw [h.dependencies, hw]; rfl
      have hexec : (stopMachine cfg stateJournal).exec s (.readDependencies call.payload) .returns =
          some (.next s [.readGateway call.payload] []) := by
        simp [stopMachine, PushOp.exec, hs]
      rw [← hs] at hrest
      exact (finishes_next hexec).2 hrest
  | none =>
      rw [hw] at hdeps
      have hs : s.runtimeDependencies = none := by rw [h.dependencies, hw]; rfl
      have hexec : (stopMachine cfg stateJournal).exec s (.readDependencies call.payload) .returns =
          some (.next s [.initializeDependencies call.payload] []) := by
        simp [stopMachine, PushOp.exec, hs]
      cases hinit : call.initializer with
      | error e => simp [hinit, Except.map] at hdeps
      | ok hasReplay =>
          have hout : undisturbed call (.initializeDependencies call.payload) =
              .builds hasReplay := by
            simp only [undisturbed, hinit]
          have hbuilds : (stopMachine cfg stateJournal).exec s
              (.initializeDependencies call.payload)
                (undisturbed call (.initializeDependencies call.payload)) =
              some (.next { s with runtimeDependencies := some hasReplay }
                [.readGateway call.payload] []) := by
            rw [hout]
            rfl
          have hsome : dependencies.isSome = hasReplay := by
            simp only [hinit, Except.map, Except.ok.injEq] at hdeps
            subst hdeps
            cases hasReplay <;> rfl
          rw [hsome] at hrest
          exact (finishes_next hexec).2 ((finishes_next hbuilds).2 hrest)

/-- A push that nothing interrupts and that returns leaves the same service behind, with as many
events ingested as it acknowledges. -/
theorem push_finishes {w : ReplayWorker} {s : StopState} (h : Agrees w s)
    {response : PushResponse} (hreturns : (pushReplayContext cfg w call).2 = some response) :
    ∃ t : StopState, (stopMachine cfg stateJournal).Finishes (undisturbed call) s
        [.readDependencies call.payload] [] ⟨t, none, []⟩ ∧
      Agrees (pushReplayContext cfg w call).1 t ∧
      t.ingress.ingested.length = s.ingress.ingested.length + response.consumedCount := by
  unfold pushReplayContext at hreturns ⊢
  split at hreturns
  · cases hreturns
  · rename_i hdeps
    cases hreturns
    refine ⟨{ s with runtimeDependencies := some false },
      readDependencies_finishes h hdeps ?_, ⟨rfl, h.cursor, h.timestamp, h.complete⟩, rfl⟩
    exact (finishes_next rfl).2 (finishes_nil.2 rfl)
  · rename_i gateway hdeps
    simp only at hreturns ⊢
    have hcomplete : ∀ dependencies ingress, StopState.refuses cfg
        { s with runtimeDependencies := dependencies, ingress := ingress } = true ↔
          cfg.launchSpec.mode = .backtest ∧ w.backtestReplayComplete = true := by
      intro dependencies ingress
      simp [StopState.refuses, h.complete]
    split at hreturns
    · rename_i hrefuses
      cases hreturns
      rw [if_pos hrefuses]
      refine ⟨{ s with
        runtimeDependencies := some true
        ingress := s.ingress.start cfg call.payload }, readDependencies_finishes h hdeps ?_,
          ⟨rfl, rfl, h.timestamp, h.complete⟩, rfl⟩
      refine (finishes_next rfl).2 ((finishes_next rfl).2 ?_)
      have hexec : (stopMachine cfg stateJournal).exec
          { s with
            runtimeDependencies := some true
            ingress := s.ingress.start cfg call.payload }
          (.checkComplete s.ingress.batches.length call.payload) .returns =
            some (.next { s with
              runtimeDependencies := some true
              ingress := s.ingress.start cfg call.payload } [] []) := by
        simp only [stopMachine, PushOp.exec]
        rw [if_pos ((hcomplete _ _).2 hrefuses)]
      exact (finishes_next hexec).2 (finishes_nil.2 rfl)
    · rename_i hrefuses
      rw [if_neg hrefuses]
      unfold pushEvents at hreturns ⊢
      simp only at hreturns ⊢
      split at hreturns
      · cases hreturns
      · rename_i hraised
        cases hreturns
        rw [if_neg hraised]
        rcases ingestEvents_finishes stateJournal s.ingress.batches.length _ _
          { s with
            runtimeDependencies := some true
            ingress := s.ingress.start cfg call.payload } (Bool.eq_false_of_not_eq_true hraised) with
          ⟨t, hfinishes, hdeps', hcursor, htime, hend, hcount⟩
        refine ⟨t, readDependencies_finishes h hdeps ?_, ⟨hdeps', hcursor, ?_, ?_⟩, ?_⟩
        · refine (finishes_next rfl).2 ((finishes_next rfl).2 ?_)
          have hexec : (stopMachine cfg stateJournal).exec
              { s with
                runtimeDependencies := some true
                ingress := s.ingress.start cfg call.payload }
              (.checkComplete s.ingress.batches.length call.payload) .returns =
                some (.next { s with
                  runtimeDependencies := some true
                  ingress := s.ingress.start cfg call.payload }
                    [.ingestEvents s.ingress.batches.length call.payload (eventList call.payload)
                      none] []) := by
            simp only [stopMachine, PushOp.exec]
            rw [if_neg (mt (hcomplete _ _).1 hrefuses)]
          exact (finishes_next hexec).2 hfinishes
        · rw [htime, ← h.timestamp]
          rfl
        · rw [hend, ← h.complete]
        · simpa [Ingress.start, batchSimulated] using hcount

end

/-! ## Orderly steps -/

/-- A batch with admitted events is under way from the store of its cursor to that of its time. -/
def PushOp.openWeight (cfg : ReplayConfig) : PushOp → Nat
  | .checkComplete _ payload | .ingestEvents _ payload _ _ | .storeTimestamp _ payload _ =>
      if (admittedOf cfg payload).isEmpty then 0 else 1
  | _ => 0

/-- The number of batches under way. -/
def underWay (cfg : ReplayConfig) (threads : List (Thread PushOp PyError)) : Nat :=
  total (PushOp.openWeight cfg) threads

/-- The side condition on a step: no cursor is stored and no checkpoint taken while a batch is
under way, no batch with admitted events is refused, and none of its events raises. -/
def PushOp.orderly (cfg : ReplayConfig) (stateJournal : Bool) (opened : Nat) (s : StopState) :
    PushOp → PushOutcome → Bool
  | .storeCursor payload, _ => opened = 0 || (admittedOf cfg payload).isEmpty
  | .checkComplete _ payload, _ => !s.refuses cfg || (admittedOf cfg payload).isEmpty
  | .ingestEvents _ payload (event :: _) _, out =>
      match admitEvent cfg (batchSimulated payload) event with
      | .error _ => (admittedOf cfg payload).isEmpty
      | .ok none => true
      | .ok (some _) => !out.raising
  | .recordCheckpoint _ _, _ => !stateJournal || opened = 0
  | _, _ => true

def orderly (cfg : ReplayConfig) (stateJournal : Bool) (c : Config StopState PushOp PyError) :
    Move StopRequest PushOutcome → Bool
  | .request _ => true
  | .step i out =>
      match c.threads[i]? with
      | some ⟨op :: _, _⟩ => op.orderly cfg stateJournal (underWay cfg c.threads) c.shared out
      | _ => true

/-! ## Histories -/

section

variable {cfg : ReplayConfig} {g : Ingress} {payload : PyDict} {n m : Nat} {tick : ReplayTick}

theorem ingestedOf_take (g : Ingress) (n m : Nat) (tick : ReplayTick) :
    (g.take n tick).ingestedOf m = g.ingestedOf m ++ if n = m then [tick] else [] := by
  unfold Ingress.ingestedOf Ingress.take
  rw [List.filterMap_append]
  split <;> rename_i h <;> simp [h]

@[simp]
theorem ingestedOf_start (g : Ingress) (cfg : ReplayConfig) (payload : PyDict) (n : Nat) :
    (g.start cfg payload).ingestedOf n = g.ingestedOf n :=
  rfl

@[simp]
theorem lastTime_take (g : Ingress) (n : Nat) (tick : ReplayTick) :
    (g.take n tick).lastTime = (tick.2 <|> g.lastTime) := by
  simp [Ingress.lastTime, Ingress.take, List.foldl_append]

@[simp]
theorem lastCursor_start (g : Ingress) (cfg : ReplayConfig) (payload : PyDict) :
    (g.start cfg payload).lastCursor = (g.start cfg payload).lastReplayCursor := by
  simp [Ingress.lastCursor, Ingress.start]

/-- What a skipped event adds to the admitted ones, and what an admitted one does. -/
theorem admittedTicks_cons {event : PyDict} (events : List PyDict) {admitted : Option ReplayTick}
    (h : admitEvent cfg (batchSimulated payload) event = .ok admitted) :
    admittedTicks cfg payload (event :: events) =
      admitted.toList ++ admittedTicks cfg payload events := by
  unfold admittedTicks
  cases admitted <;> simp [h]

/-- The histories agree with the pair while no batch is under way. -/
structure Ingress.Settled (g : Ingress) : Prop where
  complete : ∀ n, g.Complete n
  time : g.lastTime = g.lastDataEventTimestamp

/-- Batch {lit}`n` is under way, {lit}`left` being its admitted events that are not ingested yet. -/
structure Ingress.Working (g : Ingress) (n : Nat) (left : List ReplayTick)
    (lastEffectiveSim : Option PyDateTime) : Prop where
  own : ∃ batch, g.batches[n]? = some batch ∧ batch.admitted = g.ingestedOf n ++ left
  others : ∀ m, m ≠ n → g.Complete m
  time : g.lastTime = (lastEffectiveSim <|> g.lastDataEventTimestamp)

/-- What is ingested belongs to a batch. -/
def Ingress.Placed (g : Ingress) : Prop :=
  ∀ entry ∈ g.ingested, entry.1 < g.batches.length

theorem ingestedOf_eq_nil (h : g.Placed) (hn : g.batches.length ≤ n) : g.ingestedOf n = [] := by
  unfold Ingress.ingestedOf
  rw [List.filterMap_eq_nil_iff]
  intro entry hentry
  have := h entry hentry
  rw [if_neg (by omega)]

/-- Nothing of a batch that starts was ingested. -/
theorem Ingress.Placed.start (h : g.Placed) : (g.start cfg payload).Placed := by
  intro entry hentry
  have hlt := h entry hentry
  simp only [Ingress.start, List.length_append, List.length_singleton]
  omega

theorem Ingress.Placed.take (h : g.Placed) (hn : n < g.batches.length) :
    (g.take n tick).Placed := by
  intro entry hentry
  rcases List.mem_append.1 hentry with hentry | hentry
  · exact h entry hentry
  · rw [List.mem_singleton.1 hentry]
    exact hn

/-- The batches before a new one are as complete as they were. -/
theorem complete_start (h : g.Complete m) (hm : m ≠ g.batches.length) :
    (g.start cfg payload).Complete m := by
  intro batch hbatch
  apply h batch
  simp only [Ingress.start, List.getElem?_append] at hbatch
  split at hbatch
  · exact hbatch
  · rename_i hlt
    rw [List.getElem?_eq_none (by simp; omega)] at hbatch
    cases hbatch

/-- A new batch is under way as a whole. -/
theorem Ingress.Settled.start (h : g.Settled) (hplaced : g.Placed) :
    (g.start cfg payload).Working g.batches.length (admittedOf cfg payload) none where
  own := ⟨⟨replayMeta payload "replay_cursor", admittedOf cfg payload⟩,
    by simp [Ingress.start], by simp [ingestedOf_eq_nil hplaced (Nat.le_refl _)]⟩
  others m hm := complete_start (h.complete m) hm
  time := h.time

/-- A batch without admitted events is complete at once. -/
theorem complete_start_of_nil (hplaced : g.Placed) (hnil : admittedOf cfg payload = []) :
    (g.start cfg payload).Complete g.batches.length := by
  intro batch hbatch
  have hnew : (g.start cfg payload).batches[g.batches.length]? =
      some ⟨replayMeta payload "replay_cursor", admittedOf cfg payload⟩ := by
    simp [Ingress.start]
  rw [hnew] at hbatch
  cases hbatch
  rw [hnil, ingestedOf_start]
  exact ingestedOf_eq_nil hplaced (Nat.le_refl _)

theorem Ingress.Settled.start_of_nil (h : g.Settled) (hplaced : g.Placed)
    (hnil : admittedOf cfg payload = []) : (g.start cfg payload).Settled where
  complete m := by
    by_cases hm : m = g.batches.length
    · rw [hm]
      exact complete_start_of_nil hplaced hnil
    · exact complete_start (h.complete m) hm
  time := h.time

theorem Ingress.Working.start_of_nil {left : List ReplayTick} {last : Option PyDateTime}
    (h : g.Working n left last) (hplaced : g.Placed) (hnil : admittedOf cfg payload = []) :
    (g.start cfg payload).Working n left last where
  own := by
    rcases h.own with ⟨batch, hbatch, hleft⟩
    have hlt : n < g.batches.length := (List.getElem?_eq_some_iff.1 hbatch).1
    exact ⟨batch, by simpa [Ingress.start, List.getElem?_append_left hlt] using hbatch, hleft⟩
  others m hm := by
    by_cases hnew : m = g.batches.length
    · rw [hnew]
      exact complete_start_of_nil hplaced hnil
    · exact complete_start (h.others m hm) hnew
  time := h.time

/-- The gateway takes the next admitted event of the batch. -/
theorem Ingress.Working.take {left : List ReplayTick} {last : Option PyDateTime}
    (h : g.Working n (tick :: left) last) :
    (g.take n tick).Working n left (tick.2 <|> last) where
  own := by
    rcases h.own with ⟨batch, hbatch, hleft⟩
    refine ⟨batch, hbatch, ?_⟩
    rw [ingestedOf_take, if_pos rfl, hleft]
    simp
  others m hm batch hbatch := by
    rw [ingestedOf_take, if_neg (Ne.symm hm), List.append_nil]
    exact h.others m hm batch hbatch
  time := by
    rw [lastTime_take, h.time]
    cases tick.2 <;> cases last <;> rfl

/-- The time is stored when nothing of the batch is left. -/
theorem Ingress.Working.finish {last : Option PyDateTime} (h : g.Working n [] last) :
    (g.finish last).Settled where
  complete m := by
    by_cases hm : m = n
    · subst hm
      intro batch hbatch
      rcases h.own with ⟨own, hown, hleft⟩
      obtain rfl : own = batch := Option.some.inj (hown.symm.trans hbatch)
      rw [hleft, List.append_nil]
      rfl
    · exact h.others m hm
  time := h.time

end

/-! ## What a step keeps -/

section

variable {cfg : ReplayConfig} {stateJournal : Bool}

/-- What an operation of a push knows: {lit}`left` is still to be ingested of its batch.  A batch
without admitted events changes nothing. -/
structure Carries (cfg : ReplayConfig) (g : Ingress) (n : Nat) (payload : PyDict)
    (left : List ReplayTick) (lastEffectiveSim : Option PyDateTime) : Prop where
  idle : admittedOf cfg payload = [] → left = [] ∧ lastEffectiveSim = none
  working : admittedOf cfg payload ≠ [] → g.Working n left lastEffectiveSim

def PushOp.Carried (cfg : ReplayConfig) (g : Ingress) : PushOp → Prop
  | .checkComplete n payload => Carries cfg g n payload (admittedOf cfg payload) none
  | .ingestEvents n payload events lastEffectiveSim =>
      Carries cfg g n payload (admittedTicks cfg payload events) lastEffectiveSim
  | .storeTimestamp n payload lastEffectiveSim => Carries cfg g n payload [] lastEffectiveSim
  | _ => True

/-- The pair of a state and its histories, {lit}`opened` being the number of batches under way. -/
structure Sound (opened : Nat) (s : StopState) : Prop where
  single : opened ≤ 1
  settled : opened = 0 → s.ingress.Settled
  cursor : s.ingress.lastCursor = s.ingress.lastReplayCursor
  placed : s.ingress.Placed
  covered : ∀ entry ∈ s.checkpoints, Covers entry.1 entry.2

/-- What a run keeps while its steps are orderly. -/
structure Inv (cfg : ReplayConfig) (c : Config StopState PushOp PyError) : Prop where
  short : ∀ t ∈ c.threads, t.code.length ≤ 1
  carried : ∀ t ∈ c.threads, ∀ op ∈ t.code, op.Carried cfg c.shared.ingress
  sound : Sound (underWay cfg c.threads) c.shared

/-- A batch that is not under way changes nothing. -/
theorem Carries.of_isEmpty {g g' : Ingress} {n : Nat} {payload : PyDict} {left : List ReplayTick}
    {last : Option PyDateTime} (h : Carries cfg g n payload left last)
    (hnil : (if (admittedOf cfg payload).isEmpty then 0 else 1) = 0) :
    Carries cfg g' n payload left last where
  idle := h.idle
  working hne := by simp [hne] at hnil

/-- An operation of no batch under way knows the same of every other state. -/
theorem carried_of_openWeight {op : PushOp} {g g' : Ingress} (h : op.Carried cfg g)
    (hop : op.openWeight cfg = 0) : op.Carried cfg g' := by
  cases op with
  | checkComplete n payload => exact Carries.of_isEmpty h hop
  | ingestEvents n payload events last => exact Carries.of_isEmpty h hop
  | storeTimestamp n payload last => exact Carries.of_isEmpty h hop
  | _ => trivial

/-- An operation of a batch knows as much after a batch without admitted events has started. -/
theorem carried_start_of_nil {op : PushOp} {g : Ingress} {payload : PyDict}
    (h : op.Carried cfg g) (hplaced : g.Placed) (hnil : admittedOf cfg payload = []) :
    op.Carried cfg (g.start cfg payload) := by
  cases op with
  | checkComplete n payload' =>
      exact ⟨h.idle, fun hne => (h.working hne).start_of_nil hplaced hnil⟩
  | ingestEvents n payload' events last =>
      exact ⟨h.idle, fun hne => (h.working hne).start_of_nil hplaced hnil⟩
  | storeTimestamp n payload' last =>
      exact ⟨h.idle, fun hne => (h.working hne).start_of_nil hplaced hnil⟩
  | _ => trivial

/-- No step starts a thread, and the thread goes on with what its only operation pushes. -/
theorem resume_code (eff : Effect StopState PushOp PyError) :
    ((stopMachine cfg stateJournal).resume [] eff).code = eff.pushed := by
  cases eff with
  | next s push codes => simp [resume, Effect.pushed]
  | raise s e => simp [resume, unwind, Effect.pushed]

/-- A request starts a thread of one operation that belongs to no batch. -/
theorem code_request (cfg : ReplayConfig) (r : StopRequest) :
    ∃ op, r.code = [op] ∧ op.openWeight cfg = 0 ∧ ∀ g, op.Carried cfg g := by
  cases r with
  | push payload => exact ⟨.readDependencies payload, rfl, rfl, fun _ => trivial⟩
  | stop lastClockAt stopAt =>
      exact ⟨.recordCheckpoint lastClockAt stopAt, rfl, rfl, fun _ => trivial⟩
  | dependencies deps => exact ⟨.setDependencies deps, rfl, rfl, fun _ => trivial⟩
  | driverFinished => exact ⟨.completeReplay, rfl, rfl, fun _ => trivial⟩

/-- What executing an operation keeps: {lit}`opened` batches are under way before it. -/
structure Kept (cfg : ReplayConfig) (opened : Nat) (s : StopState) (op : PushOp)
    (eff : Effect StopState PushOp PyError) : Prop where
  spawned : eff.spawned = []
  short : eff.pushed.length ≤ 1
  pushed : ∀ o ∈ eff.pushed, o.Carried cfg eff.shared.ingress
  sound : ∀ opened', opened' + op.openWeight cfg =
    opened + weigh (PushOp.openWeight cfg) eff.pushed → Sound opened' eff.shared
  others : ∀ o : PushOp, o.openWeight cfg + op.openWeight cfg ≤ opened → o.Carried cfg s.ingress →
    o.Carried cfg eff.shared.ingress

/-- A step that leaves the pair, its histories and the journal alone. -/
theorem kept_of_quiet {opened : Nat} {s s' : StopState} {op : PushOp} {push : List PushOp}
    (h : Sound opened s) (hingress : s'.ingress = s.ingress)
    (hcheckpoints : s'.checkpoints = s.checkpoints) (hshort : push.length ≤ 1)
    (hpushed : ∀ o ∈ push, o.Carried cfg s.ingress)
    (hweight : weigh (PushOp.openWeight cfg) push = op.openWeight cfg) :
    Kept cfg opened s op (.next s' push []) where
  spawned := rfl
  short := hshort
  pushed := by
    intro o ho
    simp only [Effect.shared, hingress]
    exact hpushed o ho
  sound := by
    intro opened' heq
    simp only [Effect.pushed, hweight] at heq
    obtain rfl : opened' = opened := by omega
    constructor
    · exact h.single
    · simpa only [Effect.shared, hingress] using h.settled
    · simpa only [Effect.shared, hingress] using h.cursor
    · simpa only [Effect.shared, hingress] using h.placed
    · simpa only [Effect.shared, hcheckpoints] using h.covered
  others := by
    intro o _ ho
    simpa only [Effect.shared, hingress] using ho

/-- An error outside every batch under way. -/
theorem kept_of_raise {opened : Nat} {s : StopState} {op : PushOp} (e : PyError)
    (h : Sound opened s) (hop : op.openWeight cfg = 0) : Kept cfg opened s op (.raise s e) where
  spawned := rfl
  short := Nat.zero_le 1
  pushed := by simp [Effect.pushed]
  sound := by
    intro opened' heq
    simp only [Effect.pushed, weigh_nil, hop] at heq
    obtain rfl : opened' = opened := by omega
    exact h
  others _ _ ho := ho

theorem openWeight_of_isEmpty {payload : PyDict} (h : (admittedOf cfg payload).isEmpty = true) :
    (if (admittedOf cfg payload).isEmpty then 0 else 1) = 0 := by
  rw [if_pos h]

/-- The cursor is stored while no batch is under way, or for a batch without admitted events. -/
theorem kept_storeCursor {opened : Nat} {s : StopState} {payload : PyDict} (h : Sound opened s)
    (hord : opened = 0 ∨ (admittedOf cfg payload).isEmpty = true) :
    Kept cfg opened s (.storeCursor payload)
      (.next { s with ingress := s.ingress.start cfg payload }
        [.checkComplete s.ingress.batches.length payload] []) where
  spawned := rfl
  short := Nat.le_refl 1
  pushed := by
    intro o ho
    rw [List.mem_singleton.1 ho]
    refine ⟨fun hnil => ⟨hnil, rfl⟩, fun hne => ?_⟩
    have hopened : opened = 0 := hord.resolve_right (by simpa using hne)
    exact (h.settled hopened).start h.placed
  sound := by
    intro opened' heq
    simp only [Effect.pushed, weigh_cons, weigh_nil, PushOp.openWeight] at heq
    constructor
    · rcases hord with hzero | hempty
      · split at heq <;> omega
      · rw [if_pos hempty] at heq
        have := h.single
        omega
    · intro hzero
      have hempty : (admittedOf cfg payload).isEmpty = true := by
        by_contra hne
        rw [if_neg hne] at heq
        omega
      rw [if_pos hempty] at heq
      exact (h.settled (by omega)).start_of_nil h.placed (List.isEmpty_iff.1 hempty)
    · exact lastCursor_start _ _ _
    · exact h.placed.start
    · exact h.covered
  others := by
    intro o hle ho
    rcases hord with hzero | hempty
    · exact carried_of_openWeight ho (by omega)
    · exact carried_start_of_nil ho h.placed (List.isEmpty_iff.1 hempty)

/-- The gateway takes an event of the batch under way. -/
theorem kept_take {opened n : Nat} {s : StopState} {payload event : PyDict} {events : List PyDict}
    {last : Option PyDateTime} {tick : ReplayTick} (h : Sound opened s)
    (hadmits : admitEvent cfg (batchSimulated payload) event = .ok (some tick))
    (hop : Carries cfg s.ingress n payload (admittedTicks cfg payload (event :: events)) last)
    (hopened : (PushOp.ingestEvents n payload (event :: events) last).openWeight cfg ≤ opened) :
    Kept cfg opened s (.ingestEvents n payload (event :: events) last)
      (.next { s with ingress := s.ingress.take n tick }
        [.ingestEvents n payload events (tick.2 <|> last)] []) := by
  rw [admittedTicks_cons events hadmits] at hop
  have hne : admittedOf cfg payload ≠ [] := by
    intro hnil
    exact absurd (hop.idle hnil).1 (by simp)
  have hworking := hop.working hne
  have hsingle := h.single
  have hweight : ∀ events last,
      (PushOp.ingestEvents n payload events last).openWeight cfg = 1 := by
    intro events last
    simp [PushOp.openWeight, hne]
  rw [hweight] at hopened
  constructor
  · rfl
  · exact Nat.le_refl 1
  · intro o ho
    rw [List.mem_singleton.1 ho]
    exact ⟨fun hnil => absurd hnil hne, fun _ => hworking.take⟩
  · intro opened' heq
    simp only [Effect.pushed, weigh_cons, weigh_nil, hweight] at heq
    constructor
    · omega
    · intro hzero
      omega
    · exact h.cursor
    · rcases hworking.own with ⟨batch, hbatch, -⟩
      exact h.placed.take (List.getElem?_eq_some_iff.1 hbatch).1
    · exact h.covered
  · intro o hle ho
    rw [hweight] at hle
    exact carried_of_openWeight ho (by omega)

/-- The time of the batch under way is stored. -/
theorem kept_storeTimestamp {opened n : Nat} {s : StopState} {payload : PyDict}
    {last : Option PyDateTime} (h : Sound opened s)
    (hop : Carries cfg s.ingress n payload [] last) :
    Kept cfg opened s (.storeTimestamp n payload last)
      (.next { s with ingress := s.ingress.finish last } [.finishPush payload] []) := by
  by_cases hne : admittedOf cfg payload = []
  · obtain rfl : last = none := (hop.idle hne).2
    apply kept_of_quiet h rfl rfl
    · exact Nat.le_refl 1
    · intro o ho
      rw [List.mem_singleton.1 ho]
      trivial
    · simp [PushOp.openWeight, hne]
  · have hsingle := h.single
    have hweight : (PushOp.storeTimestamp n payload last).openWeight cfg = 1 := by
      simp [PushOp.openWeight, hne]
    have hfinish : (PushOp.finishPush payload).openWeight cfg = 0 := rfl
    constructor
    · rfl
    · exact Nat.le_refl 1
    · intro o ho
      rw [List.mem_singleton.1 ho]
      trivial
    · intro opened' heq
      simp only [Effect.pushed, weigh_cons, weigh_nil, hweight, hfinish] at heq
      constructor
      · omega
      · intro _
        exact (hop.working hne).finish
      · exact h.cursor
      · exact h.placed
      · exact h.covered
    · intro o hle ho
      rw [hweight] at hle
      exact carried_of_openWeight ho (by omega)

/-- A checkpoint that is taken while no batch is under way is right. -/
theorem kept_recordCheckpoint {opened : Nat} {s : StopState} {lastClockAt : Option PyDateTime}
    {stopAt : PyDateTime} (h : Sound opened s) (hopened : opened = 0) :
    Kept cfg opened s (.recordCheckpoint lastClockAt stopAt)
      (.next { s with
        checkpoints := s.checkpoints ++ [(.managerStopRequest s.ingress.lastDataEventTimestamp
          lastClockAt s.ingress.lastReplayCursor stopAt, s.ingress)] } [] []) where
  spawned := rfl
  short := Nat.zero_le 1
  pushed := by simp [Effect.pushed]
  sound := by
    intro opened' heq
    simp only [Effect.pushed, weigh_nil, PushOp.openWeight] at heq
    obtain rfl : opened' = opened := by omega
    constructor
    · exact h.single
    · exact h.settled
    · exact h.cursor
    · exact h.placed
    · intro entry hentry
      rcases List.mem_append.1 hentry with hentry | hentry
      · exact h.covered entry hentry
      · have hsettled := h.settled hopened
        rw [List.mem_singleton.1 hentry]
        exact ⟨⟨lastClockAt, stopAt, by rw [hsettled.time, h.cursor]⟩, hsettled.complete⟩
  others _ _ ho := ho

/-- What an orderly operation keeps. -/
theorem exec_kept {opened : Nat} {s : StopState} {op : PushOp} {out : PushOutcome}
    {eff : Effect StopState PushOp PyError} (hexec : op.exec cfg stateJournal s out = some eff)
    (hord : op.orderly cfg stateJournal opened s out = true) (h : Sound opened s)
    (hop : op.Carried cfg s.ingress) (hopened : op.openWeight cfg ≤ opened) :
    Kept cfg opened s op eff := by
  have hquiet : ∀ {s' : StopState} {o : PushOp}, s'.ingress = s.ingress →
      s'.checkpoints = s.checkpoints → o.Carried cfg s.ingress →
        o.openWeight cfg = op.openWeight cfg → Kept cfg opened s op (.next s' [o] []) := by
    intro s' o hingress hcheckpoints ho hweight
    apply kept_of_quiet h hingress hcheckpoints
    · exact Nat.le_refl 1
    · intro o' ho'
      rw [List.mem_singleton.1 ho']
      exact ho
    · simpa using hweight
  have hends : ∀ {s' : StopState}, s'.ingress = s.ingress → s'.checkpoints = s.checkpoints →
      op.openWeight cfg = 0 → Kept cfg opened s op (.next s' [] []) := by
    intro s' hingress hcheckpoints hweight
    exact kept_of_quiet h hingress hcheckpoints (Nat.zero_le 1) (by simp) (by simp [hweight])
  cases op with
  | readDependencies payload =>
      simp only [PushOp.exec] at hexec
      split at hexec <;> cases hexec <;> exact hquiet rfl rfl trivial rfl
  | initializeDependencies payload =>
      cases out with
      | returns => cases hexec
      | raises e =>
          cases hexec
          exact kept_of_raise e h rfl
      | builds replay =>
          cases hexec
          exact hquiet rfl rfl trivial rfl
  | readGateway payload =>
      simp only [PushOp.exec] at hexec
      split at hexec
      · cases hexec
        exact hquiet rfl rfl trivial rfl
      · cases hexec
        exact hends rfl rfl rfl
  | storeCursor payload =>
      cases hexec
      exact kept_storeCursor h (by simpa [PushOp.orderly] using hord)
  | checkComplete n payload =>
      simp only [PushOp.exec] at hexec
      split at hexec
      · rename_i hrefuses
        cases hexec
        have hempty : (admittedOf cfg payload).isEmpty = true := by
          simpa [PushOp.orderly, hrefuses] using hord
        exact hends rfl rfl (openWeight_of_isEmpty hempty)
      · cases hexec
        exact hquiet rfl rfl hop rfl
  | ingestEvents n payload remaining last =>
      cases remaining with
      | nil =>
          cases hexec
          exact hquiet rfl rfl hop rfl
      | cons event events =>
          cases hadmits : admitEvent cfg (batchSimulated payload) event with
          | error e =>
              simp only [PushOp.exec, hadmits] at hexec
              simp only [PushOp.orderly, hadmits] at hord
              cases hexec
              exact kept_of_raise e h (openWeight_of_isEmpty hord)
          | ok admitted =>
              cases admitted with
              | none =>
                  simp only [PushOp.exec, hadmits] at hexec
                  cases hexec
                  refine hquiet rfl rfl ?_ rfl
                  have hleft := admittedTicks_cons events hadmits
                  simp only [PushOp.Carried, hleft] at hop
                  exact hop
              | some tick =>
                  have htake := kept_take h hadmits hop hopened
                  cases out with
                  | raises e => simp [PushOp.orderly, hadmits, PushOutcome.raising] at hord
                  | returns =>
                      simp only [PushOp.exec, hadmits] at hexec
                      cases hexec
                      exact htake
                  | builds replay =>
                      simp only [PushOp.exec, hadmits] at hexec
                      cases hexec
                      exact htake
  | storeTimestamp n payload last =>
      cases hexec
      exact kept_storeTimestamp h hop
  | finishPush payload =>
      cases hexec
      exact hends rfl rfl rfl
  | recordCheckpoint lastClockAt stopAt =>
      simp only [PushOp.exec] at hexec
      split at hexec
      · rename_i hjournal
        cases hexec
        exact kept_recordCheckpoint h (by simpa [PushOp.orderly, hjournal] using hord)
      · cases hexec
        exact hends rfl rfl rfl
  | setDependencies deps =>
      cases hexec
      exact hends rfl rfl rfl
  | completeReplay =>
      cases hexec
      exact hends rfl rfl rfl

/-- An orderly step keeps the invariant. -/
theorem step_inv {c d : Config StopState PushOp PyError} {l : Move StopRequest PushOutcome}
    (h : Inv cfg c) (hord : orderly cfg stateJournal c l = true)
    (hstep : (stopSystem cfg stateJournal).step c l = some d) : Inv cfg d := by
  cases l with
  | request r =>
      rcases system_step_request.1 hstep with ⟨code, hcode, rfl⟩
      obtain rfl : r.code = code := Option.some.inj hcode
      rcases code_request cfg r with ⟨op, hop, hweight, hcarried⟩
      have hnew : ∀ t ∈ c.threads ++ [Thread.fresh r.code], t ∈ c.threads ∨ t.code = [op] := by
        intro t ht
        rcases List.mem_append.1 ht with ht | ht
        · exact .inl ht
        · rw [List.mem_singleton.1 ht]
          exact .inr hop
      have htotal : underWay cfg (c.threads ++ [Thread.fresh r.code]) = underWay cfg c.threads := by
        simp [underWay, Thread.fresh, hop, hweight]
      constructor
      · intro t ht
        rcases hnew t ht with ht | ht
        · exact h.short t ht
        · rw [ht]
          exact Nat.le_refl 1
      · intro t ht o ho
        rcases hnew t ht with ht | ht
        · exact h.carried t ht o ho
        · rw [ht] at ho
          rw [List.mem_singleton.1 ho]
          exact hcarried _
      · rw [htotal]
        exact h.sound
  | step i out =>
      rcases stepThread_eq_some.1 hstep with ⟨op, rest, f, eff, hget, hexec, rfl⟩
      have hmem := List.mem_of_getElem? hget
      have hrest : rest = [] := by
        have := h.short _ hmem
        simp only [List.length_cons] at this
        exact List.length_eq_zero_iff.1 (by omega)
      subst hrest
      have hopened : op.openWeight cfg ≤ underWay cfg c.threads := by
        have hle := weigh_le_total (w := PushOp.openWeight cfg) hget
        simpa [underWay] using hle
      simp only [orderly, hget] at hord
      have hkept := exec_kept hexec hord h.sound (h.carried _ hmem op List.mem_cons_self) hopened
      have htotal := total_set (w := PushOp.openWeight cfg) hget
        ((stopMachine cfg stateJournal).resume [] eff)
      rw [resume_code, weigh_cons, weigh_nil] at htotal
      rw [hkept.spawned, List.map_nil, List.append_nil]
      have hthreads : ∀ t ∈ c.threads.set i ((stopMachine cfg stateJournal).resume [] eff),
          t.code = eff.pushed ∨ ∃ j, j ≠ i ∧ c.threads[j]? = some t := by
        intro t ht
        rcases List.mem_iff_getElem?.1 ht with ⟨j, hj⟩
        rw [List.getElem?_set] at hj
        split at hj
        · split at hj
          · obtain rfl := Option.some.inj hj
            exact .inl (resume_code eff)
          · cases hj
        · rename_i hne
          exact .inr ⟨j, Ne.symm hne, hj⟩
      constructor
      · intro t ht
        rcases hthreads t ht with hcode | ⟨j, -, hgetj⟩
        · rw [hcode]
          exact hkept.short
        · exact h.short t (List.mem_of_getElem? hgetj)
      · intro t ht o ho
        rcases hthreads t ht with hcode | ⟨j, hj, hgetj⟩
        · rw [hcode] at ho
          exact hkept.pushed o ho
        · have htwo := weigh_add_le_total (w := PushOp.openWeight cfg) hgetj hget hj
          have hone := le_weigh_of_mem (w := PushOp.openWeight cfg) ho
          simp only [weigh_cons, weigh_nil] at htwo
          refine hkept.others o ?_ (h.carried t (List.mem_of_getElem? hgetj) o ho)
          unfold underWay
          omega
      · exact hkept.sound _ htotal

theorem inv_init : Inv cfg (stopSystem cfg stateJournal).init where
  short := by simp [stopSystem, system]
  carried := by simp [stopSystem, system]
  sound :=
    { single := Nat.zero_le 1
      settled := by
        refine fun _ => ⟨fun n batch hbatch => ?_, rfl⟩
        simp [stopSystem, system, stopInit] at hbatch
      cursor := rfl
      placed := by simp [Ingress.Placed, stopSystem, system, stopInit]
      covered := by simp [stopSystem, system, stopInit] }

end

/-- In a run of orderly steps every journaled pair names the last batch and the time of the last
ingested event, with every batch up to it ingested as a whole. -/
theorem checkpoints_cover_ingested (cfg : ReplayConfig) (stateJournal : Bool)
    {ls : List (Move StopRequest PushOutcome)} {c : Config StopState PushOp PyError}
    (hord : (stopSystem cfg stateJournal).Meets (fun c l => orderly cfg stateJournal c l = true)
      (stopSystem cfg stateJournal).init ls)
    (hrun : (stopSystem cfg stateJournal).run (stopSystem cfg stateJournal).init ls = some c) :
    ∀ entry ∈ c.shared.checkpoints, Covers entry.1 entry.2 := by
  have hinv := TransitionSystem.run_invariant (Inv cfg)
    (fun s l t hs hl hstep => step_inv hs hl hstep) inv_init hord hrun
  exact hinv.sound.covered

/-- A push of one bar under the cursor {lit}`c-1`. -/
def barPush : PyDict :=
  [("replay", .dict [("replay_cursor", .str "c-1")]), ("events", .list [.dict (barEvent [])])]

/-- Noon of the day of the bar. -/
def stopNoon : PyDateTime :=
  ⟨epochWall + 1773403200000000, some 0, by decide, PyDateTime.utc_offset_range⟩

/-- The push up to the store of its cursor, and a stop request. -/
def stopDuringPush : List (Move StopRequest PushOutcome) :=
  [.request (.push barPush), .step 0 .returns, .step 0 (.builds true), .step 0 .returns,
    .step 0 .returns, .request (.stop none stopNoon), .step 1 .returns]

/-- The push to its end, and a stop request. -/
def stopAfterPush : List (Move StopRequest PushOutcome) :=
  [.request (.push barPush), .step 0 .returns, .step 0 (.builds true), .step 0 .returns,
    .step 0 .returns, .step 0 .returns, .step 0 .returns, .step 0 .returns, .step 0 .returns,
    .step 0 .returns, .request (.stop none stopNoon), .step 1 .returns]

/-- The journaled pair names the batch of which nothing was ingested. -/
theorem checkpoint_before_ingest :
    ∃ c, (stopSystem hourReplay true).run (stopSystem hourReplay true).init stopDuringPush =
        some c ∧
      ∃ entry ∈ c.shared.checkpoints, ¬ Covers entry.1 entry.2 := by
  obtain ⟨c, hc⟩ : ∃ c, (stopSystem hourReplay true).run (stopSystem hourReplay true).init
      stopDuringPush = some c := Option.isSome_iff_exists.1 (by decide +kernel)
  have hcount : (((stopSystem hourReplay true).run (stopSystem hourReplay true).init
      stopDuringPush).map fun c => c.shared.checkpoints.any fun entry =>
        entry.2.ingested.isEmpty && entry.2.batches.any fun b => !b.admitted.isEmpty) =
          some true := by
    decide +kernel
  rw [hc, Option.map_some, Option.some.injEq, List.any_eq_true] at hcount
  rcases hcount with ⟨entry, hentry, hlost⟩
  refine ⟨c, hc, entry, hentry, fun hcovers => ?_⟩
  simp only [Bool.and_eq_true, List.isEmpty_iff, List.any_eq_true, Bool.not_eq_true',
    List.isEmpty_eq_false_iff] at hlost
  rcases hlost with ⟨hnone, batch, hbatch, hadmitted⟩
  rcases List.mem_iff_getElem?.1 hbatch with ⟨n, hn⟩
  have hcomplete := hcovers.2 n batch hn
  rw [Ingress.ingestedOf, hnone] at hcomplete
  exact hadmitted hcomplete.symm

/-- A stop request after the push journals its cursor and the time of its bar. -/
theorem checkpoint_after_push :
    ∃ c, (stopSystem hourReplay true).run (stopSystem hourReplay true).init stopAfterPush = some c ∧
      c.shared.checkpoints.length = 1 ∧
        ∀ entry ∈ c.shared.checkpoints, Covers entry.1 entry.2 := by
  obtain ⟨c, hc⟩ : ∃ c, (stopSystem hourReplay true).run (stopSystem hourReplay true).init
      stopAfterPush = some c := Option.isSome_iff_exists.1 (by decide +kernel)
  have hcount : (((stopSystem hourReplay true).run (stopSystem hourReplay true).init
      stopAfterPush).map fun c => c.shared.checkpoints.length) = some 1 := by
    decide +kernel
  rw [hc, Option.map_some, Option.some.injEq] at hcount
  exact ⟨c, hc, hcount, checkpoints_cover_ingested hourReplay true (by decide +kernel) hc⟩

end Application
end StrategyWorker
