import StrategyWorker.Domain.RuntimeState
import StrategyWorker.Historical.HistoricalData
import StrategyWorker.Integration.ReplayGateway
import StrategyWorker.Library.TransitionSystem

/-!
# The historical backtest driver

{lit}`_historical_backtest_driver_worker` asks the historical data service for
one page after the other and hands every bar to the replay gateway, which sets
the simulated clock, reports the first data to the lifecycle service and calls
the strategy.

The driver reads flags that other threads write.  A label is one move of the
driver between two of these reads, the outcome of a query, or a write of
another thread.
-/

namespace StrategyWorker
namespace Historical

open Library
open Library.PyText
open Domain
open Integration

/-! ## The driver and its surroundings -/

/-- What the driver holds when its loop begins; it returns before that unless the symbol and
both bounds are there. -/
structure DriverConfig where
  symbol : String
  symbol_ne : symbol ≠ ""
  tsStart : String
  tsStart_ne : tsStart ≠ ""
  tsEnd : String
  tsEnd_ne : tsEnd ≠ ""
  mode : RuntimeMode
  /-- {lit}`_maybe_start_historical_backtest_driver` starts no driver in another mode. -/
  mode_backtest : mode = .backtest
  timeframe : String
  pageLimit : Nat
  warmupTotal : Nat
  barReplayIntervalMs : Nat
  /-- {lit}`record_first_data` of the state journal raises. -/
  journalRaises : Bool

/-- Where the driver stands. -/
inductive DriverPc where
  /-- At the outer {lit}`while`. -/
  | outer
  /-- At the inner {lit}`while`. -/
  | inner
  /-- In {lit}`client.query_historical_data`. -/
  | querying (request : QueryHistoricalDataRequest)
  /-- In {lit}`wait(1.0)`, about to ask with the same cursor. -/
  | retry
  /-- In the loop over the bars of a page, with those that are left. -/
  | page (response : QueryHistoricalDataResponse) (rest : List (HistoricalBar × Nat))
  /-- In the wait after a bar. -/
  | interval (response : QueryHistoricalDataResponse) (rest : List (HistoricalBar × Nat))
  /-- In {lit}`wait(0.25)` after an empty last page. -/
  | tail
  /-- Returned without marking the replay complete. -/
  | returned
  /-- Returned after {lit}`_backtest_replay_complete = True`. -/
  | complete
  /-- An exception has ended the thread. -/
  | raised
  deriving DecidableEq

structure DriverState where
  pc : DriverPc
  cursor : Option String
  veryFirstPage : Bool
  /-- The gateway, with the ticks that the driver has handed to {lit}`on_event` of the adapter. -/
  gateway : ReplayGateway HistoricalTick
  hdsFeedStop : Bool
  shutdownInProgress : Bool
  phase : WorkerPhase
  backtestReplayComplete : Bool

inductive DriverLabel where
  /-- The driver moves on to its next query, wait or bar. -/
  | advance
  /-- The query returns. -/
  | reply
  /-- The query raises. -/
  | fail
  /-- {lit}`_hds_feed_stop` is set. -/
  | feedStop
  /-- {lit}`_shutdown_in_progress` is set. -/
  | shutdown
  /-- The phase is set. -/
  | setPhase (phase : WorkerPhase)
  /-- Another ingress replays through the gateway. -/
  | otherFirstData
  deriving DecidableEq, Repr

/-! ## Pages -/

def QueryHistoricalDataResponse.hasMore (response : QueryHistoricalDataResponse) : Bool :=
  (response.metadata.map ResultMetadata.hasMore).getD false

/-- {lit}`str(meta.next_cursor or "").strip()`. -/
def QueryHistoricalDataResponse.nextCursor (response : QueryHistoricalDataResponse) : String :=
  (response.metadata.map fun m => strip m.nextCursor).getD ""

/-- The tick of a bar. -/
def barTick (cfg : DriverConfig) (bar : HistoricalBar × Nat) : Except PyError HistoricalTick :=
  buildHistoricalBarReplayTick bar.1 cfg.symbol cfg.timeframe bar.2

/-- The request for a cursor. -/
def requestFor (cfg : DriverConfig) (cursor : Option String) (warmupBars : Nat) :
    Except PyError QueryHistoricalDataRequest :=
  buildQueryHistoricalRequest cfg.symbol cfg.timeframe cfg.tsStart cfg.tsEnd cfg.pageLimit cursor
    warmupBars

/-! ## The loop -/

def runningPhase (phase : WorkerPhase) : Bool :=
  phase = .ready || phase = .running

/-- The loop is left at the end of the pages. -/
def finish (cfg : DriverConfig) (st : DriverState) : DriverState :=
  { st with
    pc := .complete
    backtestReplayComplete := st.backtestReplayComplete || cfg.mode = .backtest }

/-- Follow the cursor of a page, or leave the loop at the last one. -/
def followCursor (st : DriverState) (response : QueryHistoricalDataResponse) (last : DriverState) :
    DriverState :=
  if response.hasMore ∧ response.nextCursor ≠ "" then
    { st with pc := .inner, cursor := some response.nextCursor }
  else last

/-- A query has returned. -/
def enterPage (st : DriverState) (response : QueryHistoricalDataResponse) : DriverState :=
  if response.bars = [] then
    if st.gateway.firstData.received = false then { st with pc := .retry }
    else followCursor st response { st with pc := .tail }
  else
    { st with pc := .page response response.bars.zipIdx }

/-- All bars of a page have been passed. -/
def leavePage (cfg : DriverConfig) (st : DriverState) (response : QueryHistoricalDataResponse) :
    DriverState :=
  if st.gateway.firstData.received = false then { st with pc := .retry }
  else
    let st := { st with veryFirstPage := false }
    followCursor st response (finish cfg st)

/-- Where the driver goes after a replayed bar. -/
def afterBar (cfg : DriverConfig) (response : QueryHistoricalDataResponse)
    (rest : List (HistoricalBar × Nat)) : DriverPc :=
  if 0 < cfg.barReplayIntervalMs then .interval response rest else .page response rest

/-- The body of the loop over the bars. -/
def replayBar (cfg : DriverConfig) (st : DriverState) (response : QueryHistoricalDataResponse)
    (bar : HistoricalBar × Nat) (rest : List (HistoricalBar × Nat)) : DriverState :=
  match barTick cfg bar with
  | .error .valueError => { st with pc := .page response rest }
  | .error _ => { st with pc := .raised }
  | .ok tick =>
      let (gateway, raises) :=
        st.gateway.ingestReplayTick cfg.journalRaises tick (parseIsoText tick.eventTime)
      { st with gateway, pc := if raises then .raised else afterBar cfg response rest }

/-- {lit}`warmup_total if very_first_page and not cursor else 0`. -/
def warmupFor (cfg : DriverConfig) (st : DriverState) : Nat :=
  if st.veryFirstPage ∧ st.cursor = none then cfg.warmupTotal else 0

/-- The next move of the driver itself. -/
def advance (cfg : DriverConfig) (st : DriverState) : Option DriverState :=
  match st.pc with
  | .outer =>
      if st.hdsFeedStop ∨ st.shutdownInProgress ∨ runningPhase st.phase = false then
        some { st with pc := .returned }
      else some { st with pc := .inner, cursor := none }
  | .inner =>
      -- the stop event ends the loop and not the function
      if st.hdsFeedStop then some (finish cfg st)
      else if st.shutdownInProgress ∨ runningPhase st.phase = false then
        some { st with pc := .returned }
      else
        match requestFor cfg st.cursor (warmupFor cfg st) with
        | .error _ => some { st with pc := .raised }
        | .ok request => some { st with pc := .querying request }
  | .retry => some { st with pc := if st.hdsFeedStop then .returned else .inner }
  | .page response [] => some (leavePage cfg st response)
  | .page response (bar :: rest) =>
      if st.hdsFeedStop ∨ st.shutdownInProgress then some { st with pc := .returned }
      else some (replayBar cfg st response bar rest)
  | .interval response rest =>
      some { st with pc := if st.hdsFeedStop then .returned else .page response rest }
  | .tail => some (if st.hdsFeedStop then { st with pc := .returned } else finish cfg st)
  | .querying _ | .returned | .complete | .raised => none

/-- The driver over a service that serves a page for every cursor. -/
def driverStep (cfg : DriverConfig) (serve : Option String → QueryHistoricalDataResponse)
    (st : DriverState) : DriverLabel → Option DriverState
  | .advance => advance cfg st
  | .reply =>
      match st.pc with
      | .querying request => some (enterPage st (serve request.cursor))
      | _ => none
  | .fail =>
      match st.pc with
      | .querying _ => some { st with pc := .retry }
      | _ => none
  | .feedStop => some { st with hdsFeedStop := true }
  | .shutdown => some { st with shutdownInProgress := true }
  | .setPhase phase => some { st with phase }
  | .otherFirstData =>
      let firstData := st.gateway.firstData.mark cfg.journalRaises
      some { st with gateway := { st.gateway with firstData } }

/-- The driver thread begins on a worker that is READY or RUNNING. -/
def driverInit (firstData : FirstData) : DriverState where
  pc := .outer
  cursor := none
  veryFirstPage := true
  gateway := ⟨none, firstData, []⟩
  hdsFeedStop := false
  shutdownInProgress := false
  phase := .running
  backtestReplayComplete := false

def driver (cfg : DriverConfig) (serve : Option String → QueryHistoricalDataResponse)
    (firstData : FirstData) : TransitionSystem DriverState DriverLabel where
  init := driverInit firstData
  step := driverStep cfg serve

/-- The label does not belong to a worker that is being stopped. -/
def DriverLabel.keepsRunning : DriverLabel → Bool
  | .feedStop | .shutdown => false
  | .setPhase phase => runningPhase phase
  | _ => true

/-- The moves of the driver: its own and the answer to its query. -/
def DriverLabel.isMove : DriverLabel → Bool
  | .advance | .reply => true
  | _ => false

def DriverLabel.isFail : DriverLabel → Bool
  | .fail => true
  | _ => false

/-- The worker is not being stopped during the schedule. -/
def NotStopped (_ : DriverState) (l : DriverLabel) : Prop :=
  l.keepsRunning = true

end Historical
end StrategyWorker
