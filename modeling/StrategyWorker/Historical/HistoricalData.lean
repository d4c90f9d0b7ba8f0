import StrategyWorker.Integration.EpochTime
import StrategyWorker.Library.Binary64

/-!
# The client side of the historical data service

Requests and responses of {lit}`QueryHistoricalData` as the runtime uses them,
{lit}`build_query_historical_request`, and
{lit}`build_historical_bar_replay_tick`, which turns a bar into the tick that
the strategy receives or rejects it.
-/

namespace StrategyWorker
namespace Historical

open Library
open Library.PyText
open Library.Binary64
open Integration

/-! ## Messages -/

/-- A bar of a response. -/
structure HistoricalBar where
  instrumentId : Int
  timeUtc : String
  opening : PyFloat
  high : PyFloat
  low : PyFloat
  close : PyFloat
  volume : Int
  deriving DecidableEq

/-- The part of the response metadata that the driver reads; an unset cursor is empty. -/
structure ResultMetadata where
  hasMore : Bool
  nextCursor : String
  deriving DecidableEq

/-- A page of bars. -/
structure QueryHistoricalDataResponse where
  bars : List HistoricalBar
  metadata : Option ResultMetadata
  deriving DecidableEq

/-- A request; the data type is always bars. -/
structure QueryHistoricalDataRequest where
  symbol : String
  timeframe : String
  fromUtc : String
  toUtc : String
  sort : String
  limit : Nat
  cursor : Option String
  warmupBars : Option Nat
  deriving DecidableEq

/-! ## Requests -/

/-- Launch timestamps in the text style of the service; a text that does not parse stays. -/
def utcLikeForHistoricalApi (text : String) : Except PyError String :=
  if strip text = "" then .ok (strip text)
  else
    match PyDateTime.fromisoformat (replaceZulu (strip text)) with
    | none => .ok (strip text)
    | some dt => (astimezoneUtc dt.naiveAsUtc).map fun utc => utc.strftime ++ "+00"

/-- The warmup count is set on a request without cursor. -/
def warmupField (cursor : Option String) (warmupBars : Nat) : Option Nat :=
  if 0 < warmupBars ∧ cursor = none then some warmupBars else none

/-- {lit}`build_query_historical_request`. -/
def buildQueryHistoricalRequest (symbol timeframe fromUtc toUtc : String) (limit : Nat)
    (cursor : Option String) (warmupBars : Nat) : Except PyError QueryHistoricalDataRequest := do
  let fromUtc ← utcLikeForHistoricalApi fromUtc
  let toUtc ← utcLikeForHistoricalApi toUtc
  -- an empty cursor counts as none
  let cursor := cursor.filter fun c => c ≠ ""
  -- both counts are 32 bit fields of the message
  if 2 ^ 32 ≤ max 1 limit ∨ 2 ^ 32 ≤ (warmupField cursor warmupBars).getD 0 then .error .valueError
  else
    return {
      symbol, timeframe, fromUtc, toUtc, sort := "asc", limit := max 1 limit, cursor,
      warmupBars := warmupField cursor warmupBars }

/-- What a request that could be built is made of. -/
theorem buildQueryHistoricalRequest_ok {symbol timeframe fromUtc toUtc : String} {limit : Nat}
    {cursor : Option String} {warmupBars : Nat} {request : QueryHistoricalDataRequest}
    (h : buildQueryHistoricalRequest symbol timeframe fromUtc toUtc limit cursor warmupBars =
      .ok request) :
    (∃ text, utcLikeForHistoricalApi fromUtc = .ok text) ∧
      (∃ text, utcLikeForHistoricalApi toUtc = .ok text) ∧ max 1 limit < 2 ^ 32 ∧
      request.cursor = cursor.filter fun c => c ≠ "" := by
  unfold buildQueryHistoricalRequest at h
  cases hfrom : utcLikeForHistoricalApi fromUtc with
  | error e => simp [hfrom, bind, Except.bind] at h
  | ok textFrom =>
      cases hto : utcLikeForHistoricalApi toUtc with
      | error e => simp [hfrom, hto, bind, Except.bind] at h
      | ok textTo =>
          simp only [hfrom, hto, bind, Except.bind, pure, Except.pure] at h
          split at h
          · cases h
          · rename_i hcounts
            rw [not_or, not_le] at hcounts
            rw [← Except.ok.inj h]
            exact ⟨⟨textFrom, rfl⟩, ⟨textTo, rfl⟩, hcounts.1, rfl⟩

/-- A follow-up request asks for no warmup and can be built when the first one could. -/
theorem buildQueryHistoricalRequest_followUp {symbol timeframe fromUtc toUtc : String}
    {limit : Nat} {first : QueryHistoricalDataRequest} {cursor : Option String} {warmupBars : Nat}
    (h : buildQueryHistoricalRequest symbol timeframe fromUtc toUtc limit cursor warmupBars =
      .ok first) (next : Option String) :
    ∃ request, buildQueryHistoricalRequest symbol timeframe fromUtc toUtc limit next 0 =
      .ok request := by
  rcases buildQueryHistoricalRequest_ok h with ⟨⟨textFrom, hfrom⟩, ⟨textTo, hto⟩, hlimit, -⟩
  have hcounts : ¬ (2 ^ 32 ≤ max 1 limit ∨
      2 ^ 32 ≤ (warmupField (next.filter fun c => c ≠ "") 0).getD 0) := by
    rw [not_or, not_le]
    exact ⟨hlimit, by simp [warmupField]⟩
  unfold buildQueryHistoricalRequest
  simp only [hfrom, hto, bind, Except.bind, pure, Except.pure]
  exact ⟨_, if_neg hcounts⟩

/-! ## Ticks -/

/-- The replay tick of a bar. -/
structure HistoricalTick where
  type : String
  eventType : String
  eventId : String
  symbol : String
  instrumentId : String
  timeframe : String
  opening : PyFloat
  high : PyFloat
  low : PyFloat
  close : PyFloat
  volume : PyFloat
  tsMs : Int
  eventTime : String
  deriving DecidableEq

/-- {lit}`_historical_time_utc_to_epoch_ms`; {lit}`none` when the text has no time. -/
def historicalTimeUtcToEpochMs (timeUtc : String) : Except PyError (Option Int) :=
  let raw := strip timeUtc
  if raw = "" then .ok none
  else
    let text := replaceZulu raw
    let text :=
      if endsWith text "+00" ∧ ¬ endsWith text "+00:00" then dropRight text 3 ++ "+00:00" else text
    match PyDateTime.fromisoformat text with
    | none => .ok none
    | some dt => do
        let utc ← astimezoneUtc dt.naiveAsUtc
        let ms ← utcDatetimeToEpochMillis utc
        return some ms

/-- {lit}`str(iid or "")`. -/
def instrumentIdText (iid : Int) : String :=
  if iid = 0 then "" else toString iid

/-- {lit}`build_historical_bar_replay_tick`; a {lit}`ValueError` rejects the bar. -/
def buildHistoricalBarReplayTick (bar : HistoricalBar) (symbol timeframe : String)
    (sequence : Nat) : Except PyError HistoricalTick := do
  match ← historicalTimeUtcToEpochMs bar.timeUtc with
  | none => .error .valueError
  | some tsMs =>
      return {
        type := "market.bar"
        eventType := "market.bar"
        eventId := "hds:" ++ toString bar.instrumentId ++ ":" ++ bar.timeUtc ++ ":" ++
          toString sequence
        symbol
        instrumentId := if strip symbol ≠ "" then strip symbol else instrumentIdText bar.instrumentId
        timeframe
        opening := bar.opening
        high := bar.high
        low := bar.low
        close := bar.close
        volume := PyFloat.ofInt bar.volume
        tsMs
        eventTime := bar.timeUtc }

end Historical
end StrategyWorker
