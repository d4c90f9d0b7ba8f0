import StrategyWorker.Integration.EpochTime

/-!
# The event mapper

{lit}`EventMapper.map_event` of {lit}`event_mapper.py`: it aligns the fields of
a raw payload with the names that the events use and builds a bar, quote, tick
or timer event from it, or raises.

Main results:

- Theorem {lit}`normalizePayload_tsMs`: aligning a payload leaves a time that it
  carries and otherwise takes the time from {lit}`event_time`.
- Theorem {lit}`mapEvent_tsMs`: where the time of a market event comes from.
-/

namespace StrategyWorker
namespace Bootstrap

open Library
open Library.PyText
open Library.Binary64
open Integration

/-! ## Errors and required fields -/

/-- What {lit}`map_event` raises: an {lit}`EventMappingError` with its reason and details, or an
exception of a conversion. -/
inductive MapError where
  | mapping (reason : String) (details : List (String × String))
  | py (e : PyError)
  deriving DecidableEq, Repr

def invalidFieldType (fieldName expected : String) : MapError :=
  .mapping "invalid_field_type" [("field_name", fieldName), ("expected", expected)]

def missingRequiredField (fieldName : String) : MapError :=
  .mapping "missing_required_field" [("field_name", fieldName)]

def raisePy {α : Type} : Except PyError α → Except MapError α
  | .ok a => .ok a
  | .error e => .error (.py e)

/-- {lit}`float(text)` and {lit}`int(float(text))` inside {lit}`try … except ValueError`. -/
def orInvalid {α : Type} (fieldName expected : String) : Except PyError α → Except MapError α
  | .ok a => .ok a
  | .error .valueError => .error (invalidFieldType fieldName expected)
  | .error e => .error (.py e)

/-- {lit}`item()` conversions inside {lit}`try … except Exception`. -/
def orInvalidAny {α : Type} (fieldName expected : String) : Except PyError α → Except MapError α
  | .ok a => .ok a
  | .error _ => .error (invalidFieldType fieldName expected)

def coerceFloat (value : PyVal) (fieldName : String) : Except MapError PyFloat :=
  match value with
  | .bool _ => .error (invalidFieldType fieldName "number")
  | .int n => raisePy (floatOfInt n)
  | .float f => .ok f
  | .scalar v => orInvalidAny fieldName "number" v.toFloat
  | .str s => orInvalid fieldName "number" ((PyVal.str (strip s)).toFloat)
  | _ => .error (invalidFieldType fieldName "number")

def coerceInt (value : PyVal) (fieldName : String) : Except MapError Int :=
  match value with
  | .bool _ => .error (invalidFieldType fieldName "integer")
  | .int n => .ok n
  | .float f => raisePy (intOfFloat f)
  | .scalar v => orInvalidAny fieldName "integer" v.toInt
  | .str s => orInvalid fieldName "integer" ((PyVal.str (strip s)).toFloat.bind intOfFloat)
  | _ => .error (invalidFieldType fieldName "integer")

def requireStr (rawEvent : PyDict) (fieldName : String) : Except MapError String :=
  match rawEvent.get? fieldName with
  | none => .error (missingRequiredField fieldName)
  | some (.str s) =>
      if s = "" then
        .error (.mapping "invalid_field_value"
          [("field_name", fieldName), ("message", "must_not_be_empty")])
      else .ok s
  | some _ => .error (invalidFieldType fieldName "string")

def requireInt (rawEvent : PyDict) (fieldName : String) : Except MapError Int :=
  match rawEvent.get? fieldName with
  | none => .error (missingRequiredField fieldName)
  | some value => coerceInt value fieldName

def requireFloat (rawEvent : PyDict) (fieldName : String) : Except MapError PyFloat :=
  match rawEvent.get? fieldName with
  | none => .error (missingRequiredField fieldName)
  | some value => coerceFloat value fieldName

/-! ## Fields under other names -/

/-- The last key whose lower case is the given text. -/
def lowerKey (payload : PyDict) (name : String) : Option String :=
  (payload.reverse.find? fun f => lower f.1 = name).map Prod.fst

/-- {lit}`_pick_field`. -/
def pickField (payload : PyDict) : List String → PyVal
  | [] => .none
  | name :: candidates =>
      match payload.get? name with
      | some value => value
      | none =>
          match lowerKey payload (lower name) with
          | some key => payload.get key
          | none => pickField payload candidates

/-- {lit}`if value is not None and key not in payload: payload[key] = value`. -/
def fill (payload : PyDict) (key : String) (value : PyVal) : PyDict :=
  if value.isNone || payload.contains key then payload else payload.set key value

/-- {lit}`_parse_iso_to_ts_ms`. -/
def parseIsoToTsMs (value : PyVal) : Except MapError (Option Int) :=
  match value with
  | .str s =>
      match parseIsoText s with
      | none => .ok none
      | some dt => raisePy ((utcDatetimeToEpochMillis dt).map some)
  | _ => .ok none

/-- Set {lit}`ts_ms` from a time, if there is one. -/
def setTsMs (payload : PyDict) : Option Int → PyDict
  | none => payload
  | some ms => payload.set "ts_ms" (.int ms)

/-- The time of a bar from a text or, failing that, from a number. -/
def barTimeOf (eventTime : PyVal) : Except MapError (Option Int) := do
  match ← parseIsoToTsMs eventTime with
  | some ms => return some ms
  | none =>
      if eventTime.isNone then return none
      else
        match coerceInt eventTime "ts_ms" with
        | .ok ms => return some ms
        | .error (.mapping _ _) => return none
        | .error e => .error e

def normalizeMarketBarPayload (payload : PyDict) : Except MapError PyDict := do
  let openV := pickField payload ["open", "Open", "OPEN"]
  let highV := pickField payload ["high", "High", "HIGH"]
  let lowV := pickField payload ["low", "Low", "LOW"]
  let closeV := pickField payload ["close", "Close", "CLOSE", "Adj Close", "adj_close"]
  let volV := pickField payload ["volume", "Volume", "VOLUME"]
  let symV := pickField payload ["symbol", "Symbol", "ticker", "instrument_id"]
  let tsMsV := pickField payload ["ts_ms", "TsMs"]
  let payload := fill payload "open" openV
  let payload := fill payload "high" highV
  let payload := fill payload "low" lowV
  let payload := fill payload "close" closeV
  let payload := fill payload "volume" volV
  let payload := fill payload "symbol" symV
  if tsMsV.isNone && !payload.contains "ts_ms" then
    let eventTime := pickField payload ["event_time", "timestamp", "datetime", "Date", "date"]
    return setTsMs payload (← barTimeOf eventTime)
  else return payload

/-- Quotes and ticks take their time from a text only. -/
def textTime (payload : PyDict) (tsMsV : PyVal) : Except MapError PyDict := do
  if tsMsV.isNone && !payload.contains "ts_ms" then
    let eventTime := pickField payload ["event_time", "timestamp", "datetime"]
    return setTsMs payload (← parseIsoToTsMs eventTime)
  else return payload

def normalizeMarketQuotePayload (payload : PyDict) : Except MapError PyDict :=
  let symV := pickField payload ["symbol", "Symbol", "ticker", "instrument_id"]
  let bidV := pickField payload ["bid", "bid_price", "Bid", "BID"]
  let askV := pickField payload ["ask", "ask_price", "Ask", "ASK"]
  let bidSz := pickField payload ["bid_size", "bidSize", "BidSize"]
  let askSz := pickField payload ["ask_size", "askSize", "AskSize"]
  let tsMsV := pickField payload ["ts_ms", "TsMs"]
  let payload := fill payload "symbol" symV
  let payload := fill payload "bid" bidV
  let payload := fill payload "ask" askV
  let payload := fill payload "bid_size" bidSz
  let payload := fill payload "ask_size" askSz
  textTime payload tsMsV

def normalizeMarketTickPayload (payload : PyDict) : Except MapError PyDict :=
  let symV := pickField payload ["symbol", "Symbol", "ticker", "instrument_id"]
  let priceV := pickField payload ["price", "last", "last_price", "Last", "trade_price"]
  let sizeV := pickField payload ["size", "volume", "last_size", "trade_size", "qty"]
  let tsMsV := pickField payload ["ts_ms", "TsMs"]
  let payload := fill payload "symbol" symV
  let payload := fill payload "price" priceV
  let payload := fill payload "size" sizeV
  textTime payload tsMsV

/-- {lit}`type` from a nonempty {lit}`event_type` when it is missing. -/
def alignType (payload : PyDict) : PyDict :=
  if payload.contains "type" then payload
  else
    match payload.get "event_type" with
    | .str et => if et = "" then payload else payload.set "type" (.str et)
    | _ => payload

def normalizePayload (payload : PyDict) : Except MapError PyDict :=
  let payload := alignType payload
  match payload.get "type" with
  | .str "market.bar" => normalizeMarketBarPayload payload
  | .str "market.quote" => normalizeMarketQuotePayload payload
  | .str "market.tick" => normalizeMarketTickPayload payload
  | _ => .ok payload

/-! ## Events -/

structure MarketBarEvent where
  eventType : String
  symbol : String
  opening : PyFloat
  high : PyFloat
  low : PyFloat
  close : PyFloat
  volume : PyFloat
  tsMs : Int
  deriving DecidableEq

structure MarketQuoteEvent where
  eventType : String
  symbol : String
  bid : PyFloat
  ask : PyFloat
  bidSize : PyFloat
  askSize : PyFloat
  tsMs : Int
  deriving DecidableEq

structure MarketTickEvent where
  eventType : String
  symbol : String
  price : PyFloat
  size : PyFloat
  tsMs : Int
  deriving DecidableEq

structure WireTimerEvent where
  eventType : String
  timerId : String
  scheduledAtMs : Int
  metadata : PyDict

inductive MappedEvent where
  | bar (event : MarketBarEvent)
  | quote (event : MarketQuoteEvent)
  | tick (event : MarketTickEvent)
  | timer (event : WireTimerEvent)

/-- The market time of an event; timers have none. -/
def MappedEvent.tsMs? : MappedEvent → Option Int
  | .bar event => some event.tsMs
  | .quote event => some event.tsMs
  | .tick event => some event.tsMs
  | .timer _ => none

def buildBar (eventType : String) (payload : PyDict) : Except MapError MarketBarEvent := do
  return {
    eventType
    symbol := ← requireStr payload "symbol"
    opening := ← requireFloat payload "open"
    high := ← requireFloat payload "high"
    low := ← requireFloat payload "low"
    close := ← requireFloat payload "close"
    volume := ← requireFloat payload "volume"
    tsMs := ← requireInt payload "ts_ms" }

def buildQuote (eventType : String) (payload : PyDict) : Except MapError MarketQuoteEvent := do
  return {
    eventType
    symbol := ← requireStr payload "symbol"
    bid := ← requireFloat payload "bid"
    ask := ← requireFloat payload "ask"
    bidSize := ← requireFloat payload "bid_size"
    askSize := ← requireFloat payload "ask_size"
    tsMs := ← requireInt payload "ts_ms" }

def buildTick (eventType : String) (payload : PyDict) : Except MapError MarketTickEvent := do
  return {
    eventType
    symbol := ← requireStr payload "symbol"
    price := ← requireFloat payload "price"
    size := ← requireFloat payload "size"
    tsMs := ← requireInt payload "ts_ms" }

def buildTimer (eventType : String) (payload : PyDict) : Except MapError WireTimerEvent := do
  let metadata ←
    match payload.get "metadata" with
    | .none => .ok []
    | .dict fields => .ok fields
    | _ => .error (invalidFieldType "metadata" "mapping")
  return {
    eventType
    timerId := ← requireStr payload "timer_id"
    scheduledAtMs := ← requireInt payload "scheduled_at_ms"
    metadata }

/-- {lit}`EventMapper.map_event`. -/
def mapEvent (rawEvent : PyDict) : Except MapError MappedEvent := do
  let payload ← normalizePayload rawEvent
  let eventType ← requireStr payload "type"
  if eventType = "market.bar" then return .bar (← buildBar eventType payload)
  else if eventType = "market.quote" then return .quote (← buildQuote eventType payload)
  else if eventType = "market.tick" then return .tick (← buildTick eventType payload)
  else if eventType = "timer" then return .timer (← buildTimer eventType payload)
  else .error (.mapping "unsupported_event_type" [("event_type", eventType)])

/-! ## Where the time comes from -/

/-- The time that the mapper reads from a payload with an {lit}`event_time`. -/
def readTime (rawEvent : PyDict) : Option Int :=
  match rawEvent.get? "ts_ms" with
  | some value => (coerceInt value "ts_ms").toOption
  | none => (barTimeOf (rawEvent.get "event_time")).toOption.join

theorem get?_fill (payload : PyDict) (value : PyVal) {key key' : String} (h : key ≠ key') :
    (fill payload key value).get? key' = payload.get? key' := by
  unfold fill
  split
  · rfl
  · rw [PyDict.get?_set, if_neg h]

theorem get?_alignType (payload : PyDict) {key : String} (h : "type" ≠ key) :
    (alignType payload).get? key = payload.get? key := by
  unfold alignType
  split
  · rfl
  split
  · split
    · rfl
    · rw [PyDict.get?_set, if_neg h]
  · rfl

/-- A payload that has the first candidate is read there. -/
theorem pickField_head {payload : PyDict} {name : String} (candidates : List String)
    (h : payload.contains name = true) : pickField payload (name :: candidates) = payload.get name := by
  rcases Option.isSome_iff_exists.1 h with ⟨value, hvalue⟩
  simp [pickField, PyDict.get, hvalue]

/-- A text that is a time is the time of a bar as well. -/
theorem barTimeOf_of_iso {eventTime : PyVal} {ms : Int}
    (h : parseIsoToTsMs eventTime = .ok (some ms)) : barTimeOf eventTime = .ok (some ms) := by
  simp [barTimeOf, h, bind, Except.bind, pure, Except.pure]

/-- What aligning a payload can do to its time. -/
def KeepsTime (rawEvent payload : PyDict) : Prop :=
  payload.get? "ts_ms" = rawEvent.get? "ts_ms" ∨
    ∃ ms, rawEvent.get? "ts_ms" = none ∧
      barTimeOf (rawEvent.get "event_time") = .ok (some ms) ∧
      payload.get? "ts_ms" = some (.int ms)

theorem keepsTime_setTsMs {rawEvent payload : PyDict} {time : Option Int}
    (hts : payload.get? "ts_ms" = rawEvent.get? "ts_ms") (hnone : payload.contains "ts_ms" = false)
    (htime : ∀ ms, time = some ms → barTimeOf (rawEvent.get "event_time") = .ok (some ms)) :
    KeepsTime rawEvent (setTsMs payload time) := by
  cases time with
  | none => exact .inl hts
  | some ms =>
      right
      refine ⟨ms, ?_, htime ms rfl, by simp [setTsMs, PyDict.get?_set]⟩
      rw [← hts]
      simpa [PyDict.contains] using hnone

theorem textTime_keepsTime {rawEvent payload payload' : PyDict} {tsMsV : PyVal}
    (hts : payload.get? "ts_ms" = rawEvent.get? "ts_ms")
    (het : payload.get? "event_time" = rawEvent.get? "event_time")
    (hcontains : rawEvent.contains "event_time" = true)
    (h : textTime payload tsMsV = .ok payload') : KeepsTime rawEvent payload' := by
  unfold textTime at h
  split at h
  · rename_i hmissing
    rcases bind_eq_ok.1 h with ⟨time, htime, h⟩
    cases h
    have hhas : payload.contains "event_time" = true := by
      rw [PyDict.contains, het]
      exact hcontains
    rw [pickField_head _ hhas] at htime
    apply keepsTime_setTsMs hts (by simpa using (Bool.and_eq_true_iff.1 hmissing).2)
    rintro ms rfl
    rw [PyDict.get, het] at htime
    exact barTimeOf_of_iso htime
  · cases h
    exact .inl hts

theorem normalizeMarketBarPayload_keepsTime {rawEvent payload payload' : PyDict}
    (hts : payload.get? "ts_ms" = rawEvent.get? "ts_ms")
    (het : payload.get? "event_time" = rawEvent.get? "event_time")
    (hcontains : rawEvent.contains "event_time" = true)
    (h : normalizeMarketBarPayload payload = .ok payload') : KeepsTime rawEvent payload' := by
  unfold normalizeMarketBarPayload at h
  simp only at h
  split at h
  · rename_i hmissing
    rcases bind_eq_ok.1 h with ⟨time, htime, h⟩
    cases h
    rw [pickField_head _ (by simpa [PyDict.contains, get?_fill, het] using hcontains)] at htime
    apply keepsTime_setTsMs
    · simpa [get?_fill] using hts
    · simpa using (Bool.and_eq_true_iff.1 hmissing).2
    · rintro ms rfl
      simpa [PyDict.get, get?_fill, het] using htime
  · cases h
    left
    simpa [get?_fill] using hts

/-- Aligning a payload leaves a time that it carries and otherwise takes the time from
{lit}`event_time`. -/
theorem normalizePayload_tsMs {rawEvent payload : PyDict}
    (hcontains : rawEvent.contains "event_time" = true)
    (h : normalizePayload rawEvent = .ok payload) : KeepsTime rawEvent payload := by
  have hts := get?_alignType rawEvent (show "type" ≠ "ts_ms" by decide)
  have het := get?_alignType rawEvent (show "type" ≠ "event_time" by decide)
  unfold normalizePayload at h
  simp only at h
  split at h
  · exact normalizeMarketBarPayload_keepsTime hts het hcontains h
  · exact textTime_keepsTime (by simpa [get?_fill] using hts) (by simpa [get?_fill] using het)
      hcontains h
  · exact textTime_keepsTime (by simpa [get?_fill] using hts) (by simpa [get?_fill] using het)
      hcontains h
  · cases h
    exact .inl hts

/-- A required integer of an aligned payload is the time that the mapper reads. -/
theorem readTime_of_requireInt {rawEvent payload : PyDict} {ms : Int}
    (hkeeps : KeepsTime rawEvent payload) (h : requireInt payload "ts_ms" = .ok ms) :
    readTime rawEvent = some ms := by
  unfold requireInt at h
  unfold readTime
  rcases hkeeps with hsame | ⟨ms', hnone, htime, hset⟩
  · rw [hsame] at h
    split at h
    · cases h
    · rename_i value hvalue
      simp [hvalue, h, Except.toOption]
  · rw [hset] at h
    have hms : ms' = ms := by simpa [coerceInt] using h
    simp [hnone, htime, hms, Except.toOption]

theorem buildBar_tsMs {eventType : String} {payload : PyDict} {event : MarketBarEvent}
    (h : buildBar eventType payload = .ok event) : requireInt payload "ts_ms" = .ok event.tsMs := by
  unfold buildBar at h
  simp only [bind_eq_ok] at h
  rcases h with ⟨_, _, _, _, _, _, _, _, _, _, _, _, tsMs, htime, h⟩
  cases h
  exact htime

theorem buildQuote_tsMs {eventType : String} {payload : PyDict} {event : MarketQuoteEvent}
    (h : buildQuote eventType payload = .ok event) :
    requireInt payload "ts_ms" = .ok event.tsMs := by
  unfold buildQuote at h
  simp only [bind_eq_ok] at h
  rcases h with ⟨_, _, _, _, _, _, _, _, _, _, tsMs, htime, h⟩
  cases h
  exact htime

theorem buildTick_tsMs {eventType : String} {payload : PyDict} {event : MarketTickEvent}
    (h : buildTick eventType payload = .ok event) : requireInt payload "ts_ms" = .ok event.tsMs := by
  unfold buildTick at h
  simp only [bind_eq_ok] at h
  rcases h with ⟨_, _, _, _, _, _, tsMs, htime, h⟩
  cases h
  exact htime

/-- The time of a market event is the one that the mapper reads. -/
theorem mapEvent_tsMs {rawEvent : PyDict} {event : MappedEvent} {ms : Int}
    (hcontains : rawEvent.contains "event_time" = true) (h : mapEvent rawEvent = .ok event)
    (hms : event.tsMs? = some ms) : readTime rawEvent = some ms := by
  unfold mapEvent at h
  rcases bind_eq_ok.1 h with ⟨payload, hpayload, h⟩
  rcases bind_eq_ok.1 h with ⟨eventType, -, h⟩
  have hkeeps := normalizePayload_tsMs hcontains hpayload
  apply readTime_of_requireInt hkeeps
  split at h
  · rcases bind_eq_ok.1 h with ⟨bar, hbar, h⟩
    cases h
    cases hms
    exact buildBar_tsMs hbar
  split at h
  · rcases bind_eq_ok.1 h with ⟨quote, hquote, h⟩
    cases h
    cases hms
    exact buildQuote_tsMs hquote
  split at h
  · rcases bind_eq_ok.1 h with ⟨tick, htick, h⟩
    cases h
    cases hms
    exact buildTick_tsMs htick
  split at h
  · rcases bind_eq_ok.1 h with ⟨timer, -, h⟩
    cases h
    cases hms
  · cases h

end Bootstrap
end StrategyWorker
