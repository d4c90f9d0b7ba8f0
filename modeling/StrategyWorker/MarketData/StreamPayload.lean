import StrategyWorker.Integration.EpochTime
import StrategyWorker.Library.PyJson

/-!
# From stream payloads to ticks

The converters of {lit}`market_data_redis_feed`: a payload is read as JSON, the
stream decides between bar, trade and quote, and the fields of the object are
coerced with {lit}`str(...)` and {lit}`float(...)`.  A field that cannot be
used is dropped with a reason; the coercions stand outside every handler.

Main results:

- Theorem {lit}`messageToTick_returns_iff`: a converter returns exactly when the
  time stays within the calendar in UTC and, for a message that is not dropped,
  every number of the message converts.
- Theorem {lit}`payload_returns_iff`: parsing and classification of a payload
  return exactly when the payload is harmless.
- Theorem {lit}`classify_reason`: a field that is dropped is dropped with one of
  five reasons.
-/

namespace StrategyWorker
namespace MarketData

open Library
open Library.PyText
open Library.PyJson
open Integration

/-! ## Stream keys -/

/-- {lit}`MarketDataRedisKeys`. -/
structure MarketDataRedisKeys where
  streamTrades : String := "md:stream:trades"
  streamQuotes : String := "md:stream:quotes"
  streamBars1m : String := "md:stream:am"

/-- The feeds that have a converter. -/
inductive StreamFamily where
  | bars
  | trades
  | quotes
  deriving DecidableEq, Repr

/-- {lit}`_stream_feed_matches`. -/
def streamFeedMatches (streamName streamBase : String) : Bool :=
  streamName = streamBase || (streamBase ++ ":").toList.isPrefixOf streamName.toList

/-- The first family whose stream prefix matches. -/
def streamFamily (keys : MarketDataRedisKeys) (stream : String) : Option StreamFamily :=
  if streamFeedMatches stream keys.streamBars1m then some .bars
  else if streamFeedMatches stream keys.streamTrades then some .trades
  else if streamFeedMatches stream keys.streamQuotes then some .quotes
  else none

/-! ## Converters -/

/-- The text that {lit}`_time_utc_to_epoch_ms` hands to {lit}`fromisoformat`. -/
def normalizeTimeUtc (raw : String) : String :=
  let text := replaceZulu raw
  if endsWith text "+00" ∧ ¬ endsWith text "+00:00" then dropRight text 3 ++ "+00:00" else text

/-- The datetime of a {lit}`time_utc`, if it is one. -/
def parseTimeUtc (timeUtc : String) : Option PyDateTime :=
  if strip timeUtc = "" then none
  else PyDateTime.fromisoformat (normalizeTimeUtc (strip timeUtc))

/-- {lit}`_time_utc_to_epoch_ms`. -/
def timeUtcToEpochMs (timeUtc : String) : Except PyError (Option Int) :=
  match parseTimeUtc timeUtc with
  | none => .ok none
  | some dt =>
      match astimezoneUtc dt.naiveAsUtc with
      | .error e => .error e
      | .ok utc =>
          match utcDatetimeToEpochMillis utc with
          | .error e => .error e
          | .ok tsMs => .ok (some tsMs)

/-- {lit}`str(obj.get("time_utc") or "").strip()`. -/
def timeOf (obj : PyDict) : String :=
  strip ((obj.get "time_utc").orElse (.str "")).text

/-- {lit}`str(obj.get("symbol") or field).strip()`. -/
def symbolOf (obj : PyDict) (field : String) : String :=
  strip ((obj.get "symbol").orElse (.str field)).text

/-- {lit}`float(obj.get(key) or 0.0)`. -/
def numberOf (obj : PyDict) (key : String) : Except PyError PyVal :=
  match ((obj.get key).orElse (.float (.finite 0))).toFloat with
  | .error e => .error e
  | .ok f => .ok (.float f)

/-- The numbers of a tick, one after the other. -/
def numbersOf (obj : PyDict) : List (String × String) → Except PyError PyDict
  | [] => .ok []
  | (key, source) :: numbers =>
      match numberOf obj source with
      | .error e => .error e
      | .ok value =>
          match numbersOf obj numbers with
          | .error e => .error e
          | .ok values => .ok ((key, value) :: values)

/-- What a converter puts into its tick. -/
structure TickShape where
  eventType : String
  idPrefix : String
  constants : PyDict
  /-- Keys of the tick, each with the key of the message it is read from. -/
  numbers : List (String × String)

/-- The body that the three converters share. -/
def messageToTick (shape : TickShape) (obj : PyDict) (streamId field : String) :
    Except PyError (Option PyDict) :=
  match timeUtcToEpochMs (timeOf obj) with
  | .error e => .error e
  | .ok none => .ok none
  | .ok (some tsMs) =>
      if symbolOf obj field = "" then .ok none
      else
        match numbersOf obj shape.numbers with
        | .error e => .error e
        | .ok values =>
            .ok (some ([("type", .str shape.eventType), ("event_type", .str shape.eventType),
              ("event_id", .str (shape.idPrefix ++ streamId ++ ":" ++ field)),
              ("symbol", .str (symbolOf obj field)), ("instrument_id", .str (symbolOf obj field))] ++
              shape.constants ++ values ++
              [("ts_ms", .int tsMs), ("event_time", .str (timeOf obj))]))

/-- {lit}`(bar_timeframe or "1m").strip() or "1m"`. -/
def timeframeOf (barTimeframe : String) : String :=
  let tf := strip (if barTimeframe = "" then "1m" else barTimeframe)
  if tf = "" then "1m" else tf

/-- The tick of {lit}`bar_message_to_tick`. -/
def barShape (barTimeframe : String) : TickShape where
  eventType := "market.bar"
  idPrefix := "md:bar:"
  constants := [("timeframe", .str (timeframeOf barTimeframe))]
  numbers := [("open", "open"), ("high", "high"), ("low", "low"), ("close", "close"),
    ("volume", "volume")]

/-- {lit}`bar_message_to_tick`. -/
def barMessageToTick (barTimeframe : String) : PyDict → String → String →
    Except PyError (Option PyDict) :=
  messageToTick (barShape barTimeframe)

/-- The tick of {lit}`trade_message_to_tick`. -/
def tradeShape : TickShape where
  eventType := "market.tick"
  idPrefix := "md:trade:"
  constants := []
  numbers := [("price", "price"), ("size", "size")]

/-- {lit}`trade_message_to_tick`. -/
def tradeMessageToTick : PyDict → String → String → Except PyError (Option PyDict) :=
  messageToTick tradeShape

/-- The tick of {lit}`quote_message_to_tick`. -/
def quoteShape : TickShape where
  eventType := "market.quote"
  idPrefix := "md:quote:"
  constants := []
  numbers := [("bid", "bid_price"), ("ask", "ask_price"), ("bid_size", "bid_size"),
    ("ask_size", "ask_size")]

/-- {lit}`quote_message_to_tick`. -/
def quoteMessageToTick : PyDict → String → String → Except PyError (Option PyDict) :=
  messageToTick quoteShape

/-! ## Payloads -/

/-- The exceptions that leave {lit}`stream_payload_to_tick`. -/
inductive PayloadError where
  | conversion (e : PyError)
  | json (e : LoadsError)
  deriving DecidableEq, Repr

/-- What the feed is configured with, as far as payloads depend on it, and the nesting that the
interpreter still allows to {lit}`json.loads` when a field is processed. -/
structure PayloadConfig where
  keys : MarketDataRedisKeys
  barTimeframe : String
  room : Nat

/-- The converter that a stream selects. -/
def converterOf (cfg : PayloadConfig) :
    StreamFamily → PyDict → String → String → Except PyError (Option PyDict)
  | .bars => barMessageToTick cfg.barTimeframe
  | .trades => tradeMessageToTick
  | .quotes => quoteMessageToTick

/-- {lit}`stream_payload_to_tick`, called with {lit}`room`. -/
def streamPayloadToTick (cfg : PayloadConfig) (room : Nat)
    (stream redisField rawJson messageId : String) : Except PayloadError (Option PyDict) :=
  match loads room rawJson with
  | .error .jsonDecodeError => .ok none
  | .error e => .error (.json e)
  | .ok (.dict obj) =>
      match streamFamily cfg.keys stream with
      | none => .ok none
      | some family =>
          match converterOf cfg family obj messageId redisField with
          | .error e => .error (.conversion e)
          | .ok tick => .ok tick
  | .ok _ => .ok none

/-- {lit}`classify_stream_payload_failure`: it reads the payload again, and calls
{lit}`stream_payload_to_tick` one frame deeper. -/
def classifyStreamPayloadFailure (cfg : PayloadConfig)
    (stream redisField rawJson messageId : String) : Except PayloadError (Option String) :=
  if strip rawJson = "" then .ok (some "empty_payload")
  else
    match loads cfg.room rawJson with
    | .error .jsonDecodeError => .ok (some "json_decode_error")
    | .error e => .error (.json e)
    | .ok (.dict _) =>
        match streamFamily cfg.keys stream with
        | none => .ok (some "unknown_stream_family")
        | some _ =>
            match streamPayloadToTick cfg (cfg.room - 1) stream redisField rawJson messageId with
            | .error e => .error e
            | .ok none => .ok (some "validation_failed_time_or_symbol")
            | .ok (some _) => .ok none
    | .ok _ => .ok (some "payload_not_object")

/-! ## When the conversions return -/

/-- The values that {lit}`float(value or 0.0)` accepts: false ones, truth values, floats, integers
in the range of floats, and texts that are numerals. -/
def Convertible : PyVal → Prop
  | .none | .bool _ | .float _ => True
  | .int n => |Binary64.fl n| < floatLimit
  | .str s => s = "" ∨ (floatOfText s).isSome
  | .scalar v => v.truthy → ∃ f, v.toFloat = .ok f
  | .datetime _ => False
  | .list vs => vs = []
  | .dict fields => fields = []

/-- The conversion of a number returns exactly on these values. -/
theorem numberOf_returns_iff (obj : PyDict) (key : String) :
    (∃ value, numberOf obj key = .ok value) ↔ Convertible (obj.get key) := by
  unfold numberOf PyVal.orElse
  cases obj.get key with
  | none => simp [PyVal.truthy, PyVal.toFloat, Convertible]
  | bool b => cases b <;> simp [PyVal.truthy, PyVal.toFloat, Convertible]
  | int n =>
      by_cases hn : n = 0
      · subst hn
        simp [PyVal.truthy, PyVal.toFloat, Convertible, Binary64.fl, floatLimit]
      · by_cases hlimit : |Binary64.fl n| < floatLimit <;>
          simp [PyVal.truthy, PyVal.toFloat, Convertible, floatOfInt, hn, hlimit]
  | float f =>
      by_cases hf : f = .finite 0 <;> simp [PyVal.truthy, PyVal.toFloat, Convertible, hf]
  | str s =>
      by_cases hs : s = ""
      · simp [PyVal.truthy, PyVal.toFloat, Convertible, hs]
      · cases htext : floatOfText s <;>
          simp [PyVal.truthy, PyVal.toFloat, Convertible, hs, htext]
  | datetime d => simp [PyVal.truthy, PyVal.toFloat, Convertible]
  | scalar v =>
      cases htruthy : v.truthy with
      | false => simp [PyVal.truthy, PyVal.toFloat, Convertible, htruthy]
      | true => cases hv : v.toFloat <;> simp [PyVal.truthy, PyVal.toFloat, Convertible, htruthy, hv]
  | list vs => cases vs <;> simp [PyVal.truthy, PyVal.toFloat, Convertible]
  | dict fields => cases fields <;> simp [PyVal.truthy, PyVal.toFloat, Convertible]

theorem numbersOf_returns_iff (obj : PyDict) (numbers : List (String × String)) :
    (∃ values, numbersOf obj numbers = .ok values) ↔
      ∀ n ∈ numbers, Convertible (obj.get n.2) := by
  induction numbers with
  | nil => simp [numbersOf]
  | cons n numbers ih =>
      obtain ⟨key, source⟩ := n
      rw [List.forall_mem_cons, ← ih, ← numberOf_returns_iff, numbersOf]
      cases numberOf obj source with
      | error e => simp
      | ok value => cases numbersOf obj numbers <;> simp

/-- The time of a message can be brought to UTC, if it is a time at all. -/
def TimeInRange (timeUtc : String) : Prop :=
  ∀ dt ∈ parseTimeUtc timeUtc, dt.naiveAsUtc.astimezoneUtc.isSome

/-- UTC is in the range of the calendar, and stays there. -/
theorem utcDatetimeToEpochMillis_of_utc {dt utc : PyDateTime} (h : astimezoneUtc dt = .ok utc) :
    ∃ tsMs, utcDatetimeToEpochMillis utc = .ok tsMs := by
  rcases PyDateTime.ofWall?_eq_some (astimezoneUtc_eq_ok_iff.1 h) with ⟨-, hoffset⟩
  have hnaive : utc.naiveAsUtc = utc := by simp [PyDateTime.naiveAsUtc, hoffset]
  have hself : utc.astimezoneUtc.isSome := by
    have hwall := utc.wall_range
    have hoff : -microsPerDay < 0 ∧ 0 < microsPerDay := by decide
    simp [PyDateTime.astimezoneUtc, PyDateTime.ofWall?, hoffset, hwall, hoff]
  rcases Option.isSome_iff_exists.1 hself with ⟨u, hu⟩
  refine ⟨epochMillis u.instant, ?_⟩
  rw [utcDatetimeToEpochMillis, hnaive, astimezoneUtc_eq_ok_iff.2 hu]
  rfl

/-- The time of a message is read without an exception exactly when it stays in range. -/
theorem timeUtcToEpochMs_returns_iff (timeUtc : String) :
    (∃ ms, timeUtcToEpochMs timeUtc = .ok ms) ↔ TimeInRange timeUtc := by
  unfold timeUtcToEpochMs TimeInRange
  cases parseTimeUtc timeUtc with
  | none => simp
  | some dt =>
      dsimp only
      cases hutc : astimezoneUtc dt.naiveAsUtc with
      | error e =>
          have hnone : dt.naiveAsUtc.astimezoneUtc = none := by
            cases hsome : dt.naiveAsUtc.astimezoneUtc with
            | none => rfl
            | some utc => simp [astimezoneUtc_eq_ok_iff.2 hsome] at hutc
          simp [hnone]
      | ok utc =>
          rcases utcDatetimeToEpochMillis_of_utc hutc with ⟨tsMs, hms⟩
          simp [hms, astimezoneUtc_eq_ok_iff.1 hutc]

/-- A message without a readable time or without a symbol is dropped. -/
def Dropped (obj : PyDict) (field : String) : Prop :=
  parseTimeUtc (timeOf obj) = none ∨ symbolOf obj field = ""

instance (obj : PyDict) (field : String) : Decidable (Dropped obj field) :=
  inferInstanceAs (Decidable (_ ∨ _))

theorem timeUtcToEpochMs_eq_none_iff (timeUtc : String) :
    timeUtcToEpochMs timeUtc = .ok none ↔ parseTimeUtc timeUtc = none := by
  unfold timeUtcToEpochMs
  cases parseTimeUtc timeUtc with
  | none => simp
  | some dt =>
      dsimp only
      cases astimezoneUtc dt.naiveAsUtc with
      | error e => simp
      | ok utc =>
          dsimp only
          cases utcDatetimeToEpochMillis utc <;> simp

/-- A converter drops a message, as far as it returns, exactly without time or symbol. -/
theorem messageToTick_eq_none_iff (shape : TickShape) (obj : PyDict) (streamId field : String)
    (htime : TimeInRange (timeOf obj)) :
    messageToTick shape obj streamId field = .ok none ↔ Dropped obj field := by
  rcases (timeUtcToEpochMs_returns_iff _).2 htime with ⟨ms, hms⟩
  have hnone := timeUtcToEpochMs_eq_none_iff (timeOf obj)
  unfold messageToTick Dropped
  rw [hms] at hnone ⊢
  cases ms with
  | none => simp [hnone.1 rfl]
  | some tsMs =>
      have htime : parseTimeUtc (timeOf obj) ≠ none := fun h => by simpa using hnone.2 h
      dsimp only
      split
      · rename_i hsym
        simp [hsym]
      · rename_i hsym
        cases numbersOf obj shape.numbers <;> simp [hsym, htime]

/-- A converter returns exactly when the time stays in range and the numbers of a message that is
not dropped convert. -/
theorem messageToTick_returns_iff (shape : TickShape) (obj : PyDict) (streamId field : String) :
    (∃ tick, messageToTick shape obj streamId field = .ok tick) ↔
      TimeInRange (timeOf obj) ∧
        (¬ Dropped obj field → ∀ n ∈ shape.numbers, Convertible (obj.get n.2)) := by
  rw [← timeUtcToEpochMs_returns_iff, ← numbersOf_returns_iff]
  have hnone := timeUtcToEpochMs_eq_none_iff (timeOf obj)
  unfold messageToTick Dropped
  cases hms : timeUtcToEpochMs (timeOf obj) with
  | error e => simp
  | ok ms =>
      rw [hms] at hnone
      cases ms with
      | none => simp [hnone.1 rfl]
      | some tsMs =>
          have htime : parseTimeUtc (timeOf obj) ≠ none := fun h => by simpa using hnone.2 h
          dsimp only
          split
          · rename_i hsym
            simp [hsym]
          · rename_i hsym
            cases numbersOf obj shape.numbers <;> simp [hsym, htime]

/-! ## When a payload is read and classified -/

/-- Parsing a payload returns, and so does the classification when the field is dropped. -/
def PayloadReturns (cfg : PayloadConfig) (stream redisField rawJson messageId : String) : Prop :=
  ∃ tick, streamPayloadToTick cfg cfg.room stream redisField rawJson messageId = .ok tick ∧
    (tick = none →
      ∃ reason, classifyStreamPayloadFailure cfg stream redisField rawJson messageId = .ok reason)

/-- {lit}`PayloadReturns` as a test. -/
def payloadReturns (cfg : PayloadConfig) (stream redisField rawJson messageId : String) : Bool :=
  match streamPayloadToTick cfg cfg.room stream redisField rawJson messageId with
  | .error _ => false
  | .ok (some _) => true
  | .ok none =>
      match classifyStreamPayloadFailure cfg stream redisField rawJson messageId with
      | .error _ => false
      | .ok _ => true

theorem payloadReturns_iff (cfg : PayloadConfig) (stream redisField rawJson messageId : String) :
    payloadReturns cfg stream redisField rawJson messageId = true ↔
      PayloadReturns cfg stream redisField rawJson messageId := by
  unfold payloadReturns PayloadReturns
  cases streamPayloadToTick cfg cfg.room stream redisField rawJson messageId with
  | error e => simp
  | ok tick =>
      cases tick with
      | some tick => simp
      | none => cases classifyStreamPayloadFailure cfg stream redisField rawJson messageId <;> simp

instance (cfg : PayloadConfig) (stream redisField rawJson messageId : String) :
    Decidable (PayloadReturns cfg stream redisField rawJson messageId) :=
  decidable_of_iff _ (payloadReturns_iff cfg stream redisField rawJson messageId)

/-- The numbers of a message of this family. -/
def StreamFamily.numbers : StreamFamily → List (String × String)
  | .bars => (barShape "").numbers
  | .trades => tradeShape.numbers
  | .quotes => quoteShape.numbers

/-- An object that a converter can use or drop: its time stays within the calendar in UTC, its
numbers convert unless it is dropped, and when it is dropped there is room to read it again. -/
def HarmlessObject (cfg : PayloadConfig) (family : StreamFamily) (obj : PyDict)
    (redisField rawJson : String) : Prop :=
  TimeInRange (timeOf obj) ∧
    (¬ Dropped obj redisField → ∀ n ∈ family.numbers, Convertible (obj.get n.2)) ∧
    (Dropped obj redisField → loads (cfg.room - 1) rawJson ≠ .error .recursionError)

/-- A payload that cannot do harm: {lit}`json.loads` raises nothing but
{lit}`JSONDecodeError`, and an object on a stream of a known family is harmless. -/
def HarmlessPayload (cfg : PayloadConfig) (stream redisField rawJson : String) : Prop :=
  match loads cfg.room rawJson with
  | .error e => e = .jsonDecodeError
  | .ok (.dict obj) =>
      ∀ family ∈ streamFamily cfg.keys stream, HarmlessObject cfg family obj redisField rawJson
  | .ok _ => True

theorem converterOf_eq (cfg : PayloadConfig) (family : StreamFamily) :
    ∃ shape, converterOf cfg family = messageToTick shape ∧ shape.numbers = family.numbers := by
  cases family with
  | bars => exact ⟨barShape cfg.barTimeframe, rfl, rfl⟩
  | trades => exact ⟨tradeShape, rfl, rfl⟩
  | quotes => exact ⟨quoteShape, rfl, rfl⟩

theorem converterOf_returns_iff (cfg : PayloadConfig) (family : StreamFamily) (obj : PyDict)
    (streamId field : String) :
    (∃ tick, converterOf cfg family obj streamId field = .ok tick) ↔
      TimeInRange (timeOf obj) ∧
        (¬ Dropped obj field → ∀ n ∈ family.numbers, Convertible (obj.get n.2)) := by
  rcases converterOf_eq cfg family with ⟨shape, hshape, hnumbers⟩
  rw [hshape, ← hnumbers]
  exact messageToTick_returns_iff shape obj streamId field

theorem converterOf_eq_none_iff (cfg : PayloadConfig) (family : StreamFamily) (obj : PyDict)
    (streamId field : String) (htime : TimeInRange (timeOf obj)) :
    converterOf cfg family obj streamId field = .ok none ↔ Dropped obj field := by
  rcases converterOf_eq cfg family with ⟨shape, hshape, -⟩
  rw [hshape]
  exact messageToTick_eq_none_iff shape obj streamId field htime

/-- Reading again with one frame less yields the same object, unless there is no room. -/
theorem loads_again {room : Nat} {rawJson : String} {v : PyVal} (h : loads room rawJson = .ok v)
    (hroom : loads (room - 1) rawJson ≠ .error .recursionError) :
    loads (room - 1) rawJson = .ok v := by
  cases room with
  | zero => exact h
  | succ room =>
      rcases loads_of_room_succ room rawJson with heq | heq
      · exact heq.trans h
      · exact absurd heq hroom

/-- A payload that holds a value is not blank. -/
theorem strip_ne_empty_of_loads {room : Nat} {rawJson : String} {v : PyVal}
    (h : loads room rawJson = .ok v) : strip rawJson ≠ "" := by
  intro hblank
  simp [loads_of_spaces room (isSpace_of_strip_eq_empty hblank)] at h

section

variable {cfg : PayloadConfig} {stream redisField rawJson messageId : String} {obj : PyDict}
  {family : StreamFamily}

/-- Parsing an object of a known family is its conversion. -/
theorem streamPayloadToTick_of_object {room : Nat} (hloads : loads room rawJson = .ok (.dict obj))
    (hfamily : streamFamily cfg.keys stream = some family) :
    streamPayloadToTick cfg room stream redisField rawJson messageId =
      match converterOf cfg family obj messageId redisField with
      | .error e => .error (.conversion e)
      | .ok tick => .ok tick := by
  simp only [streamPayloadToTick, hloads, hfamily]

/-- The classification of an object of a known family parses it again. -/
theorem classify_of_object (hloads : loads cfg.room rawJson = .ok (.dict obj))
    (hfamily : streamFamily cfg.keys stream = some family) :
    classifyStreamPayloadFailure cfg stream redisField rawJson messageId =
      match streamPayloadToTick cfg (cfg.room - 1) stream redisField rawJson messageId with
      | .error e => .error e
      | .ok none => .ok (some "validation_failed_time_or_symbol")
      | .ok (some _) => .ok none := by
  rw [classifyStreamPayloadFailure, if_neg (strip_ne_empty_of_loads hloads)]
  simp only [hloads, hfamily]

/-- The classification of a dropped object returns exactly when there is room to read it again. -/
theorem classify_returns_iff (hloads : loads cfg.room rawJson = .ok (.dict obj))
    (hfamily : streamFamily cfg.keys stream = some family)
    (hnone : converterOf cfg family obj messageId redisField = .ok none) :
    (∃ reason, classifyStreamPayloadFailure cfg stream redisField rawJson messageId =
        .ok reason) ↔ loads (cfg.room - 1) rawJson ≠ .error .recursionError := by
  rw [classify_of_object hloads hfamily]
  by_cases hroom : loads (cfg.room - 1) rawJson = .error .recursionError
  · simp [streamPayloadToTick, hroom]
  · simp [streamPayloadToTick_of_object (loads_again hloads hroom) hfamily, hnone, hroom]

/-- An object of a known family is parsed and classified without an exception exactly when it is
harmless. -/
theorem object_returns_iff (hloads : loads cfg.room rawJson = .ok (.dict obj))
    (hfamily : streamFamily cfg.keys stream = some family) :
    PayloadReturns cfg stream redisField rawJson messageId ↔
      HarmlessObject cfg family obj redisField rawJson := by
  have hconverter := converterOf_returns_iff cfg family obj messageId redisField
  unfold PayloadReturns HarmlessObject
  rw [streamPayloadToTick_of_object hloads hfamily, ← and_assoc, ← hconverter]
  cases hconv : converterOf cfg family obj messageId redisField with
  | error e => simp
  | ok tick =>
      have htime := (hconverter.1 ⟨tick, hconv⟩).1
      have hdropped := converterOf_eq_none_iff cfg family obj messageId redisField htime
      rw [hconv] at hdropped
      have hreason (hnone : tick = none) :
          (∃ reason, classifyStreamPayloadFailure cfg stream redisField rawJson messageId =
            .ok reason) ↔ loads (cfg.room - 1) rawJson ≠ .error .recursionError := by
        subst hnone
        exact classify_returns_iff hloads hfamily hconv
      have hnone : Dropped obj redisField ↔ tick = none := by
        rw [← hdropped, Except.ok.injEq]
      rw [hnone]
      constructor
      · intro h
        rcases h with ⟨tick', htick, hclassify⟩
        obtain rfl : tick = tick' := by simpa using htick
        exact ⟨⟨tick, rfl⟩, fun hn => (hreason hn).1 (hclassify hn)⟩
      · intro h
        exact ⟨tick, rfl, fun hn => (hreason hn).2 (h.2 hn)⟩

/-- Parsing and classification of a payload return exactly when the payload is harmless. -/
theorem payload_returns_iff (cfg : PayloadConfig) (stream redisField rawJson messageId : String) :
    PayloadReturns cfg stream redisField rawJson messageId ↔
      HarmlessPayload cfg stream redisField rawJson := by
  unfold HarmlessPayload
  cases hloads : loads cfg.room rawJson with
  | error e =>
      cases e <;> simp [PayloadReturns, streamPayloadToTick, classifyStreamPayloadFailure, hloads]
      split <;> simp
  | ok v =>
      have hstrip := strip_ne_empty_of_loads hloads
      cases v with
      | dict obj =>
          dsimp only
          cases hfamily : streamFamily cfg.keys stream with
          | none =>
              simp [PayloadReturns, streamPayloadToTick, classifyStreamPayloadFailure, hloads,
                hfamily, hstrip]
          | some family => simpa using object_returns_iff hloads hfamily
      | _ =>
          simp [PayloadReturns, streamPayloadToTick, classifyStreamPayloadFailure, hloads, hstrip]

/-- A field that is dropped is dropped with one of five reasons. -/
theorem classify_reason {reason : Option String}
    (htick : streamPayloadToTick cfg cfg.room stream redisField rawJson messageId = .ok none)
    (h : classifyStreamPayloadFailure cfg stream redisField rawJson messageId = .ok reason) :
    ∃ r ∈ ["empty_payload", "json_decode_error", "payload_not_object", "unknown_stream_family",
      "validation_failed_time_or_symbol"], reason = some r := by
  unfold classifyStreamPayloadFailure at h
  split at h
  · exact ⟨_, by simp, (Except.ok.inj h).symm⟩
  cases hloads : loads cfg.room rawJson with
  | error e => cases e <;> simp [hloads] at h ⊢ <;> simp [← h]
  | ok v =>
      cases v with
      | dict obj =>
          cases hfamily : streamFamily cfg.keys stream with
          | none =>
              simp only [hloads, hfamily] at h
              exact ⟨_, by simp, (Except.ok.inj h).symm⟩
          | some family =>
              -- the second reading finds the object of the first
              rw [streamPayloadToTick_of_object hloads hfamily] at htick
              simp only [hloads, hfamily] at h
              by_cases hroom : loads (cfg.room - 1) rawJson = .error .recursionError
              · simp [streamPayloadToTick, hroom] at h
              · rw [streamPayloadToTick_of_object (loads_again hloads hroom) hfamily, htick] at h
                exact ⟨_, by simp, (Except.ok.inj h).symm⟩
      | _ =>
          simp only [hloads] at h
          exact ⟨_, by simp, (Except.ok.inj h).symm⟩

end

end MarketData
end StrategyWorker
