import StrategyWorker.Bootstrap.EventMapper

/-!
# Bars, quotes and ticks alike

The three kinds of market payloads are aligned in one way: every required field
is filled from the first of its names that the payload has, and then the time is
looked for.  The mapper takes a payload whose fields can be read exactly when it
reads a time.

Main results:

- Theorem {lit}`normalizePayload_market`: the three kinds as one.
- Theorem {lit}`mapEvent_iff_readsTime`: which time a payload with valid fields
  is mapped to.
-/

namespace StrategyWorker
namespace Bootstrap

open Library
open Library.Binary64
open Integration

inductive MarketKind where
  | bar
  | quote
  | tick
  deriving DecidableEq, Repr

namespace MarketKind

def eventType : MarketKind → String
  | bar => "market.bar"
  | quote => "market.quote"
  | tick => "market.tick"

/-- The numbers of an event, each with the names that it may have in a payload. -/
def numbers : MarketKind → List (String × List String)
  | bar =>
      [("open", ["open", "Open", "OPEN"]), ("high", ["high", "High", "HIGH"]),
        ("low", ["low", "Low", "LOW"]),
        ("close", ["close", "Close", "CLOSE", "Adj Close", "adj_close"]),
        ("volume", ["volume", "Volume", "VOLUME"])]
  | quote =>
      [("bid", ["bid", "bid_price", "Bid", "BID"]), ("ask", ["ask", "ask_price", "Ask", "ASK"]),
        ("bid_size", ["bid_size", "bidSize", "BidSize"]),
        ("ask_size", ["ask_size", "askSize", "AskSize"])]
  | tick =>
      [("price", ["price", "last", "last_price", "Last", "trade_price"]),
        ("size", ["size", "volume", "last_size", "trade_size", "qty"])]

def symbolField : String × List String :=
  ("symbol", ["symbol", "Symbol", "ticker", "instrument_id"])

/-- The fields in the order in which the mapper fills them. -/
def fields : MarketKind → List (String × List String)
  | bar => bar.numbers ++ [symbolField]
  | quote => symbolField :: quote.numbers
  | tick => symbolField :: tick.numbers

/-- The time of a payload without {lit}`ts_ms`: a bar also takes a number. -/
def timeOf : MarketKind → PyVal → Except MapError (Option Int)
  | bar => barTimeOf
  | quote | tick => parseIsoToTsMs

/-- The names of the time besides {lit}`ts_ms`. -/
def timeNames : MarketKind → List String
  | bar => ["event_time", "timestamp", "datetime", "Date", "date"]
  | quote | tick => ["event_time", "timestamp", "datetime"]

end MarketKind

/-! ## Filled fields -/

/-- A field is filled with what the payload has under its names. -/
def fillPicked (rawEvent payload : PyDict) (field : String × List String) : PyDict :=
  fill payload field.1 (pickField rawEvent field.2)

def filled (kind : MarketKind) (rawEvent : PyDict) : PyDict :=
  kind.fields.foldl (fillPicked rawEvent) rawEvent

/-- The fields have different names, and each is looked for under its own name first. -/
def OwnNamesFirst (fields : List (String × List String)) : Prop :=
  (fields.map Prod.fst).Nodup ∧ ∀ field ∈ fields, field.2.head? = some field.1

instance (fields : List (String × List String)) : Decidable (OwnNamesFirst fields) :=
  inferInstanceAs (Decidable (_ ∧ _))

theorem MarketKind.ownNamesFirst (kind : MarketKind) : OwnNamesFirst kind.fields := by
  cases kind <;> decide

theorem get?_fill_self (payload : PyDict) (key : String) (value : PyVal) :
    (fill payload key value).get? key =
      if value.isNone then payload.get? key else some ((payload.get? key).getD value) := by
  unfold fill PyDict.contains
  cases hvalue : value.isNone with
  | true => simp
  | false =>
      cases hkey : payload.get? key with
      | none => simp [PyDict.get?_set]
      | some v => simp [hkey]

theorem get?_foldl_of_notMem (rawEvent : PyDict) {fields : List (String × List String)}
    {key : String} (h : key ∉ fields.map Prod.fst) (payload : PyDict) :
    (fields.foldl (fillPicked rawEvent) payload).get? key = payload.get? key := by
  induction fields generalizing payload with
  | nil => rfl
  | cons field fields ih =>
      simp only [List.map_cons, List.mem_cons, not_or] at h
      rw [List.foldl_cons, ih h.2, fillPicked, get?_fill _ _ (Ne.symm h.1)]

theorem get?_foldl_of_mem (rawEvent : PyDict) {fields : List (String × List String)}
    (hnodup : (fields.map Prod.fst).Nodup) {field : String × List String} (h : field ∈ fields)
    (payload : PyDict) :
    (fields.foldl (fillPicked rawEvent) payload).get? field.1 =
      (fillPicked rawEvent payload field).get? field.1 := by
  induction fields generalizing payload with
  | nil => cases h
  | cons first fields ih =>
      rw [List.map_cons, List.nodup_cons] at hnodup
      rw [List.foldl_cons]
      rcases List.mem_cons.1 h with rfl | h
      · exact get?_foldl_of_notMem rawEvent hnodup.1 _
      · have hne : first.1 ≠ field.1 :=
          fun heq => hnodup.1 (heq ▸ List.mem_map_of_mem h)
        rw [ih hnodup.2 h, fillPicked, get?_fill_self, fillPicked, get?_fill _ _ hne, fillPicked,
          get?_fill_self]

/-- A filled field holds what was picked, if anything was. -/
theorem get_filled {kind : MarketKind} {field : String × List String} (h : field ∈ kind.fields)
    (rawEvent : PyDict) : (filled kind rawEvent).get field.1 = pickField rawEvent field.2 := by
  rcases kind.ownNamesFirst with ⟨hnodup, hhead⟩
  rw [PyDict.get, filled, get?_foldl_of_mem rawEvent hnodup h, fillPicked, get?_fill_self]
  cases hnames : field.2 with
  | nil => simpa [hnames] using hhead field h
  | cons name names =>
      obtain rfl : name = field.1 := by simpa [hnames] using hhead field h
      cases hown : rawEvent.get? field.1 with
      | some v =>
          have hpick : pickField rawEvent (field.1 :: names) = v := by simp [pickField, hown]
          cases v <;> simp [hpick, PyVal.isNone]
      | none => cases hpick : pickField rawEvent (field.1 :: names) <;> simp [PyVal.isNone]

theorem get?_filled_of_notMem {kind : MarketKind} {key : String}
    (h : key ∉ kind.fields.map Prod.fst) (rawEvent : PyDict) :
    (filled kind rawEvent).get? key = rawEvent.get? key :=
  get?_foldl_of_notMem rawEvent h rawEvent

/-! ## Fields that can be read -/

/-- The symbol of the payload is a text that is not empty, and its numbers can be read. -/
structure FieldsValid (kind : MarketKind) (rawEvent : PyDict) : Prop where
  symbol : ∃ s, pickField rawEvent MarketKind.symbolField.2 = .str s ∧ s ≠ ""
  numbers : ∀ field ∈ kind.numbers, ∃ x, coerceFloat (pickField rawEvent field.2) field.1 = .ok x

/-- A payload is read field by field through its values. -/
theorem requireFloat_of_get {payload : PyDict} {name : String} {x : PyFloat}
    (h : coerceFloat (payload.get name) name = .ok x) : requireFloat payload name = .ok x := by
  unfold PyDict.get at h
  unfold requireFloat
  cases hvalue : payload.get? name with
  | none => simp [hvalue, coerceFloat] at h
  | some v => simpa [hvalue] using h

theorem requireStr_of_get {payload : PyDict} {name s : String} (h : payload.get name = .str s)
    (hne : s ≠ "") : requireStr payload name = .ok s := by
  unfold PyDict.get at h
  unfold requireStr
  cases hvalue : payload.get? name with
  | none => simp [hvalue] at h
  | some v =>
      obtain rfl : v = .str s := by simpa [hvalue] using h
      simp [hne]

/-! ## The time -/

/-- {lit}`ts_ms` under one of its names. -/
def pickTsMs (rawEvent : PyDict) : PyVal :=
  pickField rawEvent ["ts_ms", "TsMs"]

/-- Look for a time when the payload has no {lit}`ts_ms` under any of its names. -/
def alignTime (kind : MarketKind) (rawEvent payload : PyDict) : Except MapError PyDict := do
  if (pickTsMs rawEvent).isNone && !payload.contains "ts_ms" then
    return setTsMs payload (← kind.timeOf (pickField payload kind.timeNames))
  else return payload

theorem contains_of_get_str {payload : PyDict} {key s : String} (h : payload.get key = .str s) :
    payload.contains key = true := by
  unfold PyDict.get at h
  unfold PyDict.contains
  cases hvalue : payload.get? key with
  | none => simp [hvalue] at h
  | some v => rfl

/-- The three kinds of market payloads are aligned alike. -/
theorem normalizePayload_market {kind : MarketKind} {rawEvent : PyDict}
    (h : rawEvent.get "type" = .str kind.eventType) :
    normalizePayload rawEvent = alignTime kind rawEvent (filled kind rawEvent) := by
  have halign : alignType rawEvent = rawEvent := by
    rw [alignType, if_pos (contains_of_get_str h)]
  cases kind <;> simp only [normalizePayload, halign, h, MarketKind.eventType] <;> rfl

/-- The time that the mapper reads from a payload with an {lit}`event_time`. -/
def ReadsTime (kind : MarketKind) (rawEvent : PyDict) (ms : Int) : Prop :=
  match rawEvent.get? "ts_ms" with
  | some value => coerceInt value "ts_ms" = .ok ms
  | none =>
      (pickTsMs rawEvent).isNone = true ∧ kind.timeOf (rawEvent.get "event_time") = .ok (some ms)

section

variable {kind : MarketKind} {rawEvent payload : PyDict} {ms : Int}

theorem get?_filled_tsMs (kind : MarketKind) (rawEvent : PyDict) :
    (filled kind rawEvent).get? "ts_ms" = rawEvent.get? "ts_ms" :=
  get?_filled_of_notMem (by cases kind <;> decide) rawEvent

theorem get?_filled_eventTime (kind : MarketKind) (rawEvent : PyDict) :
    (filled kind rawEvent).get? "event_time" = rawEvent.get? "event_time" :=
  get?_filled_of_notMem (by cases kind <;> decide) rawEvent

theorem get?_filled_type (kind : MarketKind) (rawEvent : PyDict) :
    (filled kind rawEvent).get? "type" = rawEvent.get? "type" :=
  get?_filled_of_notMem (by cases kind <;> decide) rawEvent

/-- The time is looked for in {lit}`event_time` first. -/
theorem pickField_timeNames (kind : MarketKind) (h : payload.contains "event_time" = true) :
    pickField payload kind.timeNames = payload.get "event_time" := by
  cases kind <;> exact pickField_head _ h

/-- Setting the time leaves the other fields alone. -/
theorem get?_alignTime {p : PyDict} (h : alignTime kind rawEvent payload = .ok p) {key : String}
    (hkey : "ts_ms" ≠ key) : PyDict.get? p key = payload.get? key := by
  unfold alignTime at h
  split at h
  · rcases bind_eq_ok.1 h with ⟨time, -, h⟩
    obtain rfl := Except.ok.inj h
    cases time with
    | none => rfl
    | some ms => rw [setTsMs, PyDict.get?_set, if_neg hkey]
  · obtain rfl := Except.ok.inj h
    rfl

/-- A payload is aligned to one with a valid {lit}`ts_ms` exactly when the mapper reads a time. -/
theorem alignTime_readsTime (hcontains : rawEvent.contains "event_time" = true) :
    (∃ p, alignTime kind rawEvent (filled kind rawEvent) = .ok p ∧
        requireInt p "ts_ms" = .ok ms) ↔ ReadsTime kind rawEvent ms := by
  have hfilled : (filled kind rawEvent).contains "event_time" = true := by
    rw [PyDict.contains, get?_filled_eventTime]
    exact hcontains
  have hpick := pickField_timeNames kind hfilled
  rw [PyDict.get, get?_filled_eventTime, ← PyDict.get] at hpick
  have hts := get?_filled_tsMs kind rawEvent
  unfold alignTime ReadsTime
  rw [hpick, PyDict.contains, hts]
  cases hown : rawEvent.get? "ts_ms" with
  | some value => simp [requireInt, hts, hown, pure, Except.pure]
  | none =>
      cases hnone : (pickTsMs rawEvent).isNone with
      | false => simp [requireInt, hts, hown, pure, Except.pure]
      | true =>
          cases htime : kind.timeOf (rawEvent.get "event_time") with
          | error e => simp [bind, Except.bind]
          | ok time =>
              cases time with
              | none =>
                  simp [bind, Except.bind, pure, Except.pure, setTsMs, requireInt, hts, hown]
              | some ms' =>
                  simp [bind, Except.bind, pure, Except.pure, setTsMs, requireInt,
                    PyDict.get?_set, coerceInt]

/-! ## Mapped events -/

/-- The builder of a kind. -/
def MarketKind.build : MarketKind → PyDict → Except MapError MappedEvent
  | .bar, payload => (buildBar "market.bar" payload).map .bar
  | .quote, payload => (buildQuote "market.quote" payload).map .quote
  | .tick, payload => (buildTick "market.tick" payload).map .tick

/-- The mapper aligns a market payload and builds the event. -/
theorem mapEvent_market (h : rawEvent.get "type" = .str kind.eventType) :
    mapEvent rawEvent = (alignTime kind rawEvent (filled kind rawEvent)).bind kind.build := by
  unfold mapEvent
  rw [normalizePayload_market h]
  cases halign : alignTime kind rawEvent (filled kind rawEvent) with
  | error e => rfl
  | ok p =>
      have htype : requireStr p "type" = .ok kind.eventType := by
        apply requireStr_of_get
        · rw [PyDict.get, get?_alignTime halign (by decide), get?_filled_type, ← PyDict.get, h]
        · cases kind <;> decide
      simp only [bind, Except.bind, htype]
      cases kind <;>
        simp only [MarketKind.eventType, MarketKind.build, String.reduceEq, if_true, if_false,
          Except.map, pure, Except.pure]

/-- A payload with an empty {lit}`type` of its own is not mapped. -/
theorem mapEvent_of_emptyType {v : PyVal} (h : rawEvent.get? "type" = some v)
    (hempty : v.truthy = false) (mapped : MappedEvent) : mapEvent rawEvent ≠ .ok mapped := by
  have halign : alignType rawEvent = rawEvent := by
    rw [alignType, if_pos (by simp [PyDict.contains, h])]
  have hnormalize : normalizePayload rawEvent = .ok rawEvent := by
    simp only [normalizePayload, halign, PyDict.get, h, Option.getD_some]
    split <;> first | rfl | simp [PyVal.truthy] at hempty
  have hrequire : ∀ s, requireStr rawEvent "type" ≠ .ok s := by
    intro s
    unfold requireStr
    rw [h]
    cases v with
    | str s' =>
        obtain rfl : s' = "" := by simpa [PyVal.truthy] using hempty
        simp
    | _ => simp
  intro hmapped
  unfold mapEvent at hmapped
  rw [hnormalize] at hmapped
  rcases bind_eq_ok.1 hmapped with ⟨payload, hpayload, hmapped⟩
  obtain rfl := Except.ok.inj hpayload
  rcases bind_eq_ok.1 hmapped with ⟨s, hs, -⟩
  exact hrequire s hs

/-- A builder whose other fields can be read depends on the time only. -/
theorem build_readsTime {p : PyDict} (hvalid : FieldsValid kind rawEvent)
    (hfields : ∀ field ∈ kind.fields, p.get field.1 = pickField rawEvent field.2) :
    (∃ mapped, kind.build p = .ok mapped ∧ mapped.tsMs? = some ms) ↔
      requireInt p "ts_ms" = .ok ms := by
  have hsymbol : ∃ s, requireStr p "symbol" = .ok s := by
    rcases hvalid.symbol with ⟨s, hs, hne⟩
    refine ⟨s, requireStr_of_get ((hfields MarketKind.symbolField ?_).trans hs) hne⟩
    cases kind <;> decide
  have hnumber : ∀ field ∈ kind.numbers, ∃ x, requireFloat p field.1 = .ok x := by
    intro field hfield
    rcases hvalid.numbers field hfield with ⟨x, hx⟩
    refine ⟨x, requireFloat_of_get ?_⟩
    rw [hfields field ?_, hx]
    cases kind <;> simp [MarketKind.fields, hfield]
  rcases hsymbol with ⟨s, hs⟩
  cases kind with
  | bar =>
      simp only [MarketKind.numbers, List.forall_mem_cons] at hnumber
      rcases hnumber with ⟨⟨o, ho⟩, ⟨hi, hhi⟩, ⟨lo, hlo⟩, ⟨c, hc⟩, ⟨v, hv⟩, -⟩
      cases htime : requireInt p "ts_ms" <;>
        simp [MarketKind.build, buildBar, hs, ho, hhi, hlo, hc, hv, htime, bind, Except.bind,
          Except.map, pure, Except.pure, MappedEvent.tsMs?]
  | quote =>
      simp only [MarketKind.numbers, List.forall_mem_cons] at hnumber
      rcases hnumber with ⟨⟨b, hb⟩, ⟨a, ha⟩, ⟨bs, hbs⟩, ⟨as, has⟩, -⟩
      cases htime : requireInt p "ts_ms" <;>
        simp [MarketKind.build, buildQuote, hs, hb, ha, hbs, has, htime, bind, Except.bind,
          Except.map, pure, Except.pure, MappedEvent.tsMs?]
  | tick =>
      simp only [MarketKind.numbers, List.forall_mem_cons] at hnumber
      rcases hnumber with ⟨⟨pr, hpr⟩, ⟨sz, hsz⟩, -⟩
      cases htime : requireInt p "ts_ms" <;>
        simp [MarketKind.build, buildTick, hs, hpr, hsz, htime, bind, Except.bind, Except.map,
          pure, Except.pure, MappedEvent.tsMs?]

/-- A payload whose fields can be read is mapped to the time that the mapper reads. -/
theorem mapEvent_iff_readsTime (htype : rawEvent.get "type" = .str kind.eventType)
    (hcontains : rawEvent.contains "event_time" = true) (hvalid : FieldsValid kind rawEvent) :
    (∃ mapped, mapEvent rawEvent = .ok mapped ∧ mapped.tsMs? = some ms) ↔
      ReadsTime kind rawEvent ms := by
  rw [mapEvent_market htype, ← alignTime_readsTime hcontains]
  cases halign : alignTime kind rawEvent (filled kind rawEvent) with
  | error e => simp [Except.bind]
  | ok p =>
      have hfields : ∀ field ∈ kind.fields, p.get field.1 = pickField rawEvent field.2 := by
        intro field hfield
        have hne : "ts_ms" ≠ field.1 := by
          rintro heq
          have hmem : "ts_ms" ∈ kind.fields.map Prod.fst := heq ▸ List.mem_map_of_mem hfield
          revert hmem
          cases kind <;> decide
        rw [PyDict.get, get?_alignTime halign hne, ← PyDict.get, get_filled hfield]
      have hbuild : (∃ mapped, kind.build p = .ok mapped ∧ mapped.tsMs? = some ms) ↔ _ :=
        build_readsTime hvalid hfields
      simpa [Except.bind] using hbuild

end

end Bootstrap
end StrategyWorker
