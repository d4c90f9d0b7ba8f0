import StrategyWorker.Application.ReplayWindow
import StrategyWorker.Bootstrap.MarketFields

/-!
# The time of a replayed event at the strategy

{lit}`push_replay_context` takes the time of an event from the event, then from
four keys of its payload, then from the batch.  The mapper behind it reads
{lit}`ts_ms` of the payload or else {lit}`event_time`, which the ingress has set
to the one of the event, even to {lit}`None`.

Main results:

- Theorem {lit}`timeAgrees_iff`: when the mapper reads the time of the ingress.
- Theorem {lit}`mapEvent_ingressTime_iff`: an admitted event with valid fields is
  mapped to the time of the ingress exactly then.
- Theorem {lit}`mapEvent_drops_timestamp`: a bar whose time is in
  {lit}`timestamp` is consumed and never mapped.
-/

namespace StrategyWorker
namespace Application

open Library
open Library.PyText
open Domain
open Integration
open Bootstrap

/-- The kind of an event as the ingress tells it. -/
def ingressType (event : PyDict) : PyVal :=
  ((tickPayloadOf event).get "type").orElse ((tickPayloadOf event).get "event_type")

/-- The payload has no {lit}`type` of its own that is empty. -/
def TypeNotEmpty (event : PyDict) : Prop :=
  ∀ v ∈ (ownPayload event).get? "type", v.truthy = true

/-- The text in {lit}`event_time` that both sides read: that of the payload, when the event has no
timestamp, or that of the event, when the payload has none. -/
def SharesEventTime (event : PyDict) : Prop :=
  (isoText ((tickPayloadOf event).get "event_time")).isSome = true ∧
    ((ownPayload event).contains "event_time" = false ∨ envelopeTimed event = false)

/-- The time that the mapper takes from an event is the given one: an integer in {lit}`ts_ms` of the
payload, or else, when {lit}`ts_ms` is not spelled in another way, an {lit}`event_time` that both
sides read or one that denotes the same milliseconds. -/
def TimeAgrees (kind : MarketKind) (event : PyDict) (ms : Int) : Prop :=
  match (ownPayload event).get? "ts_ms" with
  | some value => coerceInt value "ts_ms" = .ok ms
  | none =>
      (pickTsMs (tickPayloadOf event)).isNone = true ∧
        (SharesEventTime event ∨
          kind.timeOf ((tickPayloadOf event).get "event_time") = .ok (some ms))

section

variable {cfg : ReplayConfig} {batchSimulated : Option PyDateTime} {event tick : PyDict}
  {t : PyDateTime} {kind : MarketKind} {ms : Int}

theorem tickPayloadOf_contains_eventTime (event : PyDict) :
    (tickPayloadOf event).contains "event_time" = true := by
  rw [PyDict.contains, tickPayloadOf_eventTime]
  rfl

/-- A text is a time for every kind of event. -/
theorem timeOf_isoText {value : PyVal} {d : PyDateTime} (hd : isoText value = some d)
    (hms : utcDatetimeToEpochMillis d = .ok ms) (kind : MarketKind) :
    kind.timeOf value = .ok (some ms) := by
  cases value with
  | str text =>
      have hparse : parseIsoText text = some d := hd
      have htext : parseIsoToTsMs (.str text) = .ok (some ms) := by
        simp [parseIsoToTsMs, hparse, hms, Except.map, raisePy]
      cases kind
      · exact barTimeOf_of_iso htext
      · exact htext
      · exact htext
  | _ => cases hd

/-- The mapper reads the time of the ingress exactly when the times agree. -/
theorem timeAgrees_iff
    (hadmitted : admitEvent cfg batchSimulated event = .ok (some (tick, some t)))
    (hms : utcDatetimeToEpochMillis t = .ok ms) :
    ReadsTime kind tick ms ↔ TimeAgrees kind event ms := by
  rcases admitEvent_eq_some hadmitted with ⟨eventTs, hextract, rfl, heffective, -⟩
  unfold ReadsTime TimeAgrees
  rw [tickPayloadOf_tsMs]
  cases (ownPayload event).get? "ts_ms" with
  | some value => exact Iff.rfl
  | none =>
      refine and_congr_right fun _ => ⟨.inr, ?_⟩
      rintro (⟨hiso, hsource⟩ | htime)
      · -- the time of the ingress is that of the text
        rcases Option.isSome_iff_exists.1 hiso with ⟨d, hd⟩
        rw [extractMarketTimestamp_of_isoText hd hsource] at hextract
        obtain rfl := Except.ok.inj hextract
        obtain rfl : t = d := by simpa using heffective
        exact timeOf_isoText hd hms kind
      · exact htime

/-! ## The type -/

/-- The type from a text in {lit}`event_type`. -/
def typeOfEventType : PyVal → Option PyVal
  | .str s => some (.str s)
  | _ => none

theorem get?_type_typeFromEventType (tickPayload : PyDict) :
    (typeFromEventType tickPayload).get? "type" =
      (tickPayload.get? "type").or (typeOfEventType (tickPayload.get "event_type")) := by
  unfold typeFromEventType PyDict.contains
  cases tickPayload.get "event_type" with
  | str s =>
      cases htype : tickPayload.get? "type" with
      | none => simp [PyDict.get?_set, typeOfEventType]
      | some v => simp [htype]
  | _ => simp [typeOfEventType]

/-- The tick payload has its own {lit}`type` or else its {lit}`event_type`. -/
theorem tickPayloadOf_type (event : PyDict) :
    (tickPayloadOf event).get? "type" =
      ((ownPayload event).get? "type").or
        (typeOfEventType ((tickPayloadOf event).get "event_type")) := by
  simp [tickPayloadOf, PyDict.get, PyDict.get?_setDefault, get?_type_typeFromEventType,
    get?_typeFromEventType]

/-- The tick payload has the type that the ingress tells unless its own one is empty. -/
theorem get_type_of_notEmpty (htype : ingressType event = .str kind.eventType)
    (hempty : TypeNotEmpty event) :
    (tickPayloadOf event).get "type" = .str kind.eventType := by
  have hne : kind.eventType ≠ "" := by cases kind <;> decide
  unfold ingressType at htype
  have hget := tickPayloadOf_type event
  cases hown : (ownPayload event).get? "type" with
  | some v =>
      have hv : (tickPayloadOf event).get "type" = v := by simp [PyDict.get, hget, hown]
      rwa [hv, PyVal.orElse, if_pos (hempty v hown), ← hv] at htype
  | none =>
      unfold PyVal.orElse at htype
      split at htype
      · exact htype
      · rename_i hfalsy
        simp [PyDict.get, hget, hown] at hfalsy
        rw [← PyDict.get, htype] at hfalsy
        simp [typeOfEventType, PyVal.truthy, hne] at hfalsy

/-- An event whose payload has an empty type is not mapped. -/
theorem mapEvent_of_typeEmpty (h : ¬ TypeNotEmpty event) (mapped : MappedEvent) :
    mapEvent (tickPayloadOf event) ≠ .ok mapped := by
  unfold TypeNotEmpty at h
  push Not at h
  rcases h with ⟨v, hv, hempty⟩
  apply mapEvent_of_emptyType (v := v)
  · rw [tickPayloadOf_type, Option.mem_def.1 hv]
    rfl
  · simpa using hempty

/-- An admitted event whose other fields are valid is mapped to the time of the ingress exactly when
its payload has no empty type and the times agree. -/
theorem mapEvent_ingressTime_iff
    (hadmitted : admitEvent cfg batchSimulated event = .ok (some (tick, some t)))
    (htype : ingressType event = .str kind.eventType) (hvalid : FieldsValid kind tick)
    (hms : utcDatetimeToEpochMillis t = .ok ms) :
    (∃ mapped, mapEvent tick = .ok mapped ∧ mapped.tsMs? = some ms) ↔
      TypeNotEmpty event ∧ TimeAgrees kind event ms := by
  rw [← timeAgrees_iff hadmitted hms]
  rcases admitEvent_eq_some hadmitted with ⟨-, -, rfl, -, -⟩
  by_cases hempty : TypeNotEmpty event
  · rw [mapEvent_iff_readsTime (get_type_of_notEmpty htype hempty)
      (tickPayloadOf_contains_eventTime event) hvalid]
    simp [hempty]
  · simp only [hempty, false_and, iff_false]
    rintro ⟨mapped, hmapped, -⟩
    exact mapEvent_of_typeEmpty hempty mapped hmapped

/-- An event with a time within the bounds that is not skipped is admitted at that time. -/
theorem admitEvent_of_time
    (hextract : extractMarketTimestamp event (tickPayloadOf event) = .ok (some t))
    (hinside : outsideBounds (backtestWindowBounds cfg.launchSpec) (some t) = false)
    (hbar : skipBacktestReplayTickForIngest (tickPayloadOf event) cfg.expectedBarTimeframe = false) :
    admitEvent cfg batchSimulated event = .ok (some (tickPayloadOf event, some t)) := by
  simp [admitEvent, hextract, hinside, hbar, bind, Except.bind, pure, Except.pure]

end

/-! ## A bar that is dropped -/

/-- A bar with the given time in its payload and as its own. -/
def timedBar (own inPayload : PyDict) : PyDict :=
  own ++ [("event_type", .str "market.bar"),
    ("payload", .dict ([("symbol", .str "AAPL"), ("open", .float (.finite 1)),
      ("high", .float (.finite 1)), ("low", .float (.finite 1)), ("close", .float (.finite 1)),
      ("volume", .float (.finite 1))] ++ inPayload))]

/-- A bar whose event has a time. -/
def eventTimedBar : PyDict :=
  timedBar [("event_time", .str "2026-03-13T11:30:00Z")] []

/-- A bar whose time is in {lit}`timestamp` of its payload. -/
def payloadTimedBar : PyDict :=
  timedBar [] [("timestamp", .str "2026-03-13T11:30:00Z")]

/-- Half past eleven. -/
def halfPastEleven : PyDateTime :=
  ⟨63908998200000000, some 0, by decide, PyDateTime.utc_offset_range⟩

theorem utcDatetimeToEpochMillis_halfPastEleven :
    utcDatetimeToEpochMillis halfPastEleven = .ok 1773401400000 := by
  decide +kernel

theorem admitEvent_eventTimedBar :
    admitEvent hourReplay none eventTimedBar =
      .ok (some (tickPayloadOf eventTimedBar, some halfPastEleven)) :=
  admitEvent_of_time (by decide +kernel) (by decide +kernel) (by decide +kernel)

theorem admitEvent_payloadTimedBar :
    admitEvent hourReplay none payloadTimedBar =
      .ok (some (tickPayloadOf payloadTimedBar, some halfPastEleven)) :=
  admitEvent_of_time (by decide +kernel) (by decide +kernel) (by decide +kernel)

theorem fieldsValid_eventTimedBar : FieldsValid .bar (tickPayloadOf eventTimedBar) where
  symbol := ⟨"AAPL", rfl, by decide⟩
  numbers := by
    simp only [MarketKind.numbers, List.forall_mem_cons, List.not_mem_nil, false_implies,
      implies_true, and_true]
    exact ⟨⟨_, rfl⟩, ⟨_, rfl⟩, ⟨_, rfl⟩, ⟨_, rfl⟩, ⟨_, rfl⟩⟩

theorem fieldsValid_payloadTimedBar : FieldsValid .bar (tickPayloadOf payloadTimedBar) where
  symbol := ⟨"AAPL", rfl, by decide⟩
  numbers := by
    simp only [MarketKind.numbers, List.forall_mem_cons, List.not_mem_nil, false_implies,
      implies_true, and_true]
    exact ⟨⟨_, rfl⟩, ⟨_, rfl⟩, ⟨_, rfl⟩, ⟨_, rfl⟩, ⟨_, rfl⟩⟩

theorem mapEvent_ingressTime_iff_eventTimedBar :
    (∃ mapped, mapEvent (tickPayloadOf eventTimedBar) = .ok mapped ∧
        mapped.tsMs? = some 1773401400000) ↔
      TypeNotEmpty eventTimedBar ∧ TimeAgrees .bar eventTimedBar 1773401400000 :=
  mapEvent_ingressTime_iff admitEvent_eventTimedBar rfl fieldsValid_eventTimedBar
    utcDatetimeToEpochMillis_halfPastEleven

/-- A bar whose time is in {lit}`timestamp` is admitted at that time and never mapped. -/
theorem mapEvent_drops_timestamp :
    ¬ ∀ (cfg : ReplayConfig) (batchSimulated : Option PyDateTime) (event tick : PyDict)
      (t : PyDateTime) (kind : MarketKind) (ms : Int),
      admitEvent cfg batchSimulated event = .ok (some (tick, some t)) →
        ingressType event = .str kind.eventType → FieldsValid kind tick →
          utcDatetimeToEpochMillis t = .ok ms →
            ∃ mapped, mapEvent tick = .ok mapped ∧ mapped.tsMs? = some ms := by
  intro hall
  rcases hall _ _ _ _ _ .bar _ admitEvent_payloadTimedBar rfl fieldsValid_payloadTimedBar
    utcDatetimeToEpochMillis_halfPastEleven with ⟨mapped, hmapped, -⟩
  have hraises : (mapEvent (tickPayloadOf payloadTimedBar)).isOk = false := by
    decide +kernel
  rw [hmapped] at hraises
  cases hraises

end Application
end StrategyWorker
