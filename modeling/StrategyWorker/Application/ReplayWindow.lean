import StrategyWorker.Application.PushReplay

/-!
# The launch window of a backtest

The window filter and the event mapper read the time of an event from different
fields: the filter from the event and then from its payload, the mapper from
{lit}`ts_ms` of the payload and then from its {lit}`event_time`.  A bar is
certain to lie in the launch window only where the two read the same field.

Main results:

- Theorem {lit}`filtered_inWindow`: a time that the filter has compared with the
  bounds lies in the window.
- Theorem {lit}`replayed_in_window_iff`: the replayed market events lie in the
  window exactly when the times that the filter does not read do.
- Theorem {lit}`tsMs_leaves_window`: a bar two years after the window reaches
  the strategy.
-/

namespace StrategyWorker
namespace Application

open Library
open Library.PyText
open Domain
open Integration
open Bootstrap

/-! ## The window -/

/-- The instants that the bounds of a launch denote: those that the runtime reads, where it can
read them. -/
structure Denotes (launchSpec : LaunchSpec) (lo hi : Int) : Prop where
  start : ∀ s ∈ launchSpec.tsStart, ∀ d ∈ parseIsoText s, d.instant = lo
  stop : ∀ s ∈ launchSpec.tsEnd, ∀ d ∈ parseIsoText s, d.instant = hi
  le : lo ≤ hi

/-- The closed window in milliseconds. -/
def InWindow (lo hi tsMs : Int) : Prop :=
  epochMillis lo ≤ tsMs ∧ tsMs ≤ epochMillis hi

instance (lo hi tsMs : Int) : Decidable (InWindow lo hi tsMs) :=
  inferInstanceAs (Decidable (_ ∧ _))

/-- The time of the bar, quote or tick that the mapper makes of a payload. -/
def marketTime (tick : PyDict) : Option Int :=
  (mapEvent tick).toOption.bind MappedEvent.tsMs?

/-- The market events that the mapper makes of the replayed ticks lie in the window. -/
def ReplaysInWindow (lo hi : Int) (received : List PyDict) : Prop :=
  ∀ tick ∈ received, ∀ tsMs ∈ marketTime tick, InWindow lo hi tsMs

instance (lo hi : Int) (received : List PyDict) : Decidable (ReplaysInWindow lo hi received) :=
  inferInstanceAs (Decidable (∀ _ ∈ _, ∀ _ ∈ _, _))

/-! ## Times that the filter does not read -/

/-- A value as an ISO text. -/
def isoText : PyVal → Option PyDateTime
  | .str text => parseIsoText text
  | _ => none

/-- The event itself has a timestamp, so that the filter does not look at its payload. -/
def envelopeTimed (event : PyDict) : Bool :=
  match coerceTimestamp (event.get "event_time") with
  | .ok none => false
  | _ => true

/-- The mapper reads the text that the filter compares with the bounds. -/
def readsFilteredTime (cfg : ReplayConfig) (event : PyDict) : Bool :=
  (backtestWindowBounds cfg.launchSpec).isSome &&
    !(ownPayload event).contains "ts_ms" &&
    (isoText ((tickPayloadOf event).get "event_time")).isSome &&
    (!(ownPayload event).contains "event_time" || !envelopeTimed event)

/-- The time that the mapper reads from an event behind the back of the filter: an integer in
{lit}`ts_ms`, a number in {lit}`event_time`, a text in {lit}`event_time` of the payload next to a
timestamp of the event itself, or any time when the bounds cannot be read. -/
def unfilteredTime (cfg : ReplayConfig) (event : PyDict) : Option Int :=
  if readsFilteredTime cfg event then none else readTime (tickPayloadOf event)

/-- The times that the filter does not read lie in the window. -/
def UnfilteredInWindow (cfg : ReplayConfig) (lo hi : Int) (consumed : List PyDict) : Prop :=
  ∀ event ∈ consumed, (marketTime (tickPayloadOf event)).isSome = true →
    ∀ tsMs ∈ unfilteredTime cfg event, InWindow lo hi tsMs

instance (cfg : ReplayConfig) (lo hi : Int) (consumed : List PyDict) :
    Decidable (UnfilteredInWindow cfg lo hi consumed) :=
  inferInstanceAs (Decidable (∀ _ ∈ _, _ → ∀ _ ∈ _, _))

section

variable {cfg : ReplayConfig} {lo hi : Int}

/-! ## The tick payload -/

theorem get?_typeFromEventType (tickPayload : PyDict) {key : String} (h : "type" ≠ key) :
    (typeFromEventType tickPayload).get? key = tickPayload.get? key := by
  unfold typeFromEventType
  split
  · split
    · rfl
    · rw [PyDict.get?_set, if_neg h]
  · rfl

/-- The tick payload has the {lit}`ts_ms` of the payload. -/
theorem tickPayloadOf_tsMs (event : PyDict) :
    (tickPayloadOf event).get? "ts_ms" = (ownPayload event).get? "ts_ms" := by
  simp [tickPayloadOf, PyDict.get?_setDefault, get?_typeFromEventType]

/-- The tick payload has the {lit}`event_time` of the payload or else of the event. -/
theorem tickPayloadOf_eventTime (event : PyDict) :
    (tickPayloadOf event).get? "event_time" =
      some (((ownPayload event).get? "event_time").getD (event.get "event_time")) := by
  simp only [tickPayloadOf, PyDict.get?_setDefault, get?_typeFromEventType, ne_eq,
    String.reduceEq, not_false_eq_true, if_false, if_true, Option.or_none]
  cases (ownPayload event).get? "event_time" <;> simp

/-! ## Filtered times -/

theorem coerceTimestamp_of_isoText {value : PyVal} {d : PyDateTime} (h : isoText value = some d) :
    coerceTimestamp value = .ok (some d) := by
  cases value with
  | str text =>
      have hparse : parseDatetime (.str text) = some d := h
      simp [coerceTimestamp, hparse]
  | _ => cases h

/-- A text in {lit}`event_time` is the time of an event unless the event and its payload both have
one. -/
theorem extractMarketTimestamp_of_isoText {event : PyDict} {d : PyDateTime}
    (hd : isoText ((tickPayloadOf event).get "event_time") = some d)
    (hsource : (ownPayload event).contains "event_time" = false ∨ envelopeTimed event = false) :
    extractMarketTimestamp event (tickPayloadOf event) = .ok (some d) := by
  have hcoerce := coerceTimestamp_of_isoText hd
  unfold extractMarketTimestamp
  rcases hsource with hown | henv
  · -- the payload has no time of its own and takes that of the event
    have hmissing : (ownPayload event).get? "event_time" = none := by
      simpa [PyDict.contains] using hown
    have hget : (tickPayloadOf event).get "event_time" = event.get "event_time" := by
      rw [PyDict.get, tickPayloadOf_eventTime, hmissing]
      rfl
    rw [← hget, hcoerce]
    rfl
  · -- the event has no time and the payload is asked first for its own
    have hnone : coerceTimestamp (event.get "event_time") = .ok none := by
      unfold envelopeTimed at henv
      split at henv
      · assumption
      · cases henv
    rw [hnone]
    simp [firstTimestamp, hcoerce, bind, Except.bind, pure, Except.pure]

/-- Where the mapper reads the text that the filter compares, the filter has taken its instant. -/
theorem extractMarketTimestamp_of_readsFilteredTime {event : PyDict}
    (h : readsFilteredTime cfg event = true) {d : PyDateTime}
    (hd : isoText ((tickPayloadOf event).get "event_time") = some d) :
    extractMarketTimestamp event (tickPayloadOf event) = .ok (some d) := by
  have hsource := (Bool.and_eq_true_iff.1 h).2
  exact extractMarketTimestamp_of_isoText hd (by simpa using hsource)

/-- The bounds are the instants that the launch denotes. -/
theorem backtestWindowBounds_denote (h : Denotes cfg.launchSpec lo hi) {first last : PyDateTime}
    (hbounds : backtestWindowBounds cfg.launchSpec = some (first, last)) :
    first.instant = lo ∧ last.instant = hi := by
  unfold backtestWindowBounds at hbounds
  split at hbounds
  · cases hbounds
  · simp only [Option.bind_eq_bind, Option.bind_eq_some_iff] at hbounds
    rcases hbounds with ⟨tsStart, hstart, tsEnd, hend, hbounds⟩
    split at hbounds
    · cases hbounds
    · simp only [Option.bind_eq_some_iff] at hbounds
      rcases hbounds with ⟨a, ha, b, hb, hbounds⟩
      cases hbounds
      exact ⟨h.start tsStart hstart _ ha, h.stop tsEnd hend _ hb⟩

/-- A time that the filter has compared with the bounds lies in the window. -/
theorem filtered_inWindow (hmode : cfg.launchSpec.mode = .backtest)
    (hdenotes : Denotes cfg.launchSpec lo hi) {event : PyDict} (hadmitted : Admitted cfg event)
    (hreads : readsFilteredTime cfg event = true) {tsMs : Int}
    (htime : readTime (tickPayloadOf event) = some tsMs) : InWindow lo hi tsMs := by
  have hand := hreads
  simp only [readsFilteredTime, Bool.and_eq_true] at hand
  rcases hand with ⟨⟨⟨hbounds, hmissing⟩, hiso⟩, -⟩
  rcases Option.isSome_iff_exists.1 hiso with ⟨d, hd⟩
  rcases Option.isSome_iff_exists.1 hbounds with ⟨⟨first, last⟩, hbounds⟩
  -- the filter
  rcases hadmitted with ⟨batchSimulated, effectiveSim, hadmitted⟩
  rcases admitEvent_eq_some hadmitted with ⟨eventTs, hextract, -, -, hbacktest⟩
  rw [extractMarketTimestamp_of_readsFilteredTime hreads hd] at hextract
  cases hextract
  have hinside := (hbacktest hmode).1
  rw [hbounds] at hinside
  have hinside : ¬ d.instant < first.instant ∧ ¬ last.instant < d.instant := by
    simpa [outsideBounds] using hinside
  rcases backtestWindowBounds_denote hdenotes hbounds with ⟨hfirst, hlast⟩
  -- the mapper
  have hms : tsMs = epochMillis d.instant := by
    unfold readTime at htime
    have hnone : (tickPayloadOf event).get? "ts_ms" = none := by
      rw [tickPayloadOf_tsMs]
      simpa [PyDict.contains] using hmissing
    rw [hnone] at htime
    cases hvalue : (tickPayloadOf event).get "event_time" with
    | str text =>
        rw [hvalue] at hd htime
        have hparse : parseIsoText text = some d := hd
        cases hmillis : utcDatetimeToEpochMillis d with
        | error e =>
            simp [barTimeOf, parseIsoToTsMs, hparse, hmillis, raisePy, bind, Except.bind,
              Except.map, Except.toOption] at htime
        | ok ms =>
            have : ms = tsMs := by
              simpa [barTimeOf, parseIsoToTsMs, hparse, hmillis, raisePy, bind, Except.bind,
                Except.map, Except.toOption, pure, Except.pure] using htime
            rw [← this]
            exact utcDatetimeToEpochMillis_ok hmillis
    | _ => simp [hvalue, isoText] at hd
  rw [hms]
  constructor
  · apply epochMillis_mono
    omega
  · apply epochMillis_mono
    omega

/-- The time of a market event is the one that the mapper reads from the event or its payload. -/
theorem readTime_of_marketTime {event : PyDict} {tsMs : Int}
    (h : marketTime (tickPayloadOf event) = some tsMs) :
    readTime (tickPayloadOf event) = some tsMs := by
  have hcontains : (tickPayloadOf event).contains "event_time" = true := by
    rw [PyDict.contains, tickPayloadOf_eventTime]
    rfl
  unfold marketTime at h
  cases hmapped : mapEvent (tickPayloadOf event) with
  | error e => simp [hmapped, Except.toOption] at h
  | ok mapped =>
      have hms : mapped.tsMs? = some tsMs := by simpa [hmapped, Except.toOption] using h
      exact mapEvent_tsMs hcontains hmapped hms

/-! ## Over all calls -/

/--
For every backtest launch, whatever instants its bounds denote, and for every
sequence of pushed payloads: every replayed market event lies in the launch
window exactly when the times that the filter does not read do.
-/
theorem replayed_in_window_iff (cfg : ReplayConfig) (hmode : cfg.launchSpec.mode = .backtest)
    (lo hi : Int) (hdenotes : Denotes cfg.launchSpec lo hi) (calls : List PushCall) :
    ReplaysInWindow lo hi (pushAll cfg replayWorkerInit calls).received ↔
      UnfilteredInWindow cfg lo hi (pushAll cfg replayWorkerInit calls).consumed := by
  have hlog := pushAll_log cfg calls
  constructor
  · intro h event hmem hmarket tsMs htime
    rcases Option.isSome_iff_exists.1 hmarket with ⟨ms, hms⟩
    have hread := readTime_of_marketTime hms
    unfold unfilteredTime at htime
    split at htime
    · cases htime
    · rw [hread] at htime
      cases htime
      apply h (tickPayloadOf event) _ tsMs hms
      rw [hlog.ticks]
      exact List.mem_map_of_mem hmem
  · intro h tick hmem tsMs hms
    rw [hlog.ticks] at hmem
    rcases List.mem_map.1 hmem with ⟨event, hevent, rfl⟩
    have hread := readTime_of_marketTime hms
    by_cases hreads : readsFilteredTime cfg event = true
    · exact filtered_inWindow hmode hdenotes (hlog.admitted event hevent) hreads hread
    · apply h event hevent (Option.isSome_iff_exists.2 ⟨tsMs, hms⟩)
      rw [unfilteredTime, if_neg hreads, hread]
      rfl

end

/-! ## A bar after the window -/

/-- A backtest of one hour. -/
def hourReplay : ReplayConfig where
  replayBarTimeframe := "1m"
  launchSpec :=
    { runtimeId := "rt-1"
      mode := .backtest
      tsStart := some "2026-03-13T11:00:00Z"
      tsEnd := some "2026-03-13T12:00:00Z"
      tsStart_text := by decide
      tsEnd_text := by decide
      tsStart_mode := by decide
      tsEnd_mode := by decide }

theorem hourReplay_denotes : Denotes hourReplay.launchSpec 1773399600000000 1773403200000000 where
  start := by decide +kernel
  stop := by decide +kernel
  le := by decide

/-- A bar at half past eleven whose payload has more fields. -/
def barEvent (fields : PyDict) : PyDict :=
  [("event_type", .str "market.bar"), ("event_time", .str "2026-03-13T11:30:00Z"),
    ("payload", .dict ([("symbol", .str "AAPL"), ("open", .int 1), ("high", .int 1),
      ("low", .int 1), ("close", .int 1), ("volume", .int 1)] ++ fields))]

/-- A push of some events. -/
def pushOf (events : List PyDict) : PushCall :=
  ⟨[("events", .list (events.map .dict))], false, .ok true⟩

/-- A bar within the hour by its {lit}`event_time` and of March 2028 by its {lit}`ts_ms`. -/
def lateBar : PushCall :=
  pushOf [barEvent [("ts_ms", .int 1836558000000)]]

/-- The bar of March 2028 reaches the strategy. -/
theorem tsMs_leaves_window :
    hourReplay.launchSpec.mode = .backtest ∧
      Denotes hourReplay.launchSpec 1773399600000000 1773403200000000 ∧
      ¬ ReplaysInWindow 1773399600000000 1773403200000000
        (pushAll hourReplay replayWorkerInit [lateBar]).received :=
  ⟨rfl, hourReplay_denotes, by decide +kernel⟩

/-- A bar within the hour and a bar a second after it, each with one time. -/
def twoBars : PushCall :=
  pushOf [barEvent [], [("event_type", .str "market.bar"), ("event_time", .str "2026-03-13T12:00:01Z"),
    ("payload", .dict [("symbol", .str "AAPL"), ("close", .int 1)])]]

/-- Only the first one is replayed, and it lies in the window. -/
theorem bar_within_hour_replayed :
    (pushAll hourReplay replayWorkerInit [twoBars]).consumed.length = 1 ∧
      ReplaysInWindow 1773399600000000 1773403200000000
        (pushAll hourReplay replayWorkerInit [twoBars]).received :=
  ⟨by decide +kernel, (replayed_in_window_iff hourReplay rfl _ _ hourReplay_denotes [twoBars]).2
    (by decide +kernel)⟩

end Application
end StrategyWorker
