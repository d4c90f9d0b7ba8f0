import Mathlib.Logic.Function.Basic
import StrategyWorker.Bootstrap.EventMapper

/-!
# The strategy adapter and the replay bridge

{lit}`StrategyAdapter.on_event` maps a raw event and calls a hook of the
strategy.  For a hook that the strategy defines itself the bridge first sets the
simulated clock to the time of the event and stores a bar, quote or tick, which
the strategy then reads through {lit}`context.data`; any other event goes to the
generic hook as it is.  The error boundary swallows whatever is raised on the
way, and the hook is then not called.

Main results:

- Theorem {lit}`onEvent_eq`: an event does to clock and stores what its effect
  says, whatever they hold.
- Theorem {lit}`onEvent_hook`: whether a hook is called does not depend on them
  either.
- Theorem {lit}`onEvent_time`: the clock is set to the time of the market item
  that the hook gets.
-/

namespace StrategyWorker
namespace Bootstrap

open Library
open Library.PyText
open Library.Binary64
open Integration

/-! ## Clock and stores -/

structure Bar where
  symbol : String
  timeframe : String
  opening : PyFloat
  high : PyFloat
  low : PyFloat
  close : PyFloat
  volume : PyFloat
  timestamp : PyDateTime
  instrumentId : String
  deriving DecidableEq

structure Quote where
  symbol : String
  bidPrice : PyFloat
  askPrice : PyFloat
  bidSize : PyFloat
  askSize : PyFloat
  timestamp : PyDateTime
  instrumentId : String
  deriving DecidableEq

structure Tick where
  symbol : String
  timestamp : PyDateTime
  price : PyFloat
  size : PyFloat
  instrumentId : String
  deriving DecidableEq

/-- The simulated clock and {lit}`InMemoryReplayDataService`. -/
structure ReplayState where
  clock : Option PyDateTime
  /-- Bars by instrument and timeframe. -/
  byKey : String × String → List Bar
  quotes : String → Option Quote
  ticks : String → Option Tick

def replayStateInit : ReplayState :=
  ⟨none, fun _ => [], fun _ => none, fun _ => none⟩

def ReplayState.appendBar (st : ReplayState) (bar : Bar) : ReplayState :=
  let key := (bar.instrumentId, bar.timeframe)
  { st with byKey := Function.update st.byKey key (st.byKey key ++ [bar]) }

def ReplayState.recordQuote (st : ReplayState) (quote : Quote) : ReplayState :=
  { st with quotes := Function.update st.quotes quote.instrumentId (some quote) }

def ReplayState.recordTick (st : ReplayState) (tick : Tick) : ReplayState :=
  { st with ticks := Function.update st.ticks tick.instrumentId (some tick) }

/-! ## What the strategy reads -/

def latestBar (st : ReplayState) (symbol timeframe : String) : Option Bar :=
  (st.byKey (symbol, timeframe)).getLast?

def latestQuote (st : ReplayState) (symbol : String) : Option Quote :=
  st.quotes symbol

def latestTick (st : ReplayState) (symbol : String) : Option Tick :=
  st.ticks symbol

/-- {lit}`_as_datetime` of an argument. -/
def asDatetime : PyVal → Except PyError (Option PyDateTime)
  | .none => .ok none
  | .datetime value => .ok (some value)
  | value =>
      match PyDateTime.fromisoformat (replaceZulu value.text) with
      | some parsed => .ok (some parsed)
      | none => .error .valueError

/-- {lit}`a < b`; a naive and an aware value do not compare. -/
def before (a b : PyDateTime) : Except PyError Bool :=
  if a.utcoffset.isSome = b.utcoffset.isSome then .ok (a.instant < b.instant)
  else .error .typeError

/-- The bar is before the start or after the end. -/
def outsideRange (start stop : Option PyDateTime) (bar : Bar) : Except PyError Bool := do
  let early ← start.elim (.ok false) fun start => before bar.timestamp start
  if early then return true
  else stop.elim (.ok false) fun stop => before stop bar.timestamp

/-- {lit}`_filter_series` without its limit. -/
def filterSeries (start stop : Option PyDateTime) : List Bar → Except PyError (List Bar)
  | [] => .ok []
  | bar :: series => do
      let outside ← outsideRange start stop bar
      let rest ← filterSeries start stop series
      return if outside then rest else bar :: rest

/-- The last bars up to the limit; a negative limit is none. -/
def limitSeries (limit : Option Int) (series : List Bar) : List Bar :=
  match limit with
  | some n => if 0 ≤ n then series.drop (series.length - n.toNat) else series
  | none => series

/-- {lit}`RuntimeDataContext.get_bars`. -/
def getBars (st : ReplayState) (symbol timeframe : String) (start stop : PyVal)
    (limit : Option Int) : Except PyError (List Bar) := do
  let start ← asDatetime start
  let stop ← asDatetime stop
  let filtered ← filterSeries start stop (st.byKey (symbol, timeframe))
  return limitSeries limit filtered

/-! ## Applying an event -/

/-- The strategy behind the adapter and the checks of the SDK. -/
structure AdapterConfig where
  /-- The default timeframe of the bridge. -/
  defaultTf : String
  /-- The strategy class defines {lit}`on_bar`, and so on. -/
  onBar : Bool
  onQuote : Bool
  onTick : Bool
  onTimer : Bool
  /-- The strategy has a generic {lit}`on_event`. -/
  onEvent : Bool
  /-- The constructor of the SDK takes the fields; it keeps them as they are or raises. -/
  acceptsBar : Bar → Bool
  acceptsQuote : Quote → Bool
  acceptsTick : Tick → Bool
  acceptsTimer : PyDateTime → Bool

def validTimeframes : List String :=
  ["1m", "5m", "10m", "15m", "30m", "1h", "1w", "1mo", "1d"]

/-- {lit}`resolve_timeframe`. -/
def resolveTimeframe (cfg : AdapterConfig) (rawEvent : PyDict) : String :=
  match (rawEvent.get "timeframe").orElse (rawEvent.get "bar_timeframe") with
  | .str raw => if raw ∈ validTimeframes then raw else cfg.defaultTf
  | _ => cfg.defaultTf

/-- {lit}`_wire_instrument_id_str`. -/
def wireInstrumentIdStr : PyVal → String
  | .str raw => strip raw
  | .int n => strip (PyVal.int n).text
  | .float f => strip (PyVal.float f).text
  | _ => ""

/-- {lit}`resolve_instrument_id`: a nested bar prefers the id of the wire, a flat event the
symbol. -/
def resolveInstrumentId (rawEvent : PyDict) (symbol : String) : String :=
  let sym := strip symbol
  let wireId := wireInstrumentIdStr (rawEvent.get "instrument_id")
  match rawEvent.get "bar" with
  | .dict _ => if wireId ≠ "" then wireId else sym
  | _ => if sym ≠ "" then sym else wireId

def barOf (cfg : AdapterConfig) (rawEvent : PyDict) (event : MarketBarEvent)
    (tsEvent : PyDateTime) : Bar where
  symbol := event.symbol
  timeframe := resolveTimeframe cfg rawEvent
  opening := event.opening
  high := event.high
  low := event.low
  close := event.close
  volume := event.volume
  timestamp := tsEvent
  instrumentId := resolveInstrumentId rawEvent event.symbol

/-- An ask below the bid is raised to it. -/
def quoteOf (rawEvent : PyDict) (event : MarketQuoteEvent) (tsEvent : PyDateTime) : Quote where
  symbol := event.symbol
  bidPrice := event.bid
  askPrice := if floatLt event.ask event.bid then event.bid else event.ask
  bidSize := event.bidSize
  askSize := event.askSize
  timestamp := tsEvent
  instrumentId := resolveInstrumentId rawEvent event.symbol

def tickOf (rawEvent : PyDict) (event : MarketTickEvent) (tsEvent : PyDateTime) : Tick where
  symbol := event.symbol
  timestamp := tsEvent
  price := event.price
  size := event.size
  instrumentId := resolveInstrumentId rawEvent event.symbol

/-- {lit}`set_event_time` to the time of an event, and what follows it; {lit}`none` when something
raises. -/
def atEventTime {α : Type} (st : ReplayState) (tsMs : Int)
    (body : ReplayState → PyDateTime → ReplayState × Option α) : ReplayState × Option α :=
  match utcFromEpochMillis tsMs with
  | .error _ => (st, none)
  | .ok tsEvent =>
      match setTime tsEvent with
      | .error _ => (st, none)
      | .ok now => body { st with clock := some now } tsEvent

def applyBar (cfg : AdapterConfig) (st : ReplayState) (rawEvent : PyDict)
    (event : MarketBarEvent) : ReplayState × Option Bar :=
  atEventTime st event.tsMs fun st tsEvent =>
    let bar := barOf cfg rawEvent event tsEvent
    if cfg.acceptsBar bar then (st.appendBar bar, some bar) else (st, none)

def applyQuote (cfg : AdapterConfig) (st : ReplayState) (rawEvent : PyDict)
    (event : MarketQuoteEvent) : ReplayState × Option Quote :=
  atEventTime st event.tsMs fun st tsEvent =>
    let quote := quoteOf rawEvent event tsEvent
    if cfg.acceptsQuote quote then (st.recordQuote quote, some quote) else (st, none)

def applyTick (cfg : AdapterConfig) (st : ReplayState) (rawEvent : PyDict)
    (event : MarketTickEvent) : ReplayState × Option Tick :=
  atEventTime st event.tsMs fun st tsEvent =>
    let tick := tickOf rawEvent event tsEvent
    if cfg.acceptsTick tick then (st.recordTick tick, some tick) else (st, none)

def applyTimer (cfg : AdapterConfig) (st : ReplayState) (event : WireTimerEvent) :
    ReplayState × Option PyDateTime :=
  atEventTime st event.scheduledAtMs fun st tsEvent =>
    if cfg.acceptsTimer tsEvent then (st, some tsEvent) else (st, none)

/-! ## Delivery -/

/-- A raw event that reaches the adapter. -/
structure Delivery where
  rawEvent : PyDict
  /-- An indicator of the strategy raises when it is advanced. -/
  indicatorRaises : Bool

inductive HookCall where
  | onBar (bar : Bar)
  | onQuote (quote : Quote)
  | onTick (tick : Tick)
  | onTimer (timestamp : PyDateTime)
  | onEvent (event : MappedEvent)

/-- The indicators are advanced before the hook is called. -/
def dispatchHook {α : Type} (indicatorRaises : Bool) (hook : α → HookCall)
    (applied : ReplayState × Option α) : ReplayState × Option HookCall :=
  (applied.1, if indicatorRaises then none else applied.2.map hook)

@[simp]
theorem dispatchHook_fst {α : Type} (indicatorRaises : Bool) (hook : α → HookCall)
    (applied : ReplayState × Option α) : (dispatchHook indicatorRaises hook applied).1 = applied.1 :=
  rfl

/-- {lit}`StrategyAdapter.on_event` with a bridge: the clock and the stores as the hook sees them,
and the hook call if there is one. -/
def onEvent (cfg : AdapterConfig) (st : ReplayState) (d : Delivery) :
    ReplayState × Option HookCall :=
  match mapEvent d.rawEvent with
  | .error _ => (st, none)
  | .ok mapped =>
      let generic := (st, if cfg.onEvent then some (.onEvent mapped) else none)
      match mapped with
      | .bar event =>
          if cfg.onBar then
            dispatchHook d.indicatorRaises .onBar (applyBar cfg st d.rawEvent event)
          else generic
      | .quote event =>
          if cfg.onQuote then
            dispatchHook d.indicatorRaises .onQuote (applyQuote cfg st d.rawEvent event)
          else generic
      | .tick event =>
          if cfg.onTick then
            dispatchHook d.indicatorRaises .onTick (applyTick cfg st d.rawEvent event)
          else generic
      | .timer event =>
          if cfg.onTimer then dispatchHook false .onTimer (applyTimer cfg st event) else generic

/-! ## Effects -/

/-- A stored market item. -/
inductive Item where
  | bar (bar : Bar)
  | quote (quote : Quote)
  | tick (tick : Tick)

def Item.timestamp : Item → PyDateTime
  | .bar b => b.timestamp
  | .quote q => q.timestamp
  | .tick t => t.timestamp

def ReplayState.store (st : ReplayState) : Item → ReplayState
  | .bar b => st.appendBar b
  | .quote q => st.recordQuote q
  | .tick t => st.recordTick t

/-- The time that an event sets the clock to and the item that it stores, which has that time. -/
structure Effect where
  now : PyDateTime
  item : Option Item
  item_time : ∀ i ∈ item, i.timestamp.instant = now.instant

/-- What an event stores, given the timestamp of the event. -/
structure ItemAt where
  item : PyDateTime → Option Item
  timestamp_item : ∀ tsEvent, ∀ i ∈ item tsEvent, i.timestamp = tsEvent

/-- The item if the SDK accepts it. -/
def ItemAt.accepted (build : PyDateTime → Item) (accepts : PyDateTime → Bool)
    (h : ∀ tsEvent, (build tsEvent).timestamp = tsEvent) : ItemAt where
  item tsEvent := if accepts tsEvent then some (build tsEvent) else none
  timestamp_item := by
    intro tsEvent i hi
    split at hi <;> cases hi
    exact h tsEvent

/-- A timer stores nothing. -/
def ItemAt.nothing : ItemAt where
  item _ := none
  timestamp_item := by simp

/-- The effect of an event at a time. -/
def effectAt (tsMs : Int) (stored : ItemAt) : Option Effect :=
  match utcFromEpochMillis tsMs with
  | .error _ => none
  | .ok tsEvent =>
      match hnow : setTime tsEvent with
      | .error _ => none
      | .ok now =>
          some ⟨now, stored.item tsEvent, fun i hi => by
            rw [stored.timestamp_item tsEvent i hi]
            exact (astimezoneUtc_ok hnow).symm⟩

/-- What an event does to the clock and the stores: nothing, unless the bridge applies it. -/
def effect (cfg : AdapterConfig) (d : Delivery) : Option Effect :=
  match mapEvent d.rawEvent with
  | .ok (.bar event) =>
      if cfg.onBar then
        effectAt event.tsMs (.accepted (fun ts => .bar (barOf cfg d.rawEvent event ts))
          (fun ts => cfg.acceptsBar (barOf cfg d.rawEvent event ts)) fun _ => rfl)
      else none
  | .ok (.quote event) =>
      if cfg.onQuote then
        effectAt event.tsMs (.accepted (fun ts => .quote (quoteOf d.rawEvent event ts))
          (fun ts => cfg.acceptsQuote (quoteOf d.rawEvent event ts)) fun _ => rfl)
      else none
  | .ok (.tick event) =>
      if cfg.onTick then
        effectAt event.tsMs (.accepted (fun ts => .tick (tickOf d.rawEvent event ts))
          (fun ts => cfg.acceptsTick (tickOf d.rawEvent event ts)) fun _ => rfl)
      else none
  | .ok (.timer event) =>
      if cfg.onTimer then effectAt event.scheduledAtMs .nothing else none
  | .error _ => none

/-- The clock is set first, and the item is stored then. -/
def ReplayState.apply (st : ReplayState) (e : Effect) : ReplayState :=
  let st := { st with clock := some e.now }
  e.item.elim st st.store

/-- Applying an event at its time, as an effect. -/
theorem atEventTime_eq {α : Type} (st : ReplayState) (tsMs : Int) {stored : ItemAt}
    {body : ReplayState → PyDateTime → ReplayState × Option α}
    (hbody : ∀ st tsEvent, (body st tsEvent).1 = (stored.item tsEvent).elim st st.store) :
    (atEventTime st tsMs body).1 = (effectAt tsMs stored).elim st st.apply := by
  unfold atEventTime effectAt
  split
  · rfl
  · split
    · rename_i hnow
      split
      · rfl
      · rename_i hnow'
        rw [hnow] at hnow'
        cases hnow'
    · rename_i hnow
      split
      · rename_i hnow'
        rw [hnow] at hnow'
        cases hnow'
      · rename_i hnow'
        rw [hnow] at hnow'
        cases hnow'
        exact hbody _ _

/-- An event does to clock and stores what its effect says, whatever they hold. -/
theorem onEvent_eq (cfg : AdapterConfig) (st : ReplayState) (d : Delivery) :
    (onEvent cfg st d).1 = (effect cfg d).elim st st.apply := by
  cases hmapped : mapEvent d.rawEvent with
  | error e => simp only [onEvent, effect, hmapped, Option.elim_none]
  | ok mapped =>
      cases mapped with
      | bar event =>
          simp only [onEvent, effect, hmapped]
          split
          · rw [dispatchHook_fst]
            apply atEventTime_eq
            intro st tsEvent
            simp only [ItemAt.accepted]
            split <;> rfl
          · rfl
      | quote event =>
          simp only [onEvent, effect, hmapped]
          split
          · rw [dispatchHook_fst]
            apply atEventTime_eq
            intro st tsEvent
            simp only [ItemAt.accepted]
            split <;> rfl
          · rfl
      | tick event =>
          simp only [onEvent, effect, hmapped]
          split
          · rw [dispatchHook_fst]
            apply atEventTime_eq
            intro st tsEvent
            simp only [ItemAt.accepted]
            split <;> rfl
          · rfl
      | timer event =>
          simp only [onEvent, effect, hmapped]
          split
          · rw [dispatchHook_fst]
            apply atEventTime_eq
            intro st tsEvent
            split <;> rfl
          · rfl

/-- What an event at its time answers does not depend on clock and stores. -/
theorem atEventTime_snd {α : Type} (st st' : ReplayState) (tsMs : Int)
    {body : ReplayState → PyDateTime → ReplayState × Option α}
    (hbody : ∀ st st' tsEvent, (body st tsEvent).2 = (body st' tsEvent).2) :
    (atEventTime st tsMs body).2 = (atEventTime st' tsMs body).2 := by
  unfold atEventTime
  split
  · rfl
  split
  · rfl
  · exact hbody _ _ _

theorem dispatchHook_snd {α : Type} {indicatorRaises : Bool} {hook : α → HookCall}
    {applied applied' : ReplayState × Option α} (h : applied.2 = applied'.2) :
    (dispatchHook indicatorRaises hook applied).2 =
      (dispatchHook indicatorRaises hook applied').2 := by
  simp only [dispatchHook, h]

/-- Whether a hook is called, and with what, does not depend on clock and stores. -/
theorem onEvent_hook (cfg : AdapterConfig) (st st' : ReplayState) (d : Delivery) :
    (onEvent cfg st d).2 = (onEvent cfg st' d).2 := by
  unfold onEvent
  split
  · rfl
  · rename_i mapped hmapped
    cases mapped with
    | bar event =>
        simp only
        split
        · apply dispatchHook_snd
          apply atEventTime_snd
          intro st st' tsEvent
          simp only
          split <;> rfl
        · rfl
    | quote event =>
        simp only
        split
        · apply dispatchHook_snd
          apply atEventTime_snd
          intro st st' tsEvent
          simp only
          split <;> rfl
        · rfl
    | tick event =>
        simp only
        split
        · apply dispatchHook_snd
          apply atEventTime_snd
          intro st st' tsEvent
          simp only
          split <;> rfl
        · rfl
    | timer event =>
        simp only
        split
        · apply dispatchHook_snd
          apply atEventTime_snd
          intro st st' tsEvent
          split <;> rfl
        · rfl

/-! ## The time of a hook -/

/-- The time of the market item that a hook gets; the generic hook gets none. -/
def hookTime : HookCall → Option PyDateTime
  | .onBar bar => some bar.timestamp
  | .onQuote quote => some quote.timestamp
  | .onTick tick => some tick.timestamp
  | .onTimer timestamp => some timestamp
  | .onEvent _ => none

/-- Applying an event at its time, when it answers. -/
theorem atEventTime_eq_some {α : Type} {st : ReplayState} {tsMs : Int} (stored : ItemAt)
    {body : ReplayState → PyDateTime → ReplayState × Option α} {a : α}
    (h : (atEventTime st tsMs body).2 = some a) :
    ∃ e tsEvent st', effectAt tsMs stored = some e ∧ e.now.instant = tsEvent.instant ∧
      (body st' tsEvent).2 = some a := by
  cases hts : utcFromEpochMillis tsMs with
  | error e => simp [atEventTime, hts] at h
  | ok tsEvent =>
      cases hnow : setTime tsEvent with
      | error e => simp [atEventTime, hts, hnow] at h
      | ok now =>
          simp only [atEventTime, hts, hnow] at h
          have heffect : ∃ e, effectAt tsMs stored = some e ∧ e.now = now := by
            unfold effectAt
            rw [hts]
            dsimp only
            split
            · rename_i hnow'
              rw [hnow] at hnow'
              cases hnow'
            · rename_i hnow'
              rw [hnow] at hnow'
              cases hnow'
              exact ⟨_, rfl, rfl⟩
          rcases heffect with ⟨e, he, rfl⟩
          exact ⟨e, tsEvent, _, he, astimezoneUtc_ok hnow, h⟩

/-- A hook that gets a market item finds the clock at the time of the item. -/
theorem dispatchHook_time {α : Type} {indicatorRaises : Bool} {hook : α → HookCall}
    {st : ReplayState} {tsMs : Int} {stored : ItemAt}
    {body : ReplayState → PyDateTime → ReplayState × Option α} {call : HookCall}
    (hbody : ∀ st tsEvent a, (body st tsEvent).2 = some a → hookTime (hook a) = some tsEvent)
    (h : (dispatchHook indicatorRaises hook (atEventTime st tsMs body)).2 = some call) :
    ∃ e t, effectAt tsMs stored = some e ∧ hookTime call = some t ∧ e.now.instant = t.instant := by
  unfold dispatchHook at h
  dsimp only at h
  split at h
  · cases h
  rcases Option.map_eq_some_iff.1 h with ⟨a, ha, rfl⟩
  rcases atEventTime_eq_some stored ha with ⟨e, tsEvent, st', he, hnow, hanswer⟩
  exact ⟨e, tsEvent, he, hbody st' tsEvent a hanswer, hnow⟩

/-- The bridge sets the clock to the time of the market item that the hook gets; the generic hook
gets none, and the bridge then leaves the clock alone. -/
theorem onEvent_time {cfg : AdapterConfig} {st : ReplayState} {d : Delivery} {call : HookCall}
    (h : (onEvent cfg st d).2 = some call) :
    (∃ e t, effect cfg d = some e ∧ hookTime call = some t ∧ e.now.instant = t.instant) ∨
      (effect cfg d = none ∧ hookTime call = none) := by
  have hgeneric : ∀ mapped, (if cfg.onEvent then some (HookCall.onEvent mapped) else none) =
      some call → hookTime call = none := by
    intro mapped hcall
    split at hcall <;> cases hcall
    rfl
  cases hmapped : mapEvent d.rawEvent with
  | error e => simp [onEvent, hmapped] at h
  | ok mapped =>
      cases mapped with
      | bar event =>
          simp only [onEvent, effect, hmapped] at h ⊢
          by_cases hon : cfg.onBar = true
          · rw [if_pos hon] at h ⊢
            refine .inl (dispatchHook_time (fun st tsEvent bar hbar => ?_) h)
            dsimp only at hbar
            split at hbar <;> cases hbar
            rfl
          · rw [if_neg hon] at h ⊢
            exact .inr ⟨rfl, hgeneric _ h⟩
      | quote event =>
          simp only [onEvent, effect, hmapped] at h ⊢
          by_cases hon : cfg.onQuote = true
          · rw [if_pos hon] at h ⊢
            refine .inl (dispatchHook_time (fun st tsEvent quote hquote => ?_) h)
            dsimp only at hquote
            split at hquote <;> cases hquote
            rfl
          · rw [if_neg hon] at h ⊢
            exact .inr ⟨rfl, hgeneric _ h⟩
      | tick event =>
          simp only [onEvent, effect, hmapped] at h ⊢
          by_cases hon : cfg.onTick = true
          · rw [if_pos hon] at h ⊢
            refine .inl (dispatchHook_time (fun st tsEvent tick htick => ?_) h)
            dsimp only at htick
            split at htick <;> cases htick
            rfl
          · rw [if_neg hon] at h ⊢
            exact .inr ⟨rfl, hgeneric _ h⟩
      | timer event =>
          simp only [onEvent, effect, hmapped] at h ⊢
          by_cases hon : cfg.onTimer = true
          · rw [if_pos hon] at h ⊢
            refine .inl (dispatchHook_time (fun st tsEvent ts hts => ?_) h)
            split at hts <;> cases hts
            rfl
          · rw [if_neg hon] at h ⊢
            exact .inr ⟨rfl, hgeneric _ h⟩

end Bootstrap
end StrategyWorker
