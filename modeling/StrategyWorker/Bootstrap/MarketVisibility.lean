import StrategyWorker.Bootstrap.IndicatorService

/-!
# What a strategy sees of the market

The bridge applies a market event in three parts: the clock is set, the item is
stored, and the indicators of its source are advanced.  The adapter reaches the
bridge only through the hook for the kind of the event, so the events of a kind
that the strategy has no hook for never get there.

Main results:

- Theorem {lit}`deliver_replay`: clock and stores are those of the adapter
  without indicators.
- Theorem {lit}`deliver_market`: what a market event does to clock, stores and
  indicators.
- Theorem {lit}`visible_onEvent_iff`: when an event is visible after it was
  delivered.
- Theorem {lit}`market_visible_iff`: a run shows the market after each of its
  events exactly when each event reaches the bridge and nothing refuses it.
-/

namespace StrategyWorker
namespace Bootstrap

open Library
open Library.Binary64
open Integration

/-! ## Delivery with indicators -/

/-- The clock and the stores of the bridge, and the indicators of its context. -/
structure BridgeState where
  replay : ReplayState
  indicators : IndicatorService

/-- A raw event, and what the strategy registers in the hook that gets it. -/
structure Arrival where
  rawEvent : PyDict
  registers : List Registration

section Delivery

variable (cfg : AdapterConfig) (code : Nat → IndicatorCode)

/-- The applied item goes to the indicators, and to the hook when none of them raises. -/
def dispatchItem {α : Type} (advance : IndicatorService → α → IndicatorService × Bool)
    (hook : α → HookCall) (svc : IndicatorService) (applied : ReplayState × Option α) :
    BridgeState × Option HookCall :=
  match applied.2 with
  | none => (⟨applied.1, svc⟩, none)
  | some item =>
      let advanced := advance svc item
      (⟨applied.1, advanced.1⟩, if advanced.2 then none else some (hook item))

/-- {lit}`dispatch_on_bar`. -/
def dispatchOnBar (st : BridgeState) (rawEvent : PyDict) (event : MarketBarEvent) :
    BridgeState × Option HookCall :=
  dispatchItem (IndicatorService.advanceOnBar code) .onBar st.indicators
    (applyBar cfg st.replay rawEvent event)

/-- {lit}`dispatch_on_quote`. -/
def dispatchOnQuote (st : BridgeState) (rawEvent : PyDict) (event : MarketQuoteEvent) :
    BridgeState × Option HookCall :=
  dispatchItem (IndicatorService.advanceOnQuote code) .onQuote st.indicators
    (applyQuote cfg st.replay rawEvent event)

/-- {lit}`dispatch_on_tick`. -/
def dispatchOnTick (st : BridgeState) (rawEvent : PyDict) (event : MarketTickEvent) :
    BridgeState × Option HookCall :=
  dispatchItem (IndicatorService.advanceOnTick code) .onTick st.indicators
    (applyTick cfg st.replay rawEvent event)

/-- {lit}`dispatch_on_timer`, which advances no indicator. -/
def dispatchOnTimer (st : BridgeState) (event : WireTimerEvent) : BridgeState × Option HookCall :=
  dispatchItem (fun svc _ => (svc, false)) .onTimer st.indicators (applyTimer cfg st.replay event)

/-- {lit}`StrategyAdapter.on_event` up to the call of the hook. -/
def BridgeState.deliver (st : BridgeState) (rawEvent : PyDict) : BridgeState × Option HookCall :=
  match mapEvent rawEvent with
  | .error _ => (st, none)
  | .ok mapped =>
      let generic := (st, if cfg.onEvent then some (.onEvent mapped) else none)
      match mapped with
      | .bar event => if cfg.onBar then dispatchOnBar cfg code st rawEvent event else generic
      | .quote event => if cfg.onQuote then dispatchOnQuote cfg code st rawEvent event else generic
      | .tick event => if cfg.onTick then dispatchOnTick cfg code st rawEvent event else generic
      | .timer event => if cfg.onTimer then dispatchOnTimer cfg st event else generic

/-- {lit}`StrategyAdapter.on_event`: a hook that is called may register indicators. -/
def BridgeState.onEvent (st : BridgeState) (a : Arrival) : BridgeState :=
  let delivered := st.deliver cfg code a.rawEvent
  match delivered.2 with
  | none => delivered.1
  | some _ =>
      { delivered.1 with
        indicators :=
          a.registers.foldl IndicatorService.registerIndicator delivered.1.indicators }

end Delivery

variable {cfg : AdapterConfig} {code : Nat → IndicatorCode}

/-! ## The adapter without indicators -/

theorem dispatchItem_replay {α : Type} (advance : IndicatorService → α → IndicatorService × Bool)
    (hook : α → HookCall) (svc : IndicatorService) (applied : ReplayState × Option α) :
    ∃ indicatorRaises,
      ((dispatchItem advance hook svc applied).1.replay,
        (dispatchItem advance hook svc applied).2) = dispatchHook indicatorRaises hook applied := by
  unfold dispatchItem dispatchHook
  split
  · rename_i hnone
    exact ⟨false, by rw [hnone]; rfl⟩
  · rename_i item hsome
    exact ⟨(advance svc item).2, by rw [hsome]; rfl⟩

/-- Clock, stores and hook are those of the adapter without indicators, for which it is given
whether an indicator raises. -/
theorem deliver_replay (st : BridgeState) (rawEvent : PyDict) :
    ∃ indicatorRaises,
      ((st.deliver cfg code rawEvent).1.replay, (st.deliver cfg code rawEvent).2) =
        onEvent cfg st.replay ⟨rawEvent, indicatorRaises⟩ := by
  cases hmapped : mapEvent rawEvent with
  | error e =>
      simp only [BridgeState.deliver, onEvent, hmapped]
      exact ⟨false, trivial⟩
  | ok mapped =>
      simp only [BridgeState.deliver, onEvent, hmapped]
      cases mapped with
      | bar event =>
          by_cases hon : cfg.onBar = true
          · simp only [if_pos hon]
            exact dispatchItem_replay _ _ _ _
          · simp only [if_neg hon]
            exact ⟨false, trivial⟩
      | quote event =>
          by_cases hon : cfg.onQuote = true
          · simp only [if_pos hon]
            exact dispatchItem_replay _ _ _ _
          · simp only [if_neg hon]
            exact ⟨false, trivial⟩
      | tick event =>
          by_cases hon : cfg.onTick = true
          · simp only [if_pos hon]
            exact dispatchItem_replay _ _ _ _
          · simp only [if_neg hon]
            exact ⟨false, trivial⟩
      | timer event =>
          refine ⟨false, ?_⟩
          by_cases hon : cfg.onTimer = true
          · simp only [if_pos hon, dispatchOnTimer, dispatchItem, dispatchHook]
            split
            · rename_i hnone
              rw [hnone]
              rfl
            · rename_i item hsome
              rw [hsome]
              rfl
          · simp only [if_neg hon]

/-! ## The item of an event -/

/-- The strategy has a hook for the items of a source. -/
def AdapterConfig.listens (cfg : AdapterConfig) : DataSource → Bool
  | .bar => cfg.onBar
  | .quote => cfg.onQuote
  | .tick => cfg.onTick

/-- The SDK takes the item. -/
def AdapterConfig.accepts (cfg : AdapterConfig) : Item → Bool
  | .bar bar => cfg.acceptsBar bar
  | .quote quote => cfg.acceptsQuote quote
  | .tick tick => cfg.acceptsTick tick

/-- The source of a market event; a timer has none. -/
def MappedEvent.source? : MappedEvent → Option DataSource
  | .bar _ => some .bar
  | .quote _ => some .quote
  | .tick _ => some .tick
  | .timer _ => none

/-- The item that the bridge makes of a market event; {lit}`none` when its time is not one of
{lit}`datetime`. -/
def itemOf (cfg : AdapterConfig) (rawEvent : PyDict) : MappedEvent → Option Item
  | .bar event =>
      (utcFromEpochMillis event.tsMs).toOption.map fun ts => .bar (barOf cfg rawEvent event ts)
  | .quote event =>
      (utcFromEpochMillis event.tsMs).toOption.map fun ts => .quote (quoteOf rawEvent event ts)
  | .tick event =>
      (utcFromEpochMillis event.tsMs).toOption.map fun ts => .tick (tickOf rawEvent event ts)
  | .timer _ => none

theorem source?_of_itemOf {rawEvent : PyDict} {mapped : MappedEvent} {item : Item}
    (h : itemOf cfg rawEvent mapped = some item) : mapped.source? = some item.source := by
  cases mapped with
  | bar event =>
      rcases Option.map_eq_some_iff.1 h with ⟨ts, -, rfl⟩
      rfl
  | quote event =>
      rcases Option.map_eq_some_iff.1 h with ⟨ts, -, rfl⟩
      rfl
  | tick event =>
      rcases Option.map_eq_some_iff.1 h with ⟨ts, -, rfl⟩
      rfl
  | timer event => cases h

/-- The clock shows a time of the mapper as it is. -/
theorem setTime_utcFromEpochMillis {tsMs : Int} {tsEvent : PyDateTime}
    (h : utcFromEpochMillis tsMs = .ok tsEvent) : setTime tsEvent = .ok tsEvent := by
  unfold utcFromEpochMillis at h
  split at h
  · rename_i utc hwall
    cases h
    rcases PyDateTime.ofWall?_eq_some hwall with ⟨hsame, hoffset⟩
    refine astimezoneUtc_eq_ok_iff.2 ?_
    rw [PyDateTime.astimezoneUtc, hoffset, hsame, Option.getD_some, sub_zero, hwall]
  · cases h

/-- An event is applied at its time. -/
theorem atEventTime_of_ok {α : Type} {st : ReplayState} {tsMs : Int} {tsEvent : PyDateTime}
    (body : ReplayState → PyDateTime → ReplayState × Option α)
    (h : utcFromEpochMillis tsMs = .ok tsEvent) :
    atEventTime st tsMs body = body { st with clock := some tsEvent } tsEvent := by
  unfold atEventTime
  rw [h]
  dsimp only
  rw [setTime_utcFromEpochMillis h]

/-- What the bridge does with the item of a market event. -/
def BridgeState.offer (cfg : AdapterConfig) (code : Nat → IndicatorCode) (st : BridgeState) :
    Option Item → BridgeState
  | none => st
  | some item =>
      let replay := { st.replay with clock := some item.timestamp }
      if cfg.accepts item then
        ⟨replay.store item,
          (IndicatorService.advanceLoop code item st.indicators.registrations st.indicators).1⟩
      else ⟨replay, st.indicators⟩

/-- Applying an event and advancing the indicators is offering its item. -/
theorem dispatchItem_atEventTime {α : Type} {st : BridgeState} {tsMs : Int} (toItem : α → Item)
    (build : PyDateTime → α) (hook : α → HookCall)
    (htime : ∀ tsEvent, (toItem (build tsEvent)).timestamp = tsEvent) :
    (dispatchItem
      (fun svc a => IndicatorService.advanceLoop code (toItem a) svc.registrations svc) hook
      st.indicators
      (atEventTime st.replay tsMs fun st tsEvent =>
        let a := build tsEvent
        if cfg.accepts (toItem a) then (st.store (toItem a), some a) else (st, none))).1 =
      st.offer cfg code ((utcFromEpochMillis tsMs).toOption.map fun ts => toItem (build ts)) := by
  cases hts : utcFromEpochMillis tsMs with
  | error e =>
      simp only [atEventTime, hts, dispatchItem]
      rfl
  | ok tsEvent =>
      rw [atEventTime_of_ok _ hts]
      simp only [Except.toOption, Option.map_some, BridgeState.offer, htime]
      split
      · rfl
      · rfl

theorem dispatchOnBar_fst (st : BridgeState) (rawEvent : PyDict) (event : MarketBarEvent) :
    (dispatchOnBar cfg code st rawEvent event).1 =
      st.offer cfg code (itemOf cfg rawEvent (.bar event)) :=
  dispatchItem_atEventTime Item.bar (barOf cfg rawEvent event) .onBar fun _ => rfl

theorem dispatchOnQuote_fst (st : BridgeState) (rawEvent : PyDict) (event : MarketQuoteEvent) :
    (dispatchOnQuote cfg code st rawEvent event).1 =
      st.offer cfg code (itemOf cfg rawEvent (.quote event)) :=
  dispatchItem_atEventTime Item.quote (quoteOf rawEvent event) .onQuote fun _ => rfl

theorem dispatchOnTick_fst (st : BridgeState) (rawEvent : PyDict) (event : MarketTickEvent) :
    (dispatchOnTick cfg code st rawEvent event).1 =
      st.offer cfg code (itemOf cfg rawEvent (.tick event)) :=
  dispatchItem_atEventTime Item.tick (tickOf rawEvent event) .onTick fun _ => rfl

/-- A market event reaches the bridge when the strategy has the hook for its kind. -/
theorem deliver_market {st : BridgeState} {rawEvent : PyDict} {mapped : MappedEvent}
    {source : DataSource} (hmapped : mapEvent rawEvent = .ok mapped)
    (hsource : mapped.source? = some source) :
    (st.deliver cfg code rawEvent).1 =
      if cfg.listens source then st.offer cfg code (itemOf cfg rawEvent mapped) else st := by
  unfold BridgeState.deliver
  rw [hmapped]
  cases mapped with
  | bar event =>
      cases hsource
      by_cases hon : cfg.onBar = true
      · simp only [if_pos hon, dispatchOnBar_fst]
        exact (if_pos hon).symm
      · simp only [if_neg hon]
        exact (if_neg hon).symm
  | quote event =>
      cases hsource
      by_cases hon : cfg.onQuote = true
      · simp only [if_pos hon, dispatchOnQuote_fst]
        exact (if_pos hon).symm
      · simp only [if_neg hon]
        exact (if_neg hon).symm
  | tick event =>
      cases hsource
      by_cases hon : cfg.onTick = true
      · simp only [if_pos hon, dispatchOnTick_fst]
        exact (if_pos hon).symm
      · simp only [if_neg hon]
        exact (if_neg hon).symm
  | timer event => cases hsource

/-! ## Visible events -/

/-- The latest stored item of the kind, instrument and timeframe of an item. -/
def ReplayState.latestOf (st : ReplayState) : Item → Option Item
  | .bar bar => (latestBar st bar.instrumentId bar.timeframe).map .bar
  | .quote quote => (latestQuote st quote.instrumentId).map .quote
  | .tick tick => (latestTick st tick.instrumentId).map .tick

/-- The strategy can see an item: it is the latest one, the clock is at its time, and each indicator
of its source was updated once with it. -/
structure Visible (st st' : BridgeState) (item : Item) : Prop where
  latest : st'.replay.latestOf item = some item
  clock : st'.replay.clock = some item.timestamp
  updated : ∀ i ∈ st.indicators.listeners item.source,
    st'.indicators.calls i = st.indicators.calls i ++ [⟨item, true⟩]

/-- A market event is visible after it was delivered. -/
def MarketVisible (cfg : AdapterConfig) (st st' : BridgeState) (rawEvent : PyDict) : Prop :=
  ∀ mapped, mapEvent rawEvent = .ok mapped → mapped.source?.isSome = true →
    ∃ item, itemOf cfg rawEvent mapped = some item ∧ Visible st st' item

/-- The strategy has the hook for an item, the SDK takes it, and the indicators of its source are
registered once, can be updated and do not raise. -/
structure Reaches (cfg : AdapterConfig) (code : Nat → IndicatorCode) (svc : IndicatorService)
    (item : Item) : Prop where
  listens : cfg.listens item.source = true
  accepts : cfg.accepts item = true
  once : (svc.listeners item.source).Nodup
  returns : ∀ i ∈ svc.listeners item.source,
    (code i).hasUpdate = true ∧ (code i).raises (svc.calls i) item = false

/-- A market event has a time of {lit}`datetime`, and its item reaches the strategy. -/
def MarketReaches (cfg : AdapterConfig) (code : Nat → IndicatorCode) (svc : IndicatorService)
    (rawEvent : PyDict) : Prop :=
  ∀ mapped, mapEvent rawEvent = .ok mapped → mapped.source?.isSome = true →
    ∃ item, itemOf cfg rawEvent mapped = some item ∧ Reaches cfg code svc item

/-- Only items that the strategy has a hook for, and that the SDK takes, are in the stores. -/
def StoresTaken (cfg : AdapterConfig) (st : ReplayState) : Prop :=
  ∀ item stored, st.latestOf item = some stored →
    cfg.listens stored.source = true ∧ cfg.accepts stored = true

theorem latestOf_clock (st : ReplayState) (clock : Option PyDateTime) (item : Item) :
    ({ st with clock := clock } : ReplayState).latestOf item = st.latestOf item := by
  cases item <;> rfl

theorem clock_store (st : ReplayState) (item : Item) : (st.store item).clock = st.clock := by
  cases item <;> rfl

theorem latestOf_store (st : ReplayState) (item : Item) :
    (st.store item).latestOf item = some item := by
  cases item with
  | bar bar =>
      simp [ReplayState.store, ReplayState.appendBar, ReplayState.latestOf, latestBar]
  | quote quote =>
      simp [ReplayState.store, ReplayState.recordQuote, ReplayState.latestOf, latestQuote]
  | tick tick =>
      simp [ReplayState.store, ReplayState.recordTick, ReplayState.latestOf, latestTick]

/-- What is the latest item after another one was stored. -/
theorem latestOf_store_cases {st : ReplayState} {item other stored : Item}
    (h : (st.store item).latestOf other = some stored) :
    stored = item ∨ st.latestOf other = some stored := by
  cases item with
  | bar bar =>
      cases other with
      | bar other =>
          by_cases hkey : (other.instrumentId, other.timeframe) = (bar.instrumentId, bar.timeframe)
          · left
            simp only [ReplayState.store, ReplayState.appendBar, ReplayState.latestOf, latestBar,
              hkey, Function.update_self, List.getLast?_append, List.getLast?_singleton,
              Option.some_or, Option.map_some] at h
            exact (Option.some.inj h).symm
          · right
            simpa only [ReplayState.store, ReplayState.appendBar, ReplayState.latestOf, latestBar,
              Function.update_of_ne hkey] using h
      | quote other => exact .inr h
      | tick other => exact .inr h
  | quote quote =>
      cases other with
      | quote other =>
          by_cases hkey : other.instrumentId = quote.instrumentId
          · left
            simp only [ReplayState.store, ReplayState.recordQuote, ReplayState.latestOf,
              latestQuote, hkey, Function.update_self, Option.map_some] at h
            exact (Option.some.inj h).symm
          · right
            simpa only [ReplayState.store, ReplayState.recordQuote, ReplayState.latestOf,
              latestQuote, Function.update_of_ne hkey] using h
      | bar other => exact .inr h
      | tick other => exact .inr h
  | tick tick =>
      cases other with
      | tick other =>
          by_cases hkey : other.instrumentId = tick.instrumentId
          · left
            simp only [ReplayState.store, ReplayState.recordTick, ReplayState.latestOf,
              latestTick, hkey, Function.update_self, Option.map_some] at h
            exact (Option.some.inj h).symm
          · right
            simpa only [ReplayState.store, ReplayState.recordTick, ReplayState.latestOf,
              latestTick, Function.update_of_ne hkey] using h
      | bar other => exact .inr h
      | quote other => exact .inr h

/-- The strategy registers indicators in the hook, which touches neither the replay state nor the
calls. -/
theorem onEvent_replay (st : BridgeState) (a : Arrival) :
    (st.onEvent cfg code a).replay = (st.deliver cfg code a.rawEvent).1.replay := by
  unfold BridgeState.onEvent
  dsimp only
  split <;> rfl

theorem calls_registerIndicator (svc : IndicatorService) (rs : List Registration) :
    (rs.foldl IndicatorService.registerIndicator svc).calls = svc.calls := by
  induction rs generalizing svc with
  | nil => rfl
  | cons r rs ih => exact ih (svc.registerIndicator r)

theorem onEvent_calls (st : BridgeState) (a : Arrival) :
    (st.onEvent cfg code a).indicators.calls =
      (st.deliver cfg code a.rawEvent).1.indicators.calls := by
  unfold BridgeState.onEvent
  dsimp only
  split
  · rfl
  · exact calls_registerIndicator _ a.registers

/-- The calls of the indicators when an item is offered that the SDK takes. -/
theorem calls_offer {st : BridgeState} {item : Item} (haccepts : cfg.accepts item = true) :
    (st.offer cfg code (some item)).indicators.calls =
      (IndicatorService.callAll code item (st.indicators.listeners item.source)
        st.indicators.calls).1 := by
  have hloop := IndicatorService.calls_advanceLoop code item st.indicators.registrations
    st.indicators
  simp only [BridgeState.offer, if_pos haccepts]
  exact congrArg Prod.fst hloop

/-- An item that is offered is visible when the SDK takes it and each indicator is updated. -/
theorem visible_offer_iff {st : BridgeState} {item : Item} (hstores : StoresTaken cfg st.replay)
    (hlistens : cfg.listens item.source = true) :
    Visible st (st.offer cfg code (some item)) item ↔ Reaches cfg code st.indicators item := by
  constructor
  · intro h
    have haccepts : cfg.accepts item = true := by
      by_contra hrefused
      have hlatest := h.latest
      simp only [BridgeState.offer, if_neg hrefused, latestOf_clock] at hlatest
      exact hrefused (hstores item item hlatest).2
    have hupdated := h.updated
    rw [calls_offer haccepts, IndicatorService.updated_once_iff] at hupdated
    exact ⟨hlistens, haccepts, hupdated.1, hupdated.2⟩
  · rintro ⟨-, haccepts, honce, hreturns⟩
    have hupdated := IndicatorService.updated_once_iff.2 ⟨honce, hreturns⟩
    rw [← calls_offer haccepts] at hupdated
    refine ⟨?_, ?_, hupdated⟩
    · simp only [BridgeState.offer, if_pos haccepts, latestOf_store]
    · simp only [BridgeState.offer, if_pos haccepts, clock_store]

/-- An event is visible after it was delivered when it reaches the strategy. -/
theorem visible_onEvent_iff {st : BridgeState} (a : Arrival) (hstores : StoresTaken cfg st.replay) :
    MarketVisible cfg st (st.onEvent cfg code a) a.rawEvent ↔
      MarketReaches cfg code st.indicators a.rawEvent := by
  have hstep : ∀ mapped item, mapEvent a.rawEvent = .ok mapped →
      itemOf cfg a.rawEvent mapped = some item →
      (Visible st (st.onEvent cfg code a) item ↔ Reaches cfg code st.indicators item) := by
    intro mapped item hmapped hitem
    have hdelivered : Visible st (st.onEvent cfg code a) item ↔
        Visible st (st.deliver cfg code a.rawEvent).1 item := by
      constructor
      · rintro ⟨hlatest, hclock, hupdated⟩
        rw [onEvent_replay] at hlatest hclock
        rw [onEvent_calls] at hupdated
        exact ⟨hlatest, hclock, hupdated⟩
      · rintro ⟨hlatest, hclock, hupdated⟩
        rw [← onEvent_replay] at hlatest hclock
        rw [← onEvent_calls] at hupdated
        exact ⟨hlatest, hclock, hupdated⟩
    rw [hdelivered, deliver_market hmapped (source?_of_itemOf hitem), hitem]
    by_cases hlistens : cfg.listens item.source = true
    · rw [if_pos hlistens]
      exact visible_offer_iff hstores hlistens
    · rw [if_neg hlistens]
      refine iff_of_false (fun h => ?_) fun h => hlistens h.listens
      exact hlistens (hstores item item h.latest).1
  refine forall₃_congr fun mapped hmapped hmarket => exists_congr fun item => ?_
  exact and_congr_right fun hitem => hstep mapped item hmapped hitem

/-! ## Runs -/

theorem storesTaken_init : StoresTaken cfg replayStateInit := by
  intro item stored h
  cases item <;> cases h

theorem storesTaken_offer {st : BridgeState} {offered : Option Item}
    (hlistens : ∀ item ∈ offered, cfg.listens item.source = true)
    (hstores : StoresTaken cfg st.replay) : StoresTaken cfg (st.offer cfg code offered).replay := by
  cases offered with
  | none => exact hstores
  | some item =>
      intro other stored h
      by_cases haccepts : cfg.accepts item = true
      · simp only [BridgeState.offer, if_pos haccepts] at h
        rcases latestOf_store_cases h with rfl | hbefore
        · exact ⟨hlistens stored rfl, haccepts⟩
        · rw [latestOf_clock] at hbefore
          exact hstores other stored hbefore
      · simp only [BridgeState.offer, if_neg haccepts, latestOf_clock] at h
        exact hstores other stored h

/-- A timer stores nothing. -/
theorem latestOf_dispatchOnTimer (st : BridgeState) (event : WireTimerEvent) (item : Item) :
    (dispatchOnTimer cfg st event).1.replay.latestOf item = st.replay.latestOf item := by
  have hreplay : (dispatchOnTimer cfg st event).1.replay = (applyTimer cfg st.replay event).1 := by
    unfold dispatchOnTimer dispatchItem
    split <;> rfl
  rw [hreplay]
  unfold applyTimer atEventTime
  split
  · rfl
  split
  · rfl
  dsimp only
  split
  · exact latestOf_clock ..
  · exact latestOf_clock ..

/-- An event keeps the stores to what the strategy has a hook for and the SDK takes. -/
theorem storesTaken_onEvent {st : BridgeState} (a : Arrival) (hstores : StoresTaken cfg st.replay) :
    StoresTaken cfg (st.onEvent cfg code a).replay := by
  rw [onEvent_replay]
  cases hmapped : mapEvent a.rawEvent with
  | error e => simpa only [BridgeState.deliver, hmapped] using hstores
  | ok mapped =>
      cases hsource : mapped.source? with
      | some source =>
          rw [deliver_market hmapped hsource]
          by_cases hlistens : cfg.listens source = true
          · rw [if_pos hlistens]
            refine storesTaken_offer (fun item hitem => ?_) hstores
            rw [Option.some.inj ((source?_of_itemOf hitem).symm.trans hsource)]
            exact hlistens
          · rw [if_neg hlistens]
            exact hstores
      | none =>
          cases mapped with
          | timer event =>
              simp only [BridgeState.deliver, hmapped]
              split
              · intro item stored h
                rw [latestOf_dispatchOnTimer] at h
                exact hstores item stored h
              · exact hstores
          | bar event => cases hsource
          | quote event => cases hsource
          | tick event => cases hsource

/-- After each event of a run the market event is visible. -/
def MarketVisibleThroughout (cfg : AdapterConfig) (code : Nat → IndicatorCode) :
    BridgeState → List Arrival → Prop
  | _, [] => True
  | st, a :: as =>
      MarketVisible cfg st (st.onEvent cfg code a) a.rawEvent ∧
        MarketVisibleThroughout cfg code (st.onEvent cfg code a) as

/-- Each market event of a run reaches the strategy in the state that it meets. -/
def MarketReachesThroughout (cfg : AdapterConfig) (code : Nat → IndicatorCode) :
    BridgeState → List Arrival → Prop
  | _, [] => True
  | st, a :: as =>
      MarketReaches cfg code st.indicators a.rawEvent ∧
        MarketReachesThroughout cfg code (st.onEvent cfg code a) as

theorem market_visible_iff_from {st : BridgeState} (as : List Arrival)
    (hstores : StoresTaken cfg st.replay) :
    MarketVisibleThroughout cfg code st as ↔ MarketReachesThroughout cfg code st as := by
  induction as generalizing st with
  | nil => exact Iff.rfl
  | cons a as ih =>
      exact and_congr (visible_onEvent_iff a hstores) (ih (storesTaken_onEvent a hstores))

/--
For every strategy, whatever hooks it has, every set of indicators and every
sequence of events: after each bar, quote and tick of the sequence it is the
latest one of its instrument, the clock is at its time and each indicator of its
source was updated once with it, exactly when the strategy has the hook for each
of them, their times are those of {lit}`datetime`, the SDK takes them, and the
indicators of their source are registered once, can be updated and do not raise.
-/
theorem market_visible_iff (cfg : AdapterConfig) (code : Nat → IndicatorCode)
    (svc : IndicatorService) (as : List Arrival) :
    MarketVisibleThroughout cfg code ⟨replayStateInit, svc⟩ as ↔
      MarketReachesThroughout cfg code ⟨replayStateInit, svc⟩ as :=
  market_visible_iff_from as storesTaken_init

/-! ## A strategy without the hook -/

/-- A strategy that has the generic hook only. -/
def genericHook : AdapterConfig :=
  ⟨"1m", false, false, false, false, true, fun _ => true, fun _ => true, fun _ => true,
    fun _ => true⟩

/-- An indicator that never raises and has no value. -/
def quietIndicator : IndicatorCode :=
  ⟨true, fun _ _ => false, fun _ => none⟩

/-- One indicator of the bars. -/
def barIndicators : IndicatorService :=
  ⟨[⟨"sma", 0, .bar⟩], fun _ => [], fun _ => none⟩

/-- The bar of a minute. -/
def minuteBarArrival : Arrival where
  rawEvent := [("type", .str "market.bar"), ("symbol", .str "AAPL"), ("open", .int 1),
    ("high", .int 1), ("low", .int 1), ("close", .int 1), ("volume", .int 1),
    ("ts_ms", .int 1773399660000)]
  registers := []

/-- A strategy that gets every bar in its generic hook finds none in {lit}`context.data`. -/
theorem generic_hook_sees_no_market : ¬ MarketVisibleThroughout genericHook (fun _ => quietIndicator)
    ⟨replayStateInit, barIndicators⟩ [minuteBarArrival] := by
  intro h
  have hmarket : ((mapEvent minuteBarArrival.rawEvent).toOption.bind MappedEvent.source?).isSome =
      true := by decide +kernel
  have hclock : (BridgeState.onEvent genericHook (fun _ => quietIndicator)
      ⟨replayStateInit, barIndicators⟩ minuteBarArrival).replay.clock.isNone = true := by
    decide +kernel
  cases hmapped : mapEvent minuteBarArrival.rawEvent with
  | error e =>
      rw [hmapped] at hmarket
      cases hmarket
  | ok mapped =>
      rw [hmapped] at hmarket
      rcases h.1 mapped hmapped hmarket with ⟨item, -, hvisible⟩
      rw [hvisible.clock] at hclock
      cases hclock

end Bootstrap
end StrategyWorker
