import StrategyWorker.Bootstrap.ReplaySdkBridge

/-!
# What a strategy can see of the future

{lit}`set_event_time` sets the simulated clock to the time of each event that
the bridge applies, also when that lies before the time of an earlier one.  The
stores keep what came before, except that a quote or tick replaces the one of
its instrument.

Main results:

- Theorem {lit}`noLookAhead_iff`: what the queries return is what is stored.
- Theorem {lit}`noLookAhead_apply_iff`: after an event there is nothing ahead of
  the clock exactly when the event is not older than what it leaves in the
  stores.
- Theorem {lit}`hooks_see_past_iff`: over any sequence of events, every hook sees
  nothing ahead of its clock exactly when the events are in time.
- Theorem {lit}`late_bar_looks_ahead`: a bar that comes late brings the clock
  behind the bar before it.
-/

namespace StrategyWorker
namespace Bootstrap

open Library
open Library.Binary64
open Integration

/-! ## Nothing ahead of the clock -/

/-- The time is not later than {lit}`now()` of the context clock. -/
def NotLater (st : ReplayState) (ts : PyDateTime) : Prop :=
  ∃ now ∈ st.clock, ts.instant ≤ now.instant

instance (st : ReplayState) (ts : PyDateTime) : Decidable (NotLater st ts) :=
  decidable_of_iff (st.clock.any fun now => ts.instant ≤ now.instant)
    (by cases h : st.clock <;> simp [NotLater, h])

/-- No query of {lit}`context.data` returns an item that is later than the clock. -/
structure NoLookAhead (st : ReplayState) : Prop where
  latestBar : ∀ symbol timeframe, ∀ bar ∈ latestBar st symbol timeframe, NotLater st bar.timestamp
  latestQuote : ∀ symbol, ∀ quote ∈ latestQuote st symbol, NotLater st quote.timestamp
  latestTick : ∀ symbol, ∀ tick ∈ latestTick st symbol, NotLater st tick.timestamp
  getBars : ∀ symbol timeframe start stop limit bars,
    getBars st symbol timeframe start stop limit = .ok bars →
      ∀ bar ∈ bars, NotLater st bar.timestamp

/-- A time that a stored item has. -/
inductive Stored (st : ReplayState) : PyDateTime → Prop where
  | bar (key) {bar} (h : bar ∈ st.byKey key) : Stored st bar.timestamp
  | quote (instrumentId) {quote} (h : st.quotes instrumentId = some quote) :
      Stored st quote.timestamp
  | tick (instrumentId) {tick} (h : st.ticks instrumentId = some tick) : Stored st tick.timestamp

/-- Filtering keeps bars of the series. -/
theorem mem_of_filterSeries {start stop : Option PyDateTime} {series bars : List Bar}
    (h : filterSeries start stop series = .ok bars) {bar : Bar} (hmem : bar ∈ bars) :
    bar ∈ series := by
  induction series generalizing bars with
  | nil =>
      cases h
      exact hmem
  | cons first series ih =>
      unfold filterSeries at h
      rcases bind_eq_ok.1 h with ⟨outside, -, h⟩
      rcases bind_eq_ok.1 h with ⟨rest, hrest, h⟩
      split at h
      · cases h
        exact List.mem_cons_of_mem _ (ih hrest hmem)
      · cases h
        rcases List.mem_cons.1 hmem with rfl | hmem
        · exact List.mem_cons_self
        · exact List.mem_cons_of_mem _ (ih hrest hmem)

theorem mem_of_limitSeries {limit : Option Int} {series : List Bar} {bar : Bar}
    (h : bar ∈ limitSeries limit series) : bar ∈ series := by
  unfold limitSeries at h
  split at h
  · split at h
    · exact List.mem_of_mem_drop h
    · exact h
  · exact h

/-- Without bounds the whole series is kept. -/
theorem filterSeries_none (series : List Bar) : filterSeries none none series = .ok series := by
  induction series with
  | nil => rfl
  | cons bar series ih => simp [filterSeries, outsideRange, ih, bind, Except.bind, pure, Except.pure]

theorem getBars_all (st : ReplayState) (symbol timeframe : String) :
    getBars st symbol timeframe .none .none none = .ok (st.byKey (symbol, timeframe)) := by
  simp [getBars, asDatetime, filterSeries_none, limitSeries, bind, Except.bind, pure, Except.pure]

/-- What the queries return is what is stored. -/
theorem noLookAhead_iff (st : ReplayState) :
    NoLookAhead st ↔ ∀ ts, Stored st ts → NotLater st ts := by
  constructor
  · intro h ts hstored
    cases hstored with
    | bar key hbar => exact h.getBars key.1 key.2 .none .none none _ (getBars_all _ _ _) _ hbar
    | quote id hquote => exact h.latestQuote id _ hquote
    | tick id htick => exact h.latestTick id _ htick
  · intro h
    constructor
    · intro symbol timeframe bar hbar
      exact h _ (.bar _ (List.mem_of_getLast? hbar))
    · intro symbol quote hquote
      exact h _ (.quote symbol hquote)
    · intro symbol tick htick
      exact h _ (.tick symbol htick)
    · intro symbol timeframe start stop limit bars hbars bar hmem
      unfold getBars at hbars
      rcases bind_eq_ok.1 hbars with ⟨start, -, hbars⟩
      rcases bind_eq_ok.1 hbars with ⟨stop, -, hbars⟩
      rcases bind_eq_ok.1 hbars with ⟨filtered, hfiltered, hbars⟩
      cases hbars
      exact h _ (.bar _ (mem_of_filterSeries hfiltered (mem_of_limitSeries hmem)))

/-! ## What an event leaves in the stores -/

/-- The stores without the quote or tick that an item replaces. -/
def ReplayState.kept (st : ReplayState) : Option Item → ReplayState
  | some (.quote quote) =>
      { st with quotes := Function.update st.quotes quote.instrumentId none }
  | some (.tick tick) => { st with ticks := Function.update st.ticks tick.instrumentId none }
  | _ => st

theorem mem_appendBar {st : ReplayState} {bar bar' : Bar} {key : String × String} :
    bar' ∈ (st.appendBar bar).byKey key ↔
      bar' ∈ st.byKey key ∨ (bar' = bar ∧ key = (bar.instrumentId, bar.timeframe)) := by
  simp only [ReplayState.appendBar, Function.update_apply]
  split
  · rename_i hkey
    subst hkey
    simp
  · rename_i hkey
    simp [hkey]

/-- A record of a map that has been set is the new one, or one that the map without the old record
has. -/
theorem update_eq_some {α : Type} {m : String → Option α} {key id : String} {x y : α} :
    Function.update m key (some x) id = some y ↔
      Function.update m key none id = some y ∨ (id = key ∧ y = x) := by
  simp only [Function.update_apply]
  by_cases h : id = key
  · simp [h, eq_comm]
  · simp [h]

/-- Storing an item leaves what it does not replace, and adds its own time. -/
theorem stored_store {st : ReplayState} {item : Item} {ts : PyDateTime} :
    Stored (st.store item) ts ↔ Stored (st.kept (some item)) ts ∨ ts = item.timestamp := by
  constructor
  · intro h
    cases item with
    | bar b =>
        cases h with
        | bar key hbar =>
            rcases mem_appendBar.1 hbar with hbar | ⟨rfl, -⟩
            · exact .inl (.bar key hbar)
            · exact .inr rfl
        | quote id hquote => exact .inl (.quote id hquote)
        | tick id htick => exact .inl (.tick id htick)
    | quote q =>
        cases h with
        | bar key hbar => exact .inl (.bar key hbar)
        | quote id hquote =>
            rcases update_eq_some.1 hquote with hquote | ⟨-, rfl⟩
            · exact .inl (.quote id hquote)
            · exact .inr rfl
        | tick id htick => exact .inl (.tick id htick)
    | tick t =>
        cases h with
        | bar key hbar => exact .inl (.bar key hbar)
        | quote id hquote => exact .inl (.quote id hquote)
        | tick id htick =>
            rcases update_eq_some.1 htick with htick | ⟨-, rfl⟩
            · exact .inl (.tick id htick)
            · exact .inr rfl
  · rintro (h | rfl)
    · cases item with
      | bar b =>
          cases h with
          | bar key hbar => exact .bar key (mem_appendBar.2 (.inl hbar))
          | quote id hquote => exact .quote id hquote
          | tick id htick => exact .tick id htick
      | quote q =>
          cases h with
          | bar key hbar => exact .bar key hbar
          | quote id hquote => exact .quote id (update_eq_some.2 (.inl hquote))
          | tick id htick => exact .tick id htick
      | tick t =>
          cases h with
          | bar key hbar => exact .bar key hbar
          | quote id hquote => exact .quote id hquote
          | tick id htick => exact .tick id (update_eq_some.2 (.inl htick))
    · cases item with
      | bar b => exact .bar _ (mem_appendBar.2 (.inr ⟨rfl, rfl⟩))
      | quote q => exact .quote q.instrumentId (update_eq_some.2 (.inr ⟨rfl, rfl⟩))
      | tick t => exact .tick t.instrumentId (update_eq_some.2 (.inr ⟨rfl, rfl⟩))

/-- What is stored does not depend on the clock. -/
theorem stored_congr {st st' : ReplayState} {ts : PyDateTime} (hbars : st'.byKey = st.byKey)
    (hquotes : st'.quotes = st.quotes) (hticks : st'.ticks = st.ticks) (h : Stored st ts) :
    Stored st' ts := by
  cases h with
  | bar key hbar => exact .bar key (by rw [hbars]; exact hbar)
  | quote id hquote => exact .quote id (by rw [hquotes]; exact hquote)
  | tick id htick => exact .tick id (by rw [hticks]; exact htick)

theorem stored_clock {st : ReplayState} {clock : Option PyDateTime} (item : Option Item)
    {ts : PyDateTime} :
    Stored ({ st with clock }.kept item) ts ↔ Stored (st.kept item) ts := by
  rcases item with _ | (_ | _ | _)
  all_goals
    constructor
    · exact stored_congr rfl rfl rfl
    · exact stored_congr rfl rfl rfl

/-- After an event the stores hold what it has left there and its own item. -/
theorem stored_apply {st : ReplayState} {e : Effect} {ts : PyDateTime} :
    Stored (st.apply e) ts ↔ Stored (st.kept e.item) ts ∨ ∃ i ∈ e.item, ts = i.timestamp := by
  unfold ReplayState.apply
  cases e.item with
  | none =>
      simp only [Option.elim_none, Option.not_mem_none, false_and, exists_false, or_false]
      exact stored_clock none
  | some item =>
      simp only [Option.elim_some, Option.mem_some_iff, exists_eq_left']
      rw [stored_store, stored_clock]

/-- The event is not older than what it leaves in the stores. -/
def InTime (st : ReplayState) (e : Effect) : Prop :=
  ∀ ts, Stored (st.kept e.item) ts → ts.instant ≤ e.now.instant

@[simp]
theorem apply_clock (st : ReplayState) (e : Effect) : (st.apply e).clock = some e.now := by
  unfold ReplayState.apply
  cases e.item with
  | none => rfl
  | some item => cases item <;> rfl

/-- After an event there is nothing ahead of the clock exactly when the event is not older than
what it leaves in the stores. -/
theorem noLookAhead_apply_iff (st : ReplayState) (e : Effect) :
    NoLookAhead (st.apply e) ↔ InTime st e := by
  have hnow : ∀ ts, NotLater (st.apply e) ts ↔ ts.instant ≤ e.now.instant := by
    intro ts
    simp [NotLater]
  rw [noLookAhead_iff]
  constructor
  · intro h ts hkept
    exact (hnow ts).1 (h ts (stored_apply.2 (.inl hkept)))
  · intro h ts hstored
    rw [hnow]
    rcases stored_apply.1 hstored with hkept | ⟨i, hi, rfl⟩
    · exact h ts hkept
    · exact le_of_eq (e.item_time i hi)

/-! ## Sequences of events -/

/-- Every hook that is called sees nothing ahead of its clock. -/
def HooksSeePast (cfg : AdapterConfig) : ReplayState → List Delivery → Prop
  | _, [] => True
  | st, d :: ds =>
      ((onEvent cfg st d).2.isSome = true → NoLookAhead (onEvent cfg st d).1) ∧
        HooksSeePast cfg (onEvent cfg st d).1 ds

/-- The event leads to a hook call, in whatever state. -/
def callsHook (cfg : AdapterConfig) (d : Delivery) : Bool :=
  (onEvent cfg replayStateInit d).2.isSome

/-- A hook is called before an event sets the clock. -/
def hookBeforeClock (cfg : AdapterConfig) : List Delivery → Bool
  | [] => false
  | d :: ds => (effect cfg d).isNone && (callsHook cfg d || hookBeforeClock cfg ds)

/-- Every event that sets the clock, and whose time a hook sees on it, is in time. -/
def EventsInTime (cfg : AdapterConfig) : ReplayState → List Delivery → Prop
  | _, [] => True
  | st, d :: ds =>
      (∀ e ∈ effect cfg d, (callsHook cfg d || hookBeforeClock cfg ds) = true → InTime st e) ∧
        EventsInTime cfg (onEvent cfg st d).1 ds

theorem callsHook_eq (cfg : AdapterConfig) (st : ReplayState) (d : Delivery) :
    (onEvent cfg st d).2.isSome = callsHook cfg d := by
  rw [callsHook, onEvent_hook cfg st replayStateInit d]

/-- An event without effect leaves clock and stores, and any other sets the clock. -/
theorem hooksSeePast_iff_from (cfg : AdapterConfig) (st : ReplayState) (ds : List Delivery) :
    HooksSeePast cfg st ds ↔
      (hookBeforeClock cfg ds = true → NoLookAhead st) ∧ EventsInTime cfg st ds := by
  induction ds generalizing st with
  | nil => simp [HooksSeePast, hookBeforeClock, EventsInTime]
  | cons d ds ih =>
      have hstate := onEvent_eq cfg st d
      unfold HooksSeePast EventsInTime
      rw [ih, callsHook_eq]
      cases heffect : effect cfg d with
      | none =>
          rw [heffect, Option.elim_none] at hstate
          rw [hstate]
          simp only [hookBeforeClock, heffect, Option.isNone_none, Bool.true_and, Bool.or_eq_true,
            Option.not_mem_none, false_imp_iff, implies_true, true_and]
          constructor
          · rintro ⟨hhook, hrest, htime⟩
            exact ⟨fun h => h.elim hhook hrest, htime⟩
          · rintro ⟨h, htime⟩
            exact ⟨fun hhook => h (.inl hhook), fun hrest => h (.inr hrest), htime⟩
      | some e =>
          rw [heffect, Option.elim_some] at hstate
          rw [hstate, noLookAhead_apply_iff]
          simp only [hookBeforeClock, heffect, Option.isNone_some, Bool.false_and,
            Bool.false_eq_true, false_imp_iff, true_and, Option.mem_some_iff, forall_eq',
            Bool.or_eq_true]
          constructor
          · rintro ⟨hhook, hrest, htime⟩
            exact ⟨fun h => h.elim hhook hrest, htime⟩
          · rintro ⟨h, htime⟩
            exact ⟨fun hhook => h (.inl hhook), fun hrest => h (.inr hrest), htime⟩

/--
For every sequence of events, whatever their order, symbols and timeframes, and
whatever the SDK and the indicators raise: at every hook call no query of
{lit}`context.data` returns an item ahead of the clock exactly when every event
that sets the clock for a hook is not older than the bars, quotes and ticks that
it leaves in the stores.
-/
theorem hooks_see_past_iff (cfg : AdapterConfig) (ds : List Delivery) :
    HooksSeePast cfg replayStateInit ds ↔ EventsInTime cfg replayStateInit ds := by
  rw [hooksSeePast_iff_from]
  have hinit : NoLookAhead replayStateInit := by
    rw [noLookAhead_iff]
    intro ts h
    cases h with
    | bar key hbar => cases hbar
    | quote id hquote => cases hquote
    | tick id htick => cases htick
  simp [hinit]

/-! ## A late bar -/

/-- A strategy with all hooks. -/
def allHooks : AdapterConfig :=
  ⟨"1m", true, true, true, true, true, fun _ => true, fun _ => true, fun _ => true, fun _ => true⟩

/-- A minute bar at a time in milliseconds. -/
def minuteBarAt (symbol : String) (tsMs : Int) : Delivery where
  rawEvent := [("type", .str "market.bar"), ("symbol", .str symbol), ("open", .int 1),
    ("high", .int 1), ("low", .int 1), ("close", .int 1), ("volume", .int 1), ("ts_ms", .int tsMs)]
  indicatorRaises := false

/-- A bar of one symbol and then the bar of another one that is a minute older. -/
def lateBarEvents : List Delivery :=
  [minuteBarAt "AAPL" 1773399660000, minuteBarAt "MSFT" 1773399600000]

/-- At the hook of the second bar the first one is a minute ahead of the clock. -/
theorem late_bar_looks_ahead : ¬ HooksSeePast allHooks replayStateInit lateBarEvents := by
  intro h
  have hhook := (h.2.1 (by decide +kernel)).latestBar "AAPL" "1m"
  revert hhook
  decide +kernel

end Bootstrap
end StrategyWorker
