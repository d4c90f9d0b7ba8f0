import Mathlib.Data.List.DropRight
import StrategyWorker.Bootstrap.LookAhead
import StrategyWorker.Bootstrap.MarketVisibility

/-!
# Queries over stored bars

{lit}`RuntimeDataContext.get_bars` over the bars that {lit}`apply_bar` has
stored: the last ones of a series within two bounds.  A stored bar has a UTC
time, and a bound without an offset does not compare with it.

Main results:

- Theorem {lit}`byKey_applyBar_of_ne`, Theorem {lit}`byKey_applyBar`: a bar is
  filed in the series of its timeframe, and in no other.
- Theorem {lit}`byKey_applyBars`: the series are the applied bars in their
  order.
- Theorem {lit}`filterSeries_eq_ok_iff`: which bounds a series can be compared
  with, and what is left of it then.
- Theorem {lit}`get_bars_meets_iff`: when a query returns the bars within its
  bounds.
-/

namespace StrategyWorker
namespace Bootstrap

open Library
open Library.PyText
open Library.Binary64
open Integration

/-! ## Filing a bar -/

section

variable {cfg : AdapterConfig} {st : ReplayState} {payload : PyDict} {event : MarketBarEvent}

theorem isSome_utcoffset_utcFromEpochMillis {tsMs : Int} {utc : PyDateTime}
    (h : utcFromEpochMillis tsMs = .ok utc) : utc.utcoffset.isSome = true := by
  unfold utcFromEpochMillis at h
  split at h
  · rename_i u hu
    obtain rfl := Except.ok.inj h
    rw [(PyDateTime.ofWall?_eq_some hu).2]
    rfl
  · cases h

/-- What {lit}`apply_bar` leaves of the series. -/
theorem applyBar_cases (cfg : AdapterConfig) (st : ReplayState) (payload : PyDict)
    (event : MarketBarEvent) :
    ((applyBar cfg st payload event).2 = none ∧ (applyBar cfg st payload event).1.byKey = st.byKey) ∨
      ∃ tsEvent, utcFromEpochMillis event.tsMs = .ok tsEvent ∧
        (applyBar cfg st payload event).2 = some (barOf cfg payload event tsEvent) ∧
        (applyBar cfg st payload event).1.byKey =
          (st.appendBar (barOf cfg payload event tsEvent)).byKey := by
  unfold applyBar
  cases htime : utcFromEpochMillis event.tsMs with
  | error e =>
      left
      unfold atEventTime
      rw [htime]
      exact ⟨rfl, rfl⟩
  | ok tsEvent =>
      rw [atEventTime_of_ok _ htime]
      dsimp only
      split
      · right
        exact ⟨tsEvent, rfl, rfl, rfl⟩
      · left
        exact ⟨rfl, rfl⟩

theorem byKey_appendBar (st : ReplayState) (bar : Bar) (key : String × String) :
    (st.appendBar bar).byKey key =
      st.byKey key ++ if (bar.instrumentId, bar.timeframe) = key then [bar] else [] := by
  unfold ReplayState.appendBar
  dsimp only
  by_cases hkey : (bar.instrumentId, bar.timeframe) = key
  · rw [if_pos hkey, ← hkey]
    exact Function.update_self _ _ _
  · rw [if_neg hkey, List.append_nil]
    exact Function.update_of_ne (Ne.symm hkey) _ _

/-- No series of another timeframe changes. -/
theorem byKey_applyBar_of_ne {symbol tf : String} (h : tf ≠ resolveTimeframe cfg payload) :
    (applyBar cfg st payload event).1.byKey (symbol, tf) = st.byKey (symbol, tf) := by
  rcases applyBar_cases cfg st payload event with ⟨-, hsame⟩ | ⟨tsEvent, -, -, hfiled⟩
  · rw [hsame]
  · have hkey : ¬ ((barOf cfg payload event tsEvent).instrumentId, resolveTimeframe cfg payload) =
        (symbol, tf) := fun heq => h (Prod.mk.inj heq).2.symm
    rw [hfiled, byKey_appendBar]
    exact (congrArg _ (if_neg hkey)).trans (List.append_nil _)

/-- An applied bar is the last one of its series. -/
theorem byKey_applyBar {bar : Bar} (h : (applyBar cfg st payload event).2 = some bar) :
    (applyBar cfg st payload event).1.byKey (bar.instrumentId, resolveTimeframe cfg payload) =
      st.byKey (bar.instrumentId, resolveTimeframe cfg payload) ++ [bar] := by
  rcases applyBar_cases cfg st payload event with ⟨hnone, -⟩ | ⟨tsEvent, -, hsome, hfiled⟩
  · rw [hnone] at h
    cases h
  · obtain rfl : barOf cfg payload event tsEvent = bar := Option.some.inj (hsome.symm.trans h)
    rw [hfiled, byKey_appendBar]
    exact congrArg _ (if_pos rfl)

/-- A bar that ends the series of the default timeframe has that timeframe. -/
theorem resolveTimeframe_of_filed {bar : Bar}
    (hfiled : (applyBar cfg st payload event).1.byKey (bar.instrumentId, cfg.defaultTf) =
      st.byKey (bar.instrumentId, cfg.defaultTf) ++ [bar]) :
    resolveTimeframe cfg payload = cfg.defaultTf := by
  by_contra hne
  rw [byKey_applyBar_of_ne (Ne.symm hne)] at hfiled
  simp at hfiled

end

/-! ## Bounds -/

/-- The bounds that a query accepts, each with the time that it denotes. -/
inductive Bound where
  | unbounded
  | time (value : PyDateTime)
  | text (s : String) (value : PyDateTime)
      (denotes : PyDateTime.fromisoformat (replaceZulu s) = some value)

namespace Bound

/-- The argument of the query. -/
def val : Bound → PyVal
  | unbounded => .none
  | time value => .datetime value
  | text s _ _ => .str s

def time? : Bound → Option PyDateTime
  | unbounded => none
  | time value | text _ value _ => some value

end Bound

theorem asDatetime_val (bound : Bound) : asDatetime bound.val = .ok bound.time? := by
  cases bound with
  | unbounded => rfl
  | time value => rfl
  | text s value denotes =>
      unfold Bound.val asDatetime
      simp only [PyVal.text, denotes]
      rfl

/-- A bound has an offset, if it is there. -/
def AwareBound (bound : Option PyDateTime) : Prop :=
  ∀ value ∈ bound, value.utcoffset.isSome = true

instance (bound : Option PyDateTime) : Decidable (AwareBound bound) :=
  inferInstanceAs (Decidable (∀ value ∈ bound, _))

/-- The bar is before the start. -/
def IsEarly (start : Option PyDateTime) (bar : Bar) : Prop :=
  ∃ value ∈ start, bar.timestamp.instant < value.instant

/-- The bar is within the bounds; a bound without an offset is read as UTC. -/
def Within (start stop : Option PyDateTime) (bar : Bar) : Prop :=
  (∀ value ∈ start, value.instant ≤ bar.timestamp.instant) ∧
    ∀ value ∈ stop, bar.timestamp.instant ≤ value.instant

instance (start stop : Option PyDateTime) (bar : Bar) : Decidable (Within start stop bar) :=
  inferInstanceAs (Decidable (_ ∧ _))

/-- The bar's time compares with the bounds as far as they are looked at. -/
def Comparable (start stop : Option PyDateTime) (bar : Bar) : Prop :=
  AwareBound start ∧ (AwareBound stop ∨ IsEarly start bar)

section

variable {start stop : Option PyDateTime} {bar : Bar}

/-- A UTC time compares with the times that have an offset. -/
theorem before_eq_ok_iff {a b : PyDateTime} (ha : a.utcoffset.isSome = true) {early : Bool} :
    before a b = .ok early ↔
      b.utcoffset.isSome = true ∧ early = decide (a.instant < b.instant) := by
  unfold before
  rw [ha]
  cases b.utcoffset.isSome <;> simp [eq_comm]

theorem before_eq_ok_iff' {a b : PyDateTime} (hb : b.utcoffset.isSome = true) {early : Bool} :
    before a b = .ok early ↔
      a.utcoffset.isSome = true ∧ early = decide (a.instant < b.instant) := by
  unfold before
  rw [hb]
  cases a.utcoffset.isSome <;> simp [eq_comm]

theorem early_eq_ok_iff (haware : bar.timestamp.utcoffset.isSome = true) {early : Bool} :
    (start.elim (.ok false) fun start => before bar.timestamp start) = .ok early ↔
      AwareBound start ∧ (early = true ↔ IsEarly start bar) := by
  unfold AwareBound IsEarly
  cases start with
  | none => cases early <;> simp
  | some value =>
      simp only [Option.elim_some, before_eq_ok_iff haware, Option.mem_some_iff, forall_eq',
        exists_eq_left']
      cases early <;> simp

theorem late_eq_ok_iff (haware : bar.timestamp.utcoffset.isSome = true) {late : Bool} :
    (stop.elim (.ok false) fun stop => before stop bar.timestamp) = .ok late ↔
      AwareBound stop ∧
        (late = true ↔ ∃ value ∈ stop, value.instant < bar.timestamp.instant) := by
  unfold AwareBound
  cases stop with
  | none => cases late <;> simp
  | some value =>
      simp only [Option.elim_some, before_eq_ok_iff' haware, Option.mem_some_iff, forall_eq',
        exists_eq_left']
      cases late <;> simp

theorem within_iff : Within start stop bar ↔
    ¬ IsEarly start bar ∧ ¬ ∃ value ∈ stop, value.instant < bar.timestamp.instant := by
  simp only [Within, IsEarly, not_exists, not_and, not_lt]

/-- A bar with a UTC time is compared with the bounds, or one of them has no offset. -/
theorem outsideRange_eq_ok_iff (haware : bar.timestamp.utcoffset.isSome = true) {outside : Bool} :
    outsideRange start stop bar = .ok outside ↔
      Comparable start stop bar ∧ (outside = true ↔ ¬ Within start stop bar) := by
  unfold outsideRange Comparable
  simp only [bind_eq_ok, early_eq_ok_iff haware]
  constructor
  · rintro ⟨early, ⟨hstart, hearly⟩, hrest⟩
    cases early with
    | true =>
        have hbefore := hearly.1 rfl
        obtain rfl : true = outside := Except.ok.inj hrest
        exact ⟨⟨hstart, .inr hbefore⟩, by simp [within_iff, hbefore]⟩
    | false =>
        have hnot : ¬ IsEarly start bar := fun h => Bool.false_ne_true (hearly.2 h)
        rcases (late_eq_ok_iff haware).1 hrest with ⟨hstop, hlate⟩
        exact ⟨⟨hstart, .inl hstop⟩, by simp [within_iff, hnot, hlate]⟩
  · rintro ⟨⟨hstart, hstop⟩, houtside⟩
    by_cases hbefore : IsEarly start bar
    · refine ⟨true, ⟨hstart, by simp [hbefore]⟩, ?_⟩
      have hout : outside = true := houtside.2 (by simp [within_iff, hbefore])
      rw [hout]
      rfl
    · refine ⟨false, ⟨hstart, by simp [hbefore]⟩, ?_⟩
      apply (late_eq_ok_iff haware).2
      refine ⟨hstop.resolve_right hbefore, ?_⟩
      simpa [within_iff, hbefore] using houtside

/-- A series is filtered when all of its bars compare with the bounds. -/
theorem filterSeries_eq_ok_iff {series bars : List Bar}
    (haware : ∀ bar ∈ series, bar.timestamp.utcoffset.isSome = true) :
    filterSeries start stop series = .ok bars ↔
      (∀ bar ∈ series, Comparable start stop bar) ∧
        bars = series.filter fun bar => Within start stop bar := by
  induction series generalizing bars with
  | nil => simp [filterSeries, eq_comm]
  | cons first series ih =>
      have hfirst := haware first List.mem_cons_self
      have hrest := fun bar hbar => haware bar (List.mem_cons_of_mem first hbar)
      unfold filterSeries
      simp only [bind_eq_ok, outsideRange_eq_ok_iff hfirst, ih hrest]
      constructor
      · rintro ⟨outside, ⟨hcompare, houtside⟩, rest, ⟨hcompares, rfl⟩, hbars⟩
        obtain rfl := Except.ok.inj hbars
        refine ⟨List.forall_mem_cons.2 ⟨hcompare, hcompares⟩, ?_⟩
        by_cases hwithin : Within start stop first <;> simp [houtside, hwithin]
      · rintro ⟨hcompares, rfl⟩
        rw [List.forall_mem_cons] at hcompares
        refine ⟨!decide (Within start stop first), ⟨hcompares.1, by simp⟩, _,
          ⟨hcompares.2, rfl⟩, ?_⟩
        by_cases hwithin : Within start stop first <;> simp [hwithin, pure, Except.pure]

end

/-! ## Bars applied one after the other -/

/-- The payloads and events of bars. -/
abbrev BarEvents := List (PyDict × MarketBarEvent)

def applyBars (cfg : AdapterConfig) (st : ReplayState) : BarEvents → ReplayState
  | [] => st
  | e :: es => applyBars cfg (applyBar cfg st e.1 e.2).1 es

/-- The bars that {lit}`apply_bar` has returned, in their order. -/
def appliedBars (cfg : AdapterConfig) (st : ReplayState) : BarEvents → List Bar
  | [] => []
  | e :: es =>
      (applyBar cfg st e.1 e.2).2.toList ++ appliedBars cfg (applyBar cfg st e.1 e.2).1 es

section

variable (cfg : AdapterConfig) (st : ReplayState) (es : BarEvents)

/-- A series consists of the applied bars with its key. -/
theorem byKey_applyBars (key : String × String) :
    (applyBars cfg st es).byKey key =
      st.byKey key ++ (appliedBars cfg st es).filter fun bar =>
        (bar.instrumentId, bar.timeframe) = key := by
  induction es generalizing st with
  | nil => simp [applyBars, appliedBars]
  | cons e es ih =>
      rw [applyBars, appliedBars, ih, List.filter_append, ← List.append_assoc]
      rcases applyBar_cases cfg st e.1 e.2 with ⟨hnone, hsame⟩ | ⟨tsEvent, -, hsome, hfiled⟩
      · rw [hnone, hsame]
        simp
      · rw [hsome, hfiled, byKey_appendBar]
        by_cases hkey : ((barOf cfg e.1 e.2 tsEvent).instrumentId,
          (barOf cfg e.1 e.2 tsEvent).timeframe) = key <;> simp [hkey]

/-- An applied bar has a UTC time. -/
theorem aware_appliedBars :
    ∀ bar ∈ appliedBars cfg st es, bar.timestamp.utcoffset.isSome = true := by
  induction es generalizing st with
  | nil => simp [appliedBars]
  | cons e es ih =>
      intro bar hbar
      rw [appliedBars] at hbar
      rcases List.mem_append.1 hbar with hbar | hbar
      · rcases applyBar_cases cfg st e.1 e.2 with ⟨hnone, -⟩ | ⟨tsEvent, htime, hsome, -⟩
        · rw [hnone] at hbar
          cases hbar
        · rw [hsome] at hbar
          obtain rfl : bar = barOf cfg e.1 e.2 tsEvent := by simpa using hbar
          exact isSome_utcoffset_utcFromEpochMillis htime
      · exact ih _ bar hbar

end

/-! ## The query -/

/-- The last bars up to a limit. -/
def lastBars (limit : Option ℕ) (bars : List Bar) : List Bar :=
  limit.elim bars fun n => bars.rtake n

theorem limitSeries_natCast (limit : Option ℕ) (bars : List Bar) :
    limitSeries (limit.map Nat.cast) bars = lastBars limit bars := by
  cases limit with
  | none => rfl
  | some n => simp [limitSeries, lastBars, List.rtake]

/-- One bar without bounds is the latest one. -/
theorem getBars_latest (st : ReplayState) (symbol timeframe : String) :
    getBars st symbol timeframe .none .none (some 1) =
      .ok (latestBar st symbol timeframe).toList := by
  have hlast (bars : List Bar) : bars.drop (bars.length - 1) = bars.getLast?.toList := by
    cases hbars : bars with
    | nil => rfl
    | cons bar rest =>
        rw [List.drop_length_sub_one (List.cons_ne_nil bar rest),
          List.getLast?_eq_some_getLast (List.cons_ne_nil bar rest)]
        rfl
  unfold getBars latestBar
  simp only [asDatetime, filterSeries_none, bind, Except.bind, pure, Except.pure]
  exact congrArg _ (hlast _)

/-- The bars with a symbol and a timeframe. -/
def seriesOf (symbol timeframe : String) (bars : List Bar) : List Bar :=
  bars.filter fun bar => (bar.instrumentId, bar.timeframe) = (symbol, timeframe)

/-- After the bars have been applied, a query returns the last ones within its bounds, and the
query for one bar without bounds is the query for the latest bar. -/
structure GetBarsMeets (cfg : AdapterConfig) (es : BarEvents) (symbol timeframe : String)
    (start stop : Bound) (limit : Option ℕ) : Prop where
  bars : getBars (applyBars cfg replayStateInit es) symbol timeframe start.val stop.val
      (limit.map Nat.cast) =
    .ok (lastBars limit ((seriesOf symbol timeframe (appliedBars cfg replayStateInit es)).filter
      fun bar => Within start.time? stop.time? bar))
  latest : getBars (applyBars cfg replayStateInit es) symbol timeframe .none .none (some 1) =
    .ok (latestBar (applyBars cfg replayStateInit es) symbol timeframe).toList

/-- A query returns the bars within its bounds exactly when the bounds compare with the bars of the
series: both have an offset or are missing, or every bar is before the start. -/
theorem get_bars_meets_iff (cfg : AdapterConfig) (es : BarEvents) (symbol timeframe : String)
    (start stop : Bound) (limit : Option ℕ) :
    GetBarsMeets cfg es symbol timeframe start stop limit ↔
      ∀ bar ∈ seriesOf symbol timeframe (appliedBars cfg replayStateInit es),
        Comparable start.time? stop.time? bar := by
  have hseries : (applyBars cfg replayStateInit es).byKey (symbol, timeframe) =
      seriesOf symbol timeframe (appliedBars cfg replayStateInit es) := by
    rw [byKey_applyBars]
    rfl
  have haware : ∀ bar ∈ seriesOf symbol timeframe (appliedBars cfg replayStateInit es),
      bar.timestamp.utcoffset.isSome = true :=
    fun bar hbar => aware_appliedBars cfg replayStateInit es bar (List.mem_filter.1 hbar).1
  constructor
  · intro h
    have hbars := h.bars
    unfold getBars at hbars
    simp only [asDatetime_val, bind_eq_ok] at hbars
    rcases hbars with ⟨_, hstart, _, hstop, filtered, hfilter, -⟩
    obtain rfl := Except.ok.inj hstart
    obtain rfl := Except.ok.inj hstop
    rw [hseries] at hfilter
    exact ((filterSeries_eq_ok_iff haware).1 hfilter).1
  · intro h
    constructor
    · unfold getBars
      rw [asDatetime_val, asDatetime_val, hseries]
      simp only [bind, Except.bind, (filterSeries_eq_ok_iff haware).2 ⟨h, rfl⟩, pure, Except.pure,
        limitSeries_natCast]
    · exact getBars_latest _ symbol timeframe

/-- A bridge whose bars are all accepted. -/
def acceptingBridge (defaultTf : String) : AdapterConfig where
  defaultTf := defaultTf
  onBar := true
  onQuote := true
  onTick := true
  onTimer := true
  onEvent := false
  acceptsBar _ := true
  acceptsQuote _ := true
  acceptsTick _ := true
  acceptsTimer _ := true

@[simp]
theorem defaultTf_acceptingBridge (defaultTf : String) :
    (acceptingBridge defaultTf).defaultTf = defaultTf :=
  rfl

/-- A bar at the epoch. -/
def epochBar : MarketBarEvent :=
  ⟨"market.bar", "X", .finite 1, .finite 1, .finite 1, .finite 1, .finite 1, 0⟩

theorem exists_applyBar (defaultTf : String) (st : ReplayState) (payload : PyDict) :
    ∃ bar, (applyBar (acceptingBridge defaultTf) st payload epochBar).2 = some bar := by
  have hepoch : (utcFromEpochMillis epochBar.tsMs).toOption.isSome = true := by decide +kernel
  rcases Option.isSome_iff_exists.1 hepoch with ⟨ts, hts⟩
  unfold applyBar
  rw [atEventTime_of_ok _ (eq_ok_of_toOption hts)]
  exact ⟨_, rfl⟩

/-- A midnight without an offset. -/
def naiveEpoch : PyDateTime where
  wall := epochWall
  utcoffset := none
  wall_range := PyDateTime.epochWall_range
  offset_range := PyDateTime.naive_offset_range

/-- A start without an offset does not compare with a stored bar. -/
theorem naive_start_raises :
    ¬ ∀ (cfg : AdapterConfig) (es : BarEvents) (symbol timeframe : String) (start stop : Bound)
      (limit : Option ℕ), GetBarsMeets cfg es symbol timeframe start stop limit := by
  intro h
  have hbars := (h (acceptingBridge "1m") [([], epochBar)] "X" "1m" (.time naiveEpoch) .unbounded
    none).bars
  have hraises : (getBars (applyBars (acceptingBridge "1m") replayStateInit [([], epochBar)]) "X"
      "1m" (.datetime naiveEpoch) .none none).toOption.isSome = false := by decide +kernel
  have hsome := congrArg (fun r => r.toOption.isSome) hbars
  exact Bool.false_ne_true (hraises.symm.trans hsome)

end Bootstrap
end StrategyWorker
