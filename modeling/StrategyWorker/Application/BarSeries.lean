import StrategyWorker.Application.PushReplay
import StrategyWorker.Bootstrap.BarQueries

/-!
# The series that a replayed bar is filed in

The replay filter compares the label of a bar with the configured timeframe
after folding case, spaces and aliases.  The bridge files the bar under its
label when that is spelled as one of nine timeframes, and under a default that
is derived from the configured timeframe otherwise.  It also reads a second
key, which the filter does not.

Main results:

- Theorem {lit}`filedInDefault_iff`: bars go to the default series when the
  label that the bridge reads resolves to it.
- Theorem {lit}`series_right_iff`: for which bars of the market the filter and
  the bridge agree.
-/

namespace StrategyWorker
namespace Application

open Library
open Library.PyText
open Library.Binary64
open Integration
open Bootstrap

/-! ## The configured timeframe -/

/-- {lit}`getattr(settings, "replay_bar_timeframe", None) or "1m"`. -/
def expectedBarTimeframe (configured : String) : String :=
  if configured = "" then "1m" else configured

/-- The default timeframe of {lit}`build_replay_sdk_bridge`. -/
def bridgeDefault (configured : String) : String :=
  let defaultTf := if strip configured = "" then "1m" else strip configured
  if defaultTf ∈ validTimeframes then defaultTf else "1m"

/-! ## Labels -/

/-- {lit}`str(payload.get(key) or "").strip()`. -/
def labelOf (payload : PyDict) (key : String) : String :=
  strip ((payload.get key).orElse (.str "")).text

/-- The filter takes the payload for a bar of the market. -/
def IsMarketBar (payload : PyDict) : Prop :=
  lower (strip (((payload.get "type").orElse (payload.get "event_type")).orElse (.str "")).text) =
    "market.bar"

instance (payload : PyDict) : Decidable (IsMarketBar payload) :=
  inferInstanceAs (Decidable (_ = _))

/-- A bar has no label under a key, or one for the configured timeframe. -/
def DenotesTimeframe (configured : String) (payload : PyDict) (key : String) : Prop :=
  labelOf payload key = "" ∨ normalizeBarTimeframeLabel (labelOf payload key) =
    normalizeBarTimeframeLabel (expectedBarTimeframe configured)

instance (configured : String) (payload : PyDict) (key : String) :
    Decidable (DenotesTimeframe configured payload key) :=
  inferInstanceAs (Decidable (_ ∨ _))

/-- The bridge reads a label that is spelled as one of its timeframes. -/
def BridgeReads (payload : PyDict) (label : String) : Prop :=
  (payload.get "timeframe").orElse (payload.get "bar_timeframe") = .str label ∧
    label ∈ validTimeframes

/-- The configured timeframe is spelled as one of the bridge's, or means one minute. -/
def PlainlyConfigured (configured : String) : Prop :=
  strip configured ∈ validTimeframes ∨
    normalizeBarTimeframeLabel (expectedBarTimeframe configured) = "1m"

instance (configured : String) : Decidable (PlainlyConfigured configured) :=
  inferInstanceAs (Decidable (_ ∨ _))

section

variable {configured : String} {payload : PyDict} {key label : String}

/-- The filter looks at one of the two keys. -/
theorem skip_eq_false_iff (hbar : IsMarketBar payload) :
    skipBacktestReplayTickForIngest payload (expectedBarTimeframe configured) = false ↔
      DenotesTimeframe configured payload "timeframe" := by
  have hbar' : lower (strip (((payload.get "type").orElse (payload.get "event_type")).orElse
      (.str "")).text) = "market.bar" := hbar
  unfold skipBacktestReplayTickForIngest DenotesTimeframe labelOf
  dsimp only
  rw [hbar', if_neg (by simp)]
  split
  · rename_i hblank
    simp [hblank]
  · rename_i hlabel
    simp [hlabel]

/-- The timeframes of the bridge are their own labels. -/
theorem normalize_of_valid (h : label ∈ validTimeframes) :
    label ≠ "" ∧ strip label = label ∧ normalizeBarTimeframeLabel label = label := by
  have hall : ∀ tf ∈ validTimeframes,
      tf ≠ "" ∧ strip tf = tf ∧ normalizeBarTimeframeLabel tf = tf := by decide
  exact hall label h

theorem normalize_strip (label : String) :
    normalizeBarTimeframeLabel (strip label) = normalizeBarTimeframeLabel label := by
  simp only [normalizeBarTimeframeLabel, strip_strip]

theorem labelOf_of_valid (hget : payload.get key = .str label) (h : label ∈ validTimeframes) :
    labelOf payload key = label := by
  rcases normalize_of_valid h with ⟨hne, hstrip, -⟩
  rw [labelOf, hget, PyVal.orElse, if_pos (by simpa [PyVal.truthy] using hne)]
  exact hstrip

/-- What the bridge reads stands under one of the two keys. -/
theorem exists_key_of_bridgeReads (h : BridgeReads payload label) :
    ∃ key ∈ ["timeframe", "bar_timeframe"], labelOf payload key = label := by
  rcases h with ⟨hget, hvalid⟩
  unfold PyVal.orElse at hget
  split at hget
  · exact ⟨"timeframe", by simp, labelOf_of_valid hget hvalid⟩
  · exact ⟨"bar_timeframe", by simp, labelOf_of_valid hget hvalid⟩

/-- A label that the bridge reads is the folded configured timeframe when both keys denote it. -/
theorem eq_of_bridgeReads (hfirst : DenotesTimeframe configured payload "timeframe")
    (hsecond : DenotesTimeframe configured payload "bar_timeframe") (h : BridgeReads payload label) :
    label = normalizeBarTimeframeLabel (expectedBarTimeframe configured) := by
  rcases normalize_of_valid h.2 with ⟨hne, -, hnormal⟩
  rcases exists_key_of_bridgeReads h with ⟨key, hkey, hlabel⟩
  have hdenotes : DenotesTimeframe configured payload key := by
    rcases List.mem_pair.1 hkey with rfl | rfl
    · exact hfirst
    · exact hsecond
  unfold DenotesTimeframe at hdenotes
  rw [hlabel, hnormal] at hdenotes
  exact hdenotes.resolve_left hne

/-- The default of the bridge is the folded configured timeframe when that is plainly given. -/
theorem bridgeDefault_eq (hplain : PlainlyConfigured configured) :
    bridgeDefault configured = normalizeBarTimeframeLabel (expectedBarTimeframe configured) := by
  by_cases hvalid : strip configured ∈ validTimeframes
  · rcases normalize_of_valid hvalid with ⟨hne, -, hnormal⟩
    have hgiven : configured ≠ "" := by
      intro hempty
      rw [hempty] at hne
      exact hne (by decide)
    rw [expectedBarTimeframe, if_neg hgiven, ← normalize_strip, hnormal]
    simp [bridgeDefault, hne, hvalid]
  · have hminute := hplain.resolve_left hvalid
    rw [hminute]
    have hone : "1m" ∈ validTimeframes := by decide
    unfold bridgeDefault
    by_cases hblank : strip configured = ""
    · simp [hblank, hone]
    · simp [hblank, hvalid]

theorem resolveTimeframe_of_bridgeReads (cfg : AdapterConfig) (h : BridgeReads payload label) :
    resolveTimeframe cfg payload = label := by
  unfold resolveTimeframe
  rw [h.1]
  exact if_pos h.2

theorem resolveTimeframe_default {cfg : AdapterConfig} (h : ∀ label, ¬ BridgeReads payload label) :
    resolveTimeframe cfg payload = cfg.defaultTf := by
  unfold resolveTimeframe
  split
  · rename_i raw hraw
    exact if_neg fun hvalid => h raw ⟨hraw, hvalid⟩
  · rfl

end

/-! ## Filter and bridge -/

/-- The bridge files a payload's bars in the series of its default timeframe, and in no other. -/
structure FiledInDefault (configured : String) (payload : PyDict) : Prop where
  filed : ∀ (cfg : AdapterConfig) (st : ReplayState) (event : MarketBarEvent) (bar : Bar),
    cfg.defaultTf = bridgeDefault configured → (applyBar cfg st payload event).2 = some bar →
      (applyBar cfg st payload event).1.byKey (bar.instrumentId, cfg.defaultTf) =
        st.byKey (bar.instrumentId, cfg.defaultTf) ++ [bar]
  others : ∀ (cfg : AdapterConfig) (st : ReplayState) (event : MarketBarEvent)
    (symbol tf : String), cfg.defaultTf = bridgeDefault configured → tf ≠ cfg.defaultTf →
      (applyBar cfg st payload event).1.byKey (symbol, tf) = st.byKey (symbol, tf)

/-- A bar that is admitted is filed in the default series, and a bar with a label for another
timeframe is not admitted. -/
structure SeriesRight (configured : String) (payload : PyDict) : Prop where
  admitted : skipBacktestReplayTickForIngest payload (expectedBarTimeframe configured) = false →
    FiledInDefault configured payload
  rejected : ∀ key ∈ ["timeframe", "bar_timeframe"], ¬ DenotesTimeframe configured payload key →
    skipBacktestReplayTickForIngest payload (expectedBarTimeframe configured) = true

/-- The bar has a label for another timeframe where the filter looks; or its other label is not
for another timeframe either, and the default of the bridge is spelled as the label that it
reads. -/
def SameTimeframe (configured : String) (payload : PyDict) : Prop :=
  ¬ DenotesTimeframe configured payload "timeframe" ∨
    DenotesTimeframe configured payload "bar_timeframe" ∧
      ((∃ label, BridgeReads payload label) → PlainlyConfigured configured)

section

variable {configured : String} {payload : PyDict}

/-- Bars are filed in the default series when their label resolves to it, and only then. -/
theorem filedInDefault_iff :
    FiledInDefault configured payload ↔
      ∀ label, BridgeReads payload label → label = bridgeDefault configured := by
  constructor
  · intro h label hlabel
    rcases exists_applyBar (bridgeDefault configured) replayStateInit payload with ⟨bar, hbar⟩
    have hfiled := h.filed (acceptingBridge (bridgeDefault configured)) replayStateInit epochBar bar
      (defaultTf_acceptingBridge _) hbar
    have hresolve := resolveTimeframe_of_filed hfiled
    rw [resolveTimeframe_of_bridgeReads _ hlabel] at hresolve
    exact hresolve.trans (defaultTf_acceptingBridge _)
  · intro h
    have hresolve (cfg : AdapterConfig) (hcfg : cfg.defaultTf = bridgeDefault configured) :
        resolveTimeframe cfg payload = cfg.defaultTf := by
      by_cases hread : ∃ label, BridgeReads payload label
      · rcases hread with ⟨label, hlabel⟩
        rw [resolveTimeframe_of_bridgeReads cfg hlabel, h label hlabel, hcfg]
      · exact resolveTimeframe_default (not_exists.1 hread)
    constructor
    · intro cfg st event bar hcfg hbar
      have hfiled := byKey_applyBar hbar
      rwa [hresolve cfg hcfg] at hfiled
    · intro cfg st event symbol tf hcfg hne
      rw [← hresolve cfg hcfg] at hne
      exact byKey_applyBar_of_ne hne

/-- A label that is for the configured timeframe resolves to the default when that is plainly
configured, and only then. -/
theorem default_of_bridgeReads_iff {label : String}
    (hfirst : DenotesTimeframe configured payload "timeframe")
    (hsecond : DenotesTimeframe configured payload "bar_timeframe")
    (hread : BridgeReads payload label) :
    label = bridgeDefault configured ↔ PlainlyConfigured configured := by
  have hlabel := eq_of_bridgeReads hfirst hsecond hread
  constructor
  · intro hdefault
    by_cases hvalid : strip configured ∈ validTimeframes
    · exact Or.inl hvalid
    · right
      rw [← hlabel, hdefault, bridgeDefault]
      by_cases hblank : strip configured = ""
      · simp [hblank]
      · simp [hblank, hvalid]
  · intro hplain
    rw [hlabel, bridgeDefault_eq hplain]

end

/-! ## Two bars -/

/-- A one-minute bar for a worker that is configured for one minute. -/
def minuteBar : PyDict :=
  [("type", .str "market.bar"), ("timeframe", .str "1min")]

/-- A bar whose label stands under the second key. -/
def secondKeyBar : PyDict :=
  [("type", .str "market.bar"), ("bar_timeframe", .str "5m")]

end Application
end StrategyWorker
