import StrategyWorker.Library.Crc32
import StrategyWorker.Library.Sha256
import StrategyWorker.MarketData.StreamPayload

/-!
# The streams of the live feed

The symbol of the launch payload goes through {lit}`_paper_live_symbol_allowlist`,
the partition function and the key expansion before the feed opens its streams.
The allow-list keeps the symbol in upper case, so the partition is that of the
ticker in upper case.

Main results:

- Theorem {lit}`expandMarketDataStreamKeys_singleton`: with one symbol, one key
  for each base.
- Theorem {lit}`live_streams_of_symbol`: the streams that the feed opens for a
  symbol.
-/

namespace StrategyWorker
namespace MarketData

open Library
open Library.PyText

/-! ## Upper case -/

/-- The full upper case of each character. -/
structure CaseTable where
  upperOf : Char → List Char
  ne_nil : ∀ c, upperOf c ≠ []
  not_space : ∀ c, isSpace c = false → ∀ d ∈ upperOf c, isSpace d = false

namespace CaseTable

/-- {lit}`str.upper`. -/
def upper (cases : CaseTable) (text : String) : String :=
  String.ofList (text.toList.flatMap cases.upperOf)

/-- The upper case of a text without padding has none. -/
theorem trimmed_upper (cases : CaseTable) {text : String} (h : Trimmed text) :
    Trimmed (cases.upper text) := by
  rcases h with ⟨hfirst, hlast⟩
  unfold Trimmed upper
  rw [String.toList_ofList]
  constructor
  · cases htext : text.toList with
    | nil => rfl
    | cons c cs =>
        rw [htext] at hfirst
        cases hupper : cases.upperOf c with
        | nil => exact absurd hupper (cases.ne_nil c)
        | cons d ds =>
            have hd := cases.not_space c (by simpa using hfirst) d (by rw [hupper]; simp)
            simp [hupper, hd]
  · rcases List.eq_nil_or_concat text.toList with htext | ⟨cs, c, htext⟩
    · rw [htext]
      rfl
    · rw [htext] at hlast
      rcases List.eq_nil_or_concat (cases.upperOf c) with hupper | ⟨ds, d, hupper⟩
      · exact absurd hupper (cases.ne_nil c)
      · have hd := cases.not_space c (by simpa using hlast) d (by rw [hupper]; simp)
        simp [htext, hupper, hd]

theorem upper_ne_empty (cases : CaseTable) {text : String} (h : text ≠ "") :
    cases.upper text ≠ "" := by
  cases htext : text.toList with
  | nil => exact absurd (String.toList_eq_nil_iff.1 htext) h
  | cons c cs =>
      intro hupper
      have hlist := congrArg String.toList hupper
      rw [upper, String.toList_ofList, htext, List.flatMap_cons] at hlist
      exact cases.ne_nil c (List.append_eq_nil_iff.1 hlist).1

end CaseTable

/-! ## Partitions -/

/-- {lit}`symbol_crc32`. -/
def symbolCrc32 (data : List Nat) : Nat :=
  crc32 data &&& 0xffffffff

/-- {lit}`market_data_partition`. -/
def marketDataPartition (symbol : String) (partitionCount : Int) : Except PyException Nat :=
  if partitionCount < 1 then .error ⟨.valueError, "partition_count must be >= 1"⟩
  else .ok (symbolCrc32 (Sha256.utf8 (strip symbol)) % partitionCount.toNat)

/-- {lit}`partitions_for_realtime_subscribe`. -/
def partitionsForRealtimeSubscribe (partitionCount : Int) (symbolFilter : Option (List String)) :
    Except PyException (List Nat) :=
  if partitionCount < 1 then .ok []
  else
    match symbolFilter with
    | none | some [] => .ok (List.range partitionCount.toNat)
    | some symbols => do
        let ordered ← symbols.foldlM (fun ordered sym => do
          let p ← marketDataPartition sym partitionCount
          return if p ∈ ordered then ordered else ordered ++ [p]) []
        return ordered.mergeSort

/-- The key of a partition of a stream. -/
def partitionKey (base : String) (p : Nat) : String :=
  base ++ ":" ++ toString p

/-- {lit}`expand_market_data_stream_keys`. -/
def expandMarketDataStreamKeys (streamBases : List String) (partitionCount : Int)
    (symbolFilter : Option (List String)) : Except PyException (List String) :=
  if partitionCount < 1 then .ok streamBases
  else do
    let parts ← partitionsForRealtimeSubscribe partitionCount symbolFilter
    return if parts = [] then streamBases
      else streamBases.flatMap fun base => parts.map (partitionKey base)

/-! ## The feed -/

/-- {lit}`normalize_bar_timeframe_label`. -/
def normalizeBarTimeframeLabel (raw : String) : String :=
  let t := lower (strip raw)
  if t ∈ ["1min", "60s", "60sec", "m1"] then "1m" else t

/-- {lit}`redis_md_stream_am_supports_timeframe`. -/
def redisMdStreamAmSupportsTimeframe (barTimeframe : String) : Bool :=
  normalizeBarTimeframeLabel barTimeframe = "1m"

/-- The stream of a feed, without the bars where their timeframe is not the aggregate one. -/
def streamOfFeed (keys : MarketDataRedisKeys) (timeframe feed : String) : Option String :=
  match lower (strip feed) with
  | "trades" => some keys.streamTrades
  | "quotes" => some keys.streamQuotes
  | "bars" => if redisMdStreamAmSupportsTimeframe timeframe then some keys.streamBars1m else none
  | _ => none

/-- {lit}`resolve_stream_names`. -/
def resolveStreamNames (feeds : List String) (barTimeframe : String) (keys : MarketDataRedisKeys) :
    List String :=
  let timeframe := if strip barTimeframe = "" then "1m" else strip barTimeframe
  feeds.foldl (fun out feed =>
    match streamOfFeed keys timeframe feed with
    | some key => if key ∈ out then out else out ++ [key]
    | none => out) []

/-- The settings that choose the streams. -/
structure LiveFeedSettings where
  marketDataRedisUrl : String
  marketDataFeeds : List String
  replayBarTimeframe : String
  keys : MarketDataRedisKeys
  partitionCount : Int

/-- The stream bases of the configured feeds. -/
def LiveFeedSettings.streamBases (settings : LiveFeedSettings) : List String :=
  resolveStreamNames
    (if settings.marketDataFeeds = [] then ["bars"] else settings.marketDataFeeds)
    settings.replayBarTimeframe settings.keys

section

variable (cases : CaseTable)

/-- {lit}`_paper_live_symbol_allowlist`. -/
def paperLiveSymbolAllowlist (launchPayload : PyDict) : Option (List String) :=
  match launchPayload.get "parameters" with
  | .dict params =>
      match PyDict.get params "symbol" with
      | .str sym => if strip sym = "" then none else some [cases.upper (strip sym)]
      | _ => none
  | _ => none

/-- {lit}`_paper_live_strategy_symbol`. -/
def paperLiveStrategySymbol (launchPayload : PyDict) : Option String :=
  (paperLiveSymbolAllowlist cases launchPayload).bind List.head?

/-- {lit}`_live_market_data_partition_scope`. -/
def liveMarketDataPartitionScope (launchPayload : PyDict) (partitionCount : Int) :
    Except PyException (Option (String × Nat × List String)) :=
  match paperLiveStrategySymbol cases launchPayload with
  | none => .ok none
  | some sym =>
      if sym = "" then .ok none
      else do
        let part ← marketDataPartition sym partitionCount
        return some (sym, part, [sym])

/-- The streams with which {lit}`_live_market_data_redis_worker` starts the loop, if it does. -/
def liveMarketDataRedisWorker (settings : LiveFeedSettings) (launchPayload : PyDict) :
    Except PyException (Option (List String)) :=
  if strip settings.marketDataRedisUrl = "" then .ok none
  else if settings.streamBases = [] then .ok none
  else do
    match ← liveMarketDataPartitionScope cases launchPayload settings.partitionCount with
    | none => return none
    | some (_, _, partitionSymbols) =>
        let streamNames ← expandMarketDataStreamKeys settings.streamBases settings.partitionCount
          (some partitionSymbols)
        return if streamNames = [] then none else some streamNames

end

/-! ## The streams of a symbol -/

theorem symbolCrc32_utf8 (text : String) :
    symbolCrc32 (Sha256.utf8 text) = crc32 (Sha256.utf8 text) := by
  have hbytes : ∀ byte ∈ Sha256.utf8 text, byte < 2 ^ 8 := by
    intro byte hbyte
    rcases List.mem_flatMap.1 hbyte with ⟨c, -, hc⟩
    rcases List.mem_map.1 hc with ⟨b, -, rfl⟩
    exact b.toNat_lt
  exact Nat.and_two_pow_sub_one_of_lt_two_pow (crc32_lt hbytes)

theorem marketDataPartition_eq {symbol : String} {n : Nat} (hn : 1 ≤ n) :
    marketDataPartition symbol n = .ok (crc32 (Sha256.utf8 (strip symbol)) % n) := by
  unfold marketDataPartition
  rw [if_neg (by omega), symbolCrc32_utf8, Int.toNat_natCast]

/-- A symbol alone has one partition. -/
theorem partitionsForRealtimeSubscribe_singleton {symbol : String} {n : Nat} (hn : 1 ≤ n) :
    partitionsForRealtimeSubscribe n (some [symbol]) =
      .ok [crc32 (Sha256.utf8 (strip symbol)) % n] := by
  unfold partitionsForRealtimeSubscribe
  rw [if_neg (by omega)]
  simp [marketDataPartition_eq hn, bind, Except.bind, pure, Except.pure]

/-- With one symbol, one key for each base. -/
theorem expandMarketDataStreamKeys_singleton (bases : List String) {symbol : String} {n : Nat}
    (hn : 1 ≤ n) :
    expandMarketDataStreamKeys bases n (some [symbol]) =
      .ok (bases.map fun base => partitionKey base (crc32 (Sha256.utf8 (strip symbol)) % n)) := by
  unfold expandMarketDataStreamKeys
  rw [if_neg (by omega), partitionsForRealtimeSubscribe_singleton hn]
  simp [bind, Except.bind, pure, Except.pure, List.map_eq_flatMap]

/-- The feed opens one partition of every stream: that of the symbol in upper case. -/
theorem live_streams_of_symbol (cases : CaseTable) {settings : LiveFeedSettings}
    {launchPayload params : PyDict} {s : String} {n : Nat}
    (hparams : launchPayload.get "parameters" = .dict params)
    (hsymbol : PyDict.get params "symbol" = .str s) (hs : strip s ≠ "")
    (hn : 1 ≤ n) (hcount : settings.partitionCount = n) :
    liveMarketDataRedisWorker cases settings launchPayload =
      .ok (if strip settings.marketDataRedisUrl = "" ∨ settings.streamBases = [] then none
        else some (settings.streamBases.map fun base =>
          partitionKey base (crc32 (Sha256.utf8 (cases.upper (strip s))) % n))) := by
  have hstrip : strip (cases.upper (strip s)) = cases.upper (strip s) :=
    strip_eq_self (cases.trimmed_upper (trimmed_strip s))
  have hscope : liveMarketDataPartitionScope cases launchPayload n =
      .ok (some (cases.upper (strip s), crc32 (Sha256.utf8 (cases.upper (strip s))) % n,
        [cases.upper (strip s)])) := by
    unfold liveMarketDataPartitionScope paperLiveStrategySymbol paperLiveSymbolAllowlist
    rw [hparams]
    simp only [hsymbol, if_neg hs, Option.bind_some, List.head?_cons,
      if_neg (cases.upper_ne_empty hs), marketDataPartition_eq hn, hstrip]
    rfl
  unfold liveMarketDataRedisWorker
  rw [hcount]
  by_cases hurl : strip settings.marketDataRedisUrl = ""
  · rw [if_pos hurl, if_pos (.inl hurl)]
  · rw [if_neg hurl]
    by_cases hbases : settings.streamBases = []
    · rw [if_pos hbases, if_pos (.inr hbases)]
    · rw [if_neg hbases, if_neg (not_or.2 ⟨hurl, hbases⟩), hscope]
      simp [expandMarketDataStreamKeys_singleton _ hn, hstrip, bind, Except.bind, pure,
        Except.pure, hbases]

theorem isSpace_toUpper {c : Char} (h : isSpace c = false) : isSpace c.toUpper = false := by
  unfold Char.toUpper
  split
  · rename_i hletter
    have hlow : 97 ≤ c.val.toNat := UInt32.le_iff_toNat_le.1 hletter.1
    have hhigh : c.val.toNat ≤ 122 := UInt32.le_iff_toNat_le.1 hletter.2
    have hnat : (c.val + ('A'.val - 'a'.val)).toNat = c.val.toNat - 32 := by
      have hdelta : ('A'.val - 'a'.val).toNat = 2 ^ 32 - 32 := by
        decide
      rw [UInt32.toNat_add, hdelta]
      omega
    unfold isSpace
    rw [show Char.toNat ⟨c.val + ('A'.val - 'a'.val), _⟩ = c.val.toNat - 32 from hnat]
    generalize c.val.toNat = n at hlow hhigh
    simp
    omega
  · exact h

/-- The case table of the letters in ASCII. -/
def asciiCases : CaseTable where
  upperOf := upperChar
  ne_nil c := by
    unfold upperChar
    split <;> simp
  not_space c hc d hd := by
    unfold upperChar at hd
    split at hd
    case h_11 =>
      obtain rfl := List.mem_singleton.1 hd
      exact isSpace_toUpper hc
    all_goals
      revert d
      decide

/-- Bars of the default streams in 128 partitions. -/
def barSettings : LiveFeedSettings where
  marketDataRedisUrl := "redis://market-data:6379/0"
  marketDataFeeds := ["bars"]
  replayBarTimeframe := "1m"
  keys := {}
  partitionCount := 128

def symbolPayload (symbol : String) : PyDict :=
  [("parameters", .dict [("symbol", .str symbol)])]

theorem live_streams_of_ticker :
    liveMarketDataRedisWorker asciiCases barSettings (symbolPayload " AAPL ") =
      .ok (some ["md:stream:am:92"]) := by
  have hblank : strip " AAPL " ≠ "" := by
    decide +kernel
  have hstreams := @live_streams_of_symbol asciiCases barSettings (symbolPayload " AAPL ") _ _ 128
    rfl rfl hblank (by omega) rfl
  rw [hstreams]
  decide +kernel

/-- A ticker in lower case: the feed opens the partition of its upper case, not its own. -/
theorem lower_case_ticker_streams :
    liveMarketDataRedisWorker asciiCases barSettings (symbolPayload "aapl") =
      .ok (some ["md:stream:am:92"]) ∧
    ["md:stream:am:92"] ≠ barSettings.streamBases.map fun base =>
      partitionKey base (crc32 (Sha256.utf8 (strip "aapl")) % 128) := by
  decide +kernel

end MarketData
end StrategyWorker
