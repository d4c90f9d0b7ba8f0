import StrategyWorker.Integration.SignalPayload

/-!
# Strategy parameters and wiring

The deployment service answers with the wiring of a worker (symbol, timeframe,
feeds) and with the parameters of its strategy.  The bundle merges both into one
dictionary, and the overrides of the strategy's parameter schema are separated
from it again by a set of reserved keys.

Main results:

- Theorem {lit}`parametersOf_workerBundle`: the parameters of a bundle are those
  of the strategy under the wiring of the response.
- Theorem {lit}`agreeOnWiring_iff`: when the wiring of a bundle does not depend on
  the parameters of the strategy.
- Theorem {lit}`keepsReserved_iff`: when no reserved key reaches the schema.
-/

namespace StrategyWorker
namespace Bootstrap

open Library Integration Events
open PyText

/-! ## The bundle of a response -/

/-- {lit}`_data_source_to_feed_list(raw)`. -/
def dataSourceToFeedList : PyVal → List String
  | .list xs => (xs.filter fun x => strip (pyStr x) ≠ "").map fun x => lower (strip (pyStr x))
  | .str raw =>
      let s := upper (strip raw)
      if s = "" then ["bars"]
      else if containsText s "," then
        (((s.toList.splitOn ',').map String.ofList).filter fun p => strip p ≠ "").map
          fun p => lower (strip p)
      else if s = "TRADE" ∨ s = "TRADES" then ["trades"]
      else if s = "QUOTE" ∨ s = "QUOTES" then ["quotes"]
      else ["bars"]
  | _ => ["bars"]

/-- The identity that {lit}`_runtime_identity_from_env` reads. -/
structure RuntimeIdentity where
  runtimeId : String
  strategyVersionId : String
  tenantId : String
  launchAttempt : Int

def RuntimeIdentity.toDict (identity : RuntimeIdentity) : PyDict :=
  [("runtime_id", .str identity.runtimeId), ("strategy_version_id", .str identity.strategyVersionId),
    ("tenant_id", .str identity.tenantId), ("launch_attempt", .int identity.launchAttempt)]

/-- {lit}`str(rc.get(key) or "").strip()`. -/
def contextText (rc : PyDict) (key : String) : String :=
  strip (pyStr ((rc.get key).orElse (.str "")))

/-- A text that is not blank is copied. -/
def copyText (rc : PyDict) (key : String) (out : PyDict) : PyDict :=
  if contextText rc key ≠ "" then out.set key (.str (contextText rc key)) else out

/-- {lit}`isinstance(value, str) and value.strip()`. -/
def strippedText? : PyVal → Option String
  | .str s => if strip s = "" then none else some (strip s)
  | _ => none

/-- The parameters of the strategy in a response. -/
def strategyParamsOf (rc : PyDict) : PyDict :=
  match rc.get "strategy_params" with
  | .dict sp => sp
  | _ => []

/-- The wiring of a response: what it sets of the reserved keys. -/
def wired (rc : PyDict) : List (String × Option PyVal) :=
  [("bar_timeframe",
      if contextText rc "bar_timeframe" = "" then none
      else some (.str (contextText rc "bar_timeframe"))),
    ("data_source",
      let feeds := dataSourceToFeedList (rc.get "data_source")
      if feeds = [] then none else some (.list (feeds.map .str))),
    ("symbol", (strippedText? (rc.get "symbol")).map .str),
    ("instrument_id",
      if contextText rc "instrument_id" = "" then none
      else some (.str (contextText rc "instrument_id")))]

/-- {lit}`params[key] = value` for the wiring that is there. -/
def setWired (params : PyDict) (field : String × Option PyVal) : PyDict :=
  match field.2 with
  | some value => params.set field.1 value
  | none => params

/-- The parameters of the bundle: those of the strategy, then the wiring. -/
def bundleParameters (rc : PyDict) : PyDict :=
  (wired rc).foldl setWired (strategyParamsOf rc)

/-- {lit}`initial_cash` as texts, when both fields are there. -/
def initialCash (rc : PyDict) : Option PyVal :=
  match rc.get "initial_cash" with
  | .dict cash =>
      if (PyDict.get cash "amount").isNone ∨ (PyDict.get cash "currency").isNone then none
      else some (.dict [("amount", .str (strip (pyStr (PyDict.get cash "amount")))),
        ("currency", .str (strip (pyStr (PyDict.get cash "currency"))))])
  | _ => none

/-- The fields of the response that are texts. -/
def contextTexts : List String :=
  ["strategy_version_id", "account_id", "mode", "entrypoint", "artifact_uri"]

/-- {lit}`worker_bundle_dict_from_runtime_context_response(rc, identity=identity)`. -/
def workerBundle (rc : PyDict) (identity : RuntimeIdentity) : PyDict :=
  let out := contextTexts.foldl (fun out key => copyText rc key out) identity.toDict
  let out := setWired out ("artifact_digest", (strippedText? (rc.get "artifact_digest")).map .str)
  let out := copyText rc "job_id" (copyText rc "correlation_id" out)
  let sp := strategyParamsOf rc
  let out := if sp = [] then out else out.set "strategy_params" (.dict sp)
  let params := bundleParameters rc
  let out := if params = [] then out else out.set "parameters" (.dict params)
  setWired out ("initial_cash", initialCash rc)

/-! ## The overrides of the parameter schema -/

/-- {lit}`_NON_STRATEGY_PARAMETER_KEYS`. -/
def nonStrategyParameterKeys : List String :=
  ["bar_timeframe", "data_source", "symbol", "instrument_id", "ts_start", "ts_end"]

/-- The dictionary under {lit}`parameters`. -/
def parametersOf (payload : PyDict) : PyDict :=
  match payload.get "parameters" with
  | .dict params => params
  | _ => []

/-- {lit}`strategy_parameter_overrides_from_launch_payload(launch_payload)`. -/
def strategyParameterOverrides (launchPayload : PyDict) : PyDict :=
  let sp := strategyParamsOf launchPayload
  if sp ≠ [] then
    sp.foldl (fun out f => if strip f.1 = "" then out else out.set (strip f.1) f.2) []
  else
    (parametersOf launchPayload).filter fun f =>
      strip f.1 ≠ "" ∧ f.1 ∉ nonStrategyParameterKeys

/-- One override of {lit}`merge_parameter_schema_with_strategy_overrides`. -/
def mergeOverride (merged : PyDict) (f : String × PyVal) : PyDict :=
  if strip f.1 = "" then merged
  else
    match merged.get? (strip f.1) with
    | some (.dict spec) => merged.set (strip f.1) (.dict (PyDict.set spec "default" f.2))
    | _ => merged.set (strip f.1) (.dict [("default", f.2)])

/-- {lit}`merge_parameter_schema_with_strategy_overrides(schema, overrides)`. -/
def mergeParameterSchema (schema overrides : PyDict) : PyDict :=
  overrides.foldl mergeOverride schema

/-! ## Wiring and parameters in a bundle -/

theorem get?_setWired (params : PyDict) (field : String × Option PyVal) (key : String) :
    (setWired params field).get? key =
      if field.1 = key then field.2.or (params.get? key) else params.get? key := by
  rcases field with ⟨name, value⟩
  cases value with
  | none => simp [setWired]
  | some value => simp [setWired, PyDict.get?_set]

theorem get?_copyText {rc out : PyDict} {key key' : String} (h : key ≠ key') :
    (copyText rc key out).get? key' = out.get? key' := by
  unfold copyText
  split
  · rw [PyDict.get?_set, if_neg h]
  · rfl

/-- What the response wires under a key. -/
def wiredAt (rc : PyDict) (key : String) : Option PyVal :=
  ((wired rc).find? fun field => field.1 = key).bind Prod.snd

/-- A key of the parameters holds the wiring of the response, or else what the strategy's parameters
hold there. -/
theorem get?_bundleParameters (rc : PyDict) (key : String) :
    (bundleParameters rc).get? key = (wiredAt rc key).or ((strategyParamsOf rc).get? key) := by
  have hfold : ∀ (fields : List (String × Option PyVal)) (params : PyDict),
      (fields.map Prod.fst).Nodup → (fields.foldl setWired params).get? key =
        ((fields.find? fun field => field.1 = key).bind Prod.snd).or (params.get? key) := by
    intro fields
    induction fields with
    | nil => simp
    | cons field fields ih =>
        intro params hnodup
        rcases List.nodup_cons.1 hnodup with ⟨hnew, hrest⟩
        rw [List.foldl_cons, ih _ hrest, get?_setWired, List.find?_cons]
        by_cases hkey : field.1 = key
        · have hnone : (fields.find? fun field => decide (field.1 = key)) = none := by
            rw [List.find?_eq_none]
            intro other hother hsame
            refine hnew (List.mem_map.2 ⟨other, hother, ?_⟩)
            rw [hkey]
            simpa using hsame
          simp [hkey, hnone]
        · simp [hkey]
  unfold bundleParameters wiredAt
  refine hfold (wired rc) (strategyParamsOf rc) ?_
  simp [wired]

theorem parametersOf_workerBundle (rc : PyDict) (identity : RuntimeIdentity) :
    parametersOf (workerBundle rc identity) = bundleParameters rc := by
  have hbefore : ∀ out : PyDict, out.get? "parameters" = none → ∀ params : PyDict,
      parametersOf (setWired (if params = [] then out else out.set "parameters" (.dict params))
        ("initial_cash", initialCash rc)) = params := by
    intro out hout params
    have hget : (setWired (if params = [] then out else out.set "parameters" (.dict params))
        ("initial_cash", initialCash rc)).get? "parameters" =
          if params = [] then none else some (.dict params) := by
      rw [get?_setWired]
      dsimp only
      rw [if_neg (by decide)]
      split
      · exact hout
      · rw [PyDict.get?_set, if_pos rfl]
    unfold parametersOf PyDict.get
    rw [hget]
    split_ifs with hempty
    · exact hempty.symm
    · rfl
  refine hbefore _ ?_ (bundleParameters rc)
  have hcommon : (copyText rc "job_id" (copyText rc "correlation_id"
      (setWired (contextTexts.foldl (fun out key => copyText rc key out) identity.toDict)
        ("artifact_digest", (strippedText? (rc.get "artifact_digest")).map .str)))).get?
          "parameters" = none := by
    rw [get?_copyText (by decide), get?_copyText (by decide), get?_setWired]
    dsimp only
    rw [if_neg (by decide)]
    simp only [contextTexts, List.foldl_cons, List.foldl_nil]
    rw [get?_copyText (by decide), get?_copyText (by decide), get?_copyText (by decide),
      get?_copyText (by decide), get?_copyText (by decide)]
    simp [RuntimeIdentity.toDict, PyDict.get?]
  split
  · exact hcommon
  · rw [PyDict.get?_set, if_neg (by decide)]
    exact hcommon

/-- Two bundles hold the same under every reserved key. -/
def AgreeOnWiring (bundle bundle' : PyDict) : Prop :=
  ∀ key ∈ nonStrategyParameterKeys,
    (parametersOf bundle).get? key = (parametersOf bundle').get? key

/-- Under every reserved key that the response leaves open, the strategy's parameters of both
responses hold the same. -/
def ParamsAgreeWhereOpen (rc rc' : PyDict) : Prop :=
  ∀ key ∈ nonStrategyParameterKeys, wiredAt rc key = none →
    (strategyParamsOf rc).get? key = (strategyParamsOf rc').get? key

/-- Responses that differ only in the strategy's parameters. -/
def DifferInParams (rc rc' : PyDict) : Prop :=
  ∀ key, key ≠ "strategy_params" → rc.get? key = rc'.get? key

/-- The wiring of a response does not depend on the strategy's parameters. -/
theorem wired_eq {rc rc' : PyDict} (h : DifferInParams rc rc') : wired rc = wired rc' := by
  have hget : ∀ key, key ≠ "strategy_params" → rc.get key = rc'.get key := by
    intro key hkey
    unfold PyDict.get
    rw [h key hkey]
  have htext : ∀ key, key ≠ "strategy_params" → contextText rc key = contextText rc' key := by
    intro key hkey
    unfold contextText
    rw [hget key hkey]
  unfold wired
  rw [htext "bar_timeframe" (by decide), htext "instrument_id" (by decide),
    hget "data_source" (by decide), hget "symbol" (by decide)]

/-- The wiring of two bundles agrees exactly when the strategy's parameters agree where the response
leaves the wiring open. -/
theorem agreeOnWiring_iff (identity : RuntimeIdentity) {rc rc' : PyDict}
    (h : DifferInParams rc rc') :
    AgreeOnWiring (workerBundle rc identity) (workerBundle rc' identity) ↔
      ParamsAgreeWhereOpen rc rc' := by
  have hwired : ∀ key, wiredAt rc' key = wiredAt rc key := by
    intro key
    unfold wiredAt
    rw [wired_eq h]
  unfold AgreeOnWiring ParamsAgreeWhereOpen
  simp only [parametersOf_workerBundle, get?_bundleParameters, hwired]
  refine forall₂_congr fun key _ => ?_
  cases wiredAt rc key <;> simp

/-! ## Reserved keys and the schema -/

/-- The keys that overrides write. -/
theorem get?_mergeOverride (merged : PyDict) (f : String × PyVal) (key : String) :
    (mergeOverride merged f).get? key = merged.get? key ∨
      (strip f.1 ≠ "" ∧ strip f.1 = key) := by
  unfold mergeOverride
  by_cases hblank : strip f.1 = ""
  · rw [if_pos hblank]
    exact .inl rfl
  · rw [if_neg hblank]
    by_cases hkey : strip f.1 = key
    · exact .inr ⟨hblank, hkey⟩
    · left
      split
      · rw [PyDict.get?_set, if_neg hkey]
      · rw [PyDict.get?_set, if_neg hkey]

theorem isSome_mergeOverride {merged : PyDict} {key : String} (f : String × PyVal)
    (h : (merged.get? key).isSome) : ((mergeOverride merged f).get? key).isSome := by
  unfold mergeOverride
  split
  · exact h
  · split
    · rw [PyDict.get?_set]
      split
      · rfl
      · exact h
    · rw [PyDict.get?_set]
      split
      · rfl
      · exact h

/-- A key that no override spells stays as it is. -/
theorem get?_merge_of_not_spelled {overrides : PyDict} {key : String}
    (h : ∀ f ∈ overrides, strip f.1 ≠ key) (schema : PyDict) :
    (mergeParameterSchema schema overrides).get? key = schema.get? key := by
  unfold mergeParameterSchema
  induction overrides generalizing schema with
  | nil => rfl
  | cons f overrides ih =>
      rw [List.foldl_cons, ih fun g hg => h g (List.mem_cons_of_mem _ hg)]
      rcases get?_mergeOverride schema f key with hsame | ⟨-, hkey⟩
      · exact hsame
      · exact absurd hkey (h f List.mem_cons_self)

/-- A key that an override spells is in the schema. -/
theorem isSome_merge {overrides : PyDict} {f : String × PyVal} (hmem : f ∈ overrides)
    (hblank : strip f.1 ≠ "") (schema : PyDict) :
    ((mergeParameterSchema schema overrides).get? (strip f.1)).isSome := by
  have hkeep : ∀ (overrides merged : PyDict), (merged.get? (strip f.1)).isSome →
      ((overrides.foldl mergeOverride merged).get? (strip f.1)).isSome := by
    intro overrides
    induction overrides with
    | nil => exact fun merged h => h
    | cons g overrides ih => exact fun merged h => ih _ (isSome_mergeOverride g h)
  unfold mergeParameterSchema
  induction overrides generalizing schema with
  | nil => cases hmem
  | cons g overrides ih =>
      rcases List.mem_cons.1 hmem with rfl | hmem
      · refine hkeep overrides _ ?_
        unfold mergeOverride
        rw [if_neg hblank]
        split
        · rw [PyDict.get?_set, if_pos rfl]
          rfl
        · rw [PyDict.get?_set, if_pos rfl]
          rfl
      · exact ih hmem _

/-- The overrides of a payload leave every key of a schema alone that is reserved up to the spaces
around it. -/
def KeepsReserved (launchPayload : PyDict) : Prop :=
  ∀ (schema : PyDict) (key : String), strip key ∈ nonStrategyParameterKeys →
    (mergeParameterSchema schema (strategyParameterOverrides launchPayload)).get? key =
      schema.get? key

/-- The parameters of a payload spell reserved keys without spaces around them. -/
def SpellsReserved (launchPayload : PyDict) : Prop :=
  ∀ f ∈ parametersOf launchPayload, strip f.1 ∈ nonStrategyParameterKeys →
    f.1 ∈ nonStrategyParameterKeys

theorem overrides_without_params {launchPayload : PyDict}
    (h : launchPayload.get? "strategy_params" = none) :
    strategyParameterOverrides launchPayload = (parametersOf launchPayload).filter fun f =>
      strip f.1 ≠ "" ∧ f.1 ∉ nonStrategyParameterKeys := by
  have hparams : strategyParamsOf launchPayload = [] := by
    simp [strategyParamsOf, PyDict.get, h]
  unfold strategyParameterOverrides
  rw [hparams, if_neg (by simp)]

/-- No reserved key reaches the schema exactly when the payload spells none with spaces around it. -/
theorem keepsReserved_iff {launchPayload : PyDict}
    (h : launchPayload.get? "strategy_params" = none) :
    KeepsReserved launchPayload ↔ SpellsReserved launchPayload := by
  unfold KeepsReserved
  rw [overrides_without_params h]
  constructor
  · intro hkeeps f hf hreserved
    by_contra hnot
    have hblank : strip f.1 ≠ "" := by
      intro hempty
      rw [hempty] at hreserved
      revert hreserved
      decide
    have hmem : f ∈ (parametersOf launchPayload).filter fun f =>
        strip f.1 ≠ "" ∧ f.1 ∉ nonStrategyParameterKeys :=
      List.mem_filter.2 ⟨hf, by simp [hblank, hnot]⟩
    have hsome := isSome_merge hmem hblank []
    rw [hkeeps [] (strip f.1) (by rwa [strip_strip])] at hsome
    cases hsome
  · intro hspells schema key hreserved
    refine get?_merge_of_not_spelled ?_ schema
    rintro f hf rfl
    rcases List.mem_filter.1 hf with ⟨hmem, hkept⟩
    rw [strip_strip] at hreserved
    have hnot : f.1 ∉ nonStrategyParameterKeys := (of_decide_eq_true hkept).2
    exact hnot (hspells f hmem hreserved)

/-! ## Wiring is separated from strategy parameters -/

/-- Bundles of responses that differ only in the strategy's parameters agree on the wiring exactly
when these parameters agree where the wiring is left open, and a payload without strategy parameters
keeps the reserved keys out of the schema exactly when it spells none of them with spaces. -/
theorem wiring_separated_iff (identity : RuntimeIdentity) (rc rc' launchPayload : PyDict)
    (hdiffer : DifferInParams rc rc') (hnone : launchPayload.get? "strategy_params" = none) :
    (AgreeOnWiring (workerBundle rc identity) (workerBundle rc' identity) ↔
      ParamsAgreeWhereOpen rc rc') ∧
        (KeepsReserved launchPayload ↔ SpellsReserved launchPayload) :=
  ⟨agreeOnWiring_iff identity hdiffer, keepsReserved_iff hnone⟩

def firstIdentity : RuntimeIdentity :=
  ⟨"rt-1", "sv-1", "", 1⟩

/-- A response without a symbol. -/
def openResponse (strategyParams : PyDict) : PyDict :=
  [("bar_timeframe", .str "1m"), ("data_source", .str "BAR"), ("instrument_id", .str "inst_iwm"),
    ("strategy_params", .dict strategyParams)]

/-- Its strategy parameters that name a symbol. -/
def symbolParams : PyDict :=
  [("symbol", .str "IWM")]

theorem differInParams_open (sp sp' : PyDict) :
    DifferInParams (openResponse sp) (openResponse sp') := by
  intro key hkey
  have hne : "strategy_params" ≠ key := fun h => hkey h.symm
  simp only [openResponse, PyDict.get?_cons, if_neg hne]

theorem wiring_separated_lookback :
    (AgreeOnWiring (workerBundle (openResponse []) firstIdentity)
        (workerBundle (openResponse [("lookback", .int 20)]) firstIdentity) ↔
      ParamsAgreeWhereOpen (openResponse []) (openResponse [("lookback", .int 20)])) ∧
        (KeepsReserved [("parameters", .dict symbolParams)] ↔
          SpellsReserved [("parameters", .dict symbolParams)]) :=
  wiring_separated_iff firstIdentity _ _ _ (differInParams_open _ _) (by decide)

/-- A symbol among the strategy's parameters becomes the symbol of the wiring, and a symbol with a
space reaches the schema. -/
theorem strategy_params_select_symbol :
    (DifferInParams (openResponse []) (openResponse symbolParams) ∧
      ¬ AgreeOnWiring (workerBundle (openResponse []) firstIdentity)
        (workerBundle (openResponse symbolParams) firstIdentity)) ∧
      ¬ KeepsReserved [("parameters", .dict [("symbol ", .str "IWM")])] := by
  refine ⟨⟨differInParams_open _ _, fun hagree => ?_⟩, fun hkeeps => ?_⟩
  · have hsymbol := hagree "symbol" (by decide)
    revert hsymbol
    simp only [parametersOf_workerBundle, get?_bundleParameters]
    have hopen : wiredAt (openResponse []) "symbol" = none := by decide +kernel
    have hopen' : wiredAt (openResponse symbolParams) "symbol" = none := by decide +kernel
    rw [hopen, hopen']
    simp [strategyParamsOf, openResponse, PyDict.get, symbolParams, PyDict.get?]
  · have hempty := hkeeps [] "symbol" (by decide +kernel)
    have hsome : ((mergeParameterSchema [] (strategyParameterOverrides
        [("parameters", .dict [("symbol ", .str "IWM")])])).get? "symbol").isSome = true := by
      decide +kernel
    rw [hempty] at hsome
    cases hsome

end Bootstrap
end StrategyWorker
