import Mathlib.Data.List.Sort
import StrategyWorker.Domain.RuntimeState
import StrategyWorker.Library.FieldErrors
import StrategyWorker.Library.PyValue

/-!
# Launch specifications

{lit}`LaunchSpec.from_payload`, which checks the fields of a launch payload and
collects what is wrong with them, and what a payload and its specification have
in common when nothing is.

Main results:

- Theorem {lit}`fromPayload_eq_ok`: a payload is accepted as a specification
  exactly when its fields hold what the specification says.
- Theorem {lit}`LaunchSpec.wellFormed_of_fromPayload`: the texts of an accepted
  specification are neither empty nor padded, and the bounds are there for a
  backtest and for nothing else.
-/

namespace StrategyWorker
namespace Bootstrap

open Library
open Library.PyText
open Library.Checked
open Domain

/-! ## One field -/

/-- The fields of the payload that are checked, each with at most one error. -/
abbrev Check (α : Type) := Checked String String α

/-- {lit}`_require_string`: a text that is neither empty nor padded. -/
def requireString (payload : PyDict) (fieldName : String) (required : Bool) :
    Check (Option String) :=
  match payload.get? fieldName with
  | none =>
      if required then do
        note fieldName "required_field_missing"
        return none
      else return none
  | some (.str value) =>
      if value = "" then do
        note fieldName "must_not_be_empty"
        return none
      else if value ≠ strip value then do
        note fieldName "must_not_have_surrounding_whitespace"
        return none
      else return some value
  | some _ => do
      note fieldName "wrong_type_expected_string"
      return none

/-- The field is missing and reads as {lit}`none`, or holds a text that is neither empty nor
padded. -/
inductive HoldsText (payload : PyDict) (fieldName : String) : Option String → Prop where
  | absent : payload.get? fieldName = none → HoldsText payload fieldName none
  | present (value : String) : payload.get? fieldName = some (.str value) → value ≠ "" →
      strip value = value → HoldsText payload fieldName (some value)

theorem HoldsText.eq_none {payload : PyDict} {fieldName : String} {field : Option String}
    (h : HoldsText payload fieldName field) (hget : payload.get? fieldName = none) :
    field = none := by
  cases h with
  | absent _ => rfl
  | present value hvalue _ _ =>
      rw [hget] at hvalue
      cases hvalue

theorem passes_requireString {payload : PyDict} {fieldName : String} {required : Bool}
    {value : Option String} :
    Passes (requireString payload fieldName required) value ↔
      HoldsText payload fieldName value ∧ (required = true → value.isSome = true) := by
  constructor
  · intro h
    unfold requireString at h
    split at h
    · rename_i hget
      cases required with
      | true => simp at h
      | false =>
          have hnone : none = value := by simpa using h
          subst hnone
          exact ⟨.absent hget, by simp⟩
    · rename_i text hget
      by_cases hempty : text = ""
      · simp [hempty] at h
      · by_cases hstrip : text = strip text
        · have hsome : some text = value := by simpa [hempty, ← hstrip] using h
          subst hsome
          exact ⟨.present text hget hempty hstrip.symm, by simp⟩
        · simp [hempty, hstrip] at h
    · simp at h
  · rintro ⟨hholds, hrequired⟩
    unfold requireString
    cases hholds with
    | absent hget =>
        have hopt : required = false := by simpa using hrequired
        simp [hget, hopt]
    | present text hget hempty hstrip => simp [hget, hempty, hstrip]

/-- An optional field of the bundle that holds an object or {lit}`None`. -/
def checkObjectOrNull (payload : PyDict) (fieldName : String) : Check Unit :=
  match payload.get? fieldName with
  | none | some .none | some (.dict _) => return ()
  | some _ => note fieldName "wrong_type_expected_object_or_null"

/-- The field is missing, {lit}`None` or an object. -/
def ObjectOrNull (payload : PyDict) (fieldName : String) : Prop :=
  payload.get fieldName = .none ∨ ∃ fields, payload.get fieldName = .dict fields

theorem passes_checkObjectOrNull {payload : PyDict} {fieldName : String} {u : Unit} :
    Passes (checkObjectOrNull payload fieldName) u ↔ ObjectOrNull payload fieldName := by
  unfold checkObjectOrNull ObjectOrNull PyDict.get
  cases payload.get? fieldName with
  | none => simp
  | some v => cases v <;> simp

/-! ## The fields of a specification -/

/-- {lit}`_ALLOWED_FIELDS`, the required and the optional ones. -/
def allowedFields : List String :=
  ["runtime_id", "strategy_version_id", "mode", "launch_attempt", "entrypoint", "account_id",
    "tenant_id", "trader_id", "artifact_digest", "artifact_uri", "artifact_reference",
    "validated_parameter_identity", "parameter_hash", "job_id", "ts_start", "ts_end", "symbol",
    "correlation_id"]

/-- The keys that a payload may have; {lit}`backtest_job_id` is for backtests only. -/
def allowedTopLevel (payload : PyDict) : List String :=
  allowedFields ++ ["parameters", "strategy_params", "initial_cash"] ++
    match payload.get "mode" with
    | .str mode => if mode = "BACKTEST" then ["backtest_job_id"] else []
    | _ => []

/-- {lit}`sorted(set(payload.keys()) - allowed_top_level)`. -/
def unknownFields (payload : PyDict) : List String :=
  (((payload.map Prod.fst).filter fun key => key ∉ allowedTopLevel payload).dedup).insertionSort
    (· ≤ ·)

theorem unknownFields_eq_nil {payload : PyDict} (h : ∀ f ∈ payload, f.1 ∈ allowedFields) :
    unknownFields payload = [] := by
  have hnone : (payload.map Prod.fst).filter (fun key => key ∉ allowedTopLevel payload) = [] := by
    rw [List.filter_eq_nil_iff]
    intro key hkey
    rcases List.mem_map.1 hkey with ⟨f, hf, rfl⟩
    have hallowed : f.1 ∈ allowedTopLevel payload :=
      List.mem_append_left _ (List.mem_append_left _ (h f hf))
    simpa using hallowed
  rw [unknownFields, hnone]
  rfl

def checkUnknownFields (payload : PyDict) : Check Unit :=
  if unknownFields payload = [] then return ()
  else note "payload" ("unknown_fields:" ++ ",".intercalate (unknownFields payload))

/-- {lit}`tenant_id` may be missing, {lit}`None` or blank. -/
def readTenantId (payload : PyDict) : Check String :=
  match payload.get "tenant_id" with
  | .none => return ""
  | .str value => return strip value
  | _ => do
      note "tenant_id" "wrong_type_expected_string_or_null"
      return ""

/-- {lit}`artifact_uri`, or else its older name; it is missing when neither is there, and when one
of them is wrong that has been noted already. -/
def chooseArtifactUri (artifactUriVal artifactRefVal : Option String) : Check (Option String) :=
  match artifactUriVal, artifactRefVal with
  | some uri, _ => return some uri
  | none, some ref => return some ref
  | none, none => do
      let fieldErrors ← noted
      if ¬ Assoc.contains fieldErrors "artifact_uri" ∧
          ¬ Assoc.contains fieldErrors "artifact_reference" then
        note "artifact_uri" "required_field_missing"
        return none
      else return none

/-- {lit}`skip_artifact_digest_validation()`. -/
def skipArtifactDigestValidation : Bool :=
  true

/-- {lit}`artifact_digest`, which is optional while its validation is skipped. -/
def readArtifactDigest (payload : PyDict) : Check (Option String) :=
  if skipArtifactDigestValidation then
    match payload.get "artifact_digest" with
    | .none => return none
    | .str value =>
        if strip value = "" then return none
        else if value ≠ strip value then do
          note "artifact_digest" "must_not_have_surrounding_whitespace"
          return none
        else return some (strip value)
    | _ => do
        note "artifact_digest" "wrong_type_expected_string"
        return none
  else requireString payload "artifact_digest" true

/-- {lit}`parameters.symbol`, for a payload without a {lit}`symbol` of its own. -/
def nestedSymbol (payload : PyDict) : Option String :=
  match payload.get "parameters" with
  | .dict parameters =>
      match PyDict.get parameters "symbol" with
      | .str nested => if strip nested ≠ "" then some (strip nested) else none
      | _ => none
  | _ => none

/-- {lit}`correlation_id`, which may be {lit}`None` or blank. -/
def readCorrelationId (payload : PyDict) : Check (Option String) :=
  match payload.get "correlation_id" with
  | .none => return none
  | .str value => return if strip value = "" then none else some (strip value)
  | _ => do
      note "correlation_id" "wrong_type_expected_string"
      return none

def readMode (payload : PyDict) : Check RuntimeMode :=
  match payload.get "mode" with
  | .none => do
      note "mode" "required_field_missing"
      return .paper
  | .str value =>
      match RuntimeMode.ofValue? value with
      | some mode => return mode
      | none => do
          note "mode" ("invalid_mode:" ++ value)
          return .paper
  | _ => do
      note "mode" "wrong_type_expected_string"
      return .paper

/-- {lit}`launch_attempt`; a truth value is no integer. -/
def readLaunchAttempt (payload : PyDict) : Check Int :=
  match payload.get "launch_attempt" with
  | .none => do
      note "launch_attempt" "required_field_missing"
      return 1
  | .int value =>
      if value < 1 then do
        note "launch_attempt" "must_be_greater_or_equal_to_1"
        return value
      else return value
  | _ => do
      note "launch_attempt" "wrong_type_expected_integer"
      return 1

/-- The bounds of the replay are given for a backtest and for no other mode. -/
def checkBounds (mode : RuntimeMode) (tsStart tsEnd : Option String) : Check Unit :=
  if mode ≠ .backtest ∧ (tsStart ≠ none ∨ tsEnd ≠ none) then
    note "parameters" "ts_start_ts_end_only_allowed_for_backtest_mode"
  else if mode = .backtest ∧ (tsStart = none ∨ tsEnd = none) then
    note "parameters" "ts_start_and_ts_end_required_for_backtest_mode"
  else return ()

/-! ## The specification -/

structure LaunchSpec where
  runtimeId : String
  tenantId : String
  strategyVersionId : String
  mode : RuntimeMode
  launchAttempt : Int
  artifactUri : String
  entrypoint : String
  traderId : Option String
  accountId : Option String
  artifactDigest : Option String
  jobId : Option String
  tsStart : Option String
  tsEnd : Option String
  symbol : Option String
  correlationId : Option String
  deriving DecidableEq, Repr

structure LaunchSpecValidationError where
  reason : String
  fieldErrors : FieldErrors String String
  deriving DecidableEq, Repr

/-- The checks of {lit}`LaunchSpec.from_payload`, in their order. -/
def checkPayload (payload : PyDict) : Check LaunchSpec := do
  checkUnknownFields payload
  checkObjectOrNull payload "strategy_params"
  checkObjectOrNull payload "initial_cash"
  let runtimeId ← requireString payload "runtime_id" true
  let tenantId ← readTenantId payload
  let strategyVersionId ← requireString payload "strategy_version_id" true
  let artifactUriVal ← requireString payload "artifact_uri" false
  let artifactRefVal ← requireString payload "artifact_reference" false
  let artifactUri ← chooseArtifactUri artifactUriVal artifactRefVal
  let entrypoint ← requireString payload "entrypoint" true
  let traderId ← requireString payload "trader_id" false
  let accountId ← requireString payload "account_id" true
  let artifactDigest ← readArtifactDigest payload
  let jobId ← requireString payload "job_id" false
  let tsStart ← requireString payload "ts_start" false
  let tsEnd ← requireString payload "ts_end" false
  let symbol ← requireString payload "symbol" false
  let correlationId ← readCorrelationId payload
  let mode ← readMode payload
  let launchAttempt ← readLaunchAttempt payload
  checkBounds mode tsStart tsEnd
  return {
    runtimeId := runtimeId.getD ""
    tenantId
    strategyVersionId := strategyVersionId.getD ""
    mode
    launchAttempt
    artifactUri := artifactUri.getD ""
    entrypoint := entrypoint.getD ""
    traderId
    accountId
    artifactDigest
    jobId
    tsStart
    tsEnd
    symbol := symbol <|> nestedSymbol payload
    correlationId }

/-- {lit}`LaunchSpec.from_payload`. -/
def fromPayload : PyVal → Except LaunchSpecValidationError LaunchSpec
  | .dict payload =>
      match (checkPayload payload).result with
      | .ok launchSpec => .ok launchSpec
      | .error fieldErrors => .error ⟨"launch_spec_invalid", fieldErrors⟩
  | _ => .error ⟨"payload_not_mapping", [("payload", "must_be_object_mapping")]⟩

/-! ## What passes -/

theorem passes_checkUnknownFields {payload : PyDict} {u : Unit} :
    Passes (checkUnknownFields payload) u ↔ unknownFields payload = [] := by
  unfold checkUnknownFields
  by_cases h : unknownFields payload = [] <;> simp [h]

theorem passes_readTenantId {payload : PyDict} {tenantId : String} :
    Passes (readTenantId payload) tenantId ↔
      (payload.get "tenant_id" = .none ∧ tenantId = "") ∨
        ∃ value, payload.get "tenant_id" = .str value ∧ tenantId = strip value := by
  unfold readTenantId
  cases payload.get "tenant_id" <;> simp [eq_comm]

theorem passes_chooseArtifactUri {uri ref value : Option String} :
    Passes (chooseArtifactUri uri ref) value ↔ value = (uri <|> ref) ∧ value.isSome = true := by
  unfold chooseArtifactUri
  cases uri with
  | some uri =>
      simp only [passes_pure]
      constructor
      · rintro rfl
        simp
      · rintro ⟨h, -⟩
        simpa using h.symm
  | none =>
      cases ref with
      | some ref =>
          simp only [passes_pure]
          constructor
          · rintro rfl
            simp
          · rintro ⟨h, -⟩
            simpa using h.symm
      | none =>
          -- nothing has been noted before, so that the missing field is noted here
          rw [passes_bind]
          constructor
          · rintro ⟨fieldErrors, hnoted, h⟩
            rw [passes_noted] at hnoted
            simp [hnoted, Assoc.contains] at h
          · rintro ⟨rfl, h⟩
            simp at h

theorem passes_readArtifactDigest {payload : PyDict} {digest : Option String} :
    Passes (readArtifactDigest payload) digest ↔
      (payload.get "artifact_digest" = .none ∧ digest = none) ∨
        ∃ value, payload.get "artifact_digest" = .str value ∧
          (strip value = "" ∨ strip value = value) ∧
            digest = if strip value = "" then none else some (strip value) := by
  have hskip : skipArtifactDigestValidation = true := rfl
  unfold readArtifactDigest
  rw [if_pos hskip]
  cases payload.get "artifact_digest" with
  | none =>
      have hcomm : none = digest ↔ digest = none := eq_comm
      simpa using hcomm
  | str value =>
      by_cases hblank : strip value = ""
      · have hcomm : none = digest ↔ digest = none := eq_comm
        simpa [hblank] using hcomm
      · by_cases hstrip : strip value = value
        · have hcomm : some value = digest ↔ digest = some value := eq_comm
          have hne : value ≠ "" := fun h => hblank (hstrip.trans h)
          simpa [hstrip, hne] using hcomm
        · have hstrip' : value ≠ strip value := fun h => hstrip h.symm
          simp [hblank, hstrip, hstrip']
  | _ => simp

theorem passes_readCorrelationId {payload : PyDict} {correlationId : Option String} :
    Passes (readCorrelationId payload) correlationId ↔
      (payload.get "correlation_id" = .none ∧ correlationId = none) ∨
        ∃ value, payload.get "correlation_id" = .str value ∧
          correlationId = if strip value = "" then none else some (strip value) := by
  unfold readCorrelationId
  cases payload.get "correlation_id" with
  | none =>
      have hcomm : none = correlationId ↔ correlationId = none := eq_comm
      simpa using hcomm
  | str value =>
      simp only [passes_pure, PyVal.str.injEq, reduceCtorEq, false_and, false_or]
      constructor
      · rintro rfl
        exact ⟨value, rfl, rfl⟩
      · rintro ⟨text, rfl, rfl⟩
        rfl
  | _ => simp

theorem passes_readMode {payload : PyDict} {mode : RuntimeMode} :
    Passes (readMode payload) mode ↔ payload.get "mode" = .str mode.value := by
  unfold readMode
  cases payload.get "mode" with
  | str value =>
      cases hmode : RuntimeMode.ofValue? value with
      | none =>
          simp only [hmode, not_passes_note_bind, PyVal.str.injEq, false_iff]
          rintro rfl
          simp at hmode
      | some mode' =>
          simp only [hmode, passes_pure, PyVal.str.injEq]
          constructor
          · rintro rfl
            exact (RuntimeMode.value_of_ofValue? hmode).symm
          · rintro rfl
            rw [RuntimeMode.ofValue?_value] at hmode
            exact (Option.some.inj hmode).symm
  | _ => simp

theorem passes_readLaunchAttempt {payload : PyDict} {launchAttempt : Int} :
    Passes (readLaunchAttempt payload) launchAttempt ↔
      payload.get "launch_attempt" = .int launchAttempt ∧ 1 ≤ launchAttempt := by
  unfold readLaunchAttempt
  cases payload.get "launch_attempt" with
  | int value =>
      by_cases h : value < 1
      · simp only [if_pos h, not_passes_note_bind, PyVal.int.injEq, false_iff]
        rintro ⟨rfl, hle⟩
        omega
      · simp only [if_neg h, passes_pure, PyVal.int.injEq]
        constructor
        · rintro rfl
          exact ⟨rfl, by omega⟩
        · rintro ⟨rfl, -⟩
          rfl
  | _ => simp

theorem passes_checkBounds {mode : RuntimeMode} {tsStart tsEnd : Option String} {u : Unit} :
    Passes (checkBounds mode tsStart tsEnd) u ↔
      (tsStart.isSome = true ↔ mode = .backtest) ∧ (tsEnd.isSome = true ↔ mode = .backtest) := by
  unfold checkBounds
  by_cases hmode : mode = .backtest <;> cases tsStart <;> cases tsEnd <;> simp [hmode]

/-- The fields of a payload hold what a specification says, and nothing else is in it. -/
structure Accepts (payload : PyDict) (spec : LaunchSpec) : Prop where
  known : unknownFields payload = []
  strategyParams : ObjectOrNull payload "strategy_params"
  initialCash : ObjectOrNull payload "initial_cash"
  runtimeId : HoldsText payload "runtime_id" (some spec.runtimeId)
  tenantId : (payload.get "tenant_id" = .none ∧ spec.tenantId = "") ∨
    ∃ value, payload.get "tenant_id" = .str value ∧ spec.tenantId = strip value
  strategyVersionId : HoldsText payload "strategy_version_id" (some spec.strategyVersionId)
  artifactUri : ∃ uri ref, HoldsText payload "artifact_uri" uri ∧
    HoldsText payload "artifact_reference" ref ∧ some spec.artifactUri = (uri <|> ref)
  entrypoint : HoldsText payload "entrypoint" (some spec.entrypoint)
  traderId : HoldsText payload "trader_id" spec.traderId
  accountId : HoldsText payload "account_id" spec.accountId
  accountId_isSome : spec.accountId.isSome = true
  artifactDigest : (payload.get "artifact_digest" = .none ∧ spec.artifactDigest = none) ∨
    ∃ value, payload.get "artifact_digest" = .str value ∧
      (strip value = "" ∨ strip value = value) ∧
        spec.artifactDigest = if strip value = "" then none else some (strip value)
  jobId : HoldsText payload "job_id" spec.jobId
  tsStart : HoldsText payload "ts_start" spec.tsStart
  tsEnd : HoldsText payload "ts_end" spec.tsEnd
  symbol : ∃ symbol, HoldsText payload "symbol" symbol ∧
    spec.symbol = (symbol <|> nestedSymbol payload)
  correlationId : (payload.get "correlation_id" = .none ∧ spec.correlationId = none) ∨
    ∃ value, payload.get "correlation_id" = .str value ∧
      spec.correlationId = if strip value = "" then none else some (strip value)
  mode : payload.get "mode" = .str spec.mode.value
  launchAttempt : payload.get "launch_attempt" = .int spec.launchAttempt
  launchAttempt_pos : 1 ≤ spec.launchAttempt
  tsStart_mode : spec.tsStart.isSome = true ↔ spec.mode = .backtest
  tsEnd_mode : spec.tsEnd.isSome = true ↔ spec.mode = .backtest

/-- A required text. -/
theorem passes_requireString_true {payload : PyDict} {fieldName : String} {value : Option String} :
    Passes (requireString payload fieldName true) value ↔
      ∃ text, HoldsText payload fieldName (some text) ∧ value = some text := by
  rw [passes_requireString]
  constructor
  · rintro ⟨hholds, hsome⟩
    rcases Option.isSome_iff_exists.1 (hsome rfl) with ⟨text, rfl⟩
    exact ⟨text, hholds, rfl⟩
  · rintro ⟨text, hholds, rfl⟩
    exact ⟨hholds, fun _ => rfl⟩

/-- An optional text. -/
theorem passes_requireString_false {payload : PyDict} {fieldName : String}
    {value : Option String} :
    Passes (requireString payload fieldName false) value ↔ HoldsText payload fieldName value := by
  rw [passes_requireString]
  simp

theorem passes_checkPayload {payload : PyDict} {spec : LaunchSpec} :
    Passes (checkPayload payload) spec ↔ Accepts payload spec := by
  unfold checkPayload
  simp only [passes_bind, passes_pure, passes_checkUnknownFields, passes_checkObjectOrNull,
    passes_requireString_true, passes_requireString_false, passes_readTenantId,
    passes_chooseArtifactUri, passes_readArtifactDigest, passes_readCorrelationId,
    passes_readMode, passes_readLaunchAttempt, passes_checkBounds]
  constructor
  · rintro ⟨-, hknown, -, hparams, -, hcash, -, ⟨runtimeId, hruntime, rfl⟩, tenantId, htenant,
      -, ⟨versionId, hversion, rfl⟩, uri, huri, ref, href, chosen, ⟨hchosen, hsome⟩,
      -, ⟨entrypoint, hentry, rfl⟩, traderId, htrader, -, ⟨accountId, haccount, rfl⟩,
      digest, hdigest, jobId, hjob, tsStart, hstart, tsEnd, hend, symbol, hsymbol,
      correlationId, hcorrelation, mode, hmode, launchAttempt, ⟨hattempt, hpos⟩,
      -, ⟨hstartMode, hendMode⟩, rfl⟩
    rcases Option.isSome_iff_exists.1 hsome with ⟨artifactUri, rfl⟩
    exact {
      known := hknown
      strategyParams := hparams
      initialCash := hcash
      runtimeId := hruntime
      tenantId := htenant
      strategyVersionId := hversion
      artifactUri := ⟨uri, ref, huri, href, hchosen⟩
      entrypoint := hentry
      traderId := htrader
      accountId := haccount
      accountId_isSome := rfl
      artifactDigest := hdigest
      jobId := hjob
      tsStart := hstart
      tsEnd := hend
      symbol := ⟨symbol, hsymbol, rfl⟩
      correlationId := hcorrelation
      mode := hmode
      launchAttempt := hattempt
      launchAttempt_pos := hpos
      tsStart_mode := hstartMode
      tsEnd_mode := hendMode }
  · intro h
    rcases h.artifactUri with ⟨uri, ref, huri, href, hchosen⟩
    rcases h.symbol with ⟨symbol, hsymbol, hspecSymbol⟩
    rcases Option.isSome_iff_exists.1 h.accountId_isSome with ⟨accountId, haccountId⟩
    have haccount := h.accountId
    rw [haccountId] at haccount
    refine ⟨(), h.known, (), h.strategyParams, (), h.initialCash, _, ⟨_, h.runtimeId, rfl⟩,
      _, h.tenantId, _, ⟨_, h.strategyVersionId, rfl⟩, uri, huri, ref, href,
      some spec.artifactUri, ⟨hchosen, rfl⟩, _, ⟨_, h.entrypoint, rfl⟩, _, h.traderId,
      _, ⟨accountId, haccount, rfl⟩, _, h.artifactDigest, _, h.jobId, _, h.tsStart, _, h.tsEnd,
      symbol, hsymbol, _, h.correlationId, _, h.mode, _, ⟨h.launchAttempt, h.launchAttempt_pos⟩,
      (), ⟨h.tsStart_mode, h.tsEnd_mode⟩, ?_⟩
    rw [← haccountId, ← hspecSymbol]
    rfl

/-- A payload is accepted as a specification exactly when its fields hold what it says. -/
theorem fromPayload_eq_ok {payload : PyVal} {spec : LaunchSpec} :
    fromPayload payload = .ok spec ↔ ∃ fields, payload = .dict fields ∧ Accepts fields spec := by
  cases payload with
  | dict fields =>
      rw [fromPayload]
      cases hresult : (checkPayload fields).result with
      | ok spec' =>
          rw [result_eq_ok, passes_checkPayload] at hresult
          constructor
          · intro h
            cases h
            exact ⟨fields, rfl, hresult⟩
          · rintro ⟨fields', hfields, haccepts⟩
            cases hfields
            have hspec : (checkPayload fields).result = .ok spec :=
              result_eq_ok.2 (passes_checkPayload.2 haccepts)
            rw [← passes_checkPayload, ← result_eq_ok, hspec] at hresult
            cases hresult
            rfl
      | error fieldErrors =>
          constructor
          · intro h
            cases h
          · rintro ⟨fields', hfields, haccepts⟩
            cases hfields
            rw [← passes_checkPayload, ← result_eq_ok, hresult] at haccepts
            cases haccepts
  | _ =>
      simp [fromPayload]

/-! ## Specifications that come from a payload -/

theorem HoldsText.isText {payload : PyDict} {fieldName value : String}
    (h : HoldsText payload fieldName (some value)) : IsText value := by
  cases h with
  | present value hget hne hstrip => exact ⟨hne, hstrip⟩

/-- The texts of a specification are neither empty nor padded, its tenant is not padded, and it has
bounds exactly when it is for a backtest. -/
structure LaunchSpec.WellFormed (spec : LaunchSpec) : Prop where
  runtimeId : IsText spec.runtimeId
  tenantId : strip spec.tenantId = spec.tenantId
  strategyVersionId : IsText spec.strategyVersionId
  artifactUri : IsText spec.artifactUri
  entrypoint : IsText spec.entrypoint
  traderId : ∀ value ∈ spec.traderId, IsText value
  accountId : ∃ value, spec.accountId = some value ∧ IsText value
  artifactDigest : ∀ value ∈ spec.artifactDigest, IsText value
  jobId : ∀ value ∈ spec.jobId, IsText value
  tsStart : ∀ value ∈ spec.tsStart, IsText value
  tsEnd : ∀ value ∈ spec.tsEnd, IsText value
  symbol : ∀ value ∈ spec.symbol, IsText value
  correlationId : ∀ value ∈ spec.correlationId, IsText value
  launchAttempt_pos : 1 ≤ spec.launchAttempt
  tsStart_mode : spec.tsStart.isSome = true ↔ spec.mode = .backtest
  tsEnd_mode : spec.tsEnd.isSome = true ↔ spec.mode = .backtest

theorem HoldsText.forall_isText {payload : PyDict} {fieldName : String} {field : Option String}
    (h : HoldsText payload fieldName field) : ∀ value ∈ field, IsText value := by
  rintro value rfl
  exact h.isText

theorem isText_of_mem_blankable {text value : String}
    (h : value ∈ if strip text = "" then none else some (strip text)) : IsText value := by
  split at h
  · cases h
  · rename_i hne
    cases h
    exact isText_strip hne

theorem isText_nestedSymbol (payload : PyDict) :
    ∀ value ∈ nestedSymbol payload, IsText value := by
  intro value hvalue
  unfold nestedSymbol at hvalue
  split at hvalue
  · split at hvalue
    · split at hvalue
      · rename_i hne
        cases hvalue
        exact isText_strip hne
      · cases hvalue
    · cases hvalue
  · cases hvalue

theorem LaunchSpec.wellFormed_of_accepts {payload : PyDict} {spec : LaunchSpec}
    (h : Accepts payload spec) : spec.WellFormed where
  runtimeId := h.runtimeId.isText
  tenantId := by
    rcases h.tenantId with ⟨-, htenant⟩ | ⟨value, -, htenant⟩
    · rw [htenant]
      decide
    · rw [htenant, strip_strip]
  strategyVersionId := h.strategyVersionId.isText
  artifactUri := by
    rcases h.artifactUri with ⟨uri, ref, huri, href, hchosen⟩
    cases uri with
    | some uri =>
        cases hchosen
        exact huri.isText
    | none =>
        have hholds : HoldsText payload "artifact_reference" (some spec.artifactUri) := by
          rw [hchosen]
          exact href
        exact hholds.isText
  entrypoint := h.entrypoint.isText
  traderId := h.traderId.forall_isText
  accountId := by
    rcases Option.isSome_iff_exists.1 h.accountId_isSome with ⟨value, hvalue⟩
    exact ⟨value, hvalue, h.accountId.forall_isText value hvalue⟩
  artifactDigest := by
    intro value hvalue
    rcases h.artifactDigest with ⟨-, hnone⟩ | ⟨text, -, -, hsome⟩
    · rw [hnone] at hvalue
      cases hvalue
    · rw [hsome] at hvalue
      exact isText_of_mem_blankable hvalue
  jobId := h.jobId.forall_isText
  tsStart := h.tsStart.forall_isText
  tsEnd := h.tsEnd.forall_isText
  symbol := by
    intro value hvalue
    rcases h.symbol with ⟨symbol, hsymbol, hspec⟩
    rw [hspec] at hvalue
    cases symbol with
    | some symbol => exact hsymbol.forall_isText value hvalue
    | none => exact isText_nestedSymbol payload value hvalue
  correlationId := by
    intro value hvalue
    rcases h.correlationId with ⟨-, hnone⟩ | ⟨text, -, hsome⟩
    · rw [hnone] at hvalue
      cases hvalue
    · rw [hsome] at hvalue
      exact isText_of_mem_blankable hvalue
  launchAttempt_pos := h.launchAttempt_pos
  tsStart_mode := h.tsStart_mode
  tsEnd_mode := h.tsEnd_mode

/-- Every specification that {lit}`from_payload` returns is well formed. -/
theorem LaunchSpec.wellFormed_of_fromPayload {payload : PyVal} {spec : LaunchSpec}
    (h : fromPayload payload = .ok spec) : spec.WellFormed := by
  rcases fromPayload_eq_ok.1 h with ⟨fields, -, haccepts⟩
  exact LaunchSpec.wellFormed_of_accepts haccepts

/-! ## A payload -/

/-- A payload for paper trading, with an account and perhaps a trader. -/
def paperPayload (traderId : Option String) : PyVal :=
  .dict ([("runtime_id", .str "rt-1"), ("strategy_version_id", .str "sv-1"),
    ("mode", .str "PAPER"), ("launch_attempt", .int 1), ("entrypoint", .str "bot:Strategy"),
    ("account_id", .str "acc-1"), ("artifact_uri", .str "file:///bundle")] ++
      traderId.toList.map fun trader => ("trader_id", .str trader))

/-- What the payload specifies. -/
def paperSpec (traderId : Option String) : LaunchSpec where
  runtimeId := "rt-1"
  tenantId := ""
  strategyVersionId := "sv-1"
  mode := .paper
  launchAttempt := 1
  artifactUri := "file:///bundle"
  entrypoint := "bot:Strategy"
  traderId := traderId
  accountId := some "acc-1"
  artifactDigest := none
  jobId := none
  tsStart := none
  tsEnd := none
  symbol := none
  correlationId := none

theorem wellKeyed_paperPayload (traderId : Option String) : (paperPayload traderId).WellKeyed := by
  cases traderId <;> simp [paperPayload, PyVal.WellKeyed, WellKeyedFields]

end Bootstrap
end StrategyWorker
