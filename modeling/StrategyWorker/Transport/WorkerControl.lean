import StrategyWorker.Bootstrap.LaunchSpecValidator
import StrategyWorker.Domain.Errors

/-!
# Creating a worker over gRPC

{lit}`create_request_to_command`, which makes a launch payload from the message
of a request and validates it, and {lit}`create_worker`, which compares the
specification with the one that this process runs.  The message has no fields
for the bounds of a replay.

Main results:

- Theorem {lit}`accepts_createPayload`: the payload of a message with the fields
  of a specification specifies the same, without what the message cannot carry.
- Theorem {lit}`create_worker_accepts_iff`: the worker accepts its own launch
  unless it is a backtest.
-/

namespace StrategyWorker
namespace Transport

open Library
open Library.PyText
open Domain
open Bootstrap

/-! ## The message -/

/-- The fields of the {lit}`LaunchSpec` message that are read; an absent text is empty. -/
structure LaunchSpecMessage where
  correlationId : String
  causationId : String
  tenantId : String
  accountId : String
  runtimeId : String
  workerIdentity : String
  launchAttempt : UInt32
  strategyVersionId : String
  jobId : String
  deploymentId : String
  mode : Int
  traderId : String
  artifactUri : String
  artifactDigest : String
  entrypoint : String

/-- {lit}`_runtime_mode_to_domain`: a mode without a name is read as paper trading. -/
def runtimeModeToDomain (mode : Int) : String :=
  if mode = 1 then "PAPER" else if mode = 2 then "LIVE" else if mode = 3 then "BACKTEST" else "PAPER"

/-- The number of a mode in the {lit}`RuntimeMode` enumeration of the contract. -/
def protoMode : RuntimeMode → Int
  | .paper => 1
  | .live => 2
  | .backtest => 3

theorem runtimeModeToDomain_protoMode (mode : RuntimeMode) :
    runtimeModeToDomain (protoMode mode) = mode.value := by
  cases mode <;> decide

/-- The message carries the fields of a specification. -/
structure Carries (message : LaunchSpecMessage) (spec : LaunchSpec) : Prop where
  correlationId : message.correlationId = spec.correlationId.getD ""
  tenantId : message.tenantId = spec.tenantId
  accountId : message.accountId = spec.accountId.getD ""
  runtimeId : message.runtimeId = spec.runtimeId
  launchAttempt : (message.launchAttempt.toNat : Int) = spec.launchAttempt
  strategyVersionId : message.strategyVersionId = spec.strategyVersionId
  jobId : message.jobId = spec.jobId.getD ""
  mode : message.mode = protoMode spec.mode
  traderId : message.traderId = spec.traderId.getD ""
  artifactUri : message.artifactUri = spec.artifactUri
  artifactDigest : message.artifactDigest = spec.artifactDigest.getD ""
  entrypoint : message.entrypoint = spec.entrypoint

/-! ## From the request to a command -/

/-- {lit}`text or None`. -/
def textOrNone (text : String) : PyVal :=
  if text = "" then .none else .str text

/-- A field of the payload that is left out when its text is empty. -/
def optionalField (name text : String) : PyDict :=
  if text = "" then [] else [(name, .str text)]

/-- The payload that {lit}`create_request_to_command` validates. -/
def createPayload (message : LaunchSpecMessage) : PyDict :=
  [("runtime_id", textOrNone message.runtimeId),
    ("tenant_id", textOrNone message.tenantId),
    ("strategy_version_id", textOrNone message.strategyVersionId),
    ("mode", .str (runtimeModeToDomain message.mode)),
    ("artifact_digest", .str message.artifactDigest),
    ("entrypoint", .str message.entrypoint),
    ("launch_attempt", .int message.launchAttempt.toNat)] ++
  (optionalField "trader_id" message.traderId ++
    (optionalField "account_id" message.accountId ++
      (optionalField "artifact_uri" message.artifactUri ++
        optionalField "job_id" (strip message.jobId))))

structure CreateWorkerCommand where
  launchSpec : LaunchSpec
  metadata : PyDict

/-- The metadata that goes with the specification. -/
def createMetadata (message : LaunchSpecMessage) (launchSpec : LaunchSpec) : PyDict :=
  [("runtime_id", textOrNone message.runtimeId),
    ("tenant_id", textOrNone message.tenantId),
    ("account_id", textOrNone message.accountId),
    ("worker_identity", textOrNone message.workerIdentity),
    ("launch_attempt", .int message.launchAttempt.toNat),
    ("strategy_version_id", textOrNone message.strategyVersionId),
    ("job_id", launchSpec.jobId.elim .none .str),
    ("correlation_id", textOrNone message.correlationId),
    ("causation_id", textOrNone message.causationId),
    ("deployment_id", textOrNone message.deploymentId)]

/-- The room for nesting in a handler: the interpreter's limit less the frames of the handler. -/
def handlerRoom : Nat :=
  900

/-- {lit}`WorkerControlSerializer.create_request_to_command`. -/
def createRequestToCommand (validator : LaunchSpecValidator) (message : LaunchSpecMessage) :
    Except ValidateError CreateWorkerCommand × LaunchSpecValidator :=
  match validate validator handlerRoom (.dict (createPayload message)) with
  | (.ok launchSpec, validator') =>
      (.ok ⟨launchSpec, createMetadata message launchSpec⟩, validator')
  | (.error e, validator') => (.error e, validator')

/-! ## The worker's answer -/

/-- {lit}`WorkerControlApplicationImpl`, as far as an answer depends on it. -/
structure WorkerControlApplication where
  launchSpec : LaunchSpec
  phase : WorkerPhase

structure CreateWorkerResponse where
  accepted : Bool
  runtimeId : String
  workerIdentity : String
  localState : String
  reasonCode : String
  errorCode : Option String
  message : String

/-- {lit}`_canonical_worker_identity`. -/
def canonicalWorkerIdentity (launchSpec : LaunchSpec) : String :=
  launchSpec.runtimeId ++ ":" ++ launchSpec.strategyVersionId ++ ":" ++
    toString launchSpec.launchAttempt

/-- {lit}`WorkerErrorCode.INVALID_REQUEST`. -/
def invalidRequest : String :=
  "WORKER_INVALID_REQUEST"

/-- The answer to a launch that is not this worker's. -/
def rejected (worker : WorkerControlApplication) (mismatch message : String) :
    CreateWorkerResponse where
  accepted := false
  runtimeId := worker.launchSpec.runtimeId
  workerIdentity := canonicalWorkerIdentity worker.launchSpec
  localState := worker.phase.value
  reasonCode := normalizeRuntimeReasonCode (some mismatch)
  errorCode := some invalidRequest
  message := message

/-- {lit}`WorkerControlApplicationImpl.create_worker`; the time of the answer is left out. -/
def createWorker (worker : WorkerControlApplication) (command : CreateWorkerCommand) :
    CreateWorkerResponse :=
  if command.launchSpec.runtimeId ≠ worker.launchSpec.runtimeId then
    rejected worker "runtime_id_mismatch"
      "CreateWorker rejected: runtime_id does not match this process."
  else if command.launchSpec.launchAttempt ≠ worker.launchSpec.launchAttempt then
    rejected worker "launch_attempt_mismatch"
      "CreateWorker rejected: launch_attempt does not match this process."
  else if command.launchSpec.strategyVersionId ≠ worker.launchSpec.strategyVersionId then
    rejected worker "strategy_version_id_mismatch"
      "CreateWorker rejected: strategy_version_id does not match this process."
  else {
    accepted := true
    runtimeId := worker.launchSpec.runtimeId
    workerIdentity := canonicalWorkerIdentity worker.launchSpec
    localState := worker.phase.value
    reasonCode := RuntimeWorkerReasonCode.controlledShutdownInitiated.value
    errorCode := none
    message := "CreateWorker accepted: launch metadata matches this worker." }

/-- The worker accepts exactly what agrees with its own launch in these fields. -/
theorem createWorker_accepted_iff (worker : WorkerControlApplication)
    (command : CreateWorkerCommand) :
    (createWorker worker command).accepted = true ↔
      command.launchSpec.dedupeKey = worker.launchSpec.dedupeKey ∧
        command.launchSpec.strategyVersionId = worker.launchSpec.strategyVersionId := by
  unfold createWorker LaunchSpec.dedupeKey
  rw [Prod.mk.injEq]
  by_cases hruntime : command.launchSpec.runtimeId = worker.launchSpec.runtimeId
  · by_cases hattempt : command.launchSpec.launchAttempt = worker.launchSpec.launchAttempt
    · by_cases hversion : command.launchSpec.strategyVersionId = worker.launchSpec.strategyVersionId
        <;> simp [hruntime, hattempt, hversion, rejected]
    · simp [hruntime, hattempt, rejected]
  · simp [hruntime, rejected]

/-- What a request is answered with, or the exception of its deserialisation. -/
def answerCreate (validator : LaunchSpecValidator) (worker : WorkerControlApplication)
    (message : LaunchSpecMessage) : Except ValidateError CreateWorkerResponse :=
  match (createRequestToCommand validator message).1 with
  | .ok command => .ok (createWorker worker command)
  | .error e => .error e

/-- The answer follows from the outcome of the validation. -/
theorem answerCreate_of_validate {validator validator' : LaunchSpecValidator}
    (worker : WorkerControlApplication) {message : LaunchSpecMessage}
    {outcome : Except ValidateError LaunchSpec}
    (h : validate validator handlerRoom (.dict (createPayload message)) = (outcome, validator')) :
    answerCreate validator worker message = outcome.map fun launchSpec =>
      createWorker worker ⟨launchSpec, createMetadata message launchSpec⟩ := by
  delta answerCreate createRequestToCommand
  rw [h]
  cases outcome <;> rfl

/-! ## What the payload holds -/

section Payload

variable {message : LaunchSpecMessage} {spec : LaunchSpec}

theorem get?_optionalField (name text key : String) :
    (optionalField name text).get? key =
      if text ≠ "" ∧ name = key then some (.str text) else none := by
  unfold optionalField
  by_cases htext : text = ""
  · simp [htext, PyDict.get?]
  · by_cases hname : name = key <;> simp [htext, hname, PyDict.get?]

@[simp]
theorem get?_nil (key : String) : PyDict.get? [] key = none := rfl

/-- What the payload holds under a key. -/
theorem get?_createPayload (message : LaunchSpecMessage) (key : String) :
    (createPayload message).get? key =
      if key = "runtime_id" then some (textOrNone message.runtimeId)
      else if key = "tenant_id" then some (textOrNone message.tenantId)
      else if key = "strategy_version_id" then some (textOrNone message.strategyVersionId)
      else if key = "mode" then some (.str (runtimeModeToDomain message.mode))
      else if key = "artifact_digest" then some (.str message.artifactDigest)
      else if key = "entrypoint" then some (.str message.entrypoint)
      else if key = "launch_attempt" then some (.int message.launchAttempt.toNat)
      else ((optionalField "trader_id" message.traderId).get? key).or
        (((optionalField "account_id" message.accountId).get? key).or
          (((optionalField "artifact_uri" message.artifactUri).get? key).or
            ((optionalField "job_id" (strip message.jobId)).get? key))) := by
  unfold createPayload
  simp only [List.cons_append, List.nil_append, PyDict.get?_cons, PyDict.get?_append,
    eq_comm (b := key)]

/-- A required field holds its text. -/
theorem holdsText_of_textOrNone {payload : PyDict} {name text : String}
    (hget : payload.get? name = some (textOrNone text)) (htext : IsText text) :
    HoldsText payload name (some text) := by
  rw [textOrNone, if_neg htext.1] at hget
  exact .present text hget htext.1 htext.2

/-- An optional field of the specification comes back as it was. -/
theorem holdsText_optional {payload : PyDict} {name : String} {field : Option String}
    (hget : payload.get? name = (optionalField name (field.getD "")).get? name)
    (htext : ∀ text ∈ field, IsText text) : HoldsText payload name field := by
  cases field with
  | none =>
      refine .absent ?_
      rw [hget]
      rfl
  | some text =>
      have hfield : IsText text := htext text rfl
      have hne : text ≠ "" := hfield.1
      refine .present text ?_ hne hfield.2
      rw [hget, get?_optionalField]
      simp [hne]

/-- The specification without what the message cannot carry. -/
def carriedSpec (spec : LaunchSpec) : LaunchSpec :=
  { spec with tsStart := none, tsEnd := none, symbol := none, correlationId := none }

/-- A text, a number or nothing. -/
def IsFlat (v : PyVal) : Prop :=
  v = .none ∨ (∃ text, v = .str text) ∨ ∃ n, v = .int n

theorem isFlat_textOrNone (text : String) : IsFlat (textOrNone text) := by
  unfold textOrNone
  split
  · exact .inl rfl
  · exact .inr (.inl ⟨text, rfl⟩)

/-- The fields of the payload are known, and flat. -/
theorem of_mem_createPayload {message : LaunchSpecMessage} {f : String × PyVal}
    (hf : f ∈ createPayload message) : f.1 ∈ allowedFields ∧ IsFlat f.2 := by
  have hoptional : ∀ name text, name ∈ allowedFields → f ∈ optionalField name text →
      f.1 ∈ allowedFields ∧ IsFlat f.2 := by
    intro name text hname hmem
    unfold optionalField at hmem
    split at hmem
    · cases hmem
    · rw [List.mem_singleton] at hmem
      rw [hmem]
      exact ⟨hname, .inr (.inl ⟨text, rfl⟩)⟩
  rcases List.mem_append.1 hf with hf | hf
  · simp only [List.mem_cons, List.not_mem_nil, or_false] at hf
    rcases hf with rfl | rfl | rfl | rfl | rfl | rfl | rfl
    · exact ⟨by simp [allowedFields], isFlat_textOrNone _⟩
    · exact ⟨by simp [allowedFields], isFlat_textOrNone _⟩
    · exact ⟨by simp [allowedFields], isFlat_textOrNone _⟩
    · exact ⟨by simp [allowedFields], .inr (.inl ⟨_, rfl⟩)⟩
    · exact ⟨by simp [allowedFields], .inr (.inl ⟨_, rfl⟩)⟩
    · exact ⟨by simp [allowedFields], .inr (.inl ⟨_, rfl⟩)⟩
    · exact ⟨by simp [allowedFields], .inr (.inr ⟨_, rfl⟩)⟩
  rcases List.mem_append.1 hf with hf | hf
  · exact hoptional _ _ (by decide) hf
  rcases List.mem_append.1 hf with hf | hf
  · exact hoptional _ _ (by decide) hf
  rcases List.mem_append.1 hf with hf | hf
  · exact hoptional _ _ (by decide) hf
  · exact hoptional _ _ (by decide) hf

/-- The payload of a message with the fields of a specification specifies the same, without what
the message cannot carry. -/
theorem accepts_createPayload (hspec : spec.WellFormed) (h : Carries message spec)
    (hmode : spec.mode ≠ .backtest) : Accepts (createPayload message) (carriedSpec spec) := by
  have hget := get?_createPayload message
  have hjob : strip message.jobId = spec.jobId.getD "" := by
    rw [h.jobId]
    cases hfield : spec.jobId with
    | none => decide
    | some job => exact (hspec.jobId job hfield).2
  rcases hspec.accountId with ⟨account, haccount, haccountText⟩
  have hobject : ∀ name, (createPayload message).get? name = none →
      ObjectOrNull (createPayload message) name := by
    intro name hnone
    left
    rw [PyDict.get, hnone]
    rfl
  exact {
    known := unknownFields_eq_nil fun f hf => (of_mem_createPayload hf).1
    strategyParams := hobject _ (by rw [hget]; simp [get?_optionalField])
    initialCash := hobject _ (by rw [hget]; simp [get?_optionalField])
    runtimeId := by
      refine holdsText_of_textOrNone ?_ hspec.runtimeId
      rw [hget, h.runtimeId]
      rfl
    tenantId := by
      have htenant : (createPayload message).get "tenant_id" = textOrNone spec.tenantId := by
        rw [PyDict.get, hget, h.tenantId]
        rfl
      rw [htenant, textOrNone]
      by_cases hempty : spec.tenantId = ""
      · exact .inl ⟨if_pos hempty, hempty⟩
      · exact .inr ⟨spec.tenantId, if_neg hempty, hspec.tenantId.symm⟩
    strategyVersionId := by
      refine holdsText_of_textOrNone ?_ hspec.strategyVersionId
      rw [hget, h.strategyVersionId]
      rfl
    artifactUri := by
      refine ⟨some spec.artifactUri, none, ?_, .absent ?_, rfl⟩
      · refine .present _ ?_ hspec.artifactUri.1 hspec.artifactUri.2
        rw [hget, h.artifactUri]
        simp [get?_optionalField, hspec.artifactUri.1]
      · rw [hget]
        simp [get?_optionalField]
    entrypoint := by
      refine .present _ ?_ hspec.entrypoint.1 hspec.entrypoint.2
      rw [hget, h.entrypoint]
      rfl
    traderId := by
      refine holdsText_optional ?_ hspec.traderId
      rw [hget, h.traderId]
      simp [get?_optionalField, carriedSpec]
    accountId := by
      have htext : ∀ text ∈ (carriedSpec spec).accountId, IsText text := by
        intro text htext
        rw [carriedSpec, haccount] at htext
        cases htext
        exact haccountText
      refine holdsText_optional ?_ htext
      rw [hget, h.accountId]
      simp [get?_optionalField, carriedSpec]
    accountId_isSome := by
      rw [carriedSpec, haccount]
      rfl
    artifactDigest := by
      right
      refine ⟨message.artifactDigest, ?_, ?_⟩
      · rw [PyDict.get, hget]
        rfl
      · rw [h.artifactDigest, carriedSpec]
        cases hdigest : spec.artifactDigest with
        | none => exact ⟨.inl (by decide), by decide⟩
        | some digest =>
            have htext : IsText digest := hspec.artifactDigest digest hdigest
            have hblank : strip digest ≠ "" := by
              rw [htext.2]
              exact htext.1
            refine ⟨.inr htext.2, ?_⟩
            rw [Option.getD_some, if_neg hblank, htext.2]
    jobId := by
      refine holdsText_optional ?_ hspec.jobId
      rw [hget, hjob]
      simp [get?_optionalField, carriedSpec]
    tsStart := .absent (by rw [hget]; simp [get?_optionalField])
    tsEnd := .absent (by rw [hget]; simp [get?_optionalField])
    symbol := by
      refine ⟨none, .absent (by rw [hget]; simp [get?_optionalField]), ?_⟩
      have hparameters : (createPayload message).get "parameters" = .none := by
        rw [PyDict.get, hget]
        simp [get?_optionalField]
      rw [nestedSymbol, hparameters]
      rfl
    correlationId := by
      left
      refine ⟨?_, rfl⟩
      rw [PyDict.get, hget]
      simp [get?_optionalField]
    mode := by
      rw [PyDict.get, hget, h.mode, runtimeModeToDomain_protoMode]
      rfl
    launchAttempt := by
      rw [PyDict.get, hget, h.launchAttempt]
      rfl
    launchAttempt_pos := hspec.launchAttempt_pos
    tsStart_mode := by simpa [carriedSpec] using hmode
    tsEnd_mode := by simpa [carriedSpec] using hmode }

/-- The payload of a message for a backtest lacks the bounds of the replay. -/
theorem not_accepts_createPayload (hmode : message.mode = protoMode .backtest) (spec' : LaunchSpec) :
    ¬ Accepts (createPayload message) spec' := by
  intro haccepts
  have hspecMode : spec'.mode = .backtest := by
    have hget := haccepts.mode
    rw [PyDict.get, get?_createPayload, hmode, runtimeModeToDomain_protoMode] at hget
    exact (RuntimeMode.value_inj (PyVal.str.inj hget)).symm
  have hsome := haccepts.tsStart_mode.2 hspecMode
  have hget : (createPayload message).get? "ts_start" = none := by
    rw [get?_createPayload]
    simp [get?_optionalField]
  rw [haccepts.tsStart.eq_none hget] at hsome
  cases hsome

end Payload

/-! ## Whether the worker accepts its own launch -/

/-- The payload of a message can be fingerprinted. -/
theorem exists_fingerprint (message : LaunchSpecMessage) :
    ∃ fingerprint, payloadFingerprint handlerRoom (.dict (createPayload message)) =
      some fingerprint := by
  have hflat : ∀ f ∈ createPayload message, PyJson.depth f.2 = 0 ∧ PyJson.foreign f.2 = [] := by
    intro f hf
    rcases (of_mem_createPayload hf).2 with h | ⟨text, h⟩ | ⟨n, h⟩ <;> rw [h] <;> exact ⟨rfl, rfl⟩
  have hdepth : ¬ handlerRoom < PyJson.depth (.dict (createPayload message)) := by
    rw [PyJson.depth, PyJson.depthFields_eq_zero fun f hf => (hflat f hf).1]
    decide
  have hencode : ∃ text, PyJson.encode fingerprintOptions (.dict (createPayload message)) =
      .ok text := by
    rw [PyJson.exists_encode_iff]
    intro w hw
    rw [PyJson.foreign, PyJson.mem_foreignFields] at hw
    rcases hw with ⟨f, hf, hw⟩
    rw [(hflat f hf).2] at hw
    cases hw
  rcases hencode with ⟨text, htext⟩
  refine ⟨text, ?_⟩
  rw [payloadFingerprint, if_neg hdepth, htext]
  rfl

/-- The worker accepts its own launch unless it is a backtest. -/
theorem create_worker_accepts_iff {payload : PyVal} {spec : LaunchSpec}
    (h : fromPayload payload = .ok spec) {message : LaunchSpecMessage}
    (hcarries : Carries message spec) {validator : LaunchSpecValidator}
    (hnew : ∀ fingerprint, validator.get? spec.dedupeKey = some fingerprint →
      payloadFingerprint handlerRoom (.dict (createPayload message)) = some fingerprint)
    (phase : WorkerPhase) :
    (∃ response, answerCreate validator ⟨spec, phase⟩ message = .ok response ∧
      response.accepted = true) ↔ spec.mode ≠ .backtest := by
  have hspec := LaunchSpec.wellFormed_of_fromPayload h
  constructor
  · rintro ⟨response, hanswer, -⟩ hmode
    have hmessage : message.mode = protoMode .backtest := by
      rw [hcarries.mode, hmode]
    rcases validate_cases validator handlerRoom (.dict (createPayload message)) with
      ⟨e, herror⟩ | ⟨spec', fingerprint, haccepted, -, -⟩
    · rw [answerCreate_of_validate _ herror] at hanswer
      cases hanswer
    · rcases fromPayload_eq_ok.1 haccepted with ⟨fields, hfields, haccepts⟩
      cases hfields
      exact not_accepts_createPayload hmessage spec' haccepts
  · intro hmode
    have haccepts := accepts_createPayload hspec hcarries hmode
    have hok : fromPayload (.dict (createPayload message)) = .ok (carriedSpec spec) :=
      fromPayload_eq_ok.2 ⟨_, rfl, haccepts⟩
    rcases exists_fingerprint message with ⟨fingerprint, hprint⟩
    have hvalidate : (validate validator handlerRoom (.dict (createPayload message))).1 =
        .ok (carriedSpec spec) := by
      unfold validate compareFingerprint
      rw [hok, hprint]
      dsimp only
      cases hget : validator.get? (carriedSpec spec).dedupeKey with
      | none => rfl
      | some existing =>
          have hexisting := hnew existing hget
          rw [hprint] at hexisting
          cases hexisting
          simp
    rcases hresult : validate validator handlerRoom (.dict (createPayload message)) with
      ⟨outcome, validator'⟩
    rw [hresult] at hvalidate
    have houtcome : outcome = .ok (carriedSpec spec) := hvalidate
    subst houtcome
    exact ⟨_, answerCreate_of_validate _ hresult, (createWorker_accepted_iff _ _).2 ⟨rfl, rfl⟩⟩

/-- The message of a specification with an attempt of 1, without the fields that are for tracing. -/
def firstAttemptMessage (spec : LaunchSpec) : LaunchSpecMessage where
  correlationId := spec.correlationId.getD ""
  causationId := ""
  tenantId := spec.tenantId
  accountId := spec.accountId.getD ""
  runtimeId := spec.runtimeId
  workerIdentity := ""
  launchAttempt := 1
  strategyVersionId := spec.strategyVersionId
  jobId := spec.jobId.getD ""
  deploymentId := ""
  mode := protoMode spec.mode
  traderId := spec.traderId.getD ""
  artifactUri := spec.artifactUri
  artifactDigest := spec.artifactDigest.getD ""
  entrypoint := spec.entrypoint

theorem carries_firstAttemptMessage {spec : LaunchSpec} (h : spec.launchAttempt = 1) :
    Carries (firstAttemptMessage spec) spec where
  correlationId := rfl
  tenantId := rfl
  accountId := rfl
  runtimeId := rfl
  launchAttempt := by
    rw [h]
    rfl
  strategyVersionId := rfl
  jobId := rfl
  mode := rfl
  traderId := rfl
  artifactUri := rfl
  artifactDigest := rfl
  entrypoint := rfl

theorem paper_create_accepted :
    (∃ response, answerCreate {} ⟨paperSpec none, .running⟩ (firstAttemptMessage (paperSpec none)) =
      .ok response ∧ response.accepted = true) ↔ (paperSpec none).mode ≠ .backtest := by
  have haccepted : fromPayload (paperPayload none) = .ok (paperSpec none) := by decide +kernel
  exact create_worker_accepts_iff haccepted (carries_firstAttemptMessage rfl)
    (by simp [LaunchSpecValidator.get?]) .running

/-- A payload for a backtest. -/
def backtestPayload : PyVal :=
  .dict [("runtime_id", .str "rt-1"), ("strategy_version_id", .str "sv-1"),
    ("mode", .str "BACKTEST"), ("launch_attempt", .int 1), ("entrypoint", .str "bot:Strategy"),
    ("account_id", .str "acc-1"), ("artifact_uri", .str "file:///bundle"),
    ("ts_start", .str "2026-01-01T00:00:00Z"), ("ts_end", .str "2026-01-02T00:00:00Z")]

/-- What the payload specifies. -/
def backtestSpec : LaunchSpec :=
  { paperSpec none with
    mode := .backtest
    tsStart := some "2026-01-01T00:00:00Z"
    tsEnd := some "2026-01-02T00:00:00Z" }

/-- The worker of a backtest refuses the request to create it. -/
theorem backtest_create_refused :
    fromPayload backtestPayload = .ok backtestSpec ∧
      Carries (firstAttemptMessage backtestSpec) backtestSpec ∧
        answerCreate {} ⟨backtestSpec, .running⟩ (firstAttemptMessage backtestSpec) =
          .error (.runtimeStartValidationFailed "launch_spec_invalid"
            [("parameters", "ts_start_and_ts_end_required_for_backtest_mode")] none) :=
  ⟨by decide +kernel, carries_firstAttemptMessage rfl, rfl⟩

end Transport
end StrategyWorker
