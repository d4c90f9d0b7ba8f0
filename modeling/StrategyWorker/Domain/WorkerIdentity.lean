import StrategyWorker.Domain.RuntimeState
import StrategyWorker.Library.PyText

/-!
# The identity of a worker

{lit}`WorkerIdentity`, whose constructor strips its texts and refuses blank
ones, and which belongs to either a trader or an account.

Main results:

- Theorem {lit}`make_of_clean`: fields that need no stripping are kept as they
  are.
- Theorem {lit}`make_error_of_not_single`: no identity belongs to both a trader
  and an account, or to neither.
-/

namespace StrategyWorker
namespace Domain

open Library.PyText

inductive WorkerDomainError where
  | malformedWorkerIdentity (fieldName reason : String)
  | singleAssignmentViolation (reason : String)
  deriving DecidableEq, Repr

/-- {lit}`_require_non_empty`. -/
def requireNonEmpty (value fieldName : String) :
    Except WorkerDomainError { text : String // IsText text } :=
  if h : strip value = "" then .error (.malformedWorkerIdentity fieldName "must_not_be_blank")
  else .ok ⟨strip value, isText_strip h⟩

/-- A field that is missing or holds a text. -/
abbrev OptionalText :=
  { text : Option String // ∀ value ∈ text, IsText value }

theorem optionalText_none : ∀ value ∈ (none : Option String), IsText value := by
  simp

theorem optionalText_strip {value : String} (h : strip value ≠ "") :
    ∀ text ∈ some (strip value), IsText text := by
  simpa using isText_strip h

/-- {lit}`_normalize_optional`. -/
def normalizeOptional (value : Option String) (fieldName : String) :
    Except WorkerDomainError OptionalText :=
  match value with
  | none => .ok ⟨none, optionalText_none⟩
  | some value =>
      if h : strip value = "" then
        .error (.malformedWorkerIdentity fieldName "must_not_be_blank_if_provided")
      else .ok ⟨some (strip value), optionalText_strip h⟩

/-- The arguments of the constructor; a mode is a text. -/
structure WorkerIdentityArgs where
  runtimeId : String
  tenantId : String
  strategyVersionId : String
  mode : String
  traderId : Option String := none
  accountId : Option String := none
  validatedParameterIdentity : Option String := none
  artifactReference : Option String := none
  artifactUri : String := ""
  artifactDigest : Option String := none
  entrypoint : String := ""
  launchAttempt : Int := 1

structure WorkerIdentity where
  runtimeId : { text : String // IsText text }
  tenantId : String
  strategyVersionId : { text : String // IsText text }
  mode : RuntimeMode
  traderId : OptionalText
  accountId : OptionalText
  validatedParameterIdentity : OptionalText
  artifactReference : OptionalText
  artifactUri : { text : String // IsText text }
  artifactDigest : OptionalText
  entrypoint : { text : String // IsText text }
  launchAttempt : Int
  single_assignment : traderId.1.isSome ≠ accountId.1.isSome
  launchAttempt_pos : 1 ≤ launchAttempt

namespace WorkerIdentity

/-- The artifact's URI, or else the reference to it. -/
def uriCandidate (args : WorkerIdentityArgs) : String :=
  match args.artifactReference with
  | some reference =>
      if strip args.artifactUri = "" ∧ reference ≠ "" ∧ strip reference ≠ "" then strip reference
      else strip args.artifactUri
  | none => strip args.artifactUri

def readMode (mode : String) : Except WorkerDomainError RuntimeMode :=
  match RuntimeMode.ofValue? mode with
  | some mode => .ok mode
  | none => .error (.malformedWorkerIdentity "mode" ("invalid_mode:" ++ mode))

/-- {lit}`has_trader == has_account` is refused. -/
def checkAssignment (traderId accountId : OptionalText) :
    Except WorkerDomainError (PLift (traderId.1.isSome ≠ accountId.1.isSome)) :=
  if h : traderId.1.isSome = accountId.1.isSome then
    .error (.singleAssignmentViolation "exactly_one_of_trader_id_or_account_id_required")
  else .ok ⟨h⟩

def checkLaunchAttempt (launchAttempt : Int) :
    Except WorkerDomainError (PLift (1 ≤ launchAttempt)) :=
  if h : launchAttempt < 1 then
    .error (.malformedWorkerIdentity "launch_attempt" "must_be_greater_or_equal_to_1")
  else .ok ⟨by omega⟩

/-- {lit}`WorkerIdentity(...)`, with the checks of {lit}`__post_init__` in their order. -/
def make (args : WorkerIdentityArgs) : Except WorkerDomainError WorkerIdentity := do
  let runtimeId ← requireNonEmpty args.runtimeId "runtime_id"
  let strategyVersionId ← requireNonEmpty args.strategyVersionId "strategy_version_id"
  let artifactUri ← requireNonEmpty (uriCandidate args) "artifact_uri"
  let entrypoint ← requireNonEmpty args.entrypoint "entrypoint"
  let traderId ← normalizeOptional args.traderId "trader_id"
  let accountId ← normalizeOptional args.accountId "account_id"
  let validatedParameterIdentity ←
    normalizeOptional args.validatedParameterIdentity "validated_parameter_identity"
  let artifactReference ← normalizeOptional args.artifactReference "artifact_reference"
  let artifactDigest ← normalizeOptional args.artifactDigest "artifact_digest"
  let mode ← readMode args.mode
  let single ← checkAssignment traderId accountId
  let positive ← checkLaunchAttempt args.launchAttempt
  return {
    runtimeId
    tenantId := strip args.tenantId
    strategyVersionId
    mode
    traderId
    accountId
    validatedParameterIdentity
    artifactReference
    artifactUri
    artifactDigest
    entrypoint
    launchAttempt := args.launchAttempt
    single_assignment := single.down
    launchAttempt_pos := positive.down }

end WorkerIdentity

/-! ## Fields that are kept -/

theorem requireNonEmpty_of_isText {value : String} (h : IsText value) (fieldName : String) :
    requireNonEmpty value fieldName = .ok ⟨value, h⟩ := by
  have hne : strip value ≠ "" := by
    rw [h.2]
    exact h.1
  rw [requireNonEmpty, dif_neg hne]
  congr
  exact h.2

theorem normalizeOptional_of_isText {value : Option String} (h : ∀ text ∈ value, IsText text)
    (fieldName : String) : normalizeOptional value fieldName = .ok ⟨value, h⟩ := by
  cases value with
  | none => rfl
  | some value =>
      have htext : IsText value := h value rfl
      have hne : strip value ≠ "" := by
        rw [htext.2]
        exact htext.1
      simp only [normalizeOptional, dif_neg hne]
      congr
      exact htext.2

namespace WorkerIdentity

/-- Arguments whose texts are neither empty nor padded. -/
structure Clean (args : WorkerIdentityArgs) : Prop where
  runtimeId : IsText args.runtimeId
  tenantId : strip args.tenantId = args.tenantId
  strategyVersionId : IsText args.strategyVersionId
  mode : ∃ mode : RuntimeMode, args.mode = mode.value
  traderId : ∀ text ∈ args.traderId, IsText text
  accountId : ∀ text ∈ args.accountId, IsText text
  validatedParameterIdentity : ∀ text ∈ args.validatedParameterIdentity, IsText text
  artifactReference : ∀ text ∈ args.artifactReference, IsText text
  artifactUri : IsText args.artifactUri
  artifactDigest : ∀ text ∈ args.artifactDigest, IsText text
  entrypoint : IsText args.entrypoint
  launchAttempt_pos : 1 ≤ args.launchAttempt

theorem uriCandidate_of_isText {args : WorkerIdentityArgs} (h : IsText args.artifactUri) :
    uriCandidate args = args.artifactUri := by
  unfold uriCandidate
  rw [h.2]
  cases args.artifactReference with
  | none => rfl
  | some reference => simp [h.1]

/-- The arguments that an identity was made from, when they were clean. -/
def toArgs (identity : WorkerIdentity) : WorkerIdentityArgs where
  runtimeId := identity.runtimeId
  tenantId := identity.tenantId
  strategyVersionId := identity.strategyVersionId
  mode := identity.mode.value
  traderId := identity.traderId
  accountId := identity.accountId
  validatedParameterIdentity := identity.validatedParameterIdentity
  artifactReference := identity.artifactReference
  artifactUri := identity.artifactUri
  artifactDigest := identity.artifactDigest
  entrypoint := identity.entrypoint
  launchAttempt := identity.launchAttempt

/-- Clean arguments make the identity that holds them, unless they assign the worker to nobody or
to two. -/
theorem make_of_clean {args : WorkerIdentityArgs} (h : Clean args)
    (hsingle : args.traderId.isSome ≠ args.accountId.isSome) :
    ∃ identity, make args = .ok identity ∧ identity.toArgs = args := by
  rcases h.mode with ⟨mode, hmode⟩
  have hread : readMode args.mode = .ok mode := by
    simp [readMode, hmode]
  have hattempt : ¬ args.launchAttempt < 1 := by
    have hpos := h.launchAttempt_pos
    omega
  have hmake : make args = .ok {
      runtimeId := ⟨args.runtimeId, h.runtimeId⟩
      tenantId := strip args.tenantId
      strategyVersionId := ⟨args.strategyVersionId, h.strategyVersionId⟩
      mode
      traderId := ⟨args.traderId, h.traderId⟩
      accountId := ⟨args.accountId, h.accountId⟩
      validatedParameterIdentity := ⟨args.validatedParameterIdentity, h.validatedParameterIdentity⟩
      artifactReference := ⟨args.artifactReference, h.artifactReference⟩
      artifactUri := ⟨args.artifactUri, h.artifactUri⟩
      artifactDigest := ⟨args.artifactDigest, h.artifactDigest⟩
      entrypoint := ⟨args.entrypoint, h.entrypoint⟩
      launchAttempt := args.launchAttempt
      single_assignment := hsingle
      launchAttempt_pos := h.launchAttempt_pos } := by
    have hassigned : checkAssignment ⟨args.traderId, h.traderId⟩ ⟨args.accountId, h.accountId⟩ =
        .ok ⟨hsingle⟩ := dif_neg hsingle
    have hlaunch : checkLaunchAttempt args.launchAttempt = .ok ⟨h.launchAttempt_pos⟩ :=
      dif_neg hattempt
    unfold make
    rw [requireNonEmpty_of_isText h.runtimeId, requireNonEmpty_of_isText h.strategyVersionId,
      uriCandidate_of_isText h.artifactUri, requireNonEmpty_of_isText h.artifactUri,
      requireNonEmpty_of_isText h.entrypoint, normalizeOptional_of_isText h.traderId,
      normalizeOptional_of_isText h.accountId,
      normalizeOptional_of_isText h.validatedParameterIdentity,
      normalizeOptional_of_isText h.artifactReference,
      normalizeOptional_of_isText h.artifactDigest, hread]
    dsimp only [bind, Except.bind, pure, Except.pure]
    rw [hassigned, hlaunch]
  refine ⟨_, hmake, ?_⟩
  rw [toArgs, h.tenantId, ← hmode]

/-- No identity belongs to both a trader and an account, or to neither. -/
theorem make_error_of_not_single {args : WorkerIdentityArgs} (h : Clean args)
    (hsame : args.traderId.isSome = args.accountId.isSome) :
    make args =
      .error (.singleAssignmentViolation "exactly_one_of_trader_id_or_account_id_required") := by
  rcases h.mode with ⟨mode, hmode⟩
  have hread : readMode args.mode = .ok mode := by
    simp [readMode, hmode]
  unfold make checkAssignment
  rw [requireNonEmpty_of_isText h.runtimeId, requireNonEmpty_of_isText h.strategyVersionId,
    uriCandidate_of_isText h.artifactUri, requireNonEmpty_of_isText h.artifactUri,
    requireNonEmpty_of_isText h.entrypoint, normalizeOptional_of_isText h.traderId,
    normalizeOptional_of_isText h.accountId,
    normalizeOptional_of_isText h.validatedParameterIdentity,
    normalizeOptional_of_isText h.artifactReference,
    normalizeOptional_of_isText h.artifactDigest, hread]
  simp [hsame, bind, Except.bind]

end WorkerIdentity

end Domain
end StrategyWorker
