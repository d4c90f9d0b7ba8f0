import StrategyWorker.Application.PushReplay
import StrategyWorker.Bootstrap.LaunchSpec
import StrategyWorker.Domain.WorkerIdentity

/-!
# From a launch specification to a worker

The identity that the dependency container builds from a launch specification
and the key under which the lifecycle service creates the strategy.  Both belong
to either a trader or an account, while a payload has to name an account and
may name a trader besides.

Main results:

- Theorem {lit}`launchable_iff`: what an accepted payload specifies can be
  launched exactly when the payload does not name a trader.
- Theorem {lit}`buildWorkerIdentity_keeps`: the identity has the fields of the
  specification.
- Definition {lit}`replaySpec`: an accepted specification as the replay reads it.
-/

namespace StrategyWorker
namespace Application

open Library
open Library.PyText
open Domain
open Bootstrap (fromPayload fromPayload_eq_ok HoldsText Accepts paperPayload paperSpec)

/-! ## The strategy's assignment -/

/-- {lit}`StrategyAssignmentKey`, which belongs to either a trader or an account. -/
structure StrategyAssignmentKey where
  runtimeId : String
  strategyVersionId : String
  tenantId : String
  mode : RuntimeMode
  launchAttempt : Int
  validatedParameterIdentity : Option String
  traderId : Option String
  accountId : Option String
  single_assignment : traderId.isSome ≠ accountId.isSome

/-- The key that {lit}`_initialize_strategy_coordinator` builds. -/
def strategyAssignmentKey (launchSpec : Bootstrap.LaunchSpec) :
    Except PyException StrategyAssignmentKey :=
  if h : launchSpec.traderId.isSome = launchSpec.accountId.isSome then
    .error ⟨.valueError, some "Exactly one of trader_id or account_id must be set."⟩
  else
    .ok {
      runtimeId := launchSpec.runtimeId
      strategyVersionId := launchSpec.strategyVersionId
      tenantId := launchSpec.tenantId
      mode := launchSpec.mode
      launchAttempt := launchSpec.launchAttempt
      validatedParameterIdentity := none
      traderId := launchSpec.traderId
      accountId := launchSpec.accountId
      single_assignment := h }

theorem exists_strategyAssignmentKey_iff (launchSpec : Bootstrap.LaunchSpec) :
    (∃ key, strategyAssignmentKey launchSpec = .ok key) ↔
      launchSpec.traderId.isSome ≠ launchSpec.accountId.isSome := by
  unfold strategyAssignmentKey
  by_cases h : launchSpec.traderId.isSome = launchSpec.accountId.isSome <;> simp [h]

/-! ## The worker's identity -/

/-- The arguments that {lit}`_build_worker_identity` passes. -/
def workerIdentityArgs (launchSpec : Bootstrap.LaunchSpec) : WorkerIdentityArgs where
  runtimeId := launchSpec.runtimeId
  tenantId := launchSpec.tenantId
  strategyVersionId := launchSpec.strategyVersionId
  mode := launchSpec.mode.value
  traderId := launchSpec.traderId
  accountId := launchSpec.accountId
  artifactUri := launchSpec.artifactUri
  artifactDigest := launchSpec.artifactDigest
  entrypoint := launchSpec.entrypoint
  launchAttempt := launchSpec.launchAttempt

/-- {lit}`_build_worker_identity`. -/
def buildWorkerIdentity (launchSpec : Bootstrap.LaunchSpec) :
    Except WorkerDomainError WorkerIdentity :=
  WorkerIdentity.make (workerIdentityArgs launchSpec)

/-- The identity's constructor accepts every text of a well-formed specification. -/
theorem clean_workerIdentityArgs {launchSpec : Bootstrap.LaunchSpec} (h : launchSpec.WellFormed) :
    WorkerIdentity.Clean (workerIdentityArgs launchSpec) where
  runtimeId := h.runtimeId
  tenantId := h.tenantId
  strategyVersionId := h.strategyVersionId
  mode := ⟨launchSpec.mode, rfl⟩
  traderId := h.traderId
  accountId := by
    rcases h.accountId with ⟨value, hvalue, htext⟩
    intro text hmem
    have hsome : text ∈ launchSpec.accountId := hmem
    rw [hvalue] at hsome
    cases hsome
    exact htext
  validatedParameterIdentity := by simp [workerIdentityArgs]
  artifactReference := by simp [workerIdentityArgs]
  artifactUri := h.artifactUri
  artifactDigest := h.artifactDigest
  entrypoint := h.entrypoint
  launchAttempt_pos := h.launchAttempt_pos

theorem exists_buildWorkerIdentity_iff {launchSpec : Bootstrap.LaunchSpec}
    (h : launchSpec.WellFormed) :
    (∃ identity, buildWorkerIdentity launchSpec = .ok identity) ↔
      launchSpec.traderId.isSome ≠ launchSpec.accountId.isSome := by
  have hclean := clean_workerIdentityArgs h
  constructor
  · rintro ⟨identity, hmake⟩ hsame
    have herror := WorkerIdentity.make_error_of_not_single hclean hsame
    rw [buildWorkerIdentity, herror] at hmake
    cases hmake
  · intro hsingle
    rcases WorkerIdentity.make_of_clean hclean hsingle with ⟨identity, hmake, -⟩
    exact ⟨identity, hmake⟩

/-- The identity has the fields of the specification. -/
theorem buildWorkerIdentity_keeps {payload : PyVal} {launchSpec : Bootstrap.LaunchSpec}
    {identity : WorkerIdentity} (h : fromPayload payload = .ok launchSpec)
    (hmake : buildWorkerIdentity launchSpec = .ok identity) :
    identity.toArgs = workerIdentityArgs launchSpec := by
  have hwf := Bootstrap.LaunchSpec.wellFormed_of_fromPayload h
  have hsingle := (exists_buildWorkerIdentity_iff hwf).1 ⟨identity, hmake⟩
  rcases WorkerIdentity.make_of_clean (clean_workerIdentityArgs hwf) hsingle with
    ⟨identity', hmake', hargs⟩
  rw [buildWorkerIdentity, hmake'] at hmake
  cases hmake
  exact hargs

/-! ## Which payloads can be launched -/

/-- {lit}`key in payload`. -/
def hasKey (payload : PyVal) (key : String) : Bool :=
  match payload with
  | .dict fields => PyDict.contains fields key
  | _ => false

/-- A checked text is there exactly when its field is. -/
theorem isSome_iff_contains {payload : PyDict} {fieldName : String} {value : Option String}
    (h : HoldsText payload fieldName value) : value.isSome = payload.contains fieldName := by
  cases h with
  | absent hget => simp [PyDict.contains, hget]
  | present text hget _ _ => simp [PyDict.contains, hget]

/-- What an accepted payload specifies can be launched exactly when it does not name a trader. -/
theorem launchable_iff {payload : PyVal} {launchSpec : Bootstrap.LaunchSpec}
    (h : fromPayload payload = .ok launchSpec) :
    ((∃ identity, buildWorkerIdentity launchSpec = .ok identity) ∧
      ∃ key, strategyAssignmentKey launchSpec = .ok key) ↔ hasKey payload "trader_id" = false := by
  have hwf := Bootstrap.LaunchSpec.wellFormed_of_fromPayload h
  rcases fromPayload_eq_ok.1 h with ⟨fields, rfl, haccepts⟩
  have haccount : launchSpec.accountId.isSome = true := haccepts.accountId_isSome
  have htrader : launchSpec.traderId.isSome = PyDict.contains fields "trader_id" :=
    isSome_iff_contains haccepts.traderId
  rw [exists_buildWorkerIdentity_iff hwf, exists_strategyAssignmentKey_iff, and_self, haccount,
    htrader, hasKey]
  simp

theorem paper_launchable :
    ((∃ identity, buildWorkerIdentity (paperSpec none) = .ok identity) ∧
      ∃ key, strategyAssignmentKey (paperSpec none) = .ok key) ↔
        hasKey (paperPayload none) "trader_id" = false := by
  have haccepted : fromPayload (paperPayload none) = .ok (paperSpec none) := by decide +kernel
  exact launchable_iff haccepted

/-- A payload with both a trader and an account is accepted and cannot be launched. -/
theorem paper_with_trader_not_launchable :
    fromPayload (paperPayload (some "trader-1")) = .ok (paperSpec (some "trader-1")) ∧
      buildWorkerIdentity (paperSpec (some "trader-1")) =
        .error (.singleAssignmentViolation "exactly_one_of_trader_id_or_account_id_required") ∧
      strategyAssignmentKey (paperSpec (some "trader-1")) =
        .error ⟨.valueError, some "Exactly one of trader_id or account_id must be set."⟩ := by
  have haccepted : fromPayload (paperPayload (some "trader-1")) =
      .ok (paperSpec (some "trader-1")) := by decide +kernel
  have hwf := Bootstrap.LaunchSpec.wellFormed_of_fromPayload haccepted
  exact ⟨haccepted, WorkerIdentity.make_error_of_not_single (clean_workerIdentityArgs hwf) rfl, rfl⟩

/-! ## The specification that a replay reads -/

/-- A text that is its own strip neither starts nor ends with a space. -/
theorem trimmed_of_isText {text : String} (h : IsText text) : Trimmed text := by
  have htrimmed := trimmed_strip text
  rwa [h.2] at htrimmed

/-- An accepted specification as the replay reads it. -/
def replaySpec (launchSpec : Bootstrap.LaunchSpec) (h : launchSpec.WellFormed) : LaunchSpec where
  runtimeId := launchSpec.runtimeId
  mode := launchSpec.mode
  tsStart := launchSpec.tsStart
  tsEnd := launchSpec.tsEnd
  tsStart_text := fun s hs => ⟨(h.tsStart s hs).1, trimmed_of_isText (h.tsStart s hs)⟩
  tsEnd_text := fun s hs => ⟨(h.tsEnd s hs).1, trimmed_of_isText (h.tsEnd s hs)⟩
  tsStart_mode := h.tsStart_mode
  tsEnd_mode := h.tsEnd_mode

end Application
end StrategyWorker
