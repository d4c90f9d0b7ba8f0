import Mathlib.Data.List.DropRight
import Mathlib.Data.List.Forall2
import StrategyWorker.Library.PyText

/-!
# Consumer groups of the workers

Each worker reads its streams under a consumer group that is named after its
deployment, or else after its runtime.  The name is made of tokens: characters
other than ASCII letters, digits and hyphens are underscores in a token,
underscores at its ends are dropped, and it is cut.  Different identities can
therefore have one token.

Main results:

- Theorem {lit}`token_eq_iff`: when two texts have one token.
- Theorem {lit}`consumerGroup_eq_iff`: when two workers share a group.
- Theorem {lit}`consumer_groups_private_iff`: when different identities have
  different groups.
-/

namespace StrategyWorker
namespace MarketData

open Library
open Library.PyText

/-! ## Tokens -/

/-- A character of a token. -/
def tokenChar (c : Char) : Char :=
  if c.isAlphanum ∨ c = '-' ∨ c = '_' then c else '_'

/-- {lit}`s.strip("_")`. -/
def stripUnderscores (cs : List Char) : List Char :=
  (cs.dropWhile fun c => c = '_').rdropWhile fun c => c = '_'

/-- {lit}`sanitize_redis_stream_consumer_token(raw, max_len=…)`. -/
def sanitizeRedisStreamConsumerToken (raw : String) (maxLen : Nat) : String :=
  let s := stripUnderscores ((strip raw).toList.map tokenChar)
  String.ofList ((if s = [] then "swr".toList else s).take maxLen)

/-- {lit}`build_market_data_consumer_group_name`. -/
def buildMarketDataConsumerGroupName (groupPrefix : String) (deploymentId runtimeId : Option String) :
    String :=
  let base := sanitizeRedisStreamConsumerToken groupPrefix 48
  let dep := strip (deploymentId.getD "")
  let rid := strip (runtimeId.getD "")
  let suffix := sanitizeRedisStreamConsumerToken (if dep ≠ "" then dep else rid) 48
  base ++ ":" ++ suffix

/-- The identities of a worker: {lit}`str` of the {lit}`deployment_id` of its launch payload, when
there is one, and the {lit}`runtime_id` of its launch spec. -/
structure WorkerIds where
  deploymentId : Option String
  runtimeId : String

/-- The prefix of the settings, or the default. -/
def configuredGroupPrefix (setting : String) : String :=
  let stripped := strip (if setting ≠ "" then setting else "strategy-worker-runtime")
  if stripped ≠ "" then stripped else "strategy-worker-runtime"

/-- The group that a worker passes to XREADGROUP. -/
def consumerGroup (setting : String) (w : WorkerIds) : String :=
  let dep := strip (w.deploymentId.getD "")
  let name := buildMarketDataConsumerGroupName (configuredGroupPrefix setting)
    (if dep ≠ "" then some dep else none) (some w.runtimeId)
  String.ofList (name.toList.take 200)

/-- The deployment when it is set, otherwise the runtime. -/
def effectiveIdentity (w : WorkerIds) : String :=
  if strip (w.deploymentId.getD "") ≠ "" then w.deploymentId.getD "" else w.runtimeId

/-! ## Texts with one token -/

/-- Characters that a token does not tell apart. -/
def isSeparator (c : Char) : Bool :=
  !(c.isAlphanum || c = '-')

/-- The characters agree, or both are separators. -/
def SameChar (c d : Char) : Prop :=
  c = d ∨ (isSeparator c = true ∧ isSeparator d = true)

/-- A text without the separators around it; {lit}`swr` when nothing is left. -/
def tokenCore (text : String) : List Char :=
  let core := ((strip text).toList.dropWhile isSeparator).rdropWhile isSeparator
  if core = [] then "swr".toList else core

/-- The first 48 characters agree up to separators, the separators around the texts left out. -/
def SameToken (a b : String) : Prop :=
  List.Forall₂ SameChar ((tokenCore a).take 48) ((tokenCore b).take 48)

theorem tokenChar_eq (c : Char) : tokenChar c = if isSeparator c then '_' else c := by
  unfold tokenChar isSeparator
  by_cases halnum : c.isAlphanum = true
  · simp [halnum]
  by_cases hhyphen : c = '-'
  · simp [hhyphen]
  by_cases hunderscore : c = '_'
  · simp [hunderscore]
  · simp [halnum, hhyphen, hunderscore]

theorem tokenChar_eq_iff {c d : Char} : tokenChar c = tokenChar d ↔ SameChar c d := by
  have hsep : ∀ e, isSeparator e = false → e ≠ '_' := by
    rintro e he rfl
    revert he
    decide
  rw [tokenChar_eq, tokenChar_eq]
  unfold SameChar
  by_cases hc : isSeparator c = true
  · by_cases hd : isSeparator d = true
    · simp [hc, hd]
    · have hne : d ≠ '_' := hsep d (by simpa using hd)
      have hcd : c ≠ d := fun heq => hd (heq ▸ hc)
      simp [hc, hd, hne.symm, hcd]
  · have hne : c ≠ '_' := hsep c (by simpa using hc)
    by_cases hd : isSeparator d = true
    · have hcd : c ≠ d := fun heq => hc (heq ▸ hd)
      simp [hc, hd, hne, hcd]
    · simp [hc, hd]

/-- The underscores at the ends of a token are the separators at the ends of the text. -/
theorem stripUnderscores_map (cs : List Char) :
    stripUnderscores (cs.map tokenChar) =
      ((cs.dropWhile isSeparator).rdropWhile isSeparator).map tokenChar := by
  have hseparator : (fun c => decide (c = '_')) ∘ tokenChar = isSeparator := by
    funext c
    by_cases hc : isSeparator c = true
    · simp [tokenChar_eq, hc]
    · have hne : c ≠ '_' := by
        rintro rfl
        exact hc (by decide)
      simp [tokenChar_eq, hc, hne]
  rw [stripUnderscores, List.dropWhile_map, hseparator, List.rdropWhile, List.rdropWhile,
    ← List.map_reverse, List.dropWhile_map, hseparator, ← List.map_reverse]

/-- A token is that of the characters between the separators. -/
theorem toList_token (raw : String) (maxLen : Nat) :
    (sanitizeRedisStreamConsumerToken raw maxLen).toList =
      ((tokenCore raw).take maxLen).map tokenChar := by
  have hdefault : "swr".toList.map tokenChar = "swr".toList := by decide
  simp only [sanitizeRedisStreamConsumerToken, stripUnderscores_map, String.toList_ofList,
    List.map_eq_nil_iff, tokenCore, List.map_take]
  split
  · rw [hdefault]
  · rfl

/-- When two texts have one token. -/
theorem token_eq_iff {a b : String} :
    sanitizeRedisStreamConsumerToken a 48 = sanitizeRedisStreamConsumerToken b 48 ↔
      SameToken a b := by
  rw [← String.toList_inj, toList_token, toList_token, ← List.forall₂_eq_eq_eq,
    List.forall₂_map_left_iff, List.forall₂_map_right_iff]
  simp only [tokenChar_eq_iff, SameToken]

/-! ## Groups -/

theorem length_token_le (raw : String) (maxLen : Nat) :
    (sanitizeRedisStreamConsumerToken raw maxLen).toList.length ≤ maxLen := by
  rw [toList_token, List.length_map]
  exact List.length_take_le _ _

/-- Blanks around a text do not matter to its token. -/
theorem tokenCore_strip (text : String) : tokenCore (strip text) = tokenCore text := by
  unfold tokenCore
  rw [strip_strip]

/-- The group of a worker is named after its effective identity, and the cut leaves it whole. -/
theorem consumerGroup_eq (setting : String) (w : WorkerIds) :
    consumerGroup setting w =
      sanitizeRedisStreamConsumerToken (configuredGroupPrefix setting) 48 ++ ":" ++
        sanitizeRedisStreamConsumerToken (effectiveIdentity w) 48 := by
  have hsuffix : ∀ text, sanitizeRedisStreamConsumerToken (strip text) 48 =
      sanitizeRedisStreamConsumerToken text 48 := by
    intro text
    rw [← String.toList_inj, toList_token, toList_token, tokenCore_strip]
  have hname : buildMarketDataConsumerGroupName (configuredGroupPrefix setting)
      (if strip (w.deploymentId.getD "") ≠ "" then some (strip (w.deploymentId.getD "")) else none)
      (some w.runtimeId) =
        sanitizeRedisStreamConsumerToken (configuredGroupPrefix setting) 48 ++ ":" ++
          sanitizeRedisStreamConsumerToken (effectiveIdentity w) 48 := by
    unfold buildMarketDataConsumerGroupName effectiveIdentity
    by_cases hdep : strip (w.deploymentId.getD "") = ""
    · have hblank : strip "" = "" := by decide
      simp [hdep, hblank, hsuffix]
    · simp [hdep, strip_strip, hsuffix]
  have hlength : (sanitizeRedisStreamConsumerToken (configuredGroupPrefix setting) 48 ++ ":" ++
      sanitizeRedisStreamConsumerToken (effectiveIdentity w) 48).toList.length ≤ 200 := by
    have hbase := length_token_le (configuredGroupPrefix setting) 48
    have hidentity := length_token_le (effectiveIdentity w) 48
    have hcolon : ":".toList.length = 1 := by decide
    rw [String.toList_append, String.toList_append, List.length_append, List.length_append]
    omega
  simp only [consumerGroup]
  rw [hname, List.take_of_length_le hlength, String.ofList_toList]

/-- Two workers with one configured prefix share a group when their identities have one token. -/
theorem consumerGroup_eq_iff {setting : String} {w w' : WorkerIds} :
    consumerGroup setting w = consumerGroup setting w' ↔
      SameToken (effectiveIdentity w) (effectiveIdentity w') := by
  rw [consumerGroup_eq, consumerGroup_eq, ← token_eq_iff, ← String.toList_inj]
  simp [String.toList_append, String.toList_inj]

/--
For every configured prefix and every two workers: different effective
identities have different groups exactly when different identities still differ
in their first 48 characters after all separators (whatever is neither an ASCII
letter or digit nor a hyphen) are taken for one and those around are left out.
-/
theorem consumer_groups_private_iff (setting : String) (w w' : WorkerIds) :
    (effectiveIdentity w ≠ effectiveIdentity w' →
        consumerGroup setting w ≠ consumerGroup setting w') ↔
      (effectiveIdentity w ≠ effectiveIdentity w' →
        ¬ SameToken (effectiveIdentity w) (effectiveIdentity w')) := by
  rw [Ne, Ne, consumerGroup_eq_iff]

def dottedDeployment : WorkerIds :=
  ⟨some "momentum.v1", "rt-1"⟩

def underscoredDeployment : WorkerIds :=
  ⟨some "momentum_v1", "rt-2"⟩

/-- Deployments that differ in a dot share a group. -/
theorem dotted_deployments_share_group :
    effectiveIdentity dottedDeployment ≠ effectiveIdentity underscoredDeployment ∧
      consumerGroup "swr" dottedDeployment = consumerGroup "swr" underscoredDeployment := by
  have htoken : sanitizeRedisStreamConsumerToken (effectiveIdentity dottedDeployment) 48 =
      sanitizeRedisStreamConsumerToken (effectiveIdentity underscoredDeployment) 48 := by
    decide +kernel
  constructor
  · decide
  · rw [consumerGroup_eq, consumerGroup_eq, htoken]

end MarketData
end StrategyWorker
