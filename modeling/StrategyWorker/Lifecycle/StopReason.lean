import Mathlib.Data.List.Find
import Mathlib.Data.List.Nodup
import StrategyWorker.Library.LetterCase
import StrategyWorker.Lifecycle.FinalStatus

/-!
# Spellings of a stop reason

{lit}`canonical_reason_from_stop_request` reads most of its vocabulary in any
letter case, but a canonical reason only in upper case where the map of the
older spellings has no entry for it: in any other case it becomes
{lit}`POLICY_VIOLATION`.

Main results:

- Theorem {lit}`canonical_eq_of_variant`: outside these reasons the letter case
  does not matter.
- Theorem {lit}`canonical_reason_consistent_iff`: which reasons are canonicalised
  consistently.
- Theorem {lit}`lower_case_reason_differs`: a reason in lower case.
-/

namespace StrategyWorker
namespace Lifecycle
namespace FinalStatus

open Domain
open Library
open Library.PyText
open RuntimeWorkerReasonCode

/-- The older spelling that a text has in lower case. -/
def legacyReason (raw : String) : Option RuntimeWorkerReasonCode :=
  (legacyRuntimeReasonMap.find? fun entry => entry.1 = PyText.lower raw).map Prod.snd

/-- The map has no entry for the reason in lower case, which is thus read as
{lit}`POLICY_VIOLATION`. -/
def UpperCaseOnly (code : RuntimeWorkerReasonCode) : Prop :=
  code ≠ .policyViolation ∧ legacyReason code.value = none

instance (code : RuntimeWorkerReasonCode) : Decidable (UpperCaseOnly code) :=
  inferInstanceAs (Decidable (_ ∧ _))

/-- The reason is read alike in every variant, a canonical reason as itself, and what it is read as
is read as itself. -/
structure Consistent (letters : LetterCase) (reason : String) : Prop where
  variants : ∀ variant, letters.Variant variant reason →
    canonicalReasonFromStopRequest variant = canonicalReasonFromStopRequest reason
  canonical : ∀ code : RuntimeWorkerReasonCode, reason = code.value →
    canonicalReasonFromStopRequest reason = code
  idempotent : canonicalReasonFromStopRequest (canonicalReasonFromStopRequest reason).value =
    canonicalReasonFromStopRequest reason

/-! ## The vocabulary -/

/-- The characters of the lower case. -/
def lowered (cs : List Char) : List Char :=
  cs.map fun c => if c.toNat = 0x212a then 'k' else c.toLower

/-- How a canonical reason is spelled: in capitals of ASCII without spaces, and in lower case as
no canonical reason, as none of the texts that a stop request is searched for and, among the older
spellings, as no other reason. -/
def Spelled (code : RuntimeWorkerReasonCode) (cs : List Char) : Prop :=
  ((∀ c ∈ cs, c.toNat < 128) ∧ cs.flatMap upperChar = cs) ∧
    ((∀ c ∈ lowered cs, isSpace c = false) ∧ lowered (lowered cs) = lowered cs ∧
      (lowered cs).flatMap upperChar = cs ∧
      (lowered cs).map Char.toLower = cs.map Char.toLower) ∧
    ofValue? (String.ofList (lowered cs)) = none ∧
    (legacyRuntimeReasonMap.find? fun entry => entry.1 = String.ofList (lowered cs)).map Prod.snd ∈
      [none, some code] ∧
    String.ofList (lowered cs) ∉ ["error_detected", "error", "failed", "runtime_job_completed"]

instance (code : RuntimeWorkerReasonCode) (cs : List Char) : Decidable (Spelled code cs) :=
  inferInstanceAs (Decidable (_ ∧ _))

theorem exists_spelled (code : RuntimeWorkerReasonCode) :
    ∃ cs, code.value = String.ofList cs ∧ Spelled code cs := by
  cases code <;> exact ⟨_, rfl, by decide +kernel⟩

theorem lower_ofList (cs : List Char) :
    PyText.lower (String.ofList cs) = String.ofList (lowered cs) := by
  rw [PyText.lower, String.toList_ofList, lowered]

theorem upper_ofList (cs : List Char) :
    upper (String.ofList cs) = String.ofList (cs.flatMap upperChar) := by
  rw [upper, String.toList_ofList]

theorem strip_ofList {cs : List Char} (h : ∀ c ∈ cs, isSpace c = false) :
    strip (String.ofList cs) = String.ofList cs := by
  apply strip_eq_self
  rw [Trimmed, String.toList_ofList, Option.all_eq_true, Option.all_eq_true]
  exact ⟨fun c hc => by simpa using h c (List.mem_of_mem_head? hc),
    fun c hc => by simpa using h c (List.mem_of_mem_getLast? hc)⟩

theorem isAscii_ofList {text : String} {cs : List Char} (h : text = String.ofList cs)
    (hascii : ∀ c ∈ cs, c.toNat < 128) : IsAscii text := by
  rw [h, IsAscii, String.toList_ofList]
  exact hascii

theorem isAscii_value (code : RuntimeWorkerReasonCode) : IsAscii code.value := by
  rcases exists_spelled code with ⟨cs, hvalue, ⟨hascii, -⟩, -⟩
  exact isAscii_ofList hvalue hascii

theorem isAscii_legacy : ∀ entry ∈ legacyRuntimeReasonMap, IsAscii entry.1 := by
  simp only [legacyRuntimeReasonMap, List.forall_mem_cons, List.not_mem_nil, false_implies,
    implies_true, and_true]
  repeat' apply And.intro
  all_goals exact isAscii_ofList rfl (by decide)

/-- The texts that a stop request is searched for. -/
theorem isAscii_searched : ∀ key ∈
    [kubernetesTerminationReason, "SWR_KUBERNETES_TERMINATION", "SIGTERM"] ++
      (["error_detected", "error", "failed"] ++ ["runtime_job_completed"]), IsAscii key := by
  simp only [kubernetesTerminationReason, List.cons_append, List.nil_append, List.forall_mem_cons,
    List.not_mem_nil, false_implies, implies_true, and_true]
  repeat' apply And.intro
  all_goals exact isAscii_ofList rfl (by decide)

/-- An entry for a canonical reason gives that reason. -/
theorem legacyReason_value {code code' : RuntimeWorkerReasonCode}
    (h : legacyReason code.value = some code') : code' = code := by
  rcases exists_spelled code with ⟨cs, hvalue, -, -, -, hlegacy, -⟩
  rw [legacyReason, hvalue, lower_ofList] at h
  rw [h] at hlegacy
  simpa using hlegacy

/-- Canonical reasons differ in more than their letter case. -/
theorem code_eq_of_toLower {code code' : RuntimeWorkerReasonCode}
    (h : code.value.toList.map Char.toLower = code'.value.toList.map Char.toLower) :
    code = code' := by
  rcases exists_spelled code with ⟨cs, hvalue, ⟨hascii, -⟩, ⟨-, -, hraised, -⟩, -⟩
  rcases exists_spelled code' with ⟨cs', hvalue', ⟨hascii', -⟩, ⟨-, -, hraised', -⟩, -⟩
  have hlowered : ∀ {ds : List Char}, (∀ c ∈ ds, c.toNat < 128) →
      lowered ds = ds.map Char.toLower := by
    intro ds hds
    refine List.map_congr_left fun c hc => if_neg fun hkelvin => ?_
    have := hds c hc
    omega
  rw [hvalue, hvalue', String.toList_ofList, String.toList_ofList, ← hlowered hascii,
    ← hlowered hascii'] at h
  have hsame : code.value = code'.value := by
    rw [hvalue, hvalue', ← hraised, ← hraised', h]
  have hread := (ofValue?_value code).1
  rw [hsame, (ofValue?_value code').1] at hread
  exact (Option.some.inj hread).symm

/-- A canonical reason is its own upper case. -/
theorem upper_value (code : RuntimeWorkerReasonCode) : upper code.value = code.value := by
  rcases exists_spelled code with ⟨cs, hvalue, ⟨-, hupper⟩, -⟩
  rw [hvalue, upper_ofList, hupper]

/-- In lower case a reason is no text that a stop request is searched for. -/
theorem lower_value_notMem (code : RuntimeWorkerReasonCode) :
    PyText.lower code.value ∉ ["error_detected", "error", "failed"] ∧
      PyText.lower code.value ≠ "runtime_job_completed" := by
  rcases exists_spelled code with ⟨cs, hvalue, -, -, -, -, hsearched⟩
  rw [hvalue, lower_ofList]
  simp only [List.mem_cons, List.not_mem_nil, or_false, not_or] at hsearched ⊢
  exact ⟨⟨hsearched.1, hsearched.2.1, hsearched.2.2.1⟩, hsearched.2.2.2⟩

theorem eq_kubernetesTermination {code : RuntimeWorkerReasonCode}
    (h : code.value ∈ [kubernetesTerminationReason, "SWR_KUBERNETES_TERMINATION", "SIGTERM"]) :
    code = .kubernetesTermination := by
  revert h
  cases code <;> decide

/-- Every canonical reason is read as itself. -/
theorem canonical_value (code : RuntimeWorkerReasonCode) :
    canonicalReasonFromStopRequest code.value = code := by
  rcases lower_value_notMem code with ⟨herror, hcompleted⟩
  have hne : code.value ≠ "" := by
    cases code <;> decide
  unfold canonicalReasonFromStopRequest
  simp only [(ofValue?_value code).2, (ofValue?_value code).1, upper_value, if_neg hne,
    if_neg herror, if_neg hcompleted, normalizedReason_value, reduceCtorEq, and_false, if_false]
  split
  · rename_i hkubernetes
    exact (eq_kubernetesTermination hkubernetes).symm
  · rfl

theorem toLower_lower (code : RuntimeWorkerReasonCode) :
    (PyText.lower code.value).toList.map Char.toLower = code.value.toList.map Char.toLower ∧
      strip (PyText.lower code.value) = PyText.lower code.value := by
  rcases exists_spelled code with ⟨cs, hvalue, -, ⟨hspace, -, -, hlower⟩, -⟩
  rw [hvalue, lower_ofList, strip_ofList hspace, String.toList_ofList, String.toList_ofList]
  exact ⟨hlower, rfl⟩

/-- In lower case a reason that is read in upper case only is a policy violation. -/
theorem canonical_lower {code : RuntimeWorkerReasonCode} (h : UpperCaseOnly code) :
    canonicalReasonFromStopRequest (PyText.lower code.value) = .policyViolation := by
  rcases exists_spelled code with ⟨cs, hvalue, -, ⟨-, hagain, hraised, -⟩, hunread, -⟩
  rcases lower_value_notMem code with ⟨herror, hcompleted⟩
  have hstrip := (toLower_lower code).2
  have hlower : PyText.lower (PyText.lower code.value) = PyText.lower code.value := by
    rw [hvalue, lower_ofList, lower_ofList, hagain]
  have hupper : upper (PyText.lower code.value) = code.value := by
    rw [hvalue, lower_ofList, upper_ofList, hraised]
  have hne : PyText.lower code.value ≠ "" := by
    intro hempty
    have := (ofValue?_value code).1
    rw [← hupper, hempty] at this
    revert this
    cases code <;> decide
  have hkubernetes : ¬ code.value ∈
      [kubernetesTerminationReason, "SWR_KUBERNETES_TERMINATION", "SIGTERM"] := by
    intro hmem
    have hlegacy := h.2
    rw [eq_kubernetesTermination hmem] at hlegacy
    revert hlegacy
    decide +kernel
  have hread : normalizedReason (some (PyText.lower code.value)) = .policyViolation := by
    have hfind := h.2
    rw [legacyReason, Option.map_eq_none_iff] at hfind
    have hexact : ofValue? (PyText.lower code.value) = none := by
      rw [hvalue, lower_ofList, hunread]
    simp only [normalizedReason, Option.getD_some, hstrip, if_neg hne, hexact, hlower, hfind]
  unfold canonicalReasonFromStopRequest
  simp only [hstrip, hlower, hupper, if_neg hne, if_neg hkubernetes, if_neg herror,
    if_neg hcompleted, hread, (ofValue?_value code).1, reduceCtorEq, and_false, if_false]

/-! ## Variants -/

section

variable {letters : LetterCase} {a b : String}

/-- The older spelling does not depend on the letter case. -/
theorem legacyReason_congr (h : letters.SameText a b) : legacyReason a = legacyReason b := by
  have hentries : ∀ entry ∈ legacyRuntimeReasonMap,
      decide (entry.1 = PyText.lower a) = decide (entry.1 = PyText.lower b) := by
    intro entry hentry
    rw [decide_eq_decide, eq_comm, h.lower_eq_iff (isAscii_legacy entry hentry), eq_comm]
  unfold legacyReason
  rw [List.find?_congr hentries]

/-- Whether the upper case is a canonical reason does not depend on the letter case. -/
theorem ofValue?_upper_congr (h : letters.SameText a b) :
    ofValue? (upper a) = ofValue? (upper b) := by
  have hcodes : ∀ code ∈ all, decide (code.value = upper a) = decide (code.value = upper b) := by
    intro code _
    rw [decide_eq_decide, eq_comm, h.upper_eq_iff (isAscii_value code), eq_comm]
  exact List.find?_congr hcodes

/-- A text with no spaces around it that is not empty. -/
theorem normalizedReason_eq {text : String} (hstrip : strip text = text) (hne : text ≠ "") :
    normalizedReason (some text) = ((ofValue? text).or (legacyReason text)).getD .policyViolation := by
  unfold normalizedReason legacyReason
  rw [Option.getD_some, hstrip, if_neg hne]
  cases ofValue? text with
  | some code => rfl
  | none => cases legacyRuntimeReasonMap.find? fun entry => entry.1 = PyText.lower text <;> rfl

theorem value_of_ofValue? {raw : String} {code : RuntimeWorkerReasonCode}
    (h : ofValue? raw = some code) : raw = code.value := by
  have hfound := List.find?_some h
  exact (of_decide_eq_true hfound).symm

/-- A canonical reason that is read in every letter case is what its variants are read as. -/
theorem read_of_code {code : RuntimeWorkerReasonCode} (h : letters.SameText a code.value)
    (hcode : ¬ UpperCaseOnly code) :
    ((ofValue? a).or (legacyReason a)).getD .policyViolation = code := by
  cases hexact : ofValue? a with
  | some code' =>
      have hsame : letters.SameText code'.value code.value := by
        rw [← value_of_ofValue? hexact]
        exact h
      exact code_eq_of_toLower ((letters.sameText_iff (isAscii_value code)).1 hsame)
  | none =>
      rw [Option.none_or, legacyReason_congr h]
      cases hlegacy : legacyReason code.value with
      | some code' => exact legacyReason_value hlegacy
      | none => exact (not_not.1 fun hne => hcode ⟨Ne.symm hne, hlegacy⟩)

/-- Outside the reasons that are read in upper case only, the letter case does not matter. -/
theorem read_congr (h : letters.SameText a b)
    (hcodes : ∀ code, UpperCaseOnly code → ¬ letters.SameText b code.value) :
    ((ofValue? a).or (legacyReason a)).getD .policyViolation =
      ((ofValue? b).or (legacyReason b)).getD .policyViolation := by
  by_cases hcode : ∃ code : RuntimeWorkerReasonCode, letters.SameText b code.value
  · rcases hcode with ⟨code, hsame⟩
    have hnot : ¬ UpperCaseOnly code := fun hupper => hcodes code hupper hsame
    have hsame' : letters.SameText a code.value := by
      have hascii := hsame.isAscii (isAscii_value code)
      rw [letters.sameText_iff (isAscii_value code)] at hsame ⊢
      rw [← hsame]
      exact (letters.sameText_iff hascii).1 h
    rw [read_of_code hsame' hnot, read_of_code hsame hnot]
  · have ha : ofValue? a = none := by
      by_contra hsome
      rcases Option.ne_none_iff_exists'.1 hsome with ⟨code, hexact⟩
      apply hcode
      refine ⟨code, ?_⟩
      rw [← value_of_ofValue? hexact]
      exact h.symm
    have hb : ofValue? b = none := by
      by_contra hsome
      rcases Option.ne_none_iff_exists'.1 hsome with ⟨code, hexact⟩
      apply hcode
      refine ⟨code, ?_⟩
      rw [← value_of_ofValue? hexact]
      exact letters.sameText_refl b
    rw [ha, hb, Option.none_or, Option.none_or, legacyReason_congr h]

theorem mem_congr {x y : String} {keys : List String} (h : ∀ key ∈ keys, x = key ↔ y = key) :
    x ∈ keys ↔ y ∈ keys := by
  constructor
  · intro hx
    rwa [← (h x hx).1 rfl] at hx
  · intro hy
    rwa [← (h y hy).2 rfl] at hy

/-- Where the letter case does not matter for the reasons, it does not for the canonical reason. -/
theorem canonical_eq_of_variant (h : letters.Variant a b)
    (hcodes : ∀ code, UpperCaseOnly code → ¬ letters.Variant b code.value) :
    canonicalReasonFromStopRequest a = canonicalReasonFromStopRequest b := by
  unfold LetterCase.Variant at h
  have hcodes' : ∀ code, UpperCaseOnly code → ¬ letters.SameText (strip b) code.value := by
    intro code hcode hsame
    apply hcodes code hcode
    rw [LetterCase.Variant, (ofValue?_value code).2]
    exact hsame
  have hread := read_congr h hcodes'
  have hempty := h.eq_empty_iff
  unfold canonicalReasonFromStopRequest
  dsimp only
  by_cases hb : strip b = ""
  · rw [if_pos hb, if_pos (hempty.2 hb)]
  rw [if_neg hb, if_neg (fun ha => hb (hempty.1 ha))]
  rw [normalizedReason_eq (strip_strip a) (fun ha => hb (hempty.1 ha)),
    normalizedReason_eq (strip_strip b) hb, hread, ofValue?_upper_congr h]
  have hupper : upper (strip a) ∈
      [kubernetesTerminationReason, "SWR_KUBERNETES_TERMINATION", "SIGTERM"] ↔
        upper (strip b) ∈ [kubernetesTerminationReason, "SWR_KUBERNETES_TERMINATION", "SIGTERM"] :=
    mem_congr fun key hkey => h.upper_eq_iff (isAscii_searched key (List.mem_append_left _ hkey))
  have herror : PyText.lower (strip a) ∈ ["error_detected", "error", "failed"] ↔
      PyText.lower (strip b) ∈ ["error_detected", "error", "failed"] :=
    mem_congr fun key hkey => h.lower_eq_iff
      (isAscii_searched key (List.mem_append_right _ (List.mem_append_left _ hkey)))
  have hcompleted : PyText.lower (strip a) = "runtime_job_completed" ↔
      PyText.lower (strip b) = "runtime_job_completed" :=
    h.lower_eq_iff (isAscii_searched _ (by simp))
  simp only [hupper, herror, hcompleted]

/-- The canonical reason is one of the vocabulary, and is read as itself. -/
theorem consistent_iff_variants {reason : String} :
    Consistent letters reason ↔ ∀ variant, letters.Variant variant reason →
      canonicalReasonFromStopRequest variant = canonicalReasonFromStopRequest reason := by
  constructor
  · exact Consistent.variants
  · intro h
    refine ⟨h, ?_, canonical_value _⟩
    rintro code rfl
    exact canonical_value code

/-- The two spellings of a reason that is read in upper case only. -/
theorem variant_value (code : RuntimeWorkerReasonCode)
    (h : letters.Variant a code.value) :
    letters.Variant code.value a ∧ letters.Variant (PyText.lower code.value) a := by
  rcases toLower_lower code with ⟨hlower, hstrip⟩
  have hsame : letters.SameText (strip a) code.value := by
    rw [← (ofValue?_value code).2]
    exact h
  have hascii := hsame.isAscii (isAscii_value code)
  rw [letters.sameText_iff (isAscii_value code)] at hsame
  constructor
  · rw [LetterCase.Variant, (ofValue?_value code).2, letters.sameText_iff hascii, hsame]
  · rw [LetterCase.Variant, hstrip, letters.sameText_iff hascii, hlower, hsame]

/--
For every reason text and whatever are the letters outside ASCII: all variants
of the reason in letter case and surrounding spaces have the same canonical
reason, a canonical reason is its own, and so is the result, exactly when the
reason is no variant of a canonical reason, other than
{lit}`POLICY_VIOLATION`, that has no entry in lower case among the older
spellings.
-/
theorem canonical_reason_consistent_iff (letters : LetterCase) (reason : String) :
    Consistent letters reason ↔
      ∀ code, UpperCaseOnly code → ¬ letters.Variant reason code.value := by
  rw [consistent_iff_variants]
  constructor
  · intro h code hcode hvariant
    rcases variant_value code hvariant with ⟨hvalue, hlower⟩
    have hsame := (h _ hvalue).trans (h _ hlower).symm
    rw [canonical_value, canonical_lower hcode] at hsame
    exact hcode.1 hsame
  · intro h variant hvariant
    exact canonical_eq_of_variant hvariant h

end

/-! ## A reason in lower case -/

/-- The letters of ASCII alone. -/
def asciiLetters : LetterCase where
  same c d := c.toLower = d.toLower
  refl _ := rfl
  symm h := h.symm
  ascii _ := Iff.rfl
  outside {c d} h hc := by
    rw [toLower_of_large hc] at h
    by_cases hd : d.toNat < 128
    · have hlt := toLower_lt hd
      rw [← h] at hlt
      omega
    · rw [toLower_of_large (not_lt.1 hd)] at h
      exact .inl h

/-- The reason of a heartbeat timeout becomes a policy violation in lower case. -/
theorem lower_case_reason_differs :
    ¬ ∀ (letters : LetterCase) (reason : String), Consistent letters reason := by
  intro h
  have hvariant := (h asciiLetters "HEARTBEAT_TIMEOUT_ENFORCED").variants
    "heartbeat_timeout_enforced" ((asciiLetters.sameText_iff (by decide +kernel)).2
      (by decide +kernel))
  revert hvariant
  decide +kernel

end FinalStatus
end Lifecycle
end StrategyWorker
