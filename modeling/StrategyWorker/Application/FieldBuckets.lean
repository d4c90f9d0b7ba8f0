import Mathlib.Data.Finset.Sort
import Mathlib.Data.String.Basic
import StrategyWorker.Application.LaunchFailure

/-!
# Field errors of a failed launch

The lifecycle service sorts the fields of a failed launch into missed, invalid
and empty ones and puts the three lists into the details.  The gateway does the
same again on its way to the signal and joins its lists to those it finds.
Keys and codes are anything that has a text.

Main results:

- Theorem {lit}`classifyLaunchFieldErrors_buckets`: the two classifiers agree.
- Theorem {lit}`sortedUnion_texts`: a union of texts is their sorted set.
- Theorem {lit}`emitted_fields_are_details_fields`: the signal carries the three
  lists of the details, each sorted and without duplicates.
-/

namespace StrategyWorker
namespace Application
namespace FieldBuckets

open Library Events Integration
open PyText

/-! ## The two classifiers -/

/-- The sets {lit}`missed`, {lit}`invalid` and {lit}`empty` of either loop. -/
@[ext]
structure FieldSets where
  missed : Finset String
  invalid : Finset String
  empty : Finset String

def FieldSets.none : FieldSets := ⟨∅, ∅, ∅⟩

/-- Three lists of field names. -/
structure FieldLists where
  missed : List String
  invalid : List String
  empty : List String

/-- {lit}`(sorted(missed), sorted(invalid), sorted(empty))`. -/
def FieldSets.sorted (b : FieldSets) : FieldLists :=
  ⟨b.missed.sort, b.invalid.sort, b.empty.sort⟩

/-- {lit}`[x for x in code.split(":", 1)[1].split(",") if x]`. -/
def unknownNames (code : String) : List String :=
  splitComma (String.ofList (code.toList.drop "unknown_fields:".length))

/-- Whether the entry lists the unknown fields of the payload. -/
def ListsUnknown (key code : String) : Prop :=
  key = "payload" ∧ "unknown_fields:".toList <+: code.toList

instance (key code : String) : Decidable (ListsUnknown key code) :=
  inferInstanceAs (Decidable (_ ∧ _))

section

variable {K V : Type} (keyText : K → String) (codeText : V → String)

/-- One round of {lit}`_classify_launch_field_errors`: the sets and
{lit}`details["unknown_fields"]`. -/
def classifyRound (state : FieldSets × Option (List String)) (entry : K × V) :
    FieldSets × Option (List String) :=
  let (b, details) := state
  let key := keyText entry.1
  let code := codeText entry.2
  let lowered := lower code
  if ListsUnknown key code then
    let unknown := unknownNames code
    if unknown ≠ [] then ({ b with invalid := b.invalid ∪ unknown.toFinset }, some unknown)
    else (b, details)
  else if containsText lowered "required_field_missing" ∨ containsText lowered "required" then
    ({ b with missed := insert key b.missed }, details)
  else if containsText lowered "must_not_be_empty" ∨ containsText lowered "must_not_be_blank" ∨
      containsText lowered "blank" then
    ({ b with empty := insert key b.empty }, details)
  else ({ b with invalid := insert key b.invalid }, details)

/-- {lit}`_classify_launch_field_errors(field_errors)`. -/
def classifyLaunchFieldErrors (fieldErrors : List (K × V)) :
    FieldLists × Option (List String) :=
  let (b, details) := fieldErrors.foldl (classifyRound keyText codeText) (.none, none)
  (b.sorted, details)

/-- One round of {lit}`_derive_field_buckets_from_field_errors`. -/
def deriveRound (b : FieldSets) (entry : K × V) : FieldSets :=
  let key := keyText entry.1
  let code := codeText entry.2
  let lowered := lower code
  if ListsUnknown key code then { b with invalid := b.invalid ∪ (unknownNames code).toFinset }
  else if containsText lowered "required_field_missing" ∨ containsText lowered "required" then
    { b with missed := insert key b.missed }
  else if containsText lowered "must_not_be_empty" ∨ containsText lowered "must_not_be_blank" ∨
      containsText lowered "blank" then
    { b with empty := insert key b.empty }
  else { b with invalid := insert key b.invalid }

/-- {lit}`_derive_field_buckets_from_field_errors(field_errors)`. -/
def deriveFieldBucketsFromFieldErrors (fieldErrors : List (K × V)) : FieldLists :=
  (fieldErrors.foldl (deriveRound keyText codeText) .none).sorted

/-- One entry goes into the same set in both loops. -/
theorem classifyRound_sets (state : FieldSets × Option (List String)) (entry : K × V) :
    (classifyRound keyText codeText state entry).1 =
      deriveRound keyText codeText state.1 entry := by
  rcases state with ⟨b, details⟩
  simp only [classifyRound, deriveRound]
  split
  · -- an empty list of unknown fields adds nothing to the other loop's set
    by_cases hunknown : unknownNames (codeText entry.2) = []
    · simp [hunknown]
    · simp [hunknown]
  · split
    · rfl
    · split <;> rfl

/-- After any entries the sets of the two loops are the same. -/
theorem foldl_classifyRound_sets (fieldErrors : List (K × V)) :
    ∀ state : FieldSets × Option (List String),
      (fieldErrors.foldl (classifyRound keyText codeText) state).1 =
        fieldErrors.foldl (deriveRound keyText codeText) state.1 := by
  induction fieldErrors with
  | nil =>
      intro state
      rfl
  | cons entry rest ih =>
      intro state
      rw [List.foldl_cons, List.foldl_cons, ih, classifyRound_sets]

/-- The two classifiers yield the same three lists. -/
theorem classifyLaunchFieldErrors_buckets (fieldErrors : List (K × V)) :
    (classifyLaunchFieldErrors keyText codeText fieldErrors).1 =
      deriveFieldBucketsFromFieldErrors keyText codeText fieldErrors := by
  have hsets := foldl_classifyRound_sets keyText codeText fieldErrors (.none, none)
  simp only [classifyLaunchFieldErrors, deriveFieldBucketsFromFieldErrors]
  rw [hsets]

end

/-! ## The union of the gateway -/

/-- The distinct ones among texts are texts. -/
theorem exists_distinct_texts (texts : List String) :
    ∃ names : List String, distinct (texts.map .str) = names.map .str ∧ names.Nodup ∧
      names.toFinset = texts.toFinset := by
  induction texts with
  | nil => exact ⟨[], rfl, List.nodup_nil, rfl⟩
  | cons text texts ih =>
      rcases ih with ⟨names, hdistinct, hnodup, hset⟩
      refine ⟨text :: names.filter (· ≠ text), ?_, ?_, ?_⟩
      · simp only [List.map_cons, distinct, hdistinct, List.filter_map]
        congr 2
        apply List.filter_congr
        intro name _
        simp [memberEq, eq_comm]
      · exact List.nodup_cons.2 ⟨by simp, hnodup.filter _⟩
      · ext name
        have hname : name ∈ names ↔ name ∈ texts := by
          rw [← List.mem_toFinset, hset, List.mem_toFinset]
        by_cases h : name = text
        · simp [h]
        · simp [h, hname]

/-- The members of a set of texts are compared as texts. -/
theorem insertionSort_texts (names : List String) :
    (names.map PyVal.str).insertionSort (fun v w => memberLt w v ≠ some true) =
      (names.insertionSort (· ≤ ·)).map .str := by
  symm
  apply List.map_insertionSort
  intro a _ b _
  simp only [memberLt, ne_eq, Option.some.injEq, decide_eq_true_eq, not_lt]

/-- {lit}`sorted(set(texts).union(names))` of texts. -/
theorem sortedUnion_texts (texts names : List String) :
    sortedUnion (texts.map .str) names =
      .ok (((texts ++ names).toFinset.sort).map .str) := by
  rcases exists_distinct_texts (texts ++ names) with ⟨members, hmembers, hnodup, hset⟩
  have hhash : ¬ (texts.map PyVal.str).any fun v => !hashable v := by
    simp [hashable]
  have hcomparable : ¬ (members.map PyVal.str).any fun v =>
      (memberLt v v).isNone ∨ (members.map PyVal.str).any fun w => (memberLt v w).isNone := by
    simp [memberLt]
  have hsorted : members.insertionSort (· ≤ ·) = members.toFinset.sort := by
    have hperm := List.perm_insertionSort (· ≤ ·) members
    rw [← List.toFinset_eq_of_perm _ _ hperm]
    exact ((List.toFinset_sort (· ≤ ·) (hperm.nodup_iff.2 hnodup)).2
      (List.pairwise_insertionSort (· ≤ ·) members)).symm
  rw [sortedUnion, ← List.map_append, hmembers, if_neg hhash, if_neg fun h => hcomparable h.2,
    insertionSort_texts, hsorted, hset]

/-! ## The details of a failed launch -/

/-- A value of the details: a mapping of field errors, a list, or anything else. -/
inductive DetailValue (K V : Type) where
  | mapping (entries : List (K × V))
  | list (values : List PyVal)
  | other (value : PyVal)

abbrev Details (K V : Type) := Assoc String (DetailValue K V)

namespace DetailValue

variable {K V : Type}

/-- A list or another value that is no mapping of field errors. -/
def ofPyVal : PyVal → DetailValue K V
  | .list values => .list values
  | value => .other value

def texts (names : List String) : DetailValue K V :=
  .list (names.map .str)

/-- {lit}`list(value) if isinstance(value, list) else []`. -/
def listOrEmpty : Option (DetailValue K V) → List PyVal
  | some (.list values) => values
  | _ => []

end DetailValue

open DetailValue

/-- The exception of a startup: its kind and, when it is a mapping, its {lit}`details`. -/
structure LaunchError (K V : Type) where
  kind : StartupErrorKind
  rawDetails : Option (Details K V)

section

variable {K V : Type} (keyText : K → String) (codeText : V → String)

/-- {lit}`LifecycleService._bootstrap_failure_details(error)`. -/
def bootstrapFailureDetails (error : LaunchError K V) : Details K V :=
  let raw := error.rawDetails.getD []
  let fieldErrors :=
    match raw.get? "field_errors" with
    | some (.mapping entries) => entries
    | _ => []
  let (fields, classificationDetails) := classifyLaunchFieldErrors keyText codeText fieldErrors
  let classified := (((raw.set "field_errors" (.mapping fieldErrors)).set
    "missed_fields" (texts fields.missed)).set "invalid_fields" (texts fields.invalid)).set
      "empty_fields" (texts fields.empty)
  let details :=
    match classificationDetails with
    | some unknown =>
        classified.set "validation_details"
          (.other (.dict [("unknown_fields", .list (unknown.map .str))]))
    | none => classified
  let (passed, failed, notChecked) := StartupError.validationOutcome ⟨error.kind, none, none⟩
  ((details.set "passed" (ofPyVal passed)).set "failed" (ofPyVal failed)).set
    "not_checked" (ofPyVal notChecked)

/-- The missed, invalid and empty fields that {lit}`emit_bootstrap_failed` puts into its
payload. -/
def emittedFields (details : Details K V) :
    Except PyException (List PyVal × List PyVal × List PyVal) :=
  let missed := listOrEmpty (details.get? "missed_fields")
  let invalid := listOrEmpty (details.get? "invalid_fields")
  let empty := listOrEmpty (details.get? "empty_fields")
  match details.get? "field_errors" with
  | some (.mapping fieldErrors) => do
      let buckets := deriveFieldBucketsFromFieldErrors keyText codeText fieldErrors
      return (← sortedUnion missed buckets.missed, ← sortedUnion invalid buckets.invalid,
        ← sortedUnion empty buckets.empty)
  | _ => .ok (missed, invalid, empty)

/-- The mapping of field errors of an exception; one without it has none. -/
def LaunchError.fieldErrors (error : LaunchError K V) : List (K × V) :=
  match (error.rawDetails.getD []).get? "field_errors" with
  | some (.mapping entries) => entries
  | _ => []

/-- What the gateway reads of the details. -/
theorem get?_bootstrapFailureDetails (error : LaunchError K V) :
    let fields := (classifyLaunchFieldErrors keyText codeText error.fieldErrors).1
    let details := bootstrapFailureDetails keyText codeText error
    details.get? "field_errors" = some (.mapping error.fieldErrors) ∧
      details.get? "missed_fields" = some (texts fields.missed) ∧
      details.get? "invalid_fields" = some (texts fields.invalid) ∧
      details.get? "empty_fields" = some (texts fields.empty) := by
  simp only [bootstrapFailureDetails, LaunchError.fieldErrors]
  split <;> simp [Assoc.get?_set]

/-- A sorted set joined to itself. -/
theorem sortedUnion_self (names : Finset String) :
    sortedUnion (names.sort.map .str) names.sort = .ok (names.sort.map .str) := by
  rw [sortedUnion_texts]
  simp

/-- The two classifiers yield the same lists for all field errors; the lists of the details and
those of the signal are the same; each is sorted and has no duplicates. -/
theorem emitted_fields_are_details_fields (error : LaunchError K V) :
    let fields := (classifyLaunchFieldErrors keyText codeText error.fieldErrors).1
    let details := bootstrapFailureDetails keyText codeText error
    fields = deriveFieldBucketsFromFieldErrors keyText codeText error.fieldErrors ∧
      emittedFields keyText codeText details =
        .ok (listOrEmpty (details.get? "missed_fields"),
          listOrEmpty (details.get? "invalid_fields"),
          listOrEmpty (details.get? "empty_fields")) ∧
      listOrEmpty (details.get? "missed_fields") = fields.missed.map .str ∧
      listOrEmpty (details.get? "invalid_fields") = fields.invalid.map .str ∧
      listOrEmpty (details.get? "empty_fields") = fields.empty.map .str ∧
      fields.missed.Pairwise (· < ·) ∧ fields.invalid.Pairwise (· < ·) ∧
      fields.empty.Pairwise (· < ·) := by
  intro fields details
  have hagree : fields = deriveFieldBucketsFromFieldErrors keyText codeText error.fieldErrors :=
    classifyLaunchFieldErrors_buckets keyText codeText error.fieldErrors
  rcases get?_bootstrapFailureDetails keyText codeText error with
    ⟨herrors, hmissed, hinvalid, hempty⟩
  have hmissedList : listOrEmpty (details.get? "missed_fields") = fields.missed.map .str :=
    congrArg listOrEmpty hmissed
  have hinvalidList : listOrEmpty (details.get? "invalid_fields") = fields.invalid.map .str :=
    congrArg listOrEmpty hinvalid
  have hemptyList : listOrEmpty (details.get? "empty_fields") = fields.empty.map .str :=
    congrArg listOrEmpty hempty
  have hsorted : ∃ b : FieldSets, fields = b.sorted := ⟨_, rfl⟩
  rcases hsorted with ⟨b, hb⟩
  refine ⟨hagree, ?_, hmissedList, hinvalidList, hemptyList, ?_, ?_, ?_⟩
  · have herrors' : details.get? "field_errors" = some (.mapping error.fieldErrors) := herrors
    rw [emittedFields, herrors', hmissedList, hinvalidList, hemptyList]
    simp only [← hagree, hb, FieldSets.sorted, sortedUnion_self]
    rfl
  · rw [hb]
    exact b.missed.sortedLT_sort.pairwise
  · rw [hb]
    exact b.invalid.sortedLT_sort.pairwise
  · rw [hb]
    exact b.empty.sortedLT_sort.pairwise

end

/-! ## Texts as keys -/

/-- The sets of the three lists of names. -/
def ofBuckets (b : Integration.FieldBuckets) : FieldSets :=
  ⟨b.missed.toFinset, b.invalid.toFinset, b.empty.toFinset⟩

/-- An entry that is added to the lists is added to their sets. -/
theorem ofBuckets_addFieldError (b : Integration.FieldBuckets) (entry : String × PyVal) :
    ofBuckets (addFieldError b entry) = deriveRound id pyStr (ofBuckets b) entry := by
  have hadd (names : List String) :
      (names ++ [entry.1]).toFinset = insert entry.1 names.toFinset := by
    ext name
    simp
  unfold addFieldError deriveRound ListsUnknown
  simp only [id, List.isPrefixOf_iff_prefix]
  split
  · rw [ofBuckets, List.toFinset_append]
    rfl
  · split
    · simp [ofBuckets, hadd]
    · split <;> simp [ofBuckets, hadd]

/-- The lists of the gateway hold the members of its sets. -/
theorem ofBuckets_deriveFieldBuckets (fieldErrors : PyDict) :
    (ofBuckets (deriveFieldBuckets fieldErrors)).sorted =
      deriveFieldBucketsFromFieldErrors id pyStr fieldErrors := by
  have hfold : ∀ b, ofBuckets (fieldErrors.foldl addFieldError b) =
      fieldErrors.foldl (deriveRound id pyStr) (ofBuckets b) := by
    induction fieldErrors with
    | nil =>
        intro b
        rfl
    | cons entry rest ih =>
        intro b
        rw [List.foldl_cons, List.foldl_cons, ih, ofBuckets_addFieldError]
  exact congrArg FieldSets.sorted (hfold ⟨[], [], []⟩)

/-- The names of a list, sorted and each once. -/
theorem sortedTexts_eq (names : List String) :
    StartupError.sortedTexts names = .list (names.toFinset.sort.map .str) := by
  have hperm := List.mergeSort_perm names.dedup fun a b => decide (a ≤ b)
  have hpairwise : (names.dedup.mergeSort fun a b => decide (a ≤ b)).Pairwise
      fun a b => decide (a ≤ b) :=
    List.pairwise_mergeSort (fun a b c => by simpa using le_trans)
      (fun a b => by simpa using le_total a b) names.dedup
  have hsort := (List.toFinset_sort (· ≤ ·) (hperm.nodup_iff.2 names.nodup_dedup)).2
    (hpairwise.imp fun h => of_decide_eq_true h)
  have hset : names.dedup.toFinset = names.toFinset := by
    ext name
    simp
  rw [List.toFinset_eq_of_perm _ _ hperm, hset] at hsort
  rw [StartupError.sortedTexts, hsort]

/-- The field errors of a failed startup. -/
def fieldErrorsOf (error : StartupError) : PyDict :=
  match (error.rawDetails.getD []).get "field_errors" with
  | .dict fields => fields
  | _ => []

/-- What the gateway reads of the details of a failed startup. -/
theorem exists_fieldErrors (error : StartupError) : ∃ fieldErrors : PyDict,
    error.details.get? "field_errors" = some (.dict fieldErrors) ∧
      error.details.get? "missed_fields" =
        some (StartupError.sortedTexts (deriveFieldBuckets fieldErrors).missed) ∧
      error.details.get? "invalid_fields" =
        some (StartupError.sortedTexts (deriveFieldBuckets fieldErrors).invalid) ∧
      error.details.get? "empty_fields" =
        some (StartupError.sortedTexts (deriveFieldBuckets fieldErrors).empty) := by
  simp only [StartupError.details]
  generalize StartupError.unknownFields _ = unknown
  refine ⟨fieldErrorsOf error, ?_, ?_, ?_, ?_⟩
  all_goals
    split
    all_goals
      simp only [PyDict.get?_set, String.reduceEq, if_false, if_true]
      rfl

/-- What the signal of a failed startup carries is what its details hold. -/
theorem bootstrapFailedFields_details (error : StartupError) :
    Signal.bootstrapFailedFields error.details =
      .ok (listField error.details "missed_fields", listField error.details "invalid_fields",
        listField error.details "empty_fields") := by
  rcases exists_fieldErrors error with ⟨fieldErrors, herrors, hmissed, hinvalid, hempty⟩
  have hself (names : List String) :
      sortedUnion (names.toFinset.sort.map .str) names = .ok (names.toFinset.sort.map .str) := by
    rw [sortedUnion_texts]
    simp
  rw [Signal.bootstrapFailedFields]
  simp only [listField, PyDict.get, herrors, hmissed, hinvalid, hempty, sortedTexts_eq,
    Option.getD_some, hself]
  rfl

end FieldBuckets
end Application
end StrategyWorker
