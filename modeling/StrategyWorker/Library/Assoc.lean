import Mathlib.Data.List.Basic

/-!
# Dictionaries as lists of pairs

Dictionaries of the runtime's language over arbitrary keys: in order of
insertion, each key once.

Main results:

- Theorem {lit}`get?_set`: what a key holds after an assignment.
- Theorem {lit}`get?_ofPairs`: of the pairs that a dictionary is made from, the
  last one with a key counts.
-/

namespace StrategyWorker
namespace Library

abbrev Assoc (K V : Type) := List (K × V)

namespace Assoc

variable {K V : Type} [DecidableEq K]

/-- {lit}`d.get(key)`. -/
def get? (d : Assoc K V) (key : K) : Option V :=
  (d.find? fun entry => entry.1 = key).map Prod.snd

/-- {lit}`d[key] = value`. -/
def set : Assoc K V → K → V → Assoc K V
  | [], key, value => [(key, value)]
  | entry :: d, key, value =>
      if entry.1 = key then (key, value) :: d else entry :: set d key value

/-- {lit}`key in d`. -/
def contains (d : Assoc K V) (key : K) : Bool :=
  (d.get? key).isSome

/-- {lit}`dict(pairs)`. -/
def ofPairs (pairs : List (K × V)) : Assoc K V :=
  pairs.foldl (fun d pair => d.set pair.1 pair.2) []

@[simp]
theorem get?_nil (key : K) : get? ([] : Assoc K V) key = none := rfl

theorem get?_cons (entry : K × V) (d : Assoc K V) (key : K) :
    get? (entry :: d) key = if entry.1 = key then some entry.2 else d.get? key := by
  unfold get?
  by_cases h : entry.1 = key <;> simp [h]

/-- What a key holds after an assignment. -/
theorem get?_set (d : Assoc K V) (key key' : K) (value : V) :
    (d.set key value).get? key' = if key = key' then some value else d.get? key' := by
  induction d with
  | nil => simp [set, get?_cons]
  | cons entry d ih =>
      unfold set
      split
      · rename_i hkey
        rw [get?_cons, get?_cons, hkey]
        split <;> rfl
      · rename_i hkey
        rw [get?_cons, get?_cons, ih]
        by_cases h : entry.1 = key'
        · have hne : key ≠ key' := fun heq => hkey (h.trans heq.symm)
          simp [h, hne]
        · simp [h]

theorem set_ne_nil (d : Assoc K V) (key : K) (value : V) : d.set key value ≠ [] := by
  cases d with
  | nil => simp [set]
  | cons entry d =>
      unfold set
      split <;> simp

theorem get?_foldl_set (pairs : List (K × V)) (d : Assoc K V) (key : K) :
    get? (pairs.foldl (fun d pair => d.set pair.1 pair.2) d) key =
      (get? pairs.reverse key).or (d.get? key) := by
  induction pairs generalizing d with
  | nil => rfl
  | cons pair pairs ih =>
      have hsplit : get? (pairs.reverse ++ [pair]) key =
          (get? pairs.reverse key).or (get? [pair] key) := by
        unfold get?
        rw [List.find?_append]
        cases pairs.reverse.find? fun entry => entry.1 = key <;> rfl
      rw [List.foldl_cons, ih, List.reverse_cons, hsplit, get?_set, get?_cons, get?_nil]
      cases get? pairs.reverse key with
      | some value => rfl
      | none => by_cases h : pair.1 = key <;> simp [h]

/-- Of the pairs that a dictionary is made from, the last one with a key counts. -/
theorem get?_ofPairs (pairs : List (K × V)) (key : K) :
    (ofPairs pairs).get? key = get? pairs.reverse key := by
  rw [ofPairs, get?_foldl_set, get?_nil, Option.or_none]

/-! ## The entries of a dictionary -/

theorem mem_set {d : Assoc K V} {key : K} {value : V} {entry : K × V}
    (h : entry ∈ d.set key value) : entry = (key, value) ∨ entry ∈ d := by
  induction d with
  | nil => exact .inl (List.mem_singleton.1 h)
  | cons first d ih =>
      unfold set at h
      split at h
      · rcases List.mem_cons.1 h with heq | hmem
        · exact .inl heq
        · exact .inr (List.mem_cons_of_mem first hmem)
      · rcases List.mem_cons.1 h with heq | hmem
        · exact .inr (heq ▸ List.mem_cons_self)
        · rcases ih hmem with heq | hmem
          · exact .inl heq
          · exact .inr (List.mem_cons_of_mem first hmem)

theorem mem_foldl_set {pairs : List (K × V)} {d : Assoc K V} {entry : K × V}
    (h : entry ∈ pairs.foldl (fun d pair => d.set pair.1 pair.2) d) :
    entry ∈ pairs ∨ entry ∈ d := by
  induction pairs generalizing d with
  | nil => exact .inr h
  | cons pair pairs ih =>
      rcases ih h with hmem | hmem
      · exact .inl (List.mem_cons_of_mem pair hmem)
      · rcases mem_set hmem with heq | hmem
        · exact .inl (heq ▸ List.mem_cons_self)
        · exact .inr hmem

/-- The entries of a dictionary are among the pairs that it is made from. -/
theorem mem_of_mem_ofPairs {pairs : List (K × V)} {entry : K × V} (h : entry ∈ ofPairs pairs) :
    entry ∈ pairs := by
  rcases mem_foldl_set h with hmem | hmem
  · exact hmem
  · cases hmem

theorem exists_mem_of_get? {d : Assoc K V} {key : K} {value : V} (h : d.get? key = some value) :
    (key, value) ∈ d := by
  unfold get? at h
  rcases Option.map_eq_some_iff.1 h with ⟨entry, hfind, rfl⟩
  have hkey : entry.1 = key := by simpa using List.find?_some hfind
  rw [← hkey]
  exact List.mem_of_find?_eq_some hfind

theorem get?_isSome_of_mem {d : Assoc K V} {entry : K × V} (h : entry ∈ d) :
    ∃ value, d.get? entry.1 = some value := by
  induction d with
  | nil => cases h
  | cons first d ih =>
      rw [get?_cons]
      split
      · exact ⟨first.2, rfl⟩
      · rename_i hne
        rcases List.mem_cons.1 h with rfl | hmem
        · exact absurd rfl hne
        · exact ih hmem

/-- Every key of the pairs is in the dictionary. -/
theorem exists_mem_ofPairs {pairs : List (K × V)} {pair : K × V} (h : pair ∈ pairs) :
    ∃ value, (pair.1, value) ∈ ofPairs pairs := by
  rcases get?_isSome_of_mem (List.mem_reverse.2 h) with ⟨value, hvalue⟩
  rw [← get?_ofPairs] at hvalue
  exact ⟨value, exists_mem_of_get? hvalue⟩

/-- When the pairs with a key all have one value, that value is what the key holds. -/
theorem get?_eq_of_forall {d : Assoc K V} {key : K} {value : V}
    (hsome : ∃ entry ∈ d, entry.1 = key) (h : ∀ entry ∈ d, entry.1 = key → entry.2 = value) :
    d.get? key = some value := by
  rcases hsome with ⟨entry, hmem, rfl⟩
  rcases get?_isSome_of_mem hmem with ⟨value', hvalue'⟩
  rw [hvalue', ← h _ (exists_mem_of_get? hvalue') rfl]

theorem get?_eq_none {d : Assoc K V} {key : K} (h : ∀ entry ∈ d, entry.1 ≠ key) :
    d.get? key = none := by
  cases hget : d.get? key with
  | none => rfl
  | some value => exact absurd rfl (h _ (exists_mem_of_get? hget))

/-! ## Keys -/

theorem mem_set_self (d : Assoc K V) (key : K) (value : V) : (key, value) ∈ d.set key value := by
  apply exists_mem_of_get?
  rw [get?_set, if_pos rfl]

theorem set_of_not_mem {d : Assoc K V} {key : K} (h : key ∉ d.map Prod.fst) (value : V) :
    d.set key value = d ++ [(key, value)] := by
  induction d with
  | nil => rfl
  | cons entry d ih =>
      rw [List.map_cons, List.mem_cons, not_or] at h
      rw [set, if_neg (Ne.symm h.1), ih h.2, List.cons_append]

/-- An assignment repeats no key. -/
theorem nodup_set {d : Assoc K V} (h : (d.map Prod.fst).Nodup) (key : K) (value : V) :
    ((d.set key value).map Prod.fst).Nodup := by
  induction d with
  | nil => simp [set]
  | cons entry d ih =>
      rw [List.map_cons, List.nodup_cons] at h
      unfold set
      split
      · rename_i heq
        rw [List.map_cons, List.nodup_cons]
        exact ⟨heq ▸ h.1, h.2⟩
      · rename_i hne
        rw [List.map_cons, List.nodup_cons]
        refine ⟨fun hmem => ?_, ih h.2⟩
        rcases List.mem_map.1 hmem with ⟨other, hother, hkey⟩
        rcases mem_set hother with rfl | hold
        · exact hne hkey.symm
        · exact h.1 (hkey ▸ List.mem_map_of_mem hold)

end Assoc

end Library
end StrategyWorker
