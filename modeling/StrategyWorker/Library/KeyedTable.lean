import Mathlib.Data.List.Nodup

/-!
# Tables with a unique key

A table of a relational database whose rows differ in their key, in the order
of insertion.  An insertion that would repeat a key is refused, and an update
by key leaves the keys alone, so that a table never holds a key twice.

Main results:

- Theorem {lit}`get?_insert?`, theorem {lit}`get?_insertOrIgnore` and theorem
  {lit}`get?_update`: what each statement leaves under a key.
- Theorem {lit}`update_eq_self_iff`: an update that changes nothing.
- Theorem {lit}`insertOrIgnore_eq_self_iff`: an insertion that changes nothing.
- Theorem {lit}`length_filter_insertAll_le_one_iff`: when insertions in sequence
  leave at most one row of a kind.
-/

namespace StrategyWorker
namespace Library

variable {R K : Type} [DecidableEq K]

/-- The rows of a table with pairwise different keys. -/
@[ext]
structure KeyedTable (key : R → K) where
  rows : List R
  unique : (rows.map key).Nodup

namespace KeyedTable

variable {key : R → K}

def empty : KeyedTable key where
  rows := []
  unique := List.nodup_nil

/-- The row with a key. -/
def get? (t : KeyedTable key) (k : K) : Option R :=
  t.rows.find? fun row => key row = k

def contains (t : KeyedTable key) (k : K) : Prop :=
  k ∈ t.rows.map key

instance (t : KeyedTable key) (k : K) : Decidable (t.contains k) :=
  inferInstanceAs (Decidable (k ∈ t.rows.map key))

/-- {lit}`INSERT`; a key that is there already violates the constraint. -/
def insert? (t : KeyedTable key) (row : R) : Option (KeyedTable key) :=
  if h : t.contains (key row) then none
  else some {
    rows := t.rows ++ [row]
    unique := by
      rw [List.map_append, List.nodup_append]
      refine ⟨t.unique, List.nodup_singleton _, ?_⟩
      rintro k hk _ hrow rfl
      exact h (List.mem_singleton.1 hrow ▸ hk) }

/-- {lit}`INSERT OR IGNORE`. -/
def insertOrIgnore (t : KeyedTable key) (row : R) : KeyedTable key :=
  (t.insert? row).getD t

/-- {lit}`UPDATE ... WHERE` the key is {lit}`k`, of columns that are not the key. -/
def update (t : KeyedTable key) (k : K) (f : R → R) (hf : ∀ row, key (f row) = key row) :
    KeyedTable key where
  rows := t.rows.map fun row => if key row = k then f row else row
  unique := by
    have hkeys : (t.rows.map fun row => if key row = k then f row else row).map key =
        t.rows.map key := by
      rw [List.map_map]
      refine List.map_congr_left fun row _ => ?_
      simp only [Function.comp_apply]
      split
      · exact hf row
      · rfl
    rw [hkeys]
    exact t.unique

/-! ## Rows by key -/

variable {t : KeyedTable key} {row : R} {k : K}

@[simp]
theorem get?_empty (k : K) : (empty : KeyedTable key).get? k = none :=
  rfl

/-- The row with a key is the only one. -/
theorem get?_eq_some : t.get? k = some row ↔ row ∈ t.rows ∧ key row = k := by
  unfold get?
  constructor
  · intro h
    exact ⟨List.mem_of_find?_eq_some h, by simpa using List.find?_some h⟩
  · rintro ⟨hmem, hkey⟩
    cases hfound : t.rows.find? fun row => key row = k with
    | none =>
        have hnone := List.find?_eq_none.1 hfound row hmem
        simp [hkey] at hnone
    | some found =>
        have hfoundKey : key found = k := by simpa using List.find?_some hfound
        rw [List.inj_on_of_nodup_map t.unique (List.mem_of_find?_eq_some hfound) hmem
          (hfoundKey.trans hkey.symm)]

theorem get?_of_mem (h : row ∈ t.rows) : t.get? (key row) = some row :=
  get?_eq_some.2 ⟨h, rfl⟩

theorem contains_iff : t.contains k ↔ ∃ row, t.get? k = some row := by
  unfold contains
  rw [List.mem_map]
  exact exists_congr fun row => get?_eq_some.symm

theorem get?_eq_none : t.get? k = none ↔ ¬ t.contains k := by
  rw [contains_iff]
  cases t.get? k <;> simp

/-! ## What the statements leave -/

theorem insert?_eq_none : t.insert? row = none ↔ t.contains (key row) := by
  unfold insert?
  split <;> simp [*]

theorem rows_insert? {t' : KeyedTable key} (h : t.insert? row = some t') :
    ¬ t.contains (key row) ∧ t'.rows = t.rows ++ [row] := by
  unfold insert? at h
  split at h
  · cases h
  · rename_i hnew
    cases h
    exact ⟨hnew, rfl⟩

theorem get?_insert? {t' : KeyedTable key} (h : t.insert? row = some t') (k : K) :
    t'.get? k = if key row = k then some row else t.get? k := by
  rcases rows_insert? h with ⟨hnew, hrows⟩
  unfold get?
  rw [hrows, List.find?_append, List.find?_cons, List.find?_nil]
  by_cases hkey : key row = k
  · have hnone : t.get? k = none := get?_eq_none.2 (hkey ▸ hnew)
    unfold get? at hnone
    simp [hkey, hnone]
  · simp [hkey]

theorem insertOrIgnore_of_contains (h : t.contains (key row)) : t.insertOrIgnore row = t := by
  unfold insertOrIgnore
  rw [insert?_eq_none.2 h, Option.getD_none]

theorem rows_insertOrIgnore (h : ¬ t.contains (key row)) :
    (t.insertOrIgnore row).rows = t.rows ++ [row] := by
  unfold insertOrIgnore insert?
  rw [dif_neg h]
  rfl

/-- A row that is there already is kept. -/
theorem get?_insertOrIgnore (t : KeyedTable key) (row : R) (k : K) :
    (t.insertOrIgnore row).get? k = if key row = k then some ((t.get? k).getD row) else t.get? k := by
  by_cases hthere : t.contains (key row)
  · rw [insertOrIgnore_of_contains hthere]
    split
    · rename_i hkey
      rcases contains_iff.1 hthere with ⟨found, hfound⟩
      rw [← hkey, hfound, Option.getD_some]
    · rfl
  · cases hinsert : t.insert? row with
    | none => exact absurd (insert?_eq_none.1 hinsert) hthere
    | some t' =>
        unfold insertOrIgnore
        rw [hinsert, Option.getD_some, get?_insert? hinsert]
        split
        · rename_i hkey
          rw [get?_eq_none.2 (hkey ▸ hthere), Option.getD_none]
        · rfl

theorem insertOrIgnore_eq_self_iff : t.insertOrIgnore row = t ↔ t.contains (key row) := by
  constructor
  · intro h
    rw [contains_iff, ← h, get?_insertOrIgnore, if_pos rfl]
    exact ⟨_, rfl⟩
  · exact insertOrIgnore_of_contains

theorem contains_insertOrIgnore_self (t : KeyedTable key) (row : R) :
    (t.insertOrIgnore row).contains (key row) := by
  rw [contains_iff, get?_insertOrIgnore, if_pos rfl]
  exact ⟨_, rfl⟩

section Update

variable {f : R → R} {hf : ∀ row, key (f row) = key row}

theorem get?_update (t : KeyedTable key) (k : K) (f : R → R) (hf : ∀ row, key (f row) = key row)
    (k' : K) : (t.update k f hf).get? k' = if k = k' then (t.get? k').map f else t.get? k' := by
  have hpred : ((fun row => decide (key row = k')) ∘ fun row => if key row = k then f row else row) =
      fun row => decide (key row = k') := by
    funext row
    simp only [Function.comp_apply]
    split
    · rw [hf]
    · rfl
  simp only [get?, update, List.find?_map, hpred]
  cases hfound : t.rows.find? fun row => key row = k' with
  | none => simp
  | some found =>
      have hkey : key found = k' := by simpa using List.find?_some hfound
      by_cases hk : k = k'
      · simp [hk, hkey]
      · simp [hk, hkey, Ne.symm hk]

theorem contains_update (t : KeyedTable key) (k : K) (f : R → R)
    (hf : ∀ row, key (f row) = key row) (k' : K) :
    (t.update k f hf).contains k' ↔ t.contains k' := by
  rw [contains_iff, contains_iff, get?_update]
  split <;> simp

/-- An update of a key that is not there changes nothing. -/
theorem update_of_not_contains (h : ¬ t.contains k) : t.update k f hf = t := by
  ext1
  refine (List.map_congr_left fun row hrow => ?_).trans (List.map_id t.rows)
  rw [if_neg fun hkey => h (List.mem_map.2 ⟨row, hrow, hkey⟩)]
  rfl

/-- An update changes nothing when the row already holds the values. -/
theorem update_eq_self_iff : t.update k f hf = t ↔ ∀ row, t.get? k = some row → f row = row := by
  constructor
  · intro h row hrow
    have hget := get?_update t k f hf k
    rw [h, if_pos rfl, hrow, Option.map_some] at hget
    exact (Option.some.inj hget).symm
  · intro h
    ext1
    refine (List.map_congr_left fun row hrow => ?_).trans (List.map_id t.rows)
    split
    · rename_i hkey
      exact h row (hkey ▸ get?_of_mem hrow)
    · rfl

end Update

/-! ## Insertions in sequence -/

/-- {lit}`INSERT OR IGNORE` of rows, one after the other. -/
def insertAll (t : KeyedTable key) (rows : List R) : KeyedTable key :=
  rows.foldl insertOrIgnore t

@[simp]
theorem insertAll_nil (t : KeyedTable key) : t.insertAll [] = t :=
  rfl

@[simp]
theorem insertAll_cons (t : KeyedTable key) (row : R) (rows : List R) :
    t.insertAll (row :: rows) = (t.insertOrIgnore row).insertAll rows :=
  rfl

theorem insertAll_append (t : KeyedTable key) (rows rows' : List R) :
    t.insertAll (rows ++ rows') = (t.insertAll rows).insertAll rows' :=
  List.foldl_append

theorem mem_insertOrIgnore {row' : R} (h : row' ∈ (t.insertOrIgnore row).rows) :
    row' ∈ t.rows ∨ row' = row := by
  by_cases hthere : t.contains (key row)
  · rw [insertOrIgnore_of_contains hthere] at h
    exact .inl h
  · rw [rows_insertOrIgnore hthere, List.mem_append, List.mem_singleton] at h
    exact h

/-- The rows of the table were there before or are among the inserted ones. -/
theorem mem_insertAll {rows : List R} (h : row ∈ (t.insertAll rows).rows) :
    row ∈ t.rows ∨ row ∈ rows := by
  induction rows generalizing t with
  | nil => exact .inl h
  | cons first rows ih =>
      rcases ih h with hrow | hrow
      · rcases mem_insertOrIgnore hrow with hold | rfl
        · exact .inl hold
        · exact .inr List.mem_cons_self
      · exact .inr (List.mem_cons_of_mem _ hrow)

theorem contains_insertOrIgnore {k : K} :
    (t.insertOrIgnore row).contains k ↔ t.contains k ∨ key row = k := by
  rw [contains_iff, contains_iff]
  simp only [get?_insertOrIgnore]
  by_cases hkey : key row = k
  · simp [hkey]
  · simp [hkey]

/-- Every key that was inserted is there. -/
theorem contains_insertAll {rows : List R} {k : K} :
    (t.insertAll rows).contains k ↔ t.contains k ∨ ∃ row ∈ rows, key row = k := by
  induction rows generalizing t with
  | nil => simp
  | cons first rows ih =>
      rw [insertAll_cons, ih, contains_insertOrIgnore]
      simp [or_assoc]

omit [DecidableEq K] in
/-- At most one row is of a kind exactly when the rows of that kind have one key. -/
theorem length_filter_le_one_iff {p : R → Bool} :
    (t.rows.filter p).length ≤ 1 ↔
      ∀ a ∈ t.rows, ∀ b ∈ t.rows, p a = true → p b = true → key a = key b := by
  have hunique : ((t.rows.filter p).map key).Nodup :=
    t.unique.sublist (List.filter_sublist.map key)
  have hmem : ∀ a, a ∈ t.rows.filter p ↔ a ∈ t.rows ∧ p a = true := fun a => List.mem_filter
  cases hfilter : t.rows.filter p with
  | nil =>
      refine iff_of_true (by simp) fun a ha b _ hpa _ => ?_
      have hfa := (hmem a).2 ⟨ha, hpa⟩
      rw [hfilter] at hfa
      cases hfa
  | cons c rest =>
      rw [hfilter] at hunique hmem
      cases rest with
      | nil =>
          refine iff_of_true (by simp) fun a ha b hb hpa hpb => ?_
          have hfa := (hmem a).2 ⟨ha, hpa⟩
          have hfb := (hmem b).2 ⟨hb, hpb⟩
          rw [List.mem_singleton.1 hfa, List.mem_singleton.1 hfb]
      | cons d rest =>
          refine iff_of_false (by simp) fun hkeys => ?_
          have hc := (hmem c).1 List.mem_cons_self
          have hd := (hmem d).1 (List.mem_cons_of_mem c List.mem_cons_self)
          simp [hkeys c hc.1 d hd.1 hc.2 hd.2] at hunique

/-- Of rows that are told apart from the others by their keys at most one is stored exactly when
they have one key. -/
theorem length_filter_insertAll_le_one_iff {rows : List R} {p : R → Bool}
    (hkeys : ∀ a ∈ rows, ∀ b ∈ rows, key a = key b → p a = p b) :
    (((empty : KeyedTable key).insertAll rows).rows.filter p).length ≤ 1 ↔
      ∀ a ∈ rows, ∀ b ∈ rows, p a = true → p b = true → key a = key b := by
  have hold : ∀ a ∈ ((empty : KeyedTable key).insertAll rows).rows, a ∈ rows := fun a ha =>
    (mem_insertAll ha).resolve_left List.not_mem_nil
  have hstored : ∀ a ∈ rows, ∃ b ∈ ((empty : KeyedTable key).insertAll rows).rows,
      key b = key a := by
    intro a ha
    have hcontains : ((empty : KeyedTable key).insertAll rows).contains (key a) :=
      contains_insertAll.2 (.inr ⟨a, ha, rfl⟩)
    exact List.mem_map.1 hcontains
  rw [length_filter_le_one_iff]
  constructor
  · intro h a ha b hb hpa hpb
    rcases hstored a ha with ⟨a', ha', hkeya⟩
    rcases hstored b hb with ⟨b', hb', hkeyb⟩
    have hpa' : p a' = true := (hkeys a' (hold a' ha') a ha hkeya).trans hpa
    have hpb' : p b' = true := (hkeys b' (hold b' hb') b hb hkeyb).trans hpb
    rw [← hkeya, ← hkeyb]
    exact h a' ha' b' hb' hpa' hpb'
  · intro h a ha b hb
    exact h a (hold a ha) b (hold b hb)

end KeyedTable
end Library
end StrategyWorker
