import Mathlib.Data.List.Sort

/-!
# Rows in the order of a query

{lit}`ORDER BY` promises the rows in an order in which no row comes before one
that should precede it; which of two rows with equal columns comes first it
leaves open.  An ordering is therefore any function that permutes the rows and
puts them in order.

Main results:

- Theorem {lit}`pairwise_of_agrees`: rows that are ordered by columns which agree
  with another order are in that order.
- Theorem {lit}`of_pairwise`: and when the rows are in another order, columns
  which are told apart agree with it.
-/

namespace StrategyWorker
namespace Library

/-- What {lit}`ORDER BY` may do with rows of which each should stand in this relation to the later
ones. -/
structure OrderBy {R : Type} (r : R → R → Prop) where
  sort : List R → List R
  perm : ∀ rows, (sort rows).Perm rows
  sorted : ∀ rows, (sort rows).Pairwise r

namespace OrderBy

variable {R : Type} {r s : R → R → Prop}

/-- Rows by a column; those with equal columns stay in the order of insertion. -/
def ascending {C : Type} [LinearOrder C] (column : R → C) :
    OrderBy fun a b => column a ≤ column b where
  sort := List.insertionSort fun a b => column a ≤ column b
  perm := List.perm_insertionSort _
  sorted := by
    have : Std.Total fun a b : R => column a ≤ column b := ⟨fun a b => le_total _ _⟩
    have : IsTrans R fun a b => column a ≤ column b := ⟨fun a b c => le_trans⟩
    exact List.pairwise_insertionSort _

def descending {C : Type} [LinearOrder C] (column : R → C) :
    OrderBy fun a b => column b ≤ column a where
  sort := List.insertionSort fun a b => column b ≤ column a
  perm := List.perm_insertionSort _
  sorted := by
    have : Std.Total fun a b : R => column b ≤ column a := ⟨fun a b => le_total _ _⟩
    have : IsTrans R fun a b => column b ≤ column a := ⟨fun a b c hab hbc => hbc.trans hab⟩
    exact List.pairwise_insertionSort _

variable (o : OrderBy r) {rows : List R}

theorem mem_sort {a : R} : a ∈ o.sort rows ↔ a ∈ rows :=
  (o.perm rows).mem_iff

theorem pairwise_of_agrees (h : ∀ a ∈ rows, ∀ b ∈ rows, r a b → s a b) :
    (o.sort rows).Pairwise s := by
  apply (o.sorted rows).imp_of_mem
  intro a b ha hb
  exact h a (o.mem_sort.1 ha) b (o.mem_sort.1 hb)

/-- Of two different rows one stands before the other. -/
theorem pairwise_total {l : List R} (h : l.Pairwise s) {a b : R} (ha : a ∈ l) (hb : b ∈ l)
    (hne : a ≠ b) : s a b ∨ s b a := by
  induction l with
  | nil => cases ha
  | cons c l ih =>
      rcases List.pairwise_cons.1 h with ⟨hfirst, hrest⟩
      rcases List.mem_cons.1 ha with rfl | ha'
      · rcases List.mem_cons.1 hb with rfl | hb'
        · exact absurd rfl hne
        · exact .inl (hfirst b hb')
      · rcases List.mem_cons.1 hb with rfl | hb'
        · exact .inr (hfirst a ha')
        · exact ih hrest ha' hb'

/-- A row that must not follow another stands before it. -/
theorem of_pairwise (h : (o.sort rows).Pairwise s) {a b : R} (ha : a ∈ rows) (hb : b ∈ rows)
    (hne : a ≠ b) (hnot : ¬ r b a) : s a b := by
  have hboth : (o.sort rows).Pairwise fun a b => r a b ∧ s a b :=
    List.pairwise_and_iff.2 ⟨o.sorted rows, h⟩
  rcases pairwise_total hboth (o.mem_sort.2 ha) (o.mem_sort.2 hb) hne with hfirst | hback
  · exact hfirst.2
  · exact absurd hback.1 hnot

theorem head?_sort_eq_none : (o.sort rows).head? = none ↔ rows = [] := by
  rw [List.head?_eq_none_iff]
  constructor
  · intro h
    have hperm := o.perm rows
    rw [h] at hperm
    exact hperm.symm.eq_nil
  · rintro rfl
    exact (o.perm []).eq_nil

/-- The first row is none that should follow another. -/
theorem of_head? {a b : R} (h : (o.sort rows).head? = some a) (hb : b ∈ rows) (hne : a ≠ b) :
    a ∈ rows ∧ r a b := by
  have hsorted := o.sorted rows
  have hmem := o.mem_sort.2 hb
  cases hsort : o.sort rows with
  | nil =>
      rw [hsort] at h
      cases h
  | cons c rest =>
      rw [hsort] at h hsorted hmem
      obtain rfl : c = a := Option.some.inj h
      have hc : c ∈ rows := o.mem_sort.1 (hsort ▸ List.mem_cons_self)
      rcases List.mem_cons.1 hmem with rfl | hrest
      · exact absurd rfl hne
      · exact ⟨hc, (List.pairwise_cons.1 hsorted).1 b hrest⟩

end OrderBy

end Library
end StrategyWorker
