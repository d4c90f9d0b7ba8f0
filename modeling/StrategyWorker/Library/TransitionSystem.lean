import Mathlib.Data.List.Basic
import Mathlib.Data.Option.Basic
import Mathlib.Order.Basic

/-!
# Guarded transition systems and their schedules

A system is an initial state with a partial step function: a label that cannot
happen in a state has no successor there.  A schedule is a finite list of
labels, and an interleaving of several parties is a schedule whose labels say
which party moves.

A side condition on the steps of a schedule is a relation between the state a
step starts in and its label.  {lit}`Meets` says that every step of a schedule
satisfies it, and the invariant rule below only asks for preservation along
such steps.

Main results:

- Theorem {lit}`run_append`: schedules compose.
- Theorem {lit}`run_invariant`: an invariant that every admissible step keeps
  holds at the end of every admissible schedule.
- Theorem {lit}`run_potential`: a potential that pays for every counted label
  bounds how many of them a schedule holds.
- Theorem {lit}`run_budget`: the same for a budget that some labels add to.
-/

namespace StrategyWorker
namespace Library

/-- An initial state and a partial step function over labels. -/
structure TransitionSystem (S L : Type*) where
  init : S
  step : S → L → Option S

namespace TransitionSystem

variable {S L : Type*}

/-- Run a schedule from a state; {lit}`none` when one of its labels cannot happen. -/
def run (M : TransitionSystem S L) : S → List L → Option S
  | s, [] => some s
  | s, l :: ls => (M.step s l).bind fun t => M.run t ls

/-- Every step that the schedule takes from {lit}`s` satisfies the side condition {lit}`C`. -/
def Meets (M : TransitionSystem S L) (C : S → L → Prop) : S → List L → Prop
  | _, [] => True
  | s, l :: ls => C s l ∧ ∀ t, M.step s l = some t → M.Meets C t ls

/-- Number of labels of a schedule that {lit}`p` selects. -/
def count (p : L → Bool) (ls : List L) : Nat :=
  ls.countP p

variable {M : TransitionSystem S L}

@[simp]
theorem run_nil (s : S) : M.run s [] = some s :=
  rfl

@[simp]
theorem run_cons (s : S) (l : L) (ls : List L) :
    M.run s (l :: ls) = (M.step s l).bind fun t => M.run t ls :=
  rfl

@[simp]
theorem meets_nil (C : S → L → Prop) (s : S) : M.Meets C s [] :=
  trivial

theorem meets_cons {C : S → L → Prop} {s : S} {l : L} {ls : List L} :
    M.Meets C s (l :: ls) ↔ C s l ∧ ∀ t, M.step s l = some t → M.Meets C t ls :=
  Iff.rfl

/-- Side conditions that can be tested can be tested along a schedule. -/
instance decidableMeets (M : TransitionSystem S L) (C : S → L → Prop) [∀ s l, Decidable (C s l)] :
    (s : S) → (ls : List L) → Decidable (M.Meets C s ls)
  | _, [] => isTrue trivial
  | s, l :: ls =>
      match h : M.step s l with
      | none => decidable_of_iff (C s l) (by simp [meets_cons, h])
      | some t =>
          haveI := decidableMeets M C t ls
          decidable_of_iff (C s l ∧ M.Meets C t ls) (by simp [meets_cons, h])

/-- A nonempty schedule runs exactly when its first label can happen and the rest runs. -/
theorem run_cons_eq_some {s t : S} {l : L} {ls : List L} :
    M.run s (l :: ls) = some t ↔ ∃ u, M.step s l = some u ∧ M.run u ls = some t := by
  simp [Option.bind_eq_some_iff]

/-- Two schedules run one after the other. -/
theorem run_append (s : S) (ls ls' : List L) :
    M.run s (ls ++ ls') = (M.run s ls).bind fun t => M.run t ls' := by
  induction ls generalizing s with
  | nil => simp
  | cons l ls ih =>
      cases hstep : M.step s l with
      | none => simp [hstep]
      | some t => simp [hstep, ih]

/-- A schedule that meets a condition meets it on each of its two halves. -/
theorem meets_append {C : S → L → Prop} {s : S} {ls ls' : List L} :
    M.Meets C s (ls ++ ls') ↔
      M.Meets C s ls ∧ ∀ t, M.run s ls = some t → M.Meets C t ls' := by
  induction ls generalizing s with
  | nil => simp
  | cons l ls ih =>
      rw [List.cons_append, meets_cons, meets_cons]
      constructor
      · rintro ⟨hC, hrest⟩
        refine ⟨⟨hC, fun t ht => (ih.1 (hrest t ht)).1⟩, ?_⟩
        intro t hrun
        rcases run_cons_eq_some.1 hrun with ⟨u, hu, hrun⟩
        exact (ih.1 (hrest u hu)).2 t hrun
      · rintro ⟨⟨hC, hfirst⟩, hsecond⟩
        refine ⟨hC, fun t ht => ih.2 ⟨hfirst t ht, fun u hu => hsecond u ?_⟩⟩
        exact run_cons_eq_some.2 ⟨t, ht, hu⟩

/-- A stronger side condition admits fewer schedules. -/
theorem Meets.mono {C D : S → L → Prop} (hCD : ∀ s l, C s l → D s l) {s : S} {ls : List L}
    (h : M.Meets C s ls) : M.Meets D s ls := by
  induction ls generalizing s with
  | nil => simp
  | cons l ls ih =>
      rcases meets_cons.1 h with ⟨hC, hrest⟩
      exact meets_cons.2 ⟨hCD s l hC, fun t ht => ih (hrest t ht)⟩

/-- A side condition that the labels of a schedule satisfy in every state is met by it. -/
theorem meets_of_mem {C : S → L → Prop} {ls : List L} (h : ∀ l ∈ ls, ∀ s, C s l) (s : S) :
    M.Meets C s ls := by
  induction ls generalizing s with
  | nil => exact meets_nil C s
  | cons l ls ih =>
      refine meets_cons.2 ⟨h l List.mem_cons_self s, fun t _ => ih ?_ t⟩
      exact fun l' hl' => h l' (List.mem_cons_of_mem _ hl')

/-- What every admissible step keeps holds at the end of every admissible schedule. -/
theorem run_invariant {C : S → L → Prop} (Inv : S → Prop)
    (hstep : ∀ s l t, Inv s → C s l → M.step s l = some t → Inv t)
    {s t : S} {ls : List L} (hs : Inv s) (hC : M.Meets C s ls) (hrun : M.run s ls = some t) :
    Inv t := by
  induction ls generalizing s with
  | nil =>
      obtain rfl : s = t := by simpa using hrun
      exact hs
  | cons l ls ih =>
      rcases run_cons_eq_some.1 hrun with ⟨u, hu, hrun⟩
      rcases meets_cons.1 hC with ⟨hCl, hrest⟩
      exact ih (hstep s l u hs hCl hu) (hrest u hu) hrun

/-- The invariant rule for a system whose steps are not restricted. -/
theorem run_invariant' (Inv : S → Prop)
    (hstep : ∀ s l t, Inv s → M.step s l = some t → Inv t)
    {s t : S} {ls : List L} (hs : Inv s) (hrun : M.run s ls = some t) : Inv t := by
  induction ls generalizing s with
  | nil =>
      obtain rfl : s = t := by simpa using hrun
      exact hs
  | cons l ls ih =>
      rcases run_cons_eq_some.1 hrun with ⟨u, hu, hrun⟩
      exact ih (hstep s l u hs hu) hrun

/--
A potential that no admissible step raises and that every counted label lowers
while it is positive is used up by a schedule with enough counted labels.
-/
theorem run_potential {C : S → L → Prop} (Inv : S → Prop) (p : L → Bool) (pot : S → Nat)
    (hstep : ∀ s l t, Inv s → C s l → M.step s l = some t →
      Inv t ∧ pot t ≤ pot s ∧ (p l = true → pot t ≤ pot s - 1))
    {s t : S} {ls : List L} (hs : Inv s) (hC : M.Meets C s ls) (hrun : M.run s ls = some t) :
    pot t ≤ pot s - count p ls := by
  induction ls generalizing s with
  | nil =>
      obtain rfl : s = t := by simpa using hrun
      simp [count]
  | cons l ls ih =>
      rcases run_cons_eq_some.1 hrun with ⟨u, hu, hrun⟩
      rcases meets_cons.1 hC with ⟨hCl, hrest⟩
      rcases hstep s l u hs hCl hu with ⟨hinv, hle, hlt⟩
      have htail := ih hinv (hrest u hu) hrun
      by_cases hp : p l = true
      · have := hlt hp
        simp only [count, List.countP_cons_of_pos hp] at htail ⊢
        omega
      · simp only [count, List.countP_cons_of_neg hp] at htail ⊢
        omega

/--
A budget that every admissible step respects, where a label that {lit}`q` selects adds
{lit}`k` to it, bounds how many labels that {lit}`p` selects a schedule holds.  The budget is
a relation, so that it can speak about more than the state fixes.
-/
theorem run_budget {C : S → L → Prop} (B : S → Nat → Prop) (p q : L → Bool) (k : Nat)
    (hstep : ∀ s l t n, B s n → C s l → M.step s l = some t →
      ∃ m, B t m ∧ m + count p [l] ≤ n + k * count q [l])
    {s t : S} {ls : List L} {n : Nat} (hs : B s n) (hC : M.Meets C s ls)
    (hrun : M.run s ls = some t) :
    ∃ m, B t m ∧ m + count p ls ≤ n + k * count q ls := by
  induction ls generalizing s n with
  | nil =>
      obtain rfl : s = t := by simpa using hrun
      exact ⟨n, hs, by simp [count]⟩
  | cons l ls ih =>
      rcases run_cons_eq_some.1 hrun with ⟨u, hu, hrun⟩
      rcases meets_cons.1 hC with ⟨hCl, hrest⟩
      rcases hstep s l u n hs hCl hu with ⟨m, hm, hle⟩
      rcases ih hm (hrest u hu) hrun with ⟨m', hm', hle'⟩
      refine ⟨m', hm', ?_⟩
      have hp : count p (l :: ls) = count p [l] + count p ls := by
        simp only [count, ← List.countP_append, List.singleton_append]
      have hq : count q (l :: ls) = count q [l] + count q ls := by
        simp only [count, ← List.countP_append, List.singleton_append]
      rw [hp, hq, Nat.mul_add]
      omega

end TransitionSystem
end Library
end StrategyWorker
