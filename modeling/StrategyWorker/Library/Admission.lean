import Mathlib.Data.List.Induction
import Mathlib.Order.Basic
import Mathlib.Order.Lattice

/-!
# Admission of events in order, each at most once

Every event has an owner, a rank and a key.  A request asks to accept an event
above a given floor: it is stale when the floor or an event of the same owner
that was admitted before has a larger rank, and a duplicate when an admitted
event has the same key.  The state of the gate is the list of admitted events.

Main results:

- Theorem {lit}`nodup_admitAll`: no key is admitted twice.
- Theorem {lit}`ordered_admitAll`: the ranks of one owner never decrease.
- Theorem {lit}`verdict_of_lt`: what lies below an admitted event is stale.
- Theorem {lit}`outcomes_filter`: the verdicts of one owner do not depend on the
  requests of the others.
- Theorem {lit}`admitAll_of_ordered`: of requests in order the first with each
  key are admitted.
- Theorem {lit}`keepFirst_congr`, Theorem {lit}`exists_before_of_keepFirst_eq`:
  when two ways to keep first occurrences keep the same events.
-/

namespace StrategyWorker
namespace Library

inductive Verdict where
  | accept
  | duplicate
  | stale
  deriving DecidableEq, Repr

/-- What the gate reads of an event. -/
structure Admission (E ρ α κ : Type*) where
  owner : E → ρ
  rank : E → α
  key : E → κ

namespace Admission

variable {E ρ α κ : Type*} [DecidableEq ρ] [LinearOrder α] [DecidableEq κ]
variable (A : Admission E ρ α κ)

/-- The verdict on a request, given the admitted events. -/
def verdict (admitted : List E) (request : E × α) : Verdict :=
  if A.rank request.1 < request.2 ∨
      ∃ e ∈ admitted, A.owner e = A.owner request.1 ∧ A.rank request.1 < A.rank e then .stale
  else if A.key request.1 ∈ admitted.map A.key then .duplicate
  else .accept

/-- The admitted events after a request. -/
def admitOne (admitted : List E) (request : E × α) : List E :=
  if A.verdict admitted request = .accept then admitted ++ [request.1] else admitted

/-- The admitted events after a sequence of requests. -/
def admitAll (admitted : List E) (requests : List (E × α)) : List E :=
  requests.foldl A.admitOne admitted

/-- The requests of a sequence with their verdicts. -/
def outcomes (admitted : List E) : List (E × α) → List ((E × α) × Verdict)
  | [] => []
  | r :: rs => (r, A.verdict admitted r) :: outcomes (A.admitOne admitted r) rs

/-- The ranks of each owner never decrease. -/
def Ordered (events : List E) : Prop :=
  events.Pairwise fun e e' => A.owner e = A.owner e' → A.rank e ≤ A.rank e'

variable {A}

/-! ## Verdicts -/

theorem verdict_eq_accept {admitted : List E} {request : E × α} :
    A.verdict admitted request = .accept ↔
      request.2 ≤ A.rank request.1 ∧
        (∀ e ∈ admitted, A.owner e = A.owner request.1 → A.rank e ≤ A.rank request.1) ∧
          A.key request.1 ∉ admitted.map A.key := by
  unfold verdict
  split
  · rename_i hstale
    simp only [reduceCtorEq, false_iff, not_and]
    intro hfloor hranks
    rcases hstale with hlt | ⟨e, he, howner, hlt⟩
    · exact absurd hfloor (not_le.2 hlt)
    · exact absurd (hranks e he howner) (not_le.2 hlt)
  · rename_i hstale
    simp only [not_or, not_exists, not_and, not_lt] at hstale
    split
    · rename_i hkey
      simp [hkey]
    · rename_i hkey
      exact ⟨fun _ => ⟨hstale.1, fun e he => hstale.2 e he, hkey⟩, fun _ => rfl⟩

variable (A) in
/-- The rank of a request lies below its floor or below an admitted event of its owner. -/
def Stale (admitted : List E) (request : E × α) : Prop :=
  A.rank request.1 < request.2 ∨
    ∃ e ∈ admitted, A.owner e = A.owner request.1 ∧ A.rank request.1 < A.rank e

theorem verdict_of_stale {admitted : List E} {request : E × α} (h : A.Stale admitted request) :
    A.verdict admitted request = .stale :=
  if_pos h

theorem verdict_of_mem {admitted : List E} {request : E × α} (h : ¬ A.Stale admitted request)
    (hkey : A.key request.1 ∈ admitted.map A.key) : A.verdict admitted request = .duplicate :=
  (if_neg h).trans (if_pos hkey)

theorem verdict_of_not_mem {admitted : List E} {request : E × α} (h : ¬ A.Stale admitted request)
    (hkey : A.key request.1 ∉ admitted.map A.key) : A.verdict admitted request = .accept :=
  (if_neg h).trans (if_neg hkey)

/-- What lies below an admitted event of its owner is stale. -/
theorem verdict_of_lt {admitted : List E} {request : E × α} {e : E} (he : e ∈ admitted)
    (howner : A.owner e = A.owner request.1) (hlt : A.rank request.1 < A.rank e) :
    A.verdict admitted request = .stale :=
  verdict_of_stale (Or.inr ⟨e, he, howner, hlt⟩)

theorem admit_cases (admitted : List E) (request : E × α) :
    (A.verdict admitted request = .accept ∧
        A.admitOne admitted request = admitted ++ [request.1]) ∨
      (A.verdict admitted request ≠ .accept ∧ A.admitOne admitted request = admitted) := by
  unfold admitOne
  split
  · rename_i h
    exact Or.inl ⟨h, rfl⟩
  · rename_i h
    exact Or.inr ⟨h, rfl⟩

/-- What is kept by a request holds after every sequence of requests. -/
theorem admitAll_induction {P : List E → Prop} {admitted : List E} (h : P admitted)
    (hstep : ∀ events request, P events → P (A.admitOne events request)) (requests : List (E × α)) :
    P (A.admitAll admitted requests) := by
  induction requests generalizing admitted with
  | nil => exact h
  | cons r rs ih => exact ih (hstep admitted r h)

/-- The admitted events are those with the verdict {lit}`accept`. -/
theorem admitAll_eq (admitted : List E) (requests : List (E × α)) :
    A.admitAll admitted requests =
      admitted ++ ((A.outcomes admitted requests).filter fun o => o.2 = .accept).map
        fun o => o.1.1 := by
  induction requests generalizing admitted with
  | nil => simp [admitAll, outcomes]
  | cons r rs ih =>
      have hrest := ih (A.admitOne admitted r)
      rw [admitAll] at hrest
      rcases admit_cases (A := A) admitted r with ⟨haccept, hadmitted⟩ | ⟨hrefuse, hadmitted⟩
      · rw [hadmitted] at hrest
        simp [admitAll, outcomes, haccept, hadmitted, hrest]
      · rw [hadmitted] at hrest
        simp [admitAll, outcomes, hrefuse, hadmitted, hrest]

/-! ## At most once, in order -/

/-- No key is admitted twice. -/
theorem nodup_admitAll {admitted : List E} (h : (admitted.map A.key).Nodup)
    (requests : List (E × α)) : ((A.admitAll admitted requests).map A.key).Nodup := by
  refine admitAll_induction (P := fun events => (events.map A.key).Nodup) h ?_ requests
  intro events request hnodup
  rcases admit_cases (A := A) events request with ⟨haccept, hadmitted⟩ | ⟨-, hadmitted⟩
  · rcases verdict_eq_accept.1 haccept with ⟨-, -, hkey⟩
    rw [hadmitted, List.map_append, List.map_singleton]
    exact List.nodup_append.2 ⟨hnodup, by simp, fun k hk k' hk' heq =>
      hkey (List.mem_singleton.1 hk' ▸ heq ▸ hk)⟩
  · rwa [hadmitted]

/-- The ranks of one owner never decrease. -/
theorem ordered_admitAll {admitted : List E} (h : A.Ordered admitted) (requests : List (E × α)) :
    A.Ordered (A.admitAll admitted requests) := by
  refine admitAll_induction h ?_ requests
  intro events request hordered
  rcases admit_cases (A := A) events request with ⟨haccept, hadmitted⟩ | ⟨-, hadmitted⟩
  · rcases verdict_eq_accept.1 haccept with ⟨-, hranks, -⟩
    rw [hadmitted]
    refine List.pairwise_append.2 ⟨hordered, List.pairwise_singleton _ _, ?_⟩
    intro e he e' he' howner
    obtain rfl := List.mem_singleton.1 he'
    exact hranks e he howner
  · rwa [hadmitted]

/-! ## Independence of owners -/

/-- The verdict depends on the admitted events of the same owner only. -/
theorem verdict_filter (hkey : ∀ e e', A.key e = A.key e' → A.owner e = A.owner e')
    (admitted : List E) (request : E × α) :
    A.verdict (admitted.filter fun e => A.owner e = A.owner request.1) request =
      A.verdict admitted request := by
  have hstale : (∃ e ∈ admitted.filter fun e => A.owner e = A.owner request.1,
      A.owner e = A.owner request.1 ∧ A.rank request.1 < A.rank e) ↔
      ∃ e ∈ admitted, A.owner e = A.owner request.1 ∧ A.rank request.1 < A.rank e := by
    constructor
    · rintro ⟨e, he, h⟩
      exact ⟨e, (List.mem_filter.1 he).1, h⟩
    · rintro ⟨e, he, h⟩
      exact ⟨e, List.mem_filter.2 ⟨he, by simp [h.1]⟩, h⟩
  have hdup : A.key request.1 ∈
      (admitted.filter fun e => A.owner e = A.owner request.1).map A.key ↔
      A.key request.1 ∈ admitted.map A.key := by
    simp only [List.mem_map, List.mem_filter, decide_eq_true_eq]
    constructor
    · rintro ⟨e, ⟨he, -⟩, heq⟩
      exact ⟨e, he, heq⟩
    · rintro ⟨e, he, heq⟩
      exact ⟨e, ⟨he, hkey _ _ heq⟩, heq⟩
  simp only [verdict, hstale, hdup]

theorem admit_filter_of_owner (hkey : ∀ e e', A.key e = A.key e' → A.owner e = A.owner e')
    (admitted : List E) (request : E × α) :
    (A.admitOne admitted request).filter (fun e => A.owner e = A.owner request.1) =
      A.admitOne (admitted.filter fun e => A.owner e = A.owner request.1) request := by
  unfold admitOne
  rw [verdict_filter hkey]
  split
  · rw [List.filter_append]
    simp
  · rfl

theorem admit_filter_of_ne {r : ρ} (admitted : List E) {request : E × α}
    (h : A.owner request.1 ≠ r) :
    (A.admitOne admitted request).filter (fun e => A.owner e = r) =
      admitted.filter fun e => A.owner e = r := by
  unfold admitOne
  split
  · rw [List.filter_append]
    simp [h]
  · rfl

/-- The verdicts of one owner do not depend on the requests of the others. -/
theorem outcomes_filter (hkey : ∀ e e', A.key e = A.key e' → A.owner e = A.owner e') (r : ρ)
    (admitted : List E) (requests : List (E × α)) :
    (A.outcomes admitted requests).filter (fun o => A.owner o.1.1 = r) =
      A.outcomes (admitted.filter fun e => A.owner e = r)
        (requests.filter fun q => A.owner q.1 = r) := by
  induction requests generalizing admitted with
  | nil => simp [outcomes]
  | cons q qs ih =>
      by_cases howner : A.owner q.1 = r
      · subst howner
        have hrest := ih (A.admitOne admitted q)
        rw [admit_filter_of_owner hkey] at hrest
        simp only [outcomes, List.filter_cons, decide_true, if_true, hrest]
        rw [verdict_filter hkey]
      · have hrest := ih (A.admitOne admitted q)
        rw [admit_filter_of_ne admitted howner] at hrest
        simp only [outcomes, List.filter_cons, howner, decide_false, Bool.false_eq_true,
          if_false, hrest]

end Admission

/-! ## First occurrences -/

section FirstOccurrences

variable {E κ ι : Type*} [DecidableEq κ] [DecidableEq ι]

/-- Keep an event that can be kept and whose key is new. -/
def keep (storable : E → Bool) (key : E → κ) (kept : List E) (e : E) : List E :=
  if storable e ∧ key e ∉ kept.map key then kept ++ [e] else kept

/-- The first occurrences of keys, among the events that can be kept. -/
def keepFirst (storable : E → Bool) (key : E → κ) (events : List E) : List E :=
  events.foldl (keep storable key) []

variable {storable : E → Bool} {key : E → κ} {id : E → ι}

theorem keepFirst_concat (events : List E) (e : E) :
    keepFirst storable key (events ++ [e]) = keep storable key (keepFirst storable key events) e :=
  List.foldl_append ..

theorem mem_keep {kept : List E} {e x : E} :
    x ∈ keep storable key kept e ↔
      x ∈ kept ∨ (x = e ∧ storable e ∧ key e ∉ kept.map key) := by
  unfold keep
  split
  · rename_i h
    simp only [List.mem_append, List.mem_singleton]
    exact or_congr_right ⟨fun hx => ⟨hx, h⟩, And.left⟩
  · rename_i h
    simp only [iff_self_or]
    exact fun hx => absurd hx.2 h

theorem mem_of_mem_keepFirst {events : List E} {x : E}
    (h : x ∈ keepFirst storable key events) : x ∈ events ∧ storable x := by
  induction events using List.reverseRecOn with
  | nil => cases h
  | append_singleton events e ih =>
      rw [keepFirst_concat, mem_keep] at h
      rcases h with h | ⟨rfl, hstorable, -⟩
      · exact ⟨List.mem_append_left _ (ih h).1, (ih h).2⟩
      · exact ⟨by simp, hstorable⟩

/-- When everything can be kept, every key is kept. -/
theorem exists_mem_keepFirst {events : List E} {e : E} (he : e ∈ events) :
    key e ∈ (keepFirst (fun _ => true) key events).map key := by
  induction events using List.reverseRecOn with
  | nil => cases he
  | append_singleton events x ih =>
      rw [keepFirst_concat]
      by_cases hx : key x ∈ (keepFirst (fun _ => true) key events).map key
      · have hsame : keep (fun _ => true) key (keepFirst (fun _ => true) key events) x =
            keepFirst (fun _ => true) key events := if_neg fun h => h.2 hx
        rw [hsame]
        rcases List.mem_append.1 he with he | he
        · exact ih he
        · exact List.mem_singleton.1 he ▸ hx
      · have hnew : keep (fun _ => true) key (keepFirst (fun _ => true) key events) x =
            keepFirst (fun _ => true) key events ++ [x] := if_pos ⟨rfl, hx⟩
        rw [hnew, List.map_append, List.mem_append]
        rcases List.mem_append.1 he with he | he
        · exact Or.inl (ih he)
        · exact Or.inr (List.mem_singleton.1 he ▸ by simp)

/-- The first occurrences for two keys are the same when the keys agree on the events and an event
that cannot be kept repeats an earlier one. -/
theorem keepFirst_congr {events : List E}
    (hkey : ∀ e ∈ events, ∀ e' ∈ events, key e = key e' ↔ id e = id e')
    (hstorable : ∀ before e after, events = before ++ e :: after → ¬ storable e →
      ∃ e' ∈ before, key e' = key e) :
    keepFirst storable id events = keepFirst (fun _ => true) key events := by
  induction events using List.reverseRecOn with
  | nil => rfl
  | append_singleton events x ih =>
      have hinit : keepFirst storable id events = keepFirst (fun _ => true) key events :=
        ih (fun e he e' he' => hkey e (List.mem_append_left _ he) e' (List.mem_append_left _ he'))
          (fun before e after heq => hstorable before e (after ++ [x]) (by simp [heq]))
      have hmem : id x ∈ (keepFirst (fun _ => true) key events).map id ↔
          key x ∈ (keepFirst (fun _ => true) key events).map key := by
        simp only [List.mem_map]
        refine exists_congr fun e => and_congr_right fun he => ?_
        exact (hkey e (List.mem_append_left _ (mem_of_mem_keepFirst he).1) x (by simp)).symm
      have hcondition : (storable x ∧ id x ∉ (keepFirst (fun _ => true) key events).map id) ↔
          ((fun _ => true) x ∧ key x ∉ (keepFirst (fun _ => true) key events).map key) := by
        rw [hmem]
        refine and_congr_left fun hnew => iff_of_true ?_ rfl
        by_contra hx
        rcases hstorable events x [] rfl hx with ⟨e, he, heq⟩
        exact hnew (heq ▸ exists_mem_keepFirst he)
      rw [keepFirst_concat, keepFirst_concat, hinit, keep, keep]
      exact if_congr hcondition rfl rfl

/-- When the first occurrences are the same, an event that cannot be kept repeats an earlier
one. -/
theorem exists_before_of_keepFirst_eq {events before after : List E} {e : E}
    (h : keepFirst storable id events = keepFirst (fun _ => true) key events)
    (heq : events = before ++ e :: after) (he : ¬ storable e) : ∃ e' ∈ before, key e' = key e := by
  by_contra hnone
  have hnew : key e ∉ (keepFirst (fun _ => true) key before).map key := by
    intro hmem
    rcases List.mem_map.1 hmem with ⟨e', he', hkey⟩
    exact hnone ⟨e', (mem_of_mem_keepFirst he').1, hkey⟩
  have hgrow : ∀ (more kept : List E), e ∈ kept →
      e ∈ more.foldl (keep (fun _ => true) key) kept := by
    intro more
    induction more with
    | nil => exact fun kept hkept => hkept
    | cons x more ih => exact fun kept hkept => ih _ (mem_keep.2 (Or.inl hkept))
  have hmem : e ∈ keepFirst (fun _ => true) key events := by
    rw [heq, keepFirst, List.foldl_append]
    exact hgrow after _ (mem_keep.2 (Or.inr ⟨rfl, rfl, hnew⟩))
  rw [← h] at hmem
  exact he (mem_of_mem_keepFirst hmem).2

namespace Admission

variable {ρ α : Type*} [DecidableEq ρ] [LinearOrder α] {A : Admission E ρ α κ}

/-- Of requests in order the first with each key are admitted. -/
theorem admitAll_of_ordered {events : List E} (h : A.Ordered events) :
    A.admitAll [] (events.map fun e => (e, A.rank e)) = keepFirst (fun _ => true) A.key events := by
  induction events using List.reverseRecOn with
  | nil => rfl
  | append_singleton events x ih =>
      rcases List.pairwise_append.1 h with ⟨hinit, -, hlast⟩
      have hfresh : ¬ A.Stale (keepFirst (fun _ => true) A.key events) (x, A.rank x) := by
        rintro (hlt | ⟨e, he, howner, hlt⟩)
        · exact lt_irrefl _ hlt
        · exact absurd hlt (not_lt.2 (hlast e (mem_of_mem_keepFirst he).1 x (by simp) howner))
      rw [keepFirst_concat, List.map_append, List.map_singleton, admitAll, List.foldl_append]
      have hrest : (events.map fun e => (e, A.rank e)).foldl A.admitOne [] =
          keepFirst (fun _ => true) A.key events := ih hinit
      rw [hrest]
      change A.admitOne _ (x, A.rank x) = _
      by_cases hx : A.key x ∈ (keepFirst (fun _ => true) A.key events).map A.key
      · rw [admitOne, verdict_of_mem hfresh hx, keep, if_neg (by decide), if_neg fun h => h.2 hx]
      · rw [admitOne, verdict_of_not_mem hfresh hx, keep, if_pos rfl, if_pos ⟨rfl, hx⟩]

end Admission

end FirstOccurrences

end Library
end StrategyWorker
