import Mathlib.Algebra.Order.BigOperators.Group.List
import Mathlib.Algebra.Order.Group.Nat
import Mathlib.Algebra.Ring.Nat
import Mathlib.Data.List.Basic
import StrategyWorker.Library.TransitionSystem

/-!
# Threads that execute operations over shared state

A thread is the list of the operations it still has to execute.  Executing one
reads and writes the shared state and either goes on, possibly with further
operations to do first and with new threads to start, or raises an error.  An
error unwinds the code of its thread to the first operation that handles it; an
unhandled one ends the thread.

A configuration interleaves its threads operation by operation, and requests
from outside start new ones.  {lit}`runAlone` executes one thread with nothing
in between.

Main results:

- Theorem {lit}`shared_invariant`: what every operation keeps of the shared
  state holds in every run.
- Theorem {lit}`step_total`: how a step changes the sum of a weight over all
  code that is still to be executed.
- Theorem {lit}`step_forall`: how a property of every thread is kept.
- Theorem {lit}`finishes_append`: a run of two pieces of code in a row, with
  the second one unwound when the first one raises.
- Theorem {lit}`finishes_run`: a thread that runs alone is a schedule.
- Theorem {lit}`finishesAll_run`: so are threads that run one after the other.
-/

namespace StrategyWorker
namespace Library

/-- What executing one operation comes to. -/
inductive Effect (S Op Err : Type*) where
  /-- The thread goes on with {lit}`push` first, and new threads start. -/
  | next (shared : S) (push : List Op) (spawned : List (List Op))
  /-- The operation raises. -/
  | raise (shared : S) (error : Err)

/-- A thread: the code it still has to execute, and the error that ended it. -/
structure Thread (Op Err : Type*) where
  code : List Op
  failure : Option Err
  deriving DecidableEq

/-- How operations execute, given an outcome that the outside chooses, and which of them
handle an error, with the code they then continue with. -/
structure ThreadMachine (S Op Err Out : Type*) where
  exec : S → Op → Out → Option (Effect S Op Err)
  handler : Op → Err → Option (List Op)

/-- The shared state with all threads that were started. -/
structure Config (S Op Err : Type*) where
  shared : S
  threads : List (Thread Op Err)

/-- A request from outside, or a step of a thread with the outcome of its operation. -/
inductive Move (Req Out : Type*) where
  | request (r : Req)
  | step (i : Nat) (out : Out)
  deriving DecidableEq

section

variable {S Op Err Out Req : Type*}

namespace Effect

/-- The shared state after an operation. -/
def shared : Effect S Op Err → S
  | next s _ _ => s
  | raise s _ => s

/-- The operations that an operation puts before the code behind it. -/
def pushed : Effect S Op Err → List Op
  | next _ push _ => push
  | raise _ _ => []

/-- The threads that an operation starts. -/
def spawned : Effect S Op Err → List (List Op)
  | next _ _ codes => codes
  | raise _ _ => []

end Effect

/-- A thread that starts with some code. -/
def Thread.fresh (code : List Op) : Thread Op Err :=
  ⟨code, none⟩

namespace ThreadMachine

/-- The code that goes on after an error: that of the first handler, then what follows it. -/
def unwind (M : ThreadMachine S Op Err Out) (e : Err) : List Op → Option (List Op)
  | [] => none
  | op :: rest =>
      match M.handler op e with
      | some code => some (code ++ rest)
      | none => M.unwind e rest

/-- The thread after one of its operations, {lit}`rest` being the code behind it. -/
def resume (M : ThreadMachine S Op Err Out) (rest : List Op) : Effect S Op Err → Thread Op Err
  | .next _ push _ => ⟨push ++ rest, none⟩
  | .raise _ e =>
      match M.unwind e rest with
      | some code => ⟨code, none⟩
      | none => ⟨[], some e⟩

/-- A step of thread {lit}`i`. -/
def stepThread (M : ThreadMachine S Op Err Out) (c : Config S Op Err) (i : Nat) (out : Out) :
    Option (Config S Op Err) :=
  match c.threads[i]? with
  | some ⟨op :: rest, _⟩ =>
      (M.exec c.shared op out).map fun eff =>
        ⟨eff.shared, c.threads.set i (M.resume rest eff) ++ eff.spawned.map .fresh⟩
  | _ => none

/-- The interleavings of the threads in {lit}`main` with the requests that {lit}`entry` admits. -/
def system (M : ThreadMachine S Op Err Out) (s : S) (main : List (List Op))
    (entry : Req → Option (List Op)) : TransitionSystem (Config S Op Err) (Move Req Out) where
  init := ⟨s, main.map .fresh⟩
  step c
    | .request r => (entry r).map fun code => ⟨c.shared, c.threads ++ [.fresh code]⟩
    | .step i out => M.stepThread c i out

variable {M : ThreadMachine S Op Err Out}

/-! ## Steps -/

attribute [local simp] unwind resume in
/-- A thread that an error ended has no code left. -/
theorem code_of_failure {rest : List Op} {eff : Effect S Op Err}
    (h : (M.resume rest eff).failure ≠ none) : (M.resume rest eff).code = [] := by
  cases eff with
  | next s push codes => exact absurd rfl h
  | raise s e =>
      simp only [resume] at h ⊢
      cases hunwind : M.unwind e rest with
      | some code => simp [hunwind] at h
      | none => rfl

/-- A thread steps by executing the first operation of its code. -/
theorem stepThread_eq_some {c d : Config S Op Err} {i : Nat} {out : Out} :
    M.stepThread c i out = some d ↔
      ∃ op rest f eff, c.threads[i]? = some ⟨op :: rest, f⟩ ∧
        M.exec c.shared op out = some eff ∧
        d = ⟨eff.shared, c.threads.set i (M.resume rest eff) ++ eff.spawned.map .fresh⟩ := by
  unfold stepThread
  split
  · rename_i op rest f hget
    simp only [hget, Option.map_eq_some_iff, Option.some.injEq, Thread.mk.injEq]
    constructor
    · rintro ⟨eff, heff, rfl⟩
      exact ⟨op, rest, f, eff, ⟨⟨rfl, rfl⟩, heff, rfl⟩⟩
    · rintro ⟨op', rest', f', eff, ⟨hcode, -⟩, heff, rfl⟩
      cases hcode
      exact ⟨eff, heff, rfl⟩
  · rename_i hno
    constructor
    · intro h
      cases h
    · rintro ⟨op, rest, f, eff, hget, -⟩
      exact absurd hget (hno op rest f)

theorem system_step_request {s : S} {main : List (List Op)} {entry : Req → Option (List Op)}
    {c d : Config S Op Err} {r : Req} :
    (M.system s main entry).step c (.request r) = some d ↔
      ∃ code, entry r = some code ∧ d = ⟨c.shared, c.threads ++ [.fresh code]⟩ := by
  simp only [system, Option.map_eq_some_iff]
  exact ⟨fun ⟨code, h, e⟩ => ⟨code, h, e.symm⟩, fun ⟨code, h, e⟩ => ⟨code, h, e.symm⟩⟩

@[simp]
theorem system_step_thread {s : S} {main : List (List Op)} {entry : Req → Option (List Op)}
    {c : Config S Op Err} {i : Nat} {out : Out} :
    (M.system s main entry).step c (.step i out) = M.stepThread c i out :=
  rfl

/-! ## What every operation keeps -/

/-- What every operation keeps of the shared state holds at the end of every run. -/
theorem shared_invariant {s₀ : S} {main : List (List Op)} {entry : Req → Option (List Op)}
    (P : S → Prop) (hexec : ∀ s op out eff, P s → M.exec s op out = some eff → P eff.shared)
    {c d : Config S Op Err} {ls : List (Move Req Out)} (hc : P c.shared)
    (hrun : (M.system s₀ main entry).run c ls = some d) : P d.shared := by
  refine TransitionSystem.run_invariant' (M := M.system s₀ main entry) (fun c => P c.shared)
    ?_ hc hrun
  intro c l d hc hstep
  cases l with
  | request r =>
      rcases system_step_request.1 hstep with ⟨code, -, rfl⟩
      exact hc
  | step i out =>
      rcases stepThread_eq_some.1 hstep with ⟨op, rest, f, eff, -, heff, rfl⟩
      exact hexec _ _ _ _ hc heff

/-! ## Weights of code -/

/-- The sum of a weight over some code. -/
def weigh (w : Op → Nat) (code : List Op) : Nat :=
  (code.map w).sum

@[simp]
theorem weigh_nil (w : Op → Nat) : weigh w [] = 0 :=
  rfl

@[simp]
theorem weigh_cons (w : Op → Nat) (op : Op) (code : List Op) :
    weigh w (op :: code) = w op + weigh w code :=
  rfl

@[simp]
theorem weigh_append (w : Op → Nat) (code code' : List Op) :
    weigh w (code ++ code') = weigh w code + weigh w code' := by
  simp [weigh]

/-- The sum of a weight over the code of every thread. -/
def total (w : Op → Nat) (threads : List (Thread Op Err)) : Nat :=
  (threads.map fun t => weigh w t.code).sum

@[simp]
theorem total_append (w : Op → Nat) (ts us : List (Thread Op Err)) :
    total w (ts ++ us) = total w ts + total w us := by
  simp [total]

@[simp]
theorem total_fresh (w : Op → Nat) (codes : List (List Op)) :
    total w (codes.map (Thread.fresh : List Op → Thread Op Err)) = (codes.map (weigh w)).sum := by
  simp [total, Thread.fresh, Function.comp_def]

@[simp]
theorem total_singleton (w : Op → Nat) (t : Thread Op Err) : total w [t] = weigh w t.code := by
  simp [total]

theorem le_weigh_of_mem {w : Op → Nat} {op : Op} {code : List Op} (h : op ∈ code) :
    w op ≤ weigh w code :=
  List.single_le_sum (fun n _ => Nat.zero_le n) _ (List.mem_map_of_mem h)

theorem weigh_eq_zero {w : Op → Nat} {code : List Op} (h : ∀ op ∈ code, w op = 0) :
    weigh w code = 0 := by
  induction code with
  | nil => rfl
  | cons op code ih =>
      have hop := h op List.mem_cons_self
      have hcode := ih fun o ho => h o (List.mem_cons_of_mem _ ho)
      rw [weigh_cons, hop, hcode]

theorem weigh_le_total {w : Op → Nat} {threads : List (Thread Op Err)} {i : Nat}
    {t : Thread Op Err} (h : threads[i]? = some t) : weigh w t.code ≤ total w threads := by
  have hmem : t ∈ threads := List.mem_of_getElem? h
  exact List.single_le_sum (fun n _ => Nat.zero_le n) _ (List.mem_map_of_mem hmem)

/-- A lighter weight has a smaller total. -/
theorem total_mono {v w : Op → Nat} (h : ∀ op, v op ≤ w op) (threads : List (Thread Op Err)) :
    total v threads ≤ total w threads := by
  apply List.sum_le_sum
  intro t _
  apply List.sum_le_sum
  intro op _
  exact h op

/-- Replacing a thread replaces its share of the total. -/
theorem total_set {w : Op → Nat} {threads : List (Thread Op Err)} {i : Nat}
    {t : Thread Op Err} (h : threads[i]? = some t) (u : Thread Op Err) :
    total w (threads.set i u) + weigh w t.code = total w threads + weigh w u.code := by
  induction threads generalizing i with
  | nil => cases h
  | cons a threads ih =>
      cases i with
      | zero =>
          obtain rfl : a = t := by simpa using h
          simp only [total, List.set_cons_zero, List.map_cons, List.sum_cons]
          omega
      | succ i =>
          have htail := ih (i := i) (by simpa using h)
          simp only [total, List.set_cons_succ, List.map_cons, List.sum_cons] at htail ⊢
          omega

/-- Two threads weigh no more than all of them. -/
theorem weigh_add_le_total {w : Op → Nat} {threads : List (Thread Op Err)} {i j : Nat}
    {t u : Thread Op Err} (hi : threads[i]? = some t) (hj : threads[j]? = some u) (hij : i ≠ j) :
    weigh w t.code + weigh w u.code ≤ total w threads := by
  have hset := total_set (w := w) hi (Thread.fresh [])
  have hj' : (threads.set i (Thread.fresh []))[j]? = some u := by
    rw [List.getElem?_set_ne hij]
    exact hj
  have hle := weigh_le_total (w := w) hj'
  have hempty : weigh w (Thread.fresh [] : Thread Op Err).code = 0 := rfl
  omega

/-- The weight of the code of a thread after an operation. -/
theorem weigh_resume_next (w : Op → Nat) (rest : List Op) (s : S) (push : List Op)
    (spawned : List (List Op)) :
    weigh w (M.resume rest (.next s push spawned)).code = weigh w push + weigh w rest := by
  simp [resume]

/-- Unwinding drops code, up to what the handlers add. -/
theorem weigh_unwind_le {w : Op → Nat} {e : Err}
    (hhandler : ∀ op code, M.handler op e = some code → weigh w code ≤ w op)
    {rest code : List Op} (h : M.unwind e rest = some code) : weigh w code ≤ weigh w rest := by
  induction rest with
  | nil => cases h
  | cons op rest ih =>
      unfold unwind at h
      split at h
      · rename_i handled hop
        cases h
        have := hhandler op handled hop
        simp only [weigh_append, weigh_cons]
        omega
      · have := ih h
        simp only [weigh_cons]
        omega

theorem weigh_resume_raise_le {w : Op → Nat} {e : Err}
    (hhandler : ∀ op code, M.handler op e = some code → weigh w code ≤ w op)
    (rest : List Op) (s : S) : weigh w (M.resume rest (.raise s e)).code ≤ weigh w rest := by
  simp only [resume]
  split
  · rename_i code hcode
    exact weigh_unwind_le hhandler hcode
  · simp

/-- The weight that an operation leaves to its thread and to the threads it starts. -/
def leaves (w : Op → Nat) (eff : Effect S Op Err) : Nat :=
  weigh w eff.pushed + (eff.spawned.map (weigh w)).sum

/-- A step replaces the weight of its operation by what the operation leaves. -/
theorem step_total {w : Op → Nat}
    (hhandler : ∀ op e code, M.handler op e = some code → weigh w code ≤ w op)
    {threads : List (Thread Op Err)} {i : Nat} {op : Op} {rest : List Op} {f : Option Err}
    (hget : threads[i]? = some ⟨op :: rest, f⟩) (eff : Effect S Op Err) :
    total w (threads.set i (M.resume rest eff) ++ eff.spawned.map .fresh) + w op ≤
      total w threads + leaves w eff := by
  have hset := total_set (w := w) hget (M.resume rest eff)
  rw [total_append, total_fresh]
  simp only [weigh_cons] at hset
  cases eff with
  | next s push codes =>
      rw [weigh_resume_next] at hset
      simp only [Effect.pushed, Effect.spawned, leaves]
      omega
  | raise s e =>
      have := weigh_resume_raise_le (M := M) (hhandler · e) rest s
      simp only [Effect.pushed, Effect.spawned, leaves, List.map_nil, List.sum_nil, weigh_nil]
      omega

/-! ## Properties of every thread -/

/-- A property of every thread is kept when the stepping thread, the threads it starts and
the threads beside it keep it. -/
theorem step_forall {P : Thread Op Err → Prop} (P' : Thread Op Err → Prop)
    {threads : List (Thread Op Err)} {i : Nat} {t : Thread Op Err}
    {new : List (List Op)} (hP : ∀ u ∈ threads, P u)
    (hself : P' t) (hnew : ∀ code ∈ new, P' (.fresh code))
    (hother : ∀ j u, j ≠ i → threads[j]? = some u → P u → P' u) :
    ∀ u ∈ threads.set i t ++ new.map .fresh, P' u := by
  intro u hu
  rcases List.mem_append.1 hu with hu | hu
  · rcases List.mem_iff_getElem?.1 hu with ⟨j, hj⟩
    by_cases hji : j = i
    · subst hji
      have hlt : j < (threads.set j t).length := (List.getElem?_eq_some_iff.1 hj).1
      rw [List.getElem?_set_self (by simpa using hlt)] at hj
      cases hj
      exact hself
    · rw [List.getElem?_set_ne (Ne.symm hji)] at hj
      exact hother j u hji hj (hP u (List.mem_of_getElem? hj))
  · rcases List.mem_map.1 hu with ⟨code, hcode, rfl⟩
    exact hnew code hcode

/-! ## What code carries -/

/-- Where the operations of a thread after a step come from. -/
theorem mem_resume {rest : List Op} {eff : Effect S Op Err} {op : Op}
    (h : op ∈ (M.resume rest eff).code) :
    op ∈ eff.pushed ∨ op ∈ rest ∨ ∃ o e code, M.handler o e = some code ∧ op ∈ code := by
  have hunwind : ∀ e (rest code : List Op), M.unwind e rest = some code → op ∈ code →
      op ∈ rest ∨ ∃ o e code, M.handler o e = some code ∧ op ∈ code := by
    intro e rest
    induction rest with
    | nil => intro code hcode; cases hcode
    | cons o rest ih =>
        intro code hcode hop
        unfold unwind at hcode
        split at hcode
        · rename_i handled ho
          cases hcode
          rcases List.mem_append.1 hop with hop | hop
          · exact .inr ⟨o, e, handled, ho, hop⟩
          · exact .inl (List.mem_cons_of_mem _ hop)
        · exact (ih code hcode hop).imp_left (List.mem_cons_of_mem _)
  cases eff with
  | next s push codes => exact (List.mem_append.1 h).imp_right .inl
  | raise s e =>
      simp only [resume] at h
      split at h
      · rename_i code hcode
        exact .inr (hunwind e rest code hcode h)
      · cases h

/-- A thread after a step carries no more than its operation pushed and what stood behind it. -/
theorem flatMap_resume_sublist {α : Type*} {f : Op → List α}
    (hhandler : ∀ op e code, M.handler op e = some code → (code.flatMap f).Sublist (f op))
    (rest : List Op) (eff : Effect S Op Err) :
    ((M.resume rest eff).code.flatMap f).Sublist (eff.pushed.flatMap f ++ rest.flatMap f) := by
  have hunwind : ∀ e (rest code : List Op), M.unwind e rest = some code →
      (code.flatMap f).Sublist (rest.flatMap f) := by
    intro e rest
    induction rest with
    | nil => intro code hcode; cases hcode
    | cons o rest ih =>
        intro code hcode
        unfold unwind at hcode
        split at hcode
        · rename_i handled ho
          cases hcode
          rw [List.flatMap_append, List.flatMap_cons]
          exact (hhandler o e handled ho).append_right _
        · rw [List.flatMap_cons]
          exact (ih code hcode).trans (List.sublist_append_right _ _)
  cases eff with
  | next s push codes =>
      simp only [resume, Effect.pushed, List.flatMap_append]
      exact List.Sublist.refl _
  | raise s e =>
      simp only [resume, Effect.pushed, List.flatMap_nil, List.nil_append]
      split
      · rename_i code hcode
        exact hunwind e rest code hcode
      · exact List.nil_sublist _

/-! ## Threads that exclude each other -/

/-- At most one thread has code of positive weight. -/
def Exclusive (w : Op → Nat) (threads : List (Thread Op Err)) : Prop :=
  ∀ (i j : Nat) (t u : Thread Op Err), i ≠ j → threads[i]? = some t → threads[j]? = some u →
    weigh w t.code = 0 ∨ weigh w u.code = 0

theorem exclusive_of_total {w : Op → Nat} {threads : List (Thread Op Err)}
    (h : total w threads = 0) : Exclusive w threads := by
  intro i j t u _ hi _
  have hle := weigh_le_total (w := w) hi
  exact .inl (by omega)

/-- Threads without weight can be added. -/
theorem Exclusive.append {w : Op → Nat} {threads : List (Thread Op Err)}
    (h : Exclusive w threads) {new : List (List Op)} (hnew : ∀ code ∈ new, weigh w code = 0) :
    Exclusive w (threads ++ new.map .fresh) := by
  have hzero : ∀ (i : Nat) t, (threads ++ new.map .fresh)[i]? = some t → threads[i]? = some t ∨
      weigh w t.code = 0 := by
    intro i t ht
    by_cases hlt : i < threads.length
    · exact .inl (by rwa [List.getElem?_append_left hlt] at ht)
    · rw [List.getElem?_append_right (by omega)] at ht
      rcases List.mem_map.1 (List.mem_of_getElem? ht) with ⟨code, hcode, rfl⟩
      exact .inr (hnew code hcode)
  intro i j t u hij hi hj
  rcases hzero i t hi with hi | hi
  · rcases hzero j u hj with hj | hj
    · exact h i j t u hij hi hj
    · exact .inr hj
  · exact .inl hi

/-- A thread may gain weight when it already had some, or when no other thread has any. -/
theorem Exclusive.set {w : Op → Nat} {threads : List (Thread Op Err)} (h : Exclusive w threads)
    {i : Nat} {t : Thread Op Err} (hget : threads[i]? = some t) {t' : Thread Op Err}
    (ht' : weigh w t.code = 0 → weigh w t'.code = 0 ∨
      ∀ (j : Nat) u, j ≠ i → threads[j]? = some u → weigh w u.code = 0) :
    Exclusive w (threads.set i t') := by
  have hlt : i < threads.length := (List.getElem?_eq_some_iff.1 hget).1
  -- the new thread beside an old one
  have hbeside : ∀ (j : Nat) u, j ≠ i → threads[j]? = some u →
      weigh w t'.code = 0 ∨ weigh w u.code = 0 := by
    intro j u hji hj
    by_cases hzero : weigh w t.code = 0
    · rcases ht' hzero with hz | hz
      · exact .inl hz
      · exact .inr (hz j u hji hj)
    · exact .inr ((h i j t u (Ne.symm hji) hget hj).resolve_left hzero)
  intro j k u v hjk hj hk
  by_cases hji : j = i
  · subst hji
    rw [List.getElem?_set_self hlt] at hj
    rw [List.getElem?_set_ne hjk] at hk
    cases hj
    exact hbeside k v (Ne.symm hjk) hk
  · rw [List.getElem?_set_ne (Ne.symm hji)] at hj
    by_cases hki : k = i
    · subst hki
      rw [List.getElem?_set_self hlt] at hk
      cases hk
      exact (hbeside j u hji hj).symm
    · rw [List.getElem?_set_ne (Ne.symm hki)] at hk
      exact h j k u v hjk hj hk

/-! ## Threads beside one of them -/

/-- The threads after a step: the stepping one, the ones beside it, and those it started. -/
theorem getElem?_after {threads : List (Thread Op Err)} {i j : Nat} {t t' u : Thread Op Err}
    {codes : List (List Op)} (hget : threads[i]? = some t)
    (h : (threads.set i t' ++ codes.map .fresh)[j]? = some u) :
    (j = i ∧ u = t') ∨ (j ≠ i ∧ threads[j]? = some u) ∨
      (threads.length ≤ j ∧ ∃ code ∈ codes, u = .fresh code) := by
  have hlt : i < threads.length := (List.getElem?_eq_some_iff.1 hget).1
  by_cases hj : j < threads.length
  · rw [List.getElem?_append_left (by simpa using hj)] at h
    by_cases hji : j = i
    · subst hji
      rw [List.getElem?_set_self hlt] at h
      exact .inl ⟨rfl, (Option.some.inj h).symm⟩
    · rw [List.getElem?_set_ne (Ne.symm hji)] at h
      exact .inr (.inl ⟨hji, h⟩)
  · rw [List.getElem?_append_right (by simpa using hj)] at h
    rcases List.mem_map.1 (List.mem_of_getElem? h) with ⟨code, hcode, rfl⟩
    exact .inr (.inr ⟨Nat.le_of_not_lt hj, code, hcode, rfl⟩)

/-- The code after an operation weighs no more than what the operation leaves and what stood
behind it. -/
theorem weigh_resume_le {w : Op → Nat}
    (hhandler : ∀ op e code, M.handler op e = some code → weigh w code ≤ w op)
    (rest : List Op) (eff : Effect S Op Err) :
    weigh w (M.resume rest eff).code ≤ leaves w eff + weigh w rest := by
  cases eff with
  | next s push codes =>
      rw [weigh_resume_next]
      simp only [leaves, Effect.pushed]
      omega
  | raise s e => exact (weigh_resume_raise_le (hhandler · e) rest s).trans (Nat.le_add_left _ _)

/-- Every thread that an operation starts weighs no more than what it leaves. -/
theorem weigh_spawned_le {w : Op → Nat} {eff : Effect S Op Err} {code : List Op}
    (h : code ∈ eff.spawned) : weigh w code ≤ leaves w eff := by
  have hmem : weigh w code ∈ eff.spawned.map (weigh w) := List.mem_map_of_mem h
  have hle := List.single_le_sum (fun n _ => Nat.zero_le n) _ hmem
  rw [leaves]
  omega

/-- Only thread {lit}`i₀` has code of positive weight. -/
def OnlyIn (i₀ : Nat) (w : Op → Nat) (threads : List (Thread Op Err)) : Prop :=
  ∀ (j : Nat) t, j ≠ i₀ → threads[j]? = some t → weigh w t.code = 0

/-- So it stays when no operation leaves more than it weighs, and threads start without weight. -/
theorem OnlyIn.step {w : Op → Nat} {i₀ i : Nat} {threads : List (Thread Op Err)}
    (hhandler : ∀ op e code, M.handler op e = some code → weigh w code ≤ w op)
    (h : OnlyIn i₀ w threads) {op : Op} {rest : List Op} {f : Option Err}
    (hget : threads[i]? = some ⟨op :: rest, f⟩) {eff : Effect S Op Err}
    (hleaves : leaves w eff ≤ w op) (hnew : ∀ code ∈ eff.spawned, weigh w code = 0) :
    OnlyIn i₀ w (threads.set i (M.resume rest eff) ++ eff.spawned.map .fresh) := by
  intro j t hj ht
  rcases getElem?_after hget ht with ⟨rfl, rfl⟩ | ⟨-, ht⟩ | ⟨-, code, hcode, rfl⟩
  · have hzero := h j _ hj hget
    have hle := weigh_resume_le hhandler rest eff
    simp only [weigh_cons] at hzero
    omega
  · exact h j t hj ht
  · exact hnew code hcode

theorem OnlyIn.append {w : Op → Nat} {i₀ : Nat} {threads : List (Thread Op Err)}
    (h : OnlyIn i₀ w threads) {code : List Op} (hcode : weigh w code = 0) :
    OnlyIn i₀ w (threads ++ [.fresh code]) := by
  intro j t hj ht
  by_cases hlt : j < threads.length
  · rw [List.getElem?_append_left hlt] at ht
    exact h j t hj ht
  · rw [List.getElem?_append_right (Nat.le_of_not_lt hlt)] at ht
    obtain rfl := List.mem_singleton.1 (List.mem_of_getElem? ht)
    exact hcode

/-! ## One thread alone -/

/-- How a thread ends that runs alone: the shared state, the error that ended it, and the
threads it started. -/
structure Ending (S Op Err : Type*) where
  shared : S
  failure : Option Err
  spawned : List (List Op)

/--
Execute code with nothing in between, {lit}`env` giving the outcome of each operation.
The fuel counts operations; {lit}`none` when it runs out or an operation cannot execute.
-/
def runAlone (M : ThreadMachine S Op Err Out) (env : Op → Out) :
    Nat → S → List Op → List (List Op) → Option (Ending S Op Err)
  | _, s, [], spawned => some ⟨s, none, spawned⟩
  | 0, _, _ :: _, _ => none
  | n + 1, s, op :: rest, spawned =>
      match M.exec s op (env op) with
      | none => none
      | some (.next t push codes) => M.runAlone env n t (push ++ rest) (spawned ++ codes)
      | some (.raise t e) =>
          match M.unwind e rest with
          | some code => M.runAlone env n t code spawned
          | none => some ⟨t, some e, spawned⟩

/-- Code that runs to its end alone. -/
def Finishes (M : ThreadMachine S Op Err Out) (env : Op → Out) (s : S) (code : List Op)
    (spawned : List (List Op)) (r : Ending S Op Err) : Prop :=
  ∃ n, M.runAlone env n s code spawned = some r

variable {env : Op → Out}

/-- Code that has been executed is at its end. -/
theorem finishes_nil {s : S} {spawned : List (List Op)} {r : Ending S Op Err} :
    M.Finishes env s [] spawned r ↔ r = ⟨s, none, spawned⟩ := by
  constructor
  · rintro ⟨n, h⟩
    cases n <;> cases h <;> rfl
  · rintro rfl
    exact ⟨0, rfl⟩

attribute [local simp] runAlone in
/-- An operation that goes on is followed by what it pushes and the code behind it. -/
theorem finishes_next {s t : S} {op : Op} {rest push : List Op} {codes spawned : List (List Op)}
    {r : Ending S Op Err} (h : M.exec s op (env op) = some (.next t push codes)) :
    M.Finishes env s (op :: rest) spawned r ↔
      M.Finishes env t (push ++ rest) (spawned ++ codes) r := by
  constructor
  · rintro ⟨n, hn⟩
    cases n with
    | zero => cases hn
    | succ n => exact ⟨n, by simpa [runAlone, h] using hn⟩
  · rintro ⟨n, hn⟩
    exact ⟨n + 1, by simpa [runAlone, h] using hn⟩

/-- An operation that raises is followed by the code of the handler. -/
theorem finishes_caught {s t : S} {op : Op} {rest code : List Op} {e : Err}
    {spawned : List (List Op)} {r : Ending S Op Err}
    (h : M.exec s op (env op) = some (.raise t e)) (hcaught : M.unwind e rest = some code) :
    M.Finishes env s (op :: rest) spawned r ↔ M.Finishes env t code spawned r := by
  constructor
  · rintro ⟨n, hn⟩
    cases n with
    | zero => cases hn
    | succ n => exact ⟨n, by simpa [runAlone, h, hcaught] using hn⟩
  · rintro ⟨n, hn⟩
    exact ⟨n + 1, by simpa [runAlone, h, hcaught] using hn⟩

/-- An operation that raises with no handler behind it ends the thread. -/
theorem finishes_escaped {s t : S} {op : Op} {rest : List Op} {e : Err}
    {spawned : List (List Op)} {r : Ending S Op Err}
    (h : M.exec s op (env op) = some (.raise t e)) (hfree : M.unwind e rest = none) :
    M.Finishes env s (op :: rest) spawned r ↔ r = ⟨t, some e, spawned⟩ := by
  constructor
  · rintro ⟨n, hn⟩
    cases n with
    | zero => cases hn
    | succ n => simpa [runAlone, h, hfree, eq_comm] using hn
  · rintro rfl
    exact ⟨1, by simp [runAlone, h, hfree]⟩

theorem runAlone_mono {n m : Nat} {s : S} {code : List Op} {spawned : List (List Op)}
    {r : Ending S Op Err} (h : M.runAlone env n s code spawned = some r) (hnm : n ≤ m) :
    M.runAlone env m s code spawned = some r := by
  induction n generalizing m s code spawned with
  | zero =>
      cases code with
      | nil => cases m <;> exact h
      | cons op rest => cases h
  | succ n ih =>
      cases code with
      | nil => cases m <;> exact h
      | cons op rest =>
          cases m with
          | zero => omega
          | succ m =>
              have hnm : n ≤ m := by omega
              unfold runAlone at h ⊢
              cases hexec : M.exec s op (env op) with
              | none => simp [hexec] at h
              | some eff =>
                  cases eff with
                  | next t push codes =>
                      simp only [hexec] at h ⊢
                      exact ih h hnm
                  | raise t e =>
                      simp only [hexec] at h ⊢
                      cases hunwind : M.unwind e rest with
                      | none => simpa [hunwind] using h
                      | some code =>
                          simp only [hunwind] at h ⊢
                          exact ih h hnm

/-- Code ends in one way only. -/
theorem Finishes.unique {s : S} {code : List Op} {spawned : List (List Op)}
    {r r' : Ending S Op Err} (h : M.Finishes env s code spawned r)
    (h' : M.Finishes env s code spawned r') : r = r' := by
  rcases h with ⟨n, hn⟩
  rcases h' with ⟨m, hm⟩
  have hn := runAlone_mono hn (Nat.le_max_left n m)
  have hm := runAlone_mono hm (Nat.le_max_right n m)
  exact Option.some.inj (hn.symm.trans hm)

/-- Unwinding stops in the first piece of code when that handles the error. -/
theorem unwind_append (M : ThreadMachine S Op Err Out) (e : Err) (code after : List Op) :
    M.unwind e (code ++ after) =
      match M.unwind e code with
      | some handled => some (handled ++ after)
      | none => M.unwind e after := by
  induction code with
  | nil => rfl
  | cons op code ih =>
      simp only [List.cons_append, unwind]
      cases M.handler op e with
      | none => exact ih
      | some handled => simp

/--
Two pieces of code in a row: the second one starts where the first one ends, unwound when
the first one raised.
-/
theorem finishes_append {s : S} {code after : List Op} {spawned : List (List Op)}
    {r r' : Ending S Op Err} (h : M.Finishes env s code spawned r) :
    M.Finishes env s (code ++ after) spawned r' ↔
      match r.failure with
      | none => M.Finishes env r.shared after r.spawned r'
      | some e =>
          match M.unwind e after with
          | some handled => M.Finishes env r.shared handled r.spawned r'
          | none => r' = r := by
  rcases h with ⟨n, hn⟩
  induction n generalizing s code spawned with
  | zero =>
      cases code with
      | nil =>
          cases hn
          simp
      | cons op rest => cases hn
  | succ n ih =>
      cases code with
      | nil =>
          cases hn
          simp
      | cons op rest =>
          unfold runAlone at hn
          cases hexec : M.exec s op (env op) with
          | none => simp [hexec] at hn
          | some eff =>
              cases eff with
              | next t push codes =>
                  simp only [hexec] at hn
                  rw [List.cons_append, finishes_next hexec, ← List.append_assoc]
                  exact ih hn
              | raise t e =>
                  simp only [hexec] at hn
                  have hunwind := unwind_append M e rest after
                  cases hrest : M.unwind e rest with
                  | some handled =>
                      simp only [hrest] at hn hunwind
                      rw [List.cons_append, finishes_caught hexec hunwind]
                      exact ih hn
                  | none =>
                      simp only [hrest] at hn hunwind
                      cases hn
                      simp only
                      cases hafter : M.unwind e after with
                      | some handled =>
                          rw [hafter] at hunwind
                          rw [List.cons_append, finishes_caught hexec hunwind]
                      | none =>
                          rw [hafter] at hunwind
                          rw [List.cons_append, finishes_escaped hexec hunwind]

/-! ## A thread alone is a schedule -/

theorem getElem?_set_append_self {threads : List (Thread Op Err)} {i : Nat} {t : Thread Op Err}
    (h : threads[i]? = some t) (u : Thread Op Err) (new : List (Thread Op Err)) :
    (threads.set i u ++ new)[i]? = some u := by
  have hlt : i < threads.length := (List.getElem?_eq_some_iff.1 h).1
  rw [List.getElem?_append_left (by simpa using hlt), List.getElem?_set_self hlt]

theorem set_append_set_append {threads : List (Thread Op Err)} {i : Nat} {t : Thread Op Err}
    (h : threads[i]? = some t) (u v : Thread Op Err) (new new' : List (Thread Op Err)) :
    (threads.set i u ++ new).set i v ++ new' = threads.set i v ++ (new ++ new') := by
  have hlt : i < threads.length := (List.getElem?_eq_some_iff.1 h).1
  rw [List.set_append_left _ _ (by simpa using hlt), List.set_set, List.append_assoc]

theorem set_of_getElem? {threads : List (Thread Op Err)} {i : Nat} {t : Thread Op Err}
    (h : threads[i]? = some t) : threads.set i t = threads := by
  rcases List.getElem?_eq_some_iff.1 h with ⟨hlt, rfl⟩
  exact List.set_getElem_self hlt

/-- Executing the operations of one thread only, with the outcomes of {lit}`env`. -/
def Alone (env : Op → Out) (i : Nat) (ls : List (Move Req Out)) : Prop :=
  ∀ l ∈ ls, ∃ op, l = .step i (env op)

theorem runAlone_run (s₀ : S) (main : List (List Op)) (entry : Req → Option (List Op)) {n : Nat}
    {s : S} {code : List Op} {spawned : List (List Op)} {r : Ending S Op Err}
    (h : M.runAlone env n s code spawned = some r) :
    ∃ new, r.spawned = spawned ++ new ∧
      ∀ (c : Config S Op Err) (i : Nat), c.shared = s → c.threads[i]? = some ⟨code, none⟩ →
        ∃ ls, Alone env i ls ∧ (M.system s₀ main entry).run c ls =
          some ⟨r.shared, c.threads.set i ⟨[], r.failure⟩ ++ new.map .fresh⟩ := by
  induction n generalizing s code spawned with
  | zero =>
      cases code with
      | cons op rest => cases h
      | nil =>
          cases h
          refine ⟨[], by simp, fun c i hs hget => ⟨[], by simp [Alone], ?_⟩⟩
          subst hs
          simp [set_of_getElem? hget]
  | succ n ih =>
      cases code with
      | nil =>
          cases h
          refine ⟨[], by simp, fun c i hs hget => ⟨[], by simp [Alone], ?_⟩⟩
          subst hs
          simp [set_of_getElem? hget]
      | cons op rest =>
          unfold runAlone at h
          cases hexec : M.exec s op (env op) with
          | none => simp [hexec] at h
          | some eff =>
              -- one step of the thread, then the schedule of what it leaves
              have hfirst : ∀ (c : Config S Op Err) (i : Nat), c.shared = s →
                  c.threads[i]? = some ⟨op :: rest, none⟩ →
                  (M.system s₀ main entry).step c (.step i (env op)) = some
                    ⟨eff.shared, c.threads.set i (M.resume rest eff) ++
                      eff.spawned.map .fresh⟩ := by
                intro c i hs hget
                subst hs
                exact stepThread_eq_some.2 ⟨op, rest, none, eff, hget, hexec, rfl⟩
              have hthen : ∀ code' new' (hcode : M.resume rest eff = ⟨code', none⟩),
                  (∀ (c : Config S Op Err) (i : Nat), c.shared = eff.shared →
                    c.threads[i]? = some ⟨code', none⟩ → ∃ ls, Alone env i ls ∧
                      (M.system s₀ main entry).run c ls = some
                        ⟨r.shared, c.threads.set i ⟨[], r.failure⟩ ++ new'.map .fresh⟩) →
                  ∀ (c : Config S Op Err) (i : Nat), c.shared = s →
                    c.threads[i]? = some ⟨op :: rest, none⟩ → ∃ ls, Alone env i ls ∧
                      (M.system s₀ main entry).run c ls = some ⟨r.shared,
                        c.threads.set i ⟨[], r.failure⟩ ++
                          (eff.spawned ++ new').map .fresh⟩ := by
                intro code' new' hcode hrec c i hs hget
                have hstep := hfirst c i hs hget
                rw [hcode] at hstep
                rcases hrec ⟨eff.shared, c.threads.set i ⟨code', none⟩ ++ eff.spawned.map .fresh⟩
                  i rfl (getElem?_set_append_self hget _ _) with ⟨ls, hls, hrun⟩
                refine ⟨.step i (env op) :: ls, ?_, ?_⟩
                · intro l hl
                  rcases List.mem_cons.1 hl with rfl | hl
                  · exact ⟨op, rfl⟩
                  · exact hls l hl
                · rw [TransitionSystem.run_cons, hstep, Option.bind_some, hrun,
                    set_append_set_append hget, List.map_append]
              cases eff with
              | next t push codes =>
                  simp only [hexec] at h
                  rcases ih h with ⟨new, hnew, hrec⟩
                  exact ⟨codes ++ new, by rw [hnew, List.append_assoc],
                    hthen (push ++ rest) new rfl hrec⟩
              | raise t e =>
                  simp only [hexec] at h
                  cases hunwind : M.unwind e rest with
                  | some code =>
                      simp only [hunwind] at h
                      rcases ih h with ⟨new, hnew, hrec⟩
                      exact ⟨new, hnew, hthen code new (by simp [resume, hunwind]) hrec⟩
                  | none =>
                      simp only [hunwind] at h
                      cases h
                      refine ⟨[], by simp, fun c i hs hget =>
                        ⟨[.step i (env op)], fun l hl => ⟨op, List.mem_singleton.1 hl⟩, ?_⟩⟩
                      rw [TransitionSystem.run_cons, hfirst c i hs hget]
                      simp [resume, hunwind, Effect.shared, Effect.spawned]

/-- A thread that runs alone to an ending is a schedule of its own steps. -/
theorem finishes_run {s₀ : S} {main : List (List Op)} {entry : Req → Option (List Op)}
    {c : Config S Op Err} {i : Nat} {code : List Op} {r : Ending S Op Err}
    (hget : c.threads[i]? = some ⟨code, none⟩) (h : M.Finishes env c.shared code [] r) :
    ∃ ls, Alone env i ls ∧ (M.system s₀ main entry).run c ls =
      some ⟨r.shared, c.threads.set i ⟨[], r.failure⟩ ++ r.spawned.map .fresh⟩ := by
  rcases h with ⟨n, hn⟩
  rcases runAlone_run s₀ main entry hn with ⟨new, hnew, hrun⟩
  rw [List.nil_append] at hnew
  rw [hnew]
  exact hrun c i rfl hget

/-! ## Threads one after the other -/

/-- Threads that run one after the other, those that they start at the end of the queue. -/
inductive FinishesAll (M : ThreadMachine S Op Err Out) (env : Op → Out) :
    S → List (List Op) → S → Prop
  | done (s : S) : FinishesAll M env s [] s
  | thread {s t : S} {code : List Op} {codes : List (List Op)} {r : Ending S Op Err} :
      M.Finishes env s code [] r → FinishesAll M env r.shared (codes ++ r.spawned) t →
        FinishesAll M env s (code :: codes) t

theorem FinishesAll.unique {s t t' : S} {codes : List (List Op)} (h : M.FinishesAll env s codes t)
    (h' : M.FinishesAll env s codes t') : t = t' := by
  induction h with
  | done s =>
      cases h'
      rfl
  | thread hfirst _ ih =>
      cases h' with
      | thread hfirst' hrest' =>
          obtain rfl := hfirst.unique hfirst'
          exact ih hrest'

/-- Running threads one after the other is a schedule of their steps. -/
theorem finishesAll_run {s₀ : S} {main : List (List Op)} {entry : Req → Option (List Op)}
    {s t : S} {codes : List (List Op)} (h : M.FinishesAll env s codes t)
    (before : List (Thread Op Err)) :
    ∃ (ls : List (Move Req Out)) (d : Config S Op Err),
      (∀ l ∈ ls, ∃ i op, before.length ≤ i ∧ l = .step i (env op)) ∧
        (M.system s₀ main entry).run ⟨s, before ++ codes.map .fresh⟩ ls = some d ∧
        d.shared = t := by
  induction h generalizing before with
  | done s => exact ⟨[], _, by simp, rfl, rfl⟩
  | @thread s t code codes r hfirst _ ih =>
      have hget : (before ++ (code :: codes).map Thread.fresh)[before.length]? =
          some (⟨code, none⟩ : Thread Op Err) := by
        simp [Thread.fresh]
      have hschedule : ∃ ls, Alone env before.length ls ∧ (M.system s₀ main entry).run
          ⟨s, before ++ (code :: codes).map .fresh⟩ ls = some _ :=
        finishes_run hget hfirst
      rcases hschedule with ⟨ls, halone, hrun⟩
      have hset : (before ++ (code :: codes).map Thread.fresh).set before.length ⟨[], r.failure⟩ ++
          r.spawned.map .fresh =
            (before ++ [⟨[], r.failure⟩]) ++ (codes ++ r.spawned).map .fresh := by
        simp
      rw [hset] at hrun
      rcases ih (before ++ [⟨[], r.failure⟩]) with ⟨ls', d, hothers, hrun', hd⟩
      refine ⟨ls ++ ls', d, ?_, ?_, hd⟩
      · intro l hl
        rcases List.mem_append.1 hl with hl | hl
        · rcases halone l hl with ⟨op, rfl⟩
          exact ⟨before.length, op, Nat.le_refl _, rfl⟩
        · rcases hothers l hl with ⟨i, op, hi, rfl⟩
          refine ⟨i, op, ?_, rfl⟩
          simp at hi
          omega
      · rw [TransitionSystem.run_append, hrun]
        exact hrun'

end ThreadMachine

end

end Library
end StrategyWorker
