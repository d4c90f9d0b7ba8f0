import Mathlib.Data.List.Basic
import Mathlib.Data.List.Forall2

/-!
# Computations that log what they do

A logged computation appends events to a log and returns or raises; what it
does next may depend on the log so far, through answers of its environment.
The log stays when an exception is raised and caught.

{lit}`Yields m P` says of {lit}`m` that from every log it ends in a result and
new events that satisfy {lit}`P`.  There is one rule for each construct:
sequence, exception handler, final clause, loop over a list, and a loop that is
followed for a number of rounds.

Main results:

- Theorem {lit}`Yields.bind`: a sequence, with the exception of its first part.
- Theorem {lit}`Yields.forEach`: a loop over a list, segment by segment.
- Theorem {lit}`Yields.rounds`: what holds of no events and is kept by a round
  holds of every number of rounds.
- Theorem {lit}`Yields.and`: a computation has one result.
-/

namespace StrategyWorker
namespace Library

/-- A computation over a log of events that returns or raises. -/
def Logged (E X α : Type) : Type :=
  List E → Except X α × List E

namespace Logged

variable {E X α β σ : Type}

instance : Monad (Logged E X) where
  pure a := fun log => (.ok a, log)
  bind m f := fun log =>
    match m log with
    | (.ok a, log') => f a log'
    | (.error x, log') => (.error x, log')

/-- Append an event. -/
def emit (e : E) : Logged E X Unit :=
  fun log => (.ok (), log ++ [e])

/-- {lit}`raise`. -/
def raise (x : X) : Logged E X α :=
  fun log => (.error x, log)

/-- An answer of the environment, which knows the log so far. -/
def ask (answer : List E → α) : Logged E X α :=
  fun log => (.ok (answer log), log)

/-- {lit}`try: m except: handler`; the handler may raise again. -/
def catchWith (m : Logged E X α) (handler : X → Logged E X α) : Logged E X α :=
  fun log =>
    match m log with
    | (.ok a, log') => (.ok a, log')
    | (.error x, log') => handler x log'

/-- {lit}`try: m finally: final`; an exception of the final clause replaces that of {lit}`m`. -/
def ensuring (m : Logged E X α) (final : Logged E X β) : Logged E X β :=
  fun log =>
    match m log with
    | (.ok _, log') => final log'
    | (.error x, log') =>
        match final log' with
        | (.ok _, log'') => (.error x, log'')
        | (.error y, log'') => (.error y, log'')

/-- A call of the environment: it is logged with its outcome, and may raise. -/
def attempt (outcome : List E → Option X) (event : Option X → E) : Logged E X Unit := do
  let raised ← ask outcome
  emit (event raised)
  match raised with
  | none => pure ()
  | some x => raise x

/-- {lit}`for x in xs: body(x)`. -/
def forEach (body : β → Logged E X Unit) : List β → Logged E X Unit
  | [] => pure ()
  | x :: xs => do
      body x
      forEach body xs

/-- A loop followed for a number of rounds: {lit}`some` state when it is still inside. -/
def rounds (body : σ → Logged E X (Option σ)) : Nat → σ → Logged E X (Option σ)
  | 0, s => pure (some s)
  | n + 1, s => do
      match ← body s with
      | none => pure none
      | some s' => rounds body n s'

/-! ## Rules -/

/-- From every log the computation ends in a result and new events that satisfy {lit}`P`. -/
def Yields (m : Logged E X α) (P : Except X α → List E → Prop) : Prop :=
  ∀ log, ∃ r new, m log = (r, log ++ new) ∧ P r new

variable {m : Logged E X α} {P Q : Except X α → List E → Prop}

theorem Yields.mono (h : Yields m P) (hPQ : ∀ r new, P r new → Q r new) : Yields m Q := by
  intro log
  rcases h log with ⟨r, new, heq, hP⟩
  exact ⟨r, new, heq, hPQ r new hP⟩

/-- A computation has one result. -/
theorem Yields.and (hP : Yields m P) (hQ : Yields m Q) :
    Yields m fun r new => P r new ∧ Q r new := by
  intro log
  rcases hP log with ⟨r, new, heq, hr⟩
  rcases hQ log with ⟨r', new', heq', hr'⟩
  rw [heq, Prod.mk.injEq, List.append_cancel_left_eq] at heq'
  rcases heq' with ⟨rfl, rfl⟩
  exact ⟨r, new, heq, hr, hr'⟩

theorem Yields.pure (a : α) : Yields (pure a : Logged E X α) fun r new => r = .ok a ∧ new = [] :=
  fun log => ⟨.ok a, [], by simp [Pure.pure], rfl, rfl⟩

theorem Yields.raise (x : X) :
    Yields (Logged.raise x : Logged E X α) fun r new => r = .error x ∧ new = [] :=
  fun log => ⟨.error x, [], by simp [Logged.raise], rfl, rfl⟩

theorem Yields.emit (e : E) :
    Yields (Logged.emit e : Logged E X Unit) fun r new => r = .ok () ∧ new = [e] :=
  fun _ => ⟨.ok (), [e], rfl, rfl, rfl⟩

theorem Yields.ask (answer : List E → α) :
    Yields (Logged.ask answer : Logged E X α) fun r new => (∃ log, r = .ok (answer log)) ∧ new = [] :=
  fun log => ⟨.ok (answer log), [], by simp [Logged.ask], ⟨log, rfl⟩, rfl⟩

/-- A sequence, with the exception of its first part. -/
theorem Yields.bind {f : α → Logged E X β} {R : Except X β → List E → Prop} (hm : Yields m P)
    (hok : ∀ a new, P (.ok a) new → Yields (f a) fun r new' => R r (new ++ new'))
    (herror : ∀ x new, P (.error x) new → R (.error x) new) : Yields (m >>= f) R := by
  intro log
  rcases hm log with ⟨r, new, heq, hP⟩
  cases r with
  | error x => exact ⟨.error x, new, by simp [Bind.bind, heq], herror x new hP⟩
  | ok a =>
      rcases hok a new hP (log ++ new) with ⟨r', new', heq', hR⟩
      exact ⟨r', new ++ new', by simp [Bind.bind, heq, heq'], hR⟩

/-- An event first, then the rest. -/
theorem Yields.after_emit {e : E} {next : Logged E X β} {R : Except X β → List E → Prop}
    (h : Yields next fun r new => R r (e :: new)) : Yields (do Logged.emit e; next) R := by
  refine (Yields.emit e).bind (fun _ new hnew => ?_) (fun x new hnew => by cases hnew.1)
  exact h.mono fun r new' hR => by rw [hnew.2]; exact hR

theorem Yields.catchWith {handler : X → Logged E X α} {R : Except X α → List E → Prop}
    (hm : Yields m P) (hok : ∀ a new, P (.ok a) new → R (.ok a) new)
    (herror : ∀ x new, P (.error x) new → Yields (handler x) fun r new' => R r (new ++ new')) :
    Yields (Logged.catchWith m handler) R := by
  intro log
  rcases hm log with ⟨r, new, heq, hP⟩
  cases r with
  | ok a => exact ⟨.ok a, new, by simp [Logged.catchWith, heq], hok a new hP⟩
  | error x =>
      rcases herror x new hP (log ++ new) with ⟨r', new', heq', hR⟩
      exact ⟨r', new ++ new', by simp [Logged.catchWith, heq, heq'], hR⟩

/-- A final clause that returns keeps the exception. -/
theorem Yields.ensuring {final : Logged E X β} {F : Except X β → List E → Prop}
    {R : Except X β → List E → Prop} (hm : Yields m P) (hfinal : Yields final F)
    (hok : ∀ a new r new', P (.ok a) new → F r new' → R r (new ++ new'))
    (herror : ∀ x new b new', P (.error x) new → F (.ok b) new' → R (.error x) (new ++ new'))
    (hboth : ∀ x new y new', P (.error x) new → F (.error y) new' → R (.error y) (new ++ new')) :
    Yields (Logged.ensuring m final) R := by
  intro log
  rcases hm log with ⟨r, new, heq, hP⟩
  rcases hfinal (log ++ new) with ⟨r', new', heq', hF⟩
  cases r with
  | ok a =>
      exact ⟨r', new ++ new', by simp [Logged.ensuring, heq, heq'], hok a new r' new' hP hF⟩
  | error x =>
      cases r' with
      | ok b =>
          exact ⟨.error x, new ++ new', by simp [Logged.ensuring, heq, heq'],
            herror x new b new' hP hF⟩
      | error y =>
          exact ⟨.error y, new ++ new', by simp [Logged.ensuring, heq, heq'],
            hboth x new y new' hP hF⟩

/-- A call of the environment logs its outcome and raises it. -/
theorem Yields.attempt (outcome : List E → Option X) (event : Option X → E) :
    Yields (Logged.attempt outcome event) fun r new =>
      ∃ log, new = [event (outcome log)] ∧ r = (outcome log).elim (.ok ()) .error := by
  intro log
  cases h : outcome log with
  | none =>
      refine ⟨.ok (), [event none], ?_, log, by rw [h], by rw [h]; rfl⟩
      simp [Logged.attempt, Bind.bind, Logged.ask, Logged.emit, h, Pure.pure]
  | some x =>
      refine ⟨.error x, [event (some x)], ?_, log, by rw [h], by rw [h]; rfl⟩
      simp [Logged.attempt, Bind.bind, Logged.ask, Logged.emit, h, Logged.raise]

/-- A loop over a list whose body returns: the new events are those of the elements, in order. -/
theorem Yields.forEach {body : β → Logged E X Unit} {S : β → List E → Prop} {xs : List β}
    (h : ∀ x ∈ xs, Yields (body x) fun r new => r = .ok () ∧ S x new) :
    Yields (Logged.forEach body xs) fun r new =>
      r = .ok () ∧ ∃ segments, List.Forall₂ S xs segments ∧ new = segments.flatten := by
  induction xs with
  | nil => exact (Yields.pure ()).mono fun r new hr => ⟨hr.1, [], .nil, by simp [hr.2]⟩
  | cons x xs ih =>
      refine (h x List.mem_cons_self).bind (fun _ new hnew => ?_) (fun x new hnew => by cases hnew.1)
      refine (ih fun y hy => h y (List.mem_cons_of_mem x hy)).mono fun r new' hr => ?_
      rcases hr with ⟨hok, segments, hsegments, rfl⟩
      exact ⟨hok, new :: segments, .cons hnew.2 hsegments, by simp⟩

/-- Loops inside a loop: the events are those of all inner elements, in order. -/
theorem Yields.forEach_forEach {γ : Type} {inner : γ → List β} {body : β → Logged E X Unit}
    {S : β → List E → Prop} {xs : List γ}
    (h : ∀ b ∈ xs.flatMap inner, Yields (body b) fun r new => r = .ok () ∧ S b new) :
    Yields (Logged.forEach (fun x => Logged.forEach body (inner x)) xs) fun r new =>
      r = .ok () ∧ ∃ segments,
        List.Forall₂ S (xs.flatMap inner) segments ∧ new = segments.flatten := by
  induction xs with
  | nil => exact (Yields.pure ()).mono fun r new hr => ⟨hr.1, [], .nil, by simp [hr.2]⟩
  | cons x xs ih =>
      rw [List.flatMap_cons] at h ⊢
      refine (Yields.forEach fun b hb => h b (List.mem_append_left _ hb)).bind
        (fun _ new hnew => ?_) (fun e new hnew => by cases hnew.1)
      rcases hnew with ⟨-, first, hfirst, rfl⟩
      refine (ih fun b hb => h b (List.mem_append_right _ hb)).mono fun r new hr => ?_
      rcases hr with ⟨hok, rest, hrest, rfl⟩
      exact ⟨hok, first ++ rest, List.rel_append hfirst hrest, by simp⟩

/-- What holds of no events and is kept by a round holds of every number of rounds.  The invariant
speaks of the rounds to go, the state, and what a run from there yields. -/
theorem Yields.rounds {body : σ → Logged E X (Option σ)}
    {R : Nat → σ → Except X (Option σ) → List E → Prop}
    {S : σ → Except X (Option σ) → List E → Prop}
    (hbody : ∀ s, Yields (body s) (S s))
    (hzero : ∀ s, R 0 s (.ok (some s)) [])
    (hleft : ∀ n s new, S s (.ok none) new → R (n + 1) s (.ok none) new)
    (herror : ∀ n s x new, S s (.error x) new → R (n + 1) s (.error x) new)
    (hagain : ∀ n s s' new r new', S s (.ok (some s')) new → R n s' r new' →
      R (n + 1) s r (new ++ new'))
    (n : Nat) (s : σ) : Yields (Logged.rounds body n s) (R n s) := by
  induction n generalizing s with
  | zero => exact (Yields.pure (some s)).mono fun r new h => h.1 ▸ h.2 ▸ hzero s
  | succ n ih =>
      refine (hbody s).bind (fun next new hnew => ?_) (fun x new hnew => herror n s x new hnew)
      cases next with
      | none =>
          refine (Yields.pure none).mono fun r new' h => ?_
          rw [h.1, h.2, List.append_nil]
          exact hleft n s new hnew
      | some s' => exact (ih s').mono fun r new' h => hagain n s s' new r new' hnew h

end Logged
end Library
end StrategyWorker
