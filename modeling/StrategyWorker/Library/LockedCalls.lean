import Mathlib.Algebra.Ring.Nat
import Mathlib.Data.List.Nodup
import Mathlib.Logic.Function.Basic
import StrategyWorker.Library.TransitionSystem

/-!
# Calls that share a lock

Callers make their calls one after the other.  A call first computes what it
needs, takes the lock, goes on step by step over the shared state, and releases
the lock with its result.  The steps of different callers interleave.

The history of a run holds the calls and their ends.  A run has the same effect
as the calls made one at a time, in the order in which they end, and this order
agrees with the history: a call that ended before another one began comes first.

Main results:

- Theorem {lit}`run_sound`: the shared state of a run is that of the calls one at
  a time, followed by what the holder of the lock has done so far.
- Theorem {lit}`run_ordered`: the calls end in an order that agrees with the
  history, each one once.
- Theorem {lit}`run_bounded`, theorem {lit}`exists_step`: every caller takes a
  bounded number of steps, and somebody can go on until all calls have ended.
-/

namespace StrategyWorker
namespace Library

/-- What a call computes before it takes the lock, and its steps while it holds it. -/
structure LockedCalls (S Job W R Out : Type) where
  prepare : Job → Except R W
  step : S → W → Out → Option (S × (W ⊕ R))

/-- A call: its caller, and the number of calls this caller made before. -/
structure CallId where
  caller : Nat
  index : Nat
  deriving DecidableEq

/-- Where a caller is. -/
inductive Position (Job W : Type) where
  | idle
  | called (job : Job)
  | waiting (job : Job) (work : W)
  | inside (job : Job) (work : W)

/-- A caller, the number of its calls that have ended, and its further calls. -/
structure Caller (Job W : Type) where
  position : Position Job W
  ended : Nat
  todo : List Job

/-- The call that a caller is making. -/
def Caller.current {Job W : Type} (caller : Caller Job W) : Option Job :=
  match caller.position with
  | .idle => none
  | .called job | .waiting job _ | .inside job _ => some job

/-- A call that has ended. -/
structure Finished (Job R : Type) where
  id : CallId
  job : Job
  result : R

inductive CallEvent (Job R : Type) where
  | called (id : CallId) (job : Job)
  | ended (call : Finished Job R)

/-- The shared state with the holder of its lock, the callers and the history. -/
structure LockedConfig (S Job W R : Type) where
  shared : S
  holder : Option Nat
  callers : Nat → Caller Job W
  history : List (CallEvent Job R)

/-- The end of a call. -/
def CallEvent.finished? {Job R : Type} : CallEvent Job R → Option (Finished Job R)
  | .called _ _ => none
  | .ended call => some call

/-- The calls of a history that have ended. -/
def finishedCalls {Job R : Type} (history : List (CallEvent Job R)) : List (Finished Job R) :=
  history.filterMap CallEvent.finished?

/-- A call ended before another one began. -/
def Precedes {Job R : Type} (history : List (CallEvent Job R)) (a b : CallId) : Prop :=
  ∃ before after, history = before ++ after ∧ (∃ call ∈ finishedCalls before, call.id = a) ∧
    ∃ job, .called b job ∈ after

section

variable {S Job W R Out : Type}

namespace LockedConfig

/-- Caller {lit}`i` goes to a position. -/
def place (c : LockedConfig S Job W R) (i : Nat) (position : Position Job W) :
    LockedConfig S Job W R :=
  { c with callers := Function.update c.callers i { c.callers i with position } }

/-- Caller {lit}`i` makes its next call. -/
def begin (c : LockedConfig S Job W R) (i : Nat) (job : Job) (todo : List Job) :
    LockedConfig S Job W R :=
  { c with
    callers := Function.update c.callers i ⟨.called job, (c.callers i).ended, todo⟩
    history := c.history ++ [.called ⟨i, (c.callers i).ended⟩ job] }

/-- Caller {lit}`i` takes the lock. -/
def enter (c : LockedConfig S Job W R) (i : Nat) (job : Job) (work : W) :
    LockedConfig S Job W R :=
  { c.place i (.inside job work) with holder := some i }

/-- The call of caller {lit}`i` ends. -/
def finish (c : LockedConfig S Job W R) (i : Nat) (job : Job) (result : R) :
    LockedConfig S Job W R :=
  { c with
    callers := Function.update c.callers i
      ⟨.idle, (c.callers i).ended + 1, (c.callers i).todo⟩
    history := c.history ++ [.ended ⟨⟨i, (c.callers i).ended⟩, job, result⟩] }

end LockedConfig

namespace LockedCalls

variable (G : LockedCalls S Job W R Out)

/-- The holder of the lock goes on, or releases it. -/
def proceed (c : LockedConfig S Job W R) (i : Nat) (job : Job) (s : S) :
    W ⊕ R → LockedConfig S Job W R
  | .inl work => { c.place i (.inside job work) with shared := s }
  | .inr result => { c.finish i job result with shared := s, holder := none }

/-- A step of caller {lit}`i`. -/
def stepCaller (c : LockedConfig S Job W R) (i : Nat) (out : Out) :
    Option (LockedConfig S Job W R) :=
  match (c.callers i).position with
  | .idle =>
      match (c.callers i).todo with
      | [] => none
      | job :: todo => some (c.begin i job todo)
  | .called job =>
      match G.prepare job with
      | .error result => some (c.finish i job result)
      | .ok work => some (c.place i (.waiting job work))
  | .waiting job work =>
      if c.holder = none then some (c.enter i job work) else none
  | .inside job work =>
      (G.step c.shared work out).map fun next => proceed c i job next.1 next.2

/-- The interleavings of callers that make the calls of their programs. -/
def system (s : S) (programs : Nat → List Job) :
    TransitionSystem (LockedConfig S Job W R) (Nat × Out) where
  init := ⟨s, none, fun i => ⟨.idle, 0, programs i⟩, []⟩
  step c l := G.stepCaller c l.1 l.2

/-! ## One call alone -/

/-- Steps of one call with nothing in between. -/
inductive Alone : S → W → S → W → Prop where
  | refl (s : S) (work : W) : Alone s work s work
  | tail {s s₁ s₂ : S} {work work₁ work₂ : W} {out : Out} : Alone s work s₁ work₁ →
      G.step s₁ work₁ out = some (s₂, .inl work₂) → Alone s work s₂ work₂

/-- A call that runs alone until it has its result. -/
def Completes (s : S) (work : W) (s' : S) (result : R) : Prop :=
  ∃ s₁ work₁ out, G.Alone s work s₁ work₁ ∧ G.step s₁ work₁ out = some (s', .inr result)

/-- Calls that took the lock, one after the other. -/
inductive Serial (s : S) : List (Finished Job R) → S → Prop where
  | nil : Serial s [] s
  | concat {calls : List (Finished Job R)} {m m' : S} {call : Finished Job R} {work : W} :
      Serial s calls m → G.prepare call.job = .ok work → G.Completes m work m' call.result →
        Serial s (calls ++ [call]) m'

/-- What every step of a call keeps holds while it runs alone. -/
theorem Alone.invariant {G : LockedCalls S Job W R Out} {s s' : S} {work work' : W}
    (P : S → W → Prop)
    (hstep : ∀ s work out s' work', P s work → G.step s work out = some (s', .inl work') →
      P s' work') (h : G.Alone s work s' work') (hstart : P s work) : P s' work' := by
  induction h with
  | refl => exact hstart
  | tail _ hlast ih => exact hstep _ _ _ _ _ (ih hstart) hlast

/-- The call took the lock: it could compute what it needs. -/
def prepared (call : Finished Job R) : Bool :=
  (G.prepare call.job).isOk

/-- The calls that took the lock, in the order in which they ended. -/
def served (c : LockedConfig S Job W R) : List (Finished Job R) :=
  (finishedCalls c.history).filter G.prepared

/-! ## Steps -/

variable {G} {c d : LockedConfig S Job W R} {i : Nat} {out : Out}

/-- The five kinds of steps. -/
theorem stepCaller_cases (h : G.stepCaller c i out = some d) :
    (∃ job todo, (c.callers i).position = .idle ∧ (c.callers i).todo = job :: todo ∧
      d = c.begin i job todo) ∨
    (∃ job result, (c.callers i).position = .called job ∧ G.prepare job = .error result ∧
      d = c.finish i job result) ∨
    (∃ job work, (c.callers i).position = .called job ∧ G.prepare job = .ok work ∧
      d = c.place i (.waiting job work)) ∨
    (∃ job work, (c.callers i).position = .waiting job work ∧ c.holder = none ∧
      d = c.enter i job work) ∨
    (∃ job work s next, (c.callers i).position = .inside job work ∧
      G.step c.shared work out = some (s, next) ∧ d = proceed c i job s next) := by
  unfold stepCaller at h
  cases hposition : (c.callers i).position with
  | idle =>
      cases htodo : (c.callers i).todo with
      | nil => simp [hposition, htodo] at h
      | cons job todo =>
          simp only [hposition, htodo, Option.some.injEq] at h
          exact .inl ⟨job, todo, rfl, rfl, h.symm⟩
  | called job =>
      cases hprepare : G.prepare job with
      | error result =>
          simp only [hposition, hprepare, Option.some.injEq] at h
          exact .inr (.inl ⟨job, result, rfl, hprepare, h.symm⟩)
      | ok work =>
          simp only [hposition, hprepare, Option.some.injEq] at h
          exact .inr (.inr (.inl ⟨job, work, rfl, hprepare, h.symm⟩))
  | waiting job work =>
      by_cases hholder : c.holder = none
      · simp only [hposition, if_pos hholder, Option.some.injEq] at h
        exact .inr (.inr (.inr (.inl ⟨job, work, rfl, hholder, h.symm⟩)))
      · simp [hposition, hholder] at h
  | inside job work =>
      simp only [hposition, Option.map_eq_some_iff] at h
      rcases h with ⟨⟨s, next⟩, hnext, rfl⟩
      exact .inr (.inr (.inr (.inr ⟨job, work, s, next, rfl, hnext, rfl⟩)))

@[simp]
theorem callers_place (position : Position Job W) :
    (c.place i position).callers = Function.update c.callers i { c.callers i with position } :=
  rfl

@[simp]
theorem callers_enter (job : Job) (work : W) : (c.enter i job work).callers =
    Function.update c.callers i { c.callers i with position := .inside job work } :=
  rfl

theorem finishedCalls_called (history : List (CallEvent Job R)) (id : CallId) (job : Job) :
    finishedCalls (history ++ [.called id job]) = finishedCalls history := by
  simp [finishedCalls, CallEvent.finished?]

theorem finishedCalls_ended (history : List (CallEvent Job R)) (call : Finished Job R) :
    finishedCalls (history ++ [.ended call]) = finishedCalls history ++ [call] := by
  simp [finishedCalls, CallEvent.finished?]

/-! ## The shared state -/

/-- The shared state is that of the calls one at a time, and then what the holder of the lock, who
alone is inside, has done so far. -/
structure Sound (G : LockedCalls S Job W R Out) (s : S) (c : LockedConfig S Job W R) : Prop where
  serial : ∃ m, G.Serial s (G.served c) m ∧
    (c.holder = none → c.shared = m) ∧
    ∀ i, c.holder = some i → ∃ job start work, (c.callers i).position = .inside job work ∧
      G.prepare job = .ok start ∧ G.Alone m start c.shared work
  exclusive : ∀ i job work, (c.callers i).position = .inside job work → c.holder = some i
  waiting : ∀ i job work, (c.callers i).position = .waiting job work → G.prepare job = .ok work

theorem served_begin (job : Job) (todo : List Job) : G.served (c.begin i job todo) = G.served c := by
  simp [served, LockedConfig.begin, finishedCalls_called]

theorem served_finish (job : Job) (result : R) : G.served (c.finish i job result) =
    G.served c ++ if (G.prepare job).isOk then [⟨⟨i, (c.callers i).ended⟩, job, result⟩] else [] := by
  cases hok : (G.prepare job).isOk <;>
    simp [served, LockedConfig.finish, finishedCalls_ended, prepared, hok]

/-- A caller that is not inside goes somewhere else than inside. -/
theorem Sound.moved {s : S} (h : G.Sound s c) {caller : Caller Job W}
    (hbefore : ∀ job work, (c.callers i).position ≠ .inside job work)
    (hafter : ∀ job work, caller.position ≠ .inside job work)
    (hwaiting : ∀ job work, caller.position = .waiting job work → G.prepare job = .ok work)
    (hshared : d.shared = c.shared) (hholder : d.holder = c.holder)
    (hcallers : d.callers = Function.update c.callers i caller)
    (hserved : G.served d = G.served c) : G.Sound s d := by
  have hothers : ∀ j ≠ i, d.callers j = c.callers j := by
    intro j hj
    rw [hcallers, Function.update_of_ne hj]
  have hself : d.callers i = caller := by
    rw [hcallers, Function.update_self]
  constructor
  · rcases h.serial with ⟨m, hserial, hfree, hheld⟩
    refine ⟨m, by rwa [hserved], fun hnone => ?_, fun j hj => ?_⟩
    · rw [hshared]
      exact hfree (by rwa [← hholder])
    · rcases hheld j (by rwa [← hholder]) with ⟨job, start, work, hinside, hprepare, halone⟩
      have hne : j ≠ i := by
        rintro rfl
        exact hbefore job work hinside
      exact ⟨job, start, work, by rw [hothers j hne]; exact hinside, hprepare, by rwa [hshared]⟩
  · intro j job work hinside
    by_cases hne : j = i
    · rw [hne, hself] at hinside
      exact absurd hinside (hafter job work)
    · rw [hothers j hne] at hinside
      rw [hholder]
      exact h.exclusive j job work hinside
  · intro j job work hposition
    by_cases hne : j = i
    · rw [hne, hself] at hposition
      exact hwaiting job work hposition
    · rw [hothers j hne] at hposition
      exact h.waiting j job work hposition

/-- A caller takes the lock. -/
theorem Sound.entered {s : S} (h : G.Sound s c) {job : Job} {work : W}
    (hposition : (c.callers i).position = .waiting job work) (hfree : c.holder = none) :
    G.Sound s (c.enter i job work) := by
  have hnobody : ∀ j job work, (c.callers j).position ≠ .inside job work := by
    intro j job work hinside
    have hholder := h.exclusive j job work hinside
    rw [hfree] at hholder
    cases hholder
  constructor
  · rcases h.serial with ⟨m, hserial, hshared, -⟩
    refine ⟨m, hserial, fun hnone => absurd hnone (by simp [LockedConfig.enter]), ?_⟩
    intro j hj
    obtain rfl : i = j := Option.some.inj hj
    refine ⟨job, work, work, by simp, h.waiting i job work hposition, ?_⟩
    have hm : (c.enter i job work).shared = m := hshared hfree
    rw [hm]
    exact .refl m work
  · intro j job' work' hinside
    by_cases hne : j = i
    · rw [hne]
      rfl
    · simp only [callers_enter, Function.update_of_ne hne] at hinside
      exact absurd hinside (hnobody j job' work')
  · intro j job' work' hwaits
    by_cases hne : j = i
    · simp [hne] at hwaits
    · simp only [callers_enter, Function.update_of_ne hne] at hwaits
      exact h.waiting j job' work' hwaits

/-- The holder of the lock takes a step. -/
theorem Sound.proceeded {s t : S} (h : G.Sound s c) {job : Job} {work : W} {next : W ⊕ R}
    (hposition : (c.callers i).position = .inside job work)
    (hstep : G.step c.shared work out = some (t, next)) : G.Sound s (proceed c i job t next) := by
  have hholder := h.exclusive i job work hposition
  have hothers : ∀ j ≠ i, ∀ job work, (c.callers j).position ≠ .inside job work := by
    intro j hne job work hinside
    have hj := h.exclusive j job work hinside
    rw [hholder] at hj
    exact hne (Option.some.inj hj).symm
  rcases h.serial with ⟨m, hserial, -, hheld⟩
  rcases hheld i hholder with ⟨job', start, work', hinside, hprepare, halone⟩
  rw [hposition] at hinside
  obtain ⟨rfl, rfl⟩ : job = job' ∧ work = work' := by simpa using hinside
  cases next with
  | inl work₂ =>
      constructor
      · refine ⟨m, hserial, fun hnone => ?_, fun j hj => ?_⟩
        · exact absurd (hholder.symm.trans hnone) (by simp)
        · obtain rfl : i = j := Option.some.inj (hholder.symm.trans hj)
          exact ⟨job, start, work₂, by simp [proceed], hprepare, halone.tail hstep⟩
      · intro j job' work' hposition'
        by_cases hne : j = i
        · rw [hne]
          exact hholder
        · simp only [proceed, callers_place, Function.update_of_ne hne] at hposition'
          exact absurd hposition' (hothers j hne job' work')
      · intro j job' work' hwaits
        by_cases hne : j = i
        · simp [hne, proceed] at hwaits
        · simp only [proceed, callers_place, Function.update_of_ne hne] at hwaits
          exact h.waiting j job' work' hwaits
  | inr result =>
      have hserved : G.served (proceed c i job t (.inr result)) =
          G.served c ++ [⟨⟨i, (c.callers i).ended⟩, job, result⟩] := by
        have hok : (G.prepare job).isOk = true := by rw [hprepare]; rfl
        have hfinish := served_finish (G := G) (c := c) (i := i) job result
        rw [if_pos hok] at hfinish
        exact hfinish
      constructor
      · refine ⟨t, ?_, fun _ => rfl, fun j hj => by cases hj⟩
        rw [hserved]
        exact hserial.concat hprepare ⟨_, _, _, halone, hstep⟩
      · intro j job' work' hposition'
        by_cases hne : j = i
        · simp [hne, proceed, LockedConfig.finish] at hposition'
        · simp only [proceed, LockedConfig.finish, Function.update_of_ne hne] at hposition'
          exact absurd hposition' (hothers j hne job' work')
      · intro j job' work' hwaits
        by_cases hne : j = i
        · simp [hne, proceed, LockedConfig.finish] at hwaits
        · simp only [proceed, LockedConfig.finish, Function.update_of_ne hne] at hwaits
          exact h.waiting j job' work' hwaits

theorem Sound.step {s : S} (h : G.Sound s c) (hstep : G.stepCaller c i out = some d) :
    G.Sound s d := by
  rcases stepCaller_cases hstep with ⟨job, todo, hposition, -, rfl⟩ |
    ⟨job, result, hposition, hprepare, rfl⟩ | ⟨job, work, hposition, hprepare, rfl⟩ |
      ⟨job, work, hposition, hholder, rfl⟩ | ⟨job, work, t, next, hposition, hnext, rfl⟩
  · exact h.moved (by simp [hposition]) (by simp) (by simp) rfl rfl rfl (served_begin job todo)
  · refine h.moved (by simp [hposition]) (by simp) (by simp) rfl rfl rfl ?_
    rw [served_finish, hprepare]
    exact List.append_nil _
  · refine h.moved (by simp [hposition]) (by simp) ?_ rfl rfl rfl rfl
    intro job' work' hwaits
    obtain ⟨rfl, rfl⟩ : job = job' ∧ work = work' := by simpa using hwaits
    exact hprepare
  · exact h.entered hposition hholder
  · exact h.proceeded hposition hnext

/-- The shared state of a run is that of its calls one at a time. -/
theorem run_sound {s : S} {programs : Nat → List Job} {ls : List (Nat × Out)}
    (hrun : (G.system s programs).run (G.system s programs).init ls = some c) : G.Sound s c := by
  refine TransitionSystem.run_invariant' (M := G.system s programs) (G.Sound s) ?_ ?_ hrun
  · intro c l d hc hstep
    exact hc.step hstep
  · refine ⟨⟨s, .nil, fun _ => rfl, fun i hi => by cases hi⟩, ?_, ?_⟩
    · intro i job work hinside
      cases hinside
    · intro i job work hwaiting
      cases hwaiting

/-! ## The history -/

theorem split_concat {α : Type} {l before after : List α} {a : α}
    (h : l ++ [a] = before ++ after) :
    (after = [] ∧ before = l ++ [a]) ∨ ∃ after', after = after' ++ [a] ∧ l = before ++ after' := by
  rcases List.eq_nil_or_concat after with rfl | ⟨after', b, rfl⟩
  · exact .inl ⟨rfl, by simpa using h.symm⟩
  · rw [List.concat_eq_append, ← List.append_assoc] at h
    rcases List.append_inj' h rfl with ⟨hl, ha⟩
    obtain rfl : a = b := by simpa using ha
    exact .inr ⟨after', List.concat_eq_append, hl⟩

theorem finishedCalls_append (before after : List (CallEvent Job R)) :
    finishedCalls (before ++ after) = finishedCalls before ++ finishedCalls after :=
  List.filterMap_append

/-- A call that precedes another one has ended. -/
theorem exists_of_precedes {history : List (CallEvent Job R)} {a b : CallId}
    (h : Precedes history a b) : ∃ call ∈ finishedCalls history, call.id = a := by
  rcases h with ⟨before, after, rfl, ⟨call, hcall, hid⟩, -⟩
  rw [finishedCalls_append]
  exact ⟨call, List.mem_append_left _ hcall, hid⟩

theorem precedes_of_ended {history : List (CallEvent Job R)} {call : Finished Job R} {a b : CallId}
    (h : Precedes (history ++ [.ended call]) a b) : Precedes history a b := by
  rcases h with ⟨before, after, heq, hended, job, hcalled⟩
  rcases split_concat heq with ⟨rfl, -⟩ | ⟨after', rfl, rfl⟩
  · cases hcalled
  · refine ⟨before, after', rfl, hended, job, ?_⟩
    simpa using hcalled

theorem precedes_of_called {history : List (CallEvent Job R)} {id a b : CallId} {job : Job}
    (h : Precedes (history ++ [.called id job]) a b) : Precedes history a b ∨ b = id := by
  rcases h with ⟨before, after, heq, hended, job', hcalled⟩
  rcases split_concat heq with ⟨rfl, -⟩ | ⟨after', rfl, rfl⟩
  · cases hcalled
  · rcases List.mem_append.1 hcalled with hcalled | hcalled
    · exact .inl ⟨before, after', rfl, hended, job', hcalled⟩
    · simp only [List.mem_singleton, CallEvent.called.injEq] at hcalled
      exact .inr hcalled.1

/-- The history holds the end of each call that ended, once and in an order that agrees with it;
a caller makes the calls of its program in turn. -/
structure Ordered (G : LockedCalls S Job W R Out) (programs : Nat → List Job)
    (c : LockedConfig S Job W R) : Prop where
  program : ∀ i, (programs i).drop (c.callers i).ended =
    (c.callers i).current.toList ++ (c.callers i).todo
  complete : ∀ i k, k < (c.callers i).ended → ∃ call ∈ finishedCalls c.history, call.id = ⟨i, k⟩
  ended : ∀ call ∈ finishedCalls c.history, call.id.index < (c.callers call.id.caller).ended ∧
    (programs call.id.caller)[call.id.index]? = some call.job
  unprepared : ∀ call ∈ finishedCalls c.history, ∀ result,
    G.prepare call.job = .error result → call.result = result
  inTurn : (finishedCalls c.history).Pairwise fun a b =>
    a.id.caller = b.id.caller → a.id.index < b.id.index
  inTime : (finishedCalls c.history).Pairwise fun a b => ¬ Precedes c.history b.id a.id

variable {programs : Nat → List Job}

/-- Every call that ended did so once. -/
theorem Ordered.nodup (h : Ordered G programs c) :
    ((finishedCalls c.history).map Finished.id).Nodup := by
  rw [List.Nodup, List.pairwise_map]
  refine h.inTurn.imp ?_
  intro a b hlt heq
  have hindex := hlt (congrArg CallId.caller heq)
  rw [heq] at hindex
  exact Nat.lt_irrefl _ hindex

/-- A caller that goes on with its call. -/
theorem Ordered.moved (h : Ordered G programs c)
    (hcurrent : ∀ j, (d.callers j).current = (c.callers j).current)
    (hended : ∀ j, (d.callers j).ended = (c.callers j).ended)
    (htodo : ∀ j, (d.callers j).todo = (c.callers j).todo) (hhistory : d.history = c.history) :
    Ordered G programs d := by
  constructor
  · intro j
    rw [hcurrent, hended, htodo]
    exact h.program j
  · intro j k hk
    rw [hhistory]
    exact h.complete j k (by rwa [← hended j])
  · intro call hcall
    rw [hended]
    exact h.ended call (by rwa [← hhistory])
  · intro call hcall
    exact h.unprepared call (by rwa [← hhistory])
  · rw [hhistory]
    exact h.inTurn
  · rw [hhistory]
    exact h.inTime

/-- A caller that makes its next call. -/
theorem Ordered.began (h : Ordered G programs c) {job : Job} {todo : List Job}
    (hposition : (c.callers i).position = .idle) (htodo : (c.callers i).todo = job :: todo) :
    Ordered G programs (c.begin i job todo) := by
  have hfinished : finishedCalls (c.begin i job todo).history = finishedCalls c.history :=
    finishedCalls_called ..
  have hended : ∀ j, ((c.begin i job todo).callers j).ended = (c.callers j).ended := by
    intro j
    by_cases hne : j = i
    · simp [LockedConfig.begin, hne]
    · simp [LockedConfig.begin, Function.update_of_ne hne]
  constructor
  · intro j
    have hprogram := h.program j
    rw [hended]
    by_cases hne : j = i
    · subst hne
      have hcurrent : (c.callers j).current = none := by simp [Caller.current, hposition]
      rw [hprogram, hcurrent, htodo]
      simp [LockedConfig.begin, Caller.current]
    · simpa [LockedConfig.begin, Function.update_of_ne hne] using hprogram
  · intro j k hk
    rw [hfinished]
    exact h.complete j k (by rwa [← hended j])
  · intro call hcall
    rw [hended]
    exact h.ended call (by rwa [← hfinished])
  · intro call hcall
    exact h.unprepared call (by rwa [← hfinished])
  · rw [hfinished]
    exact h.inTurn
  · rw [hfinished]
    refine h.inTime.imp_of_mem ?_
    intro a b ha hb hnot hprecedes
    rcases precedes_of_called hprecedes with hprecedes | hid
    · exact hnot hprecedes
    · have hlt := (h.ended a ha).1
      rw [hid] at hlt
      exact Nat.lt_irrefl _ hlt

/-- A caller whose call ends. -/
theorem Ordered.finished (h : Ordered G programs c) {job : Job} {result : R}
    (hcurrent : (c.callers i).current = some job)
    (hresult : ∀ r, G.prepare job = .error r → result = r) :
    Ordered G programs (c.finish i job result) := by
  have hfinished : finishedCalls (c.finish i job result).history =
      finishedCalls c.history ++ [⟨⟨i, (c.callers i).ended⟩, job, result⟩] :=
    finishedCalls_ended ..
  have hothers : ∀ j ≠ i, (c.finish i job result).callers j = c.callers j := by
    intro j hj
    exact Function.update_of_ne hj ..
  have hself : ((c.finish i job result).callers i).ended = (c.callers i).ended + 1 := by
    simp [LockedConfig.finish]
  have hprogram := h.program i
  rw [hcurrent] at hprogram
  constructor
  · intro j
    by_cases hne : j = i
    · subst hne
      rw [hself, ← List.drop_drop, hprogram]
      simp [LockedConfig.finish, Caller.current]
    · rw [hothers j hne]
      exact h.program j
  · intro j k hk
    rw [hfinished]
    by_cases hlast : j = i ∧ k = (c.callers i).ended
    · rcases hlast with ⟨rfl, rfl⟩
      exact ⟨_, List.mem_append_right _ (List.mem_singleton_self _), rfl⟩
    · have hk : k < (c.callers j).ended := by
        by_cases hne : j = i
        · subst hne
          have hnot : k ≠ (c.callers j).ended := fun heq => hlast ⟨rfl, heq⟩
          omega
        · rwa [hothers j hne] at hk
      rcases h.complete j k hk with ⟨call, hcall, hid⟩
      exact ⟨call, List.mem_append_left _ hcall, hid⟩
  · intro call hcall
    rw [hfinished, List.mem_append, List.mem_singleton] at hcall
    rcases hcall with hcall | rfl
    · rcases h.ended call hcall with ⟨hlt, hjob⟩
      refine ⟨?_, hjob⟩
      by_cases hne : call.id.caller = i
      · rw [hne, hself]
        rw [hne] at hlt
        omega
      · rwa [hothers _ hne]
    · refine ⟨?_, ?_⟩
      · dsimp only
        rw [hself]
        exact Nat.lt_succ_self _
      · have hhead : ((programs i).drop (c.callers i).ended)[0]? = some job := by
          rw [hprogram]
          rfl
        rwa [List.getElem?_drop, Nat.add_zero] at hhead
  · intro call hcall
    rw [hfinished, List.mem_append, List.mem_singleton] at hcall
    rcases hcall with hcall | rfl
    · exact h.unprepared call hcall
    · exact hresult
  · rw [hfinished, List.pairwise_append]
    refine ⟨h.inTurn, List.pairwise_singleton _ _, ?_⟩
    intro a ha b hb hcaller
    obtain rfl := List.mem_singleton.1 hb
    have hlt := (h.ended a ha).1
    rwa [hcaller] at hlt
  · rw [hfinished, List.pairwise_append]
    refine ⟨?_, List.pairwise_singleton _ _, ?_⟩
    · exact h.inTime.imp fun hnot hprecedes => hnot (precedes_of_ended hprecedes)
    · intro a ha b hb hprecedes
      obtain rfl := List.mem_singleton.1 hb
      rcases exists_of_precedes (precedes_of_ended hprecedes) with ⟨call, hcall, hid⟩
      have hlt := (h.ended call hcall).1
      rw [hid] at hlt
      exact Nat.lt_irrefl _ hlt

theorem current_update {caller : Caller Job W} (hcurrent : caller.current = (c.callers i).current)
    (j : Nat) : (Function.update c.callers i caller j).current = (c.callers j).current := by
  by_cases hne : j = i
  · rw [hne, Function.update_self, hcurrent]
  · rw [Function.update_of_ne hne]

/-- A caller that goes to a position of the same call. -/
theorem Ordered.placed (h : Ordered G programs c) {position : Position Job W} {s : S}
    {holder : Option Nat}
    (hcurrent : Caller.current { c.callers i with position } = (c.callers i).current) :
    Ordered G programs { c.place i position with shared := s, holder := holder } := by
  refine h.moved (current_update hcurrent) ?_ ?_ rfl
  · intro j
    by_cases hne : j = i
    · simp [hne]
    · simp [Function.update_of_ne hne]
  · intro j
    by_cases hne : j = i
    · simp [hne]
    · simp [Function.update_of_ne hne]

theorem Ordered.step (h : Ordered G programs c) (hsound : ∀ i job work,
    (c.callers i).position = .inside job work → ∃ start, G.prepare job = .ok start)
    (hstep : G.stepCaller c i out = some d) : Ordered G programs d := by
  rcases stepCaller_cases hstep with ⟨job, todo, hposition, htodo, rfl⟩ |
    ⟨job, result, hposition, hprepare, rfl⟩ | ⟨job, work, hposition, hprepare, rfl⟩ |
      ⟨job, work, hposition, hholder, rfl⟩ | ⟨job, work, t, next, hposition, hnext, rfl⟩
  · exact h.began hposition htodo
  · refine h.finished (by simp [Caller.current, hposition]) ?_
    intro r hr
    exact Except.error.inj (hprepare.symm.trans hr)
  · exact h.placed (by simp [Caller.current, hposition])
  · exact h.placed (by simp [Caller.current, hposition])
  · cases next with
    | inl work₂ => exact h.placed (by simp [Caller.current, hposition])
    | inr result =>
        have hfinished : Ordered G programs (c.finish i job result) := by
          refine h.finished (by simp [Caller.current, hposition]) ?_
          intro r hr
          rcases hsound i job work hposition with ⟨start, hstart⟩
          rw [hstart] at hr
          cases hr
        exact hfinished.moved (fun _ => rfl) (fun _ => rfl) (fun _ => rfl) rfl

/-- The calls of a run end in an order that agrees with its history. -/
theorem run_ordered {s : S} {ls : List (Nat × Out)}
    (hrun : (G.system s programs).run (G.system s programs).init ls = some c) :
    G.Ordered programs c := by
  have hboth : G.Sound s c ∧ G.Ordered programs c := by
    refine TransitionSystem.run_invariant' (M := G.system s programs)
      (fun c => G.Sound s c ∧ G.Ordered programs c) ?_ ?_ hrun
    · rintro c l d ⟨hsound, hordered⟩ hstep
      refine ⟨hsound.step hstep, hordered.step ?_ hstep⟩
      intro i job work hinside
      rcases hsound.serial with ⟨m, -, -, hheld⟩
      rcases hheld i (hsound.exclusive i job work hinside) with ⟨job', start, work', h, hstart, -⟩
      rw [hinside] at h
      obtain ⟨rfl, -⟩ : job = job' ∧ work = work' := by simpa using h
      exact ⟨start, hstart⟩
    · have hinit : (G.system s programs).run (G.system s programs).init [] =
          some (G.system s programs).init := rfl
      refine ⟨run_sound hinit, ?_⟩
      constructor <;> simp [system, Caller.current, finishedCalls]
  exact hboth.2

/-! ## Ends of runs -/

/-- A weight that every step of a call lowers. -/
structure Measure (G : LockedCalls S Job W R Out) where
  weight : W → Nat
  cost : Job → Nat
  prepared_le : ∀ job work, G.prepare job = .ok work → weight work ≤ cost job
  step_lt : ∀ s work out s' work', G.step s work out = some (s', .inl work') →
    weight work' < weight work

namespace Measure

variable (m : Measure G)

/-- The steps that a call can still take. -/
def remaining : Position Job W → Nat
  | .idle => 0
  | .called job => m.cost job + 3
  | .waiting _ work => m.weight work + 2
  | .inside _ work => m.weight work + 1

/-- The steps that the calls of a program can take. -/
def total (program : List Job) : Nat :=
  (program.map fun job => m.cost job + 4).sum

/-- The steps that a caller can still take. -/
def budget (caller : Caller Job W) : Nat :=
  m.remaining caller.position + m.total caller.todo

/-- A step lowers the budget of its caller and leaves the others alone. -/
theorem budget_step (hstep : G.stepCaller c i out = some d) (j : Nat) :
    m.budget (d.callers j) + (if i = j then 1 else 0) ≤ m.budget (c.callers j) := by
  by_cases hne : j = i
  · subst hne
    rw [if_pos rfl]
    rcases stepCaller_cases hstep with ⟨job, todo, hposition, htodo, rfl⟩ |
      ⟨job, result, hposition, hprepare, rfl⟩ | ⟨job, work, hposition, hprepare, rfl⟩ |
        ⟨job, work, hposition, hholder, rfl⟩ | ⟨job, work, t, next, hposition, hnext, rfl⟩
    · simp only [LockedConfig.begin, Function.update_self, budget, remaining, total, hposition,
        htodo, List.map_cons, List.sum_cons]
      omega
    · simp only [LockedConfig.finish, Function.update_self, budget, remaining, hposition]
      omega
    · have hle := m.prepared_le job work hprepare
      simp only [callers_place, Function.update_self, budget, remaining, hposition]
      omega
    · simp only [callers_enter, Function.update_self, budget, remaining, hposition]
      omega
    · cases next with
      | inl work₂ =>
          have hlt := m.step_lt _ _ _ _ _ hnext
          simp only [proceed, callers_place, Function.update_self, budget, remaining, hposition]
          omega
      | inr result =>
          simp only [proceed, LockedConfig.finish, Function.update_self, budget, remaining,
            hposition]
          omega
  · have hother : d.callers j = c.callers j := by
      rcases stepCaller_cases hstep with ⟨job, todo, hposition, htodo, rfl⟩ |
        ⟨job, result, hposition, hprepare, rfl⟩ | ⟨job, work, hposition, hprepare, rfl⟩ |
          ⟨job, work, hposition, hholder, rfl⟩ | ⟨job, work, t, next, hposition, hnext, rfl⟩
      · exact Function.update_of_ne hne ..
      · exact Function.update_of_ne hne ..
      · exact Function.update_of_ne hne ..
      · exact Function.update_of_ne hne ..
      · cases next with
        | inl work₂ => exact Function.update_of_ne hne ..
        | inr result => exact Function.update_of_ne hne ..
    rw [hother, if_neg fun heq => hne heq.symm]
    exact Nat.le_refl _

end Measure

/-- Every caller takes a bounded number of steps. -/
theorem run_bounded (m : Measure G) {s : S} {ls : List (Nat × Out)}
    (hrun : (G.system s programs).run (G.system s programs).init ls = some c) (i : Nat) :
    TransitionSystem.count (fun l => l.1 = i) ls ≤ m.total (programs i) := by
  have hbudget : ∃ n, n = m.budget (c.callers i) ∧
      n + TransitionSystem.count (fun l => l.1 = i) ls ≤
        m.total (programs i) + 0 * TransitionSystem.count (fun _ => false) ls := by
    refine TransitionSystem.run_budget (M := G.system s programs) (C := fun _ _ => True)
      (fun c n => n = m.budget (c.callers i)) (fun l => l.1 = i) (fun _ => false) 0
      ?_ ?_ (TransitionSystem.meets_of_mem (fun _ _ _ => trivial) _) hrun
    · rintro c l d n rfl - hstep
      have hle := m.budget_step hstep i
      refine ⟨_, rfl, ?_⟩
      simp only [TransitionSystem.count, List.countP_cons, List.countP_nil, decide_eq_true_eq]
      omega
    · simp [system, Measure.budget, Measure.remaining]
  rcases hbudget with ⟨n, -, hle⟩
  omega

/-- As long as a call has not ended, somebody can go on. -/
theorem exists_step {s : S} (hsound : G.Sound s c)
    (hlive : ∀ s work, ∃ out, (G.step s work out).isSome) (out : Out)
    (hopen : (c.callers i).position ≠ .idle ∨ (c.callers i).todo ≠ []) :
    ∃ j out, (G.stepCaller c j out).isSome := by
  have hinside : ∀ j job work, (c.callers j).position = .inside job work →
      ∃ j out, (G.stepCaller c j out).isSome := by
    intro j job work hposition
    rcases hlive c.shared work with ⟨out, hout⟩
    exact ⟨j, out, by simpa [stepCaller, hposition] using hout⟩
  cases hposition : (c.callers i).position with
  | idle =>
      cases htodo : (c.callers i).todo with
      | nil => simp [hposition, htodo] at hopen
      | cons job todo => exact ⟨i, out, by simp [stepCaller, hposition, htodo]⟩
  | called job =>
      cases hprepare : G.prepare job with
      | error result => exact ⟨i, out, by simp [stepCaller, hposition, hprepare]⟩
      | ok work => exact ⟨i, out, by simp [stepCaller, hposition, hprepare]⟩
  | waiting job work =>
      cases hholder : c.holder with
      | none => exact ⟨i, out, by simp [stepCaller, hposition, hholder]⟩
      | some j =>
          rcases hsound.serial with ⟨m, -, -, hheld⟩
          rcases hheld j hholder with ⟨job', start, work', hposition', -⟩
          exact hinside j job' work' hposition'
  | inside job work => exact hinside i job work hposition

/-- In a run that cannot go on every call of every program has ended. -/
theorem all_ended {s : S} (hsound : G.Sound s c) (hordered : G.Ordered programs c)
    (hlive : ∀ s work, ∃ out, (G.step s work out).isSome) (out : Out)
    (hstuck : ∀ j out, G.stepCaller c j out = none) {k : Nat} (hk : k < (programs i).length) :
    ∃ call ∈ finishedCalls c.history, call.id = ⟨i, k⟩ := by
  have hdone : (c.callers i).position = .idle ∧ (c.callers i).todo = [] := by
    by_contra hopen
    have hopen : (c.callers i).position ≠ .idle ∨ (c.callers i).todo ≠ [] := by tauto
    rcases exists_step hsound hlive out hopen with ⟨j, out, hstep⟩
    rw [hstuck] at hstep
    cases hstep
  have hprogram := hordered.program i
  rw [hdone.2, Caller.current, hdone.1] at hprogram
  have hlength := congrArg List.length hprogram
  rw [List.length_drop] at hlength
  refine hordered.complete i k ?_
  simp only [Option.toList_none, List.append_nil, List.length_nil] at hlength
  omega

end LockedCalls

end

end Library
end StrategyWorker
