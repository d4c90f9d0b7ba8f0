import StrategyWorker.Library.Conversion

/-!
# Computations over a state that their log determines

The environment of a logged computation keeps a state, which what was logged so
far determines.  {lit}`Leaves state P m Q` says that from every log at which the
state has {lit}`P`, the computation ends in a result and a state of {lit}`Q`.
There is one rule for each construct.

Main results:

- Theorem {lit}`Leaves.query`: a call of the environment.
- Theorem {lit}`Leaves.bind`, theorem {lit}`Leaves.forEach`: sequence and loop.
- Theorem {lit}`Leaves.catchWith`: a handler starts where the exception was
  raised.
- Theorem {lit}`Keeps.bind`: an invariant of the state, and what is returned.
- Theorem {lit}`Ends.bind`, theorem {lit}`Ends.forEach`: what holds when a
  computation returns.
-/

namespace StrategyWorker
namespace Library
namespace Logged

variable {E X S α β : Type} {state : List E → S}

/-- From the states of {lit}`P`, the computation ends in a result and a state of {lit}`Q`. -/
def Leaves (state : List E → S) (P : S → Prop) (m : Logged E X α) (Q : Except X α → S → Prop) :
    Prop :=
  ∀ log, P (state log) → Q (m log).1 (state (m log).2)

variable {P P' : S → Prop} {Q Q' : Except X α → S → Prop} {m : Logged E X α}

theorem Leaves.mono (h : Leaves state P m Q) (hQ : ∀ r s, Q r s → Q' r s) :
    Leaves state P m Q' :=
  fun log hlog => hQ _ _ (h log hlog)

theorem Leaves.weaken (h : Leaves state P m Q) (hP : ∀ s, P' s → P s) : Leaves state P' m Q :=
  fun log hlog => h log (hP _ hlog)

theorem Leaves.and (h : Leaves state P m Q) (h' : Leaves state P m Q') :
    Leaves state P m fun r s => Q r s ∧ Q' r s :=
  fun log hlog => ⟨h log hlog, h' log hlog⟩

/-- A start that comes with a fact. -/
theorem Leaves.assume {p : Prop} (h : p → Leaves state P m Q) :
    Leaves state (fun s => P s ∧ p) m Q :=
  fun log hlog => h hlog.2 log hlog.1

theorem Leaves.pure {a : α} (h : ∀ s, P s → Q (.ok a) s) :
    Leaves state P (Pure.pure a : Logged E X α) Q :=
  fun log hlog => h (state log) hlog

theorem Leaves.raise {x : X} (h : ∀ s, P s → Q (.error x) s) :
    Leaves state P (Logged.raise x : Logged E X α) Q :=
  fun log hlog => h (state log) hlog

/-- A sequence; an exception of its first part ends it. -/
theorem Leaves.bind {f : α → Logged E X β} {R : Except X β → S → Prop} (hm : Leaves state P m Q)
    (hok : ∀ a, Leaves state (Q (.ok a)) (f a) R)
    (herror : ∀ x s, Q (.error x) s → R (.error x) s) :
    Leaves state P (m >>= f) R := by
  intro log hlog
  have hfirst := hm log hlog
  rcases hrun : m log with ⟨r, log'⟩
  rw [hrun] at hfirst
  cases r with
  | error x => simpa [Bind.bind, hrun] using herror x _ hfirst
  | ok a => simpa [Bind.bind, hrun] using hok a log' hfirst

/-- A handler starts where the exception was raised. -/
theorem Leaves.catchWith {handler : X → Logged E X α} {R : Except X α → S → Prop}
    (hm : Leaves state P m Q) (hok : ∀ a s, Q (.ok a) s → R (.ok a) s)
    (herror : ∀ x, Leaves state (Q (.error x)) (handler x) R) :
    Leaves state P (Logged.catchWith m handler) R := by
  intro log hlog
  have hfirst := hm log hlog
  rcases hrun : m log with ⟨r, log'⟩
  rw [hrun] at hfirst
  cases r with
  | ok a => simpa [Logged.catchWith, hrun] using hok a _ hfirst
  | error x => simpa [Logged.catchWith, hrun] using herror x log' hfirst

/-- What a call raised. -/
def raisedBy : Except X α → Option X
  | .ok _ => none
  | .error x => some x

/-- A call of the environment, which takes the state of the log to the state after the event. -/
theorem Leaves.query {outcome : List E → Except X α} {event : Option X → E}
    (h : ∀ log, P (state log) →
      Q (outcome log) (state (log ++ [event (raisedBy (outcome log))]))) :
    Leaves state P (Logged.query outcome event) Q := by
  intro log hlog
  have hcall := h log hlog
  cases houtcome : outcome log with
  | ok a =>
      rw [houtcome] at hcall
      simpa [Logged.query, Bind.bind, ask, emit, houtcome, Pure.pure, raisedBy] using hcall
  | error x =>
      rw [houtcome] at hcall
      simpa [Logged.query, Bind.bind, ask, emit, houtcome, Logged.raise, raisedBy] using hcall

theorem forEach_map {γ : Type} (body : β → Logged E X Unit) (f : γ → β) (xs : List γ) :
    Logged.forEach body (xs.map f) = Logged.forEach (fun x => body (f x)) xs := by
  induction xs with
  | nil => rfl
  | cons x xs ih => rw [List.map_cons, Logged.forEach, Logged.forEach, ih]

/-- A loop that keeps an invariant, whatever its rounds end in. -/
theorem Leaves.forEach {body : β → Logged E X Unit} {xs : List β} {I : S → Prop}
    (h : ∀ x ∈ xs, Leaves state I (body x) fun _ s => I s) :
    Leaves state I (Logged.forEach body xs) fun _ s => I s := by
  induction xs with
  | nil => exact Leaves.pure fun s hs => hs
  | cons x xs ih =>
      refine Leaves.bind (h x List.mem_cons_self) (fun _ => ?_) (fun _ _ hs => hs)
      exact ih fun y hy => h y (List.mem_cons_of_mem x hy)

theorem Leaves.ite {c : Prop} [Decidable c] {m' : Logged E X α} (hm : c → Leaves state P m Q)
    (hm' : ¬ c → Leaves state P m' Q) : Leaves state P (if c then m else m') Q := by
  split
  · rename_i hc
    exact hm hc
  · rename_i hc
    exact hm' hc

/-! ## What is kept -/

/-- The computation keeps {lit}`I`, and what it returns satisfies {lit}`P`. -/
def Keeps (state : List E → S) (I : S → Prop) (m : Logged E X α) (P : α → Prop) : Prop :=
  Leaves state I m fun r s => I s ∧ ∀ a, r = .ok a → P a

section

variable {I : S → Prop} {P Q : α → Prop}

theorem Keeps.mono (h : Keeps state I m P) (hPQ : ∀ a, P a → Q a) : Keeps state I m Q :=
  Leaves.mono h fun _ _ hr => ⟨hr.1, fun a ha => hPQ a (hr.2 a ha)⟩

theorem Keeps.pure {a : α} (h : P a) : Keeps state I (Pure.pure a : Logged E X α) P :=
  Leaves.pure fun _ hs => ⟨hs, fun _ hr => Except.ok.inj hr ▸ h⟩

theorem Keeps.raise (x : X) : Keeps state I (Logged.raise x : Logged E X α) P :=
  Leaves.raise fun _ hs => ⟨hs, fun _ hr => by cases hr⟩

theorem Keeps.bind {f : α → Logged E X β} {R : β → Prop} (hm : Keeps state I m P)
    (hf : ∀ a, P a → Keeps state I (f a) R) : Keeps state I (m >>= f) R := by
  refine Leaves.bind hm (fun a => ?_) (fun x s h => ⟨h.1, fun _ hr => by cases hr⟩)
  refine Leaves.weaken (Leaves.assume (p := P a) fun ha => hf a ha) fun s h => ?_
  exact ⟨h.1, h.2 a rfl⟩

theorem Keeps.ite {c : Prop} [Decidable c] {m' : Logged E X α} (hm : c → Keeps state I m P)
    (hm' : ¬ c → Keeps state I m' P) : Keeps state I (if c then m else m') P :=
  Leaves.ite hm hm'

theorem Keeps.catchWith {handler : X → Logged E X α} (hm : Keeps state I m P)
    (hhandler : ∀ x, Keeps state I (handler x) P) :
    Keeps state I (Logged.catchWith m handler) P := by
  refine Leaves.catchWith hm (fun a s h => ⟨h.1, fun b hb => h.2 b (by rw [← hb])⟩) (fun x => ?_)
  exact Leaves.weaken (hhandler x) fun s h => h.1

theorem Keeps.forEach {body : β → Logged E X Unit} {xs : List β}
    (h : ∀ x ∈ xs, Keeps state I (body x) fun _ => True) :
    Keeps state I (Logged.forEach body xs) fun _ => True := by
  refine (Leaves.forEach fun x hx => ?_).mono fun _ _ hs => ⟨hs, fun _ _ => trivial⟩
  exact Leaves.mono (h x hx) fun _ _ hs => hs.1

end

/-! ## What holds after a return -/

/-- From the states of {lit}`P`, what is returned and the state then are of {lit}`Q`. -/
def Ends (state : List E → S) (P : S → Prop) (m : Logged E X α) (Q : α → S → Prop) : Prop :=
  Leaves state P m fun r s => ∀ a, r = .ok a → Q a s

section

variable {P P' : S → Prop} {Q Q' : α → S → Prop}

theorem Ends.mono (h : Ends state P m Q) (hQ : ∀ a s, Q a s → Q' a s) : Ends state P m Q' :=
  Leaves.mono h fun _ s hr a ha => hQ a s (hr a ha)

theorem Ends.weaken (h : Ends state P m Q) (hP : ∀ s, P' s → P s) : Ends state P' m Q :=
  Leaves.weaken h hP

/-- A start that comes with a fact. -/
theorem Ends.assume {p : Prop} (h : p → Ends state P m Q) (hp : ∀ s, P s → p) :
    Ends state P m Q :=
  fun log hlog => h (hp _ hlog) log hlog

theorem Ends.pure {a : α} (h : ∀ s, P s → Q a s) :
    Ends state P (Pure.pure a : Logged E X α) Q :=
  Leaves.pure fun s hs _ hr => Except.ok.inj hr ▸ h s hs

theorem Ends.raise (x : X) : Ends state P (Logged.raise x : Logged E X α) Q :=
  Leaves.raise fun _ _ _ hr => by cases hr

theorem Ends.bind {f : α → Logged E X β} {R : β → S → Prop} (hm : Ends state P m Q)
    (hf : ∀ a, Ends state (Q a) (f a) R) : Ends state P (m >>= f) R := by
  refine Leaves.bind hm (fun a => ?_) (fun x s _ _ hr => by cases hr)
  exact Leaves.weaken (hf a) fun s h => h a rfl

theorem Ends.ite {c : Prop} [Decidable c] {m' : Logged E X α} (hm : c → Ends state P m Q)
    (hm' : ¬ c → Ends state P m' Q) : Ends state P (if c then m else m') Q :=
  Leaves.ite hm hm'

/-- A handler that starts anywhere. -/
theorem Ends.catchWith {handler : X → Logged E X α} (hm : Ends state P m Q)
    (hhandler : ∀ x, Ends state (fun _ => True) (handler x) Q) :
    Ends state P (Logged.catchWith m handler) Q := by
  refine Leaves.catchWith hm (fun a s h b hb => ?_) (fun x => ?_)
  · obtain rfl := Except.ok.inj hb
    exact h a rfl
  · exact Leaves.weaken (hhandler x) fun _ _ => trivial

/-- A first part that keeps the start. -/
theorem Ends.bind_keeps {I : S → Prop} {p : α → Prop} {f : α → Logged E X β} {R : β → S → Prop}
    (hm : Keeps state I m p) (hf : ∀ a, p a → Ends state I (f a) R) :
    Ends state I (m >>= f) R := by
  refine Ends.bind (Q := fun a s => I s ∧ p a) (fun log hlog a ha => ?_) fun a => ?_
  · exact ⟨(hm log hlog).1, (hm log hlog).2 a ha⟩
  · refine Ends.assume (fun ha => ?_) fun _ hs => hs.2
    exact (hf a ha).weaken fun _ hs => hs.1

/-- A computation that keeps every state it is started in. -/
theorem Ends.of_keeps {R : S → α → Prop} (h : ∀ s, P s → Keeps state (· = s) m (R s)) :
    Ends state P m fun a s => P s ∧ R s a := by
  intro log hlog a ha
  have hkeeps := h _ hlog log rfl
  rw [hkeeps.1]
  exact ⟨hlog, hkeeps.2 a ha⟩

/-- A loop, with an invariant over the elements that are done. -/
theorem Ends.forEach {body : β → Logged E X Unit} {xs : List β} {I : List β → S → Prop}
    (h : ∀ before x after, xs = before ++ x :: after →
      Ends state (I before) (body x) fun _ s => I (before ++ [x]) s) :
    Ends state (I []) (Logged.forEach body xs) fun _ s => I xs s := by
  have hrest : ∀ before after, xs = before ++ after →
      Ends state (I before) (Logged.forEach body after) fun _ s => I xs s := by
    intro before after heq
    induction after generalizing before with
    | nil =>
        rw [List.append_nil] at heq
        exact Ends.pure fun s hs => heq ▸ hs
    | cons x after ih =>
        refine Ends.bind (h before x after heq) fun _ => ?_
        exact ih (before ++ [x]) (by rw [heq, List.append_assoc]; rfl)
  exact hrest [] xs rfl

end

end Logged
end Library
end StrategyWorker
