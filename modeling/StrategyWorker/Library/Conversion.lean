import StrategyWorker.Library.Logged

/-!
# Conversion of exceptions

A computation asks its environment and logs every call with the exception that
it raised.  The handlers around a call convert some exceptions into others; the
call is sound when it raised none or one that they convert.

{lit}`Converts sound G m` says of {lit}`m` that it returns after sound calls only,
and that the exceptions it raises after sound calls only are those of {lit}`G`:
the ones that the handlers around {lit}`m` convert.  There is one rule for each
construct, so that the property of a whole program is read off its text.

Main results:

- Theorem {lit}`Converts.query`: a call of the environment under the handlers
  that its soundness speaks of.
- Theorem {lit}`Converts.bind` and theorem {lit}`Converts.forEach`: sequence and
  loop.
- Theorem {lit}`Converts.catchWith`: a handler widens what is converted.
-/

namespace StrategyWorker
namespace Library
namespace Logged

variable {E X α β : Type}

/-- A call of the environment that returns a value or raises; it is logged with what it raised. -/
def query (outcome : List E → Except X α) (event : Option X → E) : Logged E X α := do
  let answer ← ask outcome
  match answer with
  | .ok a => do
      emit (event none)
      pure a
  | .error x => do
      emit (event (some x))
      raise x

/-- The computation returns after sound events only, and what it raises after sound events only is
in {lit}`G`. -/
def Converts (sound : E → Prop) (G : X → Prop) (m : Logged E X α) : Prop :=
  Yields m fun r new =>
    match r with
    | .ok _ => ∀ e ∈ new, sound e
    | .error x => (∀ e ∈ new, sound e) ↔ G x

namespace Converts

variable {sound : E → Prop} {G G' : X → Prop} {m : Logged E X α}

theorem pure (a : α) : Converts sound G (Pure.pure a : Logged E X α) := by
  refine (Yields.pure a).mono fun r new h => ?_
  rcases h with ⟨rfl, rfl⟩
  simp

/-- An exception that the handlers convert may be raised. -/
theorem raise {x : X} (h : G x) : Converts sound G (Logged.raise x : Logged E X α) := by
  refine (Yields.raise x).mono fun r new hr => ?_
  rcases hr with ⟨rfl, rfl⟩
  simp [h]

/-- A call whose soundness speaks of the handlers around it. -/
theorem query {outcome : List E → Except X α} {event : Option X → E} (hnone : sound (event none))
    (hsome : ∀ x, sound (event (some x)) ↔ G x) :
    Converts sound G (Logged.query outcome event) := by
  intro log
  cases h : outcome log with
  | ok a =>
      refine ⟨.ok a, [event none], ?_, ?_⟩
      · simp [Logged.query, Bind.bind, Logged.ask, Logged.emit, h, Pure.pure]
      · simpa using hnone
  | error x =>
      refine ⟨.error x, [event (some x)], ?_, ?_⟩
      · simp [Logged.query, Bind.bind, Logged.ask, Logged.emit, Logged.raise, h]
      · simpa using hsome x

theorem bind {f : α → Logged E X β} (hm : Converts sound G m)
    (hf : ∀ a, Converts sound G (f a)) : Converts sound G (m >>= f) := by
  refine Yields.bind hm (fun a new hnew => ?_) (fun x new hnew => hnew)
  refine (hf a).mono fun r new' hr => ?_
  have hsplit : (∀ e ∈ new ++ new', sound e) ↔ ∀ e ∈ new', sound e := by
    rw [List.forall_mem_append]
    exact and_iff_right hnew
  cases r with
  | ok b => exact hsplit.2 hr
  | error x => exact hsplit.trans hr

/-- A branch on a value that is at hand. -/
theorem ite {c : Prop} [Decidable c] {m' : Logged E X α} (hm : Converts sound G m)
    (hm' : Converts sound G m') : Converts sound G (if c then m else m') := by
  split
  · exact hm
  · exact hm'

/-- Inside a handler more is converted: what the handler takes, and what is converted outside. -/
theorem catchWith {handler : X → Logged E X α} (hm : Converts sound G' m)
    (htaken : ∀ x, G' x → Converts sound G (handler x))
    (hpassed : ∀ x, ¬ G' x → handler x = Logged.raise x ∧ ¬ G x) :
    Converts sound G (Logged.catchWith m handler) := by
  refine Yields.catchWith hm (fun a new hnew => hnew) (fun x new hnew => ?_)
  by_cases hx : G' x
  · have hsound : ∀ e ∈ new, sound e := hnew.2 hx
    refine (htaken x hx).mono fun r new' hr => ?_
    have hsplit : (∀ e ∈ new ++ new', sound e) ↔ ∀ e ∈ new', sound e := by
      rw [List.forall_mem_append]
      exact and_iff_right hsound
    cases r with
    | ok b => exact hsplit.2 hr
    | error y => exact hsplit.trans hr
  · rcases hpassed x hx with ⟨hraise, hG⟩
    rw [hraise]
    refine (Yields.raise x).mono fun r new' hr => ?_
    rcases hr with ⟨rfl, rfl⟩
    rw [List.append_nil]
    exact hnew.trans (iff_of_false hx hG)

/-- A loop over a list. -/
theorem forEach {body : β → Logged E X Unit} {xs : List β}
    (h : ∀ x ∈ xs, Converts sound G (body x)) : Converts sound G (Logged.forEach body xs) := by
  induction xs with
  | nil => exact pure ()
  | cons x xs ih =>
      refine bind (h x List.mem_cons_self) fun _ => ?_
      exact ih fun y hy => h y (List.mem_cons_of_mem x hy)

/-- The end of a computation that was started without a log: it returned after sound calls, or
raised an exception that is converted exactly when all calls were sound. -/
theorem cases_run (h : Converts sound G m) :
    (∃ a, (m []).1 = .ok a ∧ ∀ e ∈ (m []).2, sound e) ∨
      ∃ x, (m []).1 = .error x ∧ ((∀ e ∈ (m []).2, sound e) ↔ G x) := by
  rcases h [] with ⟨r, new, heq, hr⟩
  rw [heq]
  cases r with
  | ok a => exact .inl ⟨a, rfl, hr⟩
  | error x => exact .inr ⟨x, rfl, hr⟩

end Converts

end Logged
end Library
end StrategyWorker
