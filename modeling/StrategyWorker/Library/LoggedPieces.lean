import StrategyWorker.Library.Logged

/-!
# Properties of logs that hold of all pieces

A property of event lists is additive when it holds of no events and of two
lists after each other.  A computation adds events with such a property when
its parts do, whatever they return or raise.

Main results:

- Theorem {lit}`Additive.bind`, theorem {lit}`Additive.ensuring`: sequences and
  final clauses.
- Theorem {lit}`Additive.forEach`, theorem {lit}`Additive.rounds`: loops.
-/

namespace StrategyWorker
namespace Library
namespace Logged

variable {E X α β σ : Type}

/-- The property holds of no events, and of lists after each other. -/
structure Additive (P : List E → Prop) : Prop where
  nil : P []
  append : ∀ {new new'}, P new → P new' → P (new ++ new')

/-- From every log the new events have the property. -/
def Adds (m : Logged E X α) (P : List E → Prop) : Prop :=
  Yields m fun _ new => P new

namespace Additive

variable {P : List E → Prop}

theorem pure (hP : Additive P) (a : α) : Adds (Pure.pure a : Logged E X α) P :=
  (Yields.pure a).mono fun _ _ h => h.2 ▸ hP.nil

theorem raise (hP : Additive P) (x : X) : Adds (Logged.raise x : Logged E X α) P :=
  (Yields.raise x).mono fun _ _ h => h.2 ▸ hP.nil

theorem ask (hP : Additive P) (answer : List E → α) :
    Adds (Logged.ask answer : Logged E X α) P :=
  (Yields.ask answer).mono fun _ _ h => h.2 ▸ hP.nil

theorem emit {e : E} (h : P [e]) : Adds (Logged.emit e : Logged E X Unit) P :=
  (Yields.emit e).mono fun _ _ hnew => hnew.2 ▸ h

theorem attempt {outcome : List E → Option X} {event : Option X → E}
    (h : ∀ raised, P [event raised]) : Adds (Logged.attempt outcome event) P := by
  refine (Yields.attempt outcome event).mono fun r new hnew => ?_
  rcases hnew with ⟨log, rfl, -⟩
  exact h _

theorem bind (hP : Additive P) {m : Logged E X α} {f : α → Logged E X β} (hm : Adds m P)
    (hf : ∀ a, Adds (f a) P) : Adds (m >>= f) P :=
  Yields.bind hm (fun a _ h => (hf a).mono fun _ _ h' => hP.append h h') fun _ _ h => h

theorem catchWith (hP : Additive P) {m : Logged E X α} {handler : X → Logged E X α}
    (hm : Adds m P) (hhandler : ∀ x, Adds (handler x) P) :
    Adds (Logged.catchWith m handler) P :=
  Yields.catchWith hm (fun _ _ h => h) fun x _ h =>
    (hhandler x).mono fun _ _ h' => hP.append h h'

theorem ensuring (hP : Additive P) {m : Logged E X α} {final : Logged E X β} (hm : Adds m P)
    (hfinal : Adds final P) : Adds (Logged.ensuring m final) P :=
  Yields.ensuring hm hfinal (fun _ _ _ _ h h' => hP.append h h')
    (fun _ _ _ _ h h' => hP.append h h') fun _ _ _ _ h h' => hP.append h h'

theorem forEach (hP : Additive P) {body : β → Logged E X Unit} (hbody : ∀ x, Adds (body x) P)
    (xs : List β) : Adds (Logged.forEach body xs) P := by
  induction xs with
  | nil => exact hP.pure ()
  | cons x xs ih => exact hP.bind (hbody x) fun _ => ih

theorem rounds (hP : Additive P) {body : σ → Logged E X (Option σ)}
    (hbody : ∀ s, Adds (body s) P) (n : Nat) (s : σ) : Adds (Logged.rounds body n s) P := by
  induction n generalizing s with
  | zero => exact hP.pure (some s)
  | succ n ih =>
      refine hP.bind (hbody s) fun next => ?_
      cases next with
      | none => exact hP.pure none
      | some s' => exact ih s'

end Additive

end Logged
end Library
end StrategyWorker
