import StrategyWorker.Library.Assoc

/-!
# Checks that collect what is wrong

A check of several fields does not stop at the first one that is wrong: it
notes an error under a key and goes on with a value in place of the one that it
could not read.  In the end the value counts when nothing has been noted.  No
step of a check removes a key, so that a check passes exactly when each of its
steps passes.

Main results:

- Theorem {lit}`passes_bind`: two checks in a row pass when both do.
- Theorem {lit}`result_eq_ok`: what comes out of a check that passes.
- Theorem {lit}`result_ne_error_nil`: a check that fails names a key.
-/

namespace StrategyWorker
namespace Library

/-- The errors of a check, each under a key. -/
abbrev FieldErrors (K V : Type) := Assoc K V

/-- A step of a check; it keeps the keys that it finds. -/
structure Checked (K V α : Type) where
  run : FieldErrors K V → α × FieldErrors K V
  grows : ∀ errors, errors ≠ [] → (run errors).2 ≠ []

namespace Checked

variable {K V α β : Type}

instance : Monad (Checked K V) where
  pure a := ⟨fun errors => (a, errors), fun _ h => h⟩
  bind m f :=
    ⟨fun errors => (f (m.run errors).1).run (m.run errors).2,
      fun errors h => (f (m.run errors).1).grows _ (m.grows errors h)⟩

/-- Note an error. -/
def note [DecidableEq K] (key : K) (text : V) : Checked K V Unit :=
  ⟨fun errors => ((), errors.set key text), fun errors _ => Assoc.set_ne_nil errors key text⟩

/-- The errors so far. -/
def noted : Checked K V (FieldErrors K V) :=
  ⟨fun errors => (errors, errors), fun _ h => h⟩

/-- The value of a check that has noted nothing, else its errors. -/
def result (m : Checked K V α) : Except (FieldErrors K V) α :=
  if (m.run []).2.isEmpty then .ok (m.run []).1 else .error (m.run []).2

/-- A check that notes nothing, with its value. -/
def Passes (m : Checked K V α) (a : α) : Prop :=
  m.run [] = (a, [])

/-- What comes out of a check that passes. -/
theorem result_eq_ok {m : Checked K V α} {a : α} : m.result = .ok a ↔ Passes m a := by
  unfold result Passes
  cases hrun : m.run [] with
  | mk b errors => cases errors <;> simp

/-- A check that fails names a key. -/
theorem result_ne_error_nil (m : Checked K V α) : m.result ≠ .error [] := by
  unfold result
  cases hrun : m.run [] with
  | mk b errors => cases errors <;> simp

@[simp]
theorem passes_pure {a b : α} : Passes (pure a : Checked K V α) b ↔ a = b := by
  simp [Passes, pure]

/-- Two checks in a row pass when both do. -/
theorem passes_bind {m : Checked K V α} {f : α → Checked K V β} {b : β} :
    Passes (m >>= f) b ↔ ∃ a, Passes m a ∧ Passes (f a) b := by
  constructor
  · intro h
    have hrun : (f (m.run []).1).run (m.run []).2 = (b, []) := h
    have hnil : (m.run []).2 = [] := by
      by_contra hne
      exact (f (m.run []).1).grows _ hne (congrArg Prod.snd hrun)
    refine ⟨(m.run []).1, ?_, ?_⟩
    · exact Prod.ext rfl hnil
    · rwa [hnil] at hrun
  · rintro ⟨a, hm, hf⟩
    change (f (m.run []).1).run (m.run []).2 = (b, [])
    have hm' : m.run [] = (a, []) := hm
    rw [hm']
    exact hf

@[simp]
theorem not_passes_note [DecidableEq K] (key : K) (text : V) (u : Unit) :
    ¬ Passes (note key text) u := by
  simp [Passes, note, Assoc.set]

@[simp]
theorem passes_noted {errors : FieldErrors K V} :
    Passes (noted : Checked K V _) errors ↔ errors = [] := by
  simp [Passes, noted, eq_comm]

/-- A check that notes an error does not pass, whatever comes after it. -/
@[simp]
theorem not_passes_note_bind [DecidableEq K] (key : K) (text : V) (f : Unit → Checked K V α)
    (a : α) : ¬ Passes (note key text >>= f) a := by
  rw [passes_bind]
  rintro ⟨u, hnote, -⟩
  exact not_passes_note key text u hnote

end Checked

end Library
end StrategyWorker
