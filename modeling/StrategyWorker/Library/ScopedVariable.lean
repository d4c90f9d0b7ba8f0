import Mathlib.Data.List.Basic

/-!
# A variable that is set for a while

Computations that read a variable, and return or raise.  A scope sets the
variable for the computation inside it and resets it afterwards, whether that
returns or raises; a handler around the scope finds the value from outside.

Main results:

- Theorem {lit}`catchWith_withValue`: what a handler around a scope reads.
- Theorem {lit}`runAll_of_restores`: computations that leave the variable as
  they find it all find the same value, one after the other.
-/

namespace StrategyWorker
namespace Library

/-- A computation under a variable, which returns or raises. -/
abbrev Scoped (S X α : Type) : Type :=
  S → Except X α × S

namespace Scoped

variable {S X α : Type}

/-- A computation that only reads the variable. -/
def reading (result : S → Except X α) : Scoped S X α :=
  fun s => (result s, s)

/-- {lit}`token = var.set(value); try: m finally: var.reset(token)`. -/
def withValue (value : S) (m : Scoped S X α) : Scoped S X α :=
  fun s => ((m value).1, s)

/-- {lit}`try: m except: handler`. -/
def catchWith (m : Scoped S X α) (handler : X → Scoped S X α) : Scoped S X α :=
  fun s =>
    match m s with
    | (.ok a, s') => (.ok a, s')
    | (.error x, s') => handler x s'

/-- One computation after the other, whether the earlier ones return or raise. -/
def runAll : List (Scoped S X α) → S → List (Except X α) × S
  | [], s => ([], s)
  | m :: ms, s =>
      let (result, s') := m s
      let (results, s'') := runAll ms s'
      (result :: results, s'')

/-- The variable is left as it was found. -/
def Restores (m : Scoped S X α) : Prop :=
  ∀ s, (m s).2 = s

theorem Restores.reading (result : S → Except X α) : Restores (reading result) := by
  intro s
  rfl

theorem Restores.withValue (value : S) (m : Scoped S X α) : Restores (m.withValue value) := by
  intro s
  rfl

theorem Restores.catchWith {m : Scoped S X α} {handler : X → Scoped S X α} (hm : Restores m)
    (hhandler : ∀ x, Restores (handler x)) : Restores (m.catchWith handler) := by
  intro s
  have hs := hm s
  unfold Scoped.catchWith
  rcases hrun : m s with ⟨result, s'⟩
  rw [hrun] at hs
  cases result with
  | ok a => exact hs
  | error x =>
      have hs' : s' = s := hs
      rw [hs']
      exact hhandler x s

/-- A handler around a scope reads the value from outside the scope. -/
theorem catchWith_withValue (value : S) (m : Scoped S X α) (handler : X → Scoped S X α) (s : S) :
    (m.withValue value).catchWith handler s =
      match (m value).1 with
      | .ok a => (.ok a, s)
      | .error x => handler x s := by
  unfold catchWith withValue
  cases (m value).1 <;> rfl

/-- After computations that leave the variable as they find it, it is as it was before them. -/
theorem runAll_of_restores {ms : List (Scoped S X α)} (h : ∀ m ∈ ms, Restores m) (s : S) :
    runAll ms s = (ms.map fun m => (m s).1, s) := by
  induction ms with
  | nil => rfl
  | cons m ms ih =>
      have hm : (m s).2 = s := h m List.mem_cons_self s
      have hrest := ih fun m' hm' => h m' (List.mem_cons_of_mem m hm')
      rw [runAll]
      simp only [hm, hrest, List.map_cons]

end Scoped

end Library
end StrategyWorker
