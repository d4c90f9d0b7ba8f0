import StrategyWorker.Library.ThreadMachine

/-!
# Layers over a machine

A layer looks closer at some operations of a machine.  It keeps further state
beside the shared state of the machine, replaces those operations by operations
of its own, and may note in its state what the others do.  Everything that the
machine pushes or starts is lowered to the layer.

Main results:

- Theorem {lit}`leaves_base`: a weight of the layer that agrees with one of the
  machine on lowered operations is left by an operation of the machine as there.
- Theorem {lit}`handler_weight`: so it is by the handlers.
-/

namespace StrategyWorker
namespace Library

variable {S X Op Own Err Out : Type*}

/-- The effect on a larger state, with every operation replaced. -/
def Effect.lift {T Op' : Type*} (f : S → T) (g : Op → Op') : Effect S Op Err → Effect T Op' Err
  | .next s push codes => .next (f s) (push.map g) (codes.map (List.map g))
  | .raise s e => .raise (f s) e

/-- A layer: how operations of the machine are lowered, what the layer notes of the others, and
how its own operations execute. -/
structure MachineLayer (S X Op Own Err Out : Type*) where
  base : ThreadMachine S Op Err Out
  lower : Op → Op ⊕ Own
  note : S → X → Op → Out → X
  exec : S × X → Own → Out → Option (Effect (S × X) (Op ⊕ Own) Err)
  handler : Own → Err → Option (List (Op ⊕ Own))

namespace MachineLayer

/-- Code of the machine as code of the layer. -/
def lowerAll (L : MachineLayer S X Op Own Err Out) (code : List Op) : List (Op ⊕ Own) :=
  code.map L.lower

/-- The layer with the machine below it. -/
def machine (L : MachineLayer S X Op Own Err Out) : ThreadMachine (S × X) (Op ⊕ Own) Err Out where
  exec s
    | .inl op, out =>
        (L.base.exec s.1 op out).map (Effect.lift (·, L.note s.1 s.2 op out) L.lower)
    | .inr own, out => L.exec s own out
  handler
    | .inl op, e => (L.base.handler op e).map L.lowerAll
    | .inr own, e => L.handler own e

variable {L : MachineLayer S X Op Own Err Out}

/-! ## Operations of the machine -/

theorem exec_base_eq_some {s : S × X} {op : Op} {out : Out} {eff : Effect (S × X) (Op ⊕ Own) Err} :
    L.machine.exec s (.inl op) out = some eff ↔
      ∃ below, L.base.exec s.1 op out = some below ∧
        eff = below.lift (·, L.note s.1 s.2 op out) L.lower := by
  simp only [machine, Option.map_eq_some_iff]
  exact ⟨fun ⟨a, h, e⟩ => ⟨a, h, e.symm⟩, fun ⟨a, h, e⟩ => ⟨a, h, e.symm⟩⟩

@[simp]
theorem exec_own (s : S × X) (own : Own) (out : Out) :
    L.machine.exec s (.inr own) out = L.exec s own out :=
  rfl

theorem handler_base_eq_some {op : Op} {e : Err} {code : List (Op ⊕ Own)} :
    L.machine.handler (.inl op) e = some code ↔
      ∃ below, L.base.handler op e = some below ∧ code = L.lowerAll below := by
  simp only [machine, Option.map_eq_some_iff]
  exact ⟨fun ⟨a, h, e⟩ => ⟨a, h, e.symm⟩, fun ⟨a, h, e⟩ => ⟨a, h, e.symm⟩⟩

@[simp]
theorem handler_own (own : Own) (e : Err) : L.machine.handler (.inr own) e = L.handler own e :=
  rfl

@[simp]
theorem shared_lift {T Op' : Type*} (f : S → T) (g : Op → Op') (eff : Effect S Op Err) :
    (eff.lift f g).shared = f eff.shared := by
  cases eff <;> rfl

@[simp]
theorem pushed_lift {T Op' : Type*} (f : S → T) (g : Op → Op') (eff : Effect S Op Err) :
    (eff.lift f g).pushed = eff.pushed.map g := by
  cases eff <;> rfl

@[simp]
theorem spawned_lift {T Op' : Type*} (f : S → T) (g : Op → Op') (eff : Effect S Op Err) :
    (eff.lift f g).spawned = eff.spawned.map (List.map g) := by
  cases eff <;> rfl

/-! ## Weights -/

section

variable {u : Op → Nat} {v : Op ⊕ Own → Nat}

/-- Lowered code weighs what the code weighs. -/
theorem weigh_lowerAll (hlower : ∀ op, v (L.lower op) = u op) (code : List Op) :
    ThreadMachine.weigh v (L.lowerAll code) = ThreadMachine.weigh u code := by
  induction code with
  | nil => rfl
  | cons op code ih =>
      simp only [lowerAll, List.map_cons, ThreadMachine.weigh_cons, hlower] at ih ⊢
      rw [ih]

/-- An operation of the machine leaves as much as it does there. -/
theorem leaves_base (hlower : ∀ op, v (L.lower op) = u op) {T : Type*} (f : S → T)
    (eff : Effect S Op Err) :
    ThreadMachine.leaves v (eff.lift f L.lower) = ThreadMachine.leaves u eff := by
  have hcodes : ∀ codes : List (List Op),
      ((codes.map (List.map L.lower)).map (ThreadMachine.weigh v)).sum =
        (codes.map (ThreadMachine.weigh u)).sum := by
    intro codes
    induction codes with
    | nil => rfl
    | cons code codes ih =>
        have hcode := weigh_lowerAll hlower code
        rw [lowerAll] at hcode
        simp only [List.map_cons, List.sum_cons, ih, hcode]
  have hpushed := weigh_lowerAll hlower eff.pushed
  rw [lowerAll] at hpushed
  rw [ThreadMachine.leaves, ThreadMachine.leaves, pushed_lift, spawned_lift, hcodes, hpushed]

/-- Handlers that keep a weight in the machine keep it in the layer. -/
theorem handler_weight (hlower : ∀ op, v (L.lower op) = u op) (hbase : ∀ op, u op ≤ v (.inl op))
    (hhandler : ∀ op e code, L.base.handler op e = some code →
      ThreadMachine.weigh u code ≤ u op)
    (hown : ∀ own e code, L.handler own e = some code →
      ThreadMachine.weigh v code ≤ v (.inr own))
    (op : Op ⊕ Own) (e : Err) (code : List (Op ⊕ Own))
    (h : L.machine.handler op e = some code) : ThreadMachine.weigh v code ≤ v op := by
  cases op with
  | inl op =>
      rcases handler_base_eq_some.1 h with ⟨below, hbelow, rfl⟩
      rw [weigh_lowerAll hlower]
      exact (hhandler op e below hbelow).trans (hbase op)
  | inr own => exact hown own e code h

end

end MachineLayer
end Library
end StrategyWorker
