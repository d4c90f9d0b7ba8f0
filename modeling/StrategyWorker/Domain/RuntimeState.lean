import Mathlib.Data.List.Basic

/-!
# Phases of a worker

The execution modes and phases of {lit}`enums.py`, and from
{lit}`runtime_state.py` the canonical state that each phase stands for and the
table of allowed phase transitions with the functions that consult it.

Main results:

- Theorem {lit}`validateTransition_ok_iff`: the validator accepts exactly the
  edges of the table.
- Theorem {lit}`canTransition_iff`: so does {lit}`can_transition`.
- Theorem {lit}`not_edge_of_terminal`: no edge leaves a terminal phase.
-/

namespace StrategyWorker
namespace Domain

inductive RuntimeMode where
  | paper
  | live
  | backtest
  deriving DecidableEq, Repr

namespace RuntimeMode

def value : RuntimeMode → String
  | paper => "PAPER"
  | live => "LIVE"
  | backtest => "BACKTEST"

/-- {lit}`RuntimeMode(text)`. -/
def ofValue? (text : String) : Option RuntimeMode :=
  [paper, live, backtest].find? fun mode => mode.value = text

@[simp]
theorem ofValue?_value (mode : RuntimeMode) : ofValue? mode.value = some mode := by
  cases mode <;> decide

theorem value_of_ofValue? {text : String} {mode : RuntimeMode} (h : ofValue? text = some mode) :
    mode.value = text := by
  simpa using List.find?_some h

theorem value_inj {mode mode' : RuntimeMode} (h : mode.value = mode'.value) : mode = mode' := by
  have hread := congrArg ofValue? h
  rw [ofValue?_value, ofValue?_value] at hread
  exact Option.some.inj hread

end RuntimeMode

inductive WorkerPhase where
  | initializing
  | ready
  | running
  | degraded
  | stopping
  | stopped
  | failed
  | completed
  deriving DecidableEq, Repr

inductive CanonicalRuntimeState where
  | draft
  | queued
  | starting
  | running
  | degraded
  | stopping
  | stopped
  | failed
  | pausing
  | paused
  deriving DecidableEq, Repr

namespace CanonicalRuntimeState

def value : CanonicalRuntimeState → String
  | draft => "DRAFT"
  | queued => "QUEUED"
  | starting => "STARTING"
  | running => "RUNNING"
  | degraded => "DEGRADED"
  | stopping => "STOPPING"
  | stopped => "STOPPED"
  | failed => "FAILED"
  | pausing => "PAUSING"
  | paused => "PAUSED"

/-- {lit}`CanonicalRuntimeState(text)`. -/
def ofValue? (text : String) : Option CanonicalRuntimeState :=
  [draft, queued, starting, running, degraded, stopping, stopped, failed, pausing, paused].find?
    fun state => state.value = text

end CanonicalRuntimeState

namespace WorkerPhase

def value : WorkerPhase → String
  | initializing => "INITIALIZING"
  | ready => "READY"
  | running => "RUNNING"
  | degraded => "DEGRADED"
  | stopping => "STOPPING"
  | stopped => "STOPPED"
  | failed => "FAILED"
  | completed => "COMPLETED"

/-- {lit}`WorkerPhase(text)`. -/
def ofValue? (text : String) : Option WorkerPhase :=
  [initializing, ready, running, degraded, stopping, stopped, failed, completed].find?
    fun phase => phase.value = text

theorem ofValue?_value (phase : WorkerPhase) : ofValue? phase.value = some phase := by
  cases phase <;> decide

/-- {lit}`LOCAL_TO_DEFAULT_CANONICAL_STATE`. -/
def localToDefaultCanonicalState : WorkerPhase → CanonicalRuntimeState
  | initializing => .starting
  | ready => .starting
  | running => .running
  | degraded => .degraded
  | stopping => .stopping
  | stopped => .stopped
  | completed => .stopped
  | failed => .failed

/-- {lit}`ALLOWED_PHASE_TRANSITIONS`. -/
def allowedPhaseTransitions : WorkerPhase → List WorkerPhase
  | initializing => [ready, running, failed, stopping]
  | ready => [running, stopping, failed]
  | running => [degraded, stopping, failed]
  | degraded => [running, stopping, failed]
  | stopping => [stopped, failed, completed]
  | stopped => []
  | completed => []
  | failed => []

/-- {lit}`TERMINAL_PHASES`. -/
def terminalPhases : List WorkerPhase :=
  [stopped, completed, failed]

def isTerminalPhase (phase : WorkerPhase) : Bool :=
  phase ∈ terminalPhases

/-- An edge of the table. -/
def Edge (fromPhase toPhase : WorkerPhase) : Prop :=
  toPhase ∈ allowedPhaseTransitions fromPhase

instance (fromPhase toPhase : WorkerPhase) : Decidable (Edge fromPhase toPhase) :=
  inferInstanceAs (Decidable (_ ∈ _))

def canTransition (fromPhase toPhase : WorkerPhase) : Bool :=
  if fromPhase = toPhase then false
  else if isTerminalPhase fromPhase then false
  else toPhase ∈ allowedPhaseTransitions fromPhase

/-- The reason of an {lit}`InvalidWorkerTransitionError`. -/
inductive TransitionError where
  | selfTransitionNotAllowed
  | terminalPhaseResurrectionNotAllowed
  | transitionEdgeNotAllowed
  deriving DecidableEq, Repr

def validateTransition (fromPhase toPhase : WorkerPhase) : Except TransitionError Unit :=
  if fromPhase = toPhase then .error .selfTransitionNotAllowed
  else if isTerminalPhase fromPhase then .error .terminalPhaseResurrectionNotAllowed
  else if toPhase ∉ allowedPhaseTransitions fromPhase then .error .transitionEdgeNotAllowed
  else .ok ()

/-- No edge leaves a terminal phase. -/
theorem not_edge_of_terminal {fromPhase toPhase : WorkerPhase}
    (h : isTerminalPhase fromPhase = true) : ¬ Edge fromPhase toPhase := by
  cases fromPhase <;> simp_all [isTerminalPhase, terminalPhases, Edge, allowedPhaseTransitions]

theorem not_edge_self (phase : WorkerPhase) : ¬ Edge phase phase := by
  cases phase <;> decide

theorem canTransition_iff {fromPhase toPhase : WorkerPhase} :
    canTransition fromPhase toPhase = true ↔ Edge fromPhase toPhase := by
  unfold canTransition
  split
  · rename_i heq
    subst heq
    simpa using not_edge_self fromPhase
  split
  · rename_i hterm
    simpa using not_edge_of_terminal hterm
  · simp [Edge]

/-- The validator accepts exactly the edges of the table. -/
theorem validateTransition_ok_iff {fromPhase toPhase : WorkerPhase} :
    validateTransition fromPhase toPhase = .ok () ↔ Edge fromPhase toPhase := by
  unfold validateTransition
  split
  · rename_i heq
    subst heq
    simpa using not_edge_self fromPhase
  split
  · rename_i hterm
    simpa using not_edge_of_terminal hterm
  split <;> simp_all [Edge]

end WorkerPhase

end Domain
end StrategyWorker
