import StrategyWorker.Application.Assignment
import StrategyWorker.Domain.Errors

/-!
# Strategies, one at a time

The manager keeps one strategy, whose adapter starts and stops it through a boundary
that makes results of exceptions.  What factories and hooks come to, and the order of
the calls, is left open.

Main results:

- Theorem {lit}`invoke_ok`: the boundary tells what a call comes to.
- Theorem {lit}`run_active`: the active instance is the last that was built and not
  released.
- Theorem {lit}`strategies_one_at_a_time`: over any run, one strategy is active at a
  time, and each is started once.
-/

namespace StrategyWorker
namespace Application

open Library
open Library.PyText
open Domain

deriving instance DecidableEq for StrategyAssignmentKey

/-! ## The boundary -/

/-- The classes of exceptions that the boundary tells apart. -/
inductive StrategyExceptionClass where
  /-- An error of the worker's own, with its code. -/
  | workerError (code : String)
  /-- {lit}`ValueError` or {lit}`TypeError`. -/
  | contractError
  | otherError

structure StrategyException where
  kind : StrategyExceptionClass
  typeName : String
  details : Option PyDict

namespace StrategyException

/-- {lit}`get_machine_error_code(exc)`. -/
def machineErrorCode (exc : StrategyException) : String :=
  match exc.kind with
  | .workerError code => code
  | .contractError | .otherError => WorkerErrorCode.internalError.value

/-- {lit}`_is_contract_exception(exc)`. -/
def isContract (exc : StrategyException) : Bool :=
  match exc.kind with
  | .workerError _ | .contractError => true
  | .otherError => false

end StrategyException

/-- What a call of a strategy comes to. -/
abbrev AdapterOutcome :=
  Except StrategyException PyVal

structure StrategyCallResult where
  ok : Bool
  value : PyVal
  errorCode : Option String
  reasonCode : Option String
  exception : Option StrategyException
  diagnostics : PyDict

/-- The result of a call that returned. -/
def StrategyCallResult.returned (value : PyVal) (diagnostics : PyDict) : StrategyCallResult where
  ok := true
  value := value
  errorCode := none
  reasonCode := none
  exception := none
  diagnostics := diagnostics

/-- A code as {lit}`StrategyCallResult` keeps it; a blank one is none. -/
def resultCode (code : String) : Option String :=
  let normalized := upper (strip code)
  if normalized = "" then none else some normalized

/-- The reason code of a call that raised. -/
def failureReason (isCleanup isContract : Bool) : String :=
  if isContract then
    if isCleanup then "STRATEGY_CLEANUP_CONTRACT_VIOLATION"
    else "STRATEGY_CALLBACK_CONTRACT_VIOLATION"
  else if isCleanup then "STRATEGY_CLEANUP_UNHANDLED_EXCEPTION"
  else "STRATEGY_CALLBACK_UNHANDLED_EXCEPTION"

/-- {lit}`_invoke(operation, func, is_cleanup)` for what {lit}`func` comes to. -/
def invoke (operation : String) (isCleanup : Bool) : AdapterOutcome → StrategyCallResult
  | .ok value => .returned value [("operation", .str operation)]
  | .error exc =>
      { ok := false
        value := .none
        errorCode := resultCode
          (if exc.isContract then exc.machineErrorCode else WorkerErrorCode.internalError.value)
        reasonCode := resultCode (failureReason isCleanup exc.isContract)
        exception := some exc
        diagnostics :=
          [("operation", .str operation),
            ("failure_kind", .str (if exc.isContract then "contract" else "unhandled")),
            ("exception_type", .str exc.typeName)] ++
          exc.details.elim [] fun details => [("error_details", .dict details)] }

theorem invoke_ok (operation : String) (isCleanup : Bool) (outcome : AdapterOutcome) :
    (invoke operation isCleanup outcome).ok = outcome.isOk := by
  cases outcome <;> rfl

/-- A failure keeps its reason code. -/
theorem resultCode_failureReason (isCleanup isContract : Bool) :
    resultCode (failureReason isCleanup isContract) =
      some (failureReason isCleanup isContract) := by
  cases isCleanup <;> cases isContract <;> decide +kernel

/-- A result that is not ok names its reason and holds the exception. -/
theorem invoke_error (operation : String) (isCleanup : Bool) (exc : StrategyException) :
    (invoke operation isCleanup (.error exc)).reasonCode =
        some (failureReason isCleanup exc.isContract) ∧
      (invoke operation isCleanup (.error exc)).exception = some exc := by
  simp only [invoke, resultCode_failureReason, and_self]

/-! ## The adapter -/

/-- A strategy as the adapter sees it: its class and the hooks that it has. -/
structure Strategy where
  isSdk : Bool
  hasBindContext : Bool
  hasInit : Bool
  hasOnStart : Bool
  hasStop : Bool

structure StrategyAdapter where
  strategy : Strategy
  hasBridge : Bool
  lifecycleStarted : Bool

inductive AdapterHook where
  | bindContext
  | onInit
  | onStart
  | onStop
  deriving DecidableEq

/-- A call of a hook, and whether it returned. -/
abbrev AdapterCall :=
  AdapterHook × Bool

/-- What the hooks of a start come to. -/
structure StartOutcomes where
  bindContext : AdapterOutcome
  onInit : AdapterOutcome
  onStart : AdapterOutcome

namespace StrategyAdapter

def new (strategy : Strategy) (hasBridge : Bool) : StrategyAdapter :=
  ⟨strategy, hasBridge, false⟩

/-- Whether the context of the bridge is bound before the start. -/
def bindsContext (a : StrategyAdapter) : Bool :=
  a.strategy.isSdk && a.hasBridge && a.strategy.hasBindContext

/-- The context is bound outside of the boundary. -/
def bindContext (a : StrategyAdapter) (o : StartOutcomes) : AdapterOutcome × List AdapterCall :=
  if a.bindsContext then (o.bindContext, [(.bindContext, o.bindContext.isOk)])
  else (.ok .none, [])

/-- {lit}`strategy.initialize` of an SDK strategy, or {lit}`_legacy_initialize()`. -/
def onInit (a : StrategyAdapter) (o : StartOutcomes) : StrategyCallResult × List AdapterCall :=
  if a.strategy.isSdk ∨ a.strategy.hasInit then
    (invoke "strategy.initialize" false o.onInit, [(.onInit, o.onInit.isOk)])
  else
    (.returned .none [("operation", .str "strategy.initialize"), ("skipped", .str "no_hook")], [])

/-- {lit}`on_start`, where the strategy has one. -/
def onStart (a : StrategyAdapter) (o : StartOutcomes) : StrategyCallResult × List AdapterCall :=
  if a.strategy.hasOnStart then
    (invoke "strategy.on_start" false o.onStart, [(.onStart, o.onStart.isOk)])
  else (.returned .none [("operation", .str "strategy.bind_and_start")], [])

/-- {lit}`bind_and_start()`: the result or what is raised, the adapter, and the hooks called. -/
def bindAndStart (a : StrategyAdapter) (o : StartOutcomes) :
    Except StrategyException StrategyCallResult × StrategyAdapter × List AdapterCall :=
  if a.lifecycleStarted then
    (.ok (.returned .none
      [("operation", .str "strategy.bind_and_start"), ("skipped", .str "already_started")]), a, [])
  else
    match a.bindContext o with
    | (.error exc, bound) => (.error exc, a, bound)
    | (.ok _, bound) =>
        if (a.onInit o).1.ok then
          if (a.onStart o).1.ok then
            (.ok (.returned .none [("operation", .str "strategy.bind_and_start")]),
              { a with lifecycleStarted := true }, bound ++ (a.onInit o).2 ++ (a.onStart o).2)
          else (.ok (a.onStart o).1, a, bound ++ (a.onInit o).2 ++ (a.onStart o).2)
        else (.ok (a.onInit o).1, a, bound ++ (a.onInit o).2)

/-- {lit}`stop()`. -/
def stop (a : StrategyAdapter) (outcome : AdapterOutcome) : StrategyCallResult × List AdapterCall :=
  if a.strategy.isSdk ∨ a.strategy.hasStop then
    (invoke "strategy.cleanup" true outcome, [(.onStop, outcome.isOk)])
  else (.returned .none [("operation", .str "strategy.stop")], [])

end StrategyAdapter

/-! ## The manager -/

/-- The active instance of the manager, and all adapters that were built, by number. -/
structure StrategyInstances where
  active : Option (StrategyAssignmentKey × Nat)
  adapters : List StrategyAdapter

inductive StrategyEvent where
  | built (key : StrategyAssignmentKey) (adapter : Nat)
  | called (adapter : Nat) (hook : AdapterHook) (returned : Bool)
  | released

/-- A call of the manager, or of an adapter that it built. -/
inductive StrategyCall where
  | create (key : StrategyAssignmentKey) (factory : Except StrategyException (Strategy × Bool))
  | bindAndStart (adapter : Nat) (o : StartOutcomes)
  | stop (adapter : Nat) (outcome : AdapterOutcome)
  | clear

/-- {lit}`SingleAssignmentViolationError` of two assignments. -/
def singleAssignmentViolation : StrategyException where
  kind := .workerError "WORKER_DOMAIN_SINGLE_ASSIGNMENT_VIOLATION"
  typeName := "SingleAssignmentViolationError"
  details := some [("reason", .str "distinct_active_assignment_conflict")]

/-- The calls of the hooks of one adapter. -/
def hookEvents (adapter : Nat) (calls : List AdapterCall) : List StrategyEvent :=
  calls.map fun call => .called adapter call.1 call.2

namespace StrategyInstances

def new : StrategyInstances :=
  ⟨none, []⟩

/-- {lit}`create(assignment_key, factory)`: the number of the adapter or what is raised. -/
def create (m : StrategyInstances) (key : StrategyAssignmentKey)
    (factory : Except StrategyException (Strategy × Bool)) :
    Except StrategyException Nat × StrategyInstances × List StrategyEvent :=
  match m.active with
  | some (known, adapter) =>
      if known = key then (.ok adapter, m, []) else (.error singleAssignmentViolation, m, [])
  | none =>
      match factory with
      | .error exc => (.error exc, { m with active := none }, [])
      | .ok (strategy, hasBridge) =>
          (.ok m.adapters.length,
            { active := some (key, m.adapters.length)
              adapters := m.adapters ++ [.new strategy hasBridge] },
            [.built key m.adapters.length])

/-- The manager and the adapters after a call, and what it did; {lit}`stop(adapter)` clears the
manager whatever the hook comes to. -/
def after (m : StrategyInstances) : StrategyCall → StrategyInstances × List StrategyEvent
  | .create key factory => (m.create key factory).2
  | .bindAndStart adapter o =>
      match m.adapters[adapter]? with
      | none => (m, [])
      | some a =>
          ({ m with adapters := m.adapters.set adapter (a.bindAndStart o).2.1 },
            hookEvents adapter (a.bindAndStart o).2.2)
  | .stop adapter outcome =>
      match m.adapters[adapter]? with
      | none => (m, [])
      | some a => ({ m with active := none }, hookEvents adapter (a.stop outcome).2 ++ [.released])
  | .clear => ({ m with active := none }, [.released])

/-- A run of calls, and what it did. -/
def run (m : StrategyInstances) : List StrategyCall → StrategyInstances × List StrategyEvent
  | [] => (m, [])
  | call :: calls =>
      (((m.after call).1.run calls).1, (m.after call).2 ++ ((m.after call).1.run calls).2)

end StrategyInstances

/-! ## What the events say -/

/-- The instance that is active after an event. -/
def activeAfter (active : Option (StrategyAssignmentKey × Nat)) :
    StrategyEvent → Option (StrategyAssignmentKey × Nat)
  | .built key adapter => some (key, adapter)
  | .called .. => active
  | .released => none

/-- Strategies are built only while none is active. -/
def BuiltAlone : Option (StrategyAssignmentKey × Nat) → List StrategyEvent → Prop
  | _, [] => True
  | active, e :: events =>
      (∀ key adapter, e = .built key adapter → active = none) ∧
        BuiltAlone (activeAfter active e) events

/-- After a start that returned, the strategy is only stopped. -/
def OnlyStops (e e' : StrategyEvent) : Prop :=
  ∀ adapter, e = .called adapter .onStart true →
    ∀ hook returned, e' = .called adapter hook returned → hook = .onStop

section

variable {active : Option (StrategyAssignmentKey × Nat)} {adapter : Nat}

theorem builtAlone_append {events later : List StrategyEvent} :
    BuiltAlone active (events ++ later) ↔
      BuiltAlone active events ∧ BuiltAlone (events.foldl activeAfter active) later := by
  induction events generalizing active with
  | nil => simp [BuiltAlone]
  | cons e events ih => simp [BuiltAlone, ih, and_assoc]

/-- Hooks neither build nor release an instance. -/
theorem hookEvents_active (active : Option (StrategyAssignmentKey × Nat)) (adapter : Nat)
    (calls : List AdapterCall) :
    (hookEvents adapter calls).foldl activeAfter active = active ∧
      BuiltAlone active (hookEvents adapter calls) := by
  induction calls with
  | nil => exact ⟨rfl, trivial⟩
  | cons call calls ih =>
      refine ⟨ih.1, ?_, ih.2⟩
      intro key number h
      cases h

theorem called_mem_hookEvents {calls : List AdapterCall} {number : Nat} {hook : AdapterHook}
    {returned : Bool} :
    .called number hook returned ∈ hookEvents adapter calls ↔
      number = adapter ∧ (hook, returned) ∈ calls := by
  simp only [hookEvents, List.mem_map, StrategyEvent.called.injEq]
  constructor
  · rintro ⟨call, hmem, rfl, rfl, rfl⟩
    exact ⟨rfl, hmem⟩
  · rintro ⟨rfl, hmem⟩
    exact ⟨_, hmem, rfl, rfl, rfl⟩

/-- Where only the last hook may be a start that returned, no hook follows one. -/
theorem hookEvents_pairwise {calls : List AdapterCall}
    (h : calls.Pairwise fun call _ => call ≠ (.onStart, true)) :
    (hookEvents adapter calls).Pairwise OnlyStops := by
  rw [hookEvents, List.pairwise_map]
  refine h.imp fun {call later} hcall number hstart => ?_
  rw [StrategyEvent.called.injEq] at hstart
  exact absurd (Prod.ext hstart.2.1 hstart.2.2) hcall

end

/-! ## One call -/

namespace StrategyAdapter

variable (a : StrategyAdapter) (o : StartOutcomes)

/-- What a start does to an adapter and which hooks it calls: none when it has started before, and
else at most the last of them is an {lit}`on_start` that returns. -/
structure Starts (a : StrategyAdapter) (r : StrategyAdapter × List AdapterCall) : Prop where
  keeps : a.lifecycleStarted = true → r.1.lifecycleStarted = true ∧ r.2 = []
  started : (.onStart, true) ∈ r.2 → r.1.lifecycleStarted = true
  last : r.2.Pairwise fun call _ => call ≠ (.onStart, true)

/-- The hooks that are called before {lit}`on_start`. -/
theorem ne_onStart {call : AdapterCall} (h : call ∈ (a.bindContext o).2 ++ (a.onInit o).2) :
    call.1 ≠ .onStart := by
  rcases List.mem_append.1 h with h | h
  · unfold bindContext at h
    split at h
    · rw [List.mem_singleton.1 h]
      simp
    · cases h
  · unfold onInit at h
    split at h
    · rw [List.mem_singleton.1 h]
      simp
    · cases h

/-- The hook of {lit}`on_start` returns when its result is ok. -/
theorem onStart_calls :
    (a.onStart o).2 = [] ∨ (a.onStart o).2 = [(.onStart, (a.onStart o).1.ok)] := by
  unfold onStart
  split
  · rw [invoke_ok]
    exact .inr rfl
  · exact .inl rfl

/-- A start that does not come to its end leaves the adapter as it is. -/
theorem starts_of_ne {calls : List AdapterCall} (hnew : a.lifecycleStarted = false)
    (h : ∀ call ∈ calls, call ≠ (.onStart, true)) : Starts a (a, calls) where
  keeps hstarted := absurd hstarted (by rw [hnew]; decide)
  started hmem := absurd rfl (h _ hmem)
  last := List.pairwise_of_forall_mem_list fun call hcall _ _ => h call hcall

theorem bindAndStart_starts : Starts a (a.bindAndStart o).2 := by
  have hearlier : ∀ call ∈ (a.bindContext o).2 ++ (a.onInit o).2, call ≠ (.onStart, true) :=
    fun call hcall heq => a.ne_onStart o hcall (by rw [heq])
  unfold bindAndStart
  split
  · rename_i hstarted
    exact ⟨fun _ => ⟨hstarted, rfl⟩, fun h => absurd h List.not_mem_nil, List.Pairwise.nil⟩
  · rename_i hnew
    rw [Bool.not_eq_true] at hnew
    cases hbound : a.bindContext o with
    | mk outcome bound =>
        rw [hbound] at hearlier
        cases outcome with
        | error exc =>
            exact a.starts_of_ne hnew fun call hcall => hearlier call (List.mem_append_left _ hcall)
        | ok value =>
            dsimp only at hearlier ⊢
            split
            · split
              · rename_i hok
                refine ⟨fun hstarted => absurd hstarted (by rw [hnew]; decide), fun _ => rfl, ?_⟩
                refine List.pairwise_append.2 ⟨?_, ?_, fun call hcall _ _ => hearlier call hcall⟩
                · exact List.pairwise_of_forall_mem_list fun call hcall _ _ => hearlier call hcall
                · rcases a.onStart_calls o with h | h
                  · rw [h]
                    exact List.Pairwise.nil
                  · rw [h]
                    exact List.pairwise_singleton _ _
              · rename_i hfailed
                refine a.starts_of_ne hnew fun call hcall => ?_
                rcases List.mem_append.1 hcall with hcall | hcall
                · exact hearlier call hcall
                · rcases a.onStart_calls o with h | h
                  · rw [h] at hcall
                    cases hcall
                  · rw [h] at hcall
                    rw [List.mem_singleton.1 hcall, Bool.eq_false_iff.2 hfailed]
                    decide
            · exact a.starts_of_ne hnew hearlier

/-- A stop calls no other hook. -/
theorem stop_calls {outcome : AdapterOutcome} {call : AdapterCall} (h : call ∈ (a.stop outcome).2) :
    call.1 = .onStop := by
  unfold stop at h
  split at h
  · rw [List.mem_singleton.1 h]
  · cases h

end StrategyAdapter

namespace StrategyInstances

variable (m : StrategyInstances)

/-- The adapter has started its strategy. -/
def Started (m : StrategyInstances) (adapter : Nat) : Prop :=
  ∃ a, m.adapters[adapter]? = some a ∧ a.lifecycleStarted = true

/-- A creation that returns answers with the active instance, which has the key asked for. -/
theorem create_eq_ok {key : StrategyAssignmentKey}
    {factory : Except StrategyException (Strategy × Bool)} {adapter : Nat}
    (h : (m.create key factory).1 = .ok adapter) :
    (m.create key factory).2.1.active = some (key, adapter) := by
  unfold create at h ⊢
  cases hactive : m.active with
  | some known =>
      rw [hactive] at h
      dsimp only at h ⊢
      split at h
      · rename_i hsame
        rw [if_pos hsame, hactive, ← hsame, ← Except.ok.inj h]
      · cases h
  | none =>
      rw [hactive] at h
      cases factory with
      | error exc => cases h
      | ok built => rw [← Except.ok.inj h]

/-- A call makes that instance active that its events say, and builds while none is active. -/
theorem after_active (call : StrategyCall) :
    (m.after call).1.active = (m.after call).2.foldl activeAfter m.active ∧
      BuiltAlone m.active (m.after call).2 := by
  cases call with
  | create key factory =>
      simp only [after, create]
      cases hactive : m.active with
      | some known =>
          dsimp only
          split <;> exact ⟨hactive, trivial⟩
      | none =>
          cases factory with
          | error exc => exact ⟨rfl, trivial⟩
          | ok built => exact ⟨rfl, fun _ _ _ => rfl, trivial⟩
  | bindAndStart adapter o =>
      simp only [after]
      split
      · exact ⟨rfl, trivial⟩
      · rename_i a _
        rcases hookEvents_active m.active adapter (a.bindAndStart o).2.2 with ⟨hactive, hbuilt⟩
        exact ⟨hactive.symm, hbuilt⟩
  | stop adapter outcome =>
      simp only [after]
      split
      · exact ⟨rfl, trivial⟩
      · rename_i a _
        rcases hookEvents_active m.active adapter (a.stop outcome).2 with ⟨hactive, hbuilt⟩
        rw [List.foldl_append, builtAlone_append]
        refine ⟨rfl, hbuilt, ?_, trivial⟩
        intro key number h
        cases h
  | clear =>
      refine ⟨rfl, ?_, trivial⟩
      intro key number h
      cases h

/-- A strategy that has started stays so, and a call does no more than stop it. -/
theorem after_started {adapter : Nat} (h : m.Started adapter) (call : StrategyCall) :
    (m.after call).1.Started adapter ∧
      ∀ hook returned, .called adapter hook returned ∈ (m.after call).2 → hook = .onStop := by
  have hnothing : m.Started adapter ∧ ∀ hook returned,
      StrategyEvent.called adapter hook returned ∈ [] → hook = .onStop :=
    ⟨h, fun _ _ hmem => absurd hmem List.not_mem_nil⟩
  rcases h with ⟨a, ha, hstarted⟩
  cases call with
  | create key factory =>
      simp only [after, create]
      cases hactive : m.active with
      | some known =>
          dsimp only
          split <;> exact hnothing
      | none =>
          cases factory with
          | error exc => exact hnothing
          | ok built =>
              refine ⟨⟨a, ?_, hstarted⟩, fun hook returned h => ?_⟩
              · rw [List.getElem?_append_left (List.getElem?_eq_some_iff.1 ha).1, ha]
              · cases List.mem_singleton.1 h
  | bindAndStart number o =>
      simp only [after]
      split
      · exact hnothing
      · rename_i b hb
        by_cases hnumber : number = adapter
        · subst hnumber
          obtain rfl := Option.some.inj (ha.symm.trans hb)
          rcases (a.bindAndStart_starts o).keeps hstarted with ⟨hkept, hnone⟩
          refine ⟨⟨_, ?_, hkept⟩, fun hook returned h => ?_⟩
          · rw [List.getElem?_set_self (List.getElem?_eq_some_iff.1 ha).1]
          · rw [hnone] at h
            cases h
        · refine ⟨⟨a, ?_, hstarted⟩, fun hook returned h => ?_⟩
          · rw [List.getElem?_set_ne hnumber, ha]
          · exact absurd (called_mem_hookEvents.1 h).1.symm hnumber
  | stop number outcome =>
      simp only [after]
      split
      · exact hnothing
      · rename_i b _
        refine ⟨⟨a, ha, hstarted⟩, fun hook returned h => ?_⟩
        rcases List.mem_append.1 h with h | h
        · exact b.stop_calls (called_mem_hookEvents.1 h).2
        · cases List.mem_singleton.1 h
  | clear =>
      refine ⟨⟨a, ha, hstarted⟩, fun hook returned h => ?_⟩
      cases List.mem_singleton.1 h

/-- After a start that returns the strategy has started, and the call does no more to it. -/
theorem after_starts (call : StrategyCall) :
    (m.after call).2.Pairwise OnlyStops ∧
      ∀ adapter, .called adapter .onStart true ∈ (m.after call).2 →
        (m.after call).1.Started adapter := by
  have hnothing : ([] : List StrategyEvent).Pairwise OnlyStops ∧
      ∀ adapter, StrategyEvent.called adapter .onStart true ∈ [] → m.Started adapter :=
    ⟨List.Pairwise.nil, fun _ hmem => absurd hmem List.not_mem_nil⟩
  cases call with
  | create key factory =>
      simp only [after, create]
      cases hactive : m.active with
      | some known =>
          dsimp only
          split <;> exact hnothing
      | none =>
          cases factory with
          | error exc => exact hnothing
          | ok built =>
              refine ⟨List.pairwise_singleton _ _, fun adapter h => ?_⟩
              cases List.mem_singleton.1 h
  | bindAndStart number o =>
      simp only [after]
      split
      · exact hnothing
      · rename_i a ha
        have hstarts := a.bindAndStart_starts o
        refine ⟨hookEvents_pairwise hstarts.last, fun adapter h => ?_⟩
        rcases called_mem_hookEvents.1 h with ⟨rfl, hmem⟩
        refine ⟨_, ?_, hstarts.started hmem⟩
        rw [List.getElem?_set_self (List.getElem?_eq_some_iff.1 ha).1]
  | stop number outcome =>
      simp only [after]
      split
      · exact hnothing
      · rename_i a _
        have hstop : ∀ adapter returned,
            .called adapter .onStart returned ∉
              hookEvents number (a.stop outcome).2 ++ [.released] := by
          intro adapter returned h
          rcases List.mem_append.1 h with h | h
          · have hhook := a.stop_calls (called_mem_hookEvents.1 h).2
            cases hhook
          · cases List.mem_singleton.1 h
        refine ⟨List.pairwise_of_forall_mem_list fun e he _ _ adapter hstart => ?_,
          fun adapter h => absurd h (hstop adapter true)⟩
        subst hstart
        exact absurd he (hstop adapter true)
  | clear =>
      refine ⟨List.pairwise_singleton _ _, fun adapter h => ?_⟩
      cases List.mem_singleton.1 h

/-! ## Runs -/

theorem run_active (calls : List StrategyCall) :
    (m.run calls).1.active = (m.run calls).2.foldl activeAfter m.active ∧
      BuiltAlone m.active (m.run calls).2 := by
  induction calls generalizing m with
  | nil => exact ⟨rfl, trivial⟩
  | cons call calls ih =>
      rcases m.after_active call with ⟨hactive, hbuilt⟩
      rcases ih (m.after call).1 with ⟨hlater, hbuiltLater⟩
      simp only [run]
      rw [List.foldl_append, builtAlone_append, ← hactive]
      exact ⟨hlater, hbuilt, hbuiltLater⟩

theorem run_started {adapter : Nat} (h : m.Started adapter) (calls : List StrategyCall) :
    ∀ hook returned, .called adapter hook returned ∈ (m.run calls).2 → hook = .onStop := by
  induction calls generalizing m with
  | nil =>
      intro hook returned hmem
      cases hmem
  | cons call calls ih =>
      intro hook returned hmem
      rcases m.after_started h call with ⟨hnext, hstops⟩
      rcases List.mem_append.1 hmem with hmem | hmem
      · exact hstops hook returned hmem
      · exact ih (m.after call).1 hnext hook returned hmem

theorem run_starts (calls : List StrategyCall) : (m.run calls).2.Pairwise OnlyStops := by
  induction calls generalizing m with
  | nil => exact List.Pairwise.nil
  | cons call calls ih =>
      rcases m.after_starts call with ⟨hpairwise, hstarted⟩
      refine List.pairwise_append.2 ⟨hpairwise, ih (m.after call).1, ?_⟩
      intro e he later hlater adapter hstart hook returned hcalled
      subst hstart hcalled
      exact (m.after call).1.run_started (hstarted adapter he) calls hook returned hlater

end StrategyInstances
end Application
end StrategyWorker
