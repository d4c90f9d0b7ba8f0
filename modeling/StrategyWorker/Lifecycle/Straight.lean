import StrategyWorker.Lifecycle.Machine

/-!
# Straight-line code

The bodies of {lit}`start`, its rollback and {lit}`stop` are sequences of
calls, records, assignments and phases.  When a thread executes such a sequence
with nothing in between, the first call that raises is the end of it.
{lit}`runStraight` computes that end, and {lit}`finishes_straight` connects it
to the threads.

Main results:

- Theorem {lit}`finishes_straight`: a thread that executes straight-line code
  alone ends as {lit}`runStraight` does.
- Theorem {lit}`runCall_error`: what a call raises.
- Theorem {lit}`called_of_mem`: every call in code that runs through has been
  come to.
-/

namespace StrategyWorker
namespace Lifecycle

open Domain Library

/-! ## Running code in one go -/

/-- The state in which code ends, and the error that ended it. -/
abbrev Verdict := Service × Option Error

/-- Go on unless an error has occurred. -/
def Verdict.andThen (v : Verdict) (k : Service → Verdict) : Verdict :=
  match v.2 with
  | none => k v.1
  | some _ => v

@[simp]
theorem andThen_ok (s : Service) (k : Service → Verdict) :
    Verdict.andThen (s, none) k = k s :=
  rfl

@[simp]
theorem andThen_error (s : Service) (e : Error) (k : Service → Verdict) :
    Verdict.andThen (s, some e) k = (s, some e) :=
  rfl

theorem andThen_eq_none {v : Verdict} {k : Service → Verdict} :
    (v.andThen k).2 = none ↔ v.2 = none ∧ (k v.1).2 = none := by
  rcases v with ⟨s, _ | e⟩ <;> simp

def runCall (w : Wiring) (env : Op → Outcome) (s : Service) (c : Call) : Verdict :=
  match execCall w s c (env (.call c)) with
  | .next t _ _ => (t, none)
  | .raise t e => (t, some e)

theorem andThen_of_ok {v : Verdict} {k : Service → Verdict} (h : v.2 = none) :
    v.andThen k = k v.1 := by
  rw [Verdict.andThen, h]

/-- The first of two errors. -/
theorem andThen_first {v : Verdict} {k : Service → Verdict} {a b : Option Error} (hv : v.2 = a)
    (hk : v.2 = none → (k v.1).2 = b) : (v.andThen k).2 = a.or b := by
  subst hv
  rcases v with ⟨s, _ | e⟩
  · exact hk rfl
  · rfl

/-- Calls one after the other. -/
def runCalls (w : Wiring) (env : Op → Outcome) (s : Service) : List Call → Verdict
  | [] => (s, none)
  | c :: cs => Verdict.andThen (runCall w env s c) fun t => runCalls w env t cs

theorem runCalls_cons (w : Wiring) (env : Op → Outcome) (s : Service) (c : Call)
    (cs : List Call) :
    runCalls w env s (c :: cs) =
      (runCall w env s c).andThen fun t => runCalls w env t cs :=
  rfl

/-- {lit}`self._phase = phase`. -/
def Service.enter (s : Service) (phase : WorkerPhase) : Service :=
  { s with phase := phase }.note (.phaseSet s.phase phase)

/-- The calls of {lit}`_set_phase`. -/
def setPhaseCalls (previous phase : WorkerPhase) : List Call :=
  (if phase = .failed then [.emitFailedStatus] else []) ++ [.recordPhaseChange previous phase]

/-- What an operation assigns and notes before it calls anything. -/
def Service.begin (s : Service) : Op → Service
  | .recordStartup step => s.note (.startupStep step)
  | .recordShutdown step => s.note (.shutdownStep step)
  | .assign a => s.assign a
  | .setPhase phase => s.enter phase
  | _ => s

/-- The calls of an operation. -/
def callsOf (s : Service) : Op → List Call
  | .call c => [c]
  | .recordStartup step => [.recordStartupStep step]
  | .recordShutdown step => [.recordShutdownStep step]
  | .setPhase phase => setPhaseCalls s.phase phase
  | _ => []

/-- An operation together with what it pushes. -/
def runOp (w : Wiring) (env : Op → Outcome) (s : Service) (op : Op) : Verdict :=
  match op with
  | .raise e => (s, some e)
  | op => runCalls w env (s.begin op) (callsOf s op)

/-- Operations that neither read the state nor handle an error. -/
def isStraight : Op → Bool
  | .call _ | .recordStartup _ | .recordShutdown _ | .assign _ | .setPhase _ | .raise _
  | .stopReturn => true
  | _ => false

def runStraight (w : Wiring) (env : Op → Outcome) (s : Service) : List Op → Verdict
  | [] => (s, none)
  | op :: rest => Verdict.andThen (runOp w env s op) fun t => runStraight w env t rest

abbrev LifecycleEnding := ThreadMachine.Ending Service Op Error

/-- Outcomes in which the given calls raise and all others succeed. -/
def failing (calls : List (Call × ErrorKind)) : Op → Outcome
  | .call c =>
      match calls.lookup c with
      | some kind => ⟨false, some kind⟩
      | none => .ok
  | _ => .ok

variable {w : Wiring} {env : Op → Outcome}

theorem runStraight_cons_ok {s : Service} {op : Op} {rest : List Op}
    (h : (runOp w env s op).2 = none) :
    runStraight w env s (op :: rest) = runStraight w env (runOp w env s op).1 rest :=
  andThen_of_ok h

theorem runStraight_append (s : Service) (code code' : List Op) :
    runStraight w env s (code ++ code') =
      Verdict.andThen (runStraight w env s code) fun t => runStraight w env t code' := by
  induction code generalizing s with
  | nil => rfl
  | cons op code ih =>
      simp only [List.cons_append, runStraight]
      rcases hop : runOp w env s op with ⟨t, _ | e⟩
      · exact ih t
      · rfl

/-! ## A thread that runs alone -/

theorem unwind_straight {e : Error} {code : List Op} (h : ∀ op ∈ code, isStraight op = true) :
    (machine w).unwind e code = none := by
  induction code with
  | nil => rfl
  | cons op code ih =>
      have hop := h op List.mem_cons_self
      have hnone : (machine w).handler op e = none := by
        cases op <;> first | rfl | cases hop
      rw [ThreadMachine.unwind, hnone]
      exact ih fun o ho => h o (List.mem_cons_of_mem _ ho)

theorem setPhaseBody_eq (previous phase : WorkerPhase) :
    setPhaseBody previous phase =
      .writePhase previous phase :: (setPhaseCalls previous phase).map .call := by
  unfold setPhaseBody setPhaseCalls
  split <;> rfl

/-- An operation that goes on, starting no thread. -/
theorem finishes_step {s t : Service} {op : Op} {push rest : List Op} {spawned : List (List Op)}
    {r : LifecycleEnding} (h : exec w s op (env op) = some (.next t push [])) :
    (machine w).Finishes env s (op :: rest) spawned r ↔
      (machine w).Finishes env t (push ++ rest) spawned r := by
  have hexec : (machine w).exec s op (env op) = some (.next t push []) := h
  rw [ThreadMachine.finishes_next hexec, List.append_nil]

/-- A call before straight-line code ends the thread when it raises. -/
theorem finishes_call {s : Service} {c : Call} {rest : List Op} {spawned : List (List Op)}
    {r : LifecycleEnding} (hrest : ∀ op ∈ rest, isStraight op = true) :
    (machine w).Finishes env s (.call c :: rest) spawned r ↔
      match runCall w env s c with
      | (t, none) => (machine w).Finishes env t rest spawned r
      | (t, some e) => r = ⟨t, some e, spawned⟩ := by
  have hexec : (machine w).exec s (.call c) (env (.call c)) =
      some (execCall w s c (env (.call c))) := rfl
  have hpushed := execCall_pushed w s c (env (.call c))
  have hspawned := execCall_spawned w s c (env (.call c))
  unfold runCall
  cases hcall : execCall w s c (env (.call c)) with
  | next t push codes =>
      rw [hcall] at hexec hpushed hspawned
      simp only [Effect.pushed, Effect.spawned] at hpushed hspawned
      subst hpushed hspawned
      have hnext : exec w s (.call c) (env (.call c)) = some (.next t [] []) := hexec
      exact finishes_step hnext
  | raise t e =>
      rw [hcall] at hexec
      exact ThreadMachine.finishes_escaped hexec (unwind_straight hrest)

/-- What {lit}`runStraight` computes, as the end of a thread. -/
def Verdict.ending (v : Verdict) (spawned : List (List Op)) : LifecycleEnding :=
  ⟨v.1, v.2, spawned⟩

/-- A thread that executes straight-line code alone ends as {lit}`runStraight` does. -/
theorem finishes_straight {s : Service} {code : List Op} {spawned : List (List Op)}
    {r : LifecycleEnding} (hcode : ∀ op ∈ code, isStraight op = true) :
    (machine w).Finishes env s code spawned r ↔
      r = (runStraight w env s code).ending spawned := by
  induction code generalizing s with
  | nil => exact ThreadMachine.finishes_nil
  | cons op rest ih =>
      have hop := hcode op List.mem_cons_self
      have hrest := fun o ho => hcode o (List.mem_cons_of_mem _ ho)
      -- the calls that the operation makes, and what follows them
      have hcalls : ∀ (cs : List Call) t,
          (machine w).Finishes env t (cs.map .call ++ rest) spawned r ↔
            r = ((runCalls w env t cs).andThen fun t => runStraight w env t rest).ending
              spawned := by
        intro cs
        induction cs with
        | nil => exact fun t => ih hrest
        | cons c cs ihc =>
            intro t
            have hstraight : ∀ o ∈ cs.map Op.call ++ rest, isStraight o = true := by
              intro o ho
              rcases List.mem_append.1 ho with ho | ho
              · rcases List.mem_map.1 ho with ⟨c', -, rfl⟩
                rfl
              · exact hrest o ho
            rw [List.map_cons, List.cons_append, finishes_call hstraight]
            simp only [runCalls]
            rcases runCall w env t c with ⟨u, _ | e⟩
            · exact ihc u
            · rfl
      cases op with
      | call c => exact hcalls [c] s
      | recordStartup step =>
          rw [finishes_step rfl]
          exact hcalls [.recordStartupStep step] _
      | recordShutdown step =>
          rw [finishes_step rfl]
          exact hcalls [.recordShutdownStep step] _
      | assign a =>
          rw [finishes_step rfl]
          exact hcalls [] _
      | stopReturn =>
          rw [finishes_step rfl]
          exact hcalls [] _
      | raise e => exact ThreadMachine.finishes_escaped rfl (unwind_straight hrest)
      | setPhase phase =>
          rw [finishes_step rfl, setPhaseBody_eq, List.cons_append, finishes_step rfl]
          exact hcalls (setPhaseCalls s.phase phase) _
      | _ => cases hop

/-! ## Calls that raise -/

/-- The error that comes out of a call. -/
def escapes (w : Wiring) (env : Op → Outcome) (s : Service) (c : Call) : Option Error :=
  if applies w s c && !swallowed c then (env (.call c)).error.map (.raisedBy c) else none

theorem runCall_error (w : Wiring) (env : Op → Outcome) (s : Service) (c : Call) :
    (runCall w env s c).2 = escapes w env s c := by
  unfold runCall escapes
  rcases execCall_cases w s c (env (.call c)) with
    ⟨ha, he⟩ | ⟨ha, ⟨herror, he⟩ | ⟨kind, herror, ⟨hs, he⟩ | ⟨hs, he⟩⟩⟩ <;>
    simp [*]

/-- A call notes that it was come to. -/
theorem runCall_log (w : Wiring) (env : Op → Outcome) (s : Service) (c : Call) :
    (runCall w env s c).1.log = s.log ++ emits w s (env (.call c)) (.call c) := by
  have hexec : exec w s (.call c) (env (.call c)) = some (execCall w s c (env (.call c))) := rfl
  have hlog := exec_log hexec
  unfold runCall
  cases hcall : execCall w s c (env (.call c)) <;> rw [hcall] at hlog <;> exact hlog

theorem runCall_flags (w : Wiring) (env : Op → Outcome) (s : Service) (c : Call) :
    SameFlags s (runCall w env s c).1 := by
  have hsame := sameFlags_execCall w s c (env (.call c))
  unfold runCall
  cases hcall : execCall w s c (env (.call c)) <;> rw [hcall] at hsame <;> exact hsame

/-- An error of several calls is that of one of them. -/
theorem runCalls_error {s : Service} {cs : List Call} {e : Error}
    (h : (runCalls w env s cs).2 = some e) :
    ∃ c ∈ cs, ∃ kind, e = .raisedBy c kind ∧ swallowed c = false := by
  induction cs generalizing s with
  | nil => cases h
  | cons c cs ih =>
      have hcall := runCall_error w env s c
      simp only [runCalls] at h
      rcases hrun : runCall w env s c with ⟨t, _ | e'⟩
      · rw [hrun] at h
        rcases ih h with ⟨c', hc', hkind⟩
        exact ⟨c', List.mem_cons_of_mem _ hc', hkind⟩
      · rw [hrun] at h hcall
        cases h
        unfold escapes at hcall
        split at hcall
        · rename_i happlies
          rcases Option.map_eq_some_iff.1 hcall.symm with ⟨kind, -, rfl⟩
          refine ⟨c, List.mem_cons_self, kind, rfl, ?_⟩
          simp only [Bool.and_eq_true, Bool.not_eq_true'] at happlies
          exact happlies.2
        · cases hcall

/-- An error of straight-line code is raised there, or by one of its calls. -/
theorem runStraight_error {s : Service} {code : List Op} {e : Error}
    (h : (runStraight w env s code).2 = some e) :
    .raise e ∈ code ∨ ∃ op ∈ code, ∃ t, ∃ c ∈ callsOf t op, ∃ kind,
      e = .raisedBy c kind ∧ swallowed c = false := by
  induction code generalizing s with
  | nil => cases h
  | cons op rest ih =>
      simp only [runStraight] at h
      rcases hop : runOp w env s op with ⟨t, _ | e'⟩
      · rw [hop] at h
        rcases ih h with hraise | ⟨o, ho, hcall⟩
        · exact .inl (List.mem_cons_of_mem _ hraise)
        · exact .inr ⟨o, List.mem_cons_of_mem _ ho, hcall⟩
      · rw [hop] at h
        cases h
        have herror : (runOp w env s op).2 = some e := by rw [hop]
        unfold runOp at herror
        split at herror
        · cases herror
          exact .inl List.mem_cons_self
        · exact .inr ⟨op, List.mem_cons_self, s, runCalls_error herror⟩

/-! ## Where a run has been -/

theorem runCalls_log (w : Wiring) (env : Op → Outcome) (s : Service) (cs : List Call) :
    s.log <+: (runCalls w env s cs).1.log := by
  induction cs generalizing s with
  | nil => exact List.prefix_rfl
  | cons c cs ih =>
      have hcall := runCall_log w env s c
      simp only [runCalls]
      rcases hrun : runCall w env s c with ⟨t, _ | e⟩ <;> rw [hrun] at hcall
      · exact (hcall ▸ List.prefix_append _ _).trans (ih t)
      · exact hcall ▸ List.prefix_append _ _

theorem begin_log (s : Service) (op : Op) : s.log <+: (s.begin op).log := by
  unfold Service.begin
  split
  case h_3 a =>
    unfold Service.assign
    split <;> simp
  all_goals simp [Service.enter]

theorem runOp_log (w : Wiring) (env : Op → Outcome) (s : Service) (op : Op) :
    s.log <+: (runOp w env s op).1.log := by
  unfold runOp
  split
  · exact List.prefix_rfl
  · exact (begin_log s op).trans (runCalls_log w env _ _)

/-- A run only adds to the log. -/
theorem runStraight_log (w : Wiring) (env : Op → Outcome) (s : Service) (code : List Op) :
    s.log <+: (runStraight w env s code).1.log := by
  induction code generalizing s with
  | nil => exact List.prefix_rfl
  | cons op rest ih =>
      have hop := runOp_log w env s op
      simp only [runStraight]
      rcases hrun : runOp w env s op with ⟨t, _ | e⟩ <;> rw [hrun] at hop
      · exact hop.trans (ih t)
      · exact hop

theorem runCalls_flags (w : Wiring) (env : Op → Outcome) (s : Service) (cs : List Call) :
    SameFlags s (runCalls w env s cs).1 := by
  induction cs generalizing s with
  | nil => exact SameFlags.refl s
  | cons c cs ih =>
      have hcall := runCall_flags w env s c
      simp only [runCalls]
      rcases hrun : runCall w env s c with ⟨t, _ | e⟩ <;> rw [hrun] at hcall
      · exact hcall.trans (ih t)
      · exact hcall

/-- A call leaves alone what its return does not assign. -/
theorem runCall_keeps {α : Type} (field : Service → α) {c : Call}
    (hnote : ∀ s e, field (s.note e) = field s) (hsucceed : ∀ s, field (s.succeed c) = field s)
    (s : Service) : field (runCall w env s c).1 = field s := by
  unfold runCall
  rcases execCall_cases w s c (env (.call c)) with
    ⟨-, he⟩ | ⟨-, ⟨-, he⟩ | ⟨kind, -, ⟨-, he⟩ | ⟨-, he⟩⟩⟩ <;> simp [he, hnote, hsucceed]

theorem runCalls_keeps {α : Type} (field : Service → α) {cs : List Call}
    (hnote : ∀ s e, field (s.note e) = field s)
    (hsucceed : ∀ c ∈ cs, ∀ s, field (s.succeed c) = field s) (s : Service) :
    field (runCalls w env s cs).1 = field s := by
  induction cs generalizing s with
  | nil => rfl
  | cons c cs ih =>
      have hcall : field (runCall w env s c).1 = field s :=
        runCall_keeps field hnote (hsucceed c List.mem_cons_self) s
      simp only [runCalls]
      rcases hrun : runCall w env s c with ⟨t, _ | e⟩ <;> rw [hrun] at hcall
      · rw [andThen_ok, ih fun d hd => hsucceed d (List.mem_cons_of_mem _ hd)]
        exact hcall
      · exact hcall

/-- The call was made after the state {lit}`s`. -/
def CalledSince (s t : Service) (c : Call) : Prop :=
  ∃ events delivered, t.log = s.log ++ events ∧ .called c delivered ∈ events

theorem CalledSince.trans {s t u : Service} {c : Call} (h : CalledSince s t c)
    (htu : t.log <+: u.log) : CalledSince s u c := by
  rcases h with ⟨events, delivered, hlog, hmem⟩
  rcases htu with ⟨more, hmore⟩
  refine ⟨events ++ more, delivered, ?_, List.mem_append_left _ hmem⟩
  rw [← hmore, hlog, List.append_assoc]

theorem CalledSince.of_later {s s' t : Service} {c : Call} (h : CalledSince s' t c)
    (hss : s.log <+: s'.log) : CalledSince s t c := by
  rcases h with ⟨events, delivered, hlog, hmem⟩
  rcases hss with ⟨more, hmore⟩
  refine ⟨more ++ events, delivered, ?_, List.mem_append_right _ hmem⟩
  rw [hlog, ← hmore, List.append_assoc]

theorem calledSince_runCall {s : Service} {c : Call} (happlies : applies w s c = true) :
    CalledSince s (runCall w env s c).1 c := by
  refine ⟨_, (env (.call c)).delivered, runCall_log w env s c, ?_⟩
  simp [emits, happlies]

/-- Calls that run through have all been made, as far as they apply. -/
theorem calledSince_runCalls {s : Service} {cs : List Call} {c : Call}
    (h : (runCalls w env s cs).2 = none) (hc : c ∈ cs)
    (happlies : ∀ u, applies w u c = true) : CalledSince s (runCalls w env s cs).1 c := by
  induction cs generalizing s with
  | nil => cases hc
  | cons d cs ih =>
      have hfirst : c = d → CalledSince s (runCall w env s d).1 c := by
        rintro rfl
        exact calledSince_runCall (happlies s)
      have hlog : s.log <+: (runCall w env s d).1.log := by
        rw [runCall_log]
        exact List.prefix_append _ _
      simp only [runCalls] at h ⊢
      rcases hrun : runCall w env s d with ⟨t, _ | e⟩ <;> rw [hrun] at h hfirst hlog
      · rcases List.mem_cons.1 hc with hcd | hc
        · exact (hfirst hcd).trans (runCalls_log w env t cs)
        · exact (ih h hc).of_later hlog
      · cases h

/-! ## Code without surprises -/

theorem runCalls_append (s : Service) (cs ds : List Call) :
    runCalls w env s (cs ++ ds) =
      (runCalls w env s cs).andThen fun t => runCalls w env t ds := by
  induction cs generalizing s with
  | nil => rfl
  | cons c cs ih =>
      simp only [List.cons_append, runCalls]
      rcases runCall w env s c with ⟨t, _ | e⟩
      · exact ih t
      · rfl

theorem runOp_call (w : Wiring) (env : Op → Outcome) (s : Service) (c : Call) :
    runOp w env s (.call c) = runCall w env s c := by
  simp only [runOp, Service.begin, callsOf, runCalls]
  rcases runCall w env s c with ⟨t, _ | e⟩ <;> rfl

theorem runStraight_calls (s : Service) (cs : List Call) (rest : List Op) :
    runStraight w env s (cs.map .call ++ rest) =
      (runCalls w env s cs).andThen fun t => runStraight w env t rest := by
  induction cs generalizing s with
  | nil => rfl
  | cons c cs ih =>
      simp only [List.map_cons, List.cons_append, runStraight, runOp_call, runCalls]
      rcases runCall w env s c with ⟨t, _ | e⟩
      · exact ih t
      · rfl

/-- A call lets the code go on unless it applies and raises, without a {lit}`try` block of
its own. -/
theorem runCall_ok_iff {s : Service} {c : Call} :
    (runCall w env s c).2 = none ↔
      (swallowed c = false → applies w s c = true → (env (.call c)).error = none) := by
  rw [runCall_error, escapes]
  cases happlies : applies w s c <;> cases hswallowed : swallowed c <;> simp

/-- Calls that apply or not whatever comes before them go on unless one raises. -/
theorem runCalls_ok_iff {s : Service} {cs : List Call}
    (hcs : ∀ c ∈ cs, swallowed c = true ∨ ∀ u, applies w u c = applies w s c) :
    (runCalls w env s cs).2 = none ↔
      ∀ c ∈ cs, swallowed c = false → applies w s c = true → (env (.call c)).error = none := by
  induction cs generalizing s with
  | nil => simp [runCalls]
  | cons c cs ih =>
      have hlater : ∀ t, ∀ d ∈ cs, swallowed d = true ∨ ∀ u, applies w u d = applies w t d := by
        intro t d hd
        rcases hcs d (List.mem_cons_of_mem _ hd) with h | h
        · exact .inl h
        · exact .inr fun u => by rw [h u, h t]
      simp only [runCalls]
      rw [andThen_eq_none, runCall_ok_iff, ih (hlater _), List.forall_mem_cons]
      apply and_congr_right
      intro _
      apply forall₂_congr
      intro d hd
      apply forall_congr'
      intro hswallowed
      rcases hcs d (List.mem_cons_of_mem _ hd) with h | h
      · rw [h] at hswallowed
        cases hswallowed
      · rw [h (runCall w env s c).1]

/-! ## The first error -/

/--
Code ends with the first error that its calls raise in a state {lit}`v`, when the run agrees
with {lit}`v` on what the calls depend on.
-/
theorem runStraight_first {P : Service → Prop} {s v : Service} {code : List Op}
    (hcode : ∀ op ∈ code, (∀ e, op ≠ .raise e) ∧ ∀ u, callsOf u op = callsOf s op)
    (hbegin : ∀ op ∈ code, ∀ u, P u → P (u.begin op))
    (hcall : ∀ op ∈ code, ∀ c ∈ callsOf s op, ∀ u, P u →
      escapes w env u c = escapes w env v c ∧ P (runCall w env u c).1)
    (hs : P s) :
    (runStraight w env s code).2 = (code.flatMap (callsOf s)).findSome? (escapes w env v) ∧
      P (runStraight w env s code).1 := by
  -- the state at the start matters only through `P`
  have hgeneral : ∀ code' u, (∀ op ∈ code', op ∈ code) → P u →
      (runStraight w env u code').2 = (code'.flatMap (callsOf s)).findSome? (escapes w env v) ∧
        P (runStraight w env u code').1 := by
    intro code'
    induction code' with
    | nil => exact fun u _ hu => ⟨rfl, hu⟩
    | cons op rest ih =>
        intro u hmem hu
        have hop := hmem op List.mem_cons_self
        have hcalls : ∀ cs t, (∀ c ∈ cs, c ∈ callsOf s op) → P t →
            (runCalls w env t cs).2 = cs.findSome? (escapes w env v) ∧
              P (runCalls w env t cs).1 := by
          intro cs
          induction cs with
          | nil => exact fun t _ ht => ⟨rfl, ht⟩
          | cons c cs ihc =>
              intro t hcs ht
              rcases hcall op hop c (hcs c List.mem_cons_self) t ht with ⟨heq, hnext⟩
              have herror := runCall_error w env t c
              rw [heq] at herror
              simp only [runCalls, List.findSome?_cons]
              rcases hrun : runCall w env t c with ⟨t', _ | e⟩ <;> rw [hrun] at herror hnext <;>
                simp only at herror <;> rw [← herror]
              · exact ihc t' (fun d hd => hcs d (List.mem_cons_of_mem _ hd)) hnext
              · exact ⟨rfl, hnext⟩
        have hrun : runOp w env u op = runCalls w env (u.begin op) (callsOf s op) := by
          rcases hcode op hop with ⟨hraise, heq⟩
          rw [← heq u]
          cases op with
          | raise e => exact absurd rfl (hraise e)
          | _ => rfl
        rcases hcalls (callsOf s op) (u.begin op) (fun _ h => h) (hbegin op hop u hu) with
          ⟨herror, hnext⟩
        simp only [runStraight, hrun, List.flatMap_cons, List.findSome?_append]
        rcases hop' : runCalls w env (u.begin op) (callsOf s op) with ⟨t, _ | e⟩ <;>
          rw [hop'] at herror hnext <;> simp only at herror <;> rw [← herror]
        · exact ih t (fun o ho => hmem o (List.mem_cons_of_mem _ ho)) hnext
        · exact ⟨rfl, hnext⟩
  exact hgeneral code s (fun _ h => h) hs

/-! ## What a run delivers -/

/-- What the log has gained. -/
def newEvents (s t : Service) : List Event :=
  t.log.drop s.log.length

theorem newEvents_eq {s t : Service} {events : List Event} (h : t.log = s.log ++ events) :
    newEvents s t = events := by
  simp [newEvents, h]

theorem newEvents_trans {s t u : Service} (hst : s.log <+: t.log) (htu : t.log <+: u.log) :
    newEvents s u = newEvents s t ++ newEvents t u := by
  rcases hst with ⟨a, ha⟩
  rcases htu with ⟨b, hb⟩
  rw [newEvents_eq ha.symm, newEvents_eq hb.symm]
  apply newEvents_eq
  rw [← hb, ← ha, List.append_assoc]

theorem newEvents_runCall (w : Wiring) (env : Op → Outcome) (s : Service) (c : Call) :
    newEvents s (runCall w env s c).1 = emits w s (env (.call c)) (.call c) :=
  newEvents_eq (runCall_log w env s c)

/-- A run delivers only what its code calls. -/
theorem called_of_runCalls {s : Service} {cs : List Call} {c : Call} {d : Bool}
    (h : .called c d ∈ newEvents s (runCalls w env s cs).1) : c ∈ cs := by
  induction cs generalizing s with
  | nil => simp [runCalls, newEvents] at h
  | cons e cs ih =>
      have hcall : .called c d ∈ newEvents s (runCall w env s e).1 → c = e := by
        intro hmem
        rw [newEvents_runCall] at hmem
        simp only [emits] at hmem
        split at hmem <;> cases List.mem_singleton.1 hmem
        rfl
      have hlog : s.log <+: (runCall w env s e).1.log := by
        rw [runCall_log]
        exact List.prefix_append _ _
      simp only [runCalls] at h
      rcases hrun : runCall w env s e with ⟨t, _ | err⟩ <;> rw [hrun] at h hcall hlog
      · rw [andThen_ok, newEvents_trans hlog (runCalls_log w env t cs)] at h
        rcases List.mem_append.1 h with h | h
        · exact hcall h ▸ List.mem_cons_self
        · exact List.mem_cons_of_mem _ (ih h)
      · exact hcall h ▸ List.mem_cons_self

theorem called_of_runOp {s : Service} {op : Op} {c : Call} {d : Bool}
    (h : .called c d ∈ newEvents s (runOp w env s op).1) : c ∈ callsOf s op := by
  have hbegin : .called c d ∉ newEvents s (s.begin op) := by
    unfold Service.begin
    split
    case h_3 a =>
      unfold Service.assign
      split <;> simp [newEvents]
    all_goals simp [newEvents, Service.enter]
  unfold runOp at h
  split at h
  · simp [newEvents] at h
  · rw [newEvents_trans (begin_log s op) (runCalls_log w env _ _)] at h
    exact called_of_runCalls ((List.mem_append.1 h).resolve_left hbegin)

theorem called_of_runStraight {s : Service} {code : List Op} {c : Call} {d : Bool}
    (h : .called c d ∈ newEvents s (runStraight w env s code).1) :
    ∃ op ∈ code, ∃ u, c ∈ callsOf u op := by
  induction code generalizing s with
  | nil => simp [runStraight, newEvents] at h
  | cons op rest ih =>
      have hop : .called c d ∈ newEvents s (runOp w env s op).1 → c ∈ callsOf s op :=
        called_of_runOp
      have hlog := runOp_log w env s op
      simp only [runStraight] at h
      rcases hrun : runOp w env s op with ⟨t, _ | e⟩ <;> rw [hrun] at h hop hlog
      · rw [andThen_ok, newEvents_trans hlog (runStraight_log w env t rest)] at h
        rcases List.mem_append.1 h with h | h
        · exact ⟨op, List.mem_cons_self, s, hop h⟩
        · rcases ih h with ⟨o, ho, hcalls⟩
          exact ⟨o, List.mem_cons_of_mem _ ho, hcalls⟩
      · exact ⟨op, List.mem_cons_self, s, hop h⟩

/-- A call that stands in the code once is delivered when the code comes to it. -/
theorem delivered_iff (w : Wiring) (env : Op → Outcome) (s : Service) {before after : List Op}
    {c : Call} (hbefore : ∀ op ∈ before, ∀ u, c ∉ callsOf u op)
    (hafter : ∀ op ∈ after, ∀ u, c ∉ callsOf u op) :
    .called c true ∈ newEvents s (runStraight w env s (before ++ .call c :: after)).1 ↔
      (runStraight w env s before).2 = none ∧
        applies w (runStraight w env s before).1 c = true ∧
        (env (.call c)).delivered = true := by
  have hnone : .called c true ∉ newEvents s (runStraight w env s before).1 := by
    intro h
    rcases called_of_runStraight h with ⟨op, hop, u, hc⟩
    exact hbefore op hop u hc
  have hlog := runStraight_log w env s before
  rw [runStraight_append]
  rcases hrun : runStraight w env s before with ⟨t, _ | e⟩ <;> rw [hrun] at hnone hlog
  · have hcall := newEvents_runCall w env t c
    have hclog : t.log <+: (runCall w env t c).1.log := by
      rw [runCall_log]
      exact List.prefix_append _ _
    have hop : runOp w env t (.call c) = runCall w env t c := runOp_call w env t c
    have hemits : .called c true ∈ emits w t (env (.call c)) (.call c) ↔
        applies w t c = true ∧ (env (.call c)).delivered = true := by
      simp only [emits]
      cases applies w t c
      · simp
      · simp only [if_true, List.mem_singleton, Event.called.injEq, true_and]
        exact eq_comm
    simp only [andThen_ok, runStraight, hop, true_and]
    rcases hrun' : runCall w env t c with ⟨t', _ | e⟩ <;> rw [hrun'] at hcall hclog
    · have hrest := runStraight_log w env t' after
      rw [andThen_ok, newEvents_trans hlog (hclog.trans hrest), newEvents_trans hclog hrest, hcall]
      have hnone' : .called c true ∉ newEvents t' (runStraight w env t' after).1 := by
        intro h
        rcases called_of_runStraight h with ⟨op, hop, u, hc⟩
        exact hafter op hop u hc
      simp only [List.mem_append, hnone, hnone', false_or, or_false]
      exact hemits
    · rw [andThen_error, newEvents_trans hlog hclog, hcall]
      simp only [List.mem_append, hnone, false_or]
      exact hemits
  · simp only [andThen_error, reduceCtorEq, false_and, iff_false]
    exact hnone

end Lifecycle
end StrategyWorker
