import StrategyWorker.Lifecycle.Rollback

/-!
# One bootstrap outcome

{lit}`start` reports that the bootstrap has succeeded, through the signal and
through the status of the strategy runtime manager, before it sets
{lit}`READY`, sends a heartbeat and starts the periodic jobs.  These stand in
the same {lit}`try` block, and the rollback behind it reports a failure.

Main results:

- Theorem {lit}`start_error`: the first error of {lit}`start`.
- Theorem {lit}`one_outcome_iff`: when a start does not report both outcomes.
- Theorem {lit}`both_outcomes_reported`: a start that does.
-/

namespace StrategyWorker
namespace Lifecycle

open Domain Library

variable {w : Wiring} {env : Op → Outcome}

/-! ## The parts of a start -/

/-- Up to the runtime dependencies. -/
def resolveBody : List Op :=
  startBody.take 8

/-- The runtime dependencies and the strategy. -/
def bringUpBody : List Op :=
  [.call .initializeDependencies,
    .recordStartup .initializeStrategyInstanceCoordinator,
    .call .initializeStrategyCoordinator]

def bindBody : List Op :=
  [.call .bindAndStart, .recordStartup .emitWorkerBootstrapReadySignal]

/-- What follows the success reports and {lit}`READY`. -/
def lateBody : List Op :=
  startBody.drop 16

/-- Up to the success signal. -/
def earlyBody : List Op :=
  resolveBody ++ (bringUpBody ++ bindBody)

theorem startBody_eq : startBody = earlyBody ++ .call .emitBootstrapSucceeded ::
    .call .reportBootstrapSuccess :: .setPhase .ready :: lateBody :=
  rfl

/-- The calls up to the success signal. -/
def earlyCalls : List Call :=
  [.recordStartupStep .validateLaunchMetadata, .validateLaunch,
    .recordStartupStep .bindObservabilityContext, .bindLogger,
    .recordStartupStep .resolveArtifactAndEntrypoint, .runBootstrapPipeline,
    .recordStartupStep .validateSdkContract, .recordStartupStep .initializeRuntimeDependencies,
    .initializeDependencies, .recordStartupStep .initializeStrategyInstanceCoordinator,
    .initializeStrategyCoordinator, .bindAndStart,
    .recordStartupStep .emitWorkerBootstrapReadySignal]

/-- The calls after the success reports, in a start from phase {lit}`previous`. -/
def lateCalls (previous : WorkerPhase) : List Call :=
  [.recordPhaseChange previous .ready, .recordStartupStep .emitInitialSrmHeartbeat,
    .emitHeartbeat, .recordStartupStep .startHeartbeatPeriodicJobs, .startPeriodicJobs]

/-- What the calls of a start find when nothing has failed before them. -/
def Service.broughtUp (s : Service) (w : Wiring) : Service :=
  { s with
    runtimeDependencies := true
    strategyAdapter := s.strategyAdapter || w.strategyInstanceManager
    phase := .ready }

/-- What a call depends on. -/
theorem applies_congr {s t : Service} (hdeps : s.runtimeDependencies = t.runtimeDependencies)
    (hadapter : s.strategyAdapter = t.strategyAdapter)
    (hprogress : s.shutdownInProgress = t.shutdownInProgress) (c : Call)
    (hphase : c = .emitHeartbeat → s.phase = t.phase) : applies w s c = applies w t c := by
  cases c <;> simp_all [applies]

theorem escapes_congr {s t : Service} {c : Call} (h : applies w s c = applies w t c) :
    escapes w env s c = escapes w env t c := by
  simp only [escapes, h]

/-- The service has its dependencies and its strategy, and its flags are those of {lit}`s`. -/
structure BroughtUp (w : Wiring) (s u : Service) : Prop where
  dependencies : u.runtimeDependencies = true
  adapter : u.strategyAdapter = (s.strategyAdapter || w.strategyInstanceManager)
  inProgress : u.shutdownInProgress = s.shutdownInProgress

theorem BroughtUp.applies_eq {s u : Service} (h : BroughtUp w s u) {c : Call}
    (hc : c = .emitHeartbeat → u.phase = .ready) :
    applies w u c = applies w (s.broughtUp w) c :=
  applies_congr (t := s.broughtUp w) h.dependencies h.adapter h.inProgress c hc

/-- The calls that assign neither the dependencies nor the strategy. -/
def assignsNothing (c : Call) : Prop :=
  ∀ t : Service, (t.succeed c).runtimeDependencies = t.runtimeDependencies ∧
    (t.succeed c).strategyAdapter = t.strategyAdapter

theorem BroughtUp.runCall {s u : Service} (h : BroughtUp w s u) (env : Op → Outcome) {c : Call}
    (hc : assignsNothing c) : BroughtUp w s (Lifecycle.runCall w env u c).1 where
  dependencies :=
    (runCall_keeps Service.runtimeDependencies (fun _ _ => rfl) (fun t => (hc t).1) u).trans
      h.dependencies
  adapter :=
    (runCall_keeps Service.strategyAdapter (fun _ _ => rfl) (fun t => (hc t).2) u).trans h.adapter
  inProgress := (runCall_flags w env u c).shutdownInProgress.trans h.inProgress

/-! ## The first error of a start -/

/-- A call that goes on without a guard has had its effect on the service. -/
theorem runCall_succeeds {u : Service} {c : Call} (happlies : applies w u c = true)
    (hswallowed : swallowed c = false) (hok : escapes w env u c = none) :
    (Lifecycle.runCall w env u c).1 =
      (u.note (.called c (env (.call c)).delivered)).succeed c := by
  have hnone : (env (.call c)).error = none := by
    simpa [escapes, happlies, hswallowed] using hok
  simp [Lifecycle.runCall, execCall, happlies, hnone]

/-- Up to the dependencies nothing depends on what has happened. -/
theorem resolve_run (w : Wiring) (env : Op → Outcome) (s : Service) :
    (runStraight w env s resolveBody).2 =
        (earlyCalls.take 8).findSome? (escapes w env (s.broughtUp w)) ∧
      SameFlags s (runStraight w env s resolveBody).1 ∧
      (runStraight w env s resolveBody).1.strategyAdapter = s.strategyAdapter := by
  apply runStraight_first (P := fun u => SameFlags s u ∧ u.strategyAdapter = s.strategyAdapter)
  · simp [resolveBody, startBody, callsOf]
  · rintro op hop u ⟨hflags, hadapter⟩
    simp only [resolveBody, startBody, List.take, List.mem_cons, List.not_mem_nil, or_false] at hop
    rcases hop with rfl | rfl | rfl | rfl | rfl | rfl | rfl | rfl <;>
      exact ⟨hflags.trans ⟨rfl, rfl, rfl, rfl⟩, hadapter⟩
  · rintro op hop c hc u ⟨hflags, hadapter⟩
    simp only [resolveBody, startBody, List.take, List.mem_cons, List.not_mem_nil, or_false] at hop
    rcases hop with rfl | rfl | rfl | rfl | rfl | rfl | rfl | rfl <;>
      cases List.mem_singleton.1 hc <;>
      exact ⟨rfl, hflags.trans (runCall_flags w env u _),
        (runCall_keeps Service.strategyAdapter (fun _ _ => rfl) (fun _ => rfl) u).trans hadapter⟩
  · exact ⟨SameFlags.refl s, rfl⟩

/-- The dependencies and the strategy are there when their calls have gone through. -/
theorem bringUp_run (w : Wiring) (env : Op → Outcome) {s t : Service} (hflags : SameFlags s t)
    (hadapter : t.strategyAdapter = s.strategyAdapter) :
    (runStraight w env t bringUpBody).2 =
        ((earlyCalls.drop 8).take 3).findSome? (escapes w env (s.broughtUp w)) ∧
      (runStraight w env t bringUpBody).1.phase = s.phase ∧
      ((runStraight w env t bringUpBody).2 = none →
        BroughtUp w s (runStraight w env t bringUpBody).1) := by
  rw [← and_assoc]
  constructor
  · apply runStraight_first (P := fun u => u.phase = s.phase)
    · simp [bringUpBody, callsOf]
    · intro op hop u hu
      simp only [bringUpBody, List.mem_cons, List.not_mem_nil, or_false] at hop
      rcases hop with rfl | rfl | rfl <;> exact hu
    · intro op hop c hc u hu
      simp only [bringUpBody, List.mem_cons, List.not_mem_nil, or_false] at hop
      rcases hop with rfl | rfl | rfl <;> cases List.mem_singleton.1 hc <;>
        exact ⟨rfl, (runCall_flags w env u _).phase.trans hu⟩
    · exact hflags.phase
  · intro hok
    simp only [bringUpBody, runStraight, andThen_eq_none] at hok
    rcases hok with ⟨hinit, hrecord, hcoordinator, -⟩
    rw [bringUpBody, runStraight_cons_ok hinit, runStraight_cons_ok hrecord,
      runStraight_cons_ok hcoordinator]
    simp only [runOp_call, runCall_error] at hinit hcoordinator ⊢
    -- after the dependencies
    have hinitialized := runCall_succeeds (u := t) (c := .initializeDependencies) rfl rfl hinit
    generalize (runCall w env t .initializeDependencies).1 = t₁ at *
    have hdeps₁ : t₁.runtimeDependencies = true := by rw [hinitialized]; rfl
    have hadapter₁ : t₁.strategyAdapter = s.strategyAdapter := by
      rw [hinitialized]
      exact hadapter
    have hprogress₁ : t₁.shutdownInProgress = s.shutdownInProgress := by
      rw [hinitialized]
      exact hflags.shutdownInProgress
    -- the record of the next step changes none of this
    have hkeeps : ∀ {α} (field : Service → α), (∀ u e, field (u.note e) = field u) →
        (∀ u, field (u.succeed (.recordStartupStep .initializeStrategyInstanceCoordinator)) =
          field u) →
        field (runOp w env t₁ (.recordStartup .initializeStrategyInstanceCoordinator)).1 =
          field t₁ := by
      intro α field hnote hsucceed
      refine (runCalls_keeps field hnote ?_ _).trans (hnote _ _)
      intro c hc
      cases List.mem_singleton.1 hc
      exact hsucceed
    have hdeps₂ := hkeeps Service.runtimeDependencies (fun _ _ => rfl) (fun _ => rfl)
    have hadapter₂ := hkeeps Service.strategyAdapter (fun _ _ => rfl) (fun _ => rfl)
    have hprogress₂ := hkeeps Service.shutdownInProgress (fun _ _ => rfl) (fun _ => rfl)
    generalize (runOp w env t₁ (.recordStartup .initializeStrategyInstanceCoordinator)).1 = t₂ at *
    constructor
    · rw [runStraight, runCall_keeps Service.runtimeDependencies (fun _ _ => rfl) (fun _ => rfl),
        hdeps₂, hdeps₁]
    · rw [runStraight]
      cases hmanager : w.strategyInstanceManager with
      | true =>
          have hcoordinated := runCall_succeeds (u := t₂) (c := .initializeStrategyCoordinator)
            hmanager rfl hcoordinator
          rw [hcoordinated]
          simp [Service.succeed]
      | false =>
          have hskipped : applies w t₂ .initializeStrategyCoordinator = false := hmanager
          simp [runCall, execCall, hskipped, Service.note, hadapter₂, hadapter₁]
    · rw [runStraight, (runCall_flags w env t₂ _).shutdownInProgress, hprogress₂, hprogress₁]

/-- Operations that leave the phase, the dependencies and the strategy to their calls. -/
def isPlainOp : Op → Bool
  | .call _ | .recordStartup _ | .assign (.started _) | .assign (.shutdownComplete _) => true
  | _ => false

attribute [local simp] isPlainOp callsOf in
/-- A service that is brought up stays so, and decides what its calls find. -/
theorem broughtUp_run {s u : Service} {p : WorkerPhase} {code : List Op} (h : BroughtUp w s u)
    (hphase : u.phase = p) (hcode : ∀ op ∈ code, isPlainOp op = true)
    (hcalls : ∀ op ∈ code, ∀ c ∈ callsOf s op,
      assignsNothing c ∧ (c = .emitHeartbeat → p = .ready)) :
    (runStraight w env u code).2 =
        (code.flatMap (callsOf s)).findSome? (escapes w env (s.broughtUp w)) ∧
      BroughtUp w s (runStraight w env u code).1 ∧ (runStraight w env u code).1.phase = p := by
  have hsame : ∀ op ∈ code, ∀ v, callsOf v op = callsOf s op := by
    intro op hop v
    have := hcode op hop
    cases op <;> first | rfl | cases this
  have hflat : code.flatMap (callsOf u) = code.flatMap (callsOf s) :=
    List.flatMap_congr fun op hop => hsame op hop u
  rw [← hflat]
  apply runStraight_first (P := fun v => BroughtUp w s v ∧ v.phase = p)
  · intro op hop
    refine ⟨?_, fun v => by rw [hsame op hop v, hsame op hop u]⟩
    rintro e rfl
    cases hcode _ hop
  · rintro op hop v ⟨⟨hdeps, hadapter, hprogress⟩, hp⟩
    have hplain := hcode op hop
    unfold isPlainOp at hplain
    split at hplain
    · exact ⟨⟨hdeps, hadapter, hprogress⟩, hp⟩
    · exact ⟨⟨hdeps, hadapter, hprogress⟩, hp⟩
    · exact ⟨⟨hdeps, hadapter, hprogress⟩, hp⟩
    · rename_i value
      cases value <;> exact ⟨⟨hdeps, hadapter, hprogress⟩, hp⟩
    · cases hplain
  · rintro op hop c hc v ⟨hv, hp⟩
    rw [hsame op hop u] at hc
    rcases hcalls op hop c hc with ⟨hassigns, hheartbeat⟩
    refine ⟨escapes_congr (hv.applies_eq fun hc => hp.trans (hheartbeat hc)), hv.runCall env hassigns, ?_⟩
    exact (runCall_flags w env v c).phase.trans hp
  · exact ⟨h, hphase⟩

/-- Up to the success signal. -/
theorem early_run (w : Wiring) (env : Op → Outcome) (s : Service) :
    (runStraight w env s earlyBody).2 =
        earlyCalls.findSome? (escapes w env (s.broughtUp w)) ∧
      ((runStraight w env s earlyBody).2 = none →
        BroughtUp w s (runStraight w env s earlyBody).1 ∧
          (runStraight w env s earlyBody).1.phase = s.phase) := by
  have hsplit : earlyCalls =
      earlyCalls.take 8 ++ ((earlyCalls.drop 8).take 3 ++ bindBody.flatMap (callsOf s)) := rfl
  have hplain : ∀ op ∈ bindBody, isPlainOp op = true := by simp [bindBody, isPlainOp]
  have hcalls : ∀ op ∈ bindBody, ∀ c ∈ callsOf s op,
      assignsNothing c ∧ (c = .emitHeartbeat → s.phase = .ready) := by
    intro op hop c hc
    simp only [bindBody, List.mem_cons, List.not_mem_nil, or_false] at hop
    rcases hop with rfl | rfl <;> cases List.mem_singleton.1 hc <;>
      exact ⟨fun _ => ⟨rfl, rfl⟩, fun h => by cases h⟩
  rcases resolve_run w env s with ⟨hresolve, hflags, hadapter⟩
  rcases bringUp_run w env hflags hadapter with ⟨hbring, hphase, hup⟩
  simp only [earlyBody, runStraight_append]
  constructor
  · rw [hsplit, List.findSome?_append, List.findSome?_append]
    apply andThen_first hresolve
    intro _
    apply andThen_first hbring
    intro hok
    exact (broughtUp_run (hup hok) hphase hplain hcalls).1
  · intro hok
    rcases andThen_eq_none.1 hok with ⟨hok₁, hok⟩
    rcases andThen_eq_none.1 hok with ⟨hok₂, -⟩
    rw [andThen_of_ok hok₁, andThen_of_ok hok₂]
    exact (broughtUp_run (hup hok₂) hphase hplain hcalls).2

/-- The phase in which a start fails that has come to its success signal. -/
def failedPhase (w : Wiring) (env : Op → Outcome) (s : Service) : WorkerPhase :=
  if escapes w env (s.broughtUp w) .emitBootstrapSucceeded = none then .ready else s.phase

/-- From the success signal on. -/
theorem signal_run (env : Op → Outcome) {s a : Service} (h : BroughtUp w s a) (hphase : a.phase = s.phase) :
    let r := runStraight w env a (.call .emitBootstrapSucceeded ::
      .call .reportBootstrapSuccess :: .setPhase .ready :: lateBody)
    r.2 = (.emitBootstrapSucceeded :: lateCalls s.phase).findSome?
        (escapes w env (s.broughtUp w)) ∧
      BroughtUp w s r.1 ∧ r.1.phase = failedPhase w env s := by
  have hsignal := runCall_error w env a .emitBootstrapSucceeded
  rw [escapes_congr (h.applies_eq fun h => by cases h)] at hsignal
  have hup := h.runCall env (c := .emitBootstrapSucceeded) fun _ => ⟨rfl, rfl⟩
  have hflags := runCall_flags w env a .emitBootstrapSucceeded
  have hplain : ∀ op ∈ lateBody, isPlainOp op = true := by simp [lateBody, startBody, isPlainOp]
  have hcalls : ∀ op ∈ lateBody, ∀ c ∈ callsOf s op,
      assignsNothing c ∧ (c = .emitHeartbeat → WorkerPhase.ready = .ready) := by
    intro op hop c hc
    simp only [lateBody, startBody, List.drop, List.mem_cons, List.not_mem_nil, or_false] at hop
    rcases hop with rfl | rfl | rfl | rfl | rfl | rfl <;>
      first
        | (cases List.mem_singleton.1 hc; exact ⟨fun _ => ⟨rfl, rfl⟩, fun _ => rfl⟩)
        | cases hc
  simp only [runStraight, runOp_call, failedPhase, List.findSome?_cons]
  rcases hrun : runCall w env a .emitBootstrapSucceeded with ⟨b, _ | e⟩ <;>
    rw [hrun] at hsignal hup hflags <;> simp only at hsignal <;> rw [← hsignal]
  · -- the status report has a guard of its own, and `READY` is set
    have hreport : (runCall w env b .reportBootstrapSuccess).2 = none :=
      runCall_ok_iff.2 fun h => by cases h
    have hup := hup.runCall env (c := .reportBootstrapSuccess) fun _ => ⟨rfl, rfl⟩
    have hphase : (runCall w env b .reportBootstrapSuccess).1.phase = s.phase :=
      ((runCall_flags w env b _).phase.trans hflags.phase).trans hphase
    rw [andThen_ok, andThen_of_ok hreport]
    generalize (runCall w env b .reportBootstrapSuccess).1 = u at *
    have hready : runOp w env u (.setPhase .ready) =
        runCalls w env (u.enter .ready) [.recordPhaseChange s.phase .ready] := by
      rw [← hphase]
      rfl
    have henter : BroughtUp w s (u.enter .ready) :=
      ⟨hup.dependencies, hup.adapter, hup.inProgress⟩
    have hjournal := runCall_error w env (u.enter .ready) (.recordPhaseChange s.phase .ready)
    rw [escapes_congr (henter.applies_eq fun _ => rfl)] at hjournal
    have hset := henter.runCall env (c := .recordPhaseChange s.phase .ready) fun _ => ⟨rfl, rfl⟩
    have hkept := runCall_flags w env (u.enter .ready) (.recordPhaseChange s.phase .ready)
    simp only [hready, runCalls, lateCalls, List.findSome?_cons, if_true]
    rcases hrun' : runCall w env (u.enter .ready) (.recordPhaseChange s.phase .ready) with
      ⟨v, _ | e⟩ <;>
      rw [hrun'] at hjournal hset hkept <;> simp only at hjournal <;> rw [← hjournal]
    · exact broughtUp_run hset hkept.phase hplain hcalls
    · exact ⟨rfl, hset, hkept.phase⟩
  · exact ⟨rfl, hup, hflags.phase.trans hphase⟩

/-- A start ends with the first error of its calls. -/
theorem start_error (w : Wiring) (env : Op → Outcome) (s : Service) :
    (runStraight w env s startBody).2 =
      (earlyCalls ++ .emitBootstrapSucceeded :: lateCalls s.phase).findSome?
        (escapes w env (s.broughtUp w)) := by
  rcases early_run w env s with ⟨hearly, hup⟩
  rw [startBody_eq, runStraight_append, List.findSome?_append]
  apply andThen_first hearly
  intro hok
  exact (signal_run env (hup hok).1 (hup hok).2).1

/-! ## The reports -/

/-- A success report was delivered after the state {lit}`s`. -/
def SuccessReported (s t : Service) : Prop :=
  ∃ c ∈ [Call.emitBootstrapSucceeded, .reportBootstrapSuccess], .called c true ∈ newEvents s t

/-- A failure report was delivered. -/
def FailureReported (s t : Service) : Prop :=
  ∃ c ∈ [Call.recordLaunchFailed, .emitBootstrapFailed, .reportBootstrapFailure],
    .called c true ∈ newEvents s t

/-- The start comes to its success reports, and one of them is delivered. -/
def DeliversSuccess (w : Wiring) (env : Op → Outcome) (s : Service) : Prop :=
  (∀ c ∈ earlyCalls, escapes w env (s.broughtUp w) c = none) ∧
    ((env (.call .emitBootstrapSucceeded)).delivered = true ∨
      (env (.call .emitBootstrapSucceeded)).error = none ∧ w.srmBaseUrl = true ∧
        (env (.call .reportBootstrapSuccess)).delivered = true)

/-- The rollback after {lit}`e` in state {lit}`t` comes to a failure report that is delivered. -/
def DeliversFailure (w : Wiring) (env : Op → Outcome) (t : Service) (e : Error) : Prop :=
  escapes w env t (.recordPhaseChange t.phase .failed) = none ∧
    ((w.stateJournal = true ∧ (env (.call .recordLaunchFailed)).delivered = true) ∨
      (∀ c ∈ .recordLaunchFailed :: .stopStrategy :: closeCalls w, escapes w env t c = none) ∧
        applies w t (failureReport e) = true ∧
        (env (.call (failureReport e))).delivered = true)

theorem escapes_eq_none {s : Service} {c : Call} (happlies : applies w s c = true)
    (hswallowed : swallowed c = false) :
    escapes w env s c = none ↔ (env (.call c)).error = none := by
  simp [escapes, happlies, hswallowed]

/-- A call that none of the operations makes. -/
theorem not_called {code : List Op} {c : Call} (h : ∀ op ∈ code, ∀ u, c ∉ callsOf u op)
    (s : Service) : .called c true ∉ newEvents s (runStraight w env s code).1 := by
  intro hmem
  rcases called_of_runStraight hmem with ⟨op, hop, u, hc⟩
  exact h op hop u hc

/-- The success reports of a start. -/
theorem successReported_iff (w : Wiring) (env : Op → Outcome) (s : Service) :
    SuccessReported s (runStraight w env s startBody).1 ↔ DeliversSuccess w env s := by
  rcases early_run w env s with ⟨hearly, hup⟩
  have hquiet : (runStraight w env s earlyBody).2 = none ↔
      ∀ c ∈ earlyCalls, escapes w env (s.broughtUp w) c = none := by
    rw [hearly, List.findSome?_eq_none_iff]
  have hearlyCalls : ∀ c, c = .emitBootstrapSucceeded ∨ c = .reportBootstrapSuccess →
      ∀ op ∈ earlyBody, ∀ u, c ∉ callsOf u op := by
    rintro c (rfl | rfl) <;>
      simp [earlyBody, resolveBody, bringUpBody, bindBody, startBody, callsOf]
  have hlateCalls : ∀ c, c = .emitBootstrapSucceeded ∨ c = .reportBootstrapSuccess →
      ∀ op ∈ .setPhase .ready :: lateBody, ∀ u, c ∉ callsOf u op := by
    rintro c (rfl | rfl) <;> simp [lateBody, startBody, callsOf, setPhaseCalls]
  -- the signal, after the early calls
  have hsignal : .called .emitBootstrapSucceeded true ∈
      newEvents s (runStraight w env s startBody).1 ↔
        (∀ c ∈ earlyCalls, escapes w env (s.broughtUp w) c = none) ∧
          (env (.call .emitBootstrapSucceeded)).delivered = true := by
    rw [startBody_eq, delivered_iff w env s (hearlyCalls _ (.inl rfl)), hquiet]
    · apply and_congr_right
      intro hok
      exact and_iff_right (hup (hquiet.2 hok)).1.dependencies
    · intro op hop u
      rcases List.mem_cons.1 hop with rfl | hop
      · simp [callsOf]
      · exact hlateCalls _ (.inl rfl) op hop u
  -- the status, after the signal
  have hbefore : (runStraight w env s (earlyBody ++ [.call .emitBootstrapSucceeded])).2 = none ↔
      (∀ c ∈ earlyCalls, escapes w env (s.broughtUp w) c = none) ∧
        (env (.call .emitBootstrapSucceeded)).error = none := by
    rw [runStraight_append, andThen_eq_none, hquiet]
    apply and_congr_right
    intro hok
    have happlies : applies w (runStraight w env s earlyBody).1 .emitBootstrapSucceeded = true :=
      (hup (hquiet.2 hok)).1.dependencies
    rw [runStraight, runOp_call, andThen_eq_none, runCall_error, escapes_eq_none happlies rfl]
    exact and_iff_left rfl
  have hreport : .called .reportBootstrapSuccess true ∈
      newEvents s (runStraight w env s startBody).1 ↔
        ((∀ c ∈ earlyCalls, escapes w env (s.broughtUp w) c = none) ∧
          (env (.call .emitBootstrapSucceeded)).error = none) ∧ w.srmBaseUrl = true ∧
          (env (.call .reportBootstrapSuccess)).delivered = true := by
    rw [startBody_eq, List.append_cons, delivered_iff w env s _ (hlateCalls _ (.inr rfl)), hbefore]
    · exact Iff.rfl
    · intro op hop u
      rcases List.mem_append.1 hop with hop | hop
      · exact hearlyCalls _ (.inr rfl) op hop u
      · cases List.mem_singleton.1 hop
        simp [callsOf]
  have hsome : SuccessReported s (runStraight w env s startBody).1 ↔
      .called .emitBootstrapSucceeded true ∈ newEvents s (runStraight w env s startBody).1 ∨
        .called .reportBootstrapSuccess true ∈ newEvents s (runStraight w env s startBody).1 := by
    simp only [SuccessReported, List.mem_cons, List.not_mem_nil, or_false, exists_eq_or_imp,
      exists_eq_left]
  rw [hsome, hsignal, hreport, and_assoc, ← and_or_left]
  exact Iff.rfl

theorem rollbackQuiet_iff {t : Service} :
    RollbackQuiet w env t ↔ ∀ c ∈ unguarded w t, escapes w env t c = none := by
  apply forall₂_congr
  intro c hc
  rw [← runCall_error, runCall_ok_iff, forall_prop_of_true (swallowed_unguarded hc)]

theorem notMem_callsOf_map {cs : List Call} {c : Call} (h : c ∉ cs) :
    ∀ op ∈ cs.map Op.call, ∀ u, c ∉ callsOf u op := by
  intro op hop u hc
  rcases List.mem_map.1 hop with ⟨d, hd, rfl⟩
  cases List.mem_singleton.1 hc
  exact h hd

theorem notMem_callsOf_failed {c : Call} (hstatus : c ≠ .emitFailedStatus)
    (hchange : ∀ p, c ≠ .recordPhaseChange p .failed) (u : Service) :
    c ∉ callsOf u (.setPhase .failed) := by
  simp [callsOf, setPhaseCalls, hstatus, hchange]

theorem notMem_callsOf_end {e : Error} {c : Call} :
    ∀ op ∈ [Op.assign (.started false), .assign (.shutdownComplete false), .raise e],
      ∀ u, c ∉ callsOf u op := by
  simp [callsOf]

/-- The journal's event of a rollback. -/
theorem launchFailed_iff (w : Wiring) (env : Op → Outcome) (t : Service) (e : Error) :
    .called .recordLaunchFailed true ∈ newEvents t (runStraight w env t (startFailed w e)).1 ↔
      escapes w env t (.recordPhaseChange t.phase .failed) = none ∧ w.stateJournal = true ∧
        (env (.call .recordLaunchFailed)).delivered = true := by
  have hbody : startFailed w e = [.setPhase .failed] ++ .call .recordLaunchFailed ::
      ((.stopStrategy :: closeCalls w ++ guardedCalls e).map .call ++
        [.assign (.started false), .assign (.shutdownComplete false), .raise e]) := by
    rw [startFailed_eq w t e, rollbackReport, List.map_append, List.append_assoc]
    rfl
  have hset : (runStraight w env t [.setPhase .failed]).2 = none ↔
      escapes w env t (.recordPhaseChange t.phase .failed) = none := by
    have hrun := runStraight_failed w env t [] []
    simp only [List.map_nil, List.nil_append] at hrun
    have hstatus : (runCall w env (t.enter .failed) .emitFailedStatus).2 = none :=
      runCall_ok_iff.2 fun h => by cases h
    rw [hrun, andThen_eq_none, runCalls_cons, andThen_of_ok hstatus, runCalls_cons,
      andThen_eq_none, runCall_error]
    simp [runCalls, runStraight, escapes, applies]
  rw [hbody, delivered_iff w env t, hset]
  · exact Iff.rfl
  · intro op hop
    cases List.mem_singleton.1 hop
    exact notMem_callsOf_failed (by simp) (by simp)
  · intro op hop
    rcases List.mem_append.1 hop with hop | hop
    · apply notMem_callsOf_map _ op hop
      unfold guardedCalls failureReport
      split <;> simp [closeCalls]
    · exact notMem_callsOf_end op hop

/-- The report of a rollback. -/
theorem failureReport_iff (w : Wiring) (env : Op → Outcome) {t : Service} (e : Error)
    (hdeps : t.runtimeDependencies = true) :
    .called (failureReport e) true ∈ newEvents t (runStraight w env t (startFailed w e)).1 ↔
      RollbackQuiet w env t ∧ applies w t (failureReport e) = true ∧
        (env (.call (failureReport e))).delivered = true := by
  have hreinit : ∀ u, (runCall w env u .reinitializeDependencies).2 = none :=
    fun u => runCall_ok_iff.2 fun h => by cases h
  have hbody : startFailed w e =
      (.setPhase .failed :: ((unguarded w t).drop 1 ++ [Call.reinitializeDependencies]).map .call) ++
        .call (failureReport e) ::
          [.assign (.started false), .assign (.shutdownComplete false), .raise e] := by
    rw [startFailed_eq w t e]
    simp [rollbackReport, guardedCalls]
  -- what comes before the report is the unguarded calls, and the dependencies once more
  have hbefore : runStraight w env t (.setPhase .failed ::
        ((unguarded w t).drop 1 ++ [Call.reinitializeDependencies]).map .call) =
      (runCalls w env (t.enter .failed) (.emitFailedStatus :: unguarded w t)).andThen
        fun u => ((runCall w env u .reinitializeDependencies).1, none) := by
    have hrun := runStraight_failed w env t
      ((unguarded w t).drop 1 ++ [Call.reinitializeDependencies]) []
    rw [List.append_nil] at hrun
    have hsplit : Call.emitFailedStatus :: .recordPhaseChange t.phase .failed ::
        ((unguarded w t).drop 1 ++ [.reinitializeDependencies]) =
          (.emitFailedStatus :: unguarded w t) ++ [.reinitializeDependencies] := rfl
    rw [hrun, hsplit, runCalls_append]
    rcases runCalls w env (t.enter .failed) (.emitFailedStatus :: unguarded w t) with ⟨u, _ | e'⟩
    · rw [andThen_ok, andThen_ok, runCalls_cons, andThen_of_ok (hreinit u)]
      rfl
    · rfl
  have happlies : ∀ u : Service, u.runtimeDependencies = true →
      applies w u (failureReport e) = applies w t (failureReport e) := by
    intro u hu
    unfold failureReport
    split
    · rfl
    · exact hu.trans hdeps.symm
  rw [hbody, delivered_iff w env t, hbefore]
  · rw [andThen_eq_none, ← runCalls_failed]
    constructor
    · rintro ⟨⟨hok, -⟩, happ, hdelivered⟩
      rw [andThen_of_ok hok] at happ
      refine ⟨hok, ?_, hdelivered⟩
      rw [← happlies _ (reinitialized (.inl ?_))]
      · exact happ
      · exact (dependencies_failed w env t).trans hdeps
    · rintro ⟨hok, happ, hdelivered⟩
      refine ⟨⟨hok, rfl⟩, ?_, hdelivered⟩
      rw [andThen_of_ok hok, happlies _ (reinitialized (.inl ?_))]
      · exact happ
      · exact (dependencies_failed w env t).trans hdeps
  · intro op hop
    rcases List.mem_cons.1 hop with rfl | hop
    · unfold failureReport
      split <;> exact notMem_callsOf_failed (by simp) (by simp)
    · apply notMem_callsOf_map _ op hop
      unfold failureReport
      split <;> simp [unguarded, journalCalls, closeCalls]
  · exact notMem_callsOf_end

/-- The calls of a rollback. -/
theorem callsOf_startFailed {e : Error} {op : Op} {u : Service} {c : Call}
    (hop : op ∈ startFailed w e) (hc : c ∈ callsOf u op) :
    c = .emitFailedStatus ∨ (∃ p, c = .recordPhaseChange p .failed) ∨
      c ∈ .recordLaunchFailed :: .stopStrategy :: closeCalls w ∨ c ∈ guardedCalls e := by
  rw [startFailed_eq w u e, rollbackReport] at hop
  rcases List.mem_cons.1 hop with rfl | hop
  · simp only [callsOf, setPhaseCalls, if_true, List.mem_append, List.mem_singleton] at hc
    exact hc.imp_right fun h => .inl ⟨_, h⟩
  · rcases List.mem_append.1 hop with hop | hop
    · rcases List.mem_map.1 hop with ⟨d, hd, rfl⟩
      cases List.mem_singleton.1 hc
      exact .inr (.inr (.inl hd))
    · rcases List.mem_append.1 hop with hop | hop
      · rcases List.mem_map.1 hop with ⟨d, hd, rfl⟩
        cases List.mem_singleton.1 hc
        exact .inr (.inr (.inr hd))
      · exact absurd hc (notMem_callsOf_end op hop u)

/-- A rollback makes no report but the one for its error. -/
theorem report_of_called {t : Service} {e : Error} {c : Call}
    (hc : c = .emitBootstrapFailed ∨ c = .reportBootstrapFailure)
    (h : .called c true ∈ newEvents t (runStraight w env t (startFailed w e)).1) :
    c = failureReport e := by
  rcases called_of_runStraight h with ⟨op, hop, u, hcalls⟩
  rcases callsOf_startFailed hop hcalls with rfl | ⟨p, rfl⟩ | hmem | hmem
  · simp at hc
  · simp at hc
  · rcases hc with rfl | rfl <;> simp [closeCalls] at hmem
  · simp only [guardedCalls, List.mem_cons, List.not_mem_nil, or_false] at hmem
    rcases hmem with rfl | hmem
    · simp at hc
    · exact hmem

/-- A rollback makes no success report. -/
theorem successReported_trans {s t u : Service} {e : Error}
    (hst : s.log <+: t.log) (hu : u = (runStraight w env t (startFailed w e)).1) :
    SuccessReported s u ↔ SuccessReported s t := by
  have hnone : ∀ c ∈ [Call.emitBootstrapSucceeded, .reportBootstrapSuccess],
      .called c true ∉ newEvents t u := by
    intro c hc hmem
    rw [hu] at hmem
    rcases called_of_runStraight hmem with ⟨op, hop, v, hcalls⟩
    have hc : c = .emitBootstrapSucceeded ∨ c = .reportBootstrapSuccess := by simpa using hc
    rcases callsOf_startFailed hop hcalls with rfl | ⟨p, rfl⟩ | hmem | hmem
    · simp at hc
    · simp at hc
    · rcases hc with rfl | rfl <;> simp [closeCalls] at hmem
    · unfold guardedCalls failureReport at hmem
      split at hmem <;> rcases hc with rfl | rfl <;> simp at hmem
  have htu : t.log <+: u.log := hu ▸ runStraight_log w env t _
  simp only [SuccessReported, newEvents_trans hst htu, List.mem_append]
  exact exists_congr fun c => and_congr_right fun hc => or_iff_left (hnone c hc)

/-- What is reported first and after. -/
theorem failureReported_trans {s t u : Service} (hst : s.log <+: t.log) (htu : t.log <+: u.log)
    (hnone : ¬ FailureReported s t) : FailureReported s u ↔ FailureReported t u := by
  simp only [FailureReported, newEvents_trans hst htu, List.mem_append]
  apply exists_congr
  intro c
  apply and_congr_right
  intro hc
  exact or_iff_right fun h => hnone ⟨c, hc, h⟩

/-- The body of a start makes no failure report. -/
theorem no_failure_startBody (w : Wiring) (env : Op → Outcome) (s : Service) :
    ¬ FailureReported s (runStraight w env s startBody).1 := by
  rintro ⟨c, hc, hmem⟩
  refine not_called (fun op hop u => ?_) s hmem
  have hc : c = .recordLaunchFailed ∨ c = .emitBootstrapFailed ∨ c = .reportBootstrapFailure := by
    simpa using hc
  revert op
  rcases hc with rfl | rfl | rfl <;> simp [startBody, callsOf, setPhaseCalls]

/-- The failure reports of a rollback. -/
theorem failureReported_iff (w : Wiring) (env : Op → Outcome) {t : Service} (e : Error)
    (hdeps : t.runtimeDependencies = true) :
    FailureReported t (runStraight w env t (startFailed w e)).1 ↔ DeliversFailure w env t e := by
  have hsome : FailureReported t (runStraight w env t (startFailed w e)).1 ↔
      .called .recordLaunchFailed true ∈ newEvents t (runStraight w env t (startFailed w e)).1 ∨
        .called (failureReport e) true ∈
          newEvents t (runStraight w env t (startFailed w e)).1 := by
    constructor
    · rintro ⟨c, hc, hmem⟩
      rcases List.mem_cons.1 hc with rfl | hc
      · exact .inl hmem
      · have hreport : c = .emitBootstrapFailed ∨ c = .reportBootstrapFailure := by simpa using hc
        exact .inr (report_of_called hreport hmem ▸ hmem)
    · rintro (hmem | hmem)
      · exact ⟨_, List.mem_cons_self, hmem⟩
      · refine ⟨_, List.mem_cons_of_mem _ ?_, hmem⟩
        unfold failureReport
        split <;> simp
  have hquiet : RollbackQuiet w env t ↔
      escapes w env t (.recordPhaseChange t.phase .failed) = none ∧
        ∀ c ∈ .recordLaunchFailed :: .stopStrategy :: closeCalls w, escapes w env t c = none := by
    rw [rollbackQuiet_iff]
    exact List.forall_mem_cons
  rw [hsome, launchFailed_iff, failureReport_iff w env e hdeps, hquiet, and_assoc, ← and_or_left]
  exact Iff.rfl

/-! ## One outcome -/

/-- The error of a start that has come to its success signal. -/
def lateError (w : Wiring) (env : Op → Outcome) (s : Service) : Option Error :=
  (.emitBootstrapSucceeded :: lateCalls s.phase).findSome? (escapes w env (s.broughtUp w))

/-- The service in which such a start fails, as far as its rollback depends on it. -/
def Service.failedStart (s : Service) (w : Wiring) (env : Op → Outcome) : Service :=
  { s.broughtUp w with phase := failedPhase w env s }

theorem deliversFailure_congr {t u : Service} (h : t.phase = u.phase)
    (hsame : ∀ c, c ≠ .emitHeartbeat → applies w t c = applies w u c) (e : Error) :
    DeliversFailure w env t e ↔ DeliversFailure w env u e := by
  have hreport : applies w t (failureReport e) = applies w u (failureReport e) := by
    apply hsame
    unfold failureReport
    split <;> simp
  have hcalls : ∀ c ∈ .recordLaunchFailed :: .stopStrategy :: closeCalls w,
      escapes w env t c = escapes w env u c := by
    intro c hc
    apply escapes_congr (hsame c _)
    rintro rfl
    simp [closeCalls] at hc
  have hall : (∀ c ∈ .recordLaunchFailed :: .stopStrategy :: closeCalls w,
      escapes w env t c = none) ↔ ∀ c ∈ .recordLaunchFailed :: .stopStrategy :: closeCalls w,
        escapes w env u c = none :=
    forall₂_congr fun c hc => by rw [hcalls c hc]
  rw [DeliversFailure, DeliversFailure, hall, hreport, h,
    escapes_congr (hsame (.recordPhaseChange u.phase .failed) (by simp))]

/--
A start reports one outcome at most, unless it delivers a success report, one of its later
calls raises, and the rollback delivers a failure report.
-/
theorem one_outcome_iff (w : Wiring) (env : Op → Outcome) (s : Service) (r : LifecycleEnding)
    (hstart : (machine w).Finishes env s [.startGuard] [] r) :
    ¬ (SuccessReported s r.shared ∧ FailureReported s r.shared) ↔
      ¬ (s.started = false ∧ DeliversSuccess w env s ∧
        ∃ e, lateError w env s = some e ∧ DeliversFailure w env (s.failedStart w env) e) := by
  rw [not_iff_not]
  obtain rfl := finishes_start.1 hstart
  simp only [Verdict.ending, runStart]
  cases hstarted : s.started with
  | true =>
      have hnone : newEvents s s = [] := by simp [newEvents]
      simp [SuccessReported, hnone]
  | false =>
      have hsuccess := successReported_iff w env s
      have herror := start_error w env s
      have hnone := no_failure_startBody w env s
      have hlog := runStraight_log w env s startBody
      rcases early_run w env s with ⟨hearly, hup⟩
      rw [List.findSome?_append] at herror
      rcases hbody : runStraight w env s startBody with ⟨t, _ | e⟩ <;>
        rw [hbody] at hsuccess herror hnone hlog <;> simp only at herror
      · -- nothing fails
        have hlate : lateError w env s = none := (Option.or_eq_none_iff.1 herror.symm).2
        simp [hnone, hlate]
      · -- the success is reported by the body, the failure by the rollback
        simp only [Bool.false_eq_true, if_false, true_and]
        rw [successReported_trans hlog rfl, hsuccess]
        apply and_congr_right
        intro hdelivers
        have hquiet : (runStraight w env s earlyBody).2 = none := by
          rw [hearly, List.findSome?_eq_none_iff]
          exact hdelivers.1
        have hlate : lateError w env s = some e := by
          rw [← hearly, hquiet, Option.none_or] at herror
          exact herror.symm
        have hstate : BroughtUp w s t ∧ t.phase = failedPhase w env s := by
          have hrun := (signal_run env (hup hquiet).1 (hup hquiet).2).2
          rw [startBody_eq, runStraight_append, andThen_of_ok hquiet] at hbody
          rw [hbody] at hrun
          exact hrun
        rw [failureReported_trans hlog (runStraight_log w env t _) hnone,
          failureReported_iff w env e hstate.1.dependencies, hlate]
        simp only [Option.some.injEq, exists_eq_left']
        apply deliversFailure_congr hstate.2
        intro c hc
        exact applies_congr (t := s.failedStart w env) hstate.1.dependencies hstate.1.adapter
          hstate.1.inProgress c fun h => absurd h hc

/-- A journaled start in which nothing fails. -/
theorem one_outcome_success :
    ∃ r, (machine journalWiring).Finishes (fun _ => .ok) .new [.startGuard] [] r ∧
      ¬ (SuccessReported .new r.shared ∧ FailureReported .new r.shared) := by
  have hstart := finishes_start.2 (Eq.refl ((runStart journalWiring (fun _ => .ok) .new).ending []))
  refine ⟨_, hstart, (one_outcome_iff journalWiring (fun _ => .ok) .new _ hstart).2 ?_⟩
  have hlate : lateError journalWiring (fun _ => .ok) .new = none := by decide +kernel
  simp [hlate]

/-- The first heartbeat raises after the success signal: the rollback journals a failed launch
and sends the failure signal for the same attempt. -/
theorem both_outcomes_reported :
    ∃ r ∈ (machine journalWiring).runAlone (failing [(.emitHeartbeat, .other)])
        60 .new [.startGuard] [],
      .called .emitBootstrapSucceeded true ∈ r.shared.log ∧
        .called .reportBootstrapSuccess true ∈ r.shared.log ∧
        .called .recordLaunchFailed true ∈ r.shared.log ∧
        .called .emitBootstrapFailed true ∈ r.shared.log := by
  decide +kernel

end Lifecycle
end StrategyWorker
