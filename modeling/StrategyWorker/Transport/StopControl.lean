import StrategyWorker.Library.PyJson
import StrategyWorker.Lifecycle.Machine
import StrategyWorker.Transport.InternalAuth

/-!
# Stopping a worker over HTTP

{lit}`do_POST` of the stop server: the body of the request is read, decoded and
parsed, and the coordinator reports the stop to the runtime manager, sets the
flags of the lifecycle service and starts the thread that tears the worker down.
An exception that {lit}`do_POST` does not catch ends the connection without a
response.

Main results:

- Theorem {lit}`initiateStop_machine`: the coordinator's part is the code of the
  lifecycle machine for this request.
- Theorem {lit}`requestHttpStop_cases`: how the stop callback ends.
- Theorem {lit}`http_stop_total_iff`: an authorised request is answered once, and
  atomically, exactly when it can be read and its callback settles.
-/

namespace StrategyWorker
namespace Transport

open Library
open Library.PyText

/-! ## What is outside -/

/-- {lit}`worker_runtime_settings`, as far as a stop reads them. -/
structure StopSettings where
  strategyRuntimeManagerBaseUrl : String
  runtimeManagerHeartbeatTimeoutSeconds : PyVal

/-- What a stop meets outside of the worker's own state. -/
structure StopEnv where
  /-- {lit}`worker_runtime_settings`, when there are any. -/
  settings : Option StopSettings
  /-- {lit}`initiate_stop_status_update` for a reason: the status body, or an exception. -/
  statusUpdate : String → Option PyDict
  /-- Whether {lit}`Thread.start` finds the resources for another thread. -/
  threadStarts : Bool
  /-- The room for nesting that the interpreter has in a handler. -/
  room : Nat

structure PostRequest where
  path : String
  headers : Headers
  /-- {lit}`rfile.read(length)`; {lit}`none` when it raises or waits for bytes that never come. -/
  read : Nat → Option ByteArray

structure Response where
  status : Nat
  body : PyDict

/-- The flags of the lifecycle service and the coordinator, and what has been sent. -/
structure StopState where
  shutdownComplete : Bool
  stopRequestAccepted : Bool
  shutdownInProgress : Bool
  /-- {lit}`_shutdown_thread_started`, which is set before the thread is started. -/
  shutdownThreadStarted : Bool
  /-- The thread that tears the worker down has been started. -/
  teardownStarted : Bool
  responses : List Response

/-! ## The stop callback -/

/-- What the stop callback raises. -/
inductive StopException where
  | stopAlreadyInProgress
  | workerAlreadyStopped
  /-- Any exception that {lit}`do_POST` does not catch. -/
  | other
  deriving DecidableEq, Repr

/-- What {lit}`initiate_stop_from_request` reads before it takes its lock. -/
def stopConfigured (env : StopEnv) : Bool :=
  match env.settings with
  | none => false
  | some wrs =>
      strip wrs.strategyRuntimeManagerBaseUrl ≠ "" &&
        ((wrs.runtimeManagerHeartbeatTimeoutSeconds.orElse (.float (.finite 30))).toFloat).isOk

/-- {lit}`LifecycleService.initiate_stop_from_request`. -/
def initiateStopFromRequest (env : StopEnv) (reason : String) (s : StopState) :
    Except StopException PyDict × StopState :=
  if ¬ stopConfigured env then (.error .other, s)
  else if s.shutdownComplete then (.error .workerAlreadyStopped, s)
  else if s.stopRequestAccepted || s.shutdownInProgress then (.error .stopAlreadyInProgress, s)
  else
    match env.statusUpdate reason with
    | none => (.error .other, s)
    | some body => (.ok body, { s with stopRequestAccepted := true, shutdownInProgress := true })

/-- {lit}`_ensure_shutdown_thread`; {lit}`false` when the start of the thread raises. -/
def ensureShutdownThread (env : StopEnv) (s : StopState) : Bool × StopState :=
  if s.shutdownThreadStarted then (true, s)
  else if env.threadStarts then
    (true, { s with shutdownThreadStarted := true, teardownStarted := true })
  else (false, { s with shutdownThreadStarted := true })

/-- {lit}`CooperativeShutdownCoordinator.request_http_stop`. -/
def requestHttpStop (env : StopEnv) (reason : String) (s : StopState) :
    Except StopException PyDict × StopState :=
  match initiateStopFromRequest env reason s with
  | (.error e, s') => (.error e, s')
  | (.ok body, s') =>
      match ensureShutdownThread env s' with
      | (true, s'') => (.ok body, s'')
      | (false, s'') => (.error .other, s'')

/-! ## The same in the lifecycle machine -/

/-- The flags of the lifecycle service; the machine's thread starts whenever its flag is set. -/
def StopState.ofService (s : Lifecycle.Service) (responses : List Response) : StopState where
  shutdownComplete := s.shutdownComplete
  stopRequestAccepted := s.stopRequestAccepted
  shutdownInProgress := s.shutdownInProgress
  shutdownThreadStarted := s.shutdownThreadStarted
  teardownStarted := s.shutdownThreadStarted
  responses := responses

/-- {lit}`initiate_stop_from_request` is the code of the lifecycle machine for it. -/
theorem initiateStop_machine (w : Lifecycle.Wiring) (outcomes : Lifecycle.Op → Lifecycle.Outcome)
    (env : StopEnv) (reason : String) (s : Lifecycle.Service) (responses : List Response)
    (hfree : s.stopInitiateLock = false) (hconf : stopConfigured env = w.srmBaseUrl)
    (hpost : (outcomes (.call .postStopping)).error.isNone = (env.statusUpdate reason).isSome) :
    ∃ r, (Lifecycle.machine w).runAlone outcomes 9 s Lifecycle.initiateStopFromRequest [] = some r ∧
      StopState.ofService r.shared responses =
        (initiateStopFromRequest env reason (.ofService s responses)).2 ∧
      r.failure.isNone = (initiateStopFromRequest env reason (.ofService s responses)).1.isOk := by
  unfold initiateStopFromRequest
  rw [hconf]
  cases hurl : w.srmBaseUrl with
  | false =>
      have hrun : (Lifecycle.machine w).runAlone outcomes 9 s Lifecycle.initiateStopFromRequest [] =
          some ⟨{ s with stopInitiateLock := false }, some .notConfigured, []⟩ := by
        simp [ThreadMachine.runAlone, ThreadMachine.unwind, Lifecycle.initiateStopFromRequest,
          Lifecycle.machine, Lifecycle.exec, Lifecycle.handler, hurl]
      exact ⟨_, hrun, rfl, rfl⟩
  | true =>
      cases hcomplete : s.shutdownComplete with
      | true =>
          have hrun : (Lifecycle.machine w).runAlone outcomes 9 s
              Lifecycle.initiateStopFromRequest [] =
                some ⟨{ s with stopInitiateLock := false }, some .workerAlreadyStopped, []⟩ := by
            simp [ThreadMachine.runAlone, ThreadMachine.unwind, Lifecycle.initiateStopFromRequest,
              Lifecycle.machine, Lifecycle.exec, Lifecycle.handler, hurl, hfree, hcomplete]
          refine ⟨_, hrun, ?_, ?_⟩ <;> simp [StopState.ofService, hcomplete, Except.isOk, Except.toBool]
      | false =>
          cases hprogress : s.stopRequestAccepted || s.shutdownInProgress with
          | true =>
              have hrun : (Lifecycle.machine w).runAlone outcomes 9 s
                  Lifecycle.initiateStopFromRequest [] =
                    some ⟨{ s with stopInitiateLock := false }, some .stopAlreadyInProgress, []⟩ := by
                simp [ThreadMachine.runAlone, ThreadMachine.unwind,
                  Lifecycle.initiateStopFromRequest, Lifecycle.machine, Lifecycle.exec,
                  Lifecycle.handler, hurl, hfree, hcomplete, hprogress]
              refine ⟨_, hrun, ?_, ?_⟩ <;>
                simp [StopState.ofService, hcomplete, hprogress, Except.isOk, Except.toBool]
          | false =>
              -- the flags are set once the status update has gone through
              cases hpostError : (outcomes (.call .postStopping)).error with
              | none =>
                  rw [hpostError] at hpost
                  rcases Option.isSome_iff_exists.1 hpost.symm with ⟨body, hbody⟩
                  have hrun : (Lifecycle.machine w).runAlone outcomes 9 s
                      Lifecycle.initiateStopFromRequest [] =
                        some ⟨{ (s.note (.called .postStopping
                          (outcomes (.call .postStopping)).delivered)) with
                            stopRequestAccepted := true
                            shutdownInProgress := true
                            stopInitiateLock := false }, none, []⟩ := by
                    simp [ThreadMachine.runAlone, Lifecycle.initiateStopFromRequest,
                      Lifecycle.machine, Lifecycle.exec, Lifecycle.execCall, Lifecycle.applies,
                      Lifecycle.Service.succeed, Lifecycle.Service.assign, Lifecycle.Service.note,
                      hurl, hfree, hcomplete, hprogress, hpostError]
                  refine ⟨_, hrun, ?_, ?_⟩ <;>
                    simp [StopState.ofService, hcomplete, hprogress, hbody, Lifecycle.Service.note,
                      Except.isOk, Except.toBool]
              | some kind =>
                  rw [hpostError] at hpost
                  have hnone : env.statusUpdate reason = none := by
                    simpa using hpost
                  have hrun : (Lifecycle.machine w).runAlone outcomes 9 s
                      Lifecycle.initiateStopFromRequest [] =
                        some ⟨{ (s.note (.called .postStopping
                          (outcomes (.call .postStopping)).delivered)) with
                            stopInitiateLock := false },
                          some (.raisedBy .postStopping kind), []⟩ := by
                    simp [ThreadMachine.runAlone, ThreadMachine.unwind,
                      Lifecycle.initiateStopFromRequest, Lifecycle.machine, Lifecycle.exec,
                      Lifecycle.execCall, Lifecycle.applies, Lifecycle.swallowed,
                      Lifecycle.handler, Lifecycle.Service.note, hurl, hfree, hcomplete, hprogress,
                      hpostError]
                  refine ⟨_, hrun, ?_, ?_⟩ <;>
                    simp [StopState.ofService, hcomplete, hprogress, hnone, Lifecycle.Service.note,
                      Except.isOk, Except.toBool]

/-! ## The handler -/

def stopPath : String :=
  "/internal/v1/stop"

/-- {lit}`_json_response`. -/
def respond (status : Nat) (body : PyDict) (s : StopState) : StopState :=
  { s with responses := s.responses ++ [⟨status, body⟩] }

def errorBody (error message : String) : PyDict :=
  [("error", .str error), ("message", .str message)]

/-- {lit}`int(self.headers.get("Content-Length", "0") or 0)`. -/
def contentLength (headers : Headers) : Option Int :=
  match messageGet headers "Content-Length" with
  | none => intOfText "0"
  | some text => if text = "" then some 0 else intOfText text

/-- The body of the request as a text; {lit}`none` when reading or decoding it raises. -/
def bodyText (request : PostRequest) : Option String := do
  let length ← contentLength request.headers
  if 0 < length then
    let raw ← request.read length.toNat
    String.fromUTF8? raw
  else some "\x7b\x7d"

/-- {lit}`str(payload.get("reason", "") or "")`. -/
def stopReason (payload : PyDict) : String :=
  (((payload.get? "reason").getD (.str "")).orElse (.str "")).text

/-- {lit}`do_POST`, once the payload has been parsed. -/
def answerStop (env : StopEnv) (reason : String) (s : StopState) : StopState :=
  match requestHttpStop env reason s with
  | (.ok body, s') => respond 200 body s'
  | (.error .stopAlreadyInProgress, s') =>
      respond 409 (errorBody "conflict" "Stop is already in progress.") s'
  | (.error .workerAlreadyStopped, s') =>
      respond 409 (errorBody "already_stopped" "Worker is already stopped.") s'
  | (.error .other, s') => s'

/-- {lit}`do_POST` after the authorisation. -/
def handleStop (env : StopEnv) (request : PostRequest) (s : StopState) : StopState :=
  match bodyText request with
  | none => s
  | some text =>
      match PyJson.loads env.room text with
      | .ok (.dict payload) => answerStop env (stopReason payload) s
      | .ok _ => respond 400 (errorBody "invalid_body" "body must be JSON object") s
      | .error .jsonDecodeError =>
          respond 400 (errorBody "invalid_json" "body must be JSON object") s
      | .error _ => s

/-- {lit}`do_POST`. -/
def doPost (env : StopEnv) (request : PostRequest) (s : StopState) : StopState :=
  if rstripSlash request.path ≠ rstripSlash stopPath then
    respond 404 [("error", .str "not_found")] s
  else
    match httpStopAuthorised request.headers with
    | .error _ =>
        respond 403
          (errorBody "forbidden" "Trusted internal caller is not allowed for this operation.") s
    | .ok _ => handleStop env request s

/-! ## How the callback ends -/

/-- The flags that a refused stop must not touch. -/
def SameFlags (s t : StopState) : Prop :=
  t.stopRequestAccepted = s.stopRequestAccepted ∧ t.shutdownInProgress = s.shutdownInProgress

/-- The stop can be accepted: the worker neither stops nor has stopped. -/
def Stoppable (s : StopState) : Prop :=
  s.shutdownComplete = false ∧ s.stopRequestAccepted = false ∧ s.shutdownInProgress = false

instance (s : StopState) : Decidable (Stoppable s) :=
  inferInstanceAs (Decidable (_ ∧ _ ∧ _))

/-- The callback succeeds with the teardown under way, or raises one of the two exceptions that
{lit}`do_POST` catches. -/
def Settles (env : StopEnv) (reason : String) (s : StopState) : Prop :=
  stopConfigured env = true ∧ (Stoppable s → (env.statusUpdate reason).isSome = true ∧
    if s.shutdownThreadStarted then s.teardownStarted = true else env.threadStarts = true)

/-- How the stop callback ends, when what it reads is there. -/
theorem requestHttpStop_cases {env : StopEnv} (hconf : stopConfigured env = true)
    (reason : String) (s : StopState) :
    (¬ Stoppable s ∧ (requestHttpStop env reason s = (.error .workerAlreadyStopped, s) ∨
      requestHttpStop env reason s = (.error .stopAlreadyInProgress, s))) ∨
    (Stoppable s ∧ env.statusUpdate reason = none ∧
      requestHttpStop env reason s = (.error .other, s)) ∨
    ∃ body, Stoppable s ∧ env.statusUpdate reason = some body ∧
      requestHttpStop env reason s =
        ((if s.shutdownThreadStarted || env.threadStarts then .ok body else .error .other),
          { s with
            stopRequestAccepted := true
            shutdownInProgress := true
            shutdownThreadStarted := true
            teardownStarted :=
              s.teardownStarted || (!s.shutdownThreadStarted && env.threadStarts) }) := by
  unfold requestHttpStop initiateStopFromRequest
  rw [if_neg (by simpa using hconf)]
  by_cases hcomplete : s.shutdownComplete = true
  · refine .inl ⟨fun h => ?_, .inl ?_⟩
    · rw [h.1] at hcomplete
      cases hcomplete
    · rw [if_pos hcomplete]
  by_cases hprogress : (s.stopRequestAccepted || s.shutdownInProgress) = true
  · refine .inl ⟨fun h => ?_, .inr ?_⟩
    · rw [h.2.1, h.2.2] at hprogress
      cases hprogress
    · rw [if_neg hcomplete, if_pos hprogress]
  have hstop : Stoppable s := by
    rw [Bool.or_eq_true, not_or] at hprogress
    exact ⟨Bool.eq_false_iff.2 hcomplete, Bool.eq_false_iff.2 hprogress.1,
      Bool.eq_false_iff.2 hprogress.2⟩
  rw [if_neg hcomplete, if_neg hprogress]
  cases hupdate : env.statusUpdate reason with
  | none => exact .inr (.inl ⟨hstop, rfl, rfl⟩)
  | some body =>
      refine .inr (.inr ⟨body, hstop, rfl, ?_⟩)
      unfold ensureShutdownThread
      rcases s with ⟨_, _, _, started, _, _⟩
      cases hthread : env.threadStarts <;> cases started <;> simp

/-! ## Requests that are answered once and atomically -/

/-- One response is sent; it is 200 exactly when the stop was accepted and its teardown started,
and any other response leaves the flags alone. -/
def TotalAndAtomic (s t : StopState) : Prop :=
  ∃ response, t.responses = s.responses ++ [response] ∧
    (response.status = 200 ↔ s.stopRequestAccepted = false ∧ t.stopRequestAccepted = true ∧
      t.teardownStarted = true) ∧
    (response.status ≠ 200 → SameFlags s t)

/-- A response that is no 200 and comes without any change. -/
theorem totalAndAtomic_respond {status : Nat} (h : status ≠ 200) (body : PyDict) (s : StopState) :
    TotalAndAtomic s (respond status body s) := by
  refine ⟨⟨status, body⟩, rfl, ?_, fun _ => ⟨rfl, rfl⟩⟩
  constructor
  · intro h200
    exact absurd h200 h
  · rintro ⟨hbefore, hafter, -⟩
    have hsame : (respond status body s).stopRequestAccepted = s.stopRequestAccepted := rfl
    rw [hsame, hbefore] at hafter
    cases hafter

/-- Without a response a request has not been answered. -/
theorem not_totalAndAtomic {s t : StopState} (h : t.responses = s.responses) :
    ¬ TotalAndAtomic s t := by
  rintro ⟨response, hresponses, -⟩
  rw [h] at hresponses
  exact absurd hresponses (by simp)

/-- An accepted stop has been answered rightly when its teardown has been started. -/
theorem totalAndAtomic_accepted {s t : StopState} (hresponses : t.responses = s.responses)
    (hbefore : s.stopRequestAccepted = false) (hafter : t.stopRequestAccepted = true)
    (body : PyDict) :
    TotalAndAtomic s (respond 200 body t) ↔ t.teardownStarted = true := by
  constructor
  · rintro ⟨response, hsent, hstatus, -⟩
    have hresponse : (⟨200, body⟩ : Response) = response := by
      have hlast : t.responses ++ [⟨200, body⟩] = s.responses ++ [response] := hsent
      rw [hresponses] at hlast
      exact List.head_eq_of_cons_eq (List.append_cancel_left hlast)
    subst hresponse
    exact (hstatus.1 rfl).2.2
  · intro hteardown
    refine ⟨⟨200, body⟩, ?_, ?_, fun h => absurd rfl h⟩
    · rw [← hresponses]
      rfl
    · exact ⟨fun _ => ⟨hbefore, hafter, hteardown⟩, fun _ => rfl⟩

/-- The stop callback of a parsed request. -/
theorem answerStop_total_iff (env : StopEnv) (reason : String) (s : StopState) :
    TotalAndAtomic s (answerStop env reason s) ↔ Settles env reason s := by
  unfold answerStop Settles
  by_cases hconf : stopConfigured env = true
  · rcases requestHttpStop_cases hconf reason s with ⟨hstop, hend⟩ | ⟨hstop, hupdate, hend⟩ |
      ⟨body, hstop, hupdate, hend⟩
    · have hsettles : stopConfigured env = true ∧ (Stoppable s →
          (env.statusUpdate reason).isSome = true ∧
            if s.shutdownThreadStarted then s.teardownStarted = true
            else env.threadStarts = true) :=
        ⟨hconf, fun h => absurd h hstop⟩
      rcases hend with hend | hend <;> rw [hend]
      · exact ⟨fun _ => hsettles, fun _ => totalAndAtomic_respond (by decide) _ s⟩
      · exact ⟨fun _ => hsettles, fun _ => totalAndAtomic_respond (by decide) _ s⟩
    · rw [hend]
      constructor
      · intro h
        exact absurd h (not_totalAndAtomic rfl)
      · rintro ⟨-, h⟩
        rw [hupdate] at h
        cases (h hstop).1
    · have hsettles : (stopConfigured env = true ∧ (Stoppable s →
          (env.statusUpdate reason).isSome = true ∧
            if s.shutdownThreadStarted then s.teardownStarted = true
            else env.threadStarts = true)) ↔
          if s.shutdownThreadStarted then s.teardownStarted = true else env.threadStarts = true := by
        simp [hconf, hstop, hupdate]
      rw [hsettles, hend]
      by_cases hstarted : s.shutdownThreadStarted = true
      · rw [if_pos (by simp [hstarted]), if_pos hstarted]
        dsimp only
        rw [totalAndAtomic_accepted (by rfl) hstop.2.1 (by rfl)]
        simp [hstarted]
      · rw [if_neg hstarted]
        by_cases hthread : env.threadStarts = true
        · rw [if_pos (by simp [hthread])]
          dsimp only
          rw [totalAndAtomic_accepted (by rfl) hstop.2.1 (by rfl)]
          simp [hstarted, hthread]
        · rw [if_neg (by simp [hstarted, hthread])]
          exact ⟨fun h => absurd h (not_totalAndAtomic rfl), fun h => absurd h hthread⟩
  · have hend : requestHttpStop env reason s = (.error .other, s) := by
      unfold requestHttpStop initiateStopFromRequest
      rw [if_pos (by simpa using hconf)]
    rw [hend]
    constructor
    · intro h
      exact absurd h (not_totalAndAtomic rfl)
    · rintro ⟨h, -⟩
      exact absurd h hconf

/-- The request can be read as JSON or as something that is not, and when it is an object its
callback settles. -/
def Serves (env : StopEnv) (request : PostRequest) (s : StopState) : Prop :=
  ∃ text, bodyText request = some text ∧
    match PyJson.loads env.room text with
    | .ok (.dict payload) => Settles env (stopReason payload) s
    | .ok _ => True
    | .error e => e = .jsonDecodeError

/-- An authorised request to the stop path is answered once, and atomically, exactly when it can be
read and its callback settles. -/
theorem http_stop_total_iff {env : StopEnv} {request : PostRequest}
    (hpath : rstripSlash request.path = rstripSlash stopPath)
    {auth : InternalAuthContext} (hauth : httpStopAuthorised request.headers = .ok auth)
    (s : StopState) :
    TotalAndAtomic s (doPost env request s) ↔ Serves env request s := by
  unfold doPost handleStop Serves
  rw [if_neg (not_not.2 hpath), hauth]
  dsimp only
  cases hbody : bodyText request with
  | none =>
      dsimp only
      constructor
      · intro h
        exact absurd h (not_totalAndAtomic rfl)
      · rintro ⟨text, htext, -⟩
        cases htext
  | some text =>
      dsimp only
      simp only [Option.some.injEq, exists_eq_left']
      cases PyJson.loads env.room text with
      | error e =>
          cases e with
          | jsonDecodeError => simpa using totalAndAtomic_respond (by decide) _ s
          | _ => simpa using not_totalAndAtomic (s := s) rfl
      | ok payload =>
          cases payload with
          | dict payload => exact answerStop_total_iff env (stopReason payload) s
          | _ => simpa using totalAndAtomic_respond (by decide) _ s

/-- A worker whose runtime manager answers. -/
def respondingEnv : StopEnv where
  settings := some ⟨"http://srm", .float (.finite 30)⟩
  statusUpdate := fun _ => some [("runtime_status", .str "STOPPING")]
  threadStarts := true
  room := 900

/-- A worker that has not been asked to stop. -/
def runningState : StopState where
  shutdownComplete := false
  stopRequestAccepted := false
  shutdownInProgress := false
  shutdownThreadStarted := false
  teardownStarted := false
  responses := []

/-- A request with control headers and the given length, whose body cannot be read. -/
def controlRequest (length : List (String × String)) : PostRequest where
  path := "/internal/v1/stop"
  headers := [("X-Internal-Caller", "srm"), ("X-Internal-Trust-Class", trustClassControl)] ++ length
  read := fun _ => none

theorem controlRequest_path (length : List (String × String)) :
    rstripSlash (controlRequest length).path = rstripSlash stopPath :=
  congrArg rstripSlash rfl

/-- The text is read, as an object. -/
def readsObject : Except PyJson.LoadsError PyVal → Bool
  | .ok (.dict _) => true
  | _ => false

theorem exists_of_readsObject {r : Except PyJson.LoadsError PyVal} (h : readsObject r = true) :
    ∃ payload, r = .ok (.dict payload) := by
  cases r with
  | ok v => cases v with
    | dict payload => exact ⟨payload, rfl⟩
    | _ => cases h
  | error e => cases h

/-- The text of an empty object. -/
theorem loads_braces : ∃ payload, PyJson.loads 900 "\x7b\x7d" = .ok (.dict payload) := by
  apply exists_of_readsObject
  decide +kernel

/-- Without a body the stop is accepted. -/
theorem empty_post_total :
    TotalAndAtomic runningState (doPost respondingEnv (controlRequest []) runningState) ↔
      Serves respondingEnv (controlRequest []) runningState := by
  have hauth : ∃ auth, httpStopAuthorised (controlRequest []).headers = .ok auth := ⟨_, rfl⟩
  rcases hauth with ⟨auth, hauth⟩
  exact http_stop_total_iff (controlRequest_path []) hauth runningState

example : Serves respondingEnv (controlRequest []) runningState := by
  have hbody : bodyText (controlRequest []) = some "\x7b\x7d" := by decide +kernel
  have hconf : stopConfigured respondingEnv = true := by decide +kernel
  rcases loads_braces with ⟨payload, hloads⟩
  refine ⟨_, hbody, ?_⟩
  have hroom : PyJson.loads respondingEnv.room "\x7b\x7d" = .ok (.dict payload) := hloads
  rw [hroom]
  exact ⟨hconf, fun _ => ⟨rfl, rfl⟩⟩

/-- A length that is no number ends the connection without a response. -/
theorem bad_length_unanswered :
    (∃ auth, httpStopAuthorised (controlRequest [("Content-Length", "abc")]).headers = .ok auth) ∧
      (doPost respondingEnv (controlRequest [("Content-Length", "abc")]) runningState).responses =
        [] := by
  have hauth : ∃ auth, httpStopAuthorised
      (controlRequest [("Content-Length", "abc")]).headers = .ok auth := ⟨_, rfl⟩
  have hbody : bodyText (controlRequest [("Content-Length", "abc")]) = none := by decide +kernel
  refine ⟨hauth, ?_⟩
  rcases hauth with ⟨auth, hauth⟩
  unfold doPost handleStop
  rw [if_neg (not_not.2 (controlRequest_path _)), hauth, hbody]
  rfl

end Transport
end StrategyWorker
