import StrategyWorker.Transport.HeartbeatSignal

/-!
# Signals on their way to the runtime manager

The manager client sends heartbeats one way and all other signals another.  The
gateway gives it an envelope only after the decider has accepted the event, whatever
becomes of the envelope then.

Main results:

- Theorem {lit}`emission_sent`: which envelope an emission gives to the client.
- Theorem {lit}`events_sent_once`: over any run of emissions every event is given to
  the client once at most, and requests go to the URL of their kind of signal.
-/

namespace StrategyWorker
namespace Transport

open Library Events Integration
open PyText

/-! ## The client -/

structure SrmHttpManagerClient where
  heartbeat : SrmHeartbeatHttpClient
  lifecycle : SrmLifecycleHttpClient

namespace SrmHttpManagerClient

/-- What {lit}`build_manager_client(...)` builds for a base URL that is not blank. -/
def new (srmBaseUrl ownerResourceId : String) : SrmHttpManagerClient where
  heartbeat := .new (strip srmBaseUrl) ownerResourceId
  lifecycle := .new (strip srmBaseUrl)

/-- The answer or the request of the client that the kind of signal has. -/
def prepare (c : SrmHttpManagerClient) (envelope : PyDict) :
    Except PyException (PyDict ⊕ HttpRequest) :=
  if signalTypeOf envelope = "heartbeat" then c.heartbeat.prepare envelope
  else c.lifecycle.prepare envelope

/-- {lit}`emit_signal(envelope)`. -/
def emitSignal {X : Type} (c : SrmHttpManagerClient) (room : Nat)
    (http : HttpRequest → HttpOutcome X) (envelope : PyDict) : Except (SignalError X) PyDict :=
  if signalTypeOf envelope = "heartbeat" then c.heartbeat.emitSignal room http envelope
  else c.lifecycle.emitSignal room http envelope

end SrmHttpManagerClient

/-! ## Emissions -/

/-- A call of one of the gateway's methods, and what journal, log and network do in it. -/
structure SignalCall (X : Type) where
  signal : Signal
  now : UtcDateTime
  journal : Option (LifecycleEventEnvelope → Option (SignalError X))
  log : PyDict → Option (SignalError X)
  http : HttpRequest → HttpOutcome X

namespace SignalCall

variable {X : Type}

/-- What surrounds the gateway in a call. -/
def surroundings (call : SignalCall X) (c : SrmHttpManagerClient) (room : Nat) :
    Surroundings (SignalError X) where
  now := call.now
  onEventEmitted := call.journal
  emitSignal := some fun envelope => (c.emitSignal room call.http envelope).map .dict
  writeControlPlaneEnvelope := call.log

/-- The emission of a call; there is none when its payload cannot be built. -/
def emission (call : SignalCall X) (c : SrmHttpManagerClient) (room : Nat) (g : ManagerGateway)
    (s : LifecycleSignalDedupe) : Option (Emission (SignalError X)) :=
  call.signal.payload.toOption.map fun payload =>
    g.emit (call.surroundings c room) s call.signal.signalType.name payload

/-- The decider after a call. -/
def next (call : SignalCall X) (c : SrmHttpManagerClient) (room : Nat) (g : ManagerGateway)
    (s : LifecycleSignalDedupe) : LifecycleSignalDedupe :=
  (call.emission c room g s).elim s Emission.dedupe

/-- The event that is created for a call. -/
def created (call : SignalCall X) (g : ManagerGateway) : Option LifecycleEventEnvelope :=
  call.signal.payload.toOption.bind fun payload =>
    (g.lifecycleEvent call.now call.signal.signalType.name payload).toOption

/-- The event that a call gives to the client: it is journaled and accepted. -/
def event (call : SignalCall X) (g : ManagerGateway) (s : LifecycleSignalDedupe) :
    Option LifecycleEventEnvelope :=
  (call.created g).bind fun e =>
    if (call.journal.bind fun callback => callback e).isNone ∧
        (s.decide e g.runtimeIdentity.launchAttempt).1 = .accept then some e
    else none

end SignalCall

/-- The events that a run gives to the client, with the kinds of their signals. -/
def sentEvents {X : Type} (c : SrmHttpManagerClient) (room : Nat) (g : ManagerGateway)
    (s : LifecycleSignalDedupe) :
    List (SignalCall X) → List (SignalType × LifecycleEventEnvelope)
  | [] => []
  | call :: calls =>
      ((call.event g s).map fun e => (call.signal.signalType, e)).toList ++
        sentEvents c room g (call.next c room g s) calls

/-! ## What an emission sends -/

section

variable {X : Type} {c : SrmHttpManagerClient} {room : Nat} {g : ManagerGateway}
variable {s : LifecycleSignalDedupe}

/-- A delivery gives the envelope to the client that there is. -/
theorem sent_deliver {u : Surroundings X} {emitter : PyDict → Except X PyVal}
    (h : u.emitSignal = some emitter) (signalType : String) (e : LifecycleEventEnvelope) :
    (g.deliver u s signalType e).sent = some (g.wireEnvelope signalType e) := by
  unfold ManagerGateway.deliver
  rw [h]
  dsimp only
  split
  · rfl
  · split <;> rfl

/-- An emission of a payload gives the envelope of its event to the client when the event is
journaled and accepted, and keeps the decision then. -/
theorem emit_cases {u : Surroundings X} {emitter : PyDict → Except X PyVal}
    (h : u.emitSignal = some emitter) {signalType : String} {payload : PyDict}
    {e : LifecycleEventEnvelope} (hevent : g.lifecycleEvent u.now signalType payload = .ok e) :
    (¬ ((ManagerGateway.journalRaises u e).isNone ∧
        (s.decide e g.runtimeIdentity.launchAttempt).1 = .accept) →
      (g.emit u s signalType payload).sent = none) ∧
    ((ManagerGateway.journalRaises u e).isNone ∧
        (s.decide e g.runtimeIdentity.launchAttempt).1 = .accept →
      (g.emit u s signalType payload).sent = some (g.wireEnvelope signalType e) ∧
        (g.emit u s signalType payload).dedupe =
          (s.decide e g.runtimeIdentity.launchAttempt).2) := by
  unfold ManagerGateway.emit
  rw [hevent]
  dsimp only
  cases hjournal : ManagerGateway.journalRaises u e with
  | some x => simp
  | none =>
      dsimp only [ManagerGateway.decideAndDeliver]
      by_cases haccept : (s.decide e g.runtimeIdentity.launchAttempt).1 = .accept
      · simp only [haccept, if_true, Option.isNone_none, and_self, not_true_eq_false,
          false_imp_iff, true_and, true_imp_iff]
        exact ⟨sent_deliver h signalType e, ManagerGateway.deliver_dedupe g u _ signalType e⟩
      · simp [haccept]

variable {call : SignalCall X}

/-- The envelope that an emission gives to the client is that of its event. -/
theorem emission_sent :
    (call.emission c room g s).bind Emission.sent =
      (call.event g s).map (g.wireEnvelope call.signal.signalType.name) := by
  unfold SignalCall.emission SignalCall.event SignalCall.created
  cases hpayload : call.signal.payload with
  | error err => rfl
  | ok payload =>
      cases hevent : g.lifecycleEvent call.now call.signal.signalType.name payload with
      | error err =>
          simp [Except.toOption, ManagerGateway.emit, SignalCall.surroundings, hevent]
      | ok e =>
          rcases emit_cases (s := s) (u := call.surroundings c room) rfl hevent with
            ⟨hquiet, hsent⟩
          simp only [Except.toOption, Option.map_some, Option.bind_some, hevent]
          split
          · rename_i hgiven
            exact (hsent hgiven).1
          · rename_i hnot
            exact hquiet hnot

/-- The decider remembers what it has seen. -/
theorem seen_decide (e : LifecycleEventEnvelope) (n : Int) :
    s.seenIdentityKeys ⊆ (s.decide e n).2.seenIdentityKeys := by
  unfold LifecycleSignalDedupe.decide
  dsimp only
  split
  · exact Finset.Subset.refl _
  · split
    · exact Finset.Subset.refl _
    · exact Finset.subset_insert _ _

/-- A call forgets no event. -/
theorem seen_next : s.seenIdentityKeys ⊆ (call.next c room g s).seenIdentityKeys := by
  unfold SignalCall.next SignalCall.emission
  cases call.signal.payload with
  | error err => exact Finset.Subset.refl _
  | ok payload =>
      simp only [Except.toOption, Option.map_some, Option.elim_some]
      unfold ManagerGateway.emit
      split
      · exact Finset.Subset.refl _
      · rename_i e _
        split
        · exact Finset.Subset.refl _
        · dsimp only [ManagerGateway.decideAndDeliver]
          split
          · rw [ManagerGateway.deliver_dedupe]
            exact seen_decide e _
          · exact seen_decide e _

/-- An event that is given to the client was not seen before, and is from then on. -/
theorem seen_event {e : LifecycleEventEnvelope} (h : call.event g s = some e) :
    LifecycleSignalDedupe.identityKeyOf e ∉ s.seenIdentityKeys ∧
      LifecycleSignalDedupe.identityKeyOf e ∈ (call.next c room g s).seenIdentityKeys := by
  rcases Option.bind_eq_some_iff.1 h with ⟨e', hcreated, h⟩
  split at h
  · rename_i hgiven
    obtain rfl := Option.some.inj h
    have haccept := LifecycleSignalDedupe.decide_eq_accept.1 hgiven.2
    refine ⟨haccept.2, ?_⟩
    rcases Option.bind_eq_some_iff.1 hcreated with ⟨payload, hpayload, hevent⟩
    have hevent := eq_ok_of_toOption hevent
    rcases emit_cases (s := s) (u := call.surroundings c room) rfl hevent with ⟨-, hsent⟩
    unfold SignalCall.next SignalCall.emission
    rw [hpayload, Option.map_some, Option.elim_some, (hsent hgiven).2]
    unfold LifecycleSignalDedupe.decide
    simp only [haccept.1, haccept.2, if_false, Finset.mem_insert_self]
  · cases h

/-- A run sends no event that was seen before. -/
theorem notMem_seen {calls : List (SignalCall X)} {sent : SignalType × LifecycleEventEnvelope}
    (h : sent ∈ sentEvents c room g s calls) :
    LifecycleSignalDedupe.identityKeyOf sent.2 ∉ s.seenIdentityKeys := by
  induction calls generalizing s with
  | nil => cases h
  | cons call calls ih =>
      rcases List.mem_append.1 h with h | h
      · rw [Option.mem_toList, Option.map_eq_some_iff] at h
        rcases h with ⟨e, hevent, rfl⟩
        have hnew : LifecycleSignalDedupe.identityKeyOf e ∉ s.seenIdentityKeys ∧
            LifecycleSignalDedupe.identityKeyOf e ∈
              (call.next c room g s).seenIdentityKeys := seen_event hevent
        exact hnew.1
      · exact fun hseen => ih h (seen_next hseen)

theorem nodup_sentEvents (calls : List (SignalCall X)) :
    ((sentEvents c room g s calls).map fun sent =>
      LifecycleSignalDedupe.identityKeyOf sent.2).Nodup := by
  induction calls generalizing s with
  | nil => exact List.nodup_nil
  | cons call calls ih =>
      rw [sentEvents]
      cases hevent : call.event g s with
      | none => exact ih
      | some e =>
          refine List.nodup_cons.2 ⟨fun hmem => ?_, ih⟩
          rcases List.mem_map.1 hmem with ⟨sent, hsent, heq⟩
          refine notMem_seen hsent ?_
          rw [heq]
          exact (seen_event hevent).2

end

/-! ## Where a request goes -/

/-- The request goes to the runtime's URL for the kind of signal. -/
structure SentTo (srmBaseUrl : String) (g : ManagerGateway) (t : SignalType)
    (request : HttpRequest) : Prop where
  base : request.base = rstripSlash (strip srmBaseUrl) ++ "/"
  path : request.path = "internal/v1/runtimes/" ++ strip g.runtimeIdentity.runtimeId ++
    if t = .heartbeat then "/status" else "/lifecycle-signals"

theorem statusRequest_url {c : SrmHeartbeatHttpClient} {payload : PyDict} {runtimeId mode : String}
    {request : HttpRequest} (h : c.statusRequest payload runtimeId mode = .ok request) :
    request.base = (runtimeStatusUrl c.baseUrl runtimeId).1 ∧
      request.path = (runtimeStatusUrl c.baseUrl runtimeId).2 := by
  unfold SrmHeartbeatHttpClient.statusRequest at h
  split at h
  · simp only [bind_eq_ok] at h
    rcases h with ⟨source, -, body, -, raw, -, heq⟩
    obtain rfl := Except.ok.inj heq
    exact ⟨rfl, rfl⟩
  · cases h

theorem heartbeat_url {c : SrmHeartbeatHttpClient} {g : ManagerGateway}
    {e : LifecycleEventEnvelope} {request : HttpRequest}
    (h : c.prepare (g.wireEnvelope SignalType.heartbeat.name e) = .ok (.inr request)) :
    request.base = rstripSlash (strip c.baseUrl) ++ "/" ∧
      request.path =
        "internal/v1/runtimes/" ++ strip g.runtimeIdentity.runtimeId ++ "/status" := by
  have hname : ¬ SignalType.heartbeat.name ≠ "heartbeat" := not_not.2 rfl
  unfold SrmHeartbeatHttpClient.prepare at h
  simp only [signalTypeOf_wireEnvelope, identity_wireEnvelope, payload_wireEnvelope,
    if_neg hname, ManagerGateway.identityText_runtimeId] at h
  split at h
  · cases h
  · split at h
    · cases h
    · split at h
      · cases h
      · split at h
        · cases h
        · rcases statusRequest_url (map_inr_eq.1 request |>.1 h) with ⟨hbase, hpath⟩
          rw [runtimeStatusUrl, strip_strip] at hpath
          exact ⟨hbase, hpath⟩

theorem lifecycle_url {c : SrmLifecycleHttpClient} {g : ManagerGateway} {t : SignalType}
    {e : LifecycleEventEnvelope} {request : HttpRequest}
    (h : c.prepare (g.wireEnvelope t.name e) = .ok (.inr request)) :
    request.base = rstripSlash (strip c.baseUrl) ++ "/" ∧
      request.path =
        "internal/v1/runtimes/" ++ strip g.runtimeIdentity.runtimeId ++ "/lifecycle-signals" := by
  unfold SrmLifecycleHttpClient.prepare at h
  simp only [signalTypeOf_wireEnvelope, identity_wireEnvelope,
    ManagerGateway.identityText_runtimeId] at h
  split at h
  · cases h
  · split at h
    · cases h
    · split at h
      · cases h
      · simp only [bind_eq_ok] at h
        rcases h with ⟨body, -, raw, -, heq⟩
        obtain rfl := Sum.inr.inj (Except.ok.inj heq)
        exact ⟨rfl, by rw [lifecycleSignalUrl, strip_strip]⟩

/-- A kind of signal whose name is that of heartbeats. -/
theorem heartbeat_of_name {t : SignalType} (h : t.name = "heartbeat") : t = .heartbeat := by
  cases t <;> first | rfl | exact absurd h (by decide)

theorem sentTo_of_prepare {srmBaseUrl ownerResourceId : String} {g : ManagerGateway}
    {t : SignalType} {e : LifecycleEventEnvelope} {request : HttpRequest}
    (h : (SrmHttpManagerClient.new srmBaseUrl ownerResourceId).prepare (g.wireEnvelope t.name e) =
      .ok (.inr request)) : SentTo srmBaseUrl g t request := by
  unfold SrmHttpManagerClient.prepare at h
  rw [signalTypeOf_wireEnvelope] at h
  split at h
  · rename_i hname
    obtain rfl := heartbeat_of_name hname
    rcases heartbeat_url h with ⟨hbase, hpath⟩
    rw [SrmHttpManagerClient.new, SrmHeartbeatHttpClient.new, strip_strip, strip_strip] at hbase
    exact ⟨hbase, by rw [hpath, if_pos rfl]⟩
  · rename_i hname
    have hne : t ≠ .heartbeat := by
      rintro rfl
      exact hname rfl
    rcases lifecycle_url h with ⟨hbase, hpath⟩
    rw [SrmHttpManagerClient.new, SrmLifecycleHttpClient.new, strip_strip, strip_strip] at hbase
    exact ⟨hbase, by rw [hpath, if_neg hne]⟩

/--
For every run of emissions of a gateway with the client for any base URL and owner,
whatever journal, log and network do: an emission gives the client the envelope of its
event or nothing; no event is given to it twice; and a request that it makes of one
goes to the URL of the runtime for that kind of signal.
-/
theorem events_sent_once {X : Type} (srmBaseUrl ownerResourceId : String) (room : Nat)
    (g : ManagerGateway) (calls : List (SignalCall X)) :
    (∀ (call : SignalCall X) (s : LifecycleSignalDedupe),
      (call.emission (.new srmBaseUrl ownerResourceId) room g s).bind Emission.sent =
        (call.event g s).map (g.wireEnvelope call.signal.signalType.name)) ∧
      ((sentEvents (.new srmBaseUrl ownerResourceId) room g .empty calls).map
        fun sent => LifecycleSignalDedupe.identityKeyOf sent.2).Nodup ∧
      ∀ sent ∈ sentEvents (.new srmBaseUrl ownerResourceId) room g .empty calls,
        ∀ request, (SrmHttpManagerClient.new srmBaseUrl ownerResourceId).prepare
            (g.wireEnvelope sent.1.name sent.2) = .ok (.inr request) →
          SentTo srmBaseUrl g sent.1 request :=
  ⟨fun _ _ => emission_sent, nodup_sentEvents calls, fun _ _ _ h => sentTo_of_prepare h⟩

end Transport
end StrategyWorker
