import StrategyWorker.Transport.LifecycleSignal

/-!
# Which lifecycle signals can be encoded

The flattening turns the time of the event into a text and leaves the payload
as it is.  The time of an observation stays a datetime there, which JSON does
not have.

Main results:

- Theorem {lit}`foreign_payload_iff`: which payloads hold values that JSON does
  not have.
- Theorem {lit}`prepare_iff`: for which calls of the gateway's methods the body
  can be encoded.
-/

namespace StrategyWorker
namespace Transport

open Library Events Integration Domain
open PyText PyJson

/-! ## Details -/

/-- The details of a signal hold JSON values only. -/
def JsonDetails : Signal → Prop
  | .bootstrapSucceeded _ _ details _ | .bootstrapFailed _ _ details _ |
    .unhealthy _ _ _ details _ => ∀ d ∈ details, foreignFields d = []
  | .heartbeat .. | .controlledStop .. | .terminated .. => True

theorem foreign_get {d : PyDict} (h : foreignFields d = []) (key : String) :
    foreign (d.get key) = [] := by
  unfold PyDict.get PyDict.get?
  cases hfind : d.find? fun f => f.1 = key with
  | none => simp [foreign]
  | some f => simpa using foreignFields_eq_nil.1 h f (List.mem_of_find?_eq_some hfind)

theorem foreign_listField {d : PyDict} (h : foreignFields d = []) (key : String) :
    ∀ v ∈ listField d key, foreign v = [] := by
  have hget := foreign_get h key
  unfold listField
  split
  · rename_i vs hlist
    rw [hlist, foreign] at hget
    exact foreignList_eq_nil.1 hget
  · simp

theorem mem_of_mem_distinct {vs : List PyVal} {v : PyVal} (h : v ∈ distinct vs) : v ∈ vs := by
  induction vs with
  | nil => cases h
  | cons w vs ih =>
      rw [distinct, List.mem_cons] at h
      rcases h with rfl | h
      · exact List.mem_cons_self
      · exact List.mem_cons_of_mem _ (ih (List.mem_filter.1 h).1)

/-- A sorted list of fields holds the given values and names. -/
theorem foreign_sortedUnion {values : List PyVal} {names : List String} {vs : List PyVal}
    (hvalues : ∀ v ∈ values, foreign v = []) (h : sortedUnion values names = .ok vs) :
    ∀ v ∈ vs, foreign v = [] := by
  unfold sortedUnion at h
  dsimp only at h
  split at h
  · cases h
  · split at h
    · cases h
    · obtain rfl := Except.ok.inj h
      intro v hv
      have hmem := mem_of_mem_distinct ((List.mem_insertionSort _).1 hv)
      rcases List.mem_append.1 hmem with hmem | hmem
      · exact hvalues v hmem
      · rcases List.mem_map.1 hmem with ⟨name, -, rfl⟩
        simp [foreign]

theorem foreign_bootstrapFailedFields {d : PyDict} {missed invalid empty : List PyVal}
    (h : foreignFields d = [])
    (hfields : Signal.bootstrapFailedFields d = .ok (missed, invalid, empty)) :
    (∀ v ∈ missed, foreign v = []) ∧ (∀ v ∈ invalid, foreign v = []) ∧
      ∀ v ∈ empty, foreign v = [] := by
  unfold Signal.bootstrapFailedFields at hfields
  dsimp only at hfields
  split at hfields
  · simp only [bind_eq_ok] at hfields
    rcases hfields with ⟨vs, hvs, ws, hws, us, hus, heq⟩
    obtain ⟨rfl, rfl, rfl⟩ : vs = missed ∧ ws = invalid ∧ us = empty := by
      simpa using Except.ok.inj heq
    exact ⟨foreign_sortedUnion (foreign_listField h _) hvs,
      foreign_sortedUnion (foreign_listField h _) hws,
      foreign_sortedUnion (foreign_listField h _) hus⟩
  · obtain ⟨rfl, rfl, rfl⟩ : listField d "missed_fields" = missed ∧
        listField d "invalid_fields" = invalid ∧ listField d "empty_fields" = empty := by
      simpa using Except.ok.inj hfields
    exact ⟨foreign_listField h _, foreign_listField h _, foreign_listField h _⟩

theorem mem_set {d : PyDict} {key : String} {value : PyVal} {f : String × PyVal}
    (h : f ∈ PyDict.set d key value) : f = (key, value) ∨ f ∈ d := by
  induction d with
  | nil => exact Or.inl (by simpa [PyDict.set] using h)
  | cons g d ih =>
      unfold PyDict.set at h
      split at h
      · rcases List.mem_cons.1 h with h | h
        · exact Or.inl h
        · exact Or.inr (List.mem_cons_of_mem _ h)
      · rcases List.mem_cons.1 h with rfl | h
        · exact Or.inr List.mem_cons_self
        · exact (ih h).imp_right (List.mem_cons_of_mem _)

theorem foreign_bootstrapFailedDetails {d : PyDict} (h : foreignFields d = []) :
    foreignFields (Signal.bootstrapFailedDetails d) = [] := by
  have hall := foreignFields_eq_nil.1 h
  have hcode : ∀ exitCode : Option Int, foreign (exitCode.elim .none .int) = [] := by
    intro exitCode
    cases exitCode <;> simp [foreign]
  rw [foreignFields_eq_nil]
  unfold Signal.bootstrapFailedDetails
  dsimp only
  split
  · intro f hf
    rcases mem_set hf with rfl | hf
    · simp [foreign, foreignFields, hcode]
    · exact hall f (List.mem_filter.1 hf).1
  · exact fun f hf => hall f (List.mem_filter.1 hf).1

/-! ## Payloads -/

/-- The payload of a signal holds the time of an observation. -/
def Observed : Signal → Prop
  | .bootstrapSucceeded .. | .bootstrapFailed .. | .controlledStop .. => False
  | .heartbeat .. | .unhealthy .. => True
  | .terminated _ _ reasonCode _ observedAt _ =>
      normalizedReason (some reasonCode) ≠ .localTerminationObserved ∧ observedAt.isSome

theorem foreignFields_append (d d' : PyDict) :
    foreignFields (d ++ d') = foreignFields d ++ foreignFields d' := by
  induction d with
  | nil => simp [foreignFields]
  | cons f d ih =>
      rcases f with ⟨key, v⟩
      simp [foreignFields, ih]

/-- A text that is there when it has a value. -/
theorem foreign_fieldWhen {α : Type} (key : String) (value : Option α) {f : α → PyVal}
    (hf : ∀ a, foreign (f a) = []) :
    foreignFields (wirePayloadOnly (Signal.fieldWhen key value f)) = [] := by
  rw [foreignFields_eq_nil]
  intro g hg
  rcases Option.mem_toList.1 (List.mem_filter.1 hg).1 |> Option.map_eq_some_iff.1 with ⟨a, -, rfl⟩
  exact hf a

theorem foreign_reasonFields (reasonCode : Option String) :
    foreignFields (wirePayloadOnly (Signal.reasonFields reasonCode)) = [] := by
  simp [Signal.reasonFields, wirePayloadOnly, wirePayloadExclude, foreignFields, foreign]

theorem foreign_getD {details : Option PyDict} (h : ∀ d ∈ details, foreignFields d = []) :
    foreignFields (details.getD []) = [] := by
  cases details with
  | none => simp [foreignFields]
  | some d => exact h d rfl

theorem wirePayloadOnly_append (d d' : PyDict) :
    wirePayloadOnly (d ++ d') = wirePayloadOnly d ++ wirePayloadOnly d' :=
  List.filter_append ..

/-- Beside the fields that stay behind, the payload of a signal holds a value that JSON does not
have exactly when it holds the time of an observation. -/
theorem foreign_payload_iff {signal : Signal} {payload : PyDict} (hdetails : JsonDetails signal)
    (hpayload : signal.payload = .ok payload) :
    foreignFields (wirePayloadOnly payload) = [] ↔ ¬ Observed signal := by
  have htext : ∀ s : String, foreign (.str s) = [] := fun s => by simp [foreign]
  have hbool : ∀ b : Bool, foreign (.bool b) = [] := fun b => by simp [foreign]
  cases signal with
  | bootstrapSucceeded localState occurredAt details trigger =>
      obtain rfl := Except.ok.inj hpayload
      simp only [wirePayloadOnly_append, foreignFields_append, foreign_fieldWhen _ _ htext]
      simp [wirePayloadOnly, wirePayloadExclude, foreignFields, foreign, foreign_optionalText,
        foreign_getD hdetails, Observed]
  | bootstrapFailed occurredAt reasonCode details trigger =>
      simp only [Signal.payload, Signal.bootstrapFailedPayload, bind_eq_ok] at hpayload
      rcases hpayload with ⟨⟨missed, invalid, empty⟩, hfields, heq⟩
      obtain rfl := Except.ok.inj heq
      have hd := foreign_getD hdetails
      rcases foreign_bootstrapFailedFields hd hfields with ⟨hmissed, hinvalid, hempty⟩
      simp only [wirePayloadOnly_append, foreignFields_append, foreign_fieldWhen _ _ htext,
        foreign_reasonFields]
      simp [wirePayloadOnly, wirePayloadExclude, foreignFields, foreign,
        foreignList_eq_nil.2 hmissed, foreignList_eq_nil.2 hinvalid, foreignList_eq_nil.2 hempty,
        foreignList_eq_nil.2 (foreign_listField hd _), foreign_bootstrapFailedDetails hd, Observed]
  | heartbeat localState observedAt trigger source reasonCode message retryable =>
      obtain rfl := Except.ok.inj hpayload
      simp only [wirePayloadOnly_append, foreignFields_append]
      simp [wirePayloadOnly, wirePayloadExclude, foreignFields, foreign, Observed]
  | unhealthy occurredAt observedAt reasonCode details trigger =>
      obtain rfl := Except.ok.inj hpayload
      simp only [wirePayloadOnly_append, foreignFields_append]
      simp [wirePayloadOnly, wirePayloadExclude, foreignFields, foreign, Observed]
  | controlledStop occurredAt reasonCode trigger =>
      obtain rfl := Except.ok.inj hpayload
      simp only [wirePayloadOnly_append, foreignFields_append, foreign_fieldWhen _ _ htext,
        foreign_reasonFields]
      simp [wirePayloadOnly, wirePayloadExclude, foreignFields, Observed]
  | terminated occurredAt localState reasonCode message observedAt trigger =>
      obtain rfl := Except.ok.inj hpayload
      unfold Signal.terminatedPayload Observed
      split
      · rename_i hlocal
        simp only [wirePayloadOnly_append, foreignFields_append, foreign_reasonFields]
        simp [wirePayloadOnly, wirePayloadExclude, foreignFields, foreign, hlocal]
      · rename_i hlocal
        simp only [wirePayloadOnly_append, foreignFields_append, foreign_fieldWhen _ _ htext,
          foreign_reasonFields]
        cases observedAt <;>
          simp [wirePayloadOnly, wirePayloadExclude, foreignFields, foreign, Signal.fieldWhen,
            hlocal]

/-! ## Times -/

/-- The time lies between the years 1 and 9999 in UTC; a naive one is read as UTC. -/
def InUtc (d : PyDateTime) : Prop :=
  d.naiveAsUtc.astimezoneUtc.isSome

instance (d : PyDateTime) : Decidable (InUtc d) :=
  inferInstanceAs (Decidable (_ = _))

theorem exists_formatOccurredAt (d : PyDateTime) :
    (∃ text, formatOccurredAt d = .ok text) ↔ InUtc d := by
  unfold formatOccurredAt InUtc astimezoneUtc
  cases d.naiveAsUtc.astimezoneUtc <;>
    simp [Except.mapError, bind, Except.bind, pure, Except.pure]

@[simp]
theorem naiveAsUtc_naiveAsUtc (d : PyDateTime) : d.naiveAsUtc.naiveAsUtc = d.naiveAsUtc := by
  unfold PyDateTime.naiveAsUtc
  cases h : d.utcoffset <;> simp [h]

theorem inUtc_naiveAsUtc (d : PyDateTime) : InUtc d.naiveAsUtc ↔ InUtc d := by
  rw [InUtc, InUtc, naiveAsUtc_naiveAsUtc]

/-- The clock reads a time that is in range. -/
theorem inUtc_now (now : UtcDateTime) : InUtc now.val := by
  have hself : now.val.naiveAsUtc = now.val := by
    simp [PyDateTime.naiveAsUtc, now.property]
  rw [InUtc, hself, PyDateTime.astimezoneUtc, now.property, PyDateTime.ofWall?, dif_pos]
  · rfl
  · refine ⟨by simpa using now.val.wall_range, ?_⟩
    simp [microsPerDay]

/-- The time of the event of a signal can be written in UTC. -/
def TimeInUtc : Signal → Prop
  | .bootstrapSucceeded _ occurredAt _ _ | .bootstrapFailed occurredAt _ _ _ |
    .unhealthy occurredAt _ _ _ _ | .controlledStop occurredAt _ _ => InUtc occurredAt
  | .heartbeat _ observedAt .. => InUtc observedAt
  | .terminated occurredAt _ reasonCode .. =>
      normalizedReason (some reasonCode) = .localTerminationObserved ∨ InUtc occurredAt

theorem find?_fieldWhen {α : Type} {key key' : String} (hne : key ≠ key') (value : Option α)
    (f : α → PyVal) :
    (Signal.fieldWhen key value f).find? (fun g => decide (g.1 = key')) = none := by
  cases value <;> simp [Signal.fieldWhen, hne]

theorem resolve_of_occurred {payload : PyDict} {d : PyDateTime} (now : UtcDateTime)
    (h : payload.get "occurred_at" = .datetime d) :
    InUtc (resolveOccurredAt now payload) ↔ InUtc d := by
  rw [resolveOccurredAt, h]
  exact inUtc_naiveAsUtc d

theorem resolve_of_observed {payload : PyDict} {d : PyDateTime} (now : UtcDateTime)
    (h : payload.get "occurred_at" = .none) (hobserved : payload.get "observed_at" = .datetime d) :
    InUtc (resolveOccurredAt now payload) ↔ InUtc d := by
  rw [resolveOccurredAt, h, hobserved]
  exact inUtc_naiveAsUtc d

theorem inUtc_resolveOccurredAt {signal : Signal} {payload : PyDict} (now : UtcDateTime)
    (hpayload : signal.payload = .ok payload) :
    InUtc (resolveOccurredAt now payload) ↔ TimeInUtc signal := by
  cases signal with
  | bootstrapSucceeded localState occurredAt details trigger =>
      obtain rfl := Except.ok.inj hpayload
      exact resolve_of_occurred now (by simp [PyDict.get, PyDict.get?])
  | bootstrapFailed occurredAt reasonCode details trigger =>
      simp only [Signal.payload, Signal.bootstrapFailedPayload, bind_eq_ok] at hpayload
      rcases hpayload with ⟨fields, -, heq⟩
      obtain rfl := Except.ok.inj heq
      exact resolve_of_occurred now (by simp [PyDict.get, PyDict.get?])
  | heartbeat localState observedAt trigger source reasonCode message retryable =>
      obtain rfl := Except.ok.inj hpayload
      refine resolve_of_observed now ?_ (by simp [PyDict.get, PyDict.get?])
      simp [PyDict.get, PyDict.get?, List.find?_append, find?_fieldWhen]
  | unhealthy occurredAt observedAt reasonCode details trigger =>
      obtain rfl := Except.ok.inj hpayload
      exact resolve_of_occurred now (by simp [PyDict.get, PyDict.get?, Signal.reasonFields])
  | controlledStop occurredAt reasonCode trigger =>
      obtain rfl := Except.ok.inj hpayload
      exact resolve_of_occurred now (by simp [PyDict.get, PyDict.get?, Signal.reasonFields])
  | terminated occurredAt localState reasonCode message observedAt trigger =>
      obtain rfl := Except.ok.inj hpayload
      unfold Signal.terminatedPayload TimeInUtc
      split
      · rename_i hlocal
        have hnow : resolveOccurredAt now
            ([("local_state", .str localState)] ++ Signal.reasonFields (some reasonCode)) =
              now.val := by
          simp [resolveOccurredAt, PyDict.get, PyDict.get?, Signal.reasonFields]
        rw [hnow]
        exact iff_of_true (inUtc_now now) (Or.inl hlocal)
      · rename_i hlocal
        rw [resolve_of_occurred (d := occurredAt) now (by simp [PyDict.get, PyDict.get?])]
        exact (or_iff_right hlocal).symm

/-! ## The request -/

/-- Whether the body of a signal can be encoded: heartbeats have none here, the payload holds no
time of an observation, and the time of the event is in range. -/
def Encodable (signal : Signal) : Prop :=
  signal.signalType = .heartbeat ∨ (¬ Observed signal ∧ TimeInUtc signal)

/-- The kinds of signals that are encoded, each with its own condition. -/
theorem encodable_iff (signal : Signal) :
    Encodable signal ↔
      match signal with
      | .heartbeat .. => True
      | .unhealthy .. => False
      | .bootstrapSucceeded _ occurredAt _ _ | .bootstrapFailed occurredAt _ _ _ |
        .controlledStop occurredAt _ _ => InUtc occurredAt
      | .terminated occurredAt _ reasonCode _ observedAt _ =>
          normalizedReason (some reasonCode) = .localTerminationObserved ∨
            (observedAt = none ∧ InUtc occurredAt) := by
  cases signal with
  | terminated occurredAt localState reasonCode message observedAt trigger =>
      simp only [Encodable, Signal.signalType, reduceCtorEq, false_or, Observed, TimeInUtc]
      by_cases hlocal : normalizedReason (some reasonCode) = .localTerminationObserved
      · simp [hlocal]
      · cases observedAt <;> simp [hlocal]
  | _ => simp [Encodable, Signal.signalType, Observed, TimeInUtc]

theorem signalTypeOf_wireEnvelope (g : ManagerGateway) (t : SignalType)
    (e : LifecycleEventEnvelope) : signalTypeOf (g.wireEnvelope t.name e) = t.name := by
  have hne : t.name ≠ "" := by
    cases t <;> decide
  unfold signalTypeOf ManagerGateway.wireEnvelope LifecycleEventEnvelope.toManagerSignal
  cases e.causationId <;>
    simp [PyDict.set, PyDict.get, PyDict.get?, PyVal.orElse, PyVal.truthy, hne, PyVal.text]

theorem identity_wireEnvelope (g : ManagerGateway) (t : SignalType) (e : LifecycleEventEnvelope) :
    (g.wireEnvelope t.name e).get "identity" = .dict g.identityPayload := by
  unfold ManagerGateway.wireEnvelope LifecycleEventEnvelope.toManagerSignal
  cases e.causationId <;> simp [PyDict.set, PyDict.get, PyDict.get?]

/-- What the event of a signal was created from. -/
theorem created_of_lifecycleEvent {g : ManagerGateway} {now : UtcDateTime} {t : SignalType}
    {payload : PyDict} {e : LifecycleEventEnvelope}
    (h : g.lifecycleEvent now t.name payload = .ok e) :
    ∃ a n key, a.payload = payload ∧ a.identity = g.identityPayload ∧
      Created now a t n key e := by
  simp only [ManagerGateway.lifecycleEvent, bind_eq_ok] at h
  rcases h with ⟨_, -, hcreate⟩
  rcases created_of_create hcreate with ⟨t', n, key, hcreated⟩
  have ht : t' = t := by
    have hname := congrArg SignalType.ofName? hcreated.signalType
    simpa using hname
  subst ht
  exact ⟨_, n, key, rfl, rfl, hcreated⟩

/-- The client comes to an answer or a request for the event of a signal when it is a heartbeat, when
there is no base URL, and when the time is in range and the payload holds JSON values only. -/
theorem prepare_event_iff (c : SrmLifecycleHttpClient) {g : ManagerGateway} {now : UtcDateTime}
    {t : SignalType} {payload : PyDict} {e : LifecycleEventEnvelope}
    (hevent : g.lifecycleEvent now t.name payload = .ok e) :
    (∃ r, c.prepare (g.wireEnvelope t.name e) = .ok r) ↔
      c.baseUrl = "" ∨ t = .heartbeat ∨
        (InUtc (resolveOccurredAt now payload) ∧ foreignFields (wirePayloadOnly payload) = []) := by
  rcases created_of_lifecycleEvent hevent with ⟨a, n, key, hargs, hidentity, hcreated⟩
  have hruntime : strip (identityText g.identityPayload "runtime_id") ≠ "" := by
    rw [← hidentity, ← hcreated.runtimeId]
    exact e.runtimeId.property.2
  have hpayload : wirePayloadOnly e.payload = wirePayloadOnly payload := by
    rcases hcreated.payload with ⟨worker, hcanonical⟩
    rw [hcanonical, wirePayloadOnly_canonicalPayload, hargs]
  rw [← hpayload, ← hargs, ← hcreated.occurredAt, ← exists_formatOccurredAt]
  unfold SrmLifecycleHttpClient.prepare
  simp only [signalTypeOf_wireEnvelope, identity_wireEnvelope, if_neg hruntime]
  by_cases hheartbeat : t = .heartbeat
  · rw [if_pos (by rw [hheartbeat]; rfl)]
    exact iff_of_true ⟨_, rfl⟩ (Or.inr (Or.inl hheartbeat))
  · have hname : t.name ≠ "heartbeat" := by
      intro heq
      have hfound := SignalType.ofName?_name t
      rw [heq, show SignalType.ofName? "heartbeat" = some .heartbeat by decide +kernel] at hfound
      exact hheartbeat (Option.some.inj hfound).symm
    rw [if_neg hname]
    by_cases hbase : c.baseUrl = ""
    · rw [if_pos hbase]
      exact iff_of_true ⟨_, rfl⟩ (Or.inl hbase)
    · rw [if_neg hbase]
      simp only [hheartbeat, hbase, false_or, bind_eq_ok]
      rcases flatten_wireEnvelope g t e with ⟨hraises, hflattens⟩
      constructor
      · rintro ⟨-, body, hflatten, raw, hraw, -⟩
        cases htext : formatOccurredAt e.occurredAt.val with
        | error err => rw [hraises err htext] at hflatten; cases hflatten
        | ok text =>
            rcases hflattens text htext with ⟨body', hflatten', hforeign⟩
            obtain rfl := Except.ok.inj (hflatten.symm.trans hflatten')
            exact ⟨⟨text, rfl⟩, hforeign ▸ dumpsBody_iff.1 ⟨raw, hraw⟩⟩
      · rintro ⟨⟨text, htext⟩, hforeign⟩
        rcases hflattens text htext with ⟨body, hflatten, hsame⟩
        rcases dumpsBody_iff.2 (hsame.trans hforeign) with ⟨raw, hraw⟩
        exact ⟨_, body, hflatten, raw, hraw, rfl⟩

/-- The client comes to an answer or a request for the event of a signal exactly when the signal can
be encoded, or there is no base URL. -/
theorem prepare_iff (c : SrmLifecycleHttpClient) (g : ManagerGateway) (now : UtcDateTime)
    (signal : Signal) (payload : PyDict) (e : LifecycleEventEnvelope)
    (hdetails : JsonDetails signal) (hpayload : signal.payload = .ok payload)
    (hevent : g.lifecycleEvent now signal.signalType.name payload = .ok e) :
    (∃ r, c.prepare (g.wireEnvelope signal.signalType.name e) = .ok r) ↔
      c.baseUrl = "" ∨ Encodable signal := by
  rw [prepare_event_iff c hevent, inUtc_resolveOccurredAt now hpayload,
    foreign_payload_iff hdetails hpayload, and_comm]
  rfl

/-- The times that a method is called with are aware. -/
def AwareTimes : Signal → Prop
  | .bootstrapSucceeded _ occurredAt _ _ | .bootstrapFailed occurredAt _ _ _ |
    .controlledStop occurredAt _ _ => occurredAt.utcoffset.isSome
  | .heartbeat _ observedAt .. => observedAt.utcoffset.isSome
  | .unhealthy occurredAt observedAt .. => occurredAt.utcoffset.isSome ∧ observedAt.utcoffset.isSome
  | .terminated occurredAt _ _ _ observedAt _ =>
      occurredAt.utcoffset.isSome ∧ ∀ d ∈ observedAt, d.utcoffset.isSome

open ManagerGateway

def runtimeManager : SrmLifecycleHttpClient :=
  .new "http://runtime-manager:8080"

/-- A stop without a reason. -/
def stopSignal : Signal :=
  .controlledStop someMidnight.val none none

/-- A lagging heartbeat. -/
def laggingSignal : Signal :=
  .unhealthy someMidnight.val someMidnight.val "heartbeat_lagging" none none

theorem firstLaunch_valid : firstLaunch.Valid where
  runtimeId := by decide +kernel
  launchAttempt := by decide
  producer := by decide +kernel

theorem prepare_iff_stopSignal :
    ∃ payload e, stopSignal.payload = .ok payload ∧
      firstLaunch.lifecycleEvent someMidnight stopSignal.signalType.name payload = .ok e ∧
        ((∃ r, runtimeManager.prepare (firstLaunch.wireEnvelope stopSignal.signalType.name e) =
            .ok r) ↔ runtimeManager.baseUrl = "" ∨ Encodable stopSignal) := by
  have hpayload : stopSignal.payload = .ok _ := rfl
  have hnames : NamesState stopSignal := trivial
  rcases exists_lifecycleEvent firstLaunch_valid someMidnight hnames hpayload with ⟨e, hevent⟩
  exact ⟨_, e, hpayload, hevent, prepare_iff runtimeManager firstLaunch someMidnight stopSignal
    _ e (show JsonDetails stopSignal from trivial) hpayload hevent⟩

/-- The body of a signal with the time of an observation is not encoded. -/
theorem not_prepare_laggingSignal :
    ¬ ∀ (c : SrmLifecycleHttpClient) (g : ManagerGateway) (now : UtcDateTime) (signal : Signal)
      (payload : PyDict) (e : LifecycleEventEnvelope), AwareTimes signal → JsonDetails signal →
        signal.payload = .ok payload →
          g.lifecycleEvent now signal.signalType.name payload = .ok e →
            ∃ r, c.prepare (g.wireEnvelope signal.signalType.name e) = .ok r := by
  intro hall
  have hpayload : laggingSignal.payload = .ok _ := rfl
  have haware : AwareTimes laggingSignal := ⟨rfl, rfl⟩
  have hdetails : JsonDetails laggingSignal := by
    simp [JsonDetails, laggingSignal]
  have hnames : NamesState laggingSignal := trivial
  rcases exists_lifecycleEvent firstLaunch_valid someMidnight hnames hpayload with ⟨e, hevent⟩
  have hprepare := hall runtimeManager firstLaunch someMidnight laggingSignal _ e haware hdetails
    hpayload hevent
  rw [prepare_event_iff runtimeManager hevent] at hprepare
  rcases hprepare with hbase | hheartbeat | ⟨-, hforeign⟩
  · exact absurd hbase (by decide +kernel)
  · cases hheartbeat
  · exact (foreign_payload_iff hdetails hpayload).1 hforeign
      (show Observed laggingSignal from trivial)

end Transport
end StrategyWorker
