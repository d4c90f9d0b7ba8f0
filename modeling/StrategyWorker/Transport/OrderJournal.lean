import StrategyWorker.Domain.Errors
import StrategyWorker.Persistence.JournalRecords
import StrategyWorker.Transport.OrderSubmission
import StrategyWorker.Transport.WorkerControl

/-!
# The journal of submitted orders

The submitter prepares a payload, hands it to the gateway and reports the result
to the lifecycle service.  When a state journal exists, the dependency container
lets the gateway report to the journal too, after its client has returned.  Any
exception on the way replaces the payload that the submitter reports.

The surroundings choose for each request whether the call raises and how it is
acknowledged; what is raised is only logged, so the exceptions have no texts here.

Main results:

- Theorem {lit}`request_submitOrder`: the request that is sent is the message of
  the submitter.
- Theorem {lit}`reported_once_iff`: an order is reported once unless a journal
  exists and the client returns.
- Theorem {lit}`entry_of_prepared`: the entry of a prepared payload carries its
  identifiers.
- Theorem {lit}`reconcilable_iff`: the entries of an order that was sent carry the
  identifiers of its request exactly when nothing raises after the call.
-/

namespace StrategyWorker
namespace Transport

open Library Integration
open PyText
open Domain (RuntimeWorkerReasonCode WorkerErrorCode)
open Events (pyStr)
open Persistence

/-! ## The client -/

/-- {lit}`OrderIntentAck`, without the time of its observation. -/
structure OrderIntentAck where
  accepted : Bool
  status : Int
  orderId : String
  state : String
  reasonCode : String
  errorCode : String

/-- What {lit}`SubmitOrderIntent` does with a request. -/
inductive RpcOutcome where
  | raises
  | acks (ack : OrderIntentAck)

/-- The numbers and names of {lit}`IntentAckStatus`. -/
def intentAckStatus : List (Int × String) :=
  [(0, "INTENT_ACK_STATUS_UNSPECIFIED"), (1, "ACCEPTED"), (2, "REJECTED"), (3, "DUPLICATE"),
    (4, "INVALID")]

/-- {lit}`risk_worker_pb2.IntentAckStatus.Name(status)`, which raises for other numbers. -/
def intentAckStatusName (status : Int) : Option String :=
  intentAckStatus.lookup status

/-- {lit}`code.upper() if code else None` of the stripped text. -/
def codeOrNone (text : String) : PyVal :=
  if strip text = "" then .none else .str (upper (strip text))

/-- The result of an acknowledged request, {lit}`none` when building it raises. -/
def ackResult (ack : OrderIntentAck) : Option PyDict := do
  let status ← intentAckStatusName ack.status
  return [("accepted", .bool ack.accepted), ("status", .str status),
    ("order_id", textOrNone ack.orderId), ("state", textOrNone ack.state),
    ("reason_code", codeOrNone ack.reasonCode), ("error_code", codeOrNone ack.errorCode)]

/-- Nothing raises after the call. -/
def RpcOutcome.Returns : RpcOutcome → Prop
  | raises => False
  | acks ack => ack.status ∈ intentAckStatus.map Prod.fst

instance : (o : RpcOutcome) → Decidable o.Returns
  | .raises => inferInstanceAs (Decidable False)
  | .acks ack => inferInstanceAs (Decidable (ack.status ∈ _))

/-- The client of the gateway: the one over gRPC, the one that stands in for a missing client, or
an object without {lit}`submit_order_intent`. -/
inductive OmsClient where
  | grpc
  | noop
  | uncallable
  deriving DecidableEq

/-- The result of an order that no dependency takes. -/
def unavailable : PyDict :=
  [("accepted", .bool false),
    ("reason_code", .str RuntimeWorkerReasonCode.boundDependencyUnavailable.value),
    ("error_code", .str WorkerErrorCode.dependencyUnhealthy.value)]

/-! ## The submitter with its reports -/

/-- Who reports an order: the gateway to the journal, or the submitter to the lifecycle service. -/
inductive Reporter where
  | gateway
  | submitter
  deriving DecidableEq

/-- A report of an order. -/
structure OrderReport where
  reporter : Reporter
  payload : PyDict
  result : PyDict

/-- What the surroundings of a submission do. -/
structure OrderOutcomes where
  rpc : OrderIntent → RpcOutcome
  /-- The clock when the journal takes a report. -/
  reportedAt : Reporter → Events.UtcDateTime

/-- What a submission comes to. -/
structure OrderSubmitted where
  /-- The request that the remote call was made with. -/
  request : Option OrderIntent
  reports : List OrderReport
  result : PyDict

/-- A worker with its client and its journal. -/
structure JournalWorker extends OrderWorker where
  client : OmsClient
  stateJournal : Option OrderJournalSink

namespace JournalWorker

variable (w : JournalWorker) (env : OrderOutcomes)

/-- {lit}`submit_order_intent(payload)` of the client: the request, and the result unless it
raises. -/
def callClient (payload : PyDict) : Option OrderIntent × Option PyDict :=
  match w.client with
  | .noop => (none, some unavailable)
  | .uncallable => (none, none)
  | .grpc =>
      match orderIntentRequest w.host payload with
      | .error _ => (none, none)
      | .ok request =>
          match env.rpc request with
          | .raises => (some request, none)
          | .acks ack => (some request, ackResult ack)

/-- {lit}`OmsGateway.submit_order_intent_payload(payload)` with its report; the container sets its
callback when there is a journal. -/
def gatewaySubmit (payload : PyDict) :
    Option OrderIntent × Option (PyDict × List OrderReport) :=
  match orderIntentWireDictForConsole payload with
  | .error _ => (none, none)
  | .ok _ =>
      match w.callClient env payload with
      | (request, none) => (request, none)
      | (request, some out) =>
          (request, some (out, if w.stateJournal.isSome then [⟨.gateway, payload, out⟩] else []))

/-- The payload that is reported after an exception. -/
def failedPayload (intent : ReplayOrderIntent) : PyDict :=
  [("_prepare_failed", .bool true), ("runtime_id", .str w.launchSpec.runtimeId),
    ("instrument_id", .str intent.instrumentId),
    ("symbol", .str (strippedText w.launchSpec.symbol))]

/-- The {lit}`except` clause of {lit}`_submit(intent)`. -/
def submitFailed (intent : ReplayOrderIntent) (request : Option OrderIntent) : OrderSubmitted :=
  ⟨request, [⟨.submitter, w.failedPayload intent, unavailable⟩], unavailable⟩

/-- {lit}`_submit(intent)`. -/
def submitOrder (draws : Draws) (intent : ReplayOrderIntent) : OrderSubmitted :=
  match w.preparePayload draws intent with
  | .error _ => w.submitFailed intent none
  | .ok payload =>
      if w.disableOrderIntentGrpc = true ∨ w.client = .uncallable then
        ⟨none, [⟨.submitter, payload, unavailable⟩], unavailable⟩
      else
        match w.gatewaySubmit env payload with
        | (request, none) => w.submitFailed intent request
        | (request, some (result, reports)) =>
            ⟨request, reports ++ [⟨.submitter, payload, result⟩], result⟩

end JournalWorker

/-! ## The journal -/

/-- The call of the journal for a report. -/
def OrderReport.call (env : OrderOutcomes) (report : OrderReport) : JournalCall :=
  .orderIntent "oms" report.payload report.result (env.reportedAt report.reporter)

/-- The reports written one after the other, when every write commits. -/
def journalReports (sink : OrderJournalSink) (env : OrderOutcomes) :
    List OrderReport → JournalTables → Option JournalTables
  | [], t => some t
  | report :: reports, t => do
      let record ← ((report.call env).build sink).toOption
      let t ← (runStatements (sink.statements record) t).toOption
      journalReports sink env reports t

/-- The row of a report, when its record and its row can be built. -/
def OrderReport.row (sink : OrderJournalSink) (env : OrderOutcomes) (report : OrderReport) :
    Option OrderIntentRow :=
  match (report.call env).build sink with
  | .ok (.orderIntent record _) => (orderIntentRow record).toOption
  | _ => none

/-- One report of the order, and one row of it in a journal whose writes commit. -/
structure ReportedOnce (w : JournalWorker) (env : OrderOutcomes) (s : OrderSubmitted) : Prop where
  reports : s.reports.length = 1
  rows : ∀ sink ∈ w.stateJournal, ∀ t t', journalReports sink env s.reports t = some t' →
    t'.orderIntents.length = t.orderIntents.length + 1

/-- The journal has rows of the order, all with the identifiers of the request. -/
structure Reconcilable (sink : OrderJournalSink) (env : OrderOutcomes) (s : OrderSubmitted)
    (request : OrderIntent) : Prop where
  recorded : ∃ report ∈ s.reports, (report.row sink env).isSome = true
  identified : ∀ report ∈ s.reports, ∀ row ∈ report.row sink env,
    row.orderIntentId = some request.orderIntentId ∧
      row.idempotencyKey = some request.idempotencyKey

/-! ## Which orders are reported once -/

/-- The gateway is called for a prepared payload, and its client returns. -/
def JournalWorker.ClientReturns (w : JournalWorker) (env : OrderOutcomes) (draws : Draws)
    (intent : ReplayOrderIntent) : Prop :=
  w.disableOrderIntentGrpc = false ∧
    ∃ payload, w.preparePayload draws intent = .ok payload ∧
      (∃ shown, orderIntentWireDictForConsole payload = .ok shown) ∧
      (w.client = .noop ∨ w.client = .grpc ∧
        ∃ request, orderIntentRequest w.host payload = .ok request ∧ (env.rpc request).Returns)

section

variable {w : JournalWorker} {env : OrderOutcomes} {draws : Draws} {intent : ReplayOrderIntent}

/-- The acknowledgement of a call that returns has a result. -/
theorem ackResult_isSome_iff (ack : OrderIntentAck) :
    (∃ out, ackResult ack = some out) ↔ (RpcOutcome.acks ack).Returns := by
  unfold ackResult intentAckStatusName
  cases hname : intentAckStatus.lookup ack.status with
  | none =>
      have hunknown : ack.status ∉ intentAckStatus.map Prod.fst := by
        intro hmem
        rcases List.mem_map.1 hmem with ⟨entry, hentry, hstatus⟩
        have hdiffer := List.lookup_eq_none_iff.1 hname entry hentry
        simp [hstatus] at hdiffer
      exact iff_of_false (fun ⟨out, hout⟩ => (nomatch hout)) hunknown
  | some name =>
      rcases List.lookup_eq_some_iff.1 hname with ⟨before, after, hlist, -⟩
      refine iff_of_true ⟨_, rfl⟩ ?_
      rw [RpcOutcome.Returns, hlist]
      simp

/-- When the client returns. -/
theorem callClient_isSome_iff (payload : PyDict) :
    (∃ out, (w.callClient env payload).2 = some out) ↔ w.client = .noop ∨ w.client = .grpc ∧
      ∃ request, orderIntentRequest w.host payload = .ok request ∧ (env.rpc request).Returns := by
  unfold JournalWorker.callClient
  cases hclient : w.client with
  | noop => simp
  | uncallable => simp
  | grpc =>
      cases hrequest : orderIntentRequest w.host payload with
      | error e => simp
      | ok request =>
          cases hrpc : env.rpc request with
          | raises => simp [hrpc, RpcOutcome.Returns]
          | acks ack => simp [hrpc, ackResult_isSome_iff]

/-- When the gateway returns, and what it reports then. -/
theorem gatewaySubmit_cases (w : JournalWorker) (env : OrderOutcomes) (payload : PyDict) :
    (∃ request, w.gatewaySubmit env payload = (request, none) ∧
      ¬ ((∃ shown, orderIntentWireDictForConsole payload = .ok shown) ∧
        ∃ out, (w.callClient env payload).2 = some out)) ∨
    ∃ request out, w.gatewaySubmit env payload = (request, some (out,
        if w.stateJournal.isSome then [⟨.gateway, payload, out⟩] else [])) ∧
      w.callClient env payload = (request, some out) ∧
      ∃ shown, orderIntentWireDictForConsole payload = .ok shown := by
  unfold JournalWorker.gatewaySubmit
  cases hconsole : orderIntentWireDictForConsole payload with
  | error e => exact .inl ⟨none, rfl, fun ⟨⟨shown, hshown⟩, _⟩ => (nomatch hshown)⟩
  | ok shown =>
      rcases hcall : w.callClient env payload with ⟨request, result⟩
      cases result with
      | none => exact .inl ⟨request, rfl, fun ⟨_, out, hout⟩ => (nomatch hout)⟩
      | some out => exact .inr ⟨request, out, rfl, rfl, shown, rfl⟩

/-- An order is reported by the submitter, and by the gateway too when there is a journal and the
client returns. -/
theorem length_reports (w : JournalWorker) (env : OrderOutcomes) (draws : Draws)
    (intent : ReplayOrderIntent) :
    ((w.submitOrder env draws intent).reports.length = 2 ∧
        w.stateJournal.isSome = true ∧ w.ClientReturns env draws intent) ∨
      ((w.submitOrder env draws intent).reports.length = 1 ∧
        ¬ (w.stateJournal.isSome = true ∧ w.ClientReturns env draws intent)) := by
  unfold JournalWorker.submitOrder JournalWorker.ClientReturns
  cases hprepare : w.preparePayload draws intent with
  | error e => exact .inr ⟨rfl, fun ⟨_, _, payload, hpayload, _⟩ => (nomatch hpayload)⟩
  | ok payload =>
      dsimp only
      by_cases hskipped : w.disableOrderIntentGrpc = true ∨ w.client = .uncallable
      · rw [if_pos hskipped]
        refine .inr ⟨rfl, ?_⟩
        rintro ⟨-, hgrpc, payload', hpayload, -, hclient⟩
        rcases hskipped with hdisabled | huncallable
        · rw [hdisabled] at hgrpc
          cases hgrpc
        · rcases hclient with hclient | ⟨hclient, -⟩ <;> rw [hclient] at huncallable <;>
            cases huncallable
      · rw [if_neg hskipped]
        have hgrpc : w.disableOrderIntentGrpc = false := by
          simpa using fun h => hskipped (.inl h)
        rcases gatewaySubmit_cases w env payload with ⟨request, hgateway, hraises⟩ |
          ⟨request, out, hgateway, hcall, hshown⟩
        · rw [hgateway]
          refine .inr ⟨rfl, ?_⟩
          rintro ⟨-, -, payload', hpayload, hshown, hclient⟩
          obtain rfl := Except.ok.inj hpayload
          exact hraises ⟨hshown, (callClient_isSome_iff payload).2 hclient⟩
        · have hclient := (callClient_isSome_iff payload).1 ⟨out, by rw [hcall]⟩
          rw [hgateway]
          by_cases hjournal : w.stateJournal.isSome = true
          · refine .inl ⟨?_, hjournal, hgrpc, payload, rfl, hshown, hclient⟩
            simp [hjournal]
          · refine .inr ⟨?_, fun ⟨h, _⟩ => hjournal h⟩
            simp [hjournal]

/-- A journal whose writes commit gains a row for each report. -/
theorem journalReports_length {sink : OrderJournalSink} {reports : List OrderReport}
    {t t' : JournalTables} (h : journalReports sink env reports t = some t') :
    t'.orderIntents.length = t.orderIntents.length + reports.length := by
  induction reports generalizing t with
  | nil =>
      obtain rfl := Option.some.inj h
      rfl
  | cons report reports ih =>
      unfold journalReports at h
      simp only [Option.bind_eq_bind, Option.bind_eq_some_iff] at h
      rcases h with ⟨record, hrecord, u, hu, hrest⟩
      have hbuild := eq_ok_of_toOption hrecord
      have hrun := eq_ok_of_toOption hu
      simp only [OrderReport.call, JournalCall.build, OrderJournalSink.orderIntentRecord,
        bind_eq_ok] at hbuild
      rcases hbuild with ⟨requested, -, created, -, safe, -, resultSafe, -, requestedText, -,
        createdText, -, hbuild⟩
      obtain rfl := Except.ok.inj hbuild
      simp only [OrderJournalSink.statements, runStatements, List.foldlM_cons, List.foldlM_nil,
        bind_eq_ok, appendOrderIntent] at hrun
      rcases hrun with ⟨v, ⟨row, -, hv⟩, hu⟩
      obtain rfl := Except.ok.inj hu
      have hlength := ih hrest
      rw [← Except.ok.inj hv] at hlength
      simp only [List.length_append, List.length_singleton] at hlength
      simp only [List.length_cons]
      omega

end

/-- An order is reported once, with one row in the journal, unless there is a journal and the
client returns: then the gateway and the submitter both report it. -/
theorem reported_once_iff (w : JournalWorker) (env : OrderOutcomes) (draws : Draws)
    (intent : ReplayOrderIntent) :
    ReportedOnce w env (w.submitOrder env draws intent) ↔
      ¬ (w.stateJournal.isSome = true ∧ w.ClientReturns env draws intent) := by
  rcases length_reports w env draws intent with ⟨htwo, hreturns⟩ | ⟨hone, hnot⟩
  · refine iff_of_false (fun honce => ?_) (not_not.2 hreturns)
    rw [honce.reports] at htwo
    cases htwo
  · refine iff_of_true ⟨hone, fun sink _ t t' ht => ?_⟩ hnot
    rw [journalReports_length ht, hone]

/-- A worker for paper orders with a journal. -/
def journaledWorker : JournalWorker where
  toOrderWorker := paperWorker
  client := .grpc
  stateJournal := some
    { runtimeId := "rt-1"
      launchAttempt := 1
      zone := fun _ => 0
      launchJobId := none }

/-- Every request is accepted. -/
def acceptingOms : OrderOutcomes where
  rpc _ := .acks ⟨true, 1, "o-1", "NEW", "", ""⟩
  reportedAt _ := ⟨epochUtc, utcoffset_epochUtc⟩

/-- Ten shares at the market. -/
def tenShares : ReplayOrderIntent where
  instrumentId := "AAPL"
  side := .buy
  quantity := .finite 10
  price := .finite 52
  orderType := "MARKET"
  limitPrice := none
  stopPrice := none
  timeInForce := none
  clientOrderId := none
  createdAt := epochUtc

/-- An accepted order is reported by the gateway and by the submitter. -/
theorem accepted_order_reported_twice :
    ¬ ReportedOnce journaledWorker acceptingOms
      (journaledWorker.submitOrder acceptingOms epochDraws tenShares) := by
  intro honce
  have hlength := honce.reports
  revert hlength
  decide +kernel

/-! ## Which orders can be reconciled -/

/-- What {lit}`uuid` and the clock of the worker give: identifiers without spaces around them, and a
reading that is aware. -/
structure Draws.Fresh (draws : Draws) : Prop where
  orderIntentId : strip draws.orderIntentId ≠ ""
  idempotencyKey : draws.idempotencyKey ≠ "" ∧ Trimmed draws.idempotencyKey
  requestedAt : draws.requestedAt.utcoffset ≠ none

section

variable {w : JournalWorker} {env : OrderOutcomes} {draws : Draws} {intent : ReplayOrderIntent}
variable {payload : PyDict} {request : OrderIntent} {sink : OrderJournalSink}

/-- A prepared payload has no id of the client. -/
theorem clientIntentId_prepared (h : w.preparePayload draws intent = .ok payload) :
    payload.get? "client_intent_id" = none := by
  rcases bind_eq_ok.1 h with ⟨createdAt, -, hpayload⟩
  rw [← Except.ok.inj hpayload, PyDict.get?_append]
  simp only [sdkOrderIntentToOmsGrpcPayload, PyDict.get?_cons]
  rfl

/-- A time is normalized by its conversion to UTC. -/
theorem normalizeUtcDt_eq_ok {d utc : PyDateTime} :
    normalizeUtcDt d = .ok utc ↔ d.astimezoneUtc = some utc := by
  rw [normalizeUtcDt, WorkerTables.mapError_eq_ok, astimezoneUtc_eq_ok_iff,
    PyDateTime.astimezoneUtc_naiveAsUtc]

/-- What a prepared payload identifies an order with. -/
theorem get?_prepared {w : OrderWorker} (h : w.preparePayload draws intent = .ok payload) :
    payload.get? "order_intent_id" = some (.str draws.orderIntentId) ∧
      payload.get? "idempotency_key" =
        some (.str (intentIdempotencyKey draws.idempotencyKey intent)) ∧
      payload.get? "requested_at" = some (.datetime draws.requestedAt) ∧
      ∃ createdAt, intentCreatedAtForPayload draws intent = .ok createdAt ∧
        payload.get? "created_at" = some (.datetime createdAt) := by
  rcases bind_eq_ok.1 h with ⟨createdAt, hcreated, hpayload⟩
  rw [← Except.ok.inj hpayload]
  simp only [PyDict.get?_append, sdkOrderIntentToOmsGrpcPayload, PyDict.get?_cons]
  exact ⟨rfl, rfl, rfl, createdAt, hcreated, rfl⟩

/-- The key of an intent is a text without spaces around it. -/
theorem intentIdempotencyKey_trimmed (hfresh : draws.Fresh) (intent : ReplayOrderIntent) :
    intentIdempotencyKey draws.idempotencyKey intent ≠ "" ∧
      Trimmed (intentIdempotencyKey draws.idempotencyKey intent) := by
  unfold intentIdempotencyKey
  split
  · split
    · exact hfresh.idempotencyKey
    · rename_i hne
      exact ⟨hne, trimmed_strip _⟩
  · exact hfresh.idempotencyKey

/-- What the request identifies the order with. -/
theorem identifiers_of_request (h : w.preparePayload draws intent = .ok payload)
    (hrequest : orderIntentRequest w.host payload = .ok request) :
    request.orderIntentId = strip draws.orderIntentId ∧
      request.idempotencyKey = intentIdempotencyKey draws.idempotencyKey intent := by
  have htexts := (sent_of_request hrequest).texts
  rcases get?_prepared h with ⟨hid, hkey, -, -⟩
  constructor
  · have hsent := htexts ("order_intent_id", request.orderIntentId) (by simp [OrderIntent.ownTexts])
    rw [PyDict.get, get?_orderIntentId_normalize, PyDict.get, hid] at hsent
    exact (Except.ok.inj hsent).symm
  · have hsent := htexts ("idempotency_key", request.idempotencyKey)
      (by simp [OrderIntent.ownTexts])
    dsimp only at hsent
    rw [PyDict.get, get?_defaulted_normalize (by decide), get?_resolved (by decide), hkey] at hsent
    exact (Except.ok.inj hsent).symm

/-- A row comes from a record of the report. -/
theorem row_eq_some {report : OrderReport} {row : OrderIntentRow}
    (h : report.row sink env = some row) :
    ∃ (record : OrderIntentJournalRecord) (line safe : PyDict),
      sink.orderIntentRecord "oms" report.payload report.result
        (env.reportedAt report.reporter) = .ok (.orderIntent record line) ∧
      jsonSafeFields sink.toRuntimeJournalSink report.payload = .ok safe ∧
      row.idempotencyKey = fieldText (sink.storedPayload safe) "idempotency_key" ∧
      row.orderIntentId =
        (if ((sink.storedPayload safe).get "order_intent_id").isNone then none
        else strippedOrNone ((sink.storedPayload safe).get "order_intent_id")) := by
  unfold OrderReport.row at h
  split at h
  · rename_i record line hbuild
    have hrow := eq_ok_of_toOption h
    have hrecord : sink.orderIntentRecord "oms" report.payload report.result
        (env.reportedAt report.reporter) = .ok (.orderIntent record line) := hbuild
    rcases orderIntentRecord_eq_ok hrecord with ⟨record', line', safe, heq, hsafe, -, -, -, -,
      hkey, hid⟩
    obtain ⟨rfl, rfl⟩ := JournalRecord.orderIntent.inj heq
    refine ⟨record, line, safe, hrecord, hsafe, ?_⟩
    unfold orderIntentRow at hrow
    simp only [bind_eq_ok] at hrow
    rcases hrow with ⟨createdAt, -, payloadJson, -, resultJson, -, requestedAt, -, hrow⟩
    obtain rfl := Except.ok.inj hrow
    exact ⟨hkey, hid⟩
  · cases h

theorem strippedOrNone_str {text : String} (h : strip text ≠ "") :
    strippedOrNone (.str text) = some (strip text) :=
  if_neg h

/-- The row of a prepared payload carries the identifiers of the order. -/
theorem entry_of_prepared (hfresh : draws.Fresh) (h : w.preparePayload draws intent = .ok payload)
    {report : OrderReport} (hreport : report.payload = payload) {row : OrderIntentRow}
    (hrow : report.row sink env = some row) :
    row.orderIntentId = some (strip draws.orderIntentId) ∧
      row.idempotencyKey = some (intentIdempotencyKey draws.idempotencyKey intent) := by
  rcases row_eq_some hrow with ⟨record, line, safe, -, hsafe, hkey, hid⟩
  rw [hreport] at hsafe
  rcases get?_prepared h with ⟨hpayloadId, hpayloadKey, -, -⟩
  have hstr : ∀ key text, payload.get? key = some (.str text) →
      safe.get? key = some (.str text) := by
    intro key text hget
    rcases (get?_jsonSafeFields hsafe key).1 _ hget with ⟨v, hv, hsafeKey⟩
    simp only [jsonSafe] at hv
    rw [hsafeKey, ← Except.ok.inj hv]
  have hlegacy := (get?_jsonSafeFields hsafe "client_intent_id").2 (clientIntentId_prepared h)
  have hstoredId : (sink.storedPayload safe).get "order_intent_id" =
      .str draws.orderIntentId := by
    rw [PyDict.get, get?_storedPayload sink (by decide) (by decide) (by decide) hlegacy,
      hstr _ _ hpayloadId]
    rfl
  have hstoredKey : (sink.storedPayload safe).get "idempotency_key" =
      .str (intentIdempotencyKey draws.idempotencyKey intent) := by
    rw [PyDict.get, get?_storedPayload sink (by decide) (by decide) (by decide) hlegacy,
      hstr _ _ hpayloadKey]
    rfl
  rcases intentIdempotencyKey_trimmed hfresh intent with ⟨hne, htrimmed⟩
  have hstripped : strip (intentIdempotencyKey draws.idempotencyKey intent) ≠ "" := by
    rw [strip_eq_self htrimmed]
    exact hne
  constructor
  · rw [hid, hstoredId, if_neg (by simp [PyVal.isNone])]
    exact strippedOrNone_str hfresh.orderIntentId
  · have htext : (PyVal.str (intentIdempotencyKey draws.idempotencyKey intent)).orElse (.str "") =
        .str (intentIdempotencyKey draws.idempotencyKey intent) := by
      simp [PyVal.orElse, PyVal.truthy, hne]
    rw [hkey, fieldText, hstoredKey, htext, strippedOrNone_str hstripped, strip_eq_self htrimmed]

/-- The payload that is reported after an exception has no identifiers. -/
theorem entry_of_failed {report : OrderReport} (hreport : report.payload = w.failedPayload intent)
    {row : OrderIntentRow} (hrow : report.row sink env = some row) : row.orderIntentId = none := by
  rcases row_eq_some hrow with ⟨record, line, safe, -, hsafe, -, hid⟩
  rw [hreport] at hsafe
  have hmissing : ∀ key ∈ ["order_intent_id", "client_intent_id"], safe.get? key = none := by
    intro key hkey
    have hkeys : ∀ key ∈ ["order_intent_id", "client_intent_id"],
        PyDict.get? (w.failedPayload intent) key = none := by
      simp [JournalWorker.failedPayload, PyDict.get?]
    exact (get?_jsonSafeFields hsafe key).2 (hkeys key hkey)
  have hstored : (sink.storedPayload safe).get "order_intent_id" = .none := by
    rw [PyDict.get, get?_storedPayload sink (by decide) (by decide) (by decide)
      (hmissing _ (by simp)), hmissing _ (by simp)]
    rfl
  rw [hid, hstored]
  rfl

/-! ## Rows that can be built -/

/-- The instant of a request can be told in UTC by the journal as well. -/
theorem exists_requestedAt (sink : OrderJournalSink) (hfresh : draws.Fresh)
    (h : w.preparePayload draws intent = .ok payload)
    (hrequest : orderIntentRequest w.host payload = .ok request) (now : Events.UtcDateTime) :
    ∃ utc, astimezone sink.toRuntimeJournalSink draws.requestedAt = .ok utc ∧
      utc.utcoffset = some 0 ∧ sink.requestedAt payload now = .ok utc := by
  rcases get?_prepared h with ⟨-, -, hget, -⟩
  have hrequested := (sent_of_request hrequest).requestedAt
  have hvalue : requestedAtOf payload = .datetime draws.requestedAt := by
    simp [requestedAtOf, PyDict.get, hget, isBlank]
  rw [hvalue, datetimeOf] at hrequested
  rcases bind_eq_ok.1 hrequested with ⟨utc, hutc, -⟩
  have haware : draws.requestedAt.utcoffset.isNone = false := by
    cases hoffset : draws.requestedAt.utcoffset with
    | none => exact absurd hoffset hfresh.requestedAt
    | some offset => rfl
  have hzone : astimezone sink.toRuntimeJournalSink draws.requestedAt =
      w.host.astimezone draws.requestedAt := by
    unfold astimezone Host.astimezone
    cases hoffset : draws.requestedAt.utcoffset with
    | none => exact absurd hoffset hfresh.requestedAt
    | some offset => rfl
  have hnormalized : sink.normalizeUtc draws.requestedAt = .ok utc := by
    rw [OrderJournalSink.normalizeUtc, haware, if_neg (by simp), hzone]
    exact hutc
  refine ⟨utc, hzone.trans hutc, (astimezone_eq_ok hutc).1, ?_⟩
  have hraw : (payload.get "requested_at").orElse (payload.get "occurred_at") =
      .datetime draws.requestedAt := by
    simp [PyDict.get, hget, PyVal.orElse, PyVal.truthy]
  rw [OrderJournalSink.requestedAt, hraw]
  exact hnormalized

/-- The time of creation is in UTC already. -/
theorem exists_createdAt (sink : OrderJournalSink)
    (h : w.preparePayload draws intent = .ok payload) :
    ∃ created, payload.get? "created_at" = some (.datetime created) ∧
      created.utcoffset = some 0 ∧ sink.createdAt payload = .ok (some created) := by
  rcases get?_prepared h with ⟨-, -, -, created, hcreated, hget⟩
  have hutc : created.utcoffset = some 0 := by
    unfold intentCreatedAtForPayload at hcreated
    split at hcreated
    all_goals exact (PyDateTime.instant_astimezoneUtc (normalizeUtcDt_eq_ok.1 hcreated)).2
  refine ⟨created, hget, hutc, ?_⟩
  have hzone : astimezone sink.toRuntimeJournalSink created = .ok created := by
    unfold astimezone
    have hwall : created.wall - created.utcoffset.getD
        (sink.zone created.wall) = created.wall := by simp [hutc]
    rw [hwall, ← hutc, PyDateTime.ofWall?, dif_pos ⟨created.wall_range, created.offset_range⟩]
  have hnormalized : sink.normalizeUtc created = .ok created := by
    rw [OrderJournalSink.normalizeUtc, hutc, if_neg (by simp)]
    exact hzone
  rw [OrderJournalSink.createdAt, PyDict.get, hget, Option.getD_some]
  dsimp only
  rw [hnormalized]
  rfl

/-- The payload has a safe form. -/
theorem exists_safePayload (h : w.preparePayload draws intent = .ok payload)
    (hrequested : ∃ utc, astimezone sink.toRuntimeJournalSink draws.requestedAt = .ok utc) :
    ∃ ws, jsonSafeFields sink.toRuntimeJournalSink payload = .ok ws := by
  rcases hrequested with ⟨utc, hutc⟩
  rcases exists_createdAt sink h with ⟨created, hget, hcreatedUtc, -⟩
  rcases exists_wireIso sink.toRuntimeJournalSink hcreatedUtc with ⟨createdText, hcreatedText⟩
  rcases bind_eq_ok.1 h with ⟨createdAt, -, hpayload⟩
  obtain rfl := Except.ok.inj hpayload
  have hsame : createdAt = created := by
    have heq : some (PyVal.datetime createdAt) = some (.datetime created) := hget
    simpa using heq
  subst hsame
  have hrequestedText : wireIso sink.toRuntimeJournalSink draws.requestedAt =
      .ok (wireText utc) := bind_eq_ok.2 ⟨utc, hutc, rfl⟩
  apply exists_jsonSafeFields
  intro f hf
  rcases List.mem_append.1 hf with hf | hf
  · unfold sdkOrderIntentToOmsGrpcPayload at hf
    simp only [List.mem_cons, List.not_mem_nil, or_false] at hf
    rcases hf with rfl | rfl | rfl | rfl | rfl | rfl | rfl | rfl | rfl | rfl | rfl | rfl | rfl |
      rfl | rfl | rfl <;> exact ⟨_, by rw [jsonSafe]⟩
  · simp only [List.mem_cons, List.not_mem_nil, or_false] at hf
    rcases hf with rfl | rfl | rfl
    · exact ⟨_, by rw [jsonSafe]⟩
    · exact ⟨.str createdText, by rw [jsonSafe, hcreatedText]; rfl⟩
    · exact ⟨.str (wireText utc), by rw [jsonSafe, hrequestedText]; rfl⟩

/-- The result of an acknowledged request has a safe form. -/
theorem exists_safeResult {ack : OrderIntentAck} {out : PyDict} (h : ackResult ack = some out)
    (sink : RuntimeJournalSink) : ∃ ws, jsonSafeFields sink out = .ok ws := by
  rcases Option.bind_eq_some_iff.1 h with ⟨status, -, hout⟩
  obtain rfl := Option.some.inj hout
  have htext : ∀ text, ∃ v, jsonSafe sink (textOrNone text) = .ok v := by
    intro text
    unfold textOrNone
    split <;> exact ⟨_, by rw [jsonSafe]⟩
  have hcode : ∀ text, ∃ v, jsonSafe sink (codeOrNone text) = .ok v := by
    intro text
    unfold codeOrNone
    split <;> exact ⟨_, by rw [jsonSafe]⟩
  apply exists_jsonSafeFields
  intro f hf
  simp only [List.mem_cons, List.not_mem_nil, or_false] at hf
  rcases hf with rfl | rfl | rfl | rfl | rfl | rfl <;> dsimp only
  · exact ⟨_, by rw [jsonSafe]⟩
  · exact ⟨_, by rw [jsonSafe]⟩
  · exact htext ack.orderId
  · exact htext ack.state
  · exact hcode ack.reasonCode
  · exact hcode ack.errorCode

/-- The report of an acknowledged order has a row. -/
theorem row_isSome (hfresh : draws.Fresh) (h : w.preparePayload draws intent = .ok payload)
    (hrequest : orderIntentRequest w.host payload = .ok request) {ack : OrderIntentAck}
    {report : OrderReport} (hpayload : report.payload = payload)
    (hresult : ackResult ack = some report.result) : (report.row sink env).isSome = true := by
  rcases exists_requestedAt sink hfresh h hrequest (env.reportedAt report.reporter) with
    ⟨utc, hzone, hutc, hrequested⟩
  rcases exists_createdAt sink h with ⟨created, -, hcreatedUtc, hcreated⟩
  rcases exists_orderIntentRecord "oms" ⟨utc, hrequested, hutc⟩
    ⟨some created, hcreated, by simpa using hcreatedUtc⟩ (exists_safePayload h ⟨utc, hzone⟩)
    (exists_safeResult hresult sink.toRuntimeJournalSink) with ⟨record, line, hbuild, row, hrow⟩
  have hcall : (report.call env).build sink = .ok (.orderIntent record line) := by
    unfold OrderReport.call JournalCall.build
    dsimp only
    rw [hpayload]
    exact hbuild
  unfold OrderReport.row
  rw [hcall]
  dsimp only
  rw [hrow]
  rfl

/-! ## The request and its reports -/

/-- What the client does with a payload whose request is sent. -/
theorem callClient_sent (h : (w.callClient env payload).1 = some request) :
    w.client = .grpc ∧ orderIntentRequest w.host payload = .ok request ∧
      w.callClient env payload = (some request, match env.rpc request with
        | .raises => none
        | .acks ack => ackResult ack) := by
  unfold JournalWorker.callClient at h ⊢
  cases hclient : w.client with
  | noop => simp [hclient] at h
  | uncallable => simp [hclient] at h
  | grpc =>
      cases hrequest : orderIntentRequest w.host payload with
      | error e => simp [hclient, hrequest] at h
      | ok sent =>
          have hsent : sent = request := by
            cases hrpc : env.rpc sent <;> simpa [hclient, hrequest, hrpc] using h
          rw [hsent]
          refine ⟨rfl, rfl, ?_⟩
          cases hrpc : env.rpc request <;> simp [hrpc]

theorem callClient_request (w : JournalWorker) (env : OrderOutcomes) (payload : PyDict) :
    (w.callClient env payload).1 =
      if w.client = .grpc then (orderIntentRequest w.host payload).toOption else none := by
  unfold JournalWorker.callClient
  cases hclient : w.client with
  | noop => rfl
  | uncallable => rfl
  | grpc =>
      cases hrequest : orderIntentRequest w.host payload with
      | error e => rfl
      | ok request => cases hrpc : env.rpc request <;> simp [hrpc, Except.toOption]

/-- The gateway sends what its client sends. -/
theorem gatewaySubmit_request (w : JournalWorker) (env : OrderOutcomes) (payload : PyDict) :
    (w.gatewaySubmit env payload).1 =
      if w.client = .grpc then (submitOrderIntentPayload w.host payload).toOption else none := by
  unfold JournalWorker.gatewaySubmit submitOrderIntentPayload
  cases hconsole : orderIntentWireDictForConsole payload with
  | error e =>
      simp only [bind, Except.bind, Except.toOption]
      split <;> rfl
  | ok shown =>
      have hcall := callClient_request w env payload
      rcases hresult : w.callClient env payload with ⟨request, result⟩
      rw [hresult] at hcall
      simp only [bind, Except.bind]
      cases result <;> simpa only using hcall

/-- The request that is sent is the message of the submitter. -/
theorem request_submitOrder (w : JournalWorker) (env : OrderOutcomes) (draws : Draws)
    (intent : ReplayOrderIntent) :
    (w.submitOrder env draws intent).request =
      if w.client = .grpc then w.submit draws intent else none := by
  unfold JournalWorker.submitOrder OrderWorker.submit
  cases hprepare : w.preparePayload draws intent with
  | error e => simp [JournalWorker.submitFailed, bind, Except.bind, Except.toOption]
  | ok payload =>
      dsimp only [bind, Except.bind]
      by_cases hdisabled : w.disableOrderIntentGrpc = true
      · simp [hdisabled]
      · have hgateway := gatewaySubmit_request w env payload
        by_cases huncallable : w.client = .uncallable
        · simp [huncallable]
        · rw [if_neg (by simp [hdisabled, huncallable]), if_neg hdisabled, ← hgateway]
          rcases w.gatewaySubmit env payload with ⟨request, result⟩
          cases result <;> rfl

/-- What is reported of an order that was sent. -/
theorem reports_of_request (h : (w.submitOrder env draws intent).request = some request) :
    ∃ payload, w.preparePayload draws intent = .ok payload ∧
      orderIntentRequest w.host payload = .ok request ∧
      ((∃ ack out, env.rpc request = .acks ack ∧ ackResult ack = some out ∧
          (w.submitOrder env draws intent).reports =
            (if w.stateJournal.isSome then [⟨.gateway, payload, out⟩] else []) ++
              [⟨.submitter, payload, out⟩]) ∨
        (¬ (env.rpc request).Returns ∧ (w.submitOrder env draws intent).reports =
          [⟨.submitter, w.failedPayload intent, unavailable⟩])) := by
  unfold JournalWorker.submitOrder at h ⊢
  cases hprepare : w.preparePayload draws intent with
  | error e => simp [hprepare, JournalWorker.submitFailed] at h
  | ok payload =>
      by_cases hskipped : w.disableOrderIntentGrpc = true ∨ w.client = .uncallable
      · simp [hprepare, hskipped] at h
      · simp only [hprepare, if_neg hskipped] at h
        refine ⟨payload, rfl, ?_⟩
        dsimp only
        rw [if_neg hskipped]
        have hsent : (w.gatewaySubmit env payload).1 = some request := by
          rcases hgateway : w.gatewaySubmit env payload with ⟨request', result⟩
          rw [hgateway] at h
          cases result <;> simpa only [JournalWorker.submitFailed] using h
        unfold JournalWorker.gatewaySubmit at hsent ⊢
        cases hconsole : orderIntentWireDictForConsole payload with
        | error e => simp [hconsole] at hsent
        | ok shown =>
            rw [hconsole] at hsent
            have hcalled : (w.callClient env payload).1 = some request := by
              rcases hresult : w.callClient env payload with ⟨request', result⟩
              rw [hresult] at hsent
              cases result <;> simpa only using hsent
            rcases callClient_sent hcalled with ⟨-, hrequest, hcall⟩
            refine ⟨hrequest, ?_⟩
            rw [hcall]
            cases hrpc : env.rpc request with
            | raises => exact .inr ⟨id, rfl⟩
            | acks ack =>
                cases hack : ackResult ack with
                | none =>
                    refine .inr ⟨?_, by simp [JournalWorker.submitFailed, hack]⟩
                    rw [← ackResult_isSome_iff, hack]
                    rintro ⟨out, hout⟩
                    cases hout
                | some out => exact .inl ⟨ack, out, rfl, hack, by simp [hack]⟩

end

/-- The entries of an order that was sent carry the identifiers of its request exactly when nothing
raises after the remote call. -/
theorem reconcilable_iff (w : JournalWorker) (env : OrderOutcomes) (draws : Draws)
    (intent : ReplayOrderIntent) (sink : OrderJournalSink) (hfresh : draws.Fresh) :
    (∀ request, (w.submitOrder env draws intent).request = some request →
        Reconcilable sink env (w.submitOrder env draws intent) request) ↔
      (w.client = .grpc → ∀ request, w.submit draws intent = some request →
        (env.rpc request).Returns) := by
  have hsent : ∀ request, (w.submitOrder env draws intent).request = some request ↔
      w.client = .grpc ∧ w.submit draws intent = some request := by
    intro request
    rw [request_submitOrder]
    split <;> rename_i hclient <;> simp [hclient]
  constructor
  · intro hreconcile hclient request hrequest
    have hmade := (hsent request).2 ⟨hclient, hrequest⟩
    rcases reports_of_request hmade with ⟨payload, hprepare, hbuilt, hreports⟩
    rcases hreports with ⟨ack, out, hrpc, hack, -⟩ | ⟨-, hfailed⟩
    · rw [hrpc]
      exact (ackResult_isSome_iff ack).1 ⟨out, hack⟩
    · -- the only row that there can be has no identifier
      have hrecon := hreconcile request hmade
      rcases hrecon.recorded with ⟨report, hreport, hrow⟩
      rcases Option.isSome_iff_exists.1 hrow with ⟨row, hrow⟩
      have hid := (hrecon.identified report hreport row hrow).1
      rw [hfailed, List.mem_singleton] at hreport
      have hpayload : report.payload = w.failedPayload intent := by rw [hreport]
      rw [entry_of_failed hpayload hrow] at hid
      cases hid
  · intro hreturns request hmade
    rcases (hsent request).1 hmade with ⟨hclient, hrequest⟩
    rcases reports_of_request hmade with ⟨payload, hprepare, hbuilt, hreports⟩
    rcases hreports with ⟨ack, out, -, hack, hreports⟩ | ⟨hraises, -⟩
    · rcases identifiers_of_request hprepare hbuilt with ⟨hid, hkey⟩
      have hpayload : ∀ report ∈ (w.submitOrder env draws intent).reports,
          report.payload = payload := by
        rw [hreports]
        intro report hreport
        rcases List.mem_append.1 hreport with hreport | hreport
        · split at hreport
          · rw [List.mem_singleton.1 hreport]
          · cases hreport
        · rw [List.mem_singleton.1 hreport]
      refine ⟨⟨⟨.submitter, payload, out⟩, by simp [hreports], ?_⟩, ?_⟩
      · exact row_isSome hfresh hprepare hbuilt rfl hack
      · intro report hreport row hrow
        rw [hid, hkey]
        exact entry_of_prepared hfresh hprepare (hpayload report hreport) hrow
    · exact absurd (hreturns hclient request hrequest) hraises

theorem epochDraws_fresh : epochDraws.Fresh where
  orderIntentId := by decide
  idempotencyKey := ⟨by decide, by decide⟩
  requestedAt := by decide

theorem acceptingOms_returns (request : OrderIntent) : (acceptingOms.rpc request).Returns := by
  have hknown : (1 : Int) ∈ intentAckStatus.map Prod.fst := by decide
  exact hknown

/-- The accepted order has rows with the identifiers of its request. -/
theorem accepted_order_reconcilable :
    ∃ request, (journaledWorker.submitOrder acceptingOms epochDraws tenShares).request =
        some request ∧
      ∀ sink ∈ journaledWorker.stateJournal, Reconcilable sink acceptingOms
        (journaledWorker.submitOrder acceptingOms epochDraws tenShares) request := by
  obtain ⟨request, hrequest⟩ : ∃ request,
      (journaledWorker.submitOrder acceptingOms epochDraws tenShares).request = some request :=
    Option.isSome_iff_exists.1 (by decide +kernel)
  refine ⟨request, hrequest, fun sink _ => ?_⟩
  exact (reconcilable_iff journaledWorker acceptingOms epochDraws tenShares sink
    epochDraws_fresh).2 (fun _ sent _ => acceptingOms_returns sent) request hrequest

/-- Every request runs into its deadline. -/
def slowOms : OrderOutcomes where
  rpc _ := .raises
  reportedAt _ := ⟨epochUtc, utcoffset_epochUtc⟩

/-- The entry of an order whose call ran into its deadline has no identifiers. -/
theorem deadline_loses_identifiers :
    ∃ request, (journaledWorker.submitOrder slowOms epochDraws tenShares).request =
        some request ∧
      ∀ sink, ¬ Reconcilable sink slowOms
        (journaledWorker.submitOrder slowOms epochDraws tenShares) request := by
  obtain ⟨request, hrequest⟩ : ∃ request,
      (journaledWorker.submitOrder slowOms epochDraws tenShares).request = some request :=
    Option.isSome_iff_exists.1 (by decide +kernel)
  refine ⟨request, hrequest, fun sink hrecon => ?_⟩
  rcases hrecon.recorded with ⟨report, hreport, hrow⟩
  rcases Option.isSome_iff_exists.1 hrow with ⟨row, hrow⟩
  have hid := (hrecon.identified report hreport row hrow).1
  rcases reports_of_request hrequest with ⟨payload, -, -, ⟨ack, out, hrpc, -⟩ | ⟨-, hfailed⟩⟩
  · cases hrpc
  · rw [hfailed, List.mem_singleton] at hreport
    have hpayload : report.payload = journaledWorker.failedPayload tenShares := by rw [hreport]
    rw [entry_of_failed hpayload hrow] at hid
    cases hid

end Transport
end StrategyWorker
