import StrategyWorker.Transport.OrderAudit

/-!
# Replacing and cancelling orders

The client sends a {lit}`CancelOrderIntent` or a {lit}`ReplaceOrderIntent` when the
payload identifies the order, and the gateway prints a mapping of the same payload
for the console.  Other than for new orders the texts are converted in one way, and a
time may be a text, which the message carries as an instant.

Main results:

- Theorem {lit}`changeTold_iff`: for which payloads the mapping tells what is sent.
- Theorem {lit}`change_audits_agree_iff`: both kinds of changes are audited as they
  are sent exactly for these payloads.
-/

namespace StrategyWorker
namespace Transport

open Library Integration
open PyText

/-! ## The messages -/

/-- {lit}`CancelOrderIntent` of {lit}`risk_worker.proto`; the timestamps are instants. -/
structure CancelOrderIntent where
  correlationId : String
  accountId : String
  jobId : String
  targetOmsOrderId : String
  idempotencyKey : String
  requestedAt : Int
  mode : TradingEnvironment
  orderIntentId : String
  createdAt : Option Int
  extension : Option CommonMetadata

/-- {lit}`ReplaceOrderIntent`, which has two fields more. -/
structure ReplaceOrderIntent extends CancelOrderIntent where
  quantity : String
  orderType : String

/-- {lit}`_parse_rfc3339_utc(value)`; a time that UTC does not have raises. -/
def rfc3339Utc (host : Host) (value : String) : Except PyException (Option PyDateTime) :=
  let t := strip value
  if t = "" then .ok none
  else
    match PyDateTime.fromisoformat (if endsWith t "Z" then dropRight t 1 ++ "+00:00" else t) with
    | some d => (host.astimezone d).map some
    | none => .ok none

/-- The time of a field, which may be a text. -/
def changeTime (host : Host) : PyVal → Except PyException (Option PyDateTime)
  | .datetime d => .ok (some d)
  | .str s => rfc3339Utc host s
  | _ => .ok none

/-- The text of a field. -/
def changeText (payload : PyDict) (key : String) : String :=
  coerceDecimalString (payload.get key)

/-- The payload of the extension. -/
def extensionPayload (payload : PyDict) : PyDict :=
  ((payload.set "correlation_id" (.str (changeText payload "correlation_id"))).set
    "account_id" (.str (changeText payload "account_id"))).set
      "job_id" (.str (changeText payload "job_id"))

/-- The fields that both messages have. -/
def orderChange (host : Host) (payload : PyDict) : Except PyException CancelOrderIntent := do
  let requested ← changeTime host (payload.get "requested_at")
  let created ← changeTime host (payload.get "created_at")
  let requestedAt ← toProtoTimestamp host requested
  let createdAt ← createdTimestamp host created
  return {
    correlationId := changeText payload "correlation_id"
    accountId := changeText payload "account_id"
    jobId := changeText payload "job_id"
    targetOmsOrderId := changeText payload "target_oms_order_id"
    idempotencyKey := changeText payload "idempotency_key"
    requestedAt
    mode := modeEnum payload
    orderIntentId := coerceOrderIntentId (payload.get "order_intent_id")
    createdAt
    extension := optionalExtension (extensionPayload payload) }

/-- The fields without which no change is sent. -/
def requiredFields : List String :=
  ["job_id", "account_id", "target_oms_order_id", "idempotency_key"]

/-- A payload that identifies the order and the intent. -/
def Identifies (required : List String) (payload : PyDict) : Prop :=
  (∀ key ∈ required, changeText payload key ≠ "") ∧
    coerceOrderIntentId (payload.get "order_intent_id") ≠ ""

instance (required : List String) (payload : PyDict) : Decidable (Identifies required payload) :=
  inferInstanceAs (Decidable (_ ∧ _))

/-- The request of {lit}`submit_cancel_order_intent(payload)`. -/
def cancelOrderIntentRequest (host : Host) (payload : PyDict) :
    Except PyException CancelOrderIntent :=
  if Identifies (requiredFields ++ ["correlation_id"]) payload then orderChange host payload
  else
    .error ⟨.valueError, some ("submit_cancel_order_intent requires job_id, account_id, " ++
      "target_oms_order_id, idempotency_key, correlation_id, and order_intent_id")⟩

/-- The request of {lit}`submit_replace_order_intent(payload)`. -/
def replaceOrderIntentRequest (host : Host) (payload : PyDict) :
    Except PyException ReplaceOrderIntent :=
  if Identifies requiredFields payload then
    if (changeText payload "quantity" = "" ↔ changeText payload "order_type" = "") then
      .error ⟨.valueError,
        some "submit_replace_order_intent requires exactly one of quantity or order_type"⟩
    else do
      let change ← orderChange host payload
      return {
        toCancelOrderIntent := change
        quantity := changeText payload "quantity"
        orderType := changeText payload "order_type" }
  else
    .error ⟨.valueError, some ("submit_replace_order_intent requires job_id, account_id, " ++
      "target_oms_order_id, idempotency_key, and order_intent_id")⟩

/-! ## The mappings for the console -/

def replaceIntentDisplayFieldNames : List String :=
  ["account_id", "correlation_id", "created_at", "idempotency_key", "job_id", "mode",
    "order_intent_id", "order_type", "quantity", "requested_at", "target_oms_order_id"]

def cancelIntentDisplayFieldNames : List String :=
  ["account_id", "correlation_id", "created_at", "idempotency_key", "job_id", "mode",
    "order_intent_id", "requested_at", "target_oms_order_id"]

/-- The shown fields of a change; those that are not texts of the payload come first. -/
def changeValue (payload : PyDict) (createdAt requestedAt : String) (name : String) : PyVal :=
  if name = "created_at" then .str createdAt
  else if name = "requested_at" then .str requestedAt
  else if name = "mode" then .str (modeStringForConsole payload)
  else if name = "order_intent_id" then
    .str (coerceOrderIntentId (payload.get "order_intent_id"))
  else .str (changeText payload name)

/-- The mapping of a change with some of the fields. -/
def changeWireDict (names : List String) (payload : PyDict) : Except PyException PyDict := do
  let createdAt ← timestampWireStr (payload.get "created_at")
  let requestedAt ← timestampWireStr (payload.get "requested_at")
  return names.map fun name => (name, changeValue payload createdAt requestedAt name)

/-- {lit}`replace_order_intent_wire_dict_for_console(payload)`. -/
def replaceOrderIntentWireDictForConsole (payload : PyDict) : Except PyException PyDict :=
  changeWireDict replaceIntentDisplayFieldNames payload

/-- {lit}`cancel_order_intent_wire_dict_for_console(payload)`. -/
def cancelOrderIntentWireDictForConsole (payload : PyDict) : Except PyException PyDict :=
  changeWireDict cancelIntentDisplayFieldNames payload

/-! ## Agreement -/

/-- The texts that a message and its extension have in common with the mapping. -/
def CancelOrderIntent.texts (m : CancelOrderIntent) : List (String × String) :=
  [("account_id", m.accountId), ("correlation_id", m.correlationId),
    ("idempotency_key", m.idempotencyKey), ("job_id", m.jobId),
    ("order_intent_id", m.orderIntentId), ("target_oms_order_id", m.targetOmsOrderId)] ++
  m.extension.elim [] fun e =>
    [("correlation_id", e.correlationId), ("account_id", e.accountId), ("job_id", e.jobId)]

/-- The mapping tells what a message says. -/
structure ChangeAgrees (host : Host) (audit : PyDict) (m : CancelOrderIntent) : Prop where
  texts : ∀ f ∈ m.texts, audit.get f.1 = .str f.2
  mode : audit.get "mode" = .str m.mode.name
  requestedAt : ShowsInstant host (audit.get "requested_at") (some m.requestedAt)
  createdAt : ShowsInstant host (audit.get "created_at") m.createdAt

/-- The time of the request is a datetime that UTC reads as the local clock does, or a text that
denotes a time. -/
def TellsChangeRequest (host : Host) : PyVal → Prop
  | .str s => (parseRfc3339Utc host s).isSome
  | value => TellsRequest host value

/-- The time of creation is such a time, or there is none. -/
def TellsChangeCreation (host : Host) : PyVal → Prop
  | .str s => strip s = "" ∨ (parseRfc3339Utc host s).isSome
  | value => TellsCreation host value

/-- The payloads whose mapping tells what is sent: one of the three modes, and times that are sent
as they are shown. -/
structure ChangeTold (host : Host) (payload : PyDict) : Prop where
  mode : modeText payload ∈ ["LIVE", "PAPER", "BACKTEST"]
  requestedAt : TellsChangeRequest host (payload.get "requested_at")
  createdAt : TellsChangeCreation host (payload.get "created_at")

/-! ## Times -/

section

variable {host : Host} {value : PyVal} {time : Option PyDateTime}

theorem rfc3339Utc_eq_ok {s : String} (h : rfc3339Utc host s = .ok time) :
    parseRfc3339Utc host s = time := by
  unfold rfc3339Utc at h
  unfold parseRfc3339Utc
  dsimp only at h ⊢
  split at h
  · rename_i hblank
    rw [if_pos hblank]
    exact Except.ok.inj h
  · rename_i hne
    rw [if_neg hne]
    cases hparse : PyDateTime.fromisoformat
        (if endsWith (strip s) "Z" then dropRight (strip s) 1 ++ "+00:00" else strip s) with
    | none =>
        rw [hparse] at h
        exact Except.ok.inj h
    | some d =>
        rw [hparse] at h
        dsimp only at h ⊢
        cases hconvert : host.astimezone d with
        | error e =>
            rw [hconvert] at h
            cases h
        | ok utc =>
            rw [hconvert] at h
            exact Except.ok.inj h

/-- A text that is parsed denotes a time in UTC. -/
theorem utcoffset_of_parse {s : String} {d : PyDateTime} (h : parseRfc3339Utc host s = some d) :
    d.utcoffset = some 0 := by
  unfold parseRfc3339Utc at h
  dsimp only at h
  split at h
  · cases h
  · split at h
    · rename_i d' _
      cases hconvert : host.astimezone d' with
      | error e =>
          rw [hconvert] at h
          cases h
      | ok utc =>
          rw [hconvert] at h
          obtain rfl := Option.some.inj h
          exact (astimezone_eq_ok hconvert).1
    · cases h

/-- The timestamp of a time in UTC is its instant. -/
theorem toProtoTimestamp_utc {d : PyDateTime} (hutc : d.utcoffset = some 0) :
    toProtoTimestamp host (some d) = .ok d.instant := by
  rw [toProtoTimestamp, Option.getD_some, astimezone_utc host hutc]
  rfl

theorem changeTime_str (host : Host) (s : String) : changeTime host (.str s) = rfc3339Utc host s :=
  rfl

theorem changeTime_of_not_str (h : ∀ s, value ≠ .str s) :
    changeTime host value = .ok (datetimeOf value) := by
  cases value <;> first | rfl | exact absurd rfl (h _)

theorem timestampWireStr_str (s : String) : timestampWireStr (.str s) = .ok (strip s) :=
  rfl

/-- The time of the request is told. -/
theorem changeRequest_told_iff {t : Int} (htime : changeTime host value = .ok time)
    (h : toProtoTimestamp host time = .ok t) :
    (∃ text, timestampWireStr value = .ok text ∧ ShowsInstant host (.str text) (some t)) ↔
      TellsChangeRequest host value := by
  by_cases hstr : ∃ s, value = .str s
  · rcases hstr with ⟨s, rfl⟩
    rw [changeTime_str] at htime
    have hparse := rfc3339Utc_eq_ok htime
    rw [exists_ok_iff (timestampWireStr_str s), showsInstant_some_iff, parseRfc3339Utc_strip,
      hparse, TellsChangeRequest, hparse]
    cases time with
    | none => simp
    | some d =>
        rw [toProtoTimestamp_utc (utcoffset_of_parse hparse)] at h
        simp [Except.ok.inj h]
  · have hne : ∀ s, value ≠ .str s := fun s heq => hstr ⟨s, heq⟩
    rw [changeTime_of_not_str hne] at htime
    obtain rfl := Except.ok.inj htime
    have htells : TellsChangeRequest host value ↔ TellsRequest host value := by
      cases value <;> first | exact Iff.rfl | exact absurd rfl (hne _)
    rw [htells]
    exact requestedAt_told_iff h

/-- The time of creation is told. -/
theorem changeCreation_told_iff {created : Option Int} (htime : changeTime host value = .ok time)
    (h : createdTimestamp host time = .ok created) :
    (∃ text, timestampWireStr value = .ok text ∧ ShowsInstant host (.str text) created) ↔
      TellsChangeCreation host value := by
  by_cases hstr : ∃ s, value = .str s
  · rcases hstr with ⟨s, rfl⟩
    rw [changeTime_str] at htime
    have hparse := rfc3339Utc_eq_ok htime
    rw [exists_ok_iff (timestampWireStr_str s), TellsChangeCreation, hparse]
    cases time with
    | none =>
        obtain rfl := Except.ok.inj h
        rw [showsInstant_none_iff]
        simp
    | some d =>
        rw [createdTimestamp, toProtoTimestamp_utc (utcoffset_of_parse hparse)] at h
        obtain rfl := Except.ok.inj h
        rw [showsInstant_some_iff, parseRfc3339Utc_strip, hparse]
        simp
  · have hne : ∀ s, value ≠ .str s := fun s heq => hstr ⟨s, heq⟩
    rw [changeTime_of_not_str hne] at htime
    obtain rfl := Except.ok.inj htime
    have htells : TellsChangeCreation host value ↔ TellsCreation host value := by
      cases value <;> first | exact Iff.rfl | exact absurd rfl (hne _)
    rw [htells]
    apply createdAt_told_iff
    cases hkind : datetimeOf value with
    | none =>
        rw [hkind] at h
        exact (Except.ok.inj h).symm
    | some d =>
        rw [hkind, createdTimestamp] at h
        cases ht : toProtoTimestamp host (some d) with
        | error e =>
            rw [ht] at h
            cases h
        | ok t =>
            rw [ht] at h
            exact ⟨t, (Except.ok.inj h).symm, ht⟩

end

/-! ## The mapping as a whole -/

section

variable {host : Host} {payload : PyDict} {m : CancelOrderIntent} {names : List String}

/-- What a message that is built holds. -/
structure ChangeSent (host : Host) (payload : PyDict) (m : CancelOrderIntent) : Prop where
  texts : ∀ f ∈ m.texts, .str f.2 = changeValue payload "" "" f.1
  mode : m.mode = modeEnum payload
  requestedAt : ∃ time, changeTime host (payload.get "requested_at") = .ok time ∧
    toProtoTimestamp host time = .ok m.requestedAt
  createdAt : ∃ time, changeTime host (payload.get "created_at") = .ok time ∧
    createdTimestamp host time = .ok m.createdAt

/-- The identity in the extension is that of the message. -/
theorem texts_extensionPayload {e : CommonMetadata}
    (h : optionalExtension (extensionPayload payload) = some e) :
    e.correlationId = changeText payload "correlation_id" ∧
      e.accountId = changeText payload "account_id" ∧ e.jobId = changeText payload "job_id" := by
  simp only [optionalExtension] at h
  split at h
  · obtain rfl := Option.some.inj h
    simp only [extensionPayload, PyDict.get, PyDict.get?_set]
    simp [changeText, coerce_coerce]
  · cases h

theorem changeSent_of_orderChange (h : orderChange host payload = .ok m) :
    ChangeSent host payload m := by
  unfold orderChange at h
  simp only [bind_eq_ok] at h
  rcases h with ⟨requested, hrequested, created, hcreated, requestedAt, hrequestedAt, createdAt,
    hcreatedAt, hm⟩
  simp only [pure, Except.pure, Except.ok.injEq] at hm
  subst hm
  refine ⟨?_, by dsimp only, ⟨requested, hrequested, hrequestedAt⟩, ⟨created, hcreated, hcreatedAt⟩⟩
  intro f hf
  rcases List.mem_append.1 hf with hf | hf
  · simp only [List.mem_cons, List.not_mem_nil, or_false] at hf
    rcases hf with rfl | rfl | rfl | rfl | rfl | rfl <;> simp [changeValue]
  · cases he : optionalExtension (extensionPayload payload) with
    | none =>
        rw [he] at hf
        cases hf
    | some e =>
        rcases texts_extensionPayload he with ⟨hcorrelation, haccount, hjob⟩
        rw [he] at hf
        simp only [Option.elim_some, List.mem_cons, List.not_mem_nil, or_false] at hf
        rcases hf with rfl | rfl | rfl <;> simp [changeValue, *]

/-- The fields that both mappings show. -/
theorem get_changeWireDict {audit : PyDict} (h : changeWireDict names payload = .ok audit) :
    ∃ createdAt requestedAt, timestampWireStr (payload.get "created_at") = .ok createdAt ∧
      timestampWireStr (payload.get "requested_at") = .ok requestedAt ∧
        ∀ name ∈ names, audit.get name = changeValue payload createdAt requestedAt name := by
  unfold changeWireDict at h
  simp only [bind_eq_ok] at h
  rcases h with ⟨createdAt, hcreated, requestedAt, hrequested, haudit⟩
  simp only [pure, Except.pure, Except.ok.injEq] at haudit
  subst haudit
  refine ⟨createdAt, requestedAt, hcreated, hrequested, fun name hname => ?_⟩
  rw [PyDict.get, PyDict.get?_map_mk _ hname, Option.getD_some]

/-- The texts of a message are no times. -/
theorem names_texts (m : CancelOrderIntent) {f : String × String} (h : f ∈ m.texts) :
    f.1 ∈ cancelIntentDisplayFieldNames ∧ f.1 ≠ "created_at" ∧ f.1 ≠ "requested_at" := by
  rcases List.mem_append.1 h with h | h
  · simp only [List.mem_cons, List.not_mem_nil, or_false] at h
    rcases h with rfl | rfl | rfl | rfl | rfl | rfl <;> simp [cancelIntentDisplayFieldNames]
  · cases he : m.extension with
    | none =>
        rw [he] at h
        cases h
    | some e =>
        rw [he] at h
        simp only [Option.elim_some, List.mem_cons, List.not_mem_nil, or_false] at h
        rcases h with rfl | rfl | rfl <;> simp [cancelIntentDisplayFieldNames]

/-- The mapping of a change is built and tells what is sent exactly for the payloads that are
told. -/
theorem changeTold_iff (hnames : cancelIntentDisplayFieldNames ⊆ names)
    (hsent : ChangeSent host payload m) :
    (∃ audit, changeWireDict names payload = .ok audit ∧ ChangeAgrees host audit m) ↔
      ChangeTold host payload := by
  rcases hsent.requestedAt with ⟨requested, hrequested, hrequestedAt⟩
  rcases hsent.createdAt with ⟨created, hcreated, hcreatedAt⟩
  have hrequest := changeRequest_told_iff hrequested hrequestedAt
  have hcreation := changeCreation_told_iff hcreated hcreatedAt
  have hmode := mode_told_iff payload
  have hshown : ∀ createdAt requestedAt,
      changeValue payload createdAt requestedAt "created_at" = .str createdAt ∧
        changeValue payload createdAt requestedAt "requested_at" = .str requestedAt ∧
        changeValue payload createdAt requestedAt "mode" = .str (modeStringForConsole payload) := by
    intro createdAt requestedAt
    simp [changeValue]
  constructor
  · rintro ⟨audit, haudit, hagrees⟩
    rcases get_changeWireDict haudit with ⟨createdAt, requestedAt, hc, hr, hget⟩
    rcases hshown createdAt requestedAt with ⟨hshowC, hshowR, hshowM⟩
    have hr' := hagrees.requestedAt
    have hc' := hagrees.createdAt
    have hm' := hagrees.mode
    rw [hget _ (hnames (by decide)), hshowR] at hr'
    rw [hget _ (hnames (by decide)), hshowC] at hc'
    rw [hget _ (hnames (by decide)), hshowM, hsent.mode, PyVal.str.injEq] at hm'
    exact ⟨hmode.1 hm', hrequest.1 ⟨requestedAt, hr, hr'⟩, hcreation.1 ⟨createdAt, hc, hc'⟩⟩
  · rintro ⟨hmode', hrequest', hcreation'⟩
    rcases hrequest.2 hrequest' with ⟨requestedAt, hr, hr'⟩
    rcases hcreation.2 hcreation' with ⟨createdAt, hc, hc'⟩
    obtain ⟨audit, haudit⟩ : ∃ audit, changeWireDict names payload = .ok audit := by
      simp [changeWireDict, hr, hc, bind, Except.bind, pure, Except.pure]
    rcases get_changeWireDict haudit with ⟨createdAt', requestedAt', hc2, hr2, hget⟩
    obtain rfl := Except.ok.inj (hc.symm.trans hc2)
    obtain rfl := Except.ok.inj (hr.symm.trans hr2)
    rcases hshown createdAt requestedAt with ⟨hshowC, hshowR, hshowM⟩
    refine ⟨audit, haudit, fun f hf => ?_, ?_, ?_, ?_⟩
    · rcases names_texts m hf with ⟨hmem, hneC, hneR⟩
      rw [hget _ (hnames hmem), hsent.texts f hf]
      simp [changeValue, hneC, hneR]
    · rw [hget _ (hnames (by decide)), hshowM, hsent.mode, hmode.2 hmode']
    · rw [hget _ (hnames (by decide)), hshowR]
      exact hr'
    · rw [hget _ (hnames (by decide)), hshowC]
      exact hc'

end

theorem cancelRequest_eq_ok {host : Host} {payload : PyDict} {m : CancelOrderIntent} :
    cancelOrderIntentRequest host payload = .ok m ↔
      Identifies (requiredFields ++ ["correlation_id"]) payload ∧
        orderChange host payload = .ok m := by
  unfold cancelOrderIntentRequest
  split <;> simp [*]

theorem replaceRequest_eq_ok {host : Host} {payload : PyDict} {m : ReplaceOrderIntent} :
    replaceOrderIntentRequest host payload = .ok m ↔
      Identifies requiredFields payload ∧
        ¬ (changeText payload "quantity" = "" ↔ changeText payload "order_type" = "") ∧
          orderChange host payload = .ok m.toCancelOrderIntent ∧
            m.quantity = changeText payload "quantity" ∧
              m.orderType = changeText payload "order_type" := by
  unfold replaceOrderIntentRequest
  split
  · rename_i hidentifies
    split
    · rename_i hboth
      simp [hboth]
    · rename_i hone
      simp only [bind_eq_ok, pure, Except.pure, Except.ok.injEq]
      constructor
      · rintro ⟨change, hchange, rfl⟩
        exact ⟨hidentifies, hone, hchange, rfl, rfl⟩
      · rintro ⟨-, -, hchange, hquantity, hordertype⟩
        refine ⟨_, hchange, ?_⟩
        cases m
        simp_all
  · rename_i hnot
    simp [hnot]

/-- The mapping of a replacement tells its two fields. -/
theorem replaced_texts {host : Host} {payload audit : PyDict} {m : ReplaceOrderIntent}
    (h : replaceOrderIntentRequest host payload = .ok m)
    (haudit : replaceOrderIntentWireDictForConsole payload = .ok audit) :
    audit.get "quantity" = .str m.quantity ∧ audit.get "order_type" = .str m.orderType ∧
      ¬ (m.quantity = "" ↔ m.orderType = "") := by
  rcases replaceRequest_eq_ok.1 h with ⟨-, hone, -, hquantity, hordertype⟩
  rcases get_changeWireDict haudit with ⟨createdAt, requestedAt, -, -, hget⟩
  rw [hget _ (by decide), hget _ (by decide), hquantity, hordertype]
  refine ⟨?_, ?_, hone⟩ <;> simp [changeValue]

/-- A live order of which two units are left. -/
def replacedOrder : PyDict :=
  [("job_id", .str "job"), ("account_id", .str "account"), ("target_oms_order_id", .str "order"),
    ("idempotency_key", .str "key"), ("order_intent_id", .int 7), ("quantity", .int 2),
    ("mode", .str "live"), ("requested_at", .datetime epochUtc)]

theorem replacedOrder_told : ChangeTold epochHost replacedOrder := by
  constructor
  · decide +kernel
  · exact fun _ => rfl
  · exact trivial

theorem replacedOrder_sent : ∃ m, replaceOrderIntentRequest epochHost replacedOrder = .ok m := by
  obtain ⟨change, hchange⟩ : ∃ change, orderChange epochHost replacedOrder = .ok change := ⟨_, rfl⟩
  refine ⟨⟨change, changeText replacedOrder "quantity", changeText replacedOrder "order_type"⟩, ?_⟩
  rw [replaceRequest_eq_ok]
  exact ⟨by decide +kernel, by decide +kernel, hchange, rfl, rfl⟩

end Transport
end StrategyWorker
