import StrategyWorker.Transport.OmsPayload

/-!
# The audit mapping and the message that is sent

The mapping for the console tells what an order intent says.  It agrees with the
message when every text, the mode, the launch attempt and the instants of both
times are the same.  The two conversions differ in the mode when there is none,
in texts with spaces around them, in naive times, and in times that are no
datetimes.

Main results:

- Theorem {lit}`shows_datetime_iff`: the text of a datetime tells the instant of
  its timestamp when UTC reads it as the local clock does.
- Theorem {lit}`audit_agrees_iff`: for which payloads the mapping agrees with the
  message.
-/

namespace StrategyWorker
namespace Transport

open Library Integration
open PyText

/-! ## Agreement -/

/-- The fields that the message has in its extension only. -/
def routingFields : List String :=
  ["causation_id", "tenant_id", "runtime_id", "worker_identity", "strategy_version_id",
    "deployment_id"]

/-- The texts of the extension. -/
def CommonMetadata.texts (e : CommonMetadata) : List (String × String) :=
  [("correlation_id", e.correlationId), ("causation_id", e.causationId),
    ("tenant_id", e.tenantId), ("account_id", e.accountId), ("runtime_id", e.runtimeId),
    ("worker_identity", e.workerIdentity), ("strategy_version_id", e.strategyVersionId),
    ("job_id", e.jobId), ("deployment_id", e.deploymentId)]

/-- The texts of the message itself. -/
def OrderIntent.ownTexts (m : OrderIntent) : List (String × String) :=
  [("correlation_id", m.correlationId), ("account_id", m.accountId),
    ("instrument_id", m.instrumentId), ("side", m.side), ("order_type", m.orderType),
    ("quantity", m.quantity), ("limit_price", m.limitPrice), ("stop_price", m.stopPrice),
    ("time_in_force", m.timeInForce), ("idempotency_key", m.idempotencyKey), ("job_id", m.jobId),
    ("order_intent_id", m.orderIntentId), ("symbol", m.symbol)]

/-- The texts of the message under the names of the mapping; a missing extension has empty ones. -/
def OrderIntent.texts (m : OrderIntent) : List (String × String) :=
  m.ownTexts ++ m.extension.elim (routingFields.map fun name => (name, "")) CommonMetadata.texts

/-- A text tells an instant; an empty one tells that there is none. -/
def ShowsInstant (host : Host) (shown : PyVal) (instant : Option Int) : Prop :=
  ∃ text, shown = .str text ∧
    match instant with
    | some t => (parseRfc3339Utc host text).map PyDateTime.instant = some t
    | none => text = ""

/-- The mapping tells what the message says. -/
structure Agrees (host : Host) (audit : PyDict) (m : OrderIntent) : Prop where
  texts : ∀ f ∈ m.texts, audit.get f.1 = .str f.2
  mode : audit.get "mode" = .str m.mode.name
  launchAttempt : audit.get "launch_attempt" =
    .int (m.extension.elim 0 fun e => (e.launchAttempt : Int))
  requestedAt : ShowsInstant host (audit.get "requested_at") (some m.requestedAt)
  createdAt : ShowsInstant host (audit.get "created_at") m.createdAt

/-! ## The condition -/

/-- UTC reads the datetime as the local clock does: it is aware, or the local offset is zero. -/
def ReadsAsUtc (host : Host) (d : PyDateTime) : Prop :=
  d.utcoffset = none → host.zone d.wall = 0

/-- The time of the request is such a datetime or a text that denotes the time of sending. -/
def TellsRequest (host : Host) : PyVal → Prop
  | .datetime d => ReadsAsUtc host d
  | .none => False
  | value => (parseRfc3339Utc host value.text).map PyDateTime.instant = some host.now.instant

/-- The time of creation is such a datetime, or there is none. -/
def TellsCreation (host : Host) : PyVal → Prop
  | .datetime d => ReadsAsUtc host d
  | .none => True
  | value => strip value.text = ""

/-- The launch attempt is zero, or no integer at all. -/
def TellsNoAttempt (value : PyVal) : Prop :=
  value.isNone = true ∨ value.toInt = .ok 0 ∨ value.toInt = .error .typeError ∨
    value.toInt = .error .valueError

/-- The payloads whose mapping tells what is sent: one of the three modes, texts without spaces
around them, times that are sent as they are shown, no launch attempt, and no identity beside the
routing metadata. -/
structure Told (host : Host) (payload : PyDict) : Prop where
  mode : modeText payload ∈ ["LIVE", "PAPER", "BACKTEST"]
  trimmed : ∀ key ∈ defaultedFields, ∀ text, payload.get? key = some (.str text) → Trimmed text
  requestedAt : TellsRequest host (requestedAtOf payload)
  createdAt : TellsCreation host (payload.get "created_at")
  launchAttempt : TellsNoAttempt (payload.get "launch_attempt")
  routing : hasRouting payload = true ∨
    ∀ key ∈ routingFields, coerceDecimalString (payload.get key) = ""

theorem showsInstant_some_iff {host : Host} {text : String} {t : Int} :
    ShowsInstant host (.str text) (some t) ↔
      (parseRfc3339Utc host text).map PyDateTime.instant = some t := by
  constructor
  · rintro ⟨_, htext, h⟩
    cases htext
    exact h
  · intro h
    exact ⟨text, rfl, h⟩

theorem showsInstant_none_iff {host : Host} {text : String} :
    ShowsInstant host (.str text) none ↔ text = "" := by
  constructor
  · rintro ⟨_, htext, h⟩
    cases htext
    exact h
  · intro h
    exact ⟨text, rfl, h⟩

/-! ## Times -/

section

variable {host : Host} {d : PyDateTime} {t : Int}

/-- A text is read like its strip. -/
theorem parseRfc3339Utc_strip (host : Host) (text : String) :
    parseRfc3339Utc host (strip text) = parseRfc3339Utc host text := by
  simp only [parseRfc3339Utc, strip_strip]

theorem astimezone_eq_ok {utc : PyDateTime} (h : host.astimezone d = .ok utc) :
    utc.utcoffset = some 0 ∧ utc.wall = d.wall - d.utcoffset.getD (host.zone d.wall) := by
  unfold Host.astimezone at h
  split at h
  · rename_i u hu
    obtain rfl := Except.ok.inj h
    exact (PyDateTime.ofWall?_eq_some hu).symm
  · cases h

/-- A datetime in UTC is its own conversion. -/
theorem astimezone_utc (host : Host) (hutc : d.utcoffset = some 0) : host.astimezone d = .ok d := by
  unfold Host.astimezone
  have hwall : d.wall - d.utcoffset.getD (host.zone d.wall) = d.wall := by simp [hutc]
  rw [hwall, ← hutc, PyDateTime.ofWall?, dif_pos ⟨d.wall_range, d.offset_range⟩]

/-- The text of a datetime in UTC is read back. -/
theorem parseRfc3339Utc_wire (host : Host) (hutc : d.utcoffset = some 0) :
    parseRfc3339Utc host (replace (d.isoformat "T") "+00:00" "Z") = some d := by
  have hne : String.ofList (d.isoParts.body ++ ['Z']) ≠ "" := by
    intro h
    have hlist := congrArg String.toList h
    rw [String.toList_ofList] at hlist
    simp at hlist
  simp only [parseRfc3339Utc, PyDateTime.replace_offset hutc,
    strip_eq_self (PyDateTime.trimmed_zulu d), if_neg hne, PyDateTime.endsWith_zulu d, if_true,
    PyDateTime.dropRight_zulu hutc, PyDateTime.fromisoformat_isoformat hutc,
    astimezone_utc host hutc, Except.toOption]

/-- The datetime that the text shows: a naive one is read as UTC. -/
theorem astimezoneUtc_naiveAsUtc (h : toProtoTimestamp host (some d) = .ok t) :
    ∃ utc, astimezoneUtc d.naiveAsUtc = .ok utc ∧ utc.utcoffset = some 0 ∧
      utc.instant = d.instant := by
  rcases bind_eq_ok.1 h with ⟨sent, hsent, -⟩
  have hconverted : ∃ utc, d.naiveAsUtc.astimezoneUtc = some utc := by
    cases hoffset : d.utcoffset with
    | none =>
        have hwall : d.naiveAsUtc.wall - d.naiveAsUtc.utcoffset.getD 0 = d.wall := by
          simp [PyDateTime.naiveAsUtc, hoffset]
        have hrange : ∀ o ∈ (some 0 : Option Int), -microsPerDay < o ∧ o < microsPerDay := by
          simp [microsPerDay]
        rw [PyDateTime.astimezoneUtc, hwall, PyDateTime.ofWall?, dif_pos ⟨d.wall_range, hrange⟩]
        exact ⟨_, rfl⟩
    | some offset =>
        have hsame : d.naiveAsUtc = d := by simp [PyDateTime.naiveAsUtc, hoffset]
        simp only [Option.getD_some, Host.astimezone, hoffset] at hsent
        rw [hsame, PyDateTime.astimezoneUtc, hoffset, Option.getD_some]
        split at hsent
        · rename_i u hu
          exact ⟨u, hu⟩
        · cases hsent
  rcases hconverted with ⟨utc, hutc⟩
  rcases PyDateTime.instant_astimezoneUtc hutc with ⟨hinstant, hzero⟩
  rw [PyDateTime.instant_naiveAsUtc] at hinstant
  exact ⟨utc, astimezoneUtc_eq_ok_iff.2 hutc, hzero, hinstant⟩

/-- The text of a datetime denotes its instant, a naive one read as UTC. -/
theorem timestampWireStr_datetime (h : toProtoTimestamp host (some d) = .ok t) :
    ∃ text, timestampWireStr (.datetime d) = .ok text ∧
      (parseRfc3339Utc host text).map PyDateTime.instant = some d.instant := by
  rcases astimezoneUtc_naiveAsUtc h with ⟨utc, hutc, hzero, hinstant⟩
  refine ⟨replace (utc.isoformat "T") "+00:00" "Z", ?_, ?_⟩
  · simp [timestampWireStr, hutc, Except.mapError, bind, Except.bind, pure, Except.pure]
  · rw [parseRfc3339Utc_wire host hzero, Option.map_some, hinstant]

/-- The timestamp of a datetime has its instant, a naive one read as local time. -/
theorem toProtoTimestamp_datetime (h : toProtoTimestamp host (some d) = .ok t) :
    t = d.wall - d.utcoffset.getD (host.zone d.wall) - epochWall := by
  rcases bind_eq_ok.1 h with ⟨utc, hutc, hinstant⟩
  rcases astimezone_eq_ok hutc with ⟨hzero, hwall⟩
  have ht : utc.instant = t := Except.ok.inj hinstant
  rw [← ht, PyDateTime.instant, hzero, hwall, Option.getD_some, Option.getD_some]
  ring

/-- The text of a datetime tells the instant of its timestamp when UTC reads it as the local clock
does. -/
theorem shows_datetime_iff (h : toProtoTimestamp host (some d) = .ok t) :
    (∃ text, timestampWireStr (.datetime d) = .ok text ∧ ShowsInstant host (.str text) (some t)) ↔
      ReadsAsUtc host d := by
  rcases timestampWireStr_datetime h with ⟨text, htext, hparse⟩
  have hshows : ShowsInstant host (.str text) (some t) ↔ d.instant = t := by
    rw [showsInstant_some_iff, hparse, Option.some_inj]
  have hsame : d.instant = t ↔ ReadsAsUtc host d := by
    rw [toProtoTimestamp_datetime h, PyDateTime.instant, ReadsAsUtc]
    cases d.utcoffset with
    | none =>
        simp only [Option.getD_none, true_implies]
        omega
    | some offset => simp
  rw [← hsame, ← hshows]
  constructor
  · rintro ⟨text', htext', hshown⟩
    rw [htext] at htext'
    obtain rfl := Except.ok.inj htext'
    exact hshown
  · intro hshown
    exact ⟨text, htext, hshown⟩

end

/-! ## The message -/

section

variable {host : Host} {payload : PyDict} {m : OrderIntent}

/-- What a request that is built holds. -/
structure Sent (host : Host) (payload : PyDict) (m : OrderIntent) : Prop where
  texts : ∀ f ∈ m.ownTexts,
    protoString ((normalizeOmsSubmissionPayload payload).get f.1) = .ok f.2
  mode : m.mode = modeEnum payload
  requestedAt : toProtoTimestamp host (datetimeOf (requestedAtOf payload)) = .ok m.requestedAt
  createdAt : match datetimeOf (payload.get "created_at") with
    | some d => ∃ t, m.createdAt = some t ∧ toProtoTimestamp host (some d) = .ok t
    | none => m.createdAt = none
  extension : m.extension = optionalExtension (normalizeOmsSubmissionPayload payload)

theorem modeEnum_normalize (payload : PyDict) :
    modeEnum (normalizeOmsSubmissionPayload payload) = modeEnum payload := by
  simp only [modeEnum, modeText_normalize]

theorem get_createdAt_normalize (payload : PyDict) :
    (normalizeOmsSubmissionPayload payload).get "created_at" = payload.get "created_at" := by
  rw [PyDict.get, get?_normalize_other (by decide), ← PyDict.get]

theorem sent_of_request (h : orderIntentRequest host payload = .ok m) : Sent host payload m := by
  unfold orderIntentRequest at h
  simp only [bind_eq_ok] at h
  rcases h with ⟨requestedAt, hrequested, correlationId, hcorrelation, accountId, haccount,
    instrumentId, hinstrument, side, hside, orderType, horderType, quantity, hquantity, limitPrice,
    hlimit, stopPrice, hstop, timeInForce, htime, idempotencyKey, hkey, jobId, hjob, orderIntentId,
    hid, symbol, hsymbol, createdAt, hcreated, hm⟩
  simp only [pure, Except.pure, Except.ok.injEq] at hm
  subst hm
  rw [get_requestedAt_normalize] at hrequested
  rw [get_createdAt_normalize] at hcreated
  constructor
  · intro f hf
    simp only [OrderIntent.ownTexts, List.mem_cons, List.not_mem_nil, or_false] at hf
    rcases hf with rfl | rfl | rfl | rfl | rfl | rfl | rfl | rfl | rfl | rfl | rfl | rfl | rfl
    exacts [hcorrelation, haccount, hinstrument, hside, horderType, hquantity, hlimit, hstop, htime,
      hkey, hjob, hid, hsymbol]
  · dsimp only
    exact modeEnum_normalize payload
  · exact hrequested
  · cases hkind : datetimeOf (payload.get "created_at") with
    | none =>
        rw [hkind] at hcreated
        exact (Except.ok.inj hcreated).symm
    | some d =>
        rw [hkind, createdTimestamp] at hcreated
        cases htimestamp : toProtoTimestamp host (some d) with
        | error e =>
            rw [htimestamp] at hcreated
            cases hcreated
        | ok t =>
            rw [htimestamp] at hcreated
            exact ⟨t, (Except.ok.inj hcreated).symm, htimestamp⟩
  · simp only

end

/-! ## The mapping -/

section

variable {payload audit : PyDict}

theorem get?_fillTexts (fields : List String) (p : PyDict) (key : String) :
    (fields.foldl fillText p).get? key =
      if key ∈ fields then some (.str (coerceDecimalString (p.get key))) else p.get? key := by
  induction fields generalizing p with
  | nil => rfl
  | cons field fields ih =>
      have hfill : (fillText p field).get? key =
          if field = key then some (.str (coerceDecimalString (p.get key))) else p.get? key := by
        unfold fillText
        split
        · rename_i hmissing
          have hnone : p.get field = .none := by
            rcases hmissing with hmissing | hmissing
            · have hget : p.get? field = none := by simpa [PyDict.contains] using hmissing
              rw [PyDict.get, hget]
              rfl
            · cases hvalue : p.get field <;> simp_all [PyVal.isNone]
          rw [PyDict.get?_set]
          split
          · rename_i heq
            rw [← heq, hnone]
            rfl
          · rfl
        · rw [coerceField, PyDict.get?_set]
          split
          · rename_i heq
            rw [heq]
          · rfl
      rw [List.foldl_cons, ih, PyDict.get, hfill]
      by_cases heq : field = key
      · subst heq
        simp [coerce_coerce]
      · have hne : key ≠ field := fun h => heq h.symm
        simp [heq, hne, PyDict.get]

/-- The payload from which the mapping is built. -/
def consolePayload (payload : PyDict) : PyDict :=
  ["tenant_id", "worker_identity", "deployment_id", "causation_id"].foldl fillText
    (normalizeOmsSubmissionPayload payload)

theorem coerce_consolePayload (payload : PyDict) (key : String) :
    coerceDecimalString ((consolePayload payload).get key) =
      coerceDecimalString ((normalizeOmsSubmissionPayload payload).get key) := by
  rw [consolePayload, PyDict.get, get?_fillTexts]
  split
  · rw [Option.getD_some, coerce_coerce]
  · rw [← PyDict.get]

theorem get_consolePayload (payload : PyDict) {key : String}
    (h : key ∉ ["tenant_id", "worker_identity", "deployment_id", "causation_id"]) :
    (consolePayload payload).get? key = (normalizeOmsSubmissionPayload payload).get? key := by
  rw [consolePayload, get?_fillTexts, if_neg h]

theorem launchAttemptOf_missing (payload : PyDict) :
    launchAttemptOf ((payload.get? "launch_attempt").getD (.int 0)) =
      launchAttemptOf (payload.get "launch_attempt") := by
  rw [PyDict.get]
  cases payload.get? "launch_attempt" <;> rfl

/-- The fields of the mapping that are texts of the normalized payload. -/
def plainNames : List String :=
  ["account_id", "causation_id", "correlation_id", "deployment_id", "idempotency_key",
    "instrument_id", "job_id", "limit_price", "order_type", "quantity", "runtime_id", "side",
    "stop_price", "strategy_version_id", "symbol", "tenant_id", "time_in_force",
    "worker_identity"]

/-- What a mapping that is built holds. -/
structure Shown (payload audit : PyDict) : Prop where
  texts : ∀ name ∈ plainNames, audit.get name =
    .str (coerceDecimalString ((normalizeOmsSubmissionPayload payload).get name))
  orderIntentId : audit.get "order_intent_id" =
    .str (coerceOrderIntentId (payload.get "order_intent_id"))
  mode : audit.get "mode" = .str (modeStringForConsole payload)
  launchAttempt : ∃ n, launchAttemptOf (payload.get "launch_attempt") = .ok n ∧
    audit.get "launch_attempt" = .int n
  createdAt : ∃ text, timestampWireStr (payload.get "created_at") = .ok text ∧
    audit.get "created_at" = .str text
  requestedAt : ∃ text, timestampWireStr (requestedAtOf payload) = .ok text ∧
    audit.get "requested_at" = .str text

theorem modeStringForConsole_consolePayload (payload : PyDict) :
    modeStringForConsole (consolePayload payload) = modeStringForConsole payload := by
  have hmode : modeText (consolePayload payload) = modeText payload := by
    rw [← modeText_normalize payload]
    simp only [modeText, PyDict.get, get_consolePayload _ (by decide : "mode" ∉ _),
      get_consolePayload _ (by decide : "environment" ∉ _)]
  simp only [modeStringForConsole, hmode]

/-- The fields that are read from the payload in another way. -/
theorem get_consolePayload_read (payload : PyDict) :
    (consolePayload payload).get "created_at" = payload.get "created_at" ∧
      (consolePayload payload).get "requested_at" = requestedAtOf payload ∧
      (consolePayload payload).get? "launch_attempt" = payload.get? "launch_attempt" ∧
      (consolePayload payload).get "order_intent_id" =
        .str (coerceOrderIntentId (payload.get "order_intent_id")) := by
  refine ⟨?_, ?_, ?_, ?_⟩
  · rw [PyDict.get, get_consolePayload _ (by decide), ← PyDict.get, get_createdAt_normalize]
  · rw [PyDict.get, get_consolePayload _ (by decide), ← PyDict.get, get_requestedAt_normalize]
  · rw [get_consolePayload _ (by decide), get?_normalize_other (by decide)]
  · rw [PyDict.get, get_consolePayload _ (by decide), get?_orderIntentId_normalize,
      Option.getD_some]

theorem shown_of_console (h : orderIntentWireDictForConsole payload = .ok audit) :
    Shown payload audit := by
  rcases get_consolePayload_read payload with ⟨hcreated, hrequested, hattempt, hid⟩
  have hmode := modeStringForConsole_consolePayload payload
  have htext := coerce_consolePayload payload
  unfold orderIntentWireDictForConsole at h
  rw [← consolePayload] at h
  generalize consolePayload payload = p at *
  simp only [bind_eq_ok, hcreated, hrequested, hattempt, hid, hmode, htext,
    coerceOrderIntentId_coerce, launchAttemptOf_missing] at h
  rcases h with ⟨n, hn, created, hcreated', requested, hrequested', haudit⟩
  simp only [pure, Except.pure, Except.ok.injEq] at haudit
  subst haudit
  have hget : ∀ name ∈ orderIntentDisplayFieldNames, ∀ value : String → PyVal,
      PyDict.get (orderIntentDisplayFieldNames.map fun name => (name, value name)) name =
        value name := by
    intro name hname value
    rw [PyDict.get, PyDict.get?_map_mk value hname, Option.getD_some]
  constructor
  · intro name hname
    have hname' : ∀ name ∈ plainNames, name ∈ orderIntentDisplayFieldNames := by decide
    rw [hget name (hname' name hname)]
    simp only [plainNames, List.mem_cons, List.not_mem_nil, or_false] at hname
    rcases hname with rfl | rfl | rfl | rfl | rfl | rfl | rfl | rfl | rfl | rfl | rfl | rfl | rfl |
      rfl | rfl | rfl | rfl | rfl <;> simp [PyDict.get, PyDict.get?]
  · rw [hget _ (by decide)]
    simp [PyDict.get, PyDict.get?]
  · rw [hget _ (by decide)]
    simp [PyDict.get, PyDict.get?]
  · refine ⟨n, hn, ?_⟩
    rw [hget _ (by decide)]
    simp [PyDict.get, PyDict.get?]
  · refine ⟨created, hcreated', ?_⟩
    rw [hget _ (by decide)]
    simp [PyDict.get, PyDict.get?]
  · refine ⟨requested, hrequested', ?_⟩
    rw [hget _ (by decide)]
    simp [PyDict.get, PyDict.get?]

/-- The mapping is built when the launch attempt and both times can be read. -/
theorem exists_console {n : Int} {created requested : String}
    (hattempt : launchAttemptOf (payload.get "launch_attempt") = .ok n)
    (hcreated : timestampWireStr (payload.get "created_at") = .ok created)
    (hrequested : timestampWireStr (requestedAtOf payload) = .ok requested) :
    ∃ audit, orderIntentWireDictForConsole payload = .ok audit := by
  rcases get_consolePayload_read payload with ⟨hcreated', hrequested', hattempt', -⟩
  unfold orderIntentWireDictForConsole
  rw [← consolePayload]
  generalize consolePayload payload = p at *
  simp [hcreated', hrequested', hattempt', launchAttemptOf_missing, hattempt, hcreated, hrequested,
    bind, Except.bind, pure, Except.pure]

end

/-! ## Field by field -/

section

variable {host : Host} {payload audit : PyDict} {m : OrderIntent}

/-- A text is its own text when it is trimmed. -/
theorem coerce_eq_iff {value : PyVal} {text : String} (h : protoString value = .ok text) :
    coerceDecimalString value = text ↔ ∀ own, value = .str own → Trimmed own := by
  cases value with
  | none =>
      obtain rfl := Except.ok.inj h
      simp [coerceDecimalString]
  | str own =>
      obtain rfl := Except.ok.inj h
      have hstrip : strip own = own ↔ Trimmed own :=
        ⟨fun heq => heq ▸ trimmed_strip own, strip_eq_self⟩
      simpa [coerceDecimalString, PyVal.text] using hstrip
  | _ => cases h

theorem mem_ownTexts {f : String × String} (h : f ∈ m.ownTexts) :
    f.1 ∈ defaultedFields ∨ f.1 ∈ coercedFields ∨ f.1 = "order_intent_id" := by
  simp only [OrderIntent.ownTexts, List.mem_cons, List.not_mem_nil, or_false] at h
  rcases h with rfl | rfl | rfl | rfl | rfl | rfl | rfl | rfl | rfl | rfl | rfl | rfl | rfl <;>
    simp [defaultedFields, coercedFields]

theorem exists_ownText (m : OrderIntent) {key : String} (h : key ∈ defaultedFields) :
    ∃ text, (key, text) ∈ m.ownTexts := by
  simp only [defaultedFields, List.mem_cons, List.not_mem_nil, or_false] at h
  rcases h with rfl | rfl | rfl | rfl | rfl | rfl | rfl | rfl | rfl <;>
    simp [OrderIntent.ownTexts]

/-- The texts of the message itself are told when those of the payload are trimmed. -/
theorem ownTexts_told_iff (hsent : Sent host payload m) (hshown : Shown payload audit) :
    (∀ f ∈ m.ownTexts, audit.get f.1 = .str f.2) ↔
      ∀ key ∈ defaultedFields, ∀ text, payload.get? key = some (.str text) → Trimmed text := by
  have hdefaulted : ∀ f ∈ m.ownTexts, f.1 ∈ defaultedFields → (audit.get f.1 = .str f.2 ↔
      ∀ text, payload.get? f.1 = some (.str text) → Trimmed text) := by
    intro f hf hkey
    have hplain : ∀ key ∈ defaultedFields, key ∈ plainNames := by decide
    rw [hshown.texts f.1 (hplain f.1 hkey), PyVal.str.injEq, coerce_eq_iff (hsent.texts f hf),
      trimmed_normalize_iff hkey]
  constructor
  · intro htold key hkey
    rcases exists_ownText m hkey with ⟨text, hmem⟩
    exact (hdefaulted _ hmem hkey).1 (htold _ hmem)
  · intro htrimmed f hf
    have hproto := hsent.texts f hf
    rcases mem_ownTexts hf with hkey | hkey | hkey
    · exact (hdefaulted f hf hkey).2 (htrimmed f.1 hkey)
    · have hplain : ∀ key ∈ coercedFields, key ∈ plainNames := by decide
      rw [hshown.texts f.1 (hplain f.1 hkey), PyVal.str.injEq, coerce_eq_iff hproto, PyDict.get,
        get?_coerced_normalize hkey]
      intro own hown
      cases hown
      exact trimmed_coerce _
    · rw [hkey, PyDict.get, get?_orderIntentId_normalize, Option.getD_some] at hproto
      rw [hkey, hshown.orderIntentId, ← Except.ok.inj hproto]

theorem get_routing_normalize (payload : PyDict) {key : String} (h : key ∈ routingFields) :
    (normalizeOmsSubmissionPayload payload).get key = payload.get key := by
  have hother : ∀ key ∈ routingFields, key ∉ ["replay_session_id", "strategy_context",
      "limit_price", "mode", "time_in_force", "order_intent_id", "requested_at", "occurred_at",
      "quantity", "stop_price"] ++ defaultedFields := by decide
  rw [PyDict.get, get?_normalize_other (hother key h), ← PyDict.get]

theorem hasRouting_normalize (payload : PyDict) :
    hasRouting (normalizeOmsSubmissionPayload payload) = hasRouting payload := by
  have hkeys : ∀ key ∈ ["runtime_id", "strategy_version_id", "tenant_id", "causation_id"],
      key ∈ routingFields := by decide
  unfold hasRouting
  rw [Bool.eq_iff_iff, List.any_eq_true, List.any_eq_true]
  refine exists_congr fun key => and_congr_right fun hkey => ?_
  rw [get_routing_normalize payload (hkeys key hkey)]

/-- The fields of the extension. -/
def extensionNames : List String :=
  ["correlation_id", "causation_id", "tenant_id", "account_id", "runtime_id", "worker_identity",
    "strategy_version_id", "job_id", "deployment_id"]

/-- The extension holds the texts of the payload. -/
theorem texts_optionalExtension {p : PyDict} {e : CommonMetadata}
    (h : optionalExtension p = some e) :
    e.texts = extensionNames.map fun name => (name, coerceDecimalString (p.get name)) := by
  simp only [optionalExtension] at h
  split at h
  · obtain rfl := Option.some.inj h
    rfl
  · cases h

theorem optionalExtension_isSome (p : PyDict) :
    (optionalExtension p).isSome = hasRouting p := by
  simp only [optionalExtension]
  split <;> simp_all

theorem launchAttempt_optionalExtension (p : PyDict) :
    ((optionalExtension p).elim 0 fun e => (e.launchAttempt : Int)) = 0 := by
  simp only [optionalExtension]
  split <;> rfl

/-- The texts of the extension are told, and those of a missing one when there are none. -/
theorem extension_told_iff (hsent : Sent host payload m) (hshown : Shown payload audit) :
    (∀ f ∈ m.extension.elim (routingFields.map fun name => (name, "")) CommonMetadata.texts,
      audit.get f.1 = .str f.2) ↔
      (hasRouting payload = true ∨
        ∀ key ∈ routingFields, coerceDecimalString (payload.get key) = "") := by
  have hrouting := optionalExtension_isSome (normalizeOmsSubmissionPayload payload)
  rw [← hsent.extension, hasRouting_normalize] at hrouting
  rw [← hrouting]
  cases he : m.extension with
  | some e =>
      have htexts := texts_optionalExtension (hsent.extension.symm.trans he)
      have hplain : ∀ name ∈ extensionNames, name ∈ plainNames := by decide
      simp only [Option.elim_some, Option.isSome_some, true_or, iff_true]
      intro f hf
      rw [htexts] at hf
      rcases List.mem_map.1 hf with ⟨name, hname, rfl⟩
      dsimp only
      exact hshown.texts name (hplain name hname)
  | none =>
      have hplain : ∀ key ∈ routingFields, key ∈ plainNames := by decide
      have hshow : ∀ key ∈ routingFields, (audit.get key = .str "" ↔
          coerceDecimalString (payload.get key) = "") := by
        intro key hkey
        rw [hshown.texts key (hplain key hkey), get_routing_normalize payload hkey,
          PyVal.str.injEq]
      simp only [Option.elim_none, Option.isSome_none, Bool.false_eq_true, false_or,
        List.mem_map]
      constructor
      · intro h key hkey
        exact (hshow key hkey).1 (h (key, "") ⟨key, hkey, rfl⟩)
      · rintro h f ⟨key, hkey, rfl⟩
        exact (hshow key hkey).2 (h key hkey)

/-- The modes agree for the three names of a mode. -/
theorem mode_told_iff (payload : PyDict) :
    modeStringForConsole payload = (modeEnum payload).name ↔
      modeText payload ∈ ["LIVE", "PAPER", "BACKTEST"] := by
  unfold modeStringForConsole modeEnum
  by_cases hlive : modeText payload = "LIVE"
  · simp [hlive, TradingEnvironment.name]
  by_cases hpaper : modeText payload = "PAPER"
  · simp [hpaper, TradingEnvironment.name]
  by_cases hbacktest : modeText payload = "BACKTEST"
  · simp [hbacktest, TradingEnvironment.name]
  by_cases hempty : modeText payload = ""
  · simp [hempty, TradingEnvironment.name]
  · simp [hlive, hpaper, hbacktest, hempty, TradingEnvironment.name]

theorem launchAttempt_told_iff (value : PyVal) :
    launchAttemptOf value = .ok 0 ↔ TellsNoAttempt value := by
  unfold launchAttemptOf TellsNoAttempt
  cases value.isNone with
  | true => simp
  | false =>
      rcases value.toInt with e | n
      · cases e <;> simp
      · simp

/-- The text of a value that is no datetime. -/
theorem timestampWireStr_of_not_datetime {value : PyVal} (h : datetimeOf value = none)
    (hnone : value ≠ .none) : timestampWireStr value = .ok (strip value.text) := by
  cases value <;> first | exact absurd rfl hnone | rfl | cases h

theorem tellsRequest_of_not_datetime {value : PyVal} (h : datetimeOf value = none)
    (hnone : value ≠ .none) : TellsRequest host value ↔
      (parseRfc3339Utc host value.text).map PyDateTime.instant = some host.now.instant := by
  cases value <;> first | exact absurd rfl hnone | exact Iff.rfl | cases h

theorem tellsCreation_of_not_datetime {value : PyVal} (h : datetimeOf value = none)
    (hnone : value ≠ .none) : TellsCreation host value ↔ strip value.text = "" := by
  cases value <;> first | exact absurd rfl hnone | exact Iff.rfl | cases h

theorem datetimeOf_eq_some {value : PyVal} {d : PyDateTime} (h : datetimeOf value = some d) :
    value = .datetime d := by
  cases value <;> first | cases h; rfl | cases h

/-- A result of the conversion is the only one. -/
theorem exists_ok_iff {x : Except PyException String} {text : String} {P : String → Prop}
    (h : x = .ok text) : (∃ other, x = .ok other ∧ P other) ↔ P text := by
  subst h
  constructor
  · rintro ⟨other, hother, hP⟩
    rwa [Except.ok.inj hother]
  · intro hP
    exact ⟨text, rfl, hP⟩

/-- The time of the request is told. -/
theorem requestedAt_told_iff {value : PyVal} {t : Int}
    (h : toProtoTimestamp host (datetimeOf value) = .ok t) :
    (∃ text, timestampWireStr value = .ok text ∧ ShowsInstant host (.str text) (some t)) ↔
      TellsRequest host value := by
  cases hkind : datetimeOf value with
  | some d =>
      obtain rfl := datetimeOf_eq_some hkind
      rw [hkind] at h
      exact shows_datetime_iff h
  | none =>
      -- the message has the time of sending
      have hnow : t = host.now.instant := by
        rw [hkind, toProtoTimestamp, Option.getD_none, astimezone_utc host host.now_utc] at h
        exact (Except.ok.inj h).symm
      by_cases hnone : value = .none
      · subst hnone
        have hblank : parseRfc3339Utc host "" = none := rfl
        rw [exists_ok_iff (x := timestampWireStr .none) rfl, showsInstant_some_iff, hblank]
        simp [TellsRequest]
      · rw [exists_ok_iff (timestampWireStr_of_not_datetime hkind hnone), showsInstant_some_iff,
          parseRfc3339Utc_strip, tellsRequest_of_not_datetime hkind hnone, hnow]

/-- The time of creation is told. -/
theorem createdAt_told_iff {value : PyVal} {created : Option Int}
    (h : match datetimeOf value with
      | some d => ∃ t, created = some t ∧ toProtoTimestamp host (some d) = .ok t
      | none => created = none) :
    (∃ text, timestampWireStr value = .ok text ∧ ShowsInstant host (.str text) created) ↔
      TellsCreation host value := by
  cases hkind : datetimeOf value with
  | some d =>
      obtain rfl := datetimeOf_eq_some hkind
      rw [hkind] at h
      rcases h with ⟨t, rfl, ht⟩
      exact shows_datetime_iff ht
  | none =>
      rw [hkind] at h
      subst h
      by_cases hnone : value = .none
      · subst hnone
        rw [exists_ok_iff (x := timestampWireStr .none) rfl, showsInstant_none_iff]
        simp [TellsCreation]
      · rw [exists_ok_iff (timestampWireStr_of_not_datetime hkind hnone), showsInstant_none_iff,
          tellsCreation_of_not_datetime hkind hnone]

end

/-! ## The mapping as a whole -/

section

variable {host : Host} {payload : PyDict} {m : OrderIntent}

/-- A mapping that is built agrees with the message for the payloads that are told. -/
theorem agrees_iff {audit : PyDict} (hsent : Sent host payload m) (hshown : Shown payload audit) :
    Agrees host audit m ↔ Told host payload := by
  have htexts := (ownTexts_told_iff hsent hshown).and (extension_told_iff hsent hshown)
  have hmode : audit.get "mode" = .str m.mode.name ↔
      modeText payload ∈ ["LIVE", "PAPER", "BACKTEST"] := by
    rw [hshown.mode, hsent.mode, PyVal.str.injEq, mode_told_iff]
  have hattempt : audit.get "launch_attempt" =
      .int (m.extension.elim 0 fun e => (e.launchAttempt : Int)) ↔
      TellsNoAttempt (payload.get "launch_attempt") := by
    rcases hshown.launchAttempt with ⟨n, hn, hget⟩
    have hzero : (m.extension.elim 0 fun e => (e.launchAttempt : Int)) = 0 := by
      rw [hsent.extension, launchAttempt_optionalExtension]
    rw [hget, hzero, PyVal.int.injEq, ← launchAttempt_told_iff, hn, Except.ok.injEq]
  have hrequested : ShowsInstant host (audit.get "requested_at") (some m.requestedAt) ↔
      TellsRequest host (requestedAtOf payload) := by
    rcases hshown.requestedAt with ⟨text, htext, hget⟩
    rw [← requestedAt_told_iff hsent.requestedAt, exists_ok_iff htext, hget]
  have hcreated : ShowsInstant host (audit.get "created_at") m.createdAt ↔
      TellsCreation host (payload.get "created_at") := by
    rcases hshown.createdAt with ⟨text, htext, hget⟩
    rw [← createdAt_told_iff hsent.createdAt, exists_ok_iff htext, hget]
  constructor
  · rintro ⟨htold, hmode', hattempt', hrequested', hcreated'⟩
    rw [OrderIntent.texts, List.forall_mem_append, htexts] at htold
    exact ⟨hmode.1 hmode', htold.1, hrequested.1 hrequested', hcreated.1 hcreated',
      hattempt.1 hattempt', htold.2⟩
  · rintro ⟨hmode', htrimmed, hrequested', hcreated', hattempt', hrouting⟩
    refine ⟨?_, hmode.2 hmode', hattempt.2 hattempt', hrequested.2 hrequested',
      hcreated.2 hcreated'⟩
    rw [OrderIntent.texts, List.forall_mem_append, htexts]
    exact ⟨htrimmed, hrouting⟩

/-- The audit mapping is built and agrees with the message exactly for the payloads that are
told. -/
theorem audit_agrees_iff (h : orderIntentRequest host payload = .ok m) :
    (∃ audit, orderIntentWireDictForConsole payload = .ok audit ∧ Agrees host audit m) ↔
      Told host payload := by
  have hsent := sent_of_request h
  constructor
  · rintro ⟨audit, haudit, hagrees⟩
    exact (agrees_iff hsent (shown_of_console haudit)).1 hagrees
  · intro htold
    rcases (requestedAt_told_iff hsent.requestedAt).2 htold.requestedAt with ⟨_, hrequested, -⟩
    rcases (createdAt_told_iff hsent.createdAt).2 htold.createdAt with ⟨_, hcreated, -⟩
    rcases exists_console ((launchAttempt_told_iff _).2 htold.launchAttempt) hcreated hrequested
      with ⟨audit, haudit⟩
    exact ⟨audit, haudit, (agrees_iff hsent (shown_of_console haudit)).2 htold⟩

/-- The first of January 1970. -/
def epochUtc : PyDateTime :=
  ⟨epochWall, some 0, PyDateTime.epochWall_range, PyDateTime.utc_offset_range⟩

theorem utcoffset_epochUtc : epochUtc.utcoffset = some 0 :=
  rfl

/-- A host in UTC at the epoch. -/
def epochHost : Host :=
  ⟨fun _ => 0, epochUtc, utcoffset_epochUtc⟩

/-- A live order at the epoch. -/
def liveOrder : PyDict :=
  [("mode", .str "live"), ("quantity", .int 1), ("requested_at", .datetime epochUtc),
    ("created_at", .datetime epochUtc)]

theorem liveOrder_told : Told epochHost liveOrder := by
  have hmissing : ∀ key ∈ defaultedFields, (liveOrder.get? key).isNone := by decide +kernel
  constructor
  · decide +kernel
  · intro key hkey text htext
    rw [Option.isNone_iff_eq_none.1 (hmissing key hkey)] at htext
    cases htext
  · exact fun _ => rfl
  · exact fun _ => rfl
  · exact .inl rfl
  · exact .inr (by decide +kernel)

theorem liveOrder_agrees :
    ∃ m, orderIntentRequest epochHost liveOrder = .ok m ∧
      ∃ audit, orderIntentWireDictForConsole liveOrder = .ok audit ∧ Agrees epochHost audit m := by
  obtain ⟨m, hm⟩ : ∃ m, orderIntentRequest epochHost liveOrder = .ok m := ⟨_, rfl⟩
  exact ⟨m, hm, (audit_agrees_iff hm).2 liveOrder_told⟩

/-- An order without a mode: the console shows a backtest, and the message is one for paper. -/
theorem missing_mode_disagrees :
    ¬ ∀ (host : Host) (payload : PyDict) (m : OrderIntent),
      orderIntentRequest host payload = .ok m →
        ∃ audit, orderIntentWireDictForConsole payload = .ok audit ∧ Agrees host audit m := by
  intro h
  obtain ⟨m, hm⟩ : ∃ m, orderIntentRequest epochHost
      [("quantity", .int 1), ("requested_at", .datetime epochUtc)] = .ok m := ⟨_, rfl⟩
  rcases h _ _ _ hm with ⟨audit, haudit, hagrees⟩
  have hmode := hagrees.mode
  rw [(shown_of_console haudit).mode, (sent_of_request hm).mode, PyVal.str.injEq] at hmode
  revert hmode
  decide +kernel

end

end Transport
end StrategyWorker
