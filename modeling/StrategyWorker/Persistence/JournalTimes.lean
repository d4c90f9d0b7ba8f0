import StrategyWorker.Library.PyJsonUnique
import StrategyWorker.Persistence.JournalRecords
import StrategyWorker.Persistence.LastHeartbeat

/-!
# The times of an order intent in its row and in its payload

The journal keeps the times of an order intent twice: as columns of the row, and
in the payload that the row holds as JSON.  The columns read a naive time as UTC.
The payload converts every time with the zone of the host, so that a naive one
denotes the same instant in both places only where that zone is UTC.

Main results:

- Theorem {lit}`denoted_datetime_iff`: when the converted time denotes the
  instant of the column.
- Theorem {lit}`times_agree_iff`: the columns denote the instants of the values
  in the payload exactly when no time that is kept is a naive one that the host
  shifts.
- Theorem {lit}`naive_created_at_disagrees`: a naive time on a host one hour ahead
  of UTC.
-/

namespace StrategyWorker
namespace Persistence

open Library Events
open PyText PyJson

/-! ## Instants -/

/-- The instant that a value denotes, as {lit}`_parse_dt(value)` reads it. -/
def denoted (v : PyVal) : Option Int :=
  (parseDt v).map PyDateTime.instant

/-- The text of a time in UTC denotes its instant. -/
theorem denoted_wireText {utc : PyDateTime} (hutc : utc.utcoffset = some 0) :
    denoted (.str (wireText utc)) = some utc.instant := by
  have htext : wireText utc = String.ofList (utc.isoParts.body ++ ['Z']) :=
    PyDateTime.replace_offset hutc
  have hstrip : strip (wireText utc) = wireText utc := by
    rw [htext]
    exact strip_eq_self (PyDateTime.trimmed_zulu utc)
  have hne : wireText utc ≠ "" := by
    intro hempty
    have hlist := congrArg String.toList (htext.symm.trans hempty)
    rw [String.toList_ofList] at hlist
    simp at hlist
  have hparse : Integration.parseIsoText (wireText utc) = some utc.naiveAsUtc := by
    rw [Integration.parseIsoText, hstrip, if_neg hne, replaceZulu_wireText ⟨utc, hutc⟩,
      PyDateTime.fromisoformat_isoformat hutc, Option.map_some]
  rw [denoted, parseDt, hparse, Option.map_some, PyDateTime.instant_naiveAsUtc]

theorem astimezone_eq_ok {sink : RuntimeJournalSink} {d utc : PyDateTime}
    (h : astimezone sink d = .ok utc) :
    utc.utcoffset = some 0 ∧
      utc.instant = d.wall - d.utcoffset.getD (sink.zone d.wall) - epochWall := by
  unfold astimezone at h
  split at h
  · rename_i utc' hwall
    obtain rfl := Except.ok.inj h
    rcases PyDateTime.ofWall?_eq_some hwall with ⟨hsame, hutc⟩
    refine ⟨hutc, ?_⟩
    rw [PyDateTime.instant, hsame, hutc, Option.getD_some, sub_zero]
  · cases h

/-- The journal's columns read a naive time as UTC. -/
theorem instant_normalizeUtc {sink : OrderJournalSink} {d utc : PyDateTime}
    (h : sink.normalizeUtc d = .ok utc) : utc.instant = d.instant := by
  unfold OrderJournalSink.normalizeUtc at h
  split at h
  · obtain rfl := Except.ok.inj h
    exact PyDateTime.instant_naiveAsUtc d
  · rename_i haware
    rw [(astimezone_eq_ok h).2, PyDateTime.instant]
    cases hoffset : d.utcoffset with
    | none => simp [hoffset] at haware
    | some offset => rfl

/-- A naive time at which the zone of the host is not UTC. -/
def Shifts (sink : RuntimeJournalSink) : PyVal → Prop
  | .datetime d => d.utcoffset = none ∧ sink.zone d.wall ≠ 0
  | _ => False

instance (sink : RuntimeJournalSink) (v : PyVal) : Decidable (Shifts sink v) := by
  cases v <;> unfold Shifts <;> infer_instance

/-- A time in the payload denotes the instant that it has as UTC, unless the host shifts it. -/
theorem denoted_datetime_iff {sink : RuntimeJournalSink} {d : PyDateTime} {w : PyVal}
    (h : jsonSafe sink (.datetime d) = .ok w) :
    denoted w = some d.instant ↔ ¬ Shifts sink (.datetime d) := by
  rw [jsonSafe, bind_eq_ok] at h
  rcases h with ⟨text, htext, hw⟩
  obtain rfl := Except.ok.inj hw
  rcases bind_eq_ok.1 htext with ⟨utc, hutc, hw⟩
  obtain rfl := Except.ok.inj hw
  rcases astimezone_eq_ok hutc with ⟨hzero, hinstant⟩
  rw [denoted_wireText hzero, Option.some_inj, hinstant, PyDateTime.instant, Shifts]
  cases hoffset : d.utcoffset with
  | none =>
      simp only [Option.getD_none, true_and, not_not]
      omega
  | some offset => simp

/-- The text of a time is a text. -/
theorem jsonSafe_datetime_str {sink : RuntimeJournalSink} {d : PyDateTime} {w : PyVal}
    (h : jsonSafe sink (.datetime d) = .ok w) : ∃ s, w = .str s ∧ s ≠ "" := by
  rw [jsonSafe, bind_eq_ok] at h
  rcases h with ⟨text, htext, hw⟩
  obtain rfl := Except.ok.inj hw
  rcases bind_eq_ok.1 htext with ⟨utc, hutc, hw⟩
  obtain rfl := Except.ok.inj hw
  refine ⟨_, rfl, fun hempty => ?_⟩
  have hdenoted := denoted_wireText (astimezone_eq_ok hutc).1
  rw [hempty] at hdenoted
  have hnone : denoted (.str "") = none := rfl
  rw [hnone] at hdenoted
  cases hdenoted

/-! ## Columns and payload -/

/-- The times that an order intent may carry: {lit}`requested_at` and the legacy
{lit}`occurred_at` are datetimes, {lit}`created_at` is a datetime or a text. -/
structure HasTimes (payload : PyDict) : Prop where
  createdAt : payload.get "created_at" = .none ∨ (∃ s, payload.get "created_at" = .str s) ∨
    ∃ d, payload.get "created_at" = .datetime d
  requestedAt : isNoneOrEmpty (payload.get "requested_at") = true ∨
    ∃ d, payload.get "requested_at" = .datetime d
  occurredAt : payload.get "occurred_at" = .none ∨ ∃ d, payload.get "occurred_at" = .datetime d

/-- The time of the request: {lit}`requested_at`, else {lit}`occurred_at`. -/
def requestTime (payload : PyDict) : PyVal :=
  (payload.get "requested_at").orElse (payload.get "occurred_at")

/-- The columns of a row denote the instants of the values in the payload. -/
structure TimesAgree (row : OrderIntentRow) (stored : PyDict) : Prop where
  createdAt : denoted (stored.get "created_at") =
    row.createdAt.map fun ts => ts.datetime.instant
  requestedAt : ∀ s, stored.get "requested_at" = .str s → s ≠ "" →
    denoted (.str s) = some row.requestedAt.datetime.instant

theorem isNoneOrEmpty_iff {v : PyVal} :
    isNoneOrEmpty v = true ↔ v = .none ∨ v = .str "" := by
  cases v <;> simp [isNoneOrEmpty]

/-- The safe form of a field, or of a missing one. -/
theorem get_jsonSafeFields {sink : RuntimeJournalSink} {fields ws : PyDict}
    (h : jsonSafeFields sink fields = .ok ws) (key : String) :
    jsonSafe sink (fields.get key) = .ok (ws.get key) := by
  rcases get?_jsonSafeFields h key with ⟨hsome, hnone⟩
  unfold PyDict.get
  cases hget : fields.get? key with
  | none =>
      rw [hnone hget]
      rfl
  | some v =>
      rcases hsome v hget with ⟨w, hw, hws⟩
      rw [hws]
      exact hw

/-- The column {lit}`created_at` agrees with the payload unless the host shifts the time. -/
theorem created_agrees_iff {sink : OrderJournalSink} {payload safe : PyDict}
    {created : Option PyDateTime} (htimes : HasTimes payload)
    (hsafe : jsonSafeFields sink.toRuntimeJournalSink payload = .ok safe)
    (hcreated : sink.createdAt payload = .ok created) :
    denoted (safe.get "created_at") = created.map PyDateTime.instant ↔
      ¬ Shifts sink.toRuntimeJournalSink (payload.get "created_at") := by
  have hfield := get_jsonSafeFields hsafe "created_at"
  unfold OrderJournalSink.createdAt at hcreated
  rcases htimes.createdAt with hraw | ⟨s, hraw⟩ | ⟨d, hraw⟩ <;> rw [hraw] at hfield hcreated ⊢
  · obtain rfl := Except.ok.inj hcreated
    rw [← Except.ok.inj hfield]
    exact iff_of_true rfl not_false
  · obtain rfl := Except.ok.inj hcreated
    rw [← Except.ok.inj hfield]
    exact iff_of_true rfl not_false
  · dsimp only at hcreated
    cases hutc : sink.normalizeUtc d with
    | error e =>
        rw [hutc] at hcreated
        cases hcreated
    | ok utc =>
        rw [hutc] at hcreated
        obtain rfl := Except.ok.inj hcreated
        rw [Option.map_some, instant_normalizeUtc hutc]
        exact denoted_datetime_iff hfield

/-- The value that the payload keeps as the time of the request. -/
def keptRequest (safe : PyDict) : PyVal :=
  PyDict.get (migrateOccurredAt (safe.get "occurred_at") (safe.pop "occurred_at")) "requested_at"

theorem keptRequest_eq (safe : PyDict) :
    keptRequest safe =
      if (safe.get "occurred_at").isNone = false ∧
          isNoneOrEmpty (safe.get "requested_at") = true then safe.get "occurred_at"
      else safe.get "requested_at" := by
  have hpop : PyDict.get (safe.pop "occurred_at") "requested_at" = safe.get "requested_at" := by
    rw [PyDict.get, PyDict.get?_pop, if_neg (by decide)]
    rfl
  unfold keptRequest migrateOccurredAt
  rw [hpop]
  simp only [Bool.not_eq_true]
  split
  · rw [PyDict.get, PyDict.get?_set, if_pos rfl]
    rfl
  · exact hpop

/-- The column {lit}`requested_at` agrees with the payload unless the host shifts the time. -/
theorem requested_agrees_iff {sink : OrderJournalSink} {payload safe : PyDict}
    {now : UtcDateTime} {requested : PyDateTime} (htimes : HasTimes payload)
    (hsafe : jsonSafeFields sink.toRuntimeJournalSink payload = .ok safe)
    (hrequested : sink.requestedAt payload now = .ok requested) :
    (∀ s, keptRequest safe = .str s → s ≠ "" → denoted (.str s) = some requested.instant) ↔
      ¬ Shifts sink.toRuntimeJournalSink (requestTime payload) := by
  have hfield := get_jsonSafeFields hsafe "requested_at"
  have hlegacy := get_jsonSafeFields hsafe "occurred_at"
  have hkept (d : PyDateTime) (htime : requestTime payload = .datetime d)
      (hsafeTime : jsonSafe sink.toRuntimeJournalSink (.datetime d) = .ok (keptRequest safe)) :
      (∀ s, keptRequest safe = .str s → s ≠ "" → denoted (.str s) = some requested.instant) ↔
        ¬ Shifts sink.toRuntimeJournalSink (requestTime payload) := by
    have hcolumn : requested.instant = d.instant := by
      unfold OrderJournalSink.requestedAt at hrequested
      rw [← requestTime, htime] at hrequested
      exact instant_normalizeUtc hrequested
    rcases jsonSafe_datetime_str hsafeTime with ⟨s, hs, hne⟩
    rw [htime, hcolumn, ← denoted_datetime_iff hsafeTime, hs]
    refine ⟨fun h => h s rfl hne, fun h t ht _ => ?_⟩
    rw [← ht]
    exact h
  rcases htimes.requestedAt with hraw | ⟨d, hraw⟩
  · have hsame : safe.get "requested_at" = payload.get "requested_at" ∧
        (payload.get "requested_at").truthy = false := by
      rcases isNoneOrEmpty_iff.1 hraw with heq | heq <;> rw [heq] at hfield ⊢ <;>
        exact ⟨(Except.ok.inj hfield).symm, rfl⟩
    rcases htimes.occurredAt with hraw' | ⟨d, hraw'⟩
    · have hnone : safe.get "occurred_at" = .none := by
        rw [hraw'] at hlegacy
        exact (Except.ok.inj hlegacy).symm
      have htime : requestTime payload = .none := by
        rw [requestTime, PyVal.orElse, hsame.2, hraw']
        rfl
      rw [keptRequest_eq, hnone, if_neg (by simp [PyVal.isNone]), hsame.1, htime]
      refine iff_of_true (fun s hs hne => ?_) not_false
      rw [hs] at hraw
      exact absurd (by simpa [isNoneOrEmpty] using hraw) hne
    · rw [hraw'] at hlegacy
      have htime : requestTime payload = .datetime d := by
        rw [requestTime, PyVal.orElse, hsame.2, hraw']
        rfl
      rcases jsonSafe_datetime_str hlegacy with ⟨s, hs, -⟩
      have hkeptRequest : keptRequest safe = safe.get "occurred_at" := by
        rw [keptRequest_eq, hs, if_pos ⟨rfl, by rw [hsame.1, hraw]⟩]
      exact hkept d htime (hkeptRequest ▸ hlegacy)
  · rw [hraw] at hfield
    have htime : requestTime payload = .datetime d := by
      rw [requestTime, hraw]
      rfl
    rcases jsonSafe_datetime_str hfield with ⟨s, hs, hne⟩
    have hkeptRequest : keptRequest safe = safe.get "requested_at" := by
      rw [keptRequest_eq, hs, if_neg]
      rintro ⟨-, hempty⟩
      exact hne (by simpa [isNoneOrEmpty] using hempty)
    exact hkept d htime (hkeptRequest ▸ hfield)

/-! ## The text of the payload -/

theorem keys_jsonSafeFields {sink : RuntimeJournalSink} {fields ws : PyDict}
    (h : jsonSafeFields sink fields = .ok ws) : ws.map Prod.fst = fields.map Prod.fst := by
  induction fields generalizing ws with
  | nil =>
      obtain rfl := Except.ok.inj h
      rfl
  | cons f fields ih =>
      rcases f with ⟨name, value⟩
      simp only [jsonSafeFields, bind_eq_ok] at h
      rcases h with ⟨w, -, ws', hws, h⟩
      obtain rfl := Except.ok.inj h
      rw [List.map_cons, List.map_cons, ih hws]

theorem nodup_storedPayload (sink : OrderJournalSink) {safe : PyDict}
    (h : (safe.map Prod.fst).Nodup) : ((sink.storedPayload safe).map Prod.fst).Nodup := by
  have hdropped : ∀ (keys : List String) (out : PyDict), (out.map Prod.fst).Nodup →
      ((keys.foldl PyDict.pop out).map Prod.fst).Nodup := by
    intro keys
    induction keys with
    | nil => exact fun out hout => hout
    | cons key keys ih => exact fun out hout => ih (out.pop key) (PyDict.nodup_pop hout key)
  have hmigrated : ((migrateOccurredAt (safe.get "occurred_at")
      (safe.pop "occurred_at")).map Prod.fst).Nodup := by
    unfold migrateOccurredAt
    split
    · exact PyDict.nodup_set (PyDict.nodup_pop h _) _ _
    · exact PyDict.nodup_pop h _
  have hcanonical : ((canonicalPayload safe).map Prod.fst).Nodup := by
    unfold canonicalPayload migrateClientIntentId
    dsimp only
    split
    · exact PyDict.nodup_set (PyDict.nodup_pop (hdropped _ _ hmigrated) _) _ _
    · exact PyDict.nodup_pop (hdropped _ _ hmigrated) _
  have hjob : ((sink.withJobId (canonicalPayload safe)).2.map Prod.fst).Nodup := by
    unfold OrderJournalSink.withJobId
    split
    · exact PyDict.nodup_set hcanonical _ _
    · exact hcanonical
  unfold OrderJournalSink.storedPayload withSymbol
  split
  · split
    · split
      · exact hjob
      · exact PyDict.nodup_set hjob _ _
    · exact hjob
  · exact hjob

/-- A payload that is written as JSON. -/
structure WrittenAs (text : String) (payload : PyDict) : Prop where
  keys : (payload.map Prod.fst).Nodup
  json : toJson payload = .ok text

theorem encode_of_toJson {payload : PyDict} {text : String} (h : toJson payload = .ok text) :
    PyJson.encode ⟨true, fun _ => .error .typeError⟩ (.dict payload) = .ok text :=
  WorkerTables.mapError_eq_ok.1 h

theorem get?_of_get_eq {d : PyDict} {key : String} {v : PyVal} (h : d.get key = v)
    (hne : v ≠ .none) : d.get? key = some v := by
  unfold PyDict.get at h
  cases hget : d.get? key with
  | none =>
      rw [hget] at h
      exact absurd h.symm hne
  | some w =>
      rw [hget] at h
      exact congrArg some h

namespace WrittenAs

variable {text : String} {payload payload' : PyDict}

/-- Payloads with one text hold the same texts. -/
theorem get_str (h : WrittenAs text payload) (h' : WrittenAs text payload') {key s : String}
    (hget : payload.get key = .str s) : payload'.get key = .str s := by
  have hsome := get?_of_get_eq hget (by simp)
  rcases PyJson.fields_of_encode_eq (encode_of_toJson h.json) (encode_of_toJson h'.json) h.keys
    h'.keys hsome with ⟨w, t, hw, hv, ht⟩
  have htext : quote s = t := Except.ok.inj hv
  rw [← htext] at ht
  have hstr : w = .str s := PyJson.eq_str_of_encode (fun v t hvt => by cases hvt) ht
  rw [PyDict.get, hw, Option.getD_some, hstr]

/-- They hold no datetime. -/
theorem get_ne_datetime (h : WrittenAs text payload) (key : String) (d : PyDateTime) :
    payload.get key ≠ .datetime d := by
  intro hget
  have hmem := (PyDict.get?_eq_some_iff h.keys).1 (get?_of_get_eq hget (by simp))
  have hencode := encode_of_toJson h.json
  rw [PyJson.encode] at hencode
  rcases bind_eq_ok.1 hencode with ⟨texts, htexts, -⟩
  rcases PyJson.exists_text_of_mem htexts hmem with ⟨t, ht⟩
  rw [PyJson.encode] at ht
  rcases bind_eq_ok.1 ht with ⟨u, hu, -⟩
  cases hu

theorem denoted_get (h : WrittenAs text payload) (h' : WrittenAs text payload') (key : String) :
    denoted (payload.get key) = denoted (payload'.get key) := by
  have hnone {v : PyVal} (hstr : ∀ s, v ≠ .str s) (hdatetime : ∀ d, v ≠ .datetime d) :
      denoted v = none := by
    unfold denoted parseDt
    split
    · rename_i d
      exact absurd rfl (hdatetime d)
    · rename_i s
      exact absurd rfl (hstr s)
    · rfl
  by_cases htext : ∃ s, payload.get key = .str s
  · rcases htext with ⟨s, hs⟩
    rw [hs, h.get_str h' hs]
  · have hstr : ∀ s, payload.get key ≠ .str s := fun s hs => htext ⟨s, hs⟩
    have hstr' : ∀ s, payload'.get key ≠ .str s := fun s hs => hstr s (h'.get_str h hs)
    rw [hnone hstr (h.get_ne_datetime key), hnone hstr' (h'.get_ne_datetime key)]

theorem timesAgree_iff (h : WrittenAs text payload) (h' : WrittenAs text payload')
    (row : OrderIntentRow) : TimesAgree row payload ↔ TimesAgree row payload' := by
  have hcongr : ∀ {p q : PyDict}, WrittenAs text p → WrittenAs text q →
      TimesAgree row p → TimesAgree row q := by
    intro p q hp hq hagree
    refine ⟨?_, fun s hs hne => hagree.requestedAt s (hq.get_str hp hs) hne⟩
    rw [hq.denoted_get hp]
    exact hagree.createdAt
  exact ⟨hcongr h h', hcongr h' h⟩

end WrittenAs

/-! ## Agreement -/

theorem orderIntentRow_eq_ok {record : OrderIntentJournalRecord} {row : OrderIntentRow}
    (h : orderIntentRow record = .ok row) :
    record.createdAt.mapM wireTs = .ok row.createdAt ∧ toJson record.payload = .ok row.payloadJson ∧
      wireTs record.requestedAt = .ok row.requestedAt := by
  simp only [orderIntentRow, bind_eq_ok] at h
  rcases h with ⟨created, hcreated, payloadJson, hpayload, resultJson, -, requested, hrequested, h⟩
  obtain rfl := Except.ok.inj h
  exact ⟨hcreated, hpayload, hrequested⟩

/-- The columns of a record's row denote its times. -/
theorem instants_of_row {record : OrderIntentJournalRecord} {row : OrderIntentRow}
    (h : orderIntentRow record = .ok row) :
    row.createdAt.map (fun ts => ts.datetime.instant) = record.createdAt.map PyDateTime.instant ∧
      row.requestedAt.datetime.instant = record.requestedAt.instant := by
  rcases orderIntentRow_eq_ok h with ⟨hcreated, -, hrequested⟩
  refine ⟨?_, instant_wireTs hrequested⟩
  cases hdate : record.createdAt with
  | none =>
      rw [hdate] at hcreated
      rw [← Except.ok.inj hcreated]
      rfl
  | some d =>
      rw [hdate] at hcreated
      rcases bind_eq_ok.1 hcreated with ⟨ts, hts, hrow⟩
      rw [← Except.ok.inj hrow, Option.map_some, Option.map_some, instant_wireTs hts]

section Record

variable {sink : OrderJournalSink} {source : String} {payload result line : PyDict}
  {now : UtcDateTime} {record : OrderIntentJournalRecord} {row : OrderIntentRow}

/-- The row holds the payload of the record. -/
theorem writtenAs_of_row (hkeys : (payload.map Prod.fst).Nodup)
    (hrecord : sink.orderIntentRecord source payload result now = .ok (.orderIntent record line))
    (hrow : orderIntentRow record = .ok row) : WrittenAs row.payloadJson record.payload := by
  rcases orderIntentRecord_eq_ok hrecord with ⟨record', line', safe, heq, hsafe, hpayload, -⟩
  cases heq
  refine ⟨?_, (orderIntentRow_eq_ok hrow).2.1⟩
  rw [hpayload]
  refine nodup_storedPayload sink ?_
  rw [keys_jsonSafeFields hsafe]
  exact hkeys

/-- The columns agree with the payload of the record unless the host shifts a time. -/
theorem timesAgree_record_iff (htimes : HasTimes payload)
    (hrecord : sink.orderIntentRecord source payload result now = .ok (.orderIntent record line))
    (hrow : orderIntentRow record = .ok row) :
    TimesAgree row record.payload ↔
      ¬ Shifts sink.toRuntimeJournalSink (payload.get "created_at") ∧
        ¬ Shifts sink.toRuntimeJournalSink (requestTime payload) := by
  rcases orderIntentRecord_eq_ok hrecord with ⟨record', line', safe, heq, hsafe, hpayload, -,
    hrequested, hcreated, -, -⟩
  cases heq
  rcases instants_of_row hrow with ⟨hcreatedRow, hrequestedRow⟩
  have hcreatedAt : record.payload.get "created_at" = safe.get "created_at" := by
    have hmigrated : (migrateOccurredAt (safe.get "occurred_at")
        (safe.pop "occurred_at")).get? "created_at" = safe.get? "created_at" := by
      unfold migrateOccurredAt
      split
      · rw [PyDict.get?_set, if_neg (by decide), PyDict.get?_pop, if_neg (by decide)]
      · rw [PyDict.get?_pop, if_neg (by decide)]
    rw [hpayload, PyDict.get, get?_storedPayload_canonical sink safe (by decide) (by decide),
      get?_canonicalPayload_migrated safe (by decide), hmigrated]
    rfl
  have hrequestedAt : record.payload.get "requested_at" = keptRequest safe := by
    rw [hpayload, PyDict.get, get?_storedPayload_canonical sink safe (by decide) (by decide),
      get?_canonicalPayload_migrated safe (by decide)]
    rfl
  rw [← created_agrees_iff htimes hsafe hcreated, ← requested_agrees_iff htimes hsafe hrequested]
  constructor
  · rintro ⟨hc, hr⟩
    rw [hcreatedAt, hcreatedRow] at hc
    rw [hrequestedAt, hrequestedRow] at hr
    exact ⟨hc, hr⟩
  · rintro ⟨hc, hr⟩
    constructor
    · rw [hcreatedAt, hcreatedRow]
      exact hc
    · rw [hrequestedAt, hrequestedRow]
      exact hr

/-- The columns of an order intent's row denote the instants of the values in the payload that the
row holds as JSON, unless the host shifts a time that is kept. -/
theorem times_agree_iff {stored : PyDict} (hkeys : (payload.map Prod.fst).Nodup)
    (htimes : HasTimes payload)
    (hrecord : sink.orderIntentRecord source payload result now = .ok (.orderIntent record line))
    (hrow : orderIntentRow record = .ok row) (hstored : WrittenAs row.payloadJson stored) :
    TimesAgree row stored ↔
      ¬ Shifts sink.toRuntimeJournalSink (payload.get "created_at") ∧
        ¬ Shifts sink.toRuntimeJournalSink (requestTime payload) := by
  rw [hstored.timesAgree_iff (writtenAs_of_row hkeys hrecord hrow)]
  exact timesAgree_record_iff htimes hrecord hrow

end Record

/-! ## A host ahead of UTC -/

/-- Midnight of the first of January 2024. -/
def newYear (utcoffset : Option Int) (h : ∀ o ∈ utcoffset, -microsPerDay < o ∧ o < microsPerDay) :
    PyDateTime :=
  ⟨738885 * microsPerDay, utcoffset, by decide, h⟩

/-- A journal on a host one hour ahead of UTC. -/
def aheadSink : OrderJournalSink where
  runtimeId := "rt-1"
  launchAttempt := 1
  zone := fun _ => 3600000000
  launchJobId := none

/-- An order intent of a bar. -/
def barIntent (d : PyDateTime) : PyDict :=
  [("symbol", .str "ES"), ("created_at", .datetime d)]

theorem keys_barIntent (d : PyDateTime) : ((barIntent d).map Prod.fst).Nodup := by
  have hnames : (barIntent d).map Prod.fst = ["symbol", "created_at"] := rfl
  rw [hnames]
  decide

theorem hasTimes_barIntent (d : PyDateTime) : HasTimes (barIntent d) where
  createdAt := .inr (.inr ⟨d, rfl⟩)
  requestedAt := .inl rfl
  occurredAt := .inl rfl

/-- An order intent whose time can be converted is journaled. -/
theorem exists_barRow {d created utc : PyDateTime} (hcreated : aheadSink.normalizeUtc d = .ok created)
    (hutc : created.utcoffset = some 0)
    (hsafe : astimezone aheadSink.toRuntimeJournalSink d = .ok utc) :
    ∃ record line row,
      aheadSink.orderIntentRecord "paper" (barIntent d) [] clock = .ok (.orderIntent record line) ∧
        orderIntentRow record = .ok row := by
  have hbuilt : ∃ record line, aheadSink.orderIntentRecord "paper" (barIntent d) [] clock =
      .ok (.orderIntent record line) ∧ ∃ row, orderIntentRow record = .ok row := by
    refine exists_orderIntentRecord "paper" ⟨clock.val, rfl, clock.property⟩
      ⟨some created, ?_, ?_⟩ ?_ ⟨[], rfl⟩
    · have hraw : (barIntent d).get "created_at" = .datetime d := rfl
      unfold OrderJournalSink.createdAt
      rw [hraw]
      dsimp only
      rw [hcreated]
      rfl
    · intro c hc
      obtain rfl := Option.some.inj hc
      exact hutc
    · have hdate : jsonSafe aheadSink.toRuntimeJournalSink (.datetime d) =
          .ok (.str (wireText utc)) := by
        rw [jsonSafe, wireIso, hsafe]
        rfl
      refine exists_jsonSafeFields fun f hf => ?_
      rcases List.mem_cons.1 hf with rfl | hf
      · exact ⟨.str "ES", rfl⟩
      · obtain rfl := List.mem_singleton.1 hf
        exact ⟨_, hdate⟩
  rcases hbuilt with ⟨record, line, hrecord, row, hrow⟩
  exact ⟨record, line, row, hrecord, hrow⟩

/-- Midnight of the first of January 2024 in UTC, and the hour before. -/
def newYearUtc : PyDateTime :=
  newYear (some 0) PyDateTime.utc_offset_range

def newYearAhead : PyDateTime :=
  ⟨738885 * microsPerDay - 3600000000, some 0, by decide, PyDateTime.utc_offset_range⟩

/-- A time with an offset denotes the same instant in the column and in the payload. -/
theorem aware_created_at_agrees :
    ∃ record line row, aheadSink.orderIntentRecord "paper"
        (barIntent (newYear (some 3600000000) (by decide))) [] clock =
          .ok (.orderIntent record line) ∧
      orderIntentRow record = .ok row ∧ TimesAgree row record.payload := by
  have hzone : astimezone aheadSink.toRuntimeJournalSink
      (newYear (some 3600000000) (by decide)) = .ok newYearAhead := by decide +kernel
  rcases exists_barRow (d := newYear (some 3600000000) (by decide)) hzone rfl hzone with
    ⟨record, line, row, hrecord, hrow⟩
  refine ⟨record, line, row, hrecord, hrow, ?_⟩
  refine (times_agree_iff (keys_barIntent _) (hasTimes_barIntent _) hrecord hrow
    (writtenAs_of_row (keys_barIntent _) hrecord hrow)).2 ⟨?_, ?_⟩
  · rintro ⟨hnaive, -⟩
    cases hnaive
  · exact not_false

/-- A naive one does not: the column is midnight in UTC, the payload has the hour before. -/
theorem naive_created_at_disagrees :
    ∃ record line row,
      aheadSink.orderIntentRecord "paper" (barIntent (newYear none (by decide))) [] clock =
          .ok (.orderIntent record line) ∧
      orderIntentRow record = .ok row ∧ WrittenAs row.payloadJson record.payload ∧
        ¬ TimesAgree row record.payload := by
  have hzone : astimezone aheadSink.toRuntimeJournalSink (newYear none (by decide)) =
      .ok newYearAhead := by decide +kernel
  have hcolumn : aheadSink.normalizeUtc (newYear none (by decide)) = .ok newYearUtc := rfl
  rcases exists_barRow hcolumn rfl hzone with ⟨record, line, row, hrecord, hrow⟩
  refine ⟨record, line, row, hrecord, hrow, writtenAs_of_row (keys_barIntent _) hrecord hrow, ?_⟩
  rw [timesAgree_record_iff (hasTimes_barIntent _) hrecord hrow]
  rintro ⟨hshift, -⟩
  refine hshift ⟨rfl, ?_⟩
  decide

end Persistence
end StrategyWorker
