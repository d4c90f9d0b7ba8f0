import StrategyWorker.Domain.WorkerIdentity
import StrategyWorker.Library.Assoc
import StrategyWorker.Library.PyObject
import StrategyWorker.Persistence.HeartbeatHistory

/-!
# Entries of the diagnostic recorder

{lit}`diagnostic_recorder.py` keeps the identity of the worker inside of the
details: {lit}`_serialize_details` sets a key of its own there, which
{lit}`_deserialize_details` takes out again.  The constructor of an entry strips
its texts and refuses blank ones, also for the rows that are read.

Main results:

- Theorem {lit}`make_eq_ok`: what the constructor makes of its arguments.
- Theorem {lit}`exists_deserializeDetails`: the identity is read back.
- Theorem {lit}`equal_of_deserializeDetails`: and the details, when they are
  plain and do not use the recorder's own key.
-/

namespace StrategyWorker
namespace Observability

open Library Persistence
open Events (UtcDateTime)
open Domain (OptionalText)
open PyText
open PyJson (depth intsFit encode loads LoadsError)

/-! ## Checks -/

/-- {lit}`_require_non_empty(value, field_name=...)`. -/
def requireNonEmpty (value fieldName : String) :
    Except PyException { text : String // IsText text } :=
  if h : strip value = "" then .error ⟨.valueError, some (fieldName ++ " must not be blank")⟩
  else .ok ⟨strip value, isText_strip h⟩

/-- {lit}`_normalize_optional(value, field_name=...)`. -/
def normalizeOptional (value : Option String) (fieldName : String) :
    Except PyException OptionalText :=
  match value with
  | none => .ok ⟨none, Domain.optionalText_none⟩
  | some value =>
      if h : strip value = "" then
        .error ⟨.valueError, some (fieldName ++ " must not be blank when provided")⟩
      else .ok ⟨some (strip value), Domain.optionalText_strip h⟩

/-- {lit}`_require_aware_utc(value, field_name=...)`. -/
def requireAwareUtc (value : PyDateTime) (fieldName : String) : Except PyException UtcDateTime :=
  match value.utcoffset with
  | none => .error ⟨.valueError, some (fieldName ++ " must be timezone-aware")⟩
  | some offset => utcOfWall (value.wall - offset)

theorem requireNonEmpty_eq_ok {value fieldName : String} {t : { text : String // IsText text }} :
    requireNonEmpty value fieldName = .ok t ↔ t.val = strip value := by
  unfold requireNonEmpty
  split
  · rename_i hblank
    simp only [reduceCtorEq, false_iff, hblank]
    exact t.property.1
  · rw [Except.ok.injEq, Subtype.ext_iff]
    exact eq_comm

theorem normalizeOptional_eq_ok {value : Option String} {fieldName : String} {t : OptionalText} :
    normalizeOptional value fieldName = .ok t ↔ t.val = value.map strip := by
  cases value with
  | none =>
      rw [normalizeOptional, Except.ok.injEq, Subtype.ext_iff]
      exact eq_comm
  | some value =>
      rw [normalizeOptional, Option.map_some]
      split
      · rename_i hblank
        simp only [reduceCtorEq, false_iff, hblank]
        intro htext
        exact (t.property "" htext).1 rfl
      · rw [Except.ok.injEq, Subtype.ext_iff]
        exact eq_comm

theorem requireAwareUtc_utc (utc : UtcDateTime) (fieldName : String) :
    requireAwareUtc utc.val fieldName = .ok utc := by
  rcases utc with ⟨⟨wall, offset, hwall, hoffset⟩, hutc⟩
  have hutc : offset = some 0 := hutc
  subst hutc
  simp only [requireAwareUtc, utcOfWall, sub_zero]
  rw [dif_pos hwall]

theorem wireTs_utc (utc : UtcDateTime) : wireTs utc.val = .ok (.ofUtc utc) := by
  have hutc := requireAwareUtc_utc utc "datetime"
  unfold requireAwareUtc at hutc
  unfold wireTs requireUtc
  rw [utc.property] at hutc ⊢
  dsimp only at hutc ⊢
  rw [hutc]
  rfl

/-! ## Entries -/

/-- The arguments of the constructor. -/
structure DiagnosticEntryArgs where
  runtimeId : String
  workerIdentity : String
  launchAttempt : Int
  diagnosticType : String
  observedAt : PyDateTime
  reasonCode : Option String := none
  details : Option PyMapping := none
  correlationId : Option String := none

structure DiagnosticEntry where
  runtimeId : { text : String // IsText text }
  workerIdentity : { text : String // IsText text }
  launchAttempt : { n : Int // 1 ≤ n }
  diagnosticType : { text : String // IsText text }
  observedAt : UtcDateTime
  reasonCode : OptionalText
  details : Option PyMapping
  correlationId : OptionalText

namespace DiagnosticEntry

theorem one_le_of_not_lt {n : Int} (h : ¬ n < 1) : 1 ≤ n := by
  omega

def checkLaunchAttempt (launchAttempt : Int) : Except PyException { n : Int // 1 ≤ n } :=
  if h : launchAttempt < 1 then
    .error ⟨.valueError, some "launch_attempt must be greater than or equal to 1"⟩
  else .ok ⟨launchAttempt, one_le_of_not_lt h⟩

theorem checkLaunchAttempt_eq_ok {launchAttempt : Int} {n : { n : Int // 1 ≤ n }} :
    checkLaunchAttempt launchAttempt = .ok n ↔ n.val = launchAttempt := by
  unfold checkLaunchAttempt
  split
  · rename_i hlow
    simp only [reduceCtorEq, false_iff]
    have := n.property
    omega
  · rw [Except.ok.injEq, Subtype.ext_iff]
    exact eq_comm

/-- {lit}`DiagnosticEntry(...)`, with the checks of {lit}`__post_init__` in their order. -/
def make (args : DiagnosticEntryArgs) : Except PyException DiagnosticEntry := do
  let runtimeId ← requireNonEmpty args.runtimeId "runtime_id"
  let workerIdentity ← requireNonEmpty args.workerIdentity "worker_identity"
  let diagnosticType ← requireNonEmpty args.diagnosticType "diagnostic_type"
  let launchAttempt ← checkLaunchAttempt args.launchAttempt
  let reasonCode ← normalizeOptional args.reasonCode "reason_code"
  let correlationId ← normalizeOptional args.correlationId "correlation_id"
  let observedAt ← requireAwareUtc args.observedAt "observed_at"
  return {
    runtimeId, workerIdentity, launchAttempt, diagnosticType, observedAt, reasonCode
    details := args.details
    correlationId }

/-- What the constructor makes of its arguments. -/
theorem make_eq_ok {args : DiagnosticEntryArgs} {entry : DiagnosticEntry} :
    make args = .ok entry ↔ entry.runtimeId.val = strip args.runtimeId ∧
      entry.workerIdentity.val = strip args.workerIdentity ∧
      entry.diagnosticType.val = strip args.diagnosticType ∧
      entry.launchAttempt.val = args.launchAttempt ∧
      entry.reasonCode.val = args.reasonCode.map strip ∧
      entry.correlationId.val = args.correlationId.map strip ∧
      requireAwareUtc args.observedAt "observed_at" = .ok entry.observedAt ∧
      entry.details = args.details := by
  simp only [make, bind_eq_ok, requireNonEmpty_eq_ok, checkLaunchAttempt_eq_ok,
    normalizeOptional_eq_ok]
  constructor
  · rintro ⟨r, hr, w, hw, t, ht, n, hn, c, hc, i, hi, o, ho, hentry⟩
    obtain rfl := Except.ok.inj hentry
    exact ⟨hr, hw, ht, hn, hc, hi, ho, rfl⟩
  · rintro ⟨hr, hw, ht, hn, hc, hi, ho, hd⟩
    refine ⟨_, hr, _, hw, _, ht, _, hn, _, hc, _, hi, _, ho, ?_⟩
    rw [← hd]
    rfl

/-- {lit}`a == b` of details, {lit}`None` included. -/
def sameDetails : Option PyMapping → Option PyMapping → Bool
  | none, none => true
  | some d, some d' => d.object.equal d'.object
  | _, _ => false

/-- {lit}`a == b`. -/
def equal (a b : DiagnosticEntry) : Bool :=
  a.runtimeId = b.runtimeId && a.workerIdentity = b.workerIdentity &&
    a.launchAttempt = b.launchAttempt && a.diagnosticType = b.diagnosticType &&
    a.observedAt = b.observedAt && a.reasonCode = b.reasonCode &&
    sameDetails a.details b.details && a.correlationId = b.correlationId

end DiagnosticEntry

/-! ## Details -/

/-- {lit}`_WORKER_IDENTITY_DETAILS_KEY`. -/
def workerIdentityDetailsKey : String := "__worker_identity"

/-- The exceptions of the recorder. -/
inductive RecorderError where
  | raised (e : PyException)
  | recursionError
  | loads (e : LoadsError)
  | integrityError

/-- {lit}`json.dumps(value, sort_keys=True, separators=(",", ":"), ensure_ascii=True)`, given room
for the nesting of the value. -/
def dumps (room : Nat) (value : PyObject) : Except RecorderError String := do
  let json ← value.forJson.mapError fun e => .raised e.raised
  if room < depth json then .error .recursionError
  else if intsFit json then
    (encode ⟨false, fun _ => .error .typeError⟩ json).mapError fun e => .raised e.raised
  else .error (.raised PyError.valueError.raised)

/-- The details with the identity of the worker. -/
def payload (value : Option PyMapping) (workerIdentity : String) : PyMapping :=
  Assoc.set (value.getD []) workerIdentityDetailsKey (.str workerIdentity)

/-- {lit}`_serialize_details(value, worker_identity=...)`. -/
def serializeDetails (room : Nat) (value : Option PyMapping) (workerIdentity : String) :
    Except RecorderError String :=
  dumps room (payload value workerIdentity).object

/-- The identity and the other details of a decoded value. -/
def splitDetails : PyVal → String × PyMapping
  | .dict loaded =>
      (((PyDict.get? loaded workerIdentityDetailsKey).getD (.str "")).text,
        .ofJson (PyDict.pop loaded workerIdentityDetailsKey))
  | loaded => ("", [("value", .ofJson loaded)])

/-- {lit}`_deserialize_details(value)`. -/
def deserializeDetails (room : Nat) (value : Option String) :
    Except LoadsError (String × PyMapping) :=
  match value with
  | none => .ok ("", [])
  | some text => if text = "" then .ok ("", []) else (loads room text).map splitDetails

/-! ## Details that are read back -/

section

variable {room : Nat} {value : Option PyMapping} {workerIdentity text : String}

theorem dumps_eq_ok {value : PyObject} : dumps room value = .ok text ↔
    ∃ json, value.forJson = .ok json ∧ depth json ≤ room ∧ intsFit json = true ∧
      encode ⟨false, fun _ => .error .typeError⟩ json = .ok text := by
  simp only [dumps, bind_eq_ok, WorkerTables.mapError_eq_ok]
  refine exists_congr fun json => and_congr_right fun _ => ?_
  by_cases hdeep : room < depth json
  · rw [if_pos hdeep]
    exact iff_of_false (by simp) fun h => absurd h.1 (not_le.2 hdeep)
  · rw [if_neg hdeep]
    by_cases hints : intsFit json = true
    · rw [if_pos hints, WorkerTables.mapError_eq_ok]
      exact ⟨fun h => ⟨not_lt.1 hdeep, hints, h⟩, fun h => h.2.2⟩
    · rw [if_neg hints]
      exact iff_of_false (by simp) fun h => absurd h.2.1 hints

theorem nodup_payload (h : ((value.getD []).map Prod.fst).Nodup) (workerIdentity : String) :
    ((payload value workerIdentity).map Prod.fst).Nodup :=
  Assoc.nodup_set h _ _

/-- The details of an entry as they are given to the recorder: their keys are different, and the
values are those of the language. -/
def DetailsOf (details : Option PyMapping) : Prop :=
  ∀ d ∈ details, d.object.WellFormed

theorem DetailsOf.wellFormed (h : DetailsOf value) : (value.getD []).object.WellFormed := by
  cases value with
  | none => exact PyMapping.wellFormed_iff.2 ⟨List.nodup_nil, by simp⟩
  | some d => exact h d rfl

/-- The text of the details is never empty. -/
theorem ne_empty_of_reads {w : PyVal} (h : PyJson.Reads room text.toList w) : text ≠ "" := by
  rintro rfl
  have hpos := h.length_pos
  simp at hpos

theorem deserializeDetails_of_reads {w : PyVal} (h : PyJson.Reads room text.toList w) :
    deserializeDetails room (some text) = .ok (splitDetails w) := by
  rw [deserializeDetails, if_neg (ne_empty_of_reads h), PyJson.loads_of_reads h]
  rfl

/-- The identity of the worker is read back. -/
theorem exists_deserializeDetails (hdetails : DetailsOf value)
    (h : serializeDetails room value workerIdentity = .ok text) :
    ∃ rest, deserializeDetails room (some text) = .ok (workerIdentity, rest) := by
  rcases dumps_eq_ok.1 h with ⟨json, hjson, hdepth, hints, htext⟩
  rcases PyMapping.exists_forJson hjson with ⟨fields, rfl, hkeys, hvalues⟩
  have hnodup : (fields.map Prod.fst).Nodup := by
    rw [hkeys.nodup_iff]
    exact nodup_payload (PyMapping.wellFormed_iff.1 hdetails.wellFormed).1 _
  cases room with
  | zero => simp [depth] at hdepth
  | succ room =>
      rcases PyJson.exists_reads_dict htext hdepth hints hnodup with ⟨members, hread, -, hmembers⟩
      rcases hvalues _ (Assoc.mem_set_self (value.getD []) workerIdentityDetailsKey
        (PyObject.str workerIdentity)) with ⟨v, hv, hmem⟩
      obtain rfl := Except.ok.inj hv
      have hget := (PyDict.get?_eq_some_iff hnodup).2 hmem
      rcases hmembers _ _ hget with ⟨t, w, ht, hw, hfound⟩
      obtain rfl := Except.ok.inj ht
      obtain rfl := hw.unique (PyJson.reads_quote room workerIdentity)
      refine ⟨.ofJson (PyDict.pop members workerIdentityDetailsKey), ?_⟩
      rw [deserializeDetails_of_reads hread, splitDetails, hfound]
      rfl

/-- Details that can come back equal: plain, and without the recorder's own key. -/
def DetailsSurvive (details : Option PyMapping) : Prop :=
  ∃ d, details = some d ∧ workerIdentityDetailsKey ∉ d.map Prod.fst ∧ ∀ f ∈ d, f.2.Plain

/-- What has been read never has the recorder's own key. -/
theorem exists_ofJson_of_split (w : PyVal) :
    ∃ read : PyDict, (splitDetails w).2 = .ofJson read ∧
      workerIdentityDetailsKey ∉ read.map Prod.fst := by
  cases w with
  | dict loaded =>
      refine ⟨PyDict.pop loaded workerIdentityDetailsKey, rfl, ?_⟩
      intro hmem
      rcases List.mem_map.1 hmem with ⟨f, hf, hkey⟩
      have hne := (List.mem_filter.1 hf).2
      simp [hkey] at hne
  | _ =>
      have hvalue : workerIdentityDetailsKey ≠ "value" := by decide
      exact ⟨[("value", _)], rfl, by simpa using hvalue⟩

theorem exists_ofJson_of_deserialize {details : Option String} {identity : String}
    {rest : PyMapping} (h : deserializeDetails room details = .ok (identity, rest)) :
    ∃ read : PyDict, rest = .ofJson read ∧ workerIdentityDetailsKey ∉ read.map Prod.fst := by
  unfold deserializeDetails at h
  split at h
  · obtain ⟨-, rfl⟩ := Prod.mk.inj (Except.ok.inj h)
    exact ⟨[], rfl, by simp⟩
  · rename_i text
    split at h
    · obtain ⟨-, rfl⟩ := Prod.mk.inj (Except.ok.inj h)
      exact ⟨[], rfl, by simp⟩
    · cases hloads : loads room text with
      | error e =>
          rw [hloads] at h
          cases h
      | ok w =>
          rw [hloads] at h
          have hsplit : splitDetails w = (identity, rest) := Except.ok.inj h
          rcases exists_ofJson_of_split w with ⟨read, hread, hkey⟩
          rw [hsplit] at hread
          exact ⟨read, hread, hkey⟩

/-- Details that equal what was read are plain and do not use the recorder's own key. -/
theorem survives_of_sameDetails {details : Option PyMapping} {read : PyDict}
    (hkey : workerIdentityDetailsKey ∉ read.map Prod.fst)
    (h : DiagnosticEntry.sameDetails details (some (.ofJson read)) = true) : DetailsSurvive details := by
  cases details with
  | none => cases h
  | some d =>
      have hequal : d.object.equal (PyObject.ofJson (.dict read)) = true := by
        rw [← PyMapping.object_ofJson]
        exact h
      refine ⟨d, rfl, fun hmem => ?_, ?_⟩
      · rcases List.mem_map.1 hmem with ⟨f, hf, hname⟩
        rw [PyMapping.object, PyObject.ofJson, PyObject.equal, Bool.and_eq_true] at hequal
        rcases PyObject.equalItems_iff.1 hequal.2 _ (List.mem_map_of_mem hf) with
          ⟨item, hfind, -⟩
        rcases PyObject.exists_of_find?_ofJsonFields hfind with ⟨s, w, hs, hread, -⟩
        obtain rfl := PyKey.str.inj hs
        exact hkey (hname ▸ List.mem_map_of_mem (f := Prod.fst) hread)
      · exact PyMapping.plain_object_iff.1 (PyObject.plain_of_equal hequal)

/-- Without the recorder's own key the payload is the details and the identity. -/
theorem payload_of_not_mem {d : PyMapping} (h : workerIdentityDetailsKey ∉ d.map Prod.fst)
    (workerIdentity : String) :
    payload (some d) workerIdentity = d ++ [(workerIdentityDetailsKey, .str workerIdentity)] :=
  Assoc.set_of_not_mem h _

/-- The details equal what is left of a payload that equals the object that was read. -/
theorem equal_pop {d : PyMapping} {loaded : PyDict}
    (hkey : workerIdentityDetailsKey ∉ d.map Prod.fst)
    (hkeys : (loaded.map Prod.fst).Perm ((payload (some d) workerIdentity).map Prod.fst))
    (hnodup : (loaded.map Prod.fst).Nodup)
    (hequal : (payload (some d) workerIdentity).object.equal (PyObject.ofJson (.dict loaded)) =
      true) :
    d.object.equal (PyObject.ofJson (.dict (PyDict.pop loaded workerIdentityDetailsKey))) = true := by
  have hpayload := payload_of_not_mem hkey workerIdentity
  have hpop := PyDict.nodup_pop hnodup workerIdentityDetailsKey
  have hlength : d.length = (PyDict.pop loaded workerIdentityDetailsKey).length := by
    have hkept : (PyDict.pop loaded workerIdentityDetailsKey).map Prod.fst =
        (loaded.map Prod.fst).filter fun key => key ≠ workerIdentityDetailsKey := by
      rw [PyDict.pop, List.filter_map]
      rfl
    have hrest : ((d.map Prod.fst).filter fun key => key ≠ workerIdentityDetailsKey) =
        d.map Prod.fst := by
      rw [List.filter_eq_self]
      intro key hmem
      exact decide_eq_true fun heq => hkey (heq ▸ hmem)
    have hperm := hkeys.filter fun key => decide (key ≠ workerIdentityDetailsKey)
    rw [hpayload, List.map_append, List.filter_append, hrest, ← hkept] at hperm
    have hlengths := hperm.length_eq
    simp at hlengths
    exact hlengths.symm
  rw [PyMapping.object, PyObject.ofJson, PyObject.equal, Bool.and_eq_true,
    PyObject.equalItems_iff] at hequal ⊢
  constructor
  · rw [PyObject.ofJsonFields_eq_map, List.length_map, List.length_map, hlength]
    exact decide_eq_true rfl
  · intro item hitem
    rcases List.mem_map.1 hitem with ⟨f, hf, rfl⟩
    have hmem : f ∈ payload (some d) workerIdentity := by
      rw [hpayload]
      exact List.mem_append_left _ hf
    rcases hequal.2 _ (List.mem_map_of_mem hmem) with ⟨item', hfind, hvalue⟩
    rcases PyObject.exists_of_find?_ofJsonFields hfind with ⟨s, w, hs, hread, hw⟩
    obtain rfl := PyKey.str.inj hs
    have hkept : (f.1, w) ∈ PyDict.pop loaded workerIdentityDetailsKey := by
      refine List.mem_filter.2 ⟨hread, decide_eq_true fun heq => hkey ?_⟩
      have heq : f.1 = workerIdentityDetailsKey := heq
      exact heq ▸ List.mem_map_of_mem hf
    rw [hw] at hvalue
    exact ⟨_, PyObject.find?_ofJsonFields hpop hkept, hvalue⟩

/-- Plain details without the recorder's own key come back equal. -/
theorem equal_of_deserializeDetails (hdetails : DetailsOf value) (hsurvives : DetailsSurvive value)
    (h : serializeDetails room value workerIdentity = .ok text) :
    ∃ rest, deserializeDetails room (some text) = .ok (workerIdentity, rest) ∧
      DiagnosticEntry.sameDetails value (some rest) = true := by
  rcases hsurvives with ⟨d, rfl, hkey, hplain⟩
  rcases exists_deserializeDetails hdetails h with ⟨rest, hrest⟩
  refine ⟨rest, hrest, ?_⟩
  rcases dumps_eq_ok.1 h with ⟨json, hjson, hdepth, hints, htext⟩
  have hpayload := payload_of_not_mem hkey workerIdentity
  have hwellFormed : (payload (some d) workerIdentity).object.WellFormed := by
    have hd := PyMapping.wellFormed_iff.1 (hdetails d rfl)
    have hnodup : (((some d).getD []).map Prod.fst).Nodup := hd.1
    refine PyMapping.wellFormed_iff.2 ⟨nodup_payload hnodup _, ?_⟩
    rw [hpayload, List.forall_mem_append]
    exact ⟨hd.2, by simp [PyObject.WellFormed]⟩
  have hplainPayload : (payload (some d) workerIdentity).object.Plain := by
    rw [PyMapping.plain_object_iff, hpayload, List.forall_mem_append]
    exact ⟨hplain, by simp [PyObject.Plain]⟩
  rcases PyObject.equal_of_plain hjson hplainPayload hwellFormed with ⟨hfaithful, hequal⟩
  have hread := PyJson.reads_encode rfl htext hdepth (hfaithful hints)
  rcases PyMapping.exists_forJson hjson with ⟨loaded, rfl, hkeys, -⟩
  have hnodup : (loaded.map Prod.fst).Nodup := (hfaithful hints).1
  have hsplit := deserializeDetails_of_reads hread
  rw [hrest] at hsplit
  have hrestEq : rest = .ofJson (PyDict.pop loaded workerIdentityDetailsKey) :=
    (Prod.mk.inj (Except.ok.inj hsplit)).2
  rw [hrestEq]
  have hpop := equal_pop hkey hkeys hnodup hequal
  rw [← PyMapping.object_ofJson] at hpop
  exact hpop

end

/-! ## Details of the other writer -/

/-- The text of a number, of a truth value or of {lit}`None` is not blank, nor is that of a
container. -/
theorem strip_text_ne_empty {v : PyVal} (h : ∀ s, v ≠ .str s) (hscalar : ∀ u, v ≠ .scalar u) :
    strip v.text ≠ "" := by
  have hbracket : strip "[...]" ≠ "" := by decide
  cases v with
  | none => decide
  | bool b => cases b <;> decide
  | int n =>
      have hdigits : ∃ c ∈ (toString n).toList, c.isDigit = true := by
        cases n with
        | ofNat k =>
            rcases List.exists_mem_of_ne_nil _ (natText_ne_nil k) with ⟨c, hc⟩
            exact ⟨c, hc, isDigit_of_mem_natText hc⟩
        | negSucc k =>
            rcases List.exists_mem_of_ne_nil _ (natText_ne_nil (k + 1)) with ⟨c, hc⟩
            have htext : toString (Int.negSucc k) = "-" ++ toString (k + 1) := rfl
            refine ⟨c, ?_, isDigit_of_mem_natText hc⟩
            rw [htext, String.toList_append]
            exact List.mem_append_right _ hc
      rcases hdigits with ⟨c, hc, hdigit⟩
      refine strip_ne_empty hc ?_
      rw [PyDateTime.isSpace_of_isDigit hdigit]
      exact Bool.false_ne_true
  | float f =>
      rw [PyVal.text, strip_floatText]
      exact floatText_ne_empty f
  | str s => exact absurd rfl (h s)
  | datetime d => exact hbracket
  | scalar u => exact absurd rfl (hscalar u)
  | list vs => exact hbracket
  | dict fields => exact hbracket

/-- Details whose reading yields an identity: the recorder's own key is there, and does not hold a
blank text. -/
def NamesWorker (details : Option PyDict) : Prop :=
  ∃ d v, details = some d ∧ PyDict.get? d workerIdentityDetailsKey = some v ∧
    ∀ s, v = .str s → strip s ≠ ""

/-- Whether the text of what is read is blank shows in what was written. -/
theorem strip_text_iff {v w : PyVal} {t : String}
    (h : encode ⟨true, fun _ => .error .typeError⟩ v = .ok t) (hkind : PyJson.SameKind v w) :
    strip w.text ≠ "" ↔ ∀ s, v = .str s → strip s ≠ "" := by
  have hother {v w : PyVal} (hv : ∀ s, v ≠ .str s) (hw : ∀ s, w ≠ .str s)
      (hscalar : ∀ u, w ≠ .scalar u) :
      strip w.text ≠ "" ↔ ∀ s, v = .str s → strip s ≠ "" :=
    iff_of_true (strip_text_ne_empty hw hscalar) fun s hs => absurd hs (hv s)
  cases v with
  | none =>
      obtain rfl : w = .none := hkind
      exact hother (by simp) (by simp) (by simp)
  | bool b =>
      obtain rfl : w = .bool b := hkind
      exact hother (by simp) (by simp) (by simp)
  | int n =>
      obtain rfl : w = .int n := hkind
      exact hother (by simp) (by simp) (by simp)
  | float f =>
      rcases hkind with ⟨g, rfl⟩
      exact hother (by simp) (by simp) (by simp)
  | str s =>
      obtain rfl : w = .str s := hkind
      constructor
      · intro hne s' hs'
        rw [← PyVal.str.inj hs']
        exact hne
      · exact fun hne => hne s rfl
  | datetime d =>
      rw [encode] at h
      rcases bind_eq_ok.1 h with ⟨t', ht', -⟩
      cases ht'
  | scalar u =>
      rw [encode] at h
      rcases bind_eq_ok.1 h with ⟨t', ht', -⟩
      cases ht'
  | list vs =>
      rcases hkind with ⟨ws, rfl⟩
      exact hother (by simp) (by simp) (by simp)
  | dict fields =>
      rcases hkind with ⟨members, rfl⟩
      exact hother (by simp) (by simp) (by simp)

/-- What is read of details that {lit}`append_diagnostic` has written. -/
theorem exists_deserialize_toJsonOrNull {room : Nat} {details : Option PyDict}
    {text : Option String} (hfit : DetailsFit room details)
    (hkeys : ∀ d ∈ details, (d.map Prod.fst).Nodup) (h : toJsonOrNull details = .ok text) :
    ∃ identity rest, deserializeDetails room text = .ok (identity, rest) ∧
      (strip identity ≠ "" ↔ NamesWorker details) := by
  have hblank : strip "" = "" := by decide
  cases details with
  | none =>
      obtain rfl := Except.ok.inj h
      refine ⟨"", [], rfl, iff_of_false (not_not.2 hblank) ?_⟩
      rintro ⟨d, v, hd, -⟩
      cases hd
  | some d =>
      rcases hfit d rfl with ⟨hdepth, hints⟩
      have hnodup := hkeys d rfl
      cases hencode : encode ⟨true, fun _ => .error .typeError⟩ (.dict d) with
      | error e =>
          rw [toJsonOrNull, toJson, hencode] at h
          cases h
      | ok written =>
          rw [toJsonOrNull, toJson, hencode] at h
          obtain rfl := Except.ok.inj h
          cases room with
          | zero => simp [depth] at hdepth
          | succ room =>
              rcases PyJson.exists_reads_dict hencode hdepth hints hnodup with
                ⟨members, hread, hperm, hmembers⟩
              refine ⟨((PyDict.get? members workerIdentityDetailsKey).getD (.str "")).text, _,
                deserializeDetails_of_reads hread, ?_⟩
              cases hget : PyDict.get? d workerIdentityDetailsKey with
              | none =>
                  have hnone : PyDict.get? members workerIdentityDetailsKey = none := by
                    rw [PyDict.get?_eq_none_iff] at hget ⊢
                    exact fun hmem => hget (hperm.mem_iff.1 hmem)
                  rw [hnone]
                  refine iff_of_false (not_not.2 hblank) ?_
                  rintro ⟨d', v, hd', hv, -⟩
                  obtain rfl := Option.some.inj hd'
                  rw [hget] at hv
                  cases hv
              | some v =>
                  rcases hmembers _ _ hget with ⟨t, w, ht, hw, hfound⟩
                  have hmem := (PyDict.get?_eq_some_iff hnodup).1 hget
                  have hkind := PyJson.sameKind_of_reads ht
                    ((PyJson.depth_le_of_mem hmem).trans (Nat.le_of_succ_le_succ hdepth))
                    (PyObject.intsFitFields_iff.1 hints _ hmem) hw
                  rw [hfound, Option.getD_some, strip_text_iff ht hkind]
                  constructor
                  · exact fun hv => ⟨d, v, rfl, hget, hv⟩
                  · rintro ⟨d', v', hd', hv', hne⟩
                    obtain rfl := Option.some.inj hd'
                    obtain rfl := Option.some.inj (hget.symm.trans hv')
                    exact hne

end Observability
end StrategyWorker
