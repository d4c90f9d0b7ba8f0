import StrategyWorker.Bootstrap.LaunchSpec
import StrategyWorker.Library.PyJsonUnique

/-!
# Launch payloads that are validated again

{lit}`LaunchSpecValidator` remembers, for each runtime and launch attempt, the
fingerprint of the payload that it has accepted first: its JSON text with sorted
keys.  A later payload for the same attempt has to have the same fingerprint.

Main results:

- Theorem {lit}`spec_eq_of_fingerprint`: payloads with one fingerprint specify
  the same.
- Theorem {lit}`validate_backed`: what is accepted is what the remembered
  payload specifies.
- Theorem {lit}`launch_payload_immutable`: all specifications that are accepted
  for one attempt are equal, and a call that raises changes nothing.
-/

namespace StrategyWorker
namespace Bootstrap

open Library
open Library.PyText
open Library.PyJson (encode DumpOptions quote)
open Domain

/-! ## Fingerprints -/

/-- How the payload is written: keys are sorted, and a value that JSON does not have raises. -/
def fingerprintOptions : DumpOptions where
  sortKeys := true
  default := fun _ => .error .typeError

/-- {lit}`_payload_fingerprint`; {lit}`none` when {lit}`json.dumps` raises, for a value that JSON
does not have or because the interpreter allows no deeper nesting. -/
def payloadFingerprint (room : Nat) (payload : PyVal) : Option String :=
  if room < PyJson.depth payload then none else (encode fingerprintOptions payload).toOption

theorem encode_of_fingerprint {room : Nat} {payload : PyVal} {fingerprint : String}
    (h : payloadFingerprint room payload = some fingerprint) :
    encode fingerprintOptions payload = .ok fingerprint := by
  unfold payloadFingerprint at h
  split at h
  · cases h
  · cases hencode : encode fingerprintOptions payload with
    | ok text =>
        rw [hencode] at h
        cases h
        rfl
    | error e =>
        rw [hencode] at h
        cases h

theorem fingerprint_default (v : PyVal) (t : String) : fingerprintOptions.default v ≠ .ok t := by
  intro h
  cases h

/-- What one payload has under a key, the other has with the same text. -/
def SameTexts (fields fields' : PyDict) : Prop :=
  ∀ key v, fields.get? key = some v → ∃ w t, fields'.get? key = some w ∧
    encode fingerprintOptions v = .ok t ∧ encode fingerprintOptions w = .ok t

theorem sameTexts_of_encode {fields fields' : PyDict} {text : String}
    (h : encode fingerprintOptions (.dict fields) = .ok text)
    (h' : encode fingerprintOptions (.dict fields') = .ok text)
    (hkeys : (PyVal.dict fields).WellKeyed) (hkeys' : (PyVal.dict fields').WellKeyed) :
    SameTexts fields fields' := by
  rw [PyVal.WellKeyed] at hkeys hkeys'
  intro key v hget
  exact PyJson.fields_of_encode_eq h h' hkeys.1 hkeys'.1 hget

/-! ## Reading fields with the same text -/

section Same

variable {fields fields' : PyDict}

theorem get?_of_get {d : PyDict} {key : String} {v : PyVal} (h : d.get key = v) (hne : v ≠ .none) :
    d.get? key = some v := by
  unfold PyDict.get at h
  cases hget : d.get? key with
  | none =>
      rw [hget] at h
      exact absurd h.symm hne
  | some w =>
      rw [hget] at h
      exact congrArg some h

theorem get_of_get? {d : PyDict} {key : String} {v : PyVal} (h : d.get? key = some v) :
    d.get key = v := by
  rw [PyDict.get, h]
  rfl

theorem SameTexts.get?_str (h : SameTexts fields fields') {key s : String}
    (hget : fields.get? key = some (.str s)) : fields'.get? key = some (.str s) := by
  rcases h key _ hget with ⟨w, t, hget', ht, hw⟩
  cases ht
  rwa [PyJson.eq_str_of_encode fingerprint_default hw] at hget'

theorem SameTexts.get_str (h : SameTexts fields fields') {key s : String}
    (hget : fields.get key = .str s) : fields'.get key = .str s :=
  get_of_get? (h.get?_str (get?_of_get hget (by simp)))

theorem SameTexts.get_int (h : SameTexts fields fields') {key : String} {n m : Int}
    (hget : fields.get key = .int n) (hget' : fields'.get key = .int m) : n = m := by
  rcases h key _ (get?_of_get hget (by simp)) with ⟨w, t, hw, ht, ht'⟩
  rw [get?_of_get hget' (by simp)] at hw
  cases hw
  cases ht
  exact (PyJson.intText_inj (Except.ok.inj ht')).symm

theorem SameTexts.get_dict (h : SameTexts fields fields') {key : String} {d : PyDict}
    (hget : fields.get key = .dict d) : ∃ d' t, fields'.get key = .dict d' ∧
      encode fingerprintOptions (.dict d) = .ok t ∧
      encode fingerprintOptions (.dict d') = .ok t := by
  rcases h key _ (get?_of_get hget (by simp)) with ⟨w, t, hw, ht, ht'⟩
  rcases PyJson.eq_dict_of_encode fingerprint_default ht ht' with ⟨d', rfl⟩
  exact ⟨d', t, get_of_get? hw, ht, ht'⟩

theorem HoldsText.eq_of_sameTexts (h : SameTexts fields fields') (h' : SameTexts fields' fields)
    {fieldName : String} {a b : Option String} (ha : HoldsText fields fieldName a)
    (hb : HoldsText fields' fieldName b) : a = b := by
  cases ha with
  | absent hget =>
      cases hb with
      | absent hget' => rfl
      | present value hget' _ _ =>
          rw [h'.get?_str hget'] at hget
          cases hget
  | present value hget _ _ =>
      have hboth := h.get?_str hget
      cases hb with
      | absent hget' =>
          rw [hget'] at hboth
          cases hboth
      | present value' hget' _ _ =>
          rw [hget'] at hboth
          cases hboth
          rfl

/-- The readings of one field, which is missing or holds a text, agree. -/
theorem blankable_eq_of_sameTexts {α : Type} (h : SameTexts fields fields')
    (h' : SameTexts fields' fields) {key : String} {missing : α} {read : String → α} {a b : α}
    (ha : (fields.get key = .none ∧ a = missing) ∨
      ∃ value, fields.get key = .str value ∧ a = read value)
    (hb : (fields'.get key = .none ∧ b = missing) ∨
      ∃ value, fields'.get key = .str value ∧ b = read value) : a = b := by
  rcases ha with ⟨hget, rfl⟩ | ⟨value, hget, rfl⟩
  · rcases hb with ⟨-, rfl⟩ | ⟨value', hget', rfl⟩
    · rfl
    · rw [h'.get_str hget'] at hget
      cases hget
  · have hboth := h.get_str hget
    rcases hb with ⟨hget', -⟩ | ⟨value', hget', rfl⟩
    · rw [hget'] at hboth
      cases hboth
    · rw [hget'] at hboth
      cases hboth
      rfl

theorem nestedSymbol_of_sameTexts (h : SameTexts fields fields')
    (hkeys : (PyVal.dict fields).WellKeyed) (hkeys' : (PyVal.dict fields').WellKeyed)
    {symbol : String} (hsymbol : nestedSymbol fields = some symbol) :
    nestedSymbol fields' = some symbol := by
  unfold nestedSymbol at hsymbol
  split at hsymbol
  · rename_i parameters hget
    rcases h.get_dict hget with ⟨parameters', t, hget', ht, ht'⟩
    have hinner : (PyVal.dict parameters).WellKeyed :=
      wellKeyed_of_get? hkeys (get?_of_get hget (by simp))
    have hinner' : (PyVal.dict parameters').WellKeyed :=
      wellKeyed_of_get? hkeys' (get?_of_get hget' (by simp))
    have hsame := sameTexts_of_encode ht ht' hinner hinner'
    split at hsymbol
    · rename_i nested hnested
      rw [nestedSymbol, hget']
      dsimp only
      rw [hsame.get_str hnested]
      exact hsymbol
    · cases hsymbol
  · cases hsymbol

/-- A symbol in the parameters is the same one. -/
theorem nestedSymbol_eq_of_sameTexts (h : SameTexts fields fields') (h' : SameTexts fields' fields)
    (hkeys : (PyVal.dict fields).WellKeyed) (hkeys' : (PyVal.dict fields').WellKeyed) :
    nestedSymbol fields = nestedSymbol fields' := by
  cases hsymbol : nestedSymbol fields with
  | some symbol => exact (nestedSymbol_of_sameTexts h hkeys hkeys' hsymbol).symm
  | none =>
      cases hsymbol' : nestedSymbol fields' with
      | none => rfl
      | some symbol =>
          rw [nestedSymbol_of_sameTexts h' hkeys' hkeys hsymbol'] at hsymbol
          cases hsymbol

end Same

/-- Payloads with one fingerprint specify the same. -/
theorem spec_eq_of_fingerprint {payload payload' : PyVal} {spec spec' : LaunchSpec}
    {fingerprint : String} (hkeys : payload.WellKeyed) (hkeys' : payload'.WellKeyed)
    (h : fromPayload payload = .ok spec) (h' : fromPayload payload' = .ok spec')
    (hprint : encode fingerprintOptions payload = .ok fingerprint)
    (hprint' : encode fingerprintOptions payload' = .ok fingerprint) : spec = spec' := by
  rcases fromPayload_eq_ok.1 h with ⟨fields, rfl, a⟩
  rcases fromPayload_eq_ok.1 h' with ⟨fields', rfl, a'⟩
  have hsame := sameTexts_of_encode hprint hprint' hkeys hkeys'
  have hback := sameTexts_of_encode hprint' hprint hkeys' hkeys
  have hruntime := a.runtimeId.eq_of_sameTexts hsame hback a'.runtimeId
  have hversion := a.strategyVersionId.eq_of_sameTexts hsame hback a'.strategyVersionId
  have hentry := a.entrypoint.eq_of_sameTexts hsame hback a'.entrypoint
  have htrader := a.traderId.eq_of_sameTexts hsame hback a'.traderId
  have haccount := a.accountId.eq_of_sameTexts hsame hback a'.accountId
  have hjob := a.jobId.eq_of_sameTexts hsame hback a'.jobId
  have hstart := a.tsStart.eq_of_sameTexts hsame hback a'.tsStart
  have hend := a.tsEnd.eq_of_sameTexts hsame hback a'.tsEnd
  have hattempt := hsame.get_int a.launchAttempt a'.launchAttempt
  have hmode : spec.mode = spec'.mode := by
    have hget := hsame.get_str a.mode
    rw [a'.mode] at hget
    exact RuntimeMode.value_inj (PyVal.str.inj hget).symm
  have htenant : spec.tenantId = spec'.tenantId :=
    blankable_eq_of_sameTexts hsame hback a.tenantId a'.tenantId
  have huri : spec.artifactUri = spec'.artifactUri := by
    rcases a.artifactUri with ⟨uri, ref, huri, href, hchosen⟩
    rcases a'.artifactUri with ⟨uri', ref', huri', href', hchosen'⟩
    rw [huri.eq_of_sameTexts hsame hback huri', href.eq_of_sameTexts hsame hback href',
      ← hchosen'] at hchosen
    exact Option.some.inj hchosen
  have hdigest : spec.artifactDigest = spec'.artifactDigest :=
    blankable_eq_of_sameTexts hsame hback
      (a.artifactDigest.imp_right fun ⟨value, hget, _, hread⟩ => ⟨value, hget, hread⟩)
      (a'.artifactDigest.imp_right fun ⟨value, hget, _, hread⟩ => ⟨value, hget, hread⟩)
  have hcorrelation :=
    blankable_eq_of_sameTexts hsame hback a.correlationId a'.correlationId
  have hsymbol : spec.symbol = spec'.symbol := by
    rcases a.symbol with ⟨symbol, hsym, hspec⟩
    rcases a'.symbol with ⟨symbol', hsym', hspec'⟩
    rw [hspec, hspec', hsym.eq_of_sameTexts hsame hback hsym',
      nestedSymbol_eq_of_sameTexts hsame hback hkeys hkeys']
  cases spec
  cases spec'
  simp_all

/-! ## The validator -/

/-- What leaves {lit}`validate` besides a specification. -/
inductive ValidateError where
  /-- {lit}`RuntimeStartValidationFailedError`. -/
  | runtimeStartValidationFailed (reason : String) (fieldErrors : FieldErrors String String)
      (attempt : Option (String × Int))
  /-- The exception of {lit}`json.dumps`. -/
  | fingerprint
  deriving DecidableEq, Repr

structure LaunchSpecValidator where
  acceptedPayloads : Assoc (String × Int) String := []

namespace LaunchSpecValidator

/-- {lit}`self._accepted_payloads.get(dedupe_key)`. -/
def get? (validator : LaunchSpecValidator) (dedupeKey : String × Int) : Option String :=
  Assoc.get? validator.acceptedPayloads dedupeKey

/-- {lit}`self._accepted_payloads[dedupe_key] = fingerprint`. -/
def accept (validator : LaunchSpecValidator) (dedupeKey : String × Int) (fingerprint : String) :
    LaunchSpecValidator :=
  ⟨Assoc.set validator.acceptedPayloads dedupeKey fingerprint⟩

end LaunchSpecValidator

def LaunchSpec.dedupeKey (spec : LaunchSpec) : String × Int :=
  (spec.runtimeId, spec.launchAttempt)

def mismatchError (spec : LaunchSpec) : ValidateError :=
  .runtimeStartValidationFailed "duplicate_key_payload_mismatch"
    [("payload", "payload_broadening_or_mutation_for_existing_runtime_launch_attempt")]
    (some spec.dedupeKey)

/-- The part of {lit}`validate` that compares fingerprints. -/
def compareFingerprint (validator : LaunchSpecValidator) (spec : LaunchSpec)
    (fingerprint : String) : Except ValidateError LaunchSpec × LaunchSpecValidator :=
  match validator.get? spec.dedupeKey with
  | none => (.ok spec, validator.accept spec.dedupeKey fingerprint)
  | some existing =>
      if existing = fingerprint then (.ok spec, validator) else (.error (mismatchError spec), validator)

/-- {lit}`LaunchSpecValidator.validate`, with the room that the interpreter has for nesting. -/
def validate (validator : LaunchSpecValidator) (room : Nat) (payload : PyVal) :
    Except ValidateError LaunchSpec × LaunchSpecValidator :=
  match fromPayload payload with
  | .error e => (.error (.runtimeStartValidationFailed e.reason e.fieldErrors none), validator)
  | .ok spec =>
      match payloadFingerprint room payload with
      | none => (.error .fingerprint, validator)
      | some fingerprint => compareFingerprint validator spec fingerprint

/-! ## One call -/

theorem get?_accept {validator : LaunchSpecValidator} {key : String × Int} {fingerprint : String}
    (key' : String × Int) : (validator.accept key fingerprint).get? key' =
      if key = key' then some fingerprint else validator.get? key' :=
  Assoc.get?_set _ _ _ _

/-- The ways in which a call comes to its end. -/
theorem validate_cases (validator : LaunchSpecValidator) (room : Nat) (payload : PyVal) :
    (∃ e, validate validator room payload = (.error e, validator)) ∨
      ∃ spec fingerprint, fromPayload payload = .ok spec ∧
        payloadFingerprint room payload = some fingerprint ∧
          ((validator.get? spec.dedupeKey = some fingerprint ∧
              validate validator room payload = (.ok spec, validator)) ∨
            (validator.get? spec.dedupeKey = none ∧ validate validator room payload =
              (.ok spec, validator.accept spec.dedupeKey fingerprint))) := by
  unfold validate
  cases hspec : fromPayload payload with
  | error e => exact .inl ⟨_, rfl⟩
  | ok spec =>
      cases hprint : payloadFingerprint room payload with
      | none => exact .inl ⟨_, rfl⟩
      | some fingerprint =>
          dsimp only
          unfold compareFingerprint
          cases hget : validator.get? spec.dedupeKey with
          | none => exact .inr ⟨spec, fingerprint, rfl, rfl, .inr ⟨hget, rfl⟩⟩
          | some existing =>
              dsimp only
              by_cases heq : existing = fingerprint
              · subst heq
                rw [if_pos rfl]
                exact .inr ⟨spec, existing, rfl, rfl, .inl ⟨hget, rfl⟩⟩
              · rw [if_neg heq]
                exact .inl ⟨_, rfl⟩

/-- A call that raises changes nothing. -/
theorem validate_error {validator validator' : LaunchSpecValidator} {room : Nat} {payload : PyVal}
    {e : ValidateError} (h : validate validator room payload = (.error e, validator')) :
    validator' = validator := by
  rcases validate_cases validator room payload with ⟨e', heq⟩ | ⟨spec, fingerprint, -, -, hok⟩
  · rw [heq] at h
    exact (congrArg Prod.snd h).symm
  · rcases hok with ⟨-, heq⟩ | ⟨-, heq⟩
    · rw [heq] at h
      cases h
    · rw [heq] at h
      cases h

/-- The validator remembers a payload for the attempt, which specifies {lit}`spec`. -/
def Backed (validator : LaunchSpecValidator) (spec : LaunchSpec) : Prop :=
  ∃ payload fingerprint, payload.WellKeyed ∧ fromPayload payload = .ok spec ∧
    encode fingerprintOptions payload = .ok fingerprint ∧
      validator.get? spec.dedupeKey = some fingerprint

/-- For one attempt the validator remembers one specification. -/
theorem Backed.eq {validator : LaunchSpecValidator} {spec spec' : LaunchSpec}
    (h : Backed validator spec) (h' : Backed validator spec')
    (hkey : spec.dedupeKey = spec'.dedupeKey) : spec = spec' := by
  rcases h with ⟨payload, fingerprint, hkeys, hspec, hprint, hget⟩
  rcases h' with ⟨payload', fingerprint', hkeys', hspec', hprint', hget'⟩
  rw [hkey, hget'] at hget
  cases hget
  exact spec_eq_of_fingerprint hkeys hkeys' hspec hspec' hprint hprint'

/-- What is remembered stays. -/
theorem validate_keeps {validator : LaunchSpecValidator} {room : Nat} {payload : PyVal}
    {key : String × Int} {fingerprint : String} (h : validator.get? key = some fingerprint) :
    (validate validator room payload).2.get? key = some fingerprint := by
  rcases validate_cases validator room payload with ⟨e, heq⟩ | ⟨spec, print, -, -, hok⟩
  · rw [heq]
    exact h
  · rcases hok with ⟨-, heq⟩ | ⟨hnone, heq⟩
    · rw [heq]
      exact h
    · have hne : spec.dedupeKey ≠ key := by
        rintro rfl
        rw [h] at hnone
        cases hnone
      rw [heq]
      dsimp only
      rw [get?_accept, if_neg hne, h]

theorem Backed.validate {validator : LaunchSpecValidator} {spec : LaunchSpec}
    (h : Backed validator spec) (room : Nat) (payload : PyVal) :
    Backed (Bootstrap.validate validator room payload).2 spec := by
  rcases h with ⟨payload', fingerprint, hkeys, hspec, hprint, hget⟩
  exact ⟨payload', fingerprint, hkeys, hspec, hprint, validate_keeps hget⟩

/-- What is accepted is what the remembered payload specifies. -/
theorem validate_backed {validator : LaunchSpecValidator} {room : Nat} {payload : PyVal}
    (hkeys : payload.WellKeyed) {spec : LaunchSpec}
    (h : (validate validator room payload).1 = .ok spec) :
    Backed (validate validator room payload).2 spec := by
  rcases validate_cases validator room payload with ⟨e, heq⟩ | ⟨spec', fingerprint, hspec, hprint, hok⟩
  · rw [heq] at h
    cases h
  · have hencode := encode_of_fingerprint hprint
    rcases hok with ⟨hget, heq⟩ | ⟨hget, heq⟩
    · rw [heq] at h ⊢
      cases h
      exact ⟨payload, fingerprint, hkeys, hspec, hencode, hget⟩
    · rw [heq] at h ⊢
      cases h
      refine ⟨payload, fingerprint, hkeys, hspec, hencode, ?_⟩
      dsimp only
      rw [get?_accept, hget]
      simp

/-! ## All calls -/

/-- A call: a payload whose dictionaries have no key twice, and the room for nesting. -/
structure Call where
  payload : PyVal
  wellKeyed : payload.WellKeyed
  room : Nat

/-- The validator after some calls. -/
def afterCalls (validator : LaunchSpecValidator) : List Call → LaunchSpecValidator
  | [] => validator
  | call :: calls => afterCalls (validate validator call.room call.payload).2 calls

/-- What each call returns or raises. -/
def outcomes (validator : LaunchSpecValidator) : List Call → List (Except ValidateError LaunchSpec)
  | [] => []
  | call :: calls =>
      (validate validator call.room call.payload).1 ::
        outcomes (validate validator call.room call.payload).2 calls

theorem length_outcomes (validator : LaunchSpecValidator) (calls : List Call) :
    (outcomes validator calls).length = calls.length := by
  induction calls generalizing validator with
  | nil => rfl
  | cons call calls ih => simpa [outcomes] using ih _

theorem outcomes_append (validator : LaunchSpecValidator) (calls calls' : List Call) :
    outcomes validator (calls ++ calls') =
      outcomes validator calls ++ outcomes (afterCalls validator calls) calls' := by
  induction calls generalizing validator with
  | nil => rfl
  | cons call calls ih =>
      rw [List.cons_append, outcomes, outcomes, ih]
      rfl

theorem Backed.afterCalls {validator : LaunchSpecValidator} {spec : LaunchSpec}
    (h : Backed validator spec) (calls : List Call) :
    Backed (Bootstrap.afterCalls validator calls) spec := by
  induction calls generalizing validator with
  | nil => exact h
  | cons call calls ih => exact ih (h.validate call.room call.payload)

/-- Everything that has been accepted is remembered in the end. -/
theorem backed_of_mem_outcomes {validator : LaunchSpecValidator} {calls : List Call}
    {spec : LaunchSpec} (h : .ok spec ∈ outcomes validator calls) :
    Backed (afterCalls validator calls) spec := by
  induction calls generalizing validator with
  | nil => cases h
  | cons call calls ih =>
      rw [outcomes, List.mem_cons] at h
      rcases h with h | h
      · exact (validate_backed call.wellKeyed h.symm).afterCalls calls
      · exact ih h

/-- The outcomes of the calls after some others. -/
theorem drop_outcomes (validator : LaunchSpecValidator) (calls calls' : List Call) :
    (outcomes validator (calls ++ calls')).drop calls.length =
      outcomes (afterCalls validator calls) calls' := by
  rw [outcomes_append, ← length_outcomes validator calls, List.drop_left]

/-- A call that raises leaves the validator as it is. -/
theorem afterCalls_error {validator : LaunchSpecValidator} {call : Call} {e : ValidateError}
    (h : (validate validator call.room call.payload).1 = .error e) :
    afterCalls validator [call] = validator :=
  validate_error (e := e) (Prod.ext h rfl)

theorem afterCalls_append (validator : LaunchSpecValidator) (calls calls' : List Call) :
    afterCalls validator (calls ++ calls') = afterCalls (afterCalls validator calls) calls' := by
  induction calls generalizing validator with
  | nil => rfl
  | cons call calls ih => exact ih _

/-- All specifications that are accepted for one attempt are equal, and the calls after one that
raises have the outcomes that they have without it. -/
theorem launch_payload_immutable (calls : List Call) :
    (∀ spec spec' : LaunchSpec, .ok spec ∈ outcomes {} calls → .ok spec' ∈ outcomes {} calls →
      spec.runtimeId = spec'.runtimeId → spec.launchAttempt = spec'.launchAttempt →
        spec = spec') ∧
      ∀ (call : Call) (e : ValidateError) (later : List Call),
        (validate (afterCalls {} calls) call.room call.payload).1 = .error e →
          (outcomes {} (calls ++ call :: later)).drop (calls.length + 1) =
            (outcomes {} (calls ++ later)).drop calls.length := by
  constructor
  · intro spec spec' h h' hruntime hattempt
    exact (backed_of_mem_outcomes h).eq (backed_of_mem_outcomes h') (Prod.ext hruntime hattempt)
  · intro call e later herror
    have hsplit : calls ++ call :: later = (calls ++ [call]) ++ later := by simp
    have hlength : calls.length + 1 = (calls ++ [call]).length := by simp
    rw [hsplit, hlength, drop_outcomes, drop_outcomes, afterCalls_append, afterCalls_error herror]

/-- A call with the payload for paper trading. -/
def paperCall : Call where
  payload := paperPayload none
  wellKeyed := wellKeyed_paperPayload none
  room := 900

/-- A call with a payload that has no fields. -/
def emptyCall : Call where
  payload := .dict []
  wellKeyed := by simp [PyVal.WellKeyed, WellKeyedFields]
  room := 900

theorem paper_payload_immutable :
    (∀ spec, .ok spec ∈ outcomes {} [paperCall, paperCall] → spec.runtimeId = "rt-1" →
      spec.launchAttempt = 1 → spec = paperSpec none) ∧
      (outcomes {} ([paperCall] ++ emptyCall :: [paperCall])).drop 2 =
        (outcomes {} ([paperCall] ++ [paperCall])).drop 1 := by
  have hmem : .ok (paperSpec none) ∈ outcomes {} [paperCall, paperCall] := by decide +kernel
  have hraises : ∃ e, (validate (afterCalls {} [paperCall]) emptyCall.room
      emptyCall.payload).1 = .error e := ⟨_, rfl⟩
  rcases hraises with ⟨e, hraises⟩
  refine ⟨fun spec h hruntime hattempt => ?_, ?_⟩
  · exact (launch_payload_immutable [paperCall, paperCall]).1 spec _ h hmem hruntime hattempt
  · exact (launch_payload_immutable [paperCall]).2 emptyCall e [paperCall] hraises

end Bootstrap
end StrategyWorker
