import StrategyWorker.Bootstrap.MarketFields

/-!
# How the mapper fails

The mapper reads the values of a payload one after the other: the time when
there is no {lit}`ts_ms`, the symbol, the numbers, the time of the event.  A value
that cannot be read ends the mapping with an {lit}`EventMappingError`, except for
a few that raise what the conversion of the language raises.

Main results:

- Theorem {lit}`MarketKind.build_eq_ok_iff`: an event is built from the values of
  its fields.
- Theorem {lit}`fromPayload_of_mapEvent`: the numbers of a mapped event come from
  the payload.
- Theorem {lit}`maps_own_way_iff`: which payloads are mapped or refused, without
  any other exception.
-/

namespace StrategyWorker
namespace Bootstrap

open Library
open Library.PyText
open Library.Binary64
open Integration

/-! ## Exceptions of a conversion -/

/-- Something else than an {lit}`EventMappingError` is raised. -/
def Escapes {α : Type} (r : Except MapError α) : Prop :=
  ∃ e, r = .error (.py e)

section

variable {α β : Type}

@[simp]
theorem not_escapes_ok (a : α) : ¬ Escapes (.ok a : Except MapError α) := by
  rintro ⟨e, he⟩
  cases he

@[simp]
theorem not_escapes_pure (a : α) : ¬ Escapes (pure a : Except MapError α) :=
  not_escapes_ok a

@[simp]
theorem not_escapes_mapping (reason : String) (details : List (String × String)) :
    ¬ Escapes (.error (.mapping reason details) : Except MapError α) := by
  rintro ⟨e, he⟩
  cases he

@[simp]
theorem not_escapes_missing (fieldName : String) :
    ¬ Escapes (.error (missingRequiredField fieldName) : Except MapError α) :=
  not_escapes_mapping _ _

@[simp]
theorem not_escapes_invalid (fieldName expected : String) :
    ¬ Escapes (.error (invalidFieldType fieldName expected) : Except MapError α) :=
  not_escapes_mapping _ _

@[simp]
theorem escapes_py (e : PyError) : Escapes (.error (.py e) : Except MapError α) :=
  ⟨e, rfl⟩

/-- The second step raises when the first one is done. -/
theorem escapes_bind {x : Except MapError α} {f : α → Except MapError β} :
    Escapes (x >>= f) ↔ Escapes x ∨ ∃ a, x = .ok a ∧ Escapes (f a) := by
  cases x with
  | error e => simp [Escapes, bind, Except.bind]
  | ok a => simp [bind, Except.bind]

@[simp]
theorem escapes_map {x : Except MapError α} {f : α → β} : Escapes (x.map f) ↔ Escapes x := by
  cases x <;> simp [Escapes, Except.map]

theorem map_eq_ok {x : Except MapError α} {f : α → β} {b : β} :
    x.map f = .ok b ↔ ∃ a, x = .ok a ∧ f a = b := by
  cases x <;> simp [Except.map]

theorem escapes_raisePy {r : Except PyError α} : Escapes (raisePy r) ↔ ∃ e, r = .error e := by
  cases r <;> simp [raisePy]

theorem escapes_orInvalid {fieldName expected : String} {r : Except PyError α} :
    Escapes (orInvalid fieldName expected r) ↔ ∃ e, r = .error e ∧ e ≠ .valueError := by
  cases r with
  | ok a => simp [orInvalid]
  | error e => cases e <;> simp [orInvalid]

theorem orInvalid_eq_ok_iff {fieldName expected : String} {r : Except PyError α} {a : α} :
    orInvalid fieldName expected r = .ok a ↔ r = .ok a := by
  cases r with
  | ok b => simp [orInvalid]
  | error e => cases e <;> simp [orInvalid]

theorem orInvalidAny_eq_ok_iff {fieldName expected : String} {r : Except PyError α} {a : α} :
    orInvalidAny fieldName expected r = .ok a ↔ r = .ok a := by
  cases r <;> simp [orInvalidAny]

@[simp]
theorem not_escapes_orInvalidAny {fieldName expected : String} (r : Except PyError α) :
    ¬ Escapes (orInvalidAny fieldName expected r) := by
  cases r <;> simp [orInvalidAny]

end

/-! ## Readings -/

/-- A value of the payload and what it is read as. -/
inductive Reading where
  | text (value : PyVal)
  | number (value : PyVal)
  | integer (value : PyVal)
  | mapping (value : PyVal)
  | time (kind : MarketKind) (value : PyVal)

/-- An integer that is beyond all floats. -/
def NumberEscapes (value : PyVal) : Prop :=
  ∃ n, value = .int n ∧ floatLimit ≤ |fl n|

/-- A float that is no number of finite size, or a text of an infinite one. -/
def IntegerEscapes (value : PyVal) : Prop :=
  (∃ f, value = .float f ∧ ∀ q, f ≠ .finite q) ∨
    ∃ s negative, value = .str s ∧ floatOfText (strip s) = some (.infinite negative)

/-- A text of a time that is outside the calendar in UTC. -/
def TextTimeEscapes (value : PyVal) : Prop :=
  ∃ s dt, value = .str s ∧ parseIsoText s = some dt ∧ dt.naiveAsUtc.astimezoneUtc = none

/-- The value is no text of a time. -/
def IsNoTextTime (value : PyVal) : Prop :=
  ∀ s, value = .str s → parseIsoText s = none

namespace Reading

/-- The values that raise another exception. -/
def Escapes : Reading → Prop
  | text _ | mapping _ => False
  | number value => NumberEscapes value
  | integer value => IntegerEscapes value
  | time .bar value => TextTimeEscapes value ∨ IsNoTextTime value ∧ IntegerEscapes value
  | time _ value => TextTimeEscapes value

/-- The values that are read. -/
def Readable : Reading → Prop
  | text value => ∃ s, value = .str s ∧ s ≠ ""
  | number value => ∃ x, coerceFloat value "" = .ok x
  | integer value => ∃ n, coerceInt value "" = .ok n
  | mapping value => value = .none ∨ ∃ fields, value = .dict fields
  | time kind value => ∃ t, kind.timeOf value = .ok t

end Reading

theorem not_escapes_text (value : PyVal) : ¬ (Reading.text value).Escapes :=
  fun h => h

theorem not_escapes_mappingReading (value : PyVal) : ¬ (Reading.mapping value).Escapes :=
  fun h => h

/-- The first value that cannot be read raises no other exception. -/
def OwnWay : List Reading → Prop
  | [] => True
  | r :: rs => ¬ r.Escapes ∧ (r.Readable → OwnWay rs)

attribute [local simp] Reading.Escapes Reading.Readable OwnWay parseIsoToTsMs in
theorem not_ownWay_nil : ¬ OwnWay [] ↔ False := by
  simp [OwnWay]

/-- A reading raises, or it is done and a later one raises. -/
theorem not_ownWay_cons {r : Reading} {rs : List Reading} :
    ¬ OwnWay (r :: rs) ↔ r.Escapes ∨ r.Readable ∧ ¬ OwnWay rs := by
  simp only [OwnWay, not_and_or, not_not, Classical.not_imp]

/-! ## One reading -/

theorem numberEscapes_iff {value : PyVal} {fieldName : String} :
    Escapes (coerceFloat value fieldName) ↔ NumberEscapes value := by
  cases value with
  | int n =>
      have hraise : (∃ e, floatOfInt n = .error e) ↔ floatLimit ≤ |fl n| := by
        unfold floatOfInt
        split
        · rename_i hlt
          simp [hlt]
        · rename_i hle
          simpa using le_of_not_gt hle
      simp [coerceFloat, escapes_raisePy, hraise, NumberEscapes]
  | str s =>
      have hvalue : ∀ e, (PyVal.str (strip s)).toFloat = .error e → e = .valueError := by
        intro e he
        unfold PyVal.toFloat at he
        cases hf : floatOfText (strip s) with
        | none =>
            rw [hf] at he
            exact (Except.error.inj he).symm
        | some f =>
            rw [hf] at he
            cases he
      have hnone : ¬ Escapes (coerceFloat (.str s) fieldName) := by
        unfold coerceFloat
        rw [escapes_orInvalid]
        rintro ⟨e, he, hne⟩
        exact hne (hvalue e he)
      simp [hnone, NumberEscapes]
  | _ => simp [coerceFloat, NumberEscapes]

theorem integerEscapes_iff {value : PyVal} {fieldName : String} :
    Escapes (coerceInt value fieldName) ↔ IntegerEscapes value := by
  cases value with
  | float f => cases f <;> simp [coerceInt, escapes_raisePy, intOfFloat, IntegerEscapes]
  | str s =>
      unfold coerceInt IntegerEscapes
      rw [escapes_orInvalid]
      cases hf : floatOfText (strip s) with
      | none => simp [PyVal.toFloat, hf, Except.bind]
      | some f => cases f <;> simp [PyVal.toFloat, hf, Except.bind, intOfFloat]
  | _ => simp [coerceInt, IntegerEscapes]

/-- A text of a time is converted to UTC. -/
theorem parseIsoToTsMs_of_some {s : String} {dt : PyDateTime} (h : parseIsoText s = some dt) :
    parseIsoToTsMs (.str s) = raisePy ((utcDatetimeToEpochMillis dt).map some) := by
  simp [parseIsoToTsMs, h]

theorem parseIsoToTsMs_of_none {value : PyVal} (h : IsNoTextTime value) :
    parseIsoToTsMs value = .ok none := by
  cases value with
  | str s => simp [parseIsoToTsMs, h s rfl]
  | _ => rfl

theorem textTimeEscapes_iff {value : PyVal} :
    Escapes (parseIsoToTsMs value) ↔ TextTimeEscapes value := by
  unfold TextTimeEscapes
  cases value with
  | str s =>
      cases hparse : parseIsoText s with
      | none => simp [parseIsoToTsMs, hparse]
      | some dt =>
          rw [parseIsoToTsMs_of_some hparse, escapes_raisePy]
          cases hutc : dt.naiveAsUtc.astimezoneUtc <;>
            simp [utcDatetimeToEpochMillis, astimezoneUtc, hutc, Except.map, bind, Except.bind,
              pure, Except.pure, hparse]
  | _ => simp [parseIsoToTsMs]

theorem parseIsoToTsMs_eq_none_iff {value : PyVal} :
    parseIsoToTsMs value = .ok none ↔ IsNoTextTime value := by
  constructor
  · intro h s hs
    subst hs
    cases hparse : parseIsoText s with
    | none => rfl
    | some dt =>
        rw [parseIsoToTsMs_of_some hparse] at h
        cases hms : utcDatetimeToEpochMillis dt with
        | error e =>
            rw [hms] at h
            cases h
        | ok ms =>
            rw [hms] at h
            cases Except.ok.inj h
  · exact parseIsoToTsMs_of_none

theorem escapes_barTimeOf_iff {value : PyVal} :
    Escapes (barTimeOf value) ↔
      TextTimeEscapes value ∨ IsNoTextTime value ∧ IntegerEscapes value := by
  have hnumber : Escapes (barTimeOf value) ↔ TextTimeEscapes value ∨
      parseIsoToTsMs value = .ok none ∧ Escapes (coerceInt value "ts_ms") := by
    rw [← textTimeEscapes_iff]
    unfold barTimeOf
    cases hparse : parseIsoToTsMs value with
    | error e => simp [bind, Except.bind, Escapes]
    | ok t =>
        cases t with
        | some ms => simp [bind, Except.bind]
        | none =>
            cases value with
            | none => simp [bind, Except.bind, PyVal.isNone, coerceInt]
            | _ =>
                simp only [bind, Except.bind, PyVal.isNone, Bool.false_eq_true, if_false,
                  not_escapes_ok, false_or, true_and]
                split
                · rename_i hms
                  simp [hms]
                · rename_i hms
                  simp [hms]
                · rename_i e hother hms
                  cases e with
                  | mapping reason details => exact absurd rfl (hother reason details)
                  | py e => simp [hms]
  rw [hnumber, integerEscapes_iff, parseIsoToTsMs_eq_none_iff]

theorem timeEscapes_iff {kind : MarketKind} {value : PyVal} :
    Escapes (kind.timeOf value) ↔ (Reading.time kind value).Escapes := by
  cases kind with
  | bar => exact escapes_barTimeOf_iff
  | quote => exact textTimeEscapes_iff
  | tick => exact textTimeEscapes_iff

/-! ## Fields of an aligned payload -/

section

variable {payload : PyDict} {name : String}

/-- A required text is there or the mapper refuses it in its own way. -/
theorem not_escapes_requireStr (payload : PyDict) (name : String) :
    ¬ Escapes (requireStr payload name) := by
  unfold requireStr
  split
  · exact not_escapes_missing _
  · split
    · exact not_escapes_mapping _ _
    · exact not_escapes_ok _
  · exact not_escapes_invalid _ _

theorem get_of_requireStr {text : String} (h : requireStr payload name = .ok text) :
    payload.get name = .str text := by
  unfold requireStr at h
  unfold PyDict.get
  split at h
  · cases h
  · rename_i t hget
    split at h
    · cases h
    · obtain rfl := Except.ok.inj h
      rw [hget]
      rfl
  · cases h

theorem readable_text_iff :
    (∃ s, requireStr payload name = .ok s) ↔ (Reading.text (payload.get name)).Readable := by
  constructor
  · rintro ⟨s, hs⟩
    unfold requireStr at hs
    unfold PyDict.get
    split at hs
    · cases hs
    · rename_i t hget
      split at hs
      · cases hs
      · rename_i hne
        rw [hget]
        exact ⟨t, rfl, hne⟩
    · cases hs
  · rintro ⟨s, hs, hne⟩
    exact ⟨s, requireStr_of_get hs hne⟩

/-- Which field is read shows in the error only. -/
theorem coerceFloat_eq_ok_congr {value : PyVal} {fieldName fieldName' : String} {x : PyFloat} :
    coerceFloat value fieldName = .ok x ↔ coerceFloat value fieldName' = .ok x := by
  cases value with
  | scalar v => simp only [coerceFloat, orInvalidAny_eq_ok_iff]
  | str s => simp only [coerceFloat, orInvalid_eq_ok_iff]
  | _ => simp [coerceFloat]

theorem coerceInt_eq_ok_congr {value : PyVal} {fieldName fieldName' : String} {n : Int} :
    coerceInt value fieldName = .ok n ↔ coerceInt value fieldName' = .ok n := by
  cases value with
  | scalar v => simp only [coerceInt, orInvalidAny_eq_ok_iff]
  | str s => simp only [coerceInt, orInvalid_eq_ok_iff]
  | _ => simp [coerceInt]

/-- A required number is read from the value of its field. -/
theorem requireFloat_eq_ok_iff {x : PyFloat} :
    requireFloat payload name = .ok x ↔ coerceFloat (payload.get name) name = .ok x := by
  constructor
  · intro h
    unfold requireFloat at h
    unfold PyDict.get
    split at h
    · cases h
    · rename_i value hget
      rw [hget]
      exact h
  · exact requireFloat_of_get

theorem requireInt_eq_ok_iff {n : Int} :
    requireInt payload name = .ok n ↔ coerceInt (payload.get name) name = .ok n := by
  unfold requireInt PyDict.get
  cases payload.get? name <;> simp [coerceInt]

theorem escapes_requireFloat_iff :
    Escapes (requireFloat payload name) ↔ (Reading.number (payload.get name)).Escapes := by
  unfold requireFloat PyDict.get
  cases payload.get? name with
  | none => simp [Reading.Escapes, NumberEscapes]
  | some value => exact numberEscapes_iff

theorem readable_number_iff :
    (∃ x, requireFloat payload name = .ok x) ↔ (Reading.number (payload.get name)).Readable := by
  simp only [requireFloat_eq_ok_iff, Reading.Readable]
  exact exists_congr fun x => coerceFloat_eq_ok_congr

theorem escapes_requireInt_iff :
    Escapes (requireInt payload name) ↔ (Reading.integer (payload.get name)).Escapes := by
  unfold requireInt PyDict.get
  cases payload.get? name with
  | none => simp [Reading.Escapes, IntegerEscapes]
  | some value => exact integerEscapes_iff

theorem readable_integer_iff :
    (∃ n, requireInt payload name = .ok n) ↔ (Reading.integer (payload.get name)).Readable := by
  simp only [requireInt_eq_ok_iff, Reading.Readable]
  exact exists_congr fun n => coerceInt_eq_ok_congr

end

/-! ## Building an event -/

/-- The event of a kind with a symbol, numbers in their order, and a time. -/
def MarketKind.event : MarketKind → String → List PyFloat → Int → Option MappedEvent
  | .bar, symbol, [opening, high, low, close, volume], tsMs =>
      some (.bar ⟨"market.bar", symbol, opening, high, low, close, volume, tsMs⟩)
  | .quote, symbol, [bid, ask, bidSize, askSize], tsMs =>
      some (.quote ⟨"market.quote", symbol, bid, ask, bidSize, askSize, tsMs⟩)
  | .tick, symbol, [price, size], tsMs => some (.tick ⟨"market.tick", symbol, price, size, tsMs⟩)
  | _, _, _, _ => none

/-- Numbers that are read from the values of their fields. -/
def NumbersRead (kind : MarketKind) (value : String × List String → PyVal)
    (numbers : List PyFloat) : Prop :=
  List.Forall₂ (fun field x => coerceFloat (value field) field.1 = .ok x) kind.numbers numbers

/-- An event is built from the values of its fields. -/
theorem MarketKind.build_eq_ok_iff {kind : MarketKind} {p : PyDict} {event : MappedEvent} :
    kind.build p = .ok event ↔ ∃ symbol numbers tsMs, requireStr p "symbol" = .ok symbol ∧
      NumbersRead kind (fun field => p.get field.1) numbers ∧
      coerceInt (p.get "ts_ms") "ts_ms" = .ok tsMs ∧
      kind.event symbol numbers tsMs = some event := by
  simp only [NumbersRead, ← requireFloat_eq_ok_iff, ← requireInt_eq_ok_iff]
  constructor
  · intro h
    cases kind with
    | bar =>
        simp only [build, map_eq_ok, buildBar, bind_eq_ok] at h
        rcases h with ⟨built, ⟨symbol, hsymbol, o, ho, hi, hhi, lo, hlo, c, hc, v, hv, tsMs, hts,
          hbuilt⟩, rfl⟩
        obtain rfl := Except.ok.inj hbuilt
        exact ⟨symbol, [o, hi, lo, c, v], tsMs, hsymbol, by simp [numbers, *], hts, rfl⟩
    | quote =>
        simp only [build, map_eq_ok, buildQuote, bind_eq_ok] at h
        rcases h with ⟨built, ⟨symbol, hsymbol, b, hb, a, ha, bs, hbs, as, has, tsMs, hts,
          hbuilt⟩, rfl⟩
        obtain rfl := Except.ok.inj hbuilt
        exact ⟨symbol, [b, a, bs, as], tsMs, hsymbol, by simp [numbers, *], hts, rfl⟩
    | tick =>
        simp only [build, map_eq_ok, buildTick, bind_eq_ok] at h
        rcases h with ⟨built, ⟨symbol, hsymbol, pr, hpr, sz, hsz, tsMs, hts, hbuilt⟩, rfl⟩
        obtain rfl := Except.ok.inj hbuilt
        exact ⟨symbol, [pr, sz], tsMs, hsymbol, by simp [numbers, *], hts, rfl⟩
  · rintro ⟨symbol, xs, tsMs, hsymbol, hnumbers, hts, hevent⟩
    cases kind with
    | bar =>
        simp only [numbers, List.forall₂_cons_left_iff, List.forall₂_nil_left_iff] at hnumbers
        rcases hnumbers with ⟨o, -, ho, ⟨hi, -, hhi, ⟨lo, -, hlo, ⟨c, -, hc, ⟨v, -, hv, rfl, rfl⟩,
          rfl⟩, rfl⟩, rfl⟩, rfl⟩
        obtain rfl := Option.some.inj hevent
        simp [build, buildBar, hsymbol, ho, hhi, hlo, hc, hv, hts, bind, Except.bind, Except.map,
          pure, Except.pure]
    | quote =>
        simp only [numbers, List.forall₂_cons_left_iff, List.forall₂_nil_left_iff] at hnumbers
        rcases hnumbers with ⟨b, -, hb, ⟨a, -, ha, ⟨bs, -, hbs, ⟨as, -, has, rfl, rfl⟩, rfl⟩, rfl⟩,
          rfl⟩
        obtain rfl := Option.some.inj hevent
        simp [build, buildQuote, hsymbol, hb, ha, hbs, has, hts, bind, Except.bind, Except.map,
          pure, Except.pure]
    | tick =>
        simp only [numbers, List.forall₂_cons_left_iff, List.forall₂_nil_left_iff] at hnumbers
        rcases hnumbers with ⟨pr, -, hpr, ⟨sz, -, hsz, rfl, rfl⟩, rfl⟩
        obtain rfl := Option.some.inj hevent
        simp [build, buildTick, hsymbol, hpr, hsz, hts, bind, Except.bind, Except.map, pure,
          Except.pure]

/-- What the builder of a kind reads, in order. -/
def buildReadings (kind : MarketKind) (p : PyDict) : List Reading :=
  .text (p.get "symbol") :: kind.numbers.map (fun field => .number (p.get field.1)) ++
    [.integer (p.get "ts_ms")]

theorem escapes_build_iff {kind : MarketKind} {p : PyDict} :
    Escapes (kind.build p) ↔ ¬ OwnWay (buildReadings kind p) := by
  cases kind <;>
    simp only [MarketKind.build, escapes_map, buildBar, buildQuote, buildTick, escapes_bind,
      not_escapes_pure, not_escapes_requireStr, and_false, exists_const, or_false,
      false_or, escapes_requireFloat_iff, escapes_requireInt_iff, exists_and_right,
      readable_number_iff, readable_text_iff, buildReadings, MarketKind.numbers, List.map_cons,
      List.map_nil, List.cons_append, List.nil_append, not_ownWay_cons, not_ownWay_nil,
      not_escapes_text]

/-! ## A whole payload -/

/-- The kind of a market payload by its type. -/
def kindOf? : PyVal → Option MarketKind
  | .str s => [MarketKind.bar, .quote, .tick].find? fun kind => kind.eventType = s
  | _ => none

/-- What the mapper reads of a market payload, in order. -/
def marketReadings (kind : MarketKind) (payload : PyDict) : List Reading :=
  (if (pickTsMs payload).isNone && !payload.contains "ts_ms" then
    [.time kind (pickField (filled kind payload) kind.timeNames)] else []) ++
  (.text (pickField payload MarketKind.symbolField.2) ::
    kind.numbers.map (fun field => .number (pickField payload field.2)) ++
      [.integer (payload.get "ts_ms")])

def timerReadings (payload : PyDict) : List Reading :=
  [.mapping (payload.get "metadata"), .text (payload.get "timer_id"),
    .integer (payload.get "scheduled_at_ms")]

/-- What the mapper reads of a payload, in order. -/
def readings (rawEvent : PyDict) : List Reading :=
  let payload := alignType rawEvent
  match kindOf? (payload.get "type") with
  | some kind => marketReadings kind payload
  | none =>
      match payload.get "type" with
      | .str "timer" => timerReadings payload
      | _ => []

section

variable {kind : MarketKind} {rawEvent payload : PyDict}

theorem alignType_alignType (rawEvent : PyDict) :
    alignType (alignType rawEvent) = alignType rawEvent := by
  by_cases hcontains : (alignType rawEvent).contains "type" = true
  · rw [alignType, if_pos hcontains]
  · have hsame : alignType rawEvent = rawEvent := by
      unfold alignType at hcontains ⊢
      split at hcontains
      · rename_i hown
        exact absurd hown hcontains
      · rename_i hmissing
        rw [if_neg hmissing]
        split at hcontains
        · rename_i et
          split at hcontains
          · rename_i hempty
            rw [if_pos hempty]
          · exact absurd (by simp [PyDict.contains, PyDict.get?_set]) hcontains
        · rename_i hother
          rfl
    rw [hsame, hsame]

/-- The type of a payload is aligned before anything else. -/
theorem mapEvent_alignType (rawEvent : PyDict) :
    mapEvent (alignType rawEvent) = mapEvent rawEvent := by
  have hnormalize : normalizePayload (alignType rawEvent) = normalizePayload rawEvent := by
    simp only [normalizePayload, alignType_alignType]
  simp only [mapEvent, hnormalize]

theorem eq_of_kindOf? {v : PyVal} (h : kindOf? v = some kind) : v = .str kind.eventType := by
  cases v with
  | str s =>
      have htype := List.find?_some h
      rw [of_decide_eq_true htype]
  | _ => cases h

theorem kindOf?_eventType (kind : MarketKind) : kindOf? (.str kind.eventType) = some kind := by
  cases kind <;> decide

/-- The last reading decides by whether it raises. -/
theorem ownWay_append_singleton {rs : List Reading} {r r' : Reading} (h : r.Escapes ↔ r'.Escapes) :
    OwnWay (rs ++ [r]) ↔ OwnWay (rs ++ [r']) := by
  induction rs with
  | nil => simp [OwnWay, h]
  | cons first rs ih => simp only [List.cons_append, OwnWay, ih]

/-- An aligned payload has what was picked for its fields. -/
theorem get_alignTime {p : PyDict} (h : alignTime kind payload (filled kind payload) = .ok p)
    {field : String × List String} (hfield : field ∈ kind.fields) :
    p.get field.1 = pickField payload field.2 := by
  have hne : "ts_ms" ≠ field.1 := by
    intro heq
    have hmem : "ts_ms" ∈ kind.fields.map Prod.fst := heq ▸ List.mem_map_of_mem hfield
    revert hmem
    cases kind <;> decide
  rw [PyDict.get, get?_alignTime h hne, ← PyDict.get, get_filled hfield]

/-- The time of an aligned payload raises when the payload's own one does. -/
theorem escapes_time_alignTime {p : PyDict}
    (h : alignTime kind payload (filled kind payload) = .ok p) :
    (Reading.integer (p.get "ts_ms")).Escapes ↔
      (Reading.integer (payload.get "ts_ms")).Escapes := by
  have hts : (filled kind payload).get "ts_ms" = payload.get "ts_ms" := by
    rw [PyDict.get, get?_filled_tsMs, ← PyDict.get]
  unfold alignTime at h
  split at h
  · rename_i hmissing
    rcases bind_eq_ok.1 h with ⟨time, -, h⟩
    obtain rfl := Except.ok.inj h
    cases time with
    | none => rw [setTsMs, hts]
    | some ms =>
        have hnone : payload.get? "ts_ms" = none := by
          have hcontains := (Bool.and_eq_true_iff.1 hmissing).2
          rw [PyDict.contains, get?_filled_tsMs] at hcontains
          simpa using hcontains
        simp [setTsMs, PyDict.get, PyDict.get?_set, hnone, Reading.Escapes, IntegerEscapes]
  · obtain rfl := Except.ok.inj h
    rw [hts]

/-- Once aligned, a market payload is read by its builder. -/
theorem escapes_build_alignTime {p : PyDict}
    (h : alignTime kind payload (filled kind payload) = .ok p) :
    Escapes (kind.build p) ↔ ¬ OwnWay (.text (pickField payload MarketKind.symbolField.2) ::
      kind.numbers.map (fun field => .number (pickField payload field.2)) ++
        [.integer (payload.get "ts_ms")]) := by
  have hmem : MarketKind.symbolField ∈ kind.fields := by
    cases kind <;> decide
  have hsymbol : p.get "symbol" = pickField payload MarketKind.symbolField.2 :=
    get_alignTime h hmem
  have hnumbers : kind.numbers.map (fun field => Reading.number (p.get field.1)) =
      kind.numbers.map (fun field => Reading.number (pickField payload field.2)) := by
    apply List.map_congr_left
    intro field hfield
    rw [get_alignTime h]
    cases kind <;> simp [MarketKind.fields, hfield]
  rw [escapes_build_iff, buildReadings, hsymbol, hnumbers]
  exact not_congr (ownWay_append_singleton (escapes_time_alignTime h))

/-- A payload without a time looks for one. -/
def LooksForTime (payload : PyDict) : Bool :=
  (pickTsMs payload).isNone && !payload.contains "ts_ms"

theorem alignTime_filled (kind : MarketKind) (payload : PyDict) :
    alignTime kind payload (filled kind payload) =
      if LooksForTime payload then
        (kind.timeOf (pickField (filled kind payload) kind.timeNames)).map
          (setTsMs (filled kind payload))
      else .ok (filled kind payload) := by
  unfold alignTime LooksForTime
  rw [PyDict.contains, get?_filled_tsMs, ← PyDict.contains]
  split
  · cases kind.timeOf (pickField (filled kind payload) kind.timeNames) <;> rfl
  · rfl

/-- A market payload raises another exception with its first value that cannot be read. -/
theorem escapes_mapEvent_market (h : payload.get "type" = .str kind.eventType) :
    Escapes (mapEvent payload) ↔ ¬ OwnWay (marketReadings kind payload) := by
  have hbind : Escapes (mapEvent payload) ↔
      Escapes (alignTime kind payload (filled kind payload)) ∨
        ∃ p, alignTime kind payload (filled kind payload) = .ok p ∧ Escapes (kind.build p) := by
    rw [mapEvent_market h]
    exact escapes_bind
  rw [hbind, marketReadings]
  cases hlooks : LooksForTime payload with
  | false =>
      have halign : alignTime kind payload (filled kind payload) = .ok (filled kind payload) := by
        rw [alignTime_filled, hlooks, if_neg (by simp)]
      rw [LooksForTime] at hlooks
      rw [hlooks, if_neg (by simp), List.nil_append, ← escapes_build_alignTime halign, halign]
      simp
  | true =>
      have halign : alignTime kind payload (filled kind payload) =
          (kind.timeOf (pickField (filled kind payload) kind.timeNames)).map
            (setTsMs (filled kind payload)) := by
        rw [alignTime_filled, hlooks, if_pos rfl]
      have hdone : (∃ p, alignTime kind payload (filled kind payload) = .ok p) ↔
          (Reading.time kind (pickField (filled kind payload) kind.timeNames)).Readable := by
        rw [halign]
        simp [map_eq_ok, Reading.Readable]
      rw [LooksForTime] at hlooks
      rw [hlooks, if_pos rfl, List.cons_append, List.nil_append, not_ownWay_cons, ← hdone,
        ← timeEscapes_iff]
      apply or_congr
      · rw [halign, escapes_map]
      · constructor
        · rintro ⟨p, hp, hbuild⟩
          exact ⟨⟨p, hp⟩, (escapes_build_alignTime hp).1 hbuild⟩
        · rintro ⟨⟨p, hp⟩, hbuild⟩
          exact ⟨p, hp, (escapes_build_alignTime hp).2 hbuild⟩

/-- A payload of no market kind is not aligned any further. -/
theorem normalizePayload_other (halign : alignType payload = payload)
    (h : kindOf? (payload.get "type") = none) : normalizePayload payload = .ok payload := by
  have hne (kind : MarketKind) : payload.get "type" ≠ .str kind.eventType := by
    intro heq
    rw [heq, kindOf?_eventType] at h
    cases h
  unfold normalizePayload
  dsimp only
  rw [halign]
  split
  · rename_i hbar
    exact absurd hbar (hne .bar)
  · rename_i hquote
    exact absurd hquote (hne .quote)
  · rename_i htick
    exact absurd htick (hne .tick)
  · rfl

/-- The metadata of a timer is read first. -/
theorem exists_metadata (eventType : String) (payload : PyDict) :
    ∃ metadata : Except MapError PyDict,
      buildTimer eventType payload = (do
        let fields ← metadata
        let timerId ← requireStr payload "timer_id"
        let scheduledAtMs ← requireInt payload "scheduled_at_ms"
        return ⟨eventType, timerId, scheduledAtMs, fields⟩) ∧
      ¬ Escapes metadata ∧
      ((∃ fields, metadata = .ok fields) ↔
        (Reading.mapping (payload.get "metadata")).Readable) := by
  unfold buildTimer Reading.Readable
  cases payload.get "metadata" with
  | none => exact ⟨.ok [], rfl, by simp, by simp⟩
  | dict fields => exact ⟨.ok fields, rfl, by simp, by simp⟩
  | _ => exact ⟨.error (invalidFieldType "metadata" "mapping"), rfl, by simp, by simp⟩

theorem escapes_buildTimer_iff :
    Escapes (buildTimer "timer" payload) ↔ ¬ OwnWay (timerReadings payload) := by
  rcases exists_metadata "timer" payload with ⟨metadata, hbuild, hnot, hreadable⟩
  rw [hbuild]
  simp only [escapes_bind, hnot, not_escapes_pure, not_escapes_requireStr, and_false, exists_const,
    or_false, false_or, escapes_requireInt_iff, exists_and_right, hreadable, readable_text_iff,
    timerReadings, not_ownWay_cons, not_ownWay_nil, not_escapes_text, not_escapes_mappingReading]

/-- A payload of no market kind is built as it is. -/
theorem mapEvent_other (halign : alignType payload = payload)
    (h : kindOf? (payload.get "type") = none) :
    mapEvent payload = (do
      let eventType ← requireStr payload "type"
      if eventType = "market.bar" then return .bar (← buildBar eventType payload)
      else if eventType = "market.quote" then return .quote (← buildQuote eventType payload)
      else if eventType = "market.tick" then return .tick (← buildTick eventType payload)
      else if eventType = "timer" then return .timer (← buildTimer eventType payload)
      else .error (.mapping "unsupported_event_type" [("event_type", eventType)])) := by
  unfold mapEvent
  rw [normalizePayload_other halign h]
  rfl

/-- A payload of another type raises another exception only as a timer. -/
theorem escapes_mapEvent_other (halign : alignType payload = payload)
    (h : kindOf? (payload.get "type") = none) :
    Escapes (mapEvent payload) ↔
      payload.get "type" = .str "timer" ∧ ¬ OwnWay (timerReadings payload) := by
  rw [mapEvent_other halign h]
  cases htype : requireStr payload "type" with
  | error e =>
      have hnot : payload.get "type" ≠ .str "timer" := by
        intro htimer
        rw [requireStr_of_get htimer (by decide)] at htype
        cases htype
      have hescapes := not_escapes_requireStr payload "type"
      rw [htype] at hescapes
      simp only [hnot, false_and, iff_false, escapes_bind]
      rintro (hesc | ⟨a, ha, -⟩)
      · exact hescapes hesc
      · cases ha
  | ok eventType =>
      have hget := get_of_requireStr htype
      have hne (kind : MarketKind) : eventType ≠ kind.eventType := by
        rintro rfl
        rw [hget, kindOf?_eventType] at h
        cases h
      have hbar : eventType ≠ "market.bar" := hne .bar
      have hquote : eventType ≠ "market.quote" := hne .quote
      have htick : eventType ≠ "market.tick" := hne .tick
      simp only [bind, Except.bind, hbar, hquote, htick, if_false, hget, PyVal.str.injEq]
      by_cases htimer : eventType = "timer"
      · subst htimer
        simp only [if_true, true_and, ← escapes_buildTimer_iff]
        exact escapes_map
      · simp only [htimer, if_false, false_and, iff_false]
        exact not_escapes_mapping _ _

/-- Another exception is raised by the first value that cannot be read, and by nothing else. -/
theorem escapes_mapEvent_iff (rawEvent : PyDict) :
    Escapes (mapEvent rawEvent) ↔ ¬ OwnWay (readings rawEvent) := by
  rw [← mapEvent_alignType]
  unfold readings
  dsimp only
  cases hkind : kindOf? ((alignType rawEvent).get "type") with
  | some kind => exact escapes_mapEvent_market (eq_of_kindOf? hkind)
  | none =>
      rw [escapes_mapEvent_other (alignType_alignType rawEvent) hkind]
      dsimp only
      split
      · rename_i htimer
        simp [htimer]
      · rename_i hother
        simp only [OwnWay, not_true_eq_false, iff_false]
        exact fun h => hother h.1

end

/-! ## Numbers from the payload -/

/-- The payload has the value under some key. -/
def HasValue (rawEvent : PyDict) (value : PyVal) : Prop :=
  value ∈ rawEvent.map Prod.snd

/-- The numbers of an event are read from values of the payload. -/
inductive FromPayload (rawEvent : PyDict) : MappedEvent → Prop where
  | market {kind : MarketKind} {symbol : String} {numbers : List PyFloat} {tsMs : Int}
      {event : MappedEvent} (value : String × List String → PyVal) (time : PyVal) :
      (∀ field ∈ kind.numbers, HasValue rawEvent (value field)) →
      NumbersRead kind value numbers → HasValue rawEvent time →
      coerceInt time "ts_ms" = .ok tsMs ∨ kind.timeOf time = .ok (some tsMs) →
      kind.event symbol numbers tsMs = some event → FromPayload rawEvent event
  | timer {timer : WireTimerEvent} (time : PyVal) : HasValue rawEvent time →
      coerceInt time "scheduled_at_ms" = .ok timer.scheduledAtMs →
      FromPayload rawEvent (.timer timer)

section

variable {rawEvent payload : PyDict} {value : PyVal}

theorem hasValue_of_get? {key : String} (h : payload.get? key = some value) :
    HasValue payload value := by
  unfold PyDict.get? at h
  rcases Option.map_eq_some_iff.1 h with ⟨f, hfind, rfl⟩
  exact List.mem_map_of_mem (List.mem_of_find?_eq_some hfind)

/-- What is found is a value of the payload. -/
theorem hasValue_get {key : String} (h : payload.get key ≠ .none) :
    HasValue payload (payload.get key) := by
  unfold PyDict.get at h ⊢
  cases hget : payload.get? key with
  | none =>
      rw [hget] at h
      exact absurd rfl h
  | some v => exact hasValue_of_get? hget

theorem hasValue_pickField {names : List String} (h : pickField payload names ≠ .none) :
    HasValue payload (pickField payload names) := by
  induction names with
  | nil => exact absurd rfl h
  | cons name names ih =>
      unfold pickField at h ⊢
      cases hget : payload.get? name with
      | some v =>
          dsimp only
          exact hasValue_of_get? hget
      | none =>
          rw [hget] at h
          dsimp only at h ⊢
          cases hlower : lowerKey payload (lower name) with
          | some key =>
              rw [hlower] at h
              exact hasValue_get h
          | none =>
              rw [hlower] at h
              exact ih h

theorem hasValue_set {key : String} {v : PyVal} (h : HasValue (payload.set key v) value) :
    value = v ∨ HasValue payload value := by
  induction payload with
  | nil => simpa [HasValue, PyDict.set] using h
  | cons f payload ih =>
      unfold PyDict.set at h
      unfold HasValue at h ih ⊢
      split at h
      · rcases List.mem_cons.1 h with hv | htail
        · exact Or.inl hv
        · exact Or.inr (List.mem_cons_of_mem _ htail)
      · rcases List.mem_cons.1 h with hv | htail
        · exact Or.inr (List.mem_cons.2 (.inl hv))
        · exact (ih htail).imp_right (List.mem_cons_of_mem _)

/-- A filled payload has no values of its own. -/
theorem hasValue_filled {kind : MarketKind} (h : HasValue (filled kind payload) value) :
    HasValue payload value := by
  have hfold (fields : List (String × List String)) (p : PyDict)
      (hp : ∀ v, HasValue p v → HasValue payload v) :
      ∀ v, HasValue (fields.foldl (fillPicked payload) p) v → HasValue payload v := by
    induction fields generalizing p with
    | nil => exact hp
    | cons field fields ih =>
        apply ih
        intro v hv
        unfold fillPicked fill at hv
        split at hv
        · exact hp v hv
        · rename_i hfill
          rcases hasValue_set hv with rfl | hv
          · apply hasValue_pickField
            intro hnone
            simp [hnone, PyVal.isNone] at hfill
          · exact hp v hv
  exact hfold kind.fields payload (fun _ hv => hv) value h

/-- The type is taken from another value of the payload. -/
theorem hasValue_alignType (h : HasValue (alignType rawEvent) value) : HasValue rawEvent value := by
  unfold alignType at h
  split at h
  · exact h
  split at h
  · rename_i et hget
    split at h
    · exact h
    · rcases hasValue_set h with rfl | h
      · have hne : rawEvent.get "event_type" ≠ .none := by
          rw [hget]
          nofun
        have hvalue := hasValue_get hne
        rwa [hget] at hvalue
      · exact h
  · exact h

/-- The time of an event is one of the payload's. -/
theorem time_of_alignTime {kind : MarketKind} {p : PyDict} {tsMs : Int}
    (h : alignTime kind payload (filled kind payload) = .ok p)
    (hts : coerceInt (p.get "ts_ms") "ts_ms" = .ok tsMs) :
    ∃ time, HasValue payload time ∧
      (coerceInt time "ts_ms" = .ok tsMs ∨ kind.timeOf time = .ok (some tsMs)) := by
  have hown (hsame : p.get "ts_ms" = payload.get "ts_ms") : ∃ time, HasValue payload time ∧
      (coerceInt time "ts_ms" = .ok tsMs ∨ kind.timeOf time = .ok (some tsMs)) := by
    rw [hsame] at hts
    refine ⟨payload.get "ts_ms", hasValue_get ?_, .inl hts⟩
    intro hnone
    rw [hnone] at hts
    cases hts
  have hfilled : (filled kind payload).get "ts_ms" = payload.get "ts_ms" := by
    rw [PyDict.get, get?_filled_tsMs, ← PyDict.get]
  rw [alignTime_filled] at h
  split at h
  · rcases map_eq_ok.1 h with ⟨time, htime, rfl⟩
    cases time with
    | none => exact hown hfilled
    | some ms =>
        have hms : ms = tsMs := by
          simpa [setTsMs, PyDict.get, PyDict.get?_set, coerceInt] using hts
        subst hms
        refine ⟨_, hasValue_filled (hasValue_pickField ?_), .inr htime⟩
        intro hnone
        rw [hnone] at htime
        cases kind <;> cases htime
  · obtain rfl := Except.ok.inj h
    exact hown hfilled

theorem exists_of_forall₂ {α β : Type} {R : α → β → Prop} {as : List α} {bs : List β}
    (h : List.Forall₂ R as bs) : ∀ a ∈ as, ∃ b, R a b := by
  induction h with
  | nil => simp
  | @cons a b as bs hab _ ih =>
      intro x hx
      rcases List.mem_cons.1 hx with rfl | hx
      · exact ⟨b, hab⟩
      · exact ih x hx

/-- The numbers of a mapped market event come from the payload. -/
theorem fromPayload_market {kind : MarketKind} {event : MappedEvent}
    (htype : payload.get "type" = .str kind.eventType) (h : mapEvent payload = .ok event) :
    FromPayload payload event := by
  rw [mapEvent_market htype] at h
  have hbind : (alignTime kind payload (filled kind payload)) >>= kind.build = .ok event := h
  rcases bind_eq_ok.1 hbind with ⟨p, hp, hbuild⟩
  rcases MarketKind.build_eq_ok_iff.1 hbuild with
    ⟨symbol, numbers, tsMs, -, hnumbers, hts, hevent⟩
  rcases time_of_alignTime hp hts with ⟨time, htime, hread⟩
  have hvalues : ∀ field ∈ kind.numbers, HasValue payload (p.get field.1) := by
    intro field hfield
    rcases exists_of_forall₂ hnumbers field hfield with ⟨x, hx⟩
    have hmem : field ∈ kind.fields := by
      cases kind <;> simp [MarketKind.fields, hfield]
    dsimp only at hx
    rw [get_alignTime hp hmem] at hx ⊢
    apply hasValue_pickField
    intro hnone
    rw [hnone] at hx
    cases hx
  exact .market _ time hvalues hnumbers htime hread hevent

/-- The time of a mapped timer comes from the payload. -/
theorem fromPayload_timer {timer : WireTimerEvent} {eventType : String}
    (h : buildTimer eventType payload = .ok timer) : FromPayload payload (.timer timer) := by
  have htime : coerceInt (payload.get "scheduled_at_ms") "scheduled_at_ms" =
      .ok timer.scheduledAtMs := by
    rw [← requireInt_eq_ok_iff]
    rcases exists_metadata eventType payload with ⟨metadata, hbuild, -, -⟩
    rw [hbuild] at h
    rcases bind_eq_ok.1 h with ⟨fields, -, h⟩
    rcases bind_eq_ok.1 h with ⟨timerId, -, h⟩
    rcases bind_eq_ok.1 h with ⟨scheduledAtMs, hscheduled, h⟩
    obtain rfl := Except.ok.inj h
    exact hscheduled
  refine .timer _ (hasValue_get ?_) htime
  intro hnone
  rw [hnone] at htime
  cases htime

theorem FromPayload.mono {event : MappedEvent}
    (hvalues : ∀ v, HasValue payload v → HasValue rawEvent v) (h : FromPayload payload event) :
    FromPayload rawEvent event := by
  cases h with
  | market value time hvalue hnumbers htime hread hevent =>
      exact .market value time (fun field hfield => hvalues _ (hvalue field hfield)) hnumbers
        (hvalues _ htime) hread hevent
  | timer time htime hread => exact .timer time (hvalues _ htime) hread

/-- The numbers of a mapped event come from the payload. -/
theorem fromPayload_of_mapEvent {event : MappedEvent} (h : mapEvent rawEvent = .ok event) :
    FromPayload rawEvent event := by
  rw [← mapEvent_alignType] at h
  apply FromPayload.mono fun v hv => hasValue_alignType hv
  cases hkind : kindOf? ((alignType rawEvent).get "type") with
  | some kind => exact fromPayload_market (eq_of_kindOf? hkind) h
  | none =>
      rw [mapEvent_other (alignType_alignType rawEvent) hkind] at h
      rcases bind_eq_ok.1 h with ⟨eventType, htype, h⟩
      have hget := get_of_requireStr htype
      have hne (kind : MarketKind) : eventType ≠ kind.eventType := by
        rintro rfl
        rw [hget, kindOf?_eventType] at hkind
        cases hkind
      have hbar : eventType ≠ "market.bar" := hne .bar
      have hquote : eventType ≠ "market.quote" := hne .quote
      have htick : eventType ≠ "market.tick" := hne .tick
      rw [if_neg hbar, if_neg hquote, if_neg htick] at h
      split at h
      · rcases bind_eq_ok.1 h with ⟨timer, htimer, h⟩
        obtain rfl := Except.ok.inj h
        exact fromPayload_timer htimer
      · cases h

end

/-! ## The mapper's own way -/

/-- Dictionaries by address. -/
abbrev Heap := List PyDict

/-- {lit}`map_event` of the dictionary at an address: what is aligned is a copy. -/
def mapEventAt (heap : Heap) (address : Fin heap.length) : Heap × Except MapError MappedEvent :=
  let rawEvent := heap.get address
  let copied := heap ++ [rawEvent]
  match normalizePayload rawEvent with
  | .ok payload => (copied.set heap.length payload, mapEvent rawEvent)
  | .error e => (copied, .error e)

/-- A call of {lit}`map_event` returns an event with numbers of the payload or raises an
{lit}`EventMappingError`, and the dictionaries that were there are as before. -/
def MapsOwnWay (heap : Heap) (address : Fin heap.length) : Prop :=
  (∀ i < heap.length, (mapEventAt heap address).1[i]? = heap[i]?) ∧
    match (mapEventAt heap address).2 with
    | .ok event => FromPayload (heap.get address) event
    | .error (.mapping _ _) => True
    | .error (.py _) => False

theorem mapEventAt_snd (heap : Heap) (address : Fin heap.length) :
    (mapEventAt heap address).2 = mapEvent (heap.get address) := by
  unfold mapEventAt
  dsimp only
  split
  · rfl
  · rename_i e herror
    unfold mapEvent
    rw [herror]
    rfl

/-- Aligning writes to the copy only. -/
theorem mapEventAt_fst (heap : Heap) (address : Fin heap.length) {i : Nat} (h : i < heap.length) :
    (mapEventAt heap address).1[i]? = heap[i]? := by
  unfold mapEventAt
  dsimp only
  split
  · rw [List.getElem?_set_ne (Nat.ne_of_gt h), List.getElem?_append_left h]
  · exact List.getElem?_append_left h

/-- The mapper returns an event or raises its own error exactly when the first value that it cannot
read raises nothing else. -/
theorem maps_own_way_iff (heap : Heap) (address : Fin heap.length) :
    MapsOwnWay heap address ↔ OwnWay (readings (heap.get address)) := by
  have hescapes := escapes_mapEvent_iff (heap.get address)
  unfold MapsOwnWay
  rw [mapEventAt_snd, and_iff_right fun i hi => mapEventAt_fst heap address hi]
  cases hmap : mapEvent (heap.get address) with
  | ok event =>
      rw [hmap] at hescapes
      have hown := not_not.1 ((not_congr hescapes).1 (not_escapes_ok event))
      exact iff_of_true (fromPayload_of_mapEvent hmap) hown
  | error e =>
      rw [hmap] at hescapes
      cases e with
      | mapping reason details =>
          have hown := not_not.1 ((not_congr hescapes).1 (not_escapes_mapping reason details))
          exact iff_of_true trivial hown
      | py e => exact iff_of_false id (hescapes.1 (escapes_py e))

/-- A tick at an infinite time. -/
def infiniteTick : PyDict :=
  [("type", .str "market.tick"), ("symbol", .str "X"), ("price", .int 1), ("size", .int 1),
    ("ts_ms", .float (.infinite false))]

/-- The infinite time of a tick raises the exception of {lit}`int(…)`. -/
theorem infinite_time_escapes : ¬ ∀ (heap : Heap) (address : Fin heap.length),
    MapsOwnWay heap address := by
  intro h
  have hraises : (match mapEvent infiniteTick with
      | .error (.py _) => true
      | _ => false) = true := by decide +kernel
  have hown := (h [infiniteTick] ⟨0, by decide⟩).2
  rw [mapEventAt_snd] at hown
  have hget : List.get [infiniteTick] ⟨0, by decide⟩ = infiniteTick := rfl
  rw [hget] at hown
  split at hraises
  · rename_i e he
    rw [he] at hown
    exact hown
  · cases hraises

end Bootstrap
end StrategyWorker
