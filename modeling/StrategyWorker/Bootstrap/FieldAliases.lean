import StrategyWorker.Bootstrap.MapperErrors

/-!
# Fields under other names

A market payload in canonical form has every field under its own name.  The
mapper lists further names for each field and takes any letter case, so that a
payload with renamed fields is looked through for them.  The time
{lit}`ts_ms` is looked for under a second name as well, but what is found there
is not written back.

Main results:

- Theorem {lit}`mapEvent_market_iff`: a market payload is mapped by what is
  picked for its fields.
- Theorem {lit}`renamed_maps_alike_iff`: when a payload with renamed fields is
  mapped to the same event.
- Theorem {lit}`foundAlike_iff_of_aliasFree`: without further names in the
  payload, the name of the time decides.
-/

namespace StrategyWorker
namespace Bootstrap

open Library
open Library.PyText
open Library.Binary64
open Integration

/-! ## The key of a field -/

/-- The key under which {lit}`_pick_field` finds a value. -/
def foundKey (payload : PyDict) : List String → Option String
  | [] => none
  | name :: candidates =>
      if payload.contains name then some name
      else
        match lowerKey payload (lower name) with
        | some key => some key
        | none => foundKey payload candidates

/-- The key is one of the names in some letter case. -/
def IsNamed (names : List String) (key : String) : Prop :=
  lower key ∈ names.map lower

instance (names : List String) (key : String) : Decidable (IsNamed names key) :=
  inferInstanceAs (Decidable (_ ∈ _))

section

variable {payload : PyDict} {names : List String} {key name : String}

theorem contains_iff_mem : payload.contains key = true ↔ key ∈ payload.map Prod.fst := by
  unfold PyDict.contains PyDict.get?
  rw [Option.isSome_map, List.find?_isSome]
  simp

theorem lowerKey_eq_some (h : lowerKey payload name = some key) :
    key ∈ payload.map Prod.fst ∧ lower key = name := by
  rcases Option.map_eq_some_iff.1 h with ⟨f, hfind, rfl⟩
  have hmem := List.mem_reverse.1 (List.mem_of_find?_eq_some hfind)
  have hname := List.find?_some hfind
  exact ⟨List.mem_map_of_mem hmem, of_decide_eq_true hname⟩

theorem lowerKey_eq_none_iff :
    lowerKey payload name = none ↔ ∀ key ∈ payload.map Prod.fst, lower key ≠ name := by
  simp [lowerKey]

/-- The mapper picks what stands under the key that it finds. -/
theorem pickField_eq (payload : PyDict) (names : List String) :
    pickField payload names = (foundKey payload names).elim .none payload.get := by
  induction names with
  | nil => rfl
  | cons name names ih =>
      unfold pickField foundKey PyDict.contains
      cases hget : payload.get? name with
      | some v => simp [PyDict.get, hget]
      | none =>
          cases hlower : lowerKey payload (lower name) with
          | some key => simp
          | none => simpa [hlower] using ih

theorem foundKey_named (h : foundKey payload names = some key) :
    key ∈ payload.map Prod.fst ∧ IsNamed names key := by
  induction names with
  | nil => cases h
  | cons name names ih =>
      unfold foundKey at h
      split at h
      · rename_i hcontains
        obtain rfl := Option.some.inj h
        exact ⟨contains_iff_mem.1 hcontains, List.mem_map_of_mem List.mem_cons_self⟩
      · split at h
        · rename_i key' hlower
          obtain rfl := Option.some.inj h
          rcases lowerKey_eq_some hlower with ⟨hmem, hname⟩
          refine ⟨hmem, ?_⟩
          rw [IsNamed, hname]
          exact List.mem_map_of_mem List.mem_cons_self
        · rcases ih h with ⟨hmem, hnamed⟩
          exact ⟨hmem, List.mem_cons_of_mem _ hnamed⟩

/-- A field that is there under one of its names is found. -/
theorem exists_foundKey (hmem : key ∈ payload.map Prod.fst) (hnamed : IsNamed names key) :
    ∃ found, foundKey payload names = some found := by
  induction names with
  | nil => simp [IsNamed] at hnamed
  | cons name names ih =>
      unfold foundKey
      split
      · exact ⟨name, rfl⟩
      · split
        · rename_i found _
          exact ⟨found, rfl⟩
        · rename_i hnone
          apply ih
          have hne := lowerKey_eq_none_iff.1 hnone key hmem
          exact (List.mem_cons.1 hnamed).resolve_left hne

/-- The only key that names a field is the one that is found. -/
theorem foundKey_of_unique (hmem : key ∈ payload.map Prod.fst) (hnamed : IsNamed names key)
    (hunique : ∀ other ∈ payload.map Prod.fst, IsNamed names other → other = key) :
    foundKey payload names = some key := by
  rcases exists_foundKey hmem hnamed with ⟨found, hfound⟩
  rcases foundKey_named hfound with ⟨hother, hothers⟩
  rw [hfound, hunique found hother hothers]

theorem foundKey_head (h : payload.contains name = true) (candidates : List String) :
    foundKey payload (name :: candidates) = some name := by
  rw [foundKey, if_pos h]

end

/-! ## Market payloads by their fields -/

/-- The time of a payload is its {lit}`ts_ms`, or is looked for when there is none under any
name. -/
def TimeRead (kind : MarketKind) (payload : PyDict) (tsMs : Int) : Prop :=
  if LooksForTime payload then
    kind.timeOf (pickField (filled kind payload) kind.timeNames) = .ok (some tsMs)
  else coerceInt (payload.get "ts_ms") "ts_ms" = .ok tsMs

section

variable {kind : MarketKind} {payload : PyDict} {symbol : String} {numbers : List PyFloat}
variable {tsMs : Int} {event : MappedEvent}

/-- The symbol, numbers and time of a market event. -/
def MappedEvent.parts : MappedEvent → Option (String × List PyFloat × Int)
  | .bar e => some (e.symbol, [e.opening, e.high, e.low, e.close, e.volume], e.tsMs)
  | .quote e => some (e.symbol, [e.bid, e.ask, e.bidSize, e.askSize], e.tsMs)
  | .tick e => some (e.symbol, [e.price, e.size], e.tsMs)
  | .timer _ => none

theorem MarketKind.parts_of_event (h : kind.event symbol numbers tsMs = some event) :
    event.parts = some (symbol, numbers, tsMs) := by
  unfold MarketKind.event at h
  split at h
  all_goals first
    | obtain rfl := Option.some.inj h
      rfl
    | cases h

/-- An event determines its symbol, numbers and time. -/
theorem MarketKind.event_inj {symbol' : String} {numbers' : List PyFloat} {tsMs' : Int}
    (h : kind.event symbol numbers tsMs = some event)
    (h' : kind.event symbol' numbers' tsMs' = some event) :
    symbol = symbol' ∧ numbers = numbers' ∧ tsMs = tsMs' := by
  have hparts := (MarketKind.parts_of_event h).symm.trans (MarketKind.parts_of_event h')
  simpa only [Option.some.injEq, Prod.mk.injEq] using hparts

theorem forall₂_congr_left {α β : Type} {R S : α → β → Prop} {as : List α} {bs : List β}
    (h : ∀ a ∈ as, ∀ b, R a b ↔ S a b) : List.Forall₂ R as bs ↔ List.Forall₂ S as bs := by
  induction as generalizing bs with
  | nil => simp
  | cons a as ih =>
      cases bs with
      | nil => simp
      | cons b bs =>
          rw [List.forall₂_cons, List.forall₂_cons, h a List.mem_cons_self,
            ih fun a ha => h a (List.mem_cons_of_mem _ ha)]

/-- An aligned payload has the time that is read from the payload. -/
theorem timeRead_iff :
    TimeRead kind payload tsMs ↔
      ∃ p, alignTime kind payload (filled kind payload) = .ok p ∧
        coerceInt (p.get "ts_ms") "ts_ms" = .ok tsMs := by
  have hfilled : (filled kind payload).get "ts_ms" = payload.get "ts_ms" := by
    rw [PyDict.get, get?_filled_tsMs, ← PyDict.get]
  unfold TimeRead
  rw [alignTime_filled]
  cases hlooks : LooksForTime payload with
  | false => simp [hfilled]
  | true =>
      have hmissing : payload.get "ts_ms" = .none := by
        have hcontains := (Bool.and_eq_true_iff.1 hlooks).2
        have hnone : payload.get? "ts_ms" = none := by
          simpa [PyDict.contains] using hcontains
        rw [PyDict.get, hnone]
        rfl
      rw [if_pos rfl, if_pos rfl]
      simp only [map_eq_ok]
      constructor
      · intro htime
        refine ⟨_, ⟨_, htime, rfl⟩, ?_⟩
        rw [setTsMs, PyDict.get, PyDict.get?_set, if_pos rfl]
        rfl
      · rintro ⟨p, ⟨time, htime, rfl⟩, hread⟩
        cases time with
        | none =>
            rw [setTsMs, hfilled, hmissing] at hread
            cases hread
        | some ms =>
            rw [setTsMs, PyDict.get, PyDict.get?_set, if_pos rfl] at hread
            obtain rfl : ms = tsMs := Except.ok.inj hread
            exact htime

theorem requireStr_eq_ok_iff {name text : String} :
    requireStr payload name = .ok text ↔ payload.get name = .str text ∧ text ≠ "" := by
  constructor
  · intro h
    have hget := get_of_requireStr h
    rcases readable_text_iff.1 ⟨text, h⟩ with ⟨s, hs, hne⟩
    obtain rfl : text = s := PyVal.str.inj (hget.symm.trans hs)
    exact ⟨hget, hne⟩
  · rintro ⟨hget, hne⟩
    exact requireStr_of_get hget hne

/-- A market payload is mapped by what is picked for its fields. -/
theorem mapEvent_market_iff (htype : payload.get "type" = .str kind.eventType)
    (hevent : kind.event symbol numbers tsMs = some event) :
    mapEvent payload = .ok event ↔
      (pickField payload MarketKind.symbolField.2 = .str symbol ∧ symbol ≠ "") ∧
        NumbersRead kind (fun field => pickField payload field.2) numbers ∧
          TimeRead kind payload tsMs := by
  have hmem : MarketKind.symbolField ∈ kind.fields := by
    cases kind <;> decide
  have hsub : ∀ field ∈ kind.numbers, field ∈ kind.fields := by
    intro field hfield
    cases kind <;> simp [MarketKind.fields, hfield]
  have hbuilt {p : PyDict} (hp : alignTime kind payload (filled kind payload) = .ok p) :
      kind.build p = .ok event ↔ (pickField payload MarketKind.symbolField.2 = .str symbol ∧
        symbol ≠ "") ∧ NumbersRead kind (fun field => pickField payload field.2) numbers ∧
          coerceInt (p.get "ts_ms") "ts_ms" = .ok tsMs := by
    have hsymbol : p.get "symbol" = pickField payload MarketKind.symbolField.2 :=
      get_alignTime hp hmem
    have hnumbers (xs : List PyFloat) : NumbersRead kind (fun field => p.get field.1) xs ↔
        NumbersRead kind (fun field => pickField payload field.2) xs := by
      apply forall₂_congr_left
      intro field hfield x
      dsimp only
      rw [get_alignTime hp (hsub field hfield)]
    rw [MarketKind.build_eq_ok_iff]
    simp only [requireStr_eq_ok_iff, hsymbol, hnumbers]
    constructor
    · rintro ⟨symbol', numbers', tsMs', hs, hn, ht, hevent'⟩
      rcases MarketKind.event_inj hevent hevent' with ⟨rfl, rfl, rfl⟩
      exact ⟨hs, hn, ht⟩
    · rintro ⟨hs, hn, ht⟩
      exact ⟨symbol, numbers, tsMs, hs, hn, ht, hevent⟩
  have hbind : mapEvent payload = .ok event ↔
      ∃ p, alignTime kind payload (filled kind payload) = .ok p ∧ kind.build p = .ok event := by
    rw [mapEvent_market htype]
    exact bind_eq_ok
  rw [hbind, timeRead_iff]
  constructor
  · rintro ⟨p, hp, hbuild⟩
    rcases (hbuilt hp).1 hbuild with ⟨hs, hn, ht⟩
    exact ⟨hs, hn, p, hp, ht⟩
  · rintro ⟨hs, hn, p, hp, ht⟩
    exact ⟨p, hp, (hbuilt hp).2 ⟨hs, hn, ht⟩⟩

end

/-! ## Renamed fields -/

/-- The time of an event with its names. -/
def MarketKind.timeField : String × List String :=
  ("ts_ms", ["ts_ms", "TsMs"])

/-- All fields of a kind. -/
def MarketKind.allFields (kind : MarketKind) : List (String × List String) :=
  MarketKind.timeField :: kind.fields

/-- A payload whose fields stand under their own names. -/
structure Canonical (kind : MarketKind) (rawEvent : PyDict) : Prop where
  keys : (rawEvent.map Prod.fst).Nodup
  eventType : rawEvent.get "type" = .str kind.eventType
  own : ∀ field ∈ kind.allFields, rawEvent.contains field.1 = true

/-- Fields of a kind get one of their names, in some letter case; other keys stay. -/
structure Aliasing (kind : MarketKind) (rho : String → String) : Prop where
  named : ∀ field ∈ kind.allFields, IsNamed field.2 (rho field.1)
  others : ∀ key, key ∉ kind.allFields.map Prod.fst → rho key = key

def rename (rho : String → String) (rawEvent : PyDict) : PyDict :=
  rawEvent.map fun f => (rho f.1, f.2)

/-- What is found for the fields of the renamed payload is under their new names or reads alike.
A time that is renamed is not found: only where another key hides it with {lit}`None` does the
mapper look for a time elsewhere. -/
structure FoundAlike (kind : MarketKind) (rho : String → String) (rawEvent : PyDict) : Prop where
  time : rho "ts_ms" = "ts_ms" ∨ (pickTsMs (rename rho rawEvent)).isNone = true ∧
    ∃ tsMs, kind.timeOf (pickField (filled kind (rename rho rawEvent)) kind.timeNames) =
      .ok (some tsMs) ∧ coerceInt (rawEvent.get "ts_ms") "ts_ms" = .ok tsMs
  symbol : ∀ key, foundKey (rename rho rawEvent) MarketKind.symbolField.2 = some key →
    key = rho "symbol" ∨ (rename rho rawEvent).get key = rawEvent.get "symbol"
  numbers : ∀ field ∈ kind.numbers, ∀ key, foundKey (rename rho rawEvent) field.2 = some key →
    key = rho field.1 ∨ ∃ x, coerceFloat ((rename rho rawEvent).get key) field.1 = .ok x ∧
      coerceFloat (rawEvent.get field.1) field.1 = .ok x

section

variable {kind : MarketKind} {rho : String → String} {rawEvent : PyDict}

theorem MarketKind.timeField_mem (kind : MarketKind) : MarketKind.timeField ∈ kind.allFields :=
  List.mem_cons_self

theorem MarketKind.mem_allFields {field : String × List String} (h : field ∈ kind.fields) :
    field ∈ kind.allFields :=
  List.mem_cons_of_mem _ h

theorem MarketKind.symbolField_mem (kind : MarketKind) : MarketKind.symbolField ∈ kind.fields := by
  cases kind <;> decide

theorem MarketKind.numbers_subset {field : String × List String} (h : field ∈ kind.numbers) :
    field ∈ kind.fields := by
  cases kind <;> simp [MarketKind.fields, h]

/-- The time is the only field with a name like {lit}`ts_ms`. -/
theorem MarketKind.eq_timeField {field : String × List String} (h : field ∈ kind.allFields)
    (hnamed : IsNamed field.2 "ts_ms") : field.1 = "ts_ms" := by
  have hall : ∀ kind : MarketKind, ∀ field ∈ kind.allFields, IsNamed field.2 "ts_ms" →
      field.1 = "ts_ms" := by
    intro kind
    cases kind <;> decide
  exact hall kind field h hnamed

/-- No key is a name of two fields. -/
theorem MarketKind.eq_of_isNamed {field field' : String × List String} {key : String}
    (kind : MarketKind) (h : field ∈ kind.allFields) (h' : field' ∈ kind.allFields)
    (hnamed : IsNamed field.2 key) (hnamed' : IsNamed field'.2 key) : field = field' := by
  have hall : ∀ kind : MarketKind, ∀ field ∈ kind.allFields, ∀ field' ∈ kind.allFields,
      field ≠ field' → ∀ name ∈ field.2.map lower, name ∉ field'.2.map lower := by
    intro kind
    cases kind <;> decide
  by_contra hne
  exact hall kind field h field' h' hne (lower key) hnamed hnamed'

/-- A key of the payload has its value under its new name. -/
theorem get?_rename (hkeys : ((rename rho rawEvent).map Prod.fst).Nodup) {key : String}
    {value : PyVal} (h : rawEvent.get? key = some value) :
    (rename rho rawEvent).get? (rho key) = some value := by
  apply (PyDict.get?_eq_some_iff hkeys).2
  unfold PyDict.get? at h
  rcases Option.map_eq_some_iff.1 h with ⟨f, hfind, rfl⟩
  have hkey := List.find?_some hfind
  obtain rfl : f.1 = key := of_decide_eq_true hkey
  exact List.mem_map.2 ⟨f, List.mem_of_find?_eq_some hfind, rfl⟩

theorem get_rename (hkeys : ((rename rho rawEvent).map Prod.fst).Nodup) {key : String}
    (h : rawEvent.contains key = true) :
    (rename rho rawEvent).contains (rho key) = true ∧
      (rename rho rawEvent).get (rho key) = rawEvent.get key := by
  rcases Option.isSome_iff_exists.1 h with ⟨value, hvalue⟩
  have hnew := get?_rename hkeys hvalue
  exact ⟨by rw [PyDict.contains, hnew]; rfl, by rw [PyDict.get, PyDict.get, hnew, hvalue]⟩

/-- A renamed time leaves no {lit}`ts_ms` behind. -/
theorem not_contains_tsMs (halias : Aliasing kind rho) (hmoved : rho "ts_ms" ≠ "ts_ms") :
    (rename rho rawEvent).contains "ts_ms" = false := by
  rw [Bool.eq_false_iff]
  intro hcontains
  rcases List.mem_map.1 (contains_iff_mem.1 hcontains) with ⟨f, hf, hname⟩
  rcases List.mem_map.1 hf with ⟨g, -, rfl⟩
  have hname' : rho g.1 = "ts_ms" := hname
  by_cases hfield : g.1 ∈ kind.allFields.map Prod.fst
  · rcases List.mem_map.1 hfield with ⟨field, hmem, hkey⟩
    have hnamed := halias.named field hmem
    rw [hkey, hname'] at hnamed
    have htime := MarketKind.eq_timeField hmem hnamed
    rw [← hkey, htime] at hname'
    exact hmoved hname'
  · rw [halias.others g.1 hfield] at hname'
    rw [hname'] at hfield
    exact hfield (List.mem_map_of_mem kind.timeField_mem)

/-- The type is no field. -/
theorem eventType_rename (hcanon : Canonical kind rawEvent) (halias : Aliasing kind rho)
    (hkeys : ((rename rho rawEvent).map Prod.fst).Nodup) :
    (rename rho rawEvent).get "type" = .str kind.eventType := by
  have hsame : rho "type" = "type" := by
    apply halias.others
    cases kind <;> decide
  have hget := (get_rename hkeys (contains_of_get_str hcanon.eventType)).2
  rw [hsame, hcanon.eventType] at hget
  exact hget

/-- The time of a canonical payload is its own one. -/
theorem timeRead_of_contains {payload : PyDict} {tsMs : Int}
    (h : payload.contains "ts_ms" = true) :
    TimeRead kind payload tsMs ↔ coerceInt (payload.get "ts_ms") "ts_ms" = .ok tsMs := by
  have hlooks : LooksForTime payload = false := by
    rw [LooksForTime, h, Bool.not_true, Bool.and_false]
  rw [TimeRead, hlooks, if_neg (by simp)]

/-- The time of a renamed payload. -/
theorem timeRead_rename_iff (hcanon : Canonical kind rawEvent) (halias : Aliasing kind rho)
    (hkeys : ((rename rho rawEvent).map Prod.fst).Nodup) {tsMs : Int}
    (hread : coerceInt (rawEvent.get "ts_ms") "ts_ms" = .ok tsMs) :
    TimeRead kind (rename rho rawEvent) tsMs ↔
      rho "ts_ms" = "ts_ms" ∨ (pickTsMs (rename rho rawEvent)).isNone = true ∧
        ∃ tsMs', kind.timeOf (pickField (filled kind (rename rho rawEvent)) kind.timeNames) =
          .ok (some tsMs') ∧ coerceInt (rawEvent.get "ts_ms") "ts_ms" = .ok tsMs' := by
  by_cases hkept : rho "ts_ms" = "ts_ms"
  · have htime : (rename rho rawEvent).contains (rho "ts_ms") = true ∧
        (rename rho rawEvent).get (rho "ts_ms") = rawEvent.get "ts_ms" :=
      get_rename hkeys (hcanon.own _ kind.timeField_mem)
    rw [hkept] at htime
    rw [timeRead_of_contains htime.1, htime.2]
    exact iff_of_true hread (.inl hkept)
  · have hmissing : (rename rho rawEvent).contains "ts_ms" = false :=
      not_contains_tsMs halias hkept
    have hnone : (rename rho rawEvent).get "ts_ms" = .none := by
      have hget : (rename rho rawEvent).get? "ts_ms" = none := by
        simpa [PyDict.contains] using hmissing
      rw [PyDict.get, hget]
      rfl
    unfold TimeRead LooksForTime
    rw [hmissing, hread, hnone]
    cases hpick : (pickTsMs (rename rho rawEvent)).isNone <;>
      simp [hkept, coerceInt]

/-- A field of the renamed payload is found. -/
theorem exists_found (hcanon : Canonical kind rawEvent) (halias : Aliasing kind rho)
    (hkeys : ((rename rho rawEvent).map Prod.fst).Nodup) {field : String × List String}
    (hfield : field ∈ kind.fields) :
    ∃ key, foundKey (rename rho rawEvent) field.2 = some key ∧
      pickField (rename rho rawEvent) field.2 = (rename rho rawEvent).get key ∧
        (rename rho rawEvent).get (rho field.1) = rawEvent.get field.1 := by
  have hmem := MarketKind.mem_allFields hfield
  rcases get_rename hkeys (hcanon.own field hmem) with ⟨hcontains, hget⟩
  rcases exists_foundKey (contains_iff_mem.1 hcontains) (halias.named field hmem) with ⟨key, hkey⟩
  refine ⟨key, hkey, ?_, hget⟩
  rw [pickField_eq, hkey]
  rfl

/-- A canonical payload is picked from under its own names. -/
theorem pickField_of_canonical (hcanon : Canonical kind rawEvent) {field : String × List String}
    (hfield : field ∈ kind.fields) : pickField rawEvent field.2 = rawEvent.get field.1 := by
  have hhead := kind.ownNamesFirst.2 field hfield
  cases hnames : field.2 with
  | nil => simp [hnames] at hhead
  | cons name names =>
      obtain rfl : name = field.1 := by simpa [hnames] using hhead
      exact pickField_head names (hcanon.own field (MarketKind.mem_allFields hfield))

/-- Two readings of a list agree when they agree for every field. -/
theorem numbersRead_iff_of_numbersRead {value value' : String × List String → PyVal}
    {numbers : List PyFloat} (h : NumbersRead kind value numbers) :
    NumbersRead kind value' numbers ↔ ∀ field ∈ kind.numbers,
      ∃ x, coerceFloat (value' field) field.1 = .ok x ∧ coerceFloat (value field) field.1 = .ok x := by
  unfold NumbersRead at h ⊢
  generalize kind.numbers = fields at h ⊢
  induction h with
  | nil => simp
  | @cons field x fields xs hx _ ih =>
      rw [List.forall₂_cons, ih, List.forall_mem_cons]
      apply and_congr_left'
      constructor
      · intro hx'
        exact ⟨x, hx', hx⟩
      · rintro ⟨y, hy', hy⟩
        obtain rfl : x = y := Except.ok.inj (hx.symm.trans hy)
        exact hy'

/-- A payload with renamed fields is mapped to the same event exactly when its fields are found
alike. -/
theorem renamed_maps_alike_iff {event : MappedEvent} (hcanon : Canonical kind rawEvent)
    (halias : Aliasing kind rho) (hkeys : ((rename rho rawEvent).map Prod.fst).Nodup)
    (haccepted : mapEvent rawEvent = .ok event) :
    mapEvent (rename rho rawEvent) = .ok event ↔ FoundAlike kind rho rawEvent := by
  obtain ⟨symbol, numbers, tsMs, hevent⟩ : ∃ symbol numbers tsMs,
      kind.event symbol numbers tsMs = some event := by
    rw [mapEvent_market hcanon.eventType] at haccepted
    have hbind : alignTime kind rawEvent (filled kind rawEvent) >>= kind.build = .ok event :=
      haccepted
    rcases bind_eq_ok.1 hbind with ⟨p, -, hbuild⟩
    rcases MarketKind.build_eq_ok_iff.1 hbuild with ⟨symbol, numbers, tsMs, -, -, -, hevent⟩
    exact ⟨symbol, numbers, tsMs, hevent⟩
  rcases (mapEvent_market_iff hcanon.eventType hevent).1 haccepted with
    ⟨⟨hsymbol, hne⟩, hnumbers, htime⟩
  rw [timeRead_of_contains (hcanon.own _ kind.timeField_mem)] at htime
  rw [pickField_of_canonical hcanon kind.symbolField_mem] at hsymbol
  have hnumbers' : NumbersRead kind (fun field => rawEvent.get field.1) numbers := by
    apply (forall₂_congr_left ?_).1 hnumbers
    intro field hfield x
    dsimp only
    rw [pickField_of_canonical hcanon (MarketKind.numbers_subset hfield)]
  rw [mapEvent_market_iff (eventType_rename hcanon halias hkeys) hevent,
    timeRead_rename_iff hcanon halias hkeys htime, numbersRead_iff_of_numbersRead hnumbers']
  rcases exists_found hcanon halias hkeys kind.symbolField_mem with ⟨key, hkey, hpick, hown⟩
  constructor
  · rintro ⟨⟨hs, -⟩, hn, ht⟩
    constructor
    · exact ht
    · intro key' hkey'
      obtain rfl : key = key' := Option.some.inj (hkey.symm.trans hkey')
      right
      rw [← hpick, hs]
      exact hsymbol.symm
    · intro field hfield key' hkey'
      right
      have hpick' : pickField (rename rho rawEvent) field.2 = (rename rho rawEvent).get key' := by
        rw [pickField_eq, hkey']
        rfl
      rw [← hpick']
      exact hn field hfield
  · intro h
    refine ⟨⟨?_, hne⟩, ?_, h.time⟩
    · rw [hpick]
      rcases h.symbol key hkey with rfl | hsame
      · exact hown.trans hsymbol
      · exact hsame.trans hsymbol
    · intro field hfield
      rcases exists_found hcanon halias hkeys (MarketKind.numbers_subset hfield) with
        ⟨key', hkey', hpick', hown'⟩
      rw [hpick']
      rcases h.numbers field hfield key' hkey' with rfl | hread
      · rcases exists_of_forall₂ hnumbers' field hfield with ⟨x, hx⟩
        rw [hown']
        exact ⟨x, hx, hx⟩
      · exact hread

/-! ## Payloads without further names -/

/-- No other key of the payload is a name of one of its fields. -/
def AliasFree (kind : MarketKind) (rawEvent : PyDict) : Prop :=
  ∀ field ∈ kind.allFields, ∀ key ∈ rawEvent.map Prod.fst, IsNamed field.2 key → key = field.1

/-- A field of an alias-free payload is found under its new name. -/
theorem foundKey_of_aliasFree (hcanon : Canonical kind rawEvent) (halias : Aliasing kind rho)
    (hfree : AliasFree kind rawEvent) {field : String × List String}
    (hfield : field ∈ kind.allFields)
    (hkeys : ((rename rho rawEvent).map Prod.fst).Nodup) :
    foundKey (rename rho rawEvent) field.2 = some (rho field.1) := by
  have hcontains := (get_rename hkeys (hcanon.own field hfield)).1
  apply foundKey_of_unique (contains_iff_mem.1 hcontains) (halias.named field hfield)
  intro other hother hnamed
  rcases List.mem_map.1 hother with ⟨f, hf, rfl⟩
  rcases List.mem_map.1 hf with ⟨g, hg, rfl⟩
  have hnamed' : IsNamed field.2 (rho g.1) := hnamed
  have hsame : g.1 = field.1 := by
    by_cases hkey : g.1 ∈ kind.allFields.map Prod.fst
    · rcases List.mem_map.1 hkey with ⟨field', hfield', hname⟩
      have hown := halias.named field' hfield'
      rw [hname] at hown
      rw [← hname, kind.eq_of_isNamed hfield' hfield hown hnamed']
    · rw [halias.others g.1 hkey] at hnamed'
      exact hfree field hfield g.1 (List.mem_map_of_mem hg) hnamed'
  exact congrArg rho hsame

/-- In an alias-free payload, a name that keeps its time is all that matters. -/
theorem foundAlike_iff_of_aliasFree (hcanon : Canonical kind rawEvent)
    (halias : Aliasing kind rho) (hfree : AliasFree kind rawEvent)
    (hkeys : ((rename rho rawEvent).map Prod.fst).Nodup) {tsMs : Int}
    (htime : coerceInt (rawEvent.get "ts_ms") "ts_ms" = .ok tsMs) :
    FoundAlike kind rho rawEvent ↔ rho "ts_ms" = "ts_ms" := by
  have hfound {field : String × List String} (hfield : field ∈ kind.allFields) :=
    foundKey_of_aliasFree hcanon halias hfree hfield hkeys
  constructor
  · intro h
    rcases h.time with hkept | ⟨hnone, -⟩
    · exact hkept
    · have hpick : pickTsMs (rename rho rawEvent) = rawEvent.get "ts_ms" := by
        have hkey : foundKey (rename rho rawEvent) ["ts_ms", "TsMs"] = some (rho "ts_ms") :=
          hfound kind.timeField_mem
        rw [pickTsMs, pickField_eq, hkey]
        exact (get_rename hkeys (hcanon.own _ kind.timeField_mem)).2
      rw [hpick] at hnone
      cases hvalue : rawEvent.get "ts_ms" <;> rw [hvalue] at hnone htime <;> cases hnone
      cases htime
  · intro hkept
    constructor
    · exact Or.inl hkept
    · intro key hkey
      have hown := hfound (MarketKind.mem_allFields kind.symbolField_mem)
      exact Or.inl (Option.some.inj (hkey.symm.trans hown))
    · intro field hfield key hkey
      have hown := hfound (MarketKind.mem_allFields (MarketKind.numbers_subset hfield))
      exact Or.inl (Option.some.inj (hkey.symm.trans hown))

end

/-! ## A tick under other names -/

/-- A tick in canonical form. -/
def plainTick : PyDict :=
  [("type", .str "market.tick"), ("symbol", .str "X"), ("price", .int 1), ("size", .int 2),
    ("ts_ms", .int 0)]

/-- The price and the size under other names. -/
def tradeNames (key : String) : String :=
  if key = "price" then "LAST_PRICE" else if key = "size" then "Qty" else key

/-- The time under its second name. -/
def timeName (key : String) : String :=
  if key = "ts_ms" then "TsMs" else key

theorem plainTick_canonical : Canonical .tick plainTick where
  keys := by decide
  eventType := rfl
  own := by decide

theorem tradeNames_aliasing : Aliasing .tick tradeNames where
  named := by decide
  others := by
    intro key hkey
    have hne : key ≠ "price" ∧ key ≠ "size" := by
      constructor <;> rintro rfl <;> exact hkey (by decide)
    simp [tradeNames, hne]

theorem timeName_aliasing : Aliasing .tick timeName where
  named := by decide
  others := by
    intro key hkey
    have hne : key ≠ "ts_ms" := by
      rintro rfl
      exact hkey (by decide)
    simp [timeName, hne]

theorem plainTick_accepted : ∃ event, mapEvent plainTick = .ok event := by
  have hsome : (mapEvent plainTick).toOption.isSome = true := by decide +kernel
  rcases Option.isSome_iff_exists.1 hsome with ⟨event, hevent⟩
  exact ⟨event, eq_ok_of_toOption hevent⟩

theorem plainTick_maps_alike :
    ∃ event, mapEvent plainTick = .ok event ∧
      mapEvent (rename tradeNames plainTick) = .ok event := by
  rcases plainTick_accepted with ⟨event, hevent⟩
  have hkeys : ((rename tradeNames plainTick).map Prod.fst).Nodup := by decide
  refine ⟨event, hevent,
    (renamed_maps_alike_iff plainTick_canonical tradeNames_aliasing hkeys hevent).2 ?_⟩
  have hfree : AliasFree .tick plainTick := by
    unfold AliasFree
    decide
  have htime : coerceInt (plainTick.get "ts_ms") "ts_ms" = .ok 0 := rfl
  exact (foundAlike_iff_of_aliasFree plainTick_canonical tradeNames_aliasing hfree hkeys htime).2
    rfl

/-- A tick whose time has its second name is refused. -/
theorem second_time_name_refused :
    ¬ ∀ (kind : MarketKind) (rho : String → String) (rawEvent : PyDict) (event : MappedEvent),
      Canonical kind rawEvent → Aliasing kind rho →
        ((rename rho rawEvent).map Prod.fst).Nodup → mapEvent rawEvent = .ok event →
          mapEvent (rename rho rawEvent) = .ok event := by
  intro h
  rcases plainTick_accepted with ⟨event, hevent⟩
  have hkeys : ((rename timeName plainTick).map Prod.fst).Nodup := by decide
  have hmapped := h .tick timeName plainTick event plainTick_canonical timeName_aliasing hkeys
    hevent
  have hrefused : (mapEvent (rename timeName plainTick)).toOption.isSome = false := by
    decide +kernel
  rw [hmapped] at hrefused
  cases hrefused

end Bootstrap
end StrategyWorker
