import StrategyWorker.Library.Binary64
import StrategyWorker.Library.PyDateTime
import StrategyWorker.Library.PyText

/-!
# Dynamic values of the runtime's language

The values that a decoded message can hold, dictionaries as lists of fields in
insertion order, and the conversions {lit}`int(...)` and {lit}`float(...)` with
the exceptions that they raise.

Main results:

- Theorem {lit}`get?_setDefault`, Theorem {lit}`get?_set`: what a field of an
  updated dictionary holds.
- Theorem {lit}`bind_eq_ok`: a computation in steps succeeds when each step
  does.
-/

namespace StrategyWorker
namespace Library

open Binary64
open PyText

/-- The exceptions of the standard library that the runtime tells apart. -/
inductive PyError where
  | valueError
  | typeError
  | overflowError
  deriving DecidableEq, Repr

/-- A raised exception with its message; messages of the standard library itself are left out. -/
structure PyException where
  error : PyError
  message : Option String
  deriving DecidableEq, Repr

/-- An exception of the standard library itself. -/
def PyError.raised (e : PyError) : PyException :=
  ⟨e, none⟩

/-- A computation in two steps succeeds when both do. -/
theorem bind_eq_ok {ε α β : Type} {x : Except ε α} {f : α → Except ε β} {b : β} :
    x >>= f = .ok b ↔ ∃ a, x = .ok a ∧ f a = .ok b := by
  cases x with
  | error e => simp [bind, Except.bind]
  | ok a => simp [bind, Except.bind]

theorem eq_ok_of_toOption {ε α : Type} {x : Except ε α} {a : α} (h : x.toOption = some a) :
    x = .ok a := by
  cases x with
  | error e => cases h
  | ok b => exact congrArg _ (Option.some.inj h)

/-- Values of a decoded message. -/
inductive PyVal where
  | none
  | bool (b : Bool)
  | int (n : Int)
  | float (f : PyFloat)
  | str (s : String)
  | datetime (d : PyDateTime)
  /-- A numeric scalar object whose {lit}`item()` is the given value. -/
  | scalar (v : PyVal)
  | list (vs : List PyVal)
  | dict (fields : List (String × PyVal))

/-- A dictionary with text keys, in insertion order. -/
abbrev PyDict := List (String × PyVal)

namespace PyDict

/-- {lit}`d.get(key)` without default: {lit}`none` when the key is missing. -/
def get? (d : PyDict) (key : String) : Option PyVal :=
  (d.find? fun f => f.1 = key).map Prod.snd

/-- {lit}`d.get(key)`: a missing key reads as {lit}`None`. -/
def get (d : PyDict) (key : String) : PyVal :=
  (d.get? key).getD .none

/-- {lit}`key in d`. -/
def contains (d : PyDict) (key : String) : Bool :=
  (d.get? key).isSome

/-- {lit}`d[key] = value`. -/
def set : PyDict → String → PyVal → PyDict
  | [], key, value => [(key, value)]
  | f :: d, key, value => if f.1 = key then (key, value) :: d else f :: set d key value

/-- {lit}`d.setdefault(key, value)`. -/
def setDefault (d : PyDict) (key : String) (value : PyVal) : PyDict :=
  if d.contains key then d else d ++ [(key, value)]

/-- {lit}`d.pop(key, None)`, for the dictionary that is left. -/
def pop (d : PyDict) (key : String) : PyDict :=
  d.filter fun f => f.1 ≠ key

theorem get?_pop (d : PyDict) (key key' : String) :
    (d.pop key).get? key' = if key = key' then none else d.get? key' := by
  unfold pop get?
  rw [List.find?_filter]
  split
  · rename_i heq
    have hnone : (d.find? fun f => decide (decide (f.1 ≠ key) = true ∧ decide (f.1 = key') = true)) =
        none := by
      rw [List.find?_eq_none]
      intro f _
      simp [heq]
    rw [hnone]
    rfl
  · rename_i hne
    congr 2
    ext f
    by_cases hf : f.1 = key'
    · have hkey : key' ≠ key := fun h => hne h.symm
      simp [hf, hkey]
    · simp [hf]

theorem get?_set (d : PyDict) (key key' : String) (value : PyVal) :
    (set d key value).get? key' = if key = key' then some value else d.get? key' := by
  induction d with
  | nil => by_cases h : key = key' <;> simp [set, get?, h]
  | cons f d ih =>
      unfold get? at ih
      unfold set
      split
      · rename_i hkey
        by_cases h : key = key' <;> simp [get?, h, hkey]
      · rename_i hkey
        by_cases hf : f.1 = key'
        · have hne : key ≠ key' := fun heq => hkey (hf.trans heq.symm)
          simp [get?, hf, hne]
        · simpa [get?, hf] using ih

/-- Setting a key repeats none. -/
theorem nodup_set {d : PyDict} (h : (d.map Prod.fst).Nodup) (key : String) (value : PyVal) :
    ((set d key value).map Prod.fst).Nodup := by
  have hkeys : ∀ d : PyDict, ∀ k ∈ (set d key value).map Prod.fst,
      k = key ∨ k ∈ d.map Prod.fst := by
    intro d
    induction d with
    | nil => simp [set]
    | cons f d ih =>
        intro k hk
        unfold set at hk
        split at hk
        · rw [List.map_cons, List.mem_cons] at hk
          exact hk.imp id fun hmem => List.mem_cons_of_mem _ hmem
        · rw [List.map_cons, List.mem_cons] at hk
          rcases hk with rfl | hk
          · exact .inr List.mem_cons_self
          · exact (ih k hk).imp id fun hmem => List.mem_cons_of_mem _ hmem
  induction d with
  | nil => simp [set]
  | cons f d ih =>
      rw [List.map_cons, List.nodup_cons] at h
      unfold set
      split
      · rename_i heq
        rw [List.map_cons, List.nodup_cons]
        exact ⟨heq ▸ h.1, h.2⟩
      · rename_i hne
        rw [List.map_cons, List.nodup_cons]
        refine ⟨fun hmem => ?_, ih h.2⟩
        rcases hkeys d f.1 hmem with heq | hmem
        · exact hne heq
        · exact h.1 hmem

theorem nodup_pop {d : PyDict} (h : (d.map Prod.fst).Nodup) (key : String) :
    ((d.pop key).map Prod.fst).Nodup :=
  h.sublist (List.filter_sublist.map Prod.fst)

theorem get?_append (d d' : PyDict) (key : String) :
    get? (d ++ d') key = (d.get? key).or (get? d' key) := by
  unfold get?
  rw [List.find?_append]
  cases d.find? fun f => f.1 = key <;> rfl

theorem get?_cons (key' : String) (v : PyVal) (d : PyDict) (key : String) :
    get? ((key', v) :: d) key = if key' = key then some v else d.get? key := by
  unfold get?
  by_cases h : key' = key <;> simp [h]

theorem get?_append_singleton (d : PyDict) (key key' : String) (value : PyVal) :
    get? (d ++ [(key, value)]) key' =
      (d.get? key').or (if key = key' then some value else none) := by
  unfold get?
  rw [List.find?_append]
  cases d.find? fun f => f.1 = key' with
  | none => by_cases h : key = key' <;> simp [h]
  | some f => simp

theorem get?_setDefault (d : PyDict) (key key' : String) (value : PyVal) :
    (d.setDefault key value).get? key' =
      (d.get? key').or (if key = key' then some value else none) := by
  unfold setDefault contains
  split
  · rename_i h
    by_cases hkey : key = key'
    · subst hkey
      rcases Option.isSome_iff_exists.1 h with ⟨v, hv⟩
      simp [hv]
    · simp [hkey]
  · exact get?_append_singleton d key key' value

/-- In a dictionary without repeated keys a field is what its key holds. -/
theorem get?_eq_some_iff {d : PyDict} (hkeys : (d.map Prod.fst).Nodup) {key : String}
    {v : PyVal} : d.get? key = some v ↔ (key, v) ∈ d := by
  induction d with
  | nil => simp [get?]
  | cons f d ih =>
      rcases f with ⟨key', v'⟩
      rcases List.nodup_cons.1 hkeys with ⟨hnew, hrest⟩
      by_cases heq : key' = key
      · subst heq
        have hnotMem : (key', v) ∉ d := fun hmem => hnew (List.mem_map.2 ⟨_, hmem, rfl⟩)
        simp [get?, hnotMem, eq_comm]
      · have hne : key ≠ key' := fun h => heq h.symm
        have htail := ih hrest
        unfold get? at htail
        simpa [get?, heq, hne] using htail

theorem get?_eq_none_iff {d : PyDict} {key : String} :
    d.get? key = none ↔ key ∉ d.map Prod.fst := by
  rw [get?, Option.map_eq_none_iff, List.find?_eq_none]
  constructor
  · intro h hmem
    rcases List.mem_map.1 hmem with ⟨f, hf, hkey⟩
    exact h f hf (decide_eq_true hkey)
  · intro h f hf hkey
    exact h (of_decide_eq_true hkey ▸ List.mem_map_of_mem hf)

/-- A dictionary that is built from a list of names. -/
theorem get?_map_mk (value : String → PyVal) {names : List String} {key : String}
    (h : key ∈ names) : get? (names.map fun name => (name, value name)) key = some (value key) := by
  induction names with
  | nil => cases h
  | cons name names ih =>
      by_cases heq : name = key
      · simp [get?, heq]
      · have hmem : key ∈ names := (List.mem_cons.1 h).resolve_left fun h => heq h.symm
        have hrest := ih hmem
        unfold get? at hrest
        simpa [get?, heq] using hrest

end PyDict

/-! ## Keys -/

mutual

/-- No dictionary in the value has a key twice. -/
def PyVal.WellKeyed : PyVal → Prop
  | .none | .bool _ | .int _ | .float _ | .str _ | .datetime _ => True
  | .scalar v => v.WellKeyed
  | .list vs => WellKeyedList vs
  | .dict fields => (fields.map Prod.fst).Nodup ∧ WellKeyedFields fields

def WellKeyedList : List PyVal → Prop
  | [] => True
  | v :: vs => v.WellKeyed ∧ WellKeyedList vs

def WellKeyedFields : List (String × PyVal) → Prop
  | [] => True
  | (_, v) :: fields => v.WellKeyed ∧ WellKeyedFields fields

end

theorem wellKeyedFields_iff {fields : List (String × PyVal)} :
    WellKeyedFields fields ↔ ∀ f ∈ fields, f.2.WellKeyed := by
  induction fields with
  | nil => simp [WellKeyedFields]
  | cons f fields ih =>
      rcases f with ⟨key, v⟩
      simp [WellKeyedFields, ih]

/-- A value in a dictionary. -/
theorem wellKeyed_of_get? {fields : PyDict} (h : (PyVal.dict fields).WellKeyed) {key : String}
    {v : PyVal} (hget : fields.get? key = some v) : v.WellKeyed := by
  rw [PyVal.WellKeyed, wellKeyedFields_iff] at h
  exact h.2 (key, v) ((PyDict.get?_eq_some_iff h.1).1 hget)

/-! ## Truth -/

namespace PyVal

/-- {lit}`v is None`. -/
def isNone : PyVal → Bool
  | .none => true
  | _ => false

/-- {lit}`bool(v)`. -/
def truthy : PyVal → Bool
  | .none => false
  | .bool b => b
  | .int n => n ≠ 0
  | .float f => f ≠ .finite 0
  | .str s => s ≠ ""
  | .datetime _ => true
  | .scalar v => truthy v
  | .list vs => !vs.isEmpty
  | .dict fields => !fields.isEmpty

/-- {lit}`v or w`. -/
def orElse (v w : PyVal) : PyVal :=
  if v.truthy then v else w

end PyVal

/-! ## Numerals -/

/-- The zeros of the decimal digits of all scripts; the other nine follow each of them. -/
def decimalZeros : List Nat :=
  [0x30, 0x660, 0x6f0, 0x7c0, 0x966, 0x9e6, 0xa66, 0xae6, 0xb66, 0xbe6, 0xc66, 0xce6, 0xd66, 0xde6,
    0xe50, 0xed0, 0xf20, 0x1040, 0x1090, 0x17e0, 0x1810, 0x1946, 0x19d0, 0x1a80, 0x1a90, 0x1b50,
    0x1bb0, 0x1c40, 0x1c50, 0xa620, 0xa8d0, 0xa900, 0xa9d0, 0xa9f0, 0xaa50, 0xabf0, 0xff10, 0x104a0,
    0x10d30, 0x11066, 0x110f0, 0x11136, 0x111d0, 0x112f0, 0x11450, 0x114d0, 0x11650, 0x116c0,
    0x11730, 0x118e0, 0x11950, 0x11c50, 0x11d50, 0x11da0, 0x16a60, 0x16ac0, 0x16b50, 0x1d7ce,
    0x1d7d8, 0x1d7e2, 0x1d7ec, 0x1d7f6, 0x1e140, 0x1e2f0, 0x1e950, 0x1fbf0]

/-- A character of a numeral in ASCII: digits of all scripts and spaces are translated. -/
def asciiChar (c : Char) : Char :=
  if c.toNat < 128 then c
  else if isSpace c then ' '
  else
    match decimalZeros.find? fun z => z ≤ c.toNat ∧ c.toNat < z + 10 with
    | some z => Char.ofNat ('0'.toNat + (c.toNat - z))
    | none => '?'

/-- The spaces around a numeral. -/
def isAsciiSpace (c : Char) : Bool :=
  (9 ≤ c.toNat && c.toNat ≤ 13) || c = ' '

/-- The characters of a numeral, without the spaces around it. -/
def numeralChars (s : String) : List Char :=
  (((s.toList.map asciiChar).dropWhile isAsciiSpace).reverse.dropWhile isAsciiSpace).reverse

/-- Remove underscores, each of which has to stand between two digits. -/
def dropUnderscores (prev : Char) : List Char → Option (List Char)
  | [] => if prev = '_' then none else some []
  | c :: cs =>
      if c = '_' then if prev.isDigit then dropUnderscores c cs else none
      else if prev = '_' ∧ ¬ c.isDigit then none
      else (dropUnderscores c cs).map (c :: ·)

/-- Split off a sign; {lit}`true` is a minus. -/
def splitSign : List Char → Bool × List Char
  | '-' :: cs => (true, cs)
  | '+' :: cs => (false, cs)
  | cs => (false, cs)

def natOfDigits (ds : List Char) : Nat :=
  ds.foldl (fun n c => n * 10 + (c.toNat - '0'.toNat)) 0

/-- {lit}`int(s)` of a text: a sign and at most 4300 digits. -/
def intOfText (s : String) : Option Int := do
  let (negative, cs) := splitSign (numeralChars s)
  let ds ← dropUnderscores ' ' cs
  if ds ≠ [] ∧ ds.all Char.isDigit ∧ ds.length ≤ 4300 then
    some (if negative then -(natOfDigits ds : Int) else natOfDigits ds)
  else none

/-- Digits, a fraction and an exponent. -/
def decimalOfChars (cs : List Char) : Option ℚ := do
  let (whole, cs) := cs.span Char.isDigit
  let (fraction, cs) :=
    match cs with
    | '.' :: cs => cs.span Char.isDigit
    | cs => ([], cs)
  let mantissa : ℚ := natOfDigits (whole ++ fraction) / 10 ^ fraction.length
  if whole ++ fraction = [] then none
  else
    match cs with
    | [] => some mantissa
    | e :: cs =>
        let (negative, ds) := splitSign cs
        if (e = 'e' ∨ e = 'E') ∧ ds ≠ [] ∧ ds.all Char.isDigit then
          some (if negative then mantissa / 10 ^ natOfDigits ds else mantissa * 10 ^ natOfDigits ds)
        else none

/-- Largest magnitude of the format, plus one unit. -/
def floatLimit : ℚ := 2 ^ 1024

/-- Rounding to the format, infinite beyond its range. -/
def floatOfRat (q : ℚ) : PyFloat :=
  if |fl q| < floatLimit then .finite (fl q) else .infinite (q < 0)

/-- {lit}`float(s)` of a text. -/
def floatOfText (s : String) : Option PyFloat := do
  let cs ← dropUnderscores ' ' (numeralChars s)
  let (negative, cs) := splitSign cs
  let name := cs.map Char.toLower
  if name = "inf".toList ∨ name = "infinity".toList then some (.infinite negative)
  else if name = "nan".toList then some .nan
  else (decimalOfChars cs).map fun q => floatOfRat (if negative then -q else q)

/-- {lit}`int(f)` of a float. -/
def intOfFloat : PyFloat → Except PyError Int
  | .finite q => .ok (trunc q)
  | .infinite _ => .error .overflowError
  | .nan => .error .valueError

/-- {lit}`f < g`; a value that is no number compares with nothing. -/
def floatLt : PyFloat → PyFloat → Bool
  | .finite a, .finite b => a < b
  | .infinite true, .finite _ | .infinite true, .infinite false | .finite _, .infinite false => true
  | _, _ => false

/-- {lit}`float(n)` of an integer. -/
def floatOfInt (n : Int) : Except PyError PyFloat :=
  if |fl n| < floatLimit then .ok (.finite (fl n)) else .error .overflowError

/-! ## Texts of numbers -/

/-- The fewest decimal digits that denote a positive value, and the exponent of the last one; above
a power of two there is more room than below it. -/
def shortestDigits (q : ℚ) : (tries digits : Nat) → Nat × Int
  | 0, _ => (0, 0)
  | tries + 1, digits =>
      let exponent := Int.log 10 q - digits + 1
      let mantissa := (roundEven (q / 10 ^ exponent)).toNat
      if fl (mantissa * 10 ^ exponent) = q ∨ tries = 0 then (mantissa, exponent)
      else if fl ((mantissa + 1 : ℕ) * 10 ^ exponent) = q then (mantissa + 1, exponent)
      else shortestDigits q tries (digits + 1)

/-- An exponent has at least two digits. -/
def exponentText (e : Int) : String :=
  (if e < 0 then "e-" else "e+") ++ (if e.natAbs < 10 then "0" else "") ++ toString e.natAbs

/-- {lit}`repr` of a positive value: fixed with a point, or with an exponent when the point would
be far from the digits. -/
def positiveRepr (q : ℚ) : String :=
  let (mantissa, exponent) := shortestDigits q 17 1
  let digits := (toString mantissa).toList
  let point : Int := digits.length + exponent
  let text :=
    if point ≤ -4 ∨ 16 < point then
      match digits with
      | d :: [] => [d] ++ (exponentText (point - 1)).toList
      | d :: ds => d :: '.' :: ds ++ (exponentText (point - 1)).toList
      | [] => []
    else if point ≤ 0 then ['0', '.'] ++ List.replicate point.natAbs '0' ++ digits
    else if digits.length ≤ point.toNat then
      digits ++ List.replicate (point.toNat - digits.length) '0' ++ ['.', '0']
    else digits.take point.toNat ++ '.' :: digits.drop point.toNat
  String.ofList text

/-- {lit}`str(f)` of a float. -/
def floatText : PyFloat → String
  | .finite q =>
      if q = 0 then "0.0" else if q < 0 then "-" ++ positiveRepr (-q) else positiveRepr q
  | .infinite negative => if negative then "-inf" else "inf"
  | .nan => "nan"

/-- {lit}`str(v)` of texts and numbers; the texts of other values hold a blank or a bracket and are
not told apart. -/
def PyVal.text : PyVal → String
  | .none => "None"
  | .bool b => if b then "True" else "False"
  | .int n => toString n
  | .float f => floatText f
  | .str s => s
  | .scalar v => text v
  | .datetime _ | .list _ | .dict _ => "[...]"

namespace PyVal

/-- {lit}`int(v)`. -/
def toInt : PyVal → Except PyError Int
  | .bool b => .ok (if b then 1 else 0)
  | .int n => .ok n
  | .float f => intOfFloat f
  | .str s => (intOfText s).elim (.error .valueError) .ok
  | .scalar v => toInt v
  | .none | .datetime _ | .list _ | .dict _ => .error .typeError

/-- {lit}`float(v)`. -/
def toFloat : PyVal → Except PyError PyFloat
  | .bool b => .ok (.finite (if b then 1 else 0))
  | .int n => floatOfInt n
  | .float f => .ok f
  | .str s => (floatOfText s).elim (.error .valueError) .ok
  | .scalar v => toFloat v
  | .none | .datetime _ | .list _ | .dict _ => .error .typeError

end PyVal

end Library
end StrategyWorker
