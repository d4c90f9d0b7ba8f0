import Mathlib.Data.List.Sort
import Mathlib.Data.String.Basic
import StrategyWorker.Library.PyValue

/-!
# Encoding of values as JSON text

{lit}`json.dumps` with separators without blanks and {lit}`ensure_ascii`: with
or without sorted keys, and with what it does at a value that JSON does not
have.  The depth of a value, which the interpreter bounds, is counted apart.

Main results:

- Theorem {lit}`exists_encode_iff`: a value is encoded when each value in it that
  JSON does not have is replaced by a text.
-/

namespace StrategyWorker
namespace Library
namespace PyJson

open Binary64 PyText

/-! ## Texts and numbers -/

def escapeUnit (n : Nat) : List Char :=
  '\\' :: 'u' :: hexText 4 n

/-- A character of a string literal; outside printable ASCII as UTF-16 units. -/
def escapeChar (c : Char) : List Char :=
  if c = '"' then ['\\', '"']
  else if c = '\\' then ['\\', '\\']
  else if c = '\n' then ['\\', 'n']
  else if c = '\r' then ['\\', 'r']
  else if c = '\t' then ['\\', 't']
  else if c = '\x08' then ['\\', 'b']
  else if c = '\x0c' then ['\\', 'f']
  else if 32 ≤ c.toNat ∧ c.toNat < 127 then [c]
  else if c.toNat < 0x10000 then escapeUnit c.toNat
  else
    escapeUnit (0xd800 + (c.toNat - 0x10000) / 1024) ++
      escapeUnit (0xdc00 + (c.toNat - 0x10000) % 1024)

/-- A string literal. -/
def quote (s : String) : String :=
  "\"" ++ String.ofList (s.toList.flatMap escapeChar) ++ "\""

/-- A number; the values that are no number have names. -/
def floatLiteralText : PyFloat → String
  | .finite q => floatText (.finite q)
  | .infinite negative => if negative then "-Infinity" else "Infinity"
  | .nan => "NaN"

/-! ## Values -/

/-- How {lit}`dumps` is called: with sorted keys or not, and with {lit}`default`, which gives a
text for a value that JSON does not have. -/
structure DumpOptions where
  sortKeys : Bool
  default : PyVal → Except PyError String

/-- The fields in order of their keys. -/
def sortFields (fields : List (String × String)) : List (String × String) :=
  fields.insertionSort fun f g => f.1 ≤ g.1

def joinComma (texts : List String) : String :=
  ",".intercalate texts

mutual

/-- {lit}`json.dumps(value)`. -/
def encode (o : DumpOptions) : PyVal → Except PyError String
  | .none => .ok "null"
  | .bool b => .ok (if b then "true" else "false")
  | .int n => .ok (toString n)
  | .float f => .ok (floatLiteralText f)
  | .str s => .ok (quote s)
  | .datetime d => do return quote (← o.default (.datetime d))
  | .scalar v => do return quote (← o.default (.scalar v))
  | .list vs => do return "[" ++ joinComma (← encodeList o vs) ++ "]"
  | .dict fields => do
      let texts ← encodeFields o fields
      let sorted := if o.sortKeys then sortFields texts else texts
      return "\x7b" ++ joinComma (sorted.map fun f => quote f.1 ++ ":" ++ f.2) ++ "\x7d"

/-- The texts of the values of a list. -/
def encodeList (o : DumpOptions) : List PyVal → Except PyError (List String)
  | [] => .ok []
  | v :: vs => do return (← encode o v) :: (← encodeList o vs)

/-- The keys of a dictionary with the texts of their values. -/
def encodeFields (o : DumpOptions) : List (String × PyVal) → Except PyError (List (String × String))
  | [] => .ok []
  | (key, v) :: fields => do return (key, ← encode o v) :: (← encodeFields o fields)

end

mutual

/-- How many lists and dictionaries are open at once while a value is written. -/
def depth : PyVal → Nat
  | .none | .bool _ | .int _ | .float _ | .str _ | .datetime _ | .scalar _ => 0
  | .list vs => depthList vs + 1
  | .dict fields => depthFields fields + 1

def depthList : List PyVal → Nat
  | [] => 0
  | v :: vs => max (depth v) (depthList vs)

def depthFields : List (String × PyVal) → Nat
  | [] => 0
  | (_, v) :: fields => max (depth v) (depthFields fields)

end

/-- Values without values in them. -/
theorem depthFields_eq_zero {fields : List (String × PyVal)} (h : ∀ f ∈ fields, depth f.2 = 0) :
    depthFields fields = 0 := by
  induction fields with
  | nil => rfl
  | cons f fields ih =>
      rcases f with ⟨key, v⟩
      have hfirst : depth v = 0 := h (key, v) List.mem_cons_self
      have hrest := ih fun g hg => h g (List.mem_cons_of_mem _ hg)
      rw [depthFields, hfirst, hrest]
      rfl

/-! ## Which values are encoded -/

mutual

/-- The values in a value that JSON does not have. -/
def foreign : PyVal → List PyVal
  | .none | .bool _ | .int _ | .float _ | .str _ => []
  | .datetime d => [.datetime d]
  | .scalar v => [.scalar v]
  | .list vs => foreignList vs
  | .dict fields => foreignFields fields

def foreignList : List PyVal → List PyVal
  | [] => []
  | v :: vs => foreign v ++ foreignList vs

def foreignFields : List (String × PyVal) → List PyVal
  | [] => []
  | (_, v) :: fields => foreign v ++ foreignFields fields

end

theorem mem_foreignFields {fields : List (String × PyVal)} {w : PyVal} :
    w ∈ foreignFields fields ↔ ∃ f ∈ fields, w ∈ foreign f.2 := by
  induction fields with
  | nil => simp [foreignFields]
  | cons f fields ih =>
      rcases f with ⟨key, v⟩
      simp [foreignFields, ih]

mutual

/-- A value is encoded when each value in it that JSON does not have is replaced by a text. -/
theorem exists_encode_iff (o : DumpOptions) (v : PyVal) :
    (∃ text, encode o v = .ok text) ↔ ∀ w ∈ foreign v, ∃ text, o.default w = .ok text := by
  cases v with
  | none | bool _ | int _ | float _ | str _ => simp [encode, foreign]
  | datetime d => simp [encode, foreign, bind_eq_ok, pure, Except.pure]
  | scalar v => simp [encode, foreign, bind_eq_ok, pure, Except.pure]
  | list vs =>
      simp only [encode, foreign, bind_eq_ok, pure, Except.pure]
      rw [← exists_encodeList_iff o vs]
      constructor
      · rintro ⟨text, texts, htexts, -⟩
        exact ⟨texts, htexts⟩
      · rintro ⟨texts, htexts⟩
        exact ⟨_, texts, htexts, rfl⟩
  | dict fields =>
      simp only [encode, foreign, bind_eq_ok, pure, Except.pure]
      rw [← exists_encodeFields_iff o fields]
      constructor
      · rintro ⟨text, texts, htexts, -⟩
        exact ⟨texts, htexts⟩
      · rintro ⟨texts, htexts⟩
        exact ⟨_, texts, htexts, rfl⟩

theorem exists_encodeList_iff (o : DumpOptions) (vs : List PyVal) :
    (∃ texts, encodeList o vs = .ok texts) ↔
      ∀ w ∈ foreignList vs, ∃ text, o.default w = .ok text := by
  cases vs with
  | nil => simp [encodeList, foreignList]
  | cons v vs =>
      simp only [encodeList, foreignList, bind_eq_ok, pure, Except.pure, List.forall_mem_append]
      rw [← exists_encode_iff o v, ← exists_encodeList_iff o vs]
      constructor
      · rintro ⟨-, text, htext, texts, htexts, -⟩
        exact ⟨⟨text, htext⟩, texts, htexts⟩
      · rintro ⟨⟨text, htext⟩, texts, htexts⟩
        exact ⟨_, text, htext, texts, htexts, rfl⟩

theorem exists_encodeFields_iff (o : DumpOptions) (fields : List (String × PyVal)) :
    (∃ texts, encodeFields o fields = .ok texts) ↔
      ∀ w ∈ foreignFields fields, ∃ text, o.default w = .ok text := by
  cases fields with
  | nil => simp [encodeFields, foreignFields]
  | cons f fields =>
      rcases f with ⟨key, v⟩
      simp only [encodeFields, foreignFields, bind_eq_ok, pure, Except.pure,
        List.forall_mem_append]
      rw [← exists_encode_iff o v, ← exists_encodeFields_iff o fields]
      constructor
      · rintro ⟨-, text, htext, texts, htexts, -⟩
        exact ⟨⟨text, htext⟩, texts, htexts⟩
      · rintro ⟨⟨text, htext⟩, texts, htexts⟩
        exact ⟨_, text, htext, texts, htexts, rfl⟩

end

end PyJson
end Library
end StrategyWorker
