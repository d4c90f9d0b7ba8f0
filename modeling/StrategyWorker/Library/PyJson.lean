import StrategyWorker.Library.PyValue

/-!
# Reading JSON

{lit}`json.loads` of the runtime's language: the scanner accepts the JSON
grammar and the constants {lit}`NaN`, {lit}`Infinity` and {lit}`-Infinity`, and
a later member of an object replaces an earlier one of the same name.  Three
exceptions leave it.  {lit}`JSONDecodeError` reports a text outside the grammar,
{lit}`ValueError` an integer of more than 4300 digits, and
{lit}`RecursionError` a text that nests deeper than the interpreter still
allows; only the first is a {lit}`JSONDecodeError`.

Half a surrogate pair, which no text of this model can hold, is read as the
replacement character.

Main results:

- Theorem {lit}`loads_ne_unfinished`: the scan always comes to an end.
- Theorem {lit}`loads_of_room_succ`: with less room the result is the same, or
  {lit}`RecursionError`.
- Theorem {lit}`loads_error_of_small`: a text of at most 4300 characters that
  opens no more containers than there is room for raises only
  {lit}`JSONDecodeError`.
-/

namespace StrategyWorker
namespace Library
namespace PyJson

open Binary64

/-- The exceptions of {lit}`json.loads`. -/
inductive LoadsError where
  | jsonDecodeError
  /-- {lit}`int(...)` of more than 4300 digits. -/
  | valueError
  | recursionError
  /-- The scan has not come to an end. -/
  | unfinished
  deriving DecidableEq, Repr

/-- What a scan yields: a value and the text after it. -/
abbrev Scanned := Except LoadsError (PyVal × List Char)

/-! ## Texts -/

/-- The characters between tokens. -/
def isWhitespace (c : Char) : Bool :=
  c = ' ' || c = '\t' || c = '\n' || c = '\r'

def skipWhitespace (cs : List Char) : List Char :=
  cs.dropWhile isWhitespace

def hexValue (c : Char) : Option Nat :=
  if c.isDigit then some (c.toNat - '0'.toNat)
  else if 'a' ≤ c ∧ c ≤ 'f' then some (c.toNat - 'a'.toNat + 10)
  else if 'A' ≤ c ∧ c ≤ 'F' then some (c.toNat - 'A'.toNat + 10)
  else none

/-- The four digits of an escape. -/
def hexUnit (a b c d : Char) : Option Nat := do
  return (((← hexValue a) * 16 + (← hexValue b)) * 16 + (← hexValue c)) * 16 + (← hexValue d)

/-- The character that a backslash escape stands for. -/
def escapeOf (c : Char) : Option Nat :=
  match c with
  | '"' => some 0x22
  | '\\' => some 0x5c
  | '/' => some 0x2f
  | 'b' => some 0x08
  | 'f' => some 0x0c
  | 'n' => some 0x0a
  | 'r' => some 0x0d
  | 't' => some 0x09
  | _ => none

/-- {lit}`scanstring` after the opening quote: code units, and the text after the closing quote;
control characters are refused. -/
def scanString : List Char → Option (List Nat × List Char)
  | [] => none
  | '"' :: cs => some ([], cs)
  | '\\' :: 'u' :: a :: b :: c :: d :: cs => do
      let unit ← hexUnit a b c d
      let (units, rest) ← scanString cs
      return (unit :: units, rest)
  | '\\' :: e :: cs => do
      let unit ← escapeOf e
      let (units, rest) ← scanString cs
      return (unit :: units, rest)
  | c :: cs =>
      if c.toNat < 0x20 then none
      else do
        let (units, rest) ← scanString cs
        return (c.toNat :: units, rest)

/-- Join the surrogate pairs that escapes have spelt. -/
def joinSurrogates : List Nat → List Char
  | [] => []
  | [unit] => [if 0xd800 ≤ unit ∧ unit < 0xe000 then Char.ofNat 0xfffd else Char.ofNat unit]
  | high :: low :: units =>
      if 0xd800 ≤ high ∧ high < 0xdc00 ∧ 0xdc00 ≤ low ∧ low < 0xe000 then
        Char.ofNat (0x10000 + (high - 0xd800) * 0x400 + (low - 0xdc00)) :: joinSurrogates units
      else
        (if 0xd800 ≤ high ∧ high < 0xe000 then Char.ofNat 0xfffd else Char.ofNat high) ::
          joinSurrogates (low :: units)

/-! ## Numbers -/

/-- {lit}`float(...)` of a numeral's value; below the smallest normal value the last place is
fixed. -/
def floatLiteral (q : ℚ) : PyFloat :=
  if |q| * 2 ^ 1022 < 1 then .finite (roundEven (q * 2 ^ 1074) / 2 ^ 1074) else floatOfRat q

/-- A point and at least one digit, or nothing. -/
def fractionPart (cs : List Char) : List Char × List Char :=
  match cs with
  | '.' :: d :: cs =>
      if d.isDigit then (d :: cs.takeWhile Char.isDigit, cs.dropWhile Char.isDigit)
      else ([], '.' :: d :: cs)
  | cs => ([], cs)

/-- An exponent with at least one digit, or nothing. -/
def exponentPart (cs : List Char) : Option Int × List Char :=
  match cs with
  | e :: cs' =>
      let (negative, ds) := splitSign cs'
      let digits := ds.takeWhile Char.isDigit
      if (e = 'e' ∨ e = 'E') ∧ digits ≠ [] then
        (some (if negative then -(natOfDigits digits : Int) else natOfDigits digits),
          ds.dropWhile Char.isDigit)
      else (none, cs)
  | [] => (none, [])

/-- {lit}`match_number` after the sign. -/
def matchNumber (negative : Bool) (cs : List Char) : Scanned :=
  match cs with
  | [] => .error .jsonDecodeError
  | c :: cs =>
      if c.isDigit then
        let whole := if c = '0' then [c] else c :: cs.takeWhile Char.isDigit
        let cs := if c = '0' then cs else cs.dropWhile Char.isDigit
        let (fraction, cs) := fractionPart cs
        let (exponent, cs) := exponentPart cs
        if fraction = [] ∧ exponent = none then
          if 4300 < whole.length then .error .valueError
          else .ok (.int (if negative then -(natOfDigits whole : Int) else natOfDigits whole), cs)
        else
          let value : ℚ :=
            natOfDigits (whole ++ fraction) / 10 ^ fraction.length * 10 ^ exponent.getD 0
          .ok (.float (floatLiteral (if negative then -value else value)), cs)
      else .error .jsonDecodeError

/-- The constants, and numbers. -/
def scanAtom (cs : List Char) : Scanned :=
  match cs with
  | 'n' :: 'u' :: 'l' :: 'l' :: cs => .ok (.none, cs)
  | 't' :: 'r' :: 'u' :: 'e' :: cs => .ok (.bool true, cs)
  | 'f' :: 'a' :: 'l' :: 's' :: 'e' :: cs => .ok (.bool false, cs)
  | 'N' :: 'a' :: 'N' :: cs => .ok (.float .nan, cs)
  | 'I' :: 'n' :: 'f' :: 'i' :: 'n' :: 'i' :: 't' :: 'y' :: cs => .ok (.float (.infinite false), cs)
  | '-' :: 'I' :: 'n' :: 'f' :: 'i' :: 'n' :: 'i' :: 't' :: 'y' :: cs =>
      .ok (.float (.infinite true), cs)
  | '-' :: cs => matchNumber true cs
  | cs => matchNumber false cs

/-! ## Values -/

mutual

/-- {lit}`scan_once`: one value at the front of the text.  {lit}`room` is how many containers may
still be opened inside each other; {lit}`steps` bounds the scan. -/
def scanOnce : (steps room : Nat) → List Char → Scanned
  | 0, _, _ => .error .unfinished
  | steps + 1, room, cs =>
      match cs with
      | '"' :: cs =>
          match scanString cs with
          | some (units, rest) => .ok (.str (String.ofList (joinSurrogates units)), rest)
          | none => .error .jsonDecodeError
      | '{' :: cs =>
          match room with
          | 0 => .error .recursionError
          | room + 1 =>
              match skipWhitespace cs with
              | '}' :: rest => .ok (.dict [], rest)
              | cs => scanMembers steps room [] cs
      | '[' :: cs =>
          match room with
          | 0 => .error .recursionError
          | room + 1 =>
              match skipWhitespace cs with
              | ']' :: rest => .ok (.list [], rest)
              | cs => scanElements steps room [] cs
      | cs => scanAtom cs

/-- The members of an object from a name on, after the members {lit}`done`. -/
def scanMembers : (steps room : Nat) → PyDict → List Char → Scanned
  | 0, _, _, _ => .error .unfinished
  | steps + 1, room, done, cs =>
      match cs with
      | '"' :: cs =>
          match scanString cs with
          | none => .error .jsonDecodeError
          | some (units, cs) =>
              match skipWhitespace cs with
              | ':' :: cs =>
                  match scanOnce steps room (skipWhitespace cs) with
                  | .error e => .error e
                  | .ok (value, cs) =>
                      let done := PyDict.set done (String.ofList (joinSurrogates units)) value
                      match skipWhitespace cs with
                      | '}' :: rest => .ok (.dict done, rest)
                      | ',' :: cs => scanMembers steps room done (skipWhitespace cs)
                      | _ => .error .jsonDecodeError
              | _ => .error .jsonDecodeError
      | _ => .error .jsonDecodeError

/-- The elements of an array from a value on, after the elements {lit}`done`. -/
def scanElements : (steps room : Nat) → List PyVal → List Char → Scanned
  | 0, _, _, _ => .error .unfinished
  | steps + 1, room, done, cs =>
      match scanOnce steps room cs with
      | .error e => .error e
      | .ok (value, cs) =>
          match skipWhitespace cs with
          | ']' :: rest => .ok (.list (done ++ [value]), rest)
          | ',' :: cs => scanElements steps room (done ++ [value]) (skipWhitespace cs)
          | _ => .error .jsonDecodeError

end

/-- {lit}`json.loads` of a text: one value, with nothing but whitespace around it, and no byte
order mark. -/
def loads (room : Nat) (text : String) : Except LoadsError PyVal :=
  match text.toList with
  | '\ufeff' :: _ => .error .jsonDecodeError
  | cs =>
      match scanOnce (2 * cs.length + 2) room (skipWhitespace cs) with
      | .error e => .error e
      | .ok (value, rest) =>
          if skipWhitespace rest = [] then .ok value else .error .jsonDecodeError

/-! ## How far a scan gets -/

/-- The text after a scan is a proper suffix of the text before it. -/
def Consumes (cs rest : List Char) : Prop :=
  rest <:+ cs ∧ rest.length < cs.length

theorem Consumes.of_suffix {cs mid rest : List Char} (h : Consumes mid rest) (hmid : mid <:+ cs) :
    Consumes cs rest :=
  ⟨h.1.trans hmid, h.2.trans_le hmid.length_le⟩

theorem Consumes.cons {cs rest : List Char} (c : Char) (h : rest <:+ cs) :
    Consumes (c :: cs) rest :=
  ⟨h.trans (List.suffix_cons c cs), Nat.lt_succ_of_le h.length_le⟩

theorem Consumes.append {p : List Char} (hp : p ≠ []) (rest : List Char) :
    Consumes (p ++ rest) rest := by
  have hlength : 0 < p.length := List.length_pos_iff.2 hp
  exact ⟨List.suffix_append p rest, by rw [List.length_append]; omega⟩

theorem skipWhitespace_suffix (cs : List Char) : skipWhitespace cs <:+ cs :=
  List.dropWhile_suffix _

/-- A unit in front of a scanned text leaves the text after it alone. -/
theorem rest_of_unit (unit : Option Nat) {scanned : Option (List Nat × List Char)}
    {units : List Nat} {rest : List Char}
    (h : (do let u ← unit; let (us, cs) ← scanned; return (u :: us, cs)) = some (units, rest)) :
    ∃ us, scanned = some (us, rest) := by
  rcases Option.bind_eq_some_iff.1 h with ⟨u, -, h⟩
  rcases Option.bind_eq_some_iff.1 h with ⟨⟨us, cs⟩, hscanned, h⟩
  have hpair : (u :: us, cs) = (units, rest) := by simpa using h
  cases hpair
  exact ⟨us, hscanned⟩

theorem Consumes.trans_suffix {cs mid rest : List Char} (h : Consumes cs mid)
    (hrest : rest <:+ mid) : Consumes cs rest :=
  ⟨hrest.trans h.1, hrest.length_le.trans_lt h.2⟩

/-- Reading one more character, after whitespace. -/
theorem Consumes.token {cs mid rest : List Char} {c : Char} (h : Consumes cs mid)
    (htoken : skipWhitespace mid = c :: rest) : Consumes cs rest :=
  h.trans_suffix ((List.suffix_cons c rest).trans (htoken ▸ skipWhitespace_suffix mid))

theorem Consumes.skip {cs mid : List Char} (h : Consumes cs mid) :
    Consumes cs (skipWhitespace mid) :=
  h.trans_suffix (skipWhitespace_suffix mid)

theorem scanString_consumes {cs rest : List Char} {units : List Nat}
    (h : scanString cs = some (units, rest)) : Consumes cs rest := by
  induction cs using scanString.induct generalizing units rest with
  | case1 => simp [scanString] at h
  | case2 cs =>
      obtain ⟨-, rfl⟩ : [] = units ∧ cs = rest := by simpa [scanString] using h
      exact Consumes.cons _ List.suffix_rfl
  | case3 a b c d cs ih =>
      rw [scanString] at h
      rcases rest_of_unit _ h with ⟨us, hs⟩
      exact (ih hs).of_suffix ⟨['\\', 'u', a, b, c, d], rfl⟩
  | case4 e cs hunit ih =>
      rw [scanString] at h
      · rcases rest_of_unit _ h with ⟨us, hs⟩
        exact (ih hs).of_suffix ⟨['\\', e], rfl⟩
      · exact hunit
  | case5 c cs hquote hunit hescape hcontrol =>
      rw [scanString] at h
      · simp [hcontrol] at h
      · exact hquote
      · exact hunit
      · exact hescape
  | case6 c cs hquote hunit hescape hcontrol ih =>
      rw [scanString, if_neg hcontrol] at h
      · rcases rest_of_unit (some c.toNat) h with ⟨us, hs⟩
        exact (ih hs).of_suffix (List.suffix_cons c cs)
      · exact hquote
      · exact hunit
      · exact hescape

theorem fractionPart_suffix (cs : List Char) : (fractionPart cs).2 <:+ cs := by
  unfold fractionPart
  split
  · rename_i d ds
    split
    · exact (List.dropWhile_suffix _).trans ⟨['.', d], rfl⟩
    · exact List.suffix_rfl
  · exact List.suffix_rfl

theorem splitSign_suffix (cs : List Char) : (splitSign cs).2 <:+ cs := by
  unfold splitSign
  split
  · exact List.suffix_cons _ _
  · exact List.suffix_cons _ _
  · exact List.suffix_rfl

theorem exponentPart_suffix (cs : List Char) : (exponentPart cs).2 <:+ cs := by
  unfold exponentPart
  split
  · rename_i e ds
    dsimp only
    split
    · exact ((List.dropWhile_suffix _).trans (splitSign_suffix ds)).trans (List.suffix_cons e ds)
    · exact List.suffix_rfl
  · exact List.suffix_rfl

/-- What a scan of a number or a constant yields: it never complains of nesting. -/
def AtomSpec (cs : List Char) : Scanned → Prop
  | .ok (_, rest) => Consumes cs rest
  | .error .jsonDecodeError => True
  | .error .valueError => 4300 < cs.length
  | .error .recursionError => False
  | .error .unfinished => False

theorem AtomSpec.of_suffix {cs mid : List Char} {r : Scanned} (h : AtomSpec mid r)
    (hmid : mid <:+ cs) : AtomSpec cs r := by
  rcases r with (_ | _ | _ | _) | ⟨v, rest⟩
  · trivial
  · exact lt_of_lt_of_le h hmid.length_le
  · exact h
  · exact h
  · exact Consumes.of_suffix h hmid

theorem matchNumber_spec (negative : Bool) (cs : List Char) :
    AtomSpec cs (matchNumber negative cs) := by
  cases cs with
  | nil => trivial
  | cons c cs =>
      unfold matchNumber
      by_cases hc : c.isDigit
      · have hdigits : (if c = '0' then cs else cs.dropWhile Char.isDigit) <:+ cs := by
          split
          · exact List.suffix_rfl
          · exact List.dropWhile_suffix _
        have hwhole : (if c = '0' then [c] else c :: cs.takeWhile Char.isDigit).length ≤
            (c :: cs).length := by
          split
          · simp
          · simpa using (List.takeWhile_prefix Char.isDigit (l := cs)).length_le
        simp only [hc, if_true]
        generalize (if c = '0' then cs else cs.dropWhile Char.isDigit) = after at hdigits
        generalize (if c = '0' then [c] else c :: cs.takeWhile Char.isDigit) = whole at hwhole
        have hrest : (exponentPart (fractionPart after).2).2 <:+ cs :=
          ((exponentPart_suffix _).trans (fractionPart_suffix after)).trans hdigits
        split
        · split
          · rename_i hlong
            exact hlong.trans_le hwhole
          · exact Consumes.cons c hrest
        · exact Consumes.cons c hrest
      · simp [hc, AtomSpec]

theorem scanAtom_spec (cs : List Char) : AtomSpec cs (scanAtom cs) := by
  unfold scanAtom
  split
  case h_1 rest => exact Consumes.append (p := "null".toList) (by decide) rest
  case h_2 rest => exact Consumes.append (p := "true".toList) (by decide) rest
  case h_3 rest => exact Consumes.append (p := "false".toList) (by decide) rest
  case h_4 rest => exact Consumes.append (p := "NaN".toList) (by decide) rest
  case h_5 rest => exact Consumes.append (p := "Infinity".toList) (by decide) rest
  case h_6 rest => exact Consumes.append (p := "-Infinity".toList) (by decide) rest
  case h_7 rest _ => exact (matchNumber_spec true rest).of_suffix (List.suffix_cons _ _)
  case h_8 => exact matchNumber_spec false cs

/-- How often a text opens a container, at most. -/
def opens (cs : List Char) : Nat :=
  cs.countP fun c => c = '{' || c = '['

theorem opens_le_of_suffix {cs rest : List Char} (h : rest <:+ cs) : opens rest ≤ opens cs :=
  h.sublist.countP_le

/-- What a scan with enough steps yields: {lit}`RecursionError` needs more openings than there is
room for, and {lit}`ValueError` a long text. -/
def ScanSpec (room : Nat) (cs : List Char) : Scanned → Prop
  | .ok (_, rest) => Consumes cs rest
  | .error .jsonDecodeError => True
  | .error .valueError => 4300 < cs.length
  | .error .recursionError => room < opens cs
  | .error .unfinished => False

theorem ScanSpec.of_suffix {room : Nat} {cs mid : List Char} {r : Scanned}
    (h : ScanSpec room mid r) (hmid : mid <:+ cs) : ScanSpec room cs r := by
  rcases r with (_ | _ | _ | _) | ⟨v, rest⟩
  · trivial
  · exact lt_of_lt_of_le h hmid.length_le
  · exact lt_of_lt_of_le h (opens_le_of_suffix hmid)
  · exact h
  · exact Consumes.of_suffix h hmid

/-- A container that is opened takes the room that its inside may not use. -/
theorem ScanSpec.opened {room : Nat} {cs : List Char} {r : Scanned} {c : Char}
    (h : ScanSpec room cs r) (hc : c = '{' ∨ c = '[') : ScanSpec (room + 1) (c :: cs) r := by
  have hopens : opens (c :: cs) = opens cs + 1 := by
    rcases hc with rfl | rfl <;> simp [opens]
  rcases r with (_ | _ | _ | _) | ⟨v, rest⟩
  · trivial
  · exact lt_of_lt_of_le h (by simp)
  · have hroom : room < opens cs := h
    show room + 1 < opens (c :: cs)
    omega
  · exact h
  · exact Consumes.of_suffix h (List.suffix_cons c cs)

theorem AtomSpec.scanSpec {cs : List Char} {r : Scanned} (h : AtomSpec cs r) (room : Nat) :
    ScanSpec room cs r := by
  rcases r with (_ | _ | _ | _) | ⟨v, rest⟩
  · trivial
  · exact h
  · exact h.elim
  · exact h
  · exact h

theorem scan_spec (steps : Nat) :
    (∀ room cs, 2 * cs.length + 1 ≤ steps → ScanSpec room cs (scanOnce steps room cs)) ∧
    (∀ room done cs, 2 * cs.length + 2 ≤ steps →
      ScanSpec room cs (scanMembers steps room done cs)) ∧
    (∀ room done cs, 2 * cs.length + 2 ≤ steps →
      ScanSpec room cs (scanElements steps room done cs)) := by
  induction steps with
  | zero =>
      refine ⟨fun _ cs h => ?_, fun _ _ cs h => ?_, fun _ _ cs h => ?_⟩ <;> omega
  | succ steps ih =>
      rcases ih with ⟨ihOnce, ihMembers, ihElements⟩
      refine ⟨fun room cs hsteps => ?_, fun room done cs hsteps => ?_,
        fun room done cs hsteps => ?_⟩
      · unfold scanOnce
        split
        · rename_i cs
          cases hs : scanString cs with
          | none => trivial
          | some p => exact (scanString_consumes hs).of_suffix (List.suffix_cons _ cs)
        · rename_i cs
          have hws := skipWhitespace_suffix cs
          have hlength := hws.length_le
          simp only [List.length_cons] at hsteps
          cases room with
          | zero => simp [ScanSpec, opens]
          | succ room =>
              dsimp only
              split
              · rename_i rest hrest
                exact Consumes.cons _ ((List.suffix_cons _ rest).trans (hrest ▸ hws))
              · exact ((ihMembers room [] _ (by omega)).of_suffix hws).opened (.inl rfl)
        · rename_i cs
          have hws := skipWhitespace_suffix cs
          have hlength := hws.length_le
          simp only [List.length_cons] at hsteps
          cases room with
          | zero => simp [ScanSpec, opens]
          | succ room =>
              dsimp only
              split
              · rename_i rest hrest
                exact Consumes.cons _ ((List.suffix_cons _ rest).trans (hrest ▸ hws))
              · exact ((ihElements room [] _ (by omega)).of_suffix hws).opened (.inr rfl)
        · exact (scanAtom_spec cs).scanSpec room
      · unfold scanMembers
        split
        · rename_i cs
          cases hs : scanString cs with
          | none => trivial
          | some p =>
              obtain ⟨units, after⟩ := p
              have hname := (scanString_consumes hs).of_suffix (List.suffix_cons '"' cs)
              dsimp only
              split
              · rename_i text hcolon
                have htext : Consumes ('"' :: cs) (skipWhitespace text) := (hname.token hcolon).skip
                have hshort := htext.2
                have hvalue := ihOnce room (skipWhitespace text) (by omega)
                cases hscan : scanOnce steps room (skipWhitespace text) with
                | error e =>
                    rw [hscan] at hvalue
                    exact hvalue.of_suffix htext.1
                | ok p =>
                    obtain ⟨v, rest⟩ := p
                    rw [hscan] at hvalue
                    have hafter : Consumes ('"' :: cs) rest := Consumes.of_suffix hvalue htext.1
                    dsimp only
                    split
                    · rename_i close hclose
                      exact hafter.token hclose
                    · rename_i more hcomma
                      have hmore := (hafter.token hcomma).skip
                      have hlength := hmore.2
                      exact (ihMembers room _ _ (by omega)).of_suffix hmore.1
                    · trivial
              · trivial
        · trivial
      · unfold scanElements
        have hvalue := ihOnce room cs (by omega)
        cases hscan : scanOnce steps room cs with
        | error e =>
            rw [hscan] at hvalue
            exact hvalue
        | ok p =>
            obtain ⟨v, rest⟩ := p
            rw [hscan] at hvalue
            have hafter : Consumes cs rest := hvalue
            dsimp only
            split
            · rename_i close hclose
              exact hafter.token hclose
            · rename_i more hcomma
              have hmore := (hafter.token hcomma).skip
              have hlength := hmore.2
              exact (ihElements room _ _ (by omega)).of_suffix hmore.1
            · trivial

/-! ## Room -/

/-- With less room a scan yields the same, or complains of nesting. -/
def SameOrDeeper (small large : Scanned) : Prop :=
  small = large ∨ small = .error .recursionError

theorem scan_room_succ (steps : Nat) :
    (∀ room cs, SameOrDeeper (scanOnce steps room cs) (scanOnce steps (room + 1) cs)) ∧
    (∀ room done cs,
      SameOrDeeper (scanMembers steps room done cs) (scanMembers steps (room + 1) done cs)) ∧
    (∀ room done cs,
      SameOrDeeper (scanElements steps room done cs) (scanElements steps (room + 1) done cs)) := by
  induction steps with
  | zero => exact ⟨fun _ _ => .inl rfl, fun _ _ _ => .inl rfl, fun _ _ _ => .inl rfl⟩
  | succ steps ih =>
      rcases ih with ⟨ihOnce, ihMembers, ihElements⟩
      refine ⟨fun room cs => ?_, fun room done cs => ?_, fun room done cs => ?_⟩
      · unfold scanOnce
        split
        · exact .inl rfl
        · cases room with
          | zero => exact .inr rfl
          | succ room =>
              dsimp only
              split
              · exact .inl rfl
              · exact ihMembers room _ _
        · cases room with
          | zero => exact .inr rfl
          | succ room =>
              dsimp only
              split
              · exact .inl rfl
              · exact ihElements room _ _
        · exact .inl rfl
      · unfold scanMembers
        split
        · split
          · exact .inl rfl
          · split
            · rename_i text hcolon
              rcases ihOnce room (skipWhitespace text) with h | h
              · rw [h]
                cases scanOnce steps (room + 1) (skipWhitespace text) with
                | error e => exact .inl rfl
                | ok p =>
                    dsimp only
                    split
                    · exact .inl rfl
                    · exact ihMembers room _ _
                    · exact .inl rfl
              · rw [h]
                exact .inr rfl
            · exact .inl rfl
        · exact .inl rfl
      · unfold scanElements
        rcases ihOnce room cs with h | h
        · rw [h]
          cases scanOnce steps (room + 1) cs with
          | error e => exact .inl rfl
          | ok p =>
              dsimp only
              split
              · exact .inl rfl
              · exact ihElements room _ _
              · exact .inl rfl
        · rw [h]
          exact .inr rfl

/-! ## Loading a text -/

/-- With less room {lit}`json.loads` yields the same, or {lit}`RecursionError`. -/
theorem loads_of_room_succ (room : Nat) (text : String) :
    loads room text = loads (room + 1) text ∨ loads room text = .error .recursionError := by
  unfold loads
  split
  · exact .inl rfl
  · have hscan := (scan_room_succ (2 * text.toList.length + 2)).1 room (skipWhitespace text.toList)
    rcases hscan with h | h
    · rw [h]
      exact .inl rfl
    · rw [h]
      exact .inr rfl

/-- What leaves {lit}`json.loads` as an exception says something of the text. -/
theorem loads_error {room : Nat} {text : String} {e : LoadsError}
    (h : loads room text = .error e) :
    e = .jsonDecodeError ∨ (e = .valueError ∧ 4300 < text.toList.length) ∨
      (e = .recursionError ∧ room < opens text.toList) := by
  unfold loads at h
  split at h
  · exact .inl (by simpa using h.symm)
  · have hws := skipWhitespace_suffix text.toList
    have hlength := hws.length_le
    have hspec := (scan_spec (2 * text.toList.length + 2)).1 room (skipWhitespace text.toList)
      (by omega)
    cases hscan : scanOnce (2 * text.toList.length + 2) room (skipWhitespace text.toList) with
    | error e' =>
        rw [hscan] at h hspec
        obtain rfl : e' = e := by simpa using h
        cases e' with
        | jsonDecodeError => exact .inl rfl
        | valueError => exact .inr (.inl ⟨rfl, lt_of_lt_of_le hspec hlength⟩)
        | recursionError =>
            exact .inr (.inr ⟨rfl, lt_of_lt_of_le hspec (opens_le_of_suffix hws)⟩)
        | unfinished => exact hspec.elim
    | ok p =>
        rw [hscan] at h
        dsimp only at h
        split at h
        · cases h
        · exact .inl (by simpa using h.symm)

/-- The scan always comes to an end. -/
theorem loads_ne_unfinished (room : Nat) (text : String) :
    loads room text ≠ .error .unfinished := by
  intro h
  rcases loads_error h with h | ⟨h, -⟩ | ⟨h, -⟩ <;> cases h

/-- A short text that opens few containers raises nothing but {lit}`JSONDecodeError`. -/
theorem loads_error_of_small {room : Nat} {text : String} {e : LoadsError}
    (hlength : text.toList.length ≤ 4300) (hroom : opens text.toList ≤ room)
    (h : loads room text = .error e) : e = .jsonDecodeError := by
  rcases loads_error h with rfl | ⟨-, hlong⟩ | ⟨-, hdeep⟩
  · rfl
  · omega
  · omega

/-- A space starts no value. -/
theorem scanOnce_of_space {c : Char} (h : PyText.isSpace c) (steps room : Nat) (cs : List Char) :
    scanOnce (steps + 1) room (c :: cs) = .error .jsonDecodeError := by
  have hne (c' : Char) (hc' : PyText.isSpace c' = false) : c ≠ c' := by
    intro heq
    simp [heq, hc'] at h
  have hdigit : c.isDigit = false := by
    cases hd : c.isDigit with
    | false => rfl
    | true =>
        simp only [Char.isDigit, Bool.and_eq_true, decide_eq_true_eq, ge_iff_le,
          UInt32.le_iff_toNat_le] at hd
        simp only [PyText.isSpace, Bool.or_eq_true, Bool.and_eq_true, decide_eq_true_eq,
          Char.toNat] at h
        have hlow : 48 ≤ c.val.toNat := hd.1
        have hhigh : c.val.toNat ≤ 57 := hd.2
        omega
  have hnumber : matchNumber false (c :: cs) = .error .jsonDecodeError := by
    simp [matchNumber, hdigit]
  rw [scanOnce, scanAtom, hnumber]
  all_goals
    intro cs' hcs
    exact hne _ (by decide) (List.cons.inj hcs).1

/-- A text of spaces, also of those that are no whitespace between tokens, is no JSON. -/
theorem loads_of_spaces {text : String} (room : Nat) (h : ∀ c ∈ text.toList, PyText.isSpace c) :
    loads room text = .error .jsonDecodeError := by
  unfold loads
  split
  · rfl
  · have hspaces : ∀ c ∈ skipWhitespace text.toList, PyText.isSpace c :=
      fun c hc => h c ((skipWhitespace_suffix _).subset hc)
    cases hskip : skipWhitespace text.toList with
    | nil => rfl
    | cons c cs =>
        rw [hskip] at hspaces
        rw [scanOnce_of_space (hspaces c List.mem_cons_self)]

end PyJson
end Library
end StrategyWorker
