import Mathlib.Algebra.Ring.Nat
import Mathlib.Data.List.Basic
import Mathlib.Data.List.DropRight
import Mathlib.Data.List.GetD
import Mathlib.Data.List.TakeWhile

/-!
# Text operations of the runtime's language

{lit}`str.strip`, {lit}`str.replace` and {lit}`str.endswith`, on strings as lists
of characters, and numbers in hexadecimal digits.

Main results:

- Theorem {lit}`strip_eq_self`: a text that neither starts nor ends with a
  space is its own strip.
-/

namespace StrategyWorker
namespace Library
namespace PyText

/-- What holds of the characters of a list is decided by the list, also where all characters could
be gone through. -/
instance (priority := high) decidableBAllChar (p : Char → Prop) [DecidablePred p]
    (cs : List Char) : Decidable (∀ c ∈ cs, p c) :=
  List.decidableBAll p cs

instance (priority := high) decidableForallCharMem (p : Char → Prop) [DecidablePred p]
    (c? : Option Char) : Decidable (∀ c ∈ c?, p c) :=
  Option.decidableForallMem c?

/-- The characters that {lit}`str.strip` removes. -/
def isSpace (c : Char) : Bool :=
  let n := c.toNat
  (9 ≤ n && n ≤ 13) || (28 ≤ n && n ≤ 32) || n = 0x85 || n = 0xa0 || n = 0x1680 ||
    (0x2000 ≤ n && n ≤ 0x200a) || n = 0x2028 || n = 0x2029 || n = 0x202f || n = 0x205f ||
    n = 0x3000

/-- Remove spaces from the end of a list of characters. -/
def stripRight (cs : List Char) : List Char :=
  (cs.reverse.dropWhile isSpace).reverse

/-- {lit}`str.strip()`. -/
def strip (text : String) : String :=
  String.ofList (stripRight (text.toList.dropWhile isSpace))

/-- {lit}`text.replace("Z", "+00:00")`. -/
def replaceZulu (text : String) : String :=
  String.ofList (text.toList.flatMap fun c => if c = 'Z' then "+00:00".toList else [c])

/-- The characters after {lit}`skip` ones, with every occurrence of {lit}`old` replaced. -/
def replaceFrom (old new : List Char) : (skip : Nat) → List Char → List Char
  | _, [] => []
  | skip + 1, _ :: cs => replaceFrom old new skip cs
  | 0, c :: cs =>
      if old.isPrefixOf (c :: cs) then new ++ replaceFrom old new (old.length - 1) cs
      else c :: replaceFrom old new 0 cs

/-- {lit}`text.replace(old, new)` for a nonempty {lit}`old`. -/
def replace (text old new : String) : String :=
  String.ofList (replaceFrom old.toList new.toList 0 text.toList)

/-- {lit}`text.endswith(suffix)`. -/
def endsWith (text suffix : String) : Bool :=
  suffix.toList.isSuffixOf text.toList

/-- {lit}`text.rstrip("/")`. -/
def rstripSlash (text : String) : String :=
  String.ofList (text.toList.reverse.dropWhile fun c => c = '/').reverse

/-- {lit}`text[:-n]` for a positive {lit}`n`. -/
def dropRight (text : String) (n : Nat) : String :=
  String.ofList (text.toList.take (text.toList.length - n))

/-- {lit}`str.lower` as far as it yields ASCII letters: the Kelvin sign is the only character
outside ASCII whose lower case is an ASCII letter. -/
def lower (text : String) : String :=
  String.ofList (text.toList.map fun c => if c.toNat = 0x212a then 'k' else c.toLower)

/-- The upper case of a character as far as it is in ASCII: the sharp s, the dotless i, the long s
and the ligatures are the only characters outside ASCII whose upper case is. -/
def upperChar (c : Char) : List Char :=
  match c.toNat with
  | 0xdf => ['S', 'S']
  | 0x131 => ['I']
  | 0x17f => ['S']
  | 0xfb00 => ['F', 'F']
  | 0xfb01 => ['F', 'I']
  | 0xfb02 => ['F', 'L']
  | 0xfb03 => ['F', 'F', 'I']
  | 0xfb04 => ['F', 'F', 'L']
  | 0xfb05 => ['S', 'T']
  | 0xfb06 => ['S', 'T']
  | _ => [c.toUpper]

/-- {lit}`str.upper` as far as it yields ASCII letters. -/
def upper (text : String) : String :=
  String.ofList (text.toList.flatMap upperChar)

/-- The text neither starts nor ends with a space. -/
def Trimmed (text : String) : Prop :=
  text.toList.head?.all (fun c => !isSpace c) ∧ text.toList.getLast?.all (fun c => !isSpace c)

instance (text : String) : Decidable (Trimmed text) :=
  inferInstanceAs (Decidable (_ ∧ _))

theorem dropWhile_eq_self {cs : List Char} (h : cs.head?.all fun c => !isSpace c) :
    cs.dropWhile isSpace = cs := by
  cases cs with
  | nil => simp
  | cons c cs =>
      have hc : isSpace c = false := by simpa using h
      simp [hc]

/-- A text that neither starts nor ends with a space is its own strip. -/
theorem strip_eq_self {text : String} (h : Trimmed text) : strip text = text := by
  rcases h with ⟨hfirst, hlast⟩
  have hrev : text.toList.reverse.head?.all fun c => !isSpace c := by
    rwa [List.head?_reverse]
  rw [strip, dropWhile_eq_self hfirst, stripRight, dropWhile_eq_self hrev, List.reverse_reverse,
    String.ofList_toList]

/-- A strip neither starts nor ends with a space. -/
theorem trimmed_strip (text : String) : Trimmed (strip text) := by
  have hfirst := List.head?_dropWhile_not isSpace text.toList
  have hlast := List.head?_dropWhile_not isSpace (text.toList.dropWhile isSpace).reverse
  unfold Trimmed
  rw [strip, String.toList_ofList]
  constructor
  · -- the strip starts as the text without its first spaces does
    have hleads : stripRight (text.toList.dropWhile isSpace) <+: text.toList.dropWhile isSpace :=
      List.rdropWhile_prefix isSpace _
    cases hstrip : stripRight (text.toList.dropWhile isSpace) with
    | nil => simp
    | cons c cs =>
        rw [hstrip] at hleads
        rcases hleads with ⟨rest, hrest⟩
        rw [← hrest] at hfirst
        simpa using hfirst
  · rw [stripRight, List.getLast?_reverse]
    cases hdrop : ((text.toList.dropWhile isSpace).reverse.dropWhile isSpace).head? with
    | none => simp
    | some c =>
        rw [hdrop] at hlast
        simpa using hlast

theorem strip_strip (text : String) : strip (strip text) = strip text :=
  strip_eq_self (trimmed_strip text)

/-- A text that is neither empty nor padded. -/
def IsText (text : String) : Prop :=
  text ≠ "" ∧ strip text = text

instance (text : String) : Decidable (IsText text) :=
  inferInstanceAs (Decidable (_ ∧ _))

theorem isText_strip {text : String} (h : strip text ≠ "") : IsText (strip text) :=
  ⟨h, strip_strip text⟩

/-- A text whose strip is empty holds nothing but spaces. -/
theorem isSpace_of_strip_eq_empty {text : String} (h : strip text = "") :
    ∀ c ∈ text.toList, isSpace c := by
  have hright : stripRight (text.toList.dropWhile isSpace) = [] := by
    have hlist := congrArg String.toList h
    simpa [strip] using hlist
  have hleft : ∀ c ∈ text.toList.dropWhile isSpace, isSpace c := by
    have hrev := List.reverse_eq_nil_iff.1 hright
    rw [List.dropWhile_eq_nil_iff] at hrev
    simpa using hrev
  rw [← List.dropWhile_eq_nil_iff]
  cases hdrop : text.toList.dropWhile isSpace with
  | nil => rfl
  | cons c cs =>
      have hhead := List.head?_dropWhile_not isSpace text.toList
      rw [hdrop] at hhead hleft
      have hc := hleft c List.mem_cons_self
      simp [hc] at hhead

/-- A text with a character that is no space has a strip that is not empty. -/
theorem strip_ne_empty {text : String} {c : Char} (hc : c ∈ text.toList) (h : ¬ isSpace c) :
    strip text ≠ "" :=
  fun hblank => h (isSpace_of_strip_eq_empty hblank c hc)

/-! ## Hexadecimal digits -/

def hexDigits : List Char :=
  ['0', '1', '2', '3', '4', '5', '6', '7', '8', '9', 'a', 'b', 'c', 'd', 'e', 'f']

def hexDigit (n : Nat) : Char :=
  hexDigits.getD (n % 16) '0'

/-- The lowest digits of a number. -/
def hexText (width n : Nat) : List Char :=
  (List.range width).map fun i => hexDigit (n >>> (4 * (width - 1 - i)))

theorem hexDigit_mem (n : Nat) : hexDigit n ∈ hexDigits := by
  have hlt : n % 16 < hexDigits.length := Nat.mod_lt n (by decide)
  rw [hexDigit, List.getD_eq_getElem _ _ hlt]
  exact List.getElem_mem hlt

theorem mem_hexDigits_of_mem_hexText {width n : Nat} {c : Char} (h : c ∈ hexText width n) :
    c ∈ hexDigits := by
  rcases List.mem_map.1 h with ⟨i, -, rfl⟩
  exact hexDigit_mem _

end PyText
end Library
end StrategyWorker
