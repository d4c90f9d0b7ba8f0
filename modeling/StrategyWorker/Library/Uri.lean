import Mathlib.Data.List.SplitBy
import StrategyWorker.Library.PyText

/-!
# URIs of files

{lit}`quote_from_bytes`, {lit}`unquote` and {lit}`urlparse` of the runtime's
language, and the URI of an absolute path.  Quoting writes the UTF-8 bytes of a
text; unquoting reads ASCII runs back as bytes and decodes them, with a
replacement character for each malformed sequence.

Main results:

- Theorem {lit}`unquote_quote`: a quoted text is read back.
- Theorem {lit}`urlparse_ofPath`: the parts of the URI of an absolute path.
-/

namespace StrategyWorker
namespace Library
namespace Uri

/-! ## UTF-8 -/

/-- {lit}`text.encode("utf-8")`. -/
def encode (chars : List Char) : List UInt8 :=
  chars.flatMap String.utf8EncodeChar

def isContinuation (b : UInt8) : Bool :=
  0x80 ≤ b && b ≤ 0xbf

/-- The second byte can follow the first, which starts three or four bytes. -/
def follows (a b : UInt8) : Bool :=
  if a = 0xe0 then 0xa0 ≤ b && b ≤ 0xbf
  else if a = 0xed then 0x80 ≤ b && b ≤ 0x9f
  else if a = 0xf0 then 0x90 ≤ b && b ≤ 0xbf
  else if a = 0xf4 then 0x80 ≤ b && b ≤ 0x8f
  else isContinuation b

/-- How many bytes one replacement character stands for, where no character starts. -/
def malformedLength : List UInt8 → Nat
  | a :: b :: rest =>
      if 0xe0 ≤ a ∧ a ≤ 0xf4 ∧ follows a b then
        if 0xf0 ≤ a ∧ rest.head?.any isContinuation then 3 else 2
      else 1
  | _ => 1

/-- The character at the start of the bytes and how many of them it takes. -/
def decodeStep (bytes : List UInt8) : Char × Nat :=
  match bytes.toByteArray.utf8DecodeChar? 0 with
  | some c => (c, c.utf8Size)
  | none => (Char.ofNat 0xfffd, malformedLength bytes)

/-- The characters of the bytes after {lit}`skip` ones. -/
def decodeFrom : (skip : Nat) → List UInt8 → List Char
  | _, [] => []
  | skip + 1, _ :: bytes => decodeFrom skip bytes
  | 0, b :: bytes =>
      let (c, size) := decodeStep (b :: bytes)
      c :: decodeFrom (size - 1) bytes

/-- {lit}`bytes.decode("utf-8", "replace")`. -/
def decodeReplace (bytes : List UInt8) : List Char :=
  decodeFrom 0 bytes

theorem decodeFrom_append {xs : List UInt8} {skip : Nat} (h : xs.length = skip)
    (ys : List UInt8) : decodeFrom skip (xs ++ ys) = decodeFrom 0 ys := by
  induction xs generalizing skip with
  | nil =>
      subst h
      rfl
  | cons x xs ih =>
      subst h
      exact ih rfl

theorem decodeStep_encodeChar (c : Char) (bytes : List UInt8) :
    decodeStep (String.utf8EncodeChar c ++ bytes) = (c, c.utf8Size) := by
  have hdecode : (String.utf8EncodeChar c ++ bytes).toByteArray.utf8DecodeChar? 0 = some c := by
    rw [List.toByteArray_append]
    exact ByteArray.utf8DecodeChar?_utf8EncodeChar_append
  rw [decodeStep, hdecode]

/-- Encoded text is decoded as it was. -/
theorem decodeReplace_encode (chars : List Char) : decodeReplace (encode chars) = chars := by
  induction chars with
  | nil => rfl
  | cons c chars ih =>
      have hlength := String.length_utf8EncodeChar (c := c)
      cases hbytes : String.utf8EncodeChar c with
      | nil => exact absurd hbytes String.utf8EncodeChar_ne_nil
      | cons b bytes =>
          have hstep := decodeStep_encodeChar c (encode chars)
          rw [hbytes, List.cons_append] at hstep
          rw [hbytes, List.length_cons] at hlength
          rw [decodeReplace, encode, List.flatMap_cons, hbytes, List.cons_append, decodeFrom]
          change (decodeStep (b :: (bytes ++ encode chars))).1 ::
            decodeFrom ((decodeStep (b :: (bytes ++ encode chars))).2 - 1) (bytes ++ encode chars) = _
          rw [hstep, decodeFrom_append (by omega)]
          exact congrArg (c :: ·) ih

/-! ## Percent signs -/

/-- The digits of {lit}`"%02X"`. -/
def hexChar (n : Nat) : Char :=
  Char.ofNat (if n < 10 then 0x30 + n else 0x37 + n)

/-- The bytes that {lit}`quote_from_bytes` leaves as they are: letters, digits,
{lit}`_.-~` and the slash. -/
def isSafe (b : UInt8) : Bool :=
  let c := Char.ofNat b.toNat
  c.isAlphanum || c ∈ ['_', '.', '-', '~', '/']

def quoteByte (b : UInt8) : List Char :=
  if isSafe b then [Char.ofNat b.toNat]
  else ['%', hexChar (b.toNat / 16), hexChar (b.toNat % 16)]

/-- {lit}`quote_from_bytes(text.encode("utf-8"))`. -/
def quote (text : String) : String :=
  String.ofList ((encode text.toList).flatMap quoteByte)

def hexValue? (c : Char) : Option Nat :=
  if '0' ≤ c ∧ c ≤ '9' then some (c.toNat - 0x30)
  else if 'A' ≤ c ∧ c ≤ 'F' then some (c.toNat - 0x37)
  else if 'a' ≤ c ∧ c ≤ 'f' then some (c.toNat - 0x57)
  else none

/-- {lit}`unquote_to_bytes` of ASCII characters: a percent sign without two digits stays. -/
def percentDecode : List Char → List UInt8
  | [] => []
  | '%' :: a :: b :: chars =>
      match hexValue? a, hexValue? b with
      | some m, some n => UInt8.ofNat (16 * m + n) :: percentDecode chars
      | _, _ => UInt8.ofNat '%'.toNat :: percentDecode (a :: b :: chars)
  | c :: chars => UInt8.ofNat c.toNat :: percentDecode chars

def isAscii (c : Char) : Bool :=
  c.toNat < 128

/-- {lit}`unquote(text)`: the ASCII runs are read as bytes, the others stay. -/
def unquote (text : String) : String :=
  let runs := text.toList.splitBy fun a b => isAscii a = isAscii b
  String.ofList (runs.flatMap fun run =>
    if run.all isAscii then decodeReplace (percentDecode run) else run)

/-- What a byte is quoted as, byte by byte. -/
theorem quoteByte_table : ∀ n < 256,
    (∀ c ∈ quoteByte (UInt8.ofNat n), isAscii c = true ∧ c ∉ ['?', '#', '\t', '\r', '\n']) ∧
      (isSafe (UInt8.ofNat n) = true → Char.ofNat n ≠ '%' ∧
        UInt8.ofNat (Char.ofNat n).toNat = UInt8.ofNat n) ∧
      hexValue? (hexChar (n / 16)) = some (n / 16) ∧
      hexValue? (hexChar (n % 16)) = some (n % 16) := by
  decide +kernel

theorem percentDecode_of_ne {c : Char} (h : c ≠ '%') (chars : List Char) :
    percentDecode (c :: chars) = UInt8.ofNat c.toNat :: percentDecode chars := by
  rw [percentDecode]
  intro a b rest hc
  exact absurd hc h

/-- A quoted byte is read back. -/
theorem percentDecode_quoteByte (b : UInt8) (chars : List Char) :
    percentDecode (quoteByte b ++ chars) = b :: percentDecode chars := by
  rcases quoteByte_table b.toNat b.toNat_lt with ⟨-, hsafe, hhigh, hlow⟩
  rw [UInt8.ofNat_toNat] at hsafe
  unfold quoteByte
  split
  · rename_i h
    rw [List.singleton_append, percentDecode_of_ne (hsafe h).1, (hsafe h).2]
  · rw [List.cons_append, List.cons_append, List.cons_append, List.nil_append, percentDecode,
      hhigh, hlow]
    simp only [Nat.div_add_mod, UInt8.ofNat_toNat]

/-- Quoted bytes are read back. -/
theorem percentDecode_flatMap (bytes : List UInt8) :
    percentDecode (bytes.flatMap quoteByte) = bytes := by
  induction bytes with
  | nil => rfl
  | cons b bytes ih => rw [List.flatMap_cons, percentDecode_quoteByte, ih]

theorem mem_quote {text : String} {c : Char} (h : c ∈ (quote text).toList) :
    isAscii c = true ∧ c ∉ ['?', '#', '\t', '\r', '\n'] := by
  rw [quote, String.toList_ofList, List.mem_flatMap] at h
  rcases h with ⟨b, -, hb⟩
  have htable := (quoteByte_table b.toNat b.toNat_lt).1
  rw [UInt8.ofNat_toNat] at htable
  exact htable c hb

/-- A quoted text is read back. -/
theorem unquote_quote (text : String) : unquote (quote text) = text := by
  have hascii : ∀ c ∈ (quote text).toList, isAscii c = true := fun c hc => (mem_quote hc).1
  have hchain : (quote text).toList.IsChain fun a b => (isAscii a = isAscii b : Bool) := by
    refine List.Pairwise.isChain (List.pairwise_of_forall_mem_list fun a ha b hb => ?_)
    simp [hascii a ha, hascii b hb]
  by_cases hempty : (quote text).toList = []
  · have hbytes := percentDecode_flatMap (encode text.toList)
    rw [quote, String.toList_ofList] at hempty
    rw [hempty] at hbytes
    have htext := decodeReplace_encode text.toList
    rw [← hbytes] at htext
    rw [unquote, quote, hempty, ← String.ofList_toList (s := text), ← htext]
    rfl
  · rw [unquote, List.splitBy_of_isChain hempty hchain]
    simp only [List.flatMap_cons, List.flatMap_nil, List.append_nil]
    rw [if_pos (List.all_eq_true.2 hascii), quote, String.toList_ofList, percentDecode_flatMap,
      decodeReplace_encode, String.ofList_toList]

/-! ## Parts of a URI -/

structure Parts where
  scheme : String
  netloc : String
  path : String
  deriving DecidableEq, Repr

def isSchemeChar (c : Char) : Bool :=
  c.isAlphanum || c ∈ ['+', '-', '.']

/-- The scheme of a URL, in lower case, and what follows it. -/
def splitScheme (url : List Char) : List Char × List Char :=
  let scheme := url.takeWhile fun c => c ≠ ':'
  if ':' ∈ url ∧ scheme.head?.any Char.isAlpha ∧ scheme.all isSchemeChar then
    (scheme.map Char.toLower, url.drop (scheme.length + 1))
  else ([], url)

/-- The network location after two slashes, and what follows it. -/
def splitNetloc (url : List Char) : List Char × List Char :=
  match url with
  | '/' :: '/' :: rest => rest.span fun c => c ∉ ['/', '?', '#']
  | _ => ([], url)

/-- {lit}`urlparse(text)` for schemes whose paths have no parameters: {lit}`none` where a network
location is refused. -/
def urlparse (netlocAllowed : String → Bool) (text : String) : Option Parts :=
  let stripped := text.toList.dropWhile fun c => c.toNat ≤ 0x20
  let url := stripped.filter fun c => c ∉ ['\t', '\r', '\n']
  let (scheme, rest) := splitScheme url
  let (netloc, rest) := splitNetloc rest
  if netloc ≠ [] ∧ ¬ netlocAllowed (String.ofList netloc) then none
  else
    some ⟨String.ofList scheme, String.ofList netloc,
      String.ofList ((rest.takeWhile fun c => c ≠ '#').takeWhile fun c => c ≠ '?')⟩

/-- {lit}`Path(path).as_uri()` of an absolute path, from its text. -/
def ofPath (path : String) : String :=
  "file://" ++ quote path

/-- The parts of the URI of an absolute path. -/
theorem urlparse_ofPath (netlocAllowed : String → Bool) {path : String}
    (h : path.toList.head? = some '/') :
    urlparse netlocAllowed (ofPath path) = some ⟨"file", "", quote path⟩ := by
  have hquote : ∃ rest, (quote path).toList = '/' :: rest := by
    rcases List.head?_eq_some_iff.1 h with ⟨cs, hcs⟩
    refine ⟨(encode cs).flatMap quoteByte, ?_⟩
    rw [quote, String.toList_ofList, hcs, encode, List.flatMap_cons, List.flatMap_append]
    rfl
  rcases hquote with ⟨rest, hrest⟩
  have hchars : (ofPath path).toList =
      'f' :: 'i' :: 'l' :: 'e' :: ':' :: '/' :: '/' :: '/' :: rest := by
    rw [ofPath, String.toList_append, hrest]
    rfl
  have hclean : ∀ c ∈ '/' :: rest, c ∉ ['?', '#', '\t', '\r', '\n'] := fun c hc =>
    (mem_quote (hrest ▸ hc)).2
  have hurl : ((ofPath path).toList.dropWhile fun c => c.toNat ≤ 0x20).filter
      (fun c => c ∉ ['\t', '\r', '\n']) = (ofPath path).toList := by
    rw [hchars, List.dropWhile_cons_of_neg (by decide)]
    refine List.filter_eq_self.2 fun c hc => decide_eq_true ?_
    have hsplit : c ∈ ['f', 'i', 'l', 'e', ':', '/', '/'] ++ '/' :: rest := hc
    rcases List.mem_append.1 hsplit with hstart | hrest
    · clear hc hsplit
      revert c
      decide
    · exact fun hmem => hclean c hrest (List.mem_append_right ['?', '#'] hmem)
  have hscheme : splitScheme (ofPath path).toList =
      ("file".toList, '/' :: '/' :: '/' :: rest) := by
    rw [hchars, splitScheme]
    have htake : ('f' :: 'i' :: 'l' :: 'e' :: ':' :: '/' :: '/' :: '/' :: rest).takeWhile
        (fun c => c ≠ ':') = ['f', 'i', 'l', 'e'] := rfl
    rw [htake, if_pos ⟨by simp, by decide⟩]
    rfl
  have hnetloc : splitNetloc ('/' :: '/' :: '/' :: rest) = ([], '/' :: rest) := rfl
  have htake : (('/' :: rest).takeWhile fun c => c ≠ '#').takeWhile (fun c => c ≠ '?') =
      '/' :: rest := by
    have hfragment : ('/' :: rest).takeWhile (fun c => c ≠ '#') = '/' :: rest :=
      List.takeWhile_eq_self_iff.2 fun c hc =>
        decide_eq_true fun heq => hclean c hc (by simp [heq])
    rw [hfragment]
    exact List.takeWhile_eq_self_iff.2 fun c hc =>
      decide_eq_true fun heq => hclean c hc (by simp [heq])
  simp only [urlparse, hurl, hscheme, hnetloc, htake, ne_eq, not_true_eq_false, false_and,
    if_false, String.ofList_nil]
  rw [← hrest, String.ofList_toList, String.ofList_toList]

end Uri
end Library
end StrategyWorker
