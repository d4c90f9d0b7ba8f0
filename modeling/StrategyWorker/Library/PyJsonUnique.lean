import StrategyWorker.Library.FloatText
import StrategyWorker.Library.PyJson
import StrategyWorker.Library.PyJsonText

/-!
# What a JSON text says of the value that was written

A string literal is read back as the text that was written, surrogate pairs
included.  The end of a value in a text can be found by counting brackets
outside of string literals, so that a text of an object determines the keys and
the text of each value.  Two values with one text are then both texts, both
integers, both objects or neither, as far as a reader that looks fields up can
tell.

Main results:

- Theorem {lit}`scanString_quote`: a string literal is read back.
- Theorem {lit}`balanced_encode`: the end of a value is where the brackets are
  closed.
- Theorem {lit}`fields_of_encode_eq`: objects with one text hold under each key
  values with one text.
-/

namespace StrategyWorker
namespace Library
namespace PyJson

open Binary64 PyText

/-! ## String literals -/

theorem hexValue_hexDigit (n : Nat) : hexValue (hexDigit n) = some (n % 16) := by
  have hdigits : ∀ k < 16, hexValue (hexDigits.getD k '0') = some k := by decide
  exact hdigits (n % 16) (Nat.mod_lt n (by decide))

/-- Four hexadecimal digits are read back. -/
theorem hexUnit_hexText {n : Nat} (h : n < 0x10000) :
    ∃ a b c d, hexText 4 n = [a, b, c, d] ∧ hexUnit a b c d = some n := by
  refine ⟨hexDigit (n >>> 12), hexDigit (n >>> 8), hexDigit (n >>> 4), hexDigit (n >>> 0), rfl, ?_⟩
  simp only [hexUnit, hexValue_hexDigit, Nat.shiftRight_eq_div_pow, Option.bind_eq_bind,
    Option.bind_some, Option.pure_def, Option.some.injEq]
  omega

theorem toNat_valid (c : Char) :
    c.toNat < 0xd800 ∨ (0xdfff < c.toNat ∧ c.toNat < 0x110000) :=
  c.valid

/-- The UTF-16 units of a character. -/
def utf16 (c : Char) : List Nat :=
  if c.toNat < 0x10000 then [c.toNat]
  else [0xd800 + (c.toNat - 0x10000) / 1024, 0xdc00 + (c.toNat - 0x10000) % 1024]

theorem scanString_escapeUnit {n : Nat} (h : n < 0x10000) (rest : List Char) :
    scanString (escapeUnit n ++ rest) = (scanString rest).map fun p => (n :: p.1, p.2) := by
  rcases hexUnit_hexText h with ⟨a, b, c, d, htext, hunit⟩
  rw [escapeUnit, htext]
  simp only [List.cons_append, List.nil_append, scanString, hunit, Option.bind_eq_bind,
    Option.bind_some, Option.pure_def]
  cases scanString rest <;> rfl

/-- The escape of a character is read as its units. -/
theorem scanString_escapeChar (c : Char) (rest : List Char) :
    scanString (escapeChar c ++ rest) =
      (scanString rest).map fun p => (utf16 c ++ p.1, p.2) := by
  have hvalid := toNat_valid c
  unfold escapeChar
  by_cases h₁ : c = '"'
  · subst c
    cases h : scanString rest <;> simp [scanString, escapeOf, utf16, h]
  by_cases h₂ : c = '\\'
  · subst c
    cases h : scanString rest <;> simp [scanString, escapeOf, utf16, h]
  by_cases h₃ : c = '\n'
  · subst c
    cases h : scanString rest <;> simp [scanString, escapeOf, utf16, h]
  by_cases h₄ : c = '\r'
  · subst c
    cases h : scanString rest <;> simp [scanString, escapeOf, utf16, h]
  by_cases h₅ : c = '\t'
  · subst c
    cases h : scanString rest <;> simp [scanString, escapeOf, utf16, h]
  by_cases h₆ : c = '\x08'
  · subst c
    cases h : scanString rest <;> simp [scanString, escapeOf, utf16, h]
  by_cases h₇ : c = '\x0c'
  · subst c
    cases h : scanString rest <;> simp [scanString, escapeOf, utf16, h]
  rw [if_neg h₁, if_neg h₂, if_neg h₃, if_neg h₄, if_neg h₅, if_neg h₆, if_neg h₇]
  by_cases hprint : 32 ≤ c.toNat ∧ c.toNat < 127
  · have hlow : ¬ c.toNat < 0x20 := by omega
    have hunits : utf16 c = [c.toNat] := if_pos (by omega)
    rw [if_pos hprint, hunits]
    cases h : scanString rest <;> simp [scanString, h₂, hlow, h]
  · rw [if_neg hprint]
    by_cases hbmp : c.toNat < 0x10000
    · have hunits : utf16 c = [c.toNat] := if_pos hbmp
      rw [if_pos hbmp, scanString_escapeUnit hbmp, hunits]
      rfl
    · have hmax : c.toNat < 0x110000 := by
        rcases hvalid with hlt | ⟨-, hlt⟩
        · omega
        · exact hlt
      rw [if_neg hbmp, utf16, if_neg hbmp, List.append_assoc, scanString_escapeUnit (by omega),
        scanString_escapeUnit (by omega)]
      cases scanString rest <;> rfl

/-- A string literal is read back as the units of the text. -/
theorem scanString_quote (cs rest : List Char) :
    scanString (cs.flatMap escapeChar ++ '"' :: rest) = some (cs.flatMap utf16, rest) := by
  induction cs with
  | nil => simp [scanString]
  | cons c cs ih =>
      rw [List.flatMap_cons, List.append_assoc, scanString_escapeChar, ih, List.flatMap_cons]
      rfl

/-- A unit that is no surrogate stands for itself. -/
theorem joinSurrogates_cons_of_bmp {unit : Nat} (h : unit < 0xd800 ∨ 0xdfff < unit)
    (units : List Nat) :
    joinSurrogates (unit :: units) = Char.ofNat unit :: joinSurrogates units := by
  cases units with
  | nil =>
      rw [joinSurrogates, joinSurrogates, if_neg (by omega)]
  | cons low units =>
      rw [joinSurrogates, if_neg (by omega), if_neg (by omega)]

/-- The units of a text are joined to the text. -/
theorem joinSurrogates_utf16 (cs : List Char) : joinSurrogates (cs.flatMap utf16) = cs := by
  induction cs with
  | nil => rfl
  | cons c cs ih =>
      have hvalid := toNat_valid c
      rw [List.flatMap_cons, utf16]
      by_cases hbmp : c.toNat < 0x10000
      · rw [if_pos hbmp, List.singleton_append, joinSurrogates_cons_of_bmp (by omega), ih,
          Char.ofNat_toNat]
      · have hjoined : 0x10000 + (0xd800 + (c.toNat - 0x10000) / 1024 - 0xd800) * 0x400 +
            (0xdc00 + (c.toNat - 0x10000) % 1024 - 0xdc00) = c.toNat := by
          omega
        rw [if_neg hbmp, List.cons_append, List.singleton_append, joinSurrogates,
          if_pos (by omega), hjoined, ih, Char.ofNat_toNat]

/-- The characters of a string literal. -/
def quoteChars (cs : List Char) : List Char :=
  '"' :: cs.flatMap escapeChar ++ ['"']

theorem toList_quote (s : String) : (quote s).toList = quoteChars s.toList := by
  simp [quote, quoteChars]

/-- A string literal at the start of a text is determined by it. -/
theorem quoteChars_append_inj {cs cs' rest rest' : List Char}
    (h : quoteChars cs ++ rest = quoteChars cs' ++ rest') : cs = cs' ∧ rest = rest' := by
  have hbody : cs.flatMap escapeChar ++ '"' :: rest = cs'.flatMap escapeChar ++ '"' :: rest' := by
    simpa [quoteChars] using h
  have hscan := congrArg scanString hbody
  rw [scanString_quote, scanString_quote] at hscan
  have hpair := Option.some.inj hscan
  have hunits := congrArg (fun p => joinSurrogates p.1) hpair
  simp only [joinSurrogates_utf16] at hunits
  exact ⟨hunits, congrArg Prod.snd hpair⟩

theorem quote_inj {s t : String} (h : quote s = quote t) : s = t := by
  have hchars := congrArg String.toList h
  rw [toList_quote, toList_quote] at hchars
  have hsame : quoteChars s.toList ++ [] = quoteChars t.toList ++ [] := by
    simpa using hchars
  exact String.toList_injective (quoteChars_append_inj hsame).1

/-! ## Where a value ends -/

/-- Where a scan stands: outside of string literals, in one, or after a backslash in one. -/
inductive ScanMode where
  | outside
  | inside
  | escaped
  deriving DecidableEq, Repr

/-- More characters ahead of those that have been taken. -/
def ahead (t : List Char) (taken : List Char × List Char) : List Char × List Char :=
  (t ++ taken.1, taken.2)

theorem ahead_ahead (t u : List Char) (taken : List Char × List Char) :
    ahead t (ahead u taken) = ahead (t ++ u) taken := by
  simp [ahead]

@[simp]
theorem ahead_nil (taken : List Char × List Char) : ahead [] taken = taken := rfl

/-- The characters up to the first comma or closing bracket that belongs to no bracket opened
among them, and the text from there on. -/
def takeValue : ScanMode → (depth : Nat) → List Char → List Char × List Char
  | _, _, [] => ([], [])
  | .inside, depth, c :: cs =>
      if c = '"' then ahead [c] (takeValue .outside depth cs)
      else if c = '\\' then ahead [c] (takeValue .escaped depth cs)
      else ahead [c] (takeValue .inside depth cs)
  | .escaped, depth, c :: cs => ahead [c] (takeValue .inside depth cs)
  | .outside, depth, c :: cs =>
      if c = '"' then ahead [c] (takeValue .inside depth cs)
      else if c = '[' ∨ c = '\x7b' then ahead [c] (takeValue .outside (depth + 1) cs)
      else if c = ']' ∨ c = '\x7d' then
        match depth with
        | 0 => ([], c :: cs)
        | depth + 1 => ahead [c] (takeValue .outside depth cs)
      else if c = ',' ∧ depth = 0 then ([], c :: cs)
      else ahead [c] (takeValue .outside depth cs)

/-- The scan goes past the text and comes out at the depth where it went in. -/
def Balanced (t : List Char) : Prop :=
  ∀ depth rest, takeValue .outside depth (t ++ rest) = ahead t (takeValue .outside depth rest)

/-- The same inside of a bracket, where commas do not end a value. -/
def Nested (t : List Char) : Prop :=
  ∀ depth rest,
    takeValue .outside (depth + 1) (t ++ rest) = ahead t (takeValue .outside (depth + 1) rest)

attribute [local simp] takeValue in
theorem Balanced.nested {t : List Char} (h : Balanced t) : Nested t :=
  fun depth rest => h (depth + 1) rest

theorem Balanced.append {t u : List Char} (ht : Balanced t) (hu : Balanced u) :
    Balanced (t ++ u) := by
  intro depth rest
  rw [List.append_assoc, ht, hu, ahead_ahead]

theorem Nested.append {t u : List Char} (ht : Nested t) (hu : Nested u) : Nested (t ++ u) := by
  intro depth rest
  rw [List.append_assoc, ht, hu, ahead_ahead]

theorem nested_nil : Nested [] :=
  fun _ _ => rfl

theorem nested_comma : Nested [','] := by
  intro depth rest
  simp [takeValue]

theorem Nested.bracketed {t : List Char} (h : Nested t) : Balanced ('[' :: t ++ [']']) := by
  intro depth rest
  have hinner := h depth (']' :: rest)
  simp [takeValue, hinner, ahead]

theorem Nested.braced {t : List Char} (h : Nested t) : Balanced ('\x7b' :: t ++ ['\x7d']) := by
  intro depth rest
  have hinner := h depth ('\x7d' :: rest)
  simp [takeValue, hinner, ahead]

/-- A character that means nothing to the scan. -/
def isPlain (c : Char) : Bool :=
  c ∉ ['"', '[', ']', '\x7b', '\x7d', ',']

/-- A character that the scan goes past. -/
theorem balanced_of_plain {t : List Char} (h : ∀ c ∈ t, isPlain c = true) : Balanced t := by
  induction t with
  | nil => exact fun _ _ => rfl
  | cons c t ih =>
      have hplain : isPlain c = true := h c List.mem_cons_self
      have hrest := ih fun c' hc' => h c' (List.mem_cons_of_mem c hc')
      simp only [isPlain, List.mem_cons, List.not_mem_nil, or_false, not_or, decide_eq_true_eq]
        at hplain
      rcases hplain with ⟨h₁, h₂, h₃, h₄, h₅, h₆⟩
      intro depth rest
      simp [takeValue, h₁, h₂, h₃, h₄, h₅, h₆, hrest depth rest, ahead_ahead]

/-! ## String literals are balanced -/

theorem takeValue_inside_cons {c : Char} (hquote : c ≠ '"') (hslash : c ≠ '\\') (depth : Nat)
    (rest : List Char) :
    takeValue .inside depth (c :: rest) = ahead [c] (takeValue .inside depth rest) := by
  rw [takeValue, if_neg hquote, if_neg hslash]

/-- Characters of a string literal that end neither it nor start an escape. -/
theorem takeValue_inside_append {t : List Char} (h : ∀ c ∈ t, c ≠ '"' ∧ c ≠ '\\') (depth : Nat)
    (rest : List Char) :
    takeValue .inside depth (t ++ rest) = ahead t (takeValue .inside depth rest) := by
  induction t with
  | nil => rfl
  | cons c t ih =>
      rcases h c List.mem_cons_self with ⟨hquote, hslash⟩
      have hrest := ih fun c' hc' => h c' (List.mem_cons_of_mem c hc')
      rw [List.cons_append, takeValue_inside_cons hquote hslash, hrest, ahead_ahead,
        List.singleton_append]

theorem takeValue_inside_escape (e : Char) (depth : Nat) (rest : List Char) :
    takeValue .inside depth ('\\' :: e :: rest) =
      ahead ['\\', e] (takeValue .inside depth rest) := by
  simp [takeValue, ahead_ahead]

theorem takeValue_inside_escapeUnit (n depth : Nat) (rest : List Char) :
    takeValue .inside depth (escapeUnit n ++ rest) =
      ahead (escapeUnit n) (takeValue .inside depth rest) := by
  have hhex : ∀ c ∈ hexText 4 n, c ≠ '"' ∧ c ≠ '\\' := by
    have hdigits : ∀ c ∈ hexDigits, c ≠ '"' ∧ c ≠ '\\' := by decide
    intro c hc
    exact hdigits c (mem_hexDigits_of_mem_hexText hc)
  rw [escapeUnit, List.cons_append, List.cons_append, takeValue_inside_escape,
    takeValue_inside_append hhex, ahead_ahead]
  rfl

theorem takeValue_inside_escapeChar (c : Char) (depth : Nat) (rest : List Char) :
    takeValue .inside depth (escapeChar c ++ rest) =
      ahead (escapeChar c) (takeValue .inside depth rest) := by
  unfold escapeChar
  split
  · exact takeValue_inside_escape _ depth rest
  split
  · exact takeValue_inside_escape _ depth rest
  split
  · exact takeValue_inside_escape _ depth rest
  split
  · exact takeValue_inside_escape _ depth rest
  split
  · exact takeValue_inside_escape _ depth rest
  split
  · exact takeValue_inside_escape _ depth rest
  split
  · exact takeValue_inside_escape _ depth rest
  rename_i hquote hslash _ _ _ _ _
  split
  · exact takeValue_inside_cons hquote hslash depth rest
  split
  · exact takeValue_inside_escapeUnit _ depth rest
  · rw [List.append_assoc, takeValue_inside_escapeUnit, takeValue_inside_escapeUnit, ahead_ahead]

theorem takeValue_inside_flatMap (cs : List Char) (depth : Nat) (rest : List Char) :
    takeValue .inside depth (cs.flatMap escapeChar ++ rest) =
      ahead (cs.flatMap escapeChar) (takeValue .inside depth rest) := by
  induction cs with
  | nil => rfl
  | cons c cs ih =>
      rw [List.flatMap_cons, List.append_assoc, takeValue_inside_escapeChar, ih, ahead_ahead]

theorem balanced_quoteChars (cs : List Char) : Balanced (quoteChars cs) := by
  intro depth rest
  rw [quoteChars, List.append_assoc, List.cons_append]
  simp [takeValue, takeValue_inside_flatMap, ahead_ahead]

/-! ## Numbers are plain -/

/-- A text of plain characters. -/
def Plain (t : List Char) : Prop :=
  ∀ c ∈ t, isPlain c = true

instance (t : List Char) : Decidable (Plain t) :=
  inferInstanceAs (Decidable (∀ c ∈ t, _))

theorem Plain.append {t u : List Char} (ht : Plain t) (hu : Plain u) : Plain (t ++ u) := by
  intro c hc
  rcases List.mem_append.1 hc with hc | hc
  · exact ht c hc
  · exact hu c hc

theorem Plain.cons {c : Char} {t : List Char} (hc : isPlain c = true) (ht : Plain t) :
    Plain (c :: t) :=
  List.forall_mem_cons.2 ⟨hc, ht⟩

theorem isPlain_of_isDigit {c : Char} (h : c.isDigit = true) : isPlain c = true := by
  by_contra hplain
  have hmem : c ∈ ['"', '[', ']', '\x7b', '\x7d', ','] := by
    simpa only [isPlain, decide_eq_true_eq, not_not] using hplain
  have hnone : ∀ d ∈ ['"', '[', ']', '\x7b', '\x7d', ','], d.isDigit = false := by decide
  rw [hnone c hmem] at h
  cases h

theorem plain_nat (n : Nat) : Plain (toString n).toList :=
  fun _ hc => isPlain_of_isDigit (isDigit_of_mem_natText hc)

theorem plain_int (n : Int) : Plain (toString n).toList := by
  cases n with
  | ofNat n => exact plain_nat n
  | negSucc n =>
      have htext : toString (Int.negSucc n) = "-" ++ toString (n + 1) := rfl
      rw [htext, String.toList_append]
      exact Plain.append (by decide) (plain_nat (n + 1))

theorem natText_inj {n m : Nat} (h : toString n = toString m) : n = m := by
  have hdigits := congrArg String.toList h
  rw [Nat.toString_eq_ofList_toDigits, Nat.toString_eq_ofList_toDigits, String.toList_ofList,
    String.toList_ofList] at hdigits
  have hvalue := congrArg (fun ds => Nat.ofDigitChars 10 ds 0) hdigits
  simpa only [Nat.ofDigitChars_ten_toDigits] using hvalue

/-- An integer is determined by its text: a minus is no digit. -/
theorem intText_inj {n m : Int} (h : toString n = toString m) : n = m := by
  have hminus : ∀ k l : Nat, toString k ≠ "-" ++ toString l := by
    intro k l heq
    have hmem : '-' ∈ (toString k).toList := by
      rw [heq, String.toList_append]
      exact List.mem_cons_self
    have hdigit := isDigit_of_mem_natText hmem
    cases hdigit
  cases n with
  | ofNat n =>
      cases m with
      | ofNat m => exact congrArg Int.ofNat (natText_inj h)
      | negSucc m => exact absurd h (hminus n (m + 1))
  | negSucc n =>
      cases m with
      | ofNat m => exact absurd h.symm (hminus m (n + 1))
      | negSucc m =>
          have hchars := congrArg String.toList h
          have hn : toString (Int.negSucc n) = "-" ++ toString (n + 1) := rfl
          have hm : toString (Int.negSucc m) = "-" ++ toString (m + 1) := rfl
          rw [hn, hm, String.toList_append, String.toList_append] at hchars
          have hnat := natText_inj (String.toList_injective (List.append_cancel_left hchars))
          rw [Nat.succ.inj hnat]

theorem isPlain_of_isFloatChar {c : Char} (h : IsFloatChar c) : isPlain c = true := by
  rcases h with h | h
  · exact isPlain_of_isDigit h
  · have hplain : Plain ['.', '-', '+', 'e', 'i', 'n', 'f', 'a'] := by decide
    exact hplain c h

theorem plain_floatLiteralText (f : PyFloat) : Plain (floatLiteralText f).toList := by
  cases f with
  | finite q => exact fun c hc => isPlain_of_isFloatChar (mem_floatText hc)
  | infinite negative => cases negative <;> decide
  | nan => decide

/-! ## Values are balanced -/

/-- The texts of a list, with commas between them. -/
theorem nested_joinComma {texts : List String} (h : ∀ t ∈ texts, Balanced t.toList) :
    Nested (joinComma texts).toList := by
  induction texts with
  | nil => exact nested_nil
  | cons t texts ih =>
      have ht := h t List.mem_cons_self
      have hrest := ih fun u hu => h u (List.mem_cons_of_mem t hu)
      cases texts with
      | nil =>
          rw [joinComma, String.intercalate_singleton]
          exact ht.nested
      | cons u texts =>
          rw [joinComma, String.intercalate_cons_cons, String.toList_append, String.toList_append]
          exact (ht.nested.append nested_comma).append hrest

/-- The text of a field of an object. -/
def fieldText (f : String × String) : String :=
  quote f.1 ++ ":" ++ f.2

theorem balanced_fieldText {f : String × String} (h : Balanced f.2.toList) :
    Balanced (fieldText f).toList := by
  rw [fieldText, String.toList_append, String.toList_append, toList_quote]
  exact ((balanced_quoteChars f.1.toList).append (balanced_of_plain (by decide))).append h

theorem mem_sortFields {f : String × String} {fields : List (String × String)} :
    f ∈ sortFields fields ↔ f ∈ fields :=
  (List.perm_insertionSort _ fields).mem_iff

mutual

/-- The end of a value is where its brackets are closed. -/
theorem balanced_encode {o : DumpOptions} {v : PyVal} {text : String}
    (h : encode o v = .ok text) : Balanced text.toList := by
  cases v with
  | none =>
      cases h
      exact balanced_of_plain (by decide)
  | bool b =>
      cases h
      cases b <;> exact balanced_of_plain (by decide)
  | int n =>
      cases h
      exact balanced_of_plain (plain_int n)
  | float f =>
      cases h
      exact balanced_of_plain (plain_floatLiteralText f)
  | str s =>
      cases h
      rw [toList_quote]
      exact balanced_quoteChars s.toList
  | datetime d =>
      rw [encode] at h
      rcases bind_eq_ok.1 h with ⟨t, -, ht⟩
      cases ht
      rw [toList_quote]
      exact balanced_quoteChars t.toList
  | scalar v =>
      rw [encode] at h
      rcases bind_eq_ok.1 h with ⟨t, -, ht⟩
      cases ht
      rw [toList_quote]
      exact balanced_quoteChars t.toList
  | list vs =>
      rw [encode] at h
      rcases bind_eq_ok.1 h with ⟨texts, htexts, ht⟩
      cases ht
      have hjoin := nested_joinComma (balanced_encodeList htexts)
      rw [String.toList_append, String.toList_append]
      exact hjoin.bracketed
  | dict fields =>
      rw [encode] at h
      rcases bind_eq_ok.1 h with ⟨texts, htexts, ht⟩
      cases ht
      have hjoin : Nested (joinComma
          ((if o.sortKeys then sortFields texts else texts).map fieldText)).toList := by
        apply nested_joinComma
        intro t ht
        rcases List.mem_map.1 ht with ⟨f, hf, rfl⟩
        have hmem : f ∈ texts := by
          split at hf
          · exact mem_sortFields.1 hf
          · exact hf
        exact balanced_fieldText (balanced_encodeFields htexts f hmem)
      rw [String.toList_append, String.toList_append]
      exact hjoin.braced

theorem balanced_encodeList {o : DumpOptions} {vs : List PyVal} {texts : List String}
    (h : encodeList o vs = .ok texts) : ∀ t ∈ texts, Balanced t.toList := by
  cases vs with
  | nil =>
      cases h
      intro t ht
      cases ht
  | cons v vs =>
      rw [encodeList] at h
      rcases bind_eq_ok.1 h with ⟨t, ht, hrest⟩
      rcases bind_eq_ok.1 hrest with ⟨ts, hts, hcons⟩
      cases hcons
      exact List.forall_mem_cons.2 ⟨balanced_encode ht, balanced_encodeList hts⟩

theorem balanced_encodeFields {o : DumpOptions} {fields : List (String × PyVal)}
    {texts : List (String × String)} (h : encodeFields o fields = .ok texts) :
    ∀ f ∈ texts, Balanced f.2.toList := by
  cases fields with
  | nil =>
      cases h
      intro f hf
      cases hf
  | cons g fields =>
      rcases g with ⟨key, v⟩
      rw [encodeFields] at h
      rcases bind_eq_ok.1 h with ⟨t, ht, hrest⟩
      rcases bind_eq_ok.1 hrest with ⟨ts, hts, hcons⟩
      cases hcons
      exact List.forall_mem_cons.2 ⟨balanced_encode ht, balanced_encodeFields hts⟩

end

/-! ## Fields of an object -/

/-- A balanced text ends where the scan stops. -/
theorem takeValue_balanced {t rest : List Char} (h : Balanced t)
    (hrest : rest = [] ∨ ∃ cs, rest = ',' :: cs) : takeValue .outside 0 (t ++ rest) = (t, rest) := by
  rw [h]
  rcases hrest with rfl | ⟨cs, rfl⟩ <;> simp [takeValue, ahead]

/-- Texts that are balanced and not empty are determined by the text that joins them. -/
theorem joinComma_inj {texts texts' : List String}
    (h : ∀ t ∈ texts, Balanced t.toList ∧ t ≠ "") (h' : ∀ t ∈ texts', Balanced t.toList ∧ t ≠ "")
    (heq : joinComma texts = joinComma texts') : texts = texts' := by
  -- the text of a list starts with its first text, and goes on with a comma or ends there
  have hsplit : ∀ (t : String) (ts : List String), ∃ rest,
      (joinComma (t :: ts)).toList = t.toList ++ rest ∧
        (ts = [] ∧ rest = [] ∨ ts ≠ [] ∧ rest = ',' :: (joinComma ts).toList) := by
    intro t ts
    cases ts with
    | nil => exact ⟨[], by simp [joinComma], .inl ⟨rfl, rfl⟩⟩
    | cons u ts =>
        refine ⟨',' :: (joinComma (u :: ts)).toList, ?_, .inr ⟨by simp, rfl⟩⟩
        rw [joinComma, String.intercalate_cons_cons, String.toList_append, String.toList_append,
          List.append_assoc]
        rfl
  induction texts generalizing texts' with
  | nil =>
      cases texts' with
      | nil => rfl
      | cons t' ts' =>
          rcases hsplit t' ts' with ⟨rest, hjoin, -⟩
          have hempty : t'.toList ++ rest = [] := by
            rw [← hjoin, ← heq]
            rfl
          have hnil : t' = "" := String.toList_eq_nil_iff.1 (List.append_eq_nil_iff.1 hempty).1
          exact absurd hnil (h' t' List.mem_cons_self).2
  | cons t ts ih =>
      rcases hsplit t ts with ⟨rest, hjoin, hrest⟩
      have ht := h t List.mem_cons_self
      cases texts' with
      | nil =>
          have hempty : t.toList ++ rest = [] := by
            rw [← hjoin, heq]
            rfl
          have hnil : t = "" := String.toList_eq_nil_iff.1 (List.append_eq_nil_iff.1 hempty).1
          exact absurd hnil ht.2
      | cons t' ts' =>
          rcases hsplit t' ts' with ⟨rest', hjoin', hrest'⟩
          have ht' := h' t' List.mem_cons_self
          have htake : takeValue .outside 0 (joinComma (t :: ts)).toList =
              takeValue .outside 0 (joinComma (t' :: ts')).toList := by
            rw [heq]
          rw [hjoin, hjoin', takeValue_balanced ht.1, takeValue_balanced ht'.1] at htake
          · have hfirst : t = t' := String.toList_injective (congrArg Prod.fst htake)
            have hrests : rest = rest' := congrArg Prod.snd htake
            subst hfirst
            congr
            rcases hrest with ⟨rfl, rfl⟩ | ⟨hne, rfl⟩
            · rcases hrest' with ⟨rfl, -⟩ | ⟨-, rfl⟩
              · rfl
              · cases hrests
            · rcases hrest' with ⟨-, rfl⟩ | ⟨-, rfl⟩
              · cases hrests
              · have htails : joinComma ts = joinComma ts' :=
                  String.toList_injective (List.cons.inj hrests).2
                exact ih (fun u hu => h u (List.mem_cons_of_mem t hu))
                  (fun u hu => h' u (List.mem_cons_of_mem t hu)) htails
          · rcases hrest' with ⟨-, rfl⟩ | ⟨-, rfl⟩ <;> simp
          · rcases hrest with ⟨-, rfl⟩ | ⟨-, rfl⟩ <;> simp

theorem fieldText_inj {f g : String × String} (h : fieldText f = fieldText g) : f = g := by
  have hchars := congrArg String.toList h
  simp only [fieldText, String.toList_append, toList_quote, List.append_assoc] at hchars
  rcases quoteChars_append_inj hchars with ⟨hkey, hrest⟩
  have hvalue : f.2.toList = g.2.toList := List.append_cancel_left hrest
  exact Prod.ext (String.toList_injective hkey) (String.toList_injective hvalue)

theorem fieldText_ne_empty (f : String × String) : fieldText f ≠ "" := by
  intro h
  have hchars := congrArg String.toList h
  simp [fieldText, toList_quote, quoteChars] at hchars

/-- Objects with one text have the same keys with the same texts. -/
theorem mem_texts_iff {o : DumpOptions} {fields fields' : List (String × PyVal)} {text : String}
    {texts texts' : List (String × String)} (h : encode o (.dict fields) = .ok text)
    (h' : encode o (.dict fields') = .ok text) (htexts : encodeFields o fields = .ok texts)
    (htexts' : encodeFields o fields' = .ok texts') (f : String × String) :
    f ∈ texts ↔ f ∈ texts' := by
  have hsorted : ∀ fs : List (String × String),
      f ∈ (if o.sortKeys then sortFields fs else fs) ↔ f ∈ fs := by
    intro fs
    split
    · exact mem_sortFields
    · exact Iff.rfl
  have hbalanced : ∀ (fs : List (String × PyVal)) (ts : List (String × String)),
      encodeFields o fs = .ok ts →
        ∀ t ∈ (if o.sortKeys then sortFields ts else ts).map fieldText,
          Balanced t.toList ∧ t ≠ "" := by
    intro fs ts hts t ht
    rcases List.mem_map.1 ht with ⟨g, hg, rfl⟩
    have hmem : g ∈ ts := by
      split at hg
      · exact mem_sortFields.1 hg
      · exact hg
    exact ⟨balanced_fieldText (balanced_encodeFields hts g hmem), fieldText_ne_empty g⟩
  rw [encode, htexts] at h
  rw [encode, htexts'] at h'
  have hsame : "\x7b" ++ joinComma ((if o.sortKeys then sortFields texts else texts).map fieldText) ++
      "\x7d" = "\x7b" ++
        joinComma ((if o.sortKeys then sortFields texts' else texts').map fieldText) ++ "\x7d" :=
    (Except.ok.inj h).trans (Except.ok.inj h').symm
  have hjoin : joinComma ((if o.sortKeys then sortFields texts else texts).map fieldText) =
      joinComma ((if o.sortKeys then sortFields texts' else texts').map fieldText) := by
    have hchars := congrArg String.toList hsame
    simp only [String.toList_append] at hchars
    have hinner := List.append_cancel_left (List.append_cancel_right hchars)
    exact String.toList_injective hinner
  have hmap := joinComma_inj (hbalanced fields texts htexts) (hbalanced fields' texts' htexts') hjoin
  have hlists := List.map_injective_iff.2 (fun f g => fieldText_inj) hmap
  rw [← hsorted texts, hlists, hsorted texts']

theorem mem_encodeFields {o : DumpOptions} {fields : List (String × PyVal)}
    {texts : List (String × String)} (h : encodeFields o fields = .ok texts) (key text : String) :
    (key, text) ∈ texts ↔ ∃ v, (key, v) ∈ fields ∧ encode o v = .ok text := by
  induction fields generalizing texts with
  | nil =>
      cases h
      simp
  | cons f fields ih =>
      rcases f with ⟨key', v⟩
      rw [encodeFields] at h
      rcases bind_eq_ok.1 h with ⟨t, ht, hrest⟩
      rcases bind_eq_ok.1 hrest with ⟨ts, hts, hcons⟩
      cases hcons
      rw [List.mem_cons, ih hts]
      constructor
      · rintro (heq | ⟨w, hmem, hw⟩)
        · cases heq
          exact ⟨v, List.mem_cons_self, ht⟩
        · exact ⟨w, List.mem_cons_of_mem _ hmem, hw⟩
      · rintro ⟨w, hmem, hw⟩
        rcases List.mem_cons.1 hmem with heq | hmem
        · cases heq
          rw [ht] at hw
          cases hw
          exact .inl rfl
        · exact .inr ⟨w, hmem, hw⟩

theorem exists_text_of_mem {o : DumpOptions} {fields : List (String × PyVal)}
    {texts : List (String × String)} (h : encodeFields o fields = .ok texts) {key : String}
    {v : PyVal} (hmem : (key, v) ∈ fields) : ∃ text, encode o v = .ok text := by
  have hall := (exists_encodeFields_iff o fields).1 ⟨texts, h⟩
  rw [exists_encode_iff]
  intro w hw
  exact hall w (mem_foreignFields.2 ⟨(key, v), hmem, hw⟩)

/-- Objects with one text hold under each key values with one text. -/
theorem fields_of_encode_eq {o : DumpOptions} {fields fields' : PyDict} {text : String}
    (h : encode o (.dict fields) = .ok text) (h' : encode o (.dict fields') = .ok text)
    (hkeys : (fields.map Prod.fst).Nodup) (hkeys' : (fields'.map Prod.fst).Nodup) {key : String}
    {v : PyVal} (hget : fields.get? key = some v) :
    ∃ w t, fields'.get? key = some w ∧ encode o v = .ok t ∧ encode o w = .ok t := by
  have hencode := h
  have hencode' := h'
  rw [encode] at hencode hencode'
  rcases bind_eq_ok.1 hencode with ⟨texts, htexts, -⟩
  rcases bind_eq_ok.1 hencode' with ⟨texts', htexts', -⟩
  have hmem := (PyDict.get?_eq_some_iff hkeys).1 hget
  rcases exists_text_of_mem htexts hmem with ⟨t, ht⟩
  have hfield : (key, t) ∈ texts := (mem_encodeFields htexts key t).2 ⟨v, hmem, ht⟩
  rw [mem_texts_iff h h' htexts htexts'] at hfield
  rcases (mem_encodeFields htexts' key t).1 hfield with ⟨w, hmem', hw⟩
  exact ⟨w, t, (PyDict.get?_eq_some_iff hkeys').2 hmem', ht, hw⟩

/-! ## Kinds of values -/

/-- What kind a value has shows in its text, when values that JSON does not have raise. -/
theorem encode_shape {o : DumpOptions} (hdefault : ∀ v t, o.default v ≠ .ok t) {v : PyVal}
    {text : String} (h : encode o v = .ok text) :
    (∃ s, v = .str s ∧ text = quote s) ∨ (∃ fields, v = .dict fields ∧ '\x7b' ∈ text.toList.head?) ∨
      (∃ vs, v = .list vs ∧ '[' ∈ text.toList.head?) ∨
        ((∀ s, v ≠ .str s) ∧ (∀ fields, v ≠ .dict fields) ∧ Plain text.toList) := by
  cases v with
  | none =>
      cases h
      exact .inr (.inr (.inr ⟨by simp, by simp, by decide⟩))
  | bool b =>
      cases h
      exact .inr (.inr (.inr ⟨by simp, by simp, by cases b <;> decide⟩))
  | int n =>
      cases h
      exact .inr (.inr (.inr ⟨by simp, by simp, plain_int n⟩))
  | float f =>
      cases h
      exact .inr (.inr (.inr ⟨by simp, by simp, plain_floatLiteralText f⟩))
  | str s =>
      cases h
      exact .inl ⟨s, rfl, rfl⟩
  | datetime d =>
      rw [encode] at h
      rcases bind_eq_ok.1 h with ⟨t, ht, -⟩
      exact absurd ht (hdefault _ t)
  | scalar v =>
      rw [encode] at h
      rcases bind_eq_ok.1 h with ⟨t, ht, -⟩
      exact absurd ht (hdefault _ t)
  | list vs =>
      rw [encode] at h
      rcases bind_eq_ok.1 h with ⟨texts, -, ht⟩
      cases ht
      refine .inr (.inr (.inl ⟨vs, rfl, ?_⟩))
      rw [String.toList_append, String.toList_append]
      rfl
  | dict fields =>
      rw [encode] at h
      rcases bind_eq_ok.1 h with ⟨texts, -, ht⟩
      cases ht
      refine .inr (.inl ⟨fields, rfl, ?_⟩)
      rw [String.toList_append, String.toList_append]
      rfl

theorem head?_quote (s : String) : (quote s).toList.head? = some '"' := by
  rw [toList_quote]
  rfl

/-- A plain text does not start as an object or a string literal does. -/
theorem Plain.head? {t : List Char} {c : Char} (h : Plain t) (hc : c ∈ t.head?) :
    isPlain c = true :=
  h c (List.mem_of_mem_head? hc)

/-- The text of a text is that of no other value. -/
theorem eq_str_of_encode {o : DumpOptions} (hdefault : ∀ v t, o.default v ≠ .ok t) {v : PyVal}
    {s : String} (h : encode o v = .ok (quote s)) : v = .str s := by
  have hhead := head?_quote s
  rcases encode_shape hdefault h with ⟨t, rfl, ht⟩ | ⟨fields, rfl, hbrace⟩ | ⟨vs, rfl, hbracket⟩ |
    ⟨-, -, hplain⟩
  · rw [quote_inj ht]
  · rw [hhead] at hbrace
    cases hbrace
  · rw [hhead] at hbracket
    cases hbracket
  · have hquote : isPlain '"' = true := hplain.head? hhead
    cases hquote

/-- The text of an object is that of an object only. -/
theorem eq_dict_of_encode {o : DumpOptions} (hdefault : ∀ v t, o.default v ≠ .ok t) {v : PyVal}
    {fields : List (String × PyVal)} {text : String} (h : encode o (.dict fields) = .ok text)
    (h' : encode o v = .ok text) : ∃ fields', v = .dict fields' := by
  have hhead : '\x7b' ∈ text.toList.head? := by
    rw [encode] at h
    rcases bind_eq_ok.1 h with ⟨texts, -, ht⟩
    cases ht
    rw [String.toList_append, String.toList_append]
    rfl
  rcases encode_shape hdefault h' with ⟨t, -, rfl⟩ | ⟨fields', hdict, -⟩ | ⟨vs, -, hbracket⟩ |
    ⟨-, -, hplain⟩
  · rw [head?_quote] at hhead
    cases hhead
  · exact ⟨fields', hdict⟩
  · rw [Option.mem_def] at hbracket hhead
    rw [hbracket] at hhead
    cases hhead
  · have hbrace : isPlain '\x7b' = true := hplain.head? hhead
    cases hbrace

end PyJson
end Library
end StrategyWorker
