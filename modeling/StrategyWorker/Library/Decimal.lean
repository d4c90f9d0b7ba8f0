import StrategyWorker.Library.PyJsonRead

/-!
# Decimal numbers

A {lit}`Decimal` is a coefficient with an exponent of ten, an infinity or a NaN.
The constructor reads a text exactly: a number whose exponent is out of the range
of the module is refused, as is a text that is no number.  An order comparison
with a NaN raises.

Main results:

- Theorem {lit}`readNumeral_append`: the parts of a numeral are read.
- Theorem {lit}`ofText_text`: a finite number is read back from its text.
- Theorem {lit}`leZero_eq_false_iff`: what is above zero is a positive rational or
  an infinity.
-/

namespace StrategyWorker
namespace Library

open PyText PyJson

/-- {lit}`MAX_EMAX`. -/
def maxEmax : Int := 999999999999999999

/-- {lit}`MIN_ETINY`. -/
def minEtiny : Int := -1999999999999999997

/-- The exponents that a number with this coefficient can have. -/
def ExponentFits (coefficient : Nat) (exponent : Int) : Prop :=
  minEtiny ≤ exponent ∧ exponent + (toString coefficient).toList.length - 1 ≤ maxEmax

instance (coefficient : Nat) (exponent : Int) : Decidable (ExponentFits coefficient exponent) :=
  inferInstanceAs (Decidable (_ ∧ _))

/-- A {lit}`Decimal`, without the payload of a NaN. -/
inductive PyDecimal where
  | finite (negative : Bool) (coefficient : Nat) (exponent : Int)
      (fits : ExponentFits coefficient exponent)
  | infinite (negative : Bool)
  | nan
  deriving DecidableEq

namespace PyDecimal

/-- A finite number when its exponent fits. -/
def ofParts? (negative : Bool) (coefficient : Nat) (exponent : Int) : Option PyDecimal :=
  if h : ExponentFits coefficient exponent then some (finite negative coefficient exponent h)
  else none

/-! ## Reading -/

/-- The characters of the text that the constructor reads: digits of all scripts are translated,
underscores are left out. -/
def numericChars (text : String) : List Char :=
  ((strip text).toList.filter fun c => c ≠ '_').map asciiChar

/-- An exponent, or nothing. -/
def readExponent : List Char → Option Int
  | [] => some 0
  | c :: cs =>
      let (negative, ds) := splitSign cs
      if (c = 'e' ∨ c = 'E') ∧ ds ≠ [] ∧ ds.all Char.isDigit then
        some (if negative then -(natOfDigits ds : Int) else natOfDigits ds)
      else none

/-- The digits after a point, and what follows them. -/
def readFraction : List Char → List Char × List Char
  | '.' :: cs => (cs.takeWhile Char.isDigit, cs.dropWhile Char.isDigit)
  | cs => ([], cs)

/-- A number without its sign. -/
def readNumeral (negative : Bool) (cs : List Char) : Option PyDecimal :=
  let whole := cs.takeWhile Char.isDigit
  let (fraction, rest) := readFraction (cs.dropWhile Char.isDigit)
  if whole ++ fraction = [] then none
  else
    (readExponent rest).bind fun e =>
      ofParts? negative (natOfDigits (whole ++ fraction)) (e - fraction.length)

/-- The text of a NaN: its name, and digits. -/
def isNanText (cs : List Char) : Bool :=
  let name := cs.map Char.toLower
  ("nan".toList.isPrefixOf name && (name.drop 3).all Char.isDigit) ||
    ("snan".toList.isPrefixOf name && (name.drop 4).all Char.isDigit)

/-- {lit}`Decimal(text)`: {lit}`none` where it raises. -/
def ofText (text : String) : Option PyDecimal :=
  let (negative, cs) := splitSign (numericChars text)
  if isNanText cs then some nan
  else if cs.map Char.toLower = "inf".toList ∨ cs.map Char.toLower = "infinity".toList then
    some (infinite negative)
  else readNumeral negative cs

/-! ## Writing -/

/-- An exponent in a text: nothing for zero. -/
def exponentChars (e : Int) : List Char :=
  if e = 0 then []
  else 'E' :: (if e < 0 then '-' else '+') :: (toString e.natAbs).toList

/-- The digits of a number with their point, and the exponent. -/
def numeralChars (coefficient : Nat) (exponent : Int) : List Char :=
  let digits := (toString coefficient).toList
  let leftdigits := exponent + digits.length
  let dotplace := if exponent ≤ 0 ∧ -6 < leftdigits then leftdigits else 1
  let intpart :=
    if dotplace ≤ 0 then ['0']
    else if digits.length ≤ dotplace then
      digits ++ List.replicate (dotplace.toNat - digits.length) '0'
    else digits.take dotplace.toNat
  let fracpart :=
    if dotplace ≤ 0 then '.' :: (List.replicate dotplace.natAbs '0' ++ digits)
    else if digits.length ≤ dotplace then []
    else '.' :: digits.drop dotplace.toNat
  intpart ++ fracpart ++ exponentChars (leftdigits - dotplace)

/-- {lit}`str(d)`. -/
def text : PyDecimal → String
  | finite negative coefficient exponent _ =>
      String.ofList ((if negative then ['-'] else []) ++ numeralChars coefficient exponent)
  | infinite negative => if negative then "-Infinity" else "Infinity"
  | nan => "NaN"

/-! ## Order -/

/-- {lit}`d <= 0`: {lit}`none` where it raises. -/
def leZero : PyDecimal → Option Bool
  | finite negative coefficient _ _ => some (negative || coefficient = 0)
  | infinite negative => some negative
  | nan => none

/-- The rational number that a finite one denotes. -/
def value? : PyDecimal → Option ℚ
  | finite negative coefficient exponent _ =>
      some ((if negative then -1 else 1) * coefficient * 10 ^ exponent)
  | infinite _ | nan => none

/-! ## Numerals are read -/

theorem readExponent_exponentChars (e : Int) : readExponent (exponentChars e) = some e := by
  unfold exponentChars
  split
  · rename_i hzero
    rw [hzero]
    rfl
  · rename_i hne
    have hdigits : (toString e.natAbs).toList.all Char.isDigit = true :=
      List.all_eq_true.2 fun c hc => isDigit_of_mem_natText hc
    have hvalue := natOfDigits_natText e.natAbs
    have hnil := natText_ne_nil e.natAbs
    have hsplit : splitSign ((if e < 0 then '-' else '+') :: (toString e.natAbs).toList) =
        (decide (e < 0), (toString e.natAbs).toList) := by
      by_cases hneg : e < 0 <;> simp [hneg, splitSign]
    rw [readExponent, hsplit]
    dsimp only
    rw [if_pos ⟨.inr rfl, hnil, hdigits⟩, hvalue]
    by_cases hneg : e < 0
    · rw [if_pos (by simpa using hneg)]
      congr 1
      omega
    · rw [if_neg (by simpa using hneg)]
      congr 1
      omega

/-- Digits behind a point, or nothing. -/
def fractionChars (fraction : List Char) : List Char :=
  if fraction = [] then [] else '.' :: fraction

theorem noDigit_exponentChars (e : Int) : NoDigit (exponentChars e) := by
  intro c hc
  unfold exponentChars at hc
  split at hc
  · cases hc
  · obtain rfl : 'E' = c := by simpa using hc
    rfl

theorem noPoint_exponentChars (e : Int) : '.' ∉ (exponentChars e).head? := by
  unfold exponentChars
  split <;> simp

theorem readFraction_append {fraction rest : List Char} (hdigits : ∀ c ∈ fraction, c.isDigit = true)
    (hrest : NoDigit rest) (hpoint : '.' ∉ rest.head?) :
    readFraction (fractionChars fraction ++ rest) = (fraction, rest) := by
  unfold fractionChars
  split
  · rename_i hnil
    rw [List.nil_append, hnil]
    unfold readFraction
    split
    · simp at hpoint
    · rfl
  · rw [List.cons_append, readFraction, takeWhile_digits hdigits hrest,
      dropWhile_digits hdigits hrest]

/-- The parts of a numeral are read. -/
theorem readNumeral_append (negative : Bool) {whole fraction : List Char}
    (hwhole : ∀ c ∈ whole, c.isDigit = true) (hfraction : ∀ c ∈ fraction, c.isDigit = true)
    (hne : whole ≠ []) (e : Int) :
    readNumeral negative (whole ++ fractionChars fraction ++ exponentChars e) =
      ofParts? negative (natOfDigits (whole ++ fraction)) (e - fraction.length) := by
  have hexponent := noDigit_exponentChars e
  have hrest : NoDigit (fractionChars fraction ++ exponentChars e) := by
    unfold fractionChars
    split
    · exact hexponent
    · intro c hc
      obtain rfl : '.' = c := by simpa using hc
      rfl
  have hread := readFraction_append hfraction hexponent (noPoint_exponentChars e)
  have hnil : whole ++ fraction ≠ [] := by simp [hne]
  unfold readNumeral
  rw [List.append_assoc, takeWhile_digits hwhole hrest, dropWhile_digits hwhole hrest, hread]
  dsimp only
  rw [if_neg hnil, readExponent_exponentChars, Option.bind_some]

/-! ## The text of a number -/

/-- The text of a number consists of a whole part, a fraction and an exponent. -/
theorem exists_numeral (coefficient : Nat) (exponent : Int) :
    ∃ whole fraction e,
      numeralChars coefficient exponent = whole ++ fractionChars fraction ++ exponentChars e ∧
      (∀ c ∈ whole, c.isDigit = true) ∧ (∀ c ∈ fraction, c.isDigit = true) ∧ whole ≠ [] ∧
      natOfDigits (whole ++ fraction) = coefficient ∧ e - fraction.length = exponent := by
  have hdigits : ∀ c ∈ (toString coefficient).toList, c.isDigit = true :=
    fun c hc => isDigit_of_mem_natText hc
  have hvalue := natOfDigits_natText coefficient
  have hpos : 0 < (toString coefficient).toList.length :=
    List.length_pos_iff.2 (natText_ne_nil coefficient)
  unfold numeralChars
  generalize (toString coefficient).toList = ds at hdigits hvalue hpos
  dsimp only
  generalize hplace : (if exponent ≤ 0 ∧ -6 < exponent + (ds.length : Int) then
    exponent + (ds.length : Int) else 1) = dotplace
  by_cases hzero : dotplace ≤ 0
  · -- zeros stand between the point and the digits
    have hleft : dotplace = exponent + ds.length := by
      split at hplace <;> omega
    refine ⟨['0'], List.replicate dotplace.natAbs '0' ++ ds, 0, ?_, by simp, ?_, by simp, ?_, ?_⟩
    · rw [if_pos hzero, if_pos hzero, hleft, sub_self]
      have hne : List.replicate (exponent + (ds.length : Int)).natAbs '0' ++ ds ≠ [] := by
        intro hnil
        have hds := (List.append_eq_nil_iff.1 hnil).2
        rw [hds] at hpos
        simp at hpos
      rw [fractionChars, if_neg hne]
    · intro c hc
      rcases List.mem_append.1 hc with hc | hc
      · rw [(List.mem_replicate.1 hc).2]
        rfl
      · exact hdigits c hc
    · rw [← hvalue, ← natOfDigits_zeros (dotplace.natAbs + 1) ds, List.replicate_succ]
      rfl
    · rw [List.length_append, List.length_replicate]
      omega
  · by_cases hlong : (ds.length : Int) ≤ dotplace
    · -- the point would stand behind the digits
      have hplace' : dotplace = ds.length := by
        split at hplace <;> omega
      refine ⟨ds, [], exponent + ds.length - dotplace, ?_, hdigits, by simp, ?_, ?_, ?_⟩
      · rw [if_neg hzero, if_pos hlong, if_neg hzero, if_pos hlong, hplace', fractionChars,
          if_pos rfl]
        simp
      · exact List.length_pos_iff.1 hpos
      · rw [List.append_nil, hvalue]
      · rw [List.length_nil]
        omega
    · refine ⟨ds.take dotplace.toNat, ds.drop dotplace.toNat, exponent + ds.length - dotplace, ?_,
        fun c hc => hdigits c (List.mem_of_mem_take hc),
        fun c hc => hdigits c (List.mem_of_mem_drop hc), ?_, ?_, ?_⟩
      · have hne : ds.drop dotplace.toNat ≠ [] := by
          intro hnil
          rw [List.drop_eq_nil_iff] at hnil
          omega
        rw [if_neg hzero, if_neg hlong, if_neg hzero, if_neg hlong, fractionChars, if_neg hne]
      · intro hnil
        rcases List.take_eq_nil_iff.1 hnil with hnone | hds
        · omega
        · rw [hds] at hpos
          simp at hpos
      · rw [List.take_append_drop, hvalue]
      · rw [List.length_drop]
        split at hplace <;> omega

/-! ## Reading back -/

/-- The characters of a finite number's text. -/
def IsNumeralChar (c : Char) : Prop :=
  c.isDigit = true ∨ c ∈ ['.', 'E', '+', '-']

theorem isNumeralChar_numeralChars {coefficient : Nat} {exponent : Int} {c : Char}
    (hc : c ∈ numeralChars coefficient exponent) : IsNumeralChar c := by
  rcases exists_numeral coefficient exponent with ⟨whole, fraction, e, htext, hwhole, hfraction, -⟩
  rw [htext, List.mem_append, List.mem_append] at hc
  rcases hc with (hc | hc) | hc
  · exact .inl (hwhole c hc)
  · unfold fractionChars at hc
    split at hc
    · cases hc
    · rcases List.mem_cons.1 hc with rfl | hc
      · exact .inr (by decide)
      · exact .inl (hfraction c hc)
  · unfold exponentChars at hc
    split at hc
    · cases hc
    · rcases List.mem_cons.1 hc with rfl | hc
      · exact .inr (by decide)
      · rcases List.mem_cons.1 hc with rfl | hc
        · split <;> exact .inr (by decide)
        · exact .inl (isDigit_of_mem_natText hc)

/-- Such characters are neither spaces nor underscores, and are in ASCII. -/
theorem plain_of_isNumeralChar {c : Char} (h : IsNumeralChar c) :
    isSpace c = false ∧ c ≠ '_' ∧ asciiChar c = c := by
  rcases h with h | h
  · refine ⟨PyDateTime.isSpace_of_isDigit h, ?_, ?_⟩
    · rintro rfl
      cases h
    · have hnine : '9'.toNat = 57 := rfl
      have hrange := (Char.isDigit_iff_toNat.1 h).2
      rw [asciiChar, if_pos (by omega)]
  · have hall : ∀ d ∈ ['.', 'E', '+', '-'], isSpace d = false ∧ d ≠ '_' ∧ asciiChar d = d := by
      decide
    exact hall c h

/-- A text of such characters is read as it stands. -/
theorem numericChars_ofList {cs : List Char} (h : ∀ c ∈ cs, IsNumeralChar c) :
    numericChars (String.ofList cs) = cs := by
  have hstrip : strip (String.ofList cs) = String.ofList cs := by
    refine strip_eq_self (trimmed_of_isSpace fun c hc => ?_)
    rw [String.toList_ofList] at hc
    exact (plain_of_isNumeralChar (h c hc)).1
  have hfilter : cs.filter (fun c => c ≠ '_') = cs :=
    List.filter_eq_self.2 fun c hc => by simpa using (plain_of_isNumeralChar (h c hc)).2.1
  rw [numericChars, hstrip, String.toList_ofList, hfilter]
  exact (List.map_congr_left fun c hc => (plain_of_isNumeralChar (h c hc)).2.2).trans (List.map_id cs)

/-- A numeral starts with a digit. -/
theorem exists_numeralChars (coefficient : Nat) (exponent : Int) :
    ∃ d ds, numeralChars coefficient exponent = d :: ds ∧ d.isDigit = true := by
  rcases exists_numeral coefficient exponent with ⟨whole, fraction, e, htext, hwhole, -, hne, -⟩
  cases whole with
  | nil => exact absurd rfl hne
  | cons d whole => exact ⟨d, _, by rw [htext]; rfl, hwhole d List.mem_cons_self⟩

theorem toLower_of_isDigit {d : Char} (h : d.isDigit = true) : d.toLower = d := by
  have hnine : '9'.toNat = 57 := rfl
  have hrange := (Char.isDigit_iff_toNat.1 h).2
  have hupper : ¬ (d.val ≥ 'A'.val ∧ d.val ≤ 'Z'.val) := by
    rintro ⟨hge, -⟩
    have hge' : 65 ≤ d.toNat := hge
    omega
  unfold Char.toLower
  rw [dif_neg hupper]

/-- A finite number is read back from its text. -/
theorem ofText_text {negative : Bool} {coefficient : Nat} {exponent : Int}
    (hfits : ExponentFits coefficient exponent) :
    ofText (text (finite negative coefficient exponent hfits)) =
      some (finite negative coefficient exponent hfits) := by
  rcases exists_numeralChars coefficient exponent with ⟨d, ds, hhead, hd⟩
  rcases exists_numeral coefficient exponent with ⟨whole, fraction, e, htext, hwhole, hfraction, hne,
    hvalue, hexponent⟩
  have hchars : numericChars (text (finite negative coefficient exponent hfits)) =
      (if negative then ['-'] else []) ++ numeralChars coefficient exponent := by
    refine numericChars_ofList fun c hc => ?_
    rcases List.mem_append.1 hc with hc | hc
    · refine .inr ?_
      split at hc
      · rw [List.mem_singleton.1 hc]
        decide
      · cases hc
    · exact isNumeralChar_numeralChars hc
  have hsign : splitSign ((if negative then ['-'] else []) ++ numeralChars coefficient exponent) =
      (negative, numeralChars coefficient exponent) := by
    cases negative with
    | true => rfl
    | false =>
        rw [hhead]
        have hplain : d ≠ '-' ∧ d ≠ '+' := by
          constructor <;> rintro rfl <;> cases hd
        unfold splitSign
        split
        · rename_i heq
          exact absurd (List.cons.inj heq).1 hplain.1
        · rename_i heq
          exact absurd (List.cons.inj heq).1 hplain.2
        · rfl
  have hletters : d.toLower ≠ 'n' ∧ d.toLower ≠ 's' ∧ d.toLower ≠ 'i' := by
    rw [toLower_of_isDigit hd]
    refine ⟨?_, ?_, ?_⟩ <;> rintro rfl <;> cases hd
  have hnan : isNanText (numeralChars coefficient exponent) = false := by
    rw [hhead]
    simp [isNanText, List.isPrefixOf, Ne.symm hletters.1, Ne.symm hletters.2.1]
  have hinf : ¬ ((numeralChars coefficient exponent).map Char.toLower = "inf".toList ∨
      (numeralChars coefficient exponent).map Char.toLower = "infinity".toList) := by
    rw [hhead]
    simp [hletters.2.2]
  rw [ofText, hchars, hsign]
  dsimp only
  rw [hnan, if_neg (by decide), if_neg hinf, htext,
    readNumeral_append negative hwhole hfraction hne, hvalue, hexponent, ofParts?, dif_pos hfits]

/-! ## Above zero -/

/-- A finite number above zero. -/
def IsPositive (d : PyDecimal) : Prop :=
  ∃ q, d.value? = some q ∧ 0 < q

theorem isPositive_finite {negative : Bool} {coefficient : Nat} {exponent : Int}
    {hfits : ExponentFits coefficient exponent} :
    IsPositive (finite negative coefficient exponent hfits) ↔
      (finite negative coefficient exponent hfits).leZero = some false := by
  have hpower : (0 : ℚ) < 10 ^ exponent := zpow_pos (by norm_num) exponent
  simp only [IsPositive, value?, leZero, Option.some.injEq, exists_eq_left', Bool.or_eq_false_iff,
    decide_eq_false_iff_not]
  cases negative with
  | true =>
      have hle : (-1 : ℚ) * coefficient * 10 ^ exponent ≤ 0 := by
        have hnonneg : (0 : ℚ) ≤ coefficient * 10 ^ exponent :=
          mul_nonneg (Nat.cast_nonneg coefficient) hpower.le
        linarith
      simpa using hle
  | false =>
      simp only [Bool.false_eq_true, if_false, one_mul, true_and]
      rw [mul_pos_iff_of_pos_right hpower, Nat.cast_pos, Nat.pos_iff_ne_zero]

/-- What is not refused as zero or less is a finite number above zero or an infinity. -/
theorem leZero_eq_false_iff (d : PyDecimal) :
    d.leZero = some false ↔ IsPositive d ∨ d = infinite false := by
  cases d with
  | finite negative coefficient exponent hfits =>
      rw [← isPositive_finite]
      simp
  | infinite negative => cases negative <;> simp [leZero, IsPositive, value?]
  | nan => simp [leZero, IsPositive, value?]

theorem leZero_eq_none_iff (d : PyDecimal) : d.leZero = none ↔ d = nan := by
  cases d <;> simp [leZero]

/-- A finite number above zero is read back from its text. -/
theorem IsPositive.ofText_text {d : PyDecimal} (h : IsPositive d) : ofText d.text = some d := by
  rcases h with ⟨q, hq, -⟩
  cases d with
  | finite negative coefficient exponent hfits => exact PyDecimal.ofText_text hfits
  | infinite negative => cases hq
  | nan => cases hq

theorem not_isPositive_infinite (negative : Bool) : ¬ IsPositive (infinite negative) := by
  rintro ⟨q, hq, -⟩
  cases hq

end PyDecimal
end Library
end StrategyWorker
