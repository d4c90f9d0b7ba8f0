import StrategyWorker.Library.IsoOrder
import StrategyWorker.Library.PyJsonUnique

/-!
# Texts that were written are read

{lit}`json.loads` accepts what {lit}`json.dumps` has written, when the reader has
room for the nesting of the value and the integers in it are not too long.  The
value that is read is that of the parts: texts and integers are read back, an
object has the members of the text, and a float is read as the one at its digits.

Main results:

- Theorem {lit}`matchNumber_numeral`: the numerals that are written.
- Theorem {lit}`Reads.list`, theorem {lit}`Reads.dict`: containers of texts that
  are read.
- Theorem {lit}`exists_loads_encode`: the text of a value is read.
-/

namespace StrategyWorker
namespace Library
namespace PyJson

open Binary64 PyText PyDateTime

/-! ## Numerals -/

/-- What stands after a value: nothing, or a character that no value contains. -/
def Ends (rest : List Char) : Prop :=
  ∀ c ∈ rest.head?, c = ',' ∨ c = ']' ∨ c = '\x7d'

/-- The text does not go on with a digit. -/
def NoDigit (cs : List Char) : Prop :=
  ∀ c ∈ cs.head?, c.isDigit = false

theorem Ends.noDigit {rest : List Char} (h : Ends rest) : NoDigit rest := by
  intro c hc
  rcases h c hc with rfl | rfl | rfl <;> rfl

theorem takeWhile_digits {ds rest : List Char} (hds : ∀ c ∈ ds, c.isDigit = true)
    (hrest : NoDigit rest) : (ds ++ rest).takeWhile Char.isDigit = ds := by
  rw [List.takeWhile_append_of_pos hds]
  cases rest with
  | nil => simp
  | cons c rest =>
      have hc : c.isDigit = false := hrest c rfl
      simp [hc]

theorem dropWhile_digits {ds rest : List Char} (hds : ∀ c ∈ ds, c.isDigit = true)
    (hrest : NoDigit rest) : (ds ++ rest).dropWhile Char.isDigit = rest := by
  rw [List.dropWhile_append_of_pos hds]
  cases rest with
  | nil => rfl
  | cons c rest =>
      have hc : c.isDigit = false := hrest c rfl
      simp [hc]

/-- Digits of a number without needless zeros. -/
structure WholePart (ds : List Char) : Prop where
  isDigit : ∀ c ∈ ds, c.isDigit = true
  ne_nil : ds ≠ []
  leading : ds.head? = some '0' → ds = ['0']

/-- A point and digits, or nothing. -/
def FractionText (t : List Char) : Prop :=
  t = [] ∨ ∃ ds, t = '.' :: ds ∧ ds ≠ [] ∧ ∀ c ∈ ds, c.isDigit = true

/-- An exponent with its sign, or nothing. -/
def ExponentText (t : List Char) : Prop :=
  t = [] ∨ ∃ sign ds, t = 'e' :: sign :: ds ∧ (sign = '+' ∨ sign = '-') ∧ ds ≠ [] ∧
    ∀ c ∈ ds, c.isDigit = true

theorem ExponentText.noDigit {t rest : List Char} (h : ExponentText t) (hrest : Ends rest) :
    NoDigit (t ++ rest) := by
  rcases h with rfl | ⟨sign, ds, rfl, -⟩
  · exact hrest.noDigit
  · intro c hc
    obtain rfl : 'e' = c := by simpa using hc
    rfl

theorem FractionText.noDigit {t rest : List Char} (h : FractionText t) (hrest : NoDigit rest) :
    NoDigit (t ++ rest) := by
  rcases h with rfl | ⟨ds, rfl, -⟩
  · exact hrest
  · intro c hc
    obtain rfl : '.' = c := by simpa using hc
    rfl

/-- An exponent is read, and nothing after it. -/
theorem exponentPart_append {t rest : List Char} (h : ExponentText t) (hrest : Ends rest) :
    exponentPart (t ++ rest) = ((exponentPart t).1, rest) := by
  rcases h with rfl | ⟨sign, ds, rfl, hsign, hne, hds⟩
  · cases rest with
    | nil => rfl
    | cons c rest =>
        have hc : ¬ (c = 'e' ∨ c = 'E') := by
          rcases hrest c rfl with rfl | rfl | rfl <;> decide
        simp [exponentPart, hc]
  · have hsplit (cs : List Char) : splitSign (sign :: cs) = (decide (sign = '-'), cs) := by
      rcases hsign with rfl | rfl <;> rfl
    have htake := takeWhile_digits hds hrest.noDigit
    have hdrop := dropWhile_digits hds hrest.noDigit
    have hself : ds.takeWhile Char.isDigit = ds := List.takeWhile_eq_self_iff.2 hds
    simp [exponentPart, hsplit, htake, hdrop, hself, hne]

theorem exponentPart_eq_none_iff {t : List Char} (h : ExponentText t) :
    (exponentPart t).1 = none ↔ t = [] := by
  rcases h with rfl | ⟨sign, ds, rfl, hsign, hne, hds⟩
  · exact iff_of_true rfl rfl
  · have hself : ds.takeWhile Char.isDigit = ds := List.takeWhile_eq_self_iff.2 hds
    have hsplit : splitSign (sign :: ds) = (decide (sign = '-'), ds) := by
      rcases hsign with rfl | rfl <;> rfl
    simp [exponentPart, hsplit, hself, hne]

/-- A fraction is read, and nothing after it. -/
theorem fractionPart_append {t rest : List Char} (h : FractionText t) (hrest : NoDigit rest)
    (hpoint : '.' ∉ rest.head?) : fractionPart (t ++ rest) = (t.tail, rest) := by
  rcases h with rfl | ⟨ds, rfl, hne, hds⟩
  · rw [List.nil_append, fractionPart]
    · rfl
    · rintro d cs rfl
      exact hpoint rfl
  · cases ds with
    | nil => exact absurd rfl hne
    | cons d ds =>
        have hd : d.isDigit = true := hds d List.mem_cons_self
        have hds' : ∀ c ∈ ds, c.isDigit = true := fun c hc => hds c (List.mem_cons_of_mem d hc)
        simp [fractionPart, hd, takeWhile_digits hds' hrest, dropWhile_digits hds' hrest]

theorem FractionText.tail_eq_nil_iff {t : List Char} (h : FractionText t) :
    t.tail = [] ↔ t = [] := by
  rcases h with rfl | ⟨ds, rfl, hne, -⟩
  · exact iff_of_true rfl rfl
  · simp [hne]

/-- The text after a fraction does not go on with a point. -/
theorem ExponentText.noPoint {t rest : List Char} (h : ExponentText t) (hrest : Ends rest) :
    '.' ∉ (t ++ rest).head? := by
  intro hmem
  rcases h with rfl | ⟨sign, ds, rfl, -⟩
  · have hends := hrest '.' hmem
    simp at hends
  · simp at hmem

/-- The value that the digits of a numeral denote. -/
def numeralValue (whole fraction exponent : List Char) : ℚ :=
  natOfDigits (whole ++ fraction.tail) / 10 ^ fraction.tail.length *
    10 ^ ((exponentPart exponent).1).getD 0

/-- The float that a numeral is read as. -/
def readFloat (negative : Bool) (whole fraction exponent : List Char) : PyFloat :=
  let value : ℚ := natOfDigits (whole ++ fraction.tail) / 10 ^ fraction.tail.length *
    10 ^ ((exponentPart exponent).1).getD 0
  floatLiteral (if negative then -value else value)

/-- What is read of a numeral: an integer when it has neither fraction nor exponent. -/
theorem matchNumber_numeral (negative : Bool) {whole fraction exponent rest : List Char}
    (hwhole : WholePart whole) (hfraction : FractionText fraction)
    (hexponent : ExponentText exponent) (hrest : Ends rest) :
    matchNumber negative (whole ++ (fraction ++ (exponent ++ rest))) =
      if fraction = [] ∧ exponent = [] then
        if 4300 < whole.length then .error .valueError
        else .ok (.int (if negative then -(natOfDigits whole : Int) else natOfDigits whole), rest)
      else .ok (.float (readFloat negative whole fraction exponent), rest) := by
  have hafter := hfraction.noDigit (hexponent.noDigit hrest)
  have hread := fractionPart_append hfraction (hexponent.noDigit hrest) (hexponent.noPoint hrest)
  have hread' := exponentPart_append hexponent hrest
  cases whole with
  | nil => exact absurd rfl hwhole.ne_nil
  | cons c ds =>
      have hc : c.isDigit = true := hwhole.isDigit c List.mem_cons_self
      have hds : ∀ c ∈ ds, c.isDigit = true :=
        fun c' hc' => hwhole.isDigit c' (List.mem_cons_of_mem c hc')
      rw [List.cons_append, matchNumber, if_pos hc]
      by_cases hzero : c = '0'
      · obtain rfl : ds = [] := (List.cons.inj (hwhole.leading (congrArg some hzero))).2
        simp only [hzero, if_true, List.nil_append, hread, hread', readFloat,
          hfraction.tail_eq_nil_iff, exponentPart_eq_none_iff hexponent]
      · simp only [hzero, if_false, takeWhile_digits hds hafter, dropWhile_digits hds hafter, hread,
          hread', readFloat, hfraction.tail_eq_nil_iff, exponentPart_eq_none_iff hexponent]

/-- Digits alone are read as an integer. -/
theorem matchNumber_digits {negative : Bool} {whole rest : List Char} (hwhole : WholePart whole)
    (hrest : Ends rest) (hlength : whole.length ≤ 4300) :
    matchNumber negative (whole ++ rest) =
      .ok (.int (if negative then -(natOfDigits whole : Int) else natOfDigits whole), rest) := by
  have hnumeral := matchNumber_numeral negative hwhole (.inl rfl) (.inl rfl) hrest
  rw [List.nil_append, List.nil_append, if_pos ⟨rfl, rfl⟩, if_neg (not_lt.2 hlength)] at hnumeral
  exact hnumeral

/-! ## Texts of numbers -/

/-- A number is written without leading zeros. -/
theorem wholePart_natText (n : Nat) : WholePart (toString n).toList where
  isDigit _ hc := isDigit_of_mem_natText hc
  ne_nil := natText_ne_nil n
  leading := by
    rw [toList_toString]
    intro hhead
    cases hdigits : Nat.toDigits 10 n with
    | nil => exact absurd hdigits Nat.toDigits_ne_nil
    | cons c ds =>
        rw [hdigits] at hhead
        obtain rfl : c = '0' := Option.some.inj hhead
        cases ds with
        | nil => rfl
        | cons d ds =>
            exfalso
            have hvalue : Nat.ofDigitChars 10 (d :: ds) 0 = n := by
              have hall := Nat.ofDigitChars_ten_toDigits (n := n)
              rw [hdigits, Nat.ofDigitChars_cons] at hall
              exact hall
            have hds : ∀ c ∈ d :: ds, c.isDigit = true := by
              intro c hc
              apply Nat.isDigit_of_mem_toDigits (b := 10) (n := n) (by decide) (by decide)
              rw [hdigits]
              exact List.mem_cons_of_mem _ hc
            have hsmall : n < 10 ^ (d :: ds).length := by
              have hlength : (d :: ds).length =
                  (List.replicate (d :: ds).length '0').length := List.length_replicate.symm
              have hlt := ofDigitChars_lt (n := 0) (m := 1) hlength hds (by decide)
              rw [hvalue, Nat.ofDigitChars_replicate_zero, Nat.mul_one] at hlt
              exact hlt
            have hlength := (Nat.length_toDigits_le_iff (n := n) (k := (d :: ds).length) (b := 10)
              (by decide) (by simp)).2 hsmall
            rw [hdigits] at hlength
            simp at hlength

theorem natOfDigits_natText (n : Nat) : natOfDigits (toString n).toList = n := by
  have hfold : ∀ (ds : List Char) (acc : Nat),
      ds.foldl (fun n c => n * 10 + (c.toNat - '0'.toNat)) acc = Nat.ofDigitChars 10 ds acc := by
    intro ds
    induction ds with
    | nil => exact fun _ => rfl
    | cons d ds ih =>
        intro acc
        rw [List.foldl_cons, ih, Nat.ofDigitChars_cons, Nat.mul_comm]
  rw [natOfDigits, hfold, toList_toString]
  exact Nat.ofDigitChars_ten_toDigits

theorem natOfDigits_append (ds es : List Char) :
    natOfDigits (ds ++ es) = natOfDigits ds * 10 ^ es.length + natOfDigits es := by
  induction es using List.reverseRecOn with
  | nil => simp [natOfDigits]
  | append_singleton es e ih =>
      have hlast (cs : List Char) :
          natOfDigits (cs ++ [e]) = natOfDigits cs * 10 + (e.toNat - '0'.toNat) := by
        rw [natOfDigits, List.foldl_append]
        rfl
      rw [← List.append_assoc, hlast, hlast, ih, List.length_append, List.length_singleton,
        pow_succ]
      ring

theorem natOfDigits_zeros (n : Nat) (ds : List Char) :
    natOfDigits (List.replicate n '0' ++ ds) = natOfDigits ds := by
  induction n with
  | zero => rfl
  | succ n ih =>
      rw [List.replicate_succ, List.cons_append, ← ih]
      rfl

/-- Zeros behind a number. -/
theorem natOfDigits_shifted (ds : List Char) (n : Nat) :
    natOfDigits (ds ++ List.replicate n '0') = natOfDigits ds * 10 ^ n := by
  have hzeros := natOfDigits_zeros n []
  rw [List.append_nil] at hzeros
  rw [natOfDigits_append, hzeros, List.length_replicate]
  rfl

/-- The sign and the digits of an exponent. -/
theorem toList_exponentText (e : Int) :
    (exponentText e).toList = 'e' :: (if e < 0 then '-' else '+') ::
      ((if e.natAbs < 10 then "0" else "").toList ++ (toString e.natAbs).toList) := by
  unfold exponentText
  rw [String.toList_append, String.toList_append, List.append_assoc]
  split <;> rfl

theorem isDigit_exponentDigits {e : Int} {c : Char}
    (hc : c ∈ (if e.natAbs < 10 then "0" else "").toList ++ (toString e.natAbs).toList) :
    c.isDigit = true := by
  rcases List.mem_append.1 hc with hc | hc
  · split at hc
    · obtain rfl : c = '0' := by simpa using hc
      rfl
    · simp at hc
  · exact isDigit_of_mem_natText hc

theorem exponentDigits_ne_nil (e : Int) :
    (if e.natAbs < 10 then "0" else "").toList ++ (toString e.natAbs).toList ≠ [] :=
  fun h => natText_ne_nil _ (List.append_eq_nil_iff.1 h).2

theorem exponentText_exponentText (e : Int) : ExponentText (exponentText e).toList := by
  refine .inr ⟨if e < 0 then '-' else '+', _, toList_exponentText e, ?_, exponentDigits_ne_nil e,
    fun c hc => isDigit_exponentDigits hc⟩
  split
  · exact .inr rfl
  · exact .inl rfl

/-- The exponent is read back. -/
theorem exponentPart_exponentText (e : Int) :
    (exponentPart (exponentText e).toList).1 = some e := by
  have hzero : natOfDigits ((if e.natAbs < 10 then "0" else "").toList ++
      (toString e.natAbs).toList) = e.natAbs := by
    split
    · exact (natOfDigits_zeros 1 _).trans (natOfDigits_natText _)
    · exact natOfDigits_natText _
  have hdigits : ∀ c ∈ (if e.natAbs < 10 then "0" else "").toList ++ (toString e.natAbs).toList,
      c.isDigit = true := fun c hc => isDigit_exponentDigits hc
  have hne := exponentDigits_ne_nil e
  rw [toList_exponentText]
  generalize (if e.natAbs < 10 then "0" else "").toList ++ (toString e.natAbs).toList = ds
    at hzero hdigits hne
  have hself : ds.takeWhile Char.isDigit = ds := List.takeWhile_eq_self_iff.2 hdigits
  by_cases hneg : e < 0
  · have hvalue : -(natOfDigits ds : Int) = e := by omega
    simp [exponentPart, splitSign, hneg, hself, hne, hvalue]
  · have hvalue : (natOfDigits ds : Int) = e := by omega
    simp [exponentPart, splitSign, hneg, hself, hne, hvalue]

/-- What is written for a positive value is a whole part with a fraction or an exponent; together
they denote a decimal value. -/
def FloatNumeral (t : List Char) (value : ℚ) : Prop :=
  ∃ whole fraction exponent, t = whole ++ (fraction ++ exponent) ∧ WholePart whole ∧
    FractionText fraction ∧ ExponentText exponent ∧ (fraction ≠ [] ∨ exponent ≠ []) ∧
      numeralValue whole fraction exponent = value

/-- A numeral without an exponent. -/
theorem numeralValue_nil (whole fraction : List Char) :
    numeralValue whole fraction [] =
      natOfDigits (whole ++ fraction.tail) / 10 ^ fraction.tail.length := by
  simp [numeralValue, exponentPart]

theorem numeralValue_exponentText (whole fraction : List Char) (e : Int) :
    numeralValue whole fraction (exponentText e).toList =
      natOfDigits (whole ++ fraction.tail) / 10 ^ fraction.tail.length * 10 ^ e := by
  rw [numeralValue, exponentPart_exponentText, Option.getD_some]

theorem shortestDigits_pos {q : ℚ} (hq : 0 < q) (tries digits : Nat) (htries : 0 < tries)
    (hdigits : 0 < digits) : 0 < (shortestDigits q tries digits).1 := by
  induction tries generalizing digits with
  | zero => cases htries
  | succ tries ih =>
      have hmantissa : 0 < (roundEven (q / 10 ^ (Int.log 10 q - digits + 1))).toNat := by
        have hscaled : (1 : ℚ) ≤ q / 10 ^ (Int.log 10 q - digits + 1) := by
          rw [one_le_div (zpow_pos (by norm_num) _)]
          have hle : Int.log 10 q - digits + 1 ≤ Int.log 10 q := by omega
          have hlog : (10 : ℚ) ^ Int.log 10 q ≤ q := by
            exact_mod_cast Int.zpow_log_le_self (b := 10) (by decide) hq
          exact (zpow_le_zpow_right₀ (by norm_num) hle).trans hlog
        have hround := roundEven_mono hscaled
        have hone : roundEven (1 : ℚ) = 1 := by exact_mod_cast roundEven_intCast 1
        rw [hone] at hround
        omega
      unfold shortestDigits
      dsimp only
      split
      · exact hmantissa
      · rename_i hnot
        push Not at hnot
        split
        · exact Nat.succ_pos _
        · exact ih _ (Nat.pos_of_ne_zero hnot.2) (Nat.succ_pos _)

theorem wholePart_singleton {d : Char} (h : d.isDigit = true) : WholePart [d] where
  isDigit c hc := List.mem_singleton.1 hc ▸ h
  ne_nil := by simp
  leading hhead := by rw [Option.some.inj hhead]

/-- Digits after a first one that is no zero. -/
theorem wholePart_of_head {ds : List Char} (hds : ∀ c ∈ ds, c.isDigit = true) (hne : ds ≠ [])
    (hhead : ds.head? ≠ some '0') : WholePart ds where
  isDigit := hds
  ne_nil := hne
  leading h := absurd h hhead

theorem head?_natText {n : Nat} (h : 0 < n) : (toString n).toList.head? ≠ some '0' := by
  intro hhead
  have hzero := (wholePart_natText n).leading hhead
  have hvalue := natOfDigits_natText n
  rw [hzero] at hvalue
  have : natOfDigits ['0'] = 0 := by decide
  omega

/-- The numeral of a positive value denotes the digits that were found for it. -/
theorem floatNumeral_positiveRepr {q : ℚ} (hq : 0 < q) :
    FloatNumeral (positiveRepr q).toList
      ((shortestDigits q 17 1).1 * 10 ^ (shortestDigits q 17 1).2) := by
  have hpos := shortestDigits_pos hq 17 1 (by decide) (by decide)
  unfold positiveRepr
  cases hshortest : shortestDigits q 17 1 with
  | mk mantissa exponent =>
      rw [hshortest] at hpos
      have hdigits : ∀ c ∈ (toString mantissa).toList, c.isDigit = true :=
        fun c hc => isDigit_of_mem_natText hc
      have hne := natText_ne_nil mantissa
      have hhead := head?_natText hpos
      have hvalue := natOfDigits_natText mantissa
      have hten : (10 : ℚ) ≠ 0 := by norm_num
      dsimp only
      rw [String.toList_ofList]
      generalize (toString mantissa).toList = digits at hdigits hne hhead hvalue
      split
      · have hexponent := exponentText_exponentText (digits.length + exponent - 1)
        have hsome : (exponentText (digits.length + exponent - 1)).toList ≠ [] := by
          rw [toList_exponentText]
          exact List.cons_ne_nil _ _
        match digits, hdigits, hne, hvalue with
        | [], _, hne, _ => exact absurd rfl hne
        | [d], hdigits, _, hvalue =>
            refine ⟨[d], [], (exponentText ([d].length + exponent - 1)).toList, rfl,
              wholePart_singleton (hdigits d List.mem_cons_self), .inl rfl, hexponent, .inr hsome,
              ?_⟩
            rw [numeralValue_exponentText, List.tail_nil, List.append_nil, hvalue, List.length_nil,
              pow_zero, div_one, List.length_singleton]
            congr 2
            push_cast
            ring
        | d :: d' :: ds, hdigits, _, hvalue =>
            have hfraction : FractionText ('.' :: d' :: ds) :=
              .inr ⟨d' :: ds, rfl, by simp, fun c hc => hdigits c (List.mem_cons_of_mem d hc)⟩
            refine ⟨[d], '.' :: d' :: ds,
              (exponentText ((d :: d' :: ds).length + exponent - 1)).toList, rfl,
              wholePart_singleton (hdigits d List.mem_cons_self), hfraction, hexponent,
              .inl (by simp), ?_⟩
            have hplaces : ((d :: d' :: ds).length + exponent - 1 : Int) =
                (d' :: ds).length + exponent := by
              rw [List.length_cons]
              push_cast
              ring
            rw [numeralValue_exponentText, List.tail_cons, List.singleton_append, hvalue, hplaces,
              zpow_add₀ hten, zpow_natCast]
            field_simp
      · split
        · rename_i hnear hzero
          have hplaces : ((digits.length + exponent : Int).natAbs : Int) =
              -(digits.length + exponent) := by omega
          generalize (digits.length + exponent : Int).natAbs = zeros at hplaces
          have hzeros : ∀ c ∈ List.replicate zeros '0' ++ digits, c.isDigit = true := by
            intro c hc
            rcases List.mem_append.1 hc with hc | hc
            · rw [(List.mem_replicate.1 hc).2]
              rfl
            · exact hdigits c hc
          refine ⟨['0'], '.' :: (List.replicate zeros '0' ++ digits), [], by simp,
            wholePart_singleton rfl, .inr ⟨_, rfl, ?_, hzeros⟩, .inl rfl, .inl (by simp), ?_⟩
          · exact List.append_ne_nil_of_right_ne_nil _ hne
          · have hleading := natOfDigits_zeros (zeros + 1) digits
            rw [List.replicate_succ, List.cons_append] at hleading
            have hexponent : exponent = -((zeros + digits.length : ℕ) : ℤ) := by
              push_cast
              omega
            rw [numeralValue_nil, List.tail_cons, List.singleton_append, hleading, hvalue,
              List.length_append, List.length_replicate, hexponent, zpow_neg, zpow_natCast,
              div_eq_mul_inv]
        · split
          · have hplaces : (((digits.length + exponent : Int).toNat - digits.length : ℕ) : Int) =
                exponent := by omega
            generalize (digits.length + exponent : Int).toNat - digits.length = zeros at hplaces
            have hzeros : ∀ c ∈ digits ++ List.replicate zeros '0', c.isDigit = true := by
              intro c hc
              rcases List.mem_append.1 hc with hc | hc
              · exact hdigits c hc
              · rw [(List.mem_replicate.1 hc).2]
                rfl
            have hhead' : (digits ++ List.replicate zeros '0').head? ≠ some '0' := by
              rw [List.head?_append_of_ne_nil _ hne]
              exact hhead
            refine ⟨digits ++ List.replicate zeros '0', ['.', '0'], [], by simp,
              wholePart_of_head hzeros (List.append_ne_nil_of_left_ne_nil hne _) hhead',
              .inr ⟨['0'], rfl, by simp, by decide⟩, .inl rfl, .inl (by simp), ?_⟩
            have hshifted : natOfDigits (digits ++ List.replicate zeros '0' ++ ['0']) =
                mantissa * 10 ^ (zeros + 1) := by
              have hlast : List.replicate zeros '0' ++ ['0'] = List.replicate (zeros + 1) '0' := by
                rw [List.replicate_succ']
              rw [List.append_assoc, hlast, natOfDigits_shifted, hvalue]
            rw [numeralValue_nil, List.tail_cons, hshifted, ← hplaces, zpow_natCast]
            push_cast
            rw [List.length_singleton, pow_succ]
            field_simp
          · rename_i hfar hpoint hshort
            generalize hsum : (digits.length + exponent : Int) = point at hpoint hshort
            have hplace : 0 < point.toNat := by omega
            have htake : ∀ c ∈ digits.take point.toNat, c.isDigit = true :=
              fun c hc => hdigits c (List.mem_of_mem_take hc)
            have hdrop : ∀ c ∈ digits.drop point.toNat, c.isDigit = true :=
              fun c hc => hdigits c (List.mem_of_mem_drop hc)
            have htakeNe : digits.take point.toNat ≠ [] := by
              rw [Ne, List.take_eq_nil_iff, not_or]
              exact ⟨hplace.ne', hne⟩
            have hdropNe : digits.drop point.toNat ≠ [] := by
              rw [Ne, List.drop_eq_nil_iff]
              omega
            have htakeHead : (digits.take point.toNat).head? ≠ some '0' := by
              rw [List.head?_take, if_neg (by omega)]
              exact hhead
            refine ⟨digits.take point.toNat, '.' :: digits.drop point.toNat, [], by simp,
              wholePart_of_head htake htakeNe htakeHead, .inr ⟨_, rfl, hdropNe, hdrop⟩, .inl rfl,
              .inl (by simp), ?_⟩
            have hexponent : exponent = -((digits.length - point.toNat : ℕ) : ℤ) := by omega
            rw [numeralValue_nil, List.tail_cons, List.take_append_drop, hvalue, List.length_drop,
              hexponent, zpow_neg, zpow_natCast, div_eq_mul_inv]

/-! ## Texts that are read -/

/-- A scan with room for so many containers reads the text as a value, whatever follows it. -/
structure Reads (room : Nat) (t : List Char) (w : PyVal) : Prop where
  first : ∃ c cs, t = c :: cs ∧ isWhitespace c = false ∧ c ∉ [']', '\x7d', '\ufeff']
  scan : ∀ steps rest, 2 * t.length ≤ steps → Ends rest →
    scanOnce steps room (t ++ rest) = .ok (w, rest)

/-- No white space is skipped before a text that is read. -/
theorem Reads.skip {room : Nat} {t : List Char} {w : PyVal} (h : Reads room t w)
    (rest : List Char) : skipWhitespace (t ++ rest) = t ++ rest := by
  rcases h.first with ⟨c, cs, rfl, hc, -⟩
  simp [skipWhitespace, hc]

theorem Reads.length_pos {room : Nat} {t : List Char} {w : PyVal} (h : Reads room t w) :
    0 < t.length := by
  rcases h.first with ⟨c, cs, rfl, -⟩
  exact Nat.succ_pos _

/-- The characters that a number or a constant begins with. -/
def IsAtomHead (c : Char) : Prop :=
  c.isDigit = true ∨ c ∈ ['-', 'n', 't', 'f', 'N', 'I']

/-- Other characters begin no number and no constant. -/
theorem IsAtomHead.ne {c d : Char} (h : IsAtomHead c)
    (hd : d ∈ [' ', '\t', '\n', '\r', ']', '\x7d', '\ufeff', '"', '\x7b', '[']) : c ≠ d := by
  rintro rfl
  rcases h with h | h
  · have hnone : ∀ d ∈ [' ', '\t', '\n', '\r', ']', '\x7d', '\ufeff', '"', '\x7b', '['],
        d.isDigit = false := by decide
    rw [hnone c hd] at h
    cases h
  · have hnone : ∀ d ∈ ['-', 'n', 't', 'f', 'N', 'I'],
        d ∉ [' ', '\t', '\n', '\r', ']', '\x7d', '\ufeff', '"', '\x7b', '['] := by decide
    exact hnone c h hd

/-- A text that the scan takes for a number or a constant. -/
theorem Reads.of_atom {room : Nat} {t : List Char} {w : PyVal}
    (hfirst : ∃ c cs, t = c :: cs ∧ IsAtomHead c)
    (hscan : ∀ rest, Ends rest → scanAtom (t ++ rest) = .ok (w, rest)) : Reads room t w := by
  rcases hfirst with ⟨c, cs, rfl, hc⟩
  constructor
  · refine ⟨c, cs, rfl, ?_, ?_⟩
    · simp [isWhitespace, hc.ne]
    · simp [hc.ne]
  · intro steps rest hsteps hrest
    cases steps with
    | zero => simp at hsteps
    | succ steps =>
        rw [List.cons_append, scanOnce]
        · exact hscan rest hrest
        · intro cs' heq
          exact hc.ne (d := '"') (by simp) (List.cons.inj heq).1
        · intro cs' heq
          exact hc.ne (d := '\x7b') (by simp) (List.cons.inj heq).1
        · intro cs' heq
          exact hc.ne (d := '[') (by simp) (List.cons.inj heq).1

/-- A text that begins with a digit is taken for a number. -/
theorem scanAtom_of_digit {c : Char} (h : c.isDigit = true) (cs : List Char) :
    scanAtom (c :: cs) = matchNumber false (c :: cs) := by
  unfold scanAtom
  split
  case h_8 => rfl
  all_goals
    rename_i heq
    obtain rfl := (List.cons.inj heq).1
    cases h

theorem scanAtom_of_minus {c : Char} (h : c.isDigit = true) (cs : List Char) :
    scanAtom ('-' :: c :: cs) = matchNumber true (c :: cs) := by
  unfold scanAtom
  split
  case h_6 heq =>
    obtain rfl := (List.cons.inj (List.cons.inj heq).2).1
    cases h
  case h_7 heq => rw [(List.cons.inj heq).2]
  case h_8 hminus => exact absurd rfl (hminus _)
  all_goals
    rename_i heq
    cases (List.cons.inj heq).1

/-- The first digit of a whole part. -/
theorem WholePart.exists_cons {ds : List Char} (h : WholePart ds) :
    ∃ c cs, ds = c :: cs ∧ c.isDigit = true := by
  cases ds with
  | nil => exact absurd rfl h.ne_nil
  | cons c cs => exact ⟨c, cs, rfl, h.isDigit c List.mem_cons_self⟩

/-- An integer of at most 4300 digits is read back. -/
theorem reads_int (room : Nat) {n : Int} (h : (toString n.natAbs).toList.length ≤ 4300) :
    Reads room (toString n).toList (.int n) := by
  cases n with
  | ofNat k =>
      have htext : toString (Int.ofNat k) = toString k := rfl
      have habs : (Int.ofNat k).natAbs = k := rfl
      have hwhole := wholePart_natText k
      have hvalue := natOfDigits_natText k
      rw [habs] at h
      rw [htext]
      generalize (toString k).toList = ds at h hwhole hvalue
      rcases hwhole.exists_cons with ⟨c, cs, rfl, hc⟩
      apply Reads.of_atom ⟨c, cs, rfl, .inl hc⟩
      intro rest hrest
      rw [List.cons_append, scanAtom_of_digit hc, ← List.cons_append,
        matchNumber_digits hwhole hrest h, hvalue]
      rfl
  | negSucc k =>
      have htext : toString (Int.negSucc k) = "-" ++ toString (k + 1) := rfl
      have habs : (Int.negSucc k).natAbs = k + 1 := rfl
      have hminus : "-".toList = ['-'] := rfl
      have hwhole := wholePart_natText (k + 1)
      have hvalue := natOfDigits_natText (k + 1)
      rw [habs] at h
      rw [htext, String.toList_append, hminus]
      generalize (toString (k + 1)).toList = ds at h hwhole hvalue
      rcases hwhole.exists_cons with ⟨c, cs, rfl, hc⟩
      apply Reads.of_atom ⟨'-', c :: cs, rfl, .inr (by simp)⟩
      intro rest hrest
      rw [List.cons_append, List.cons_append, scanAtom_of_minus hc, ← List.cons_append,
        matchNumber_digits hwhole hrest h, hvalue]
      rfl

/-- A numeral with a fraction or an exponent is read as the float at its value, with or without a
minus. -/
theorem reads_numeral (room : Nat) {t : List Char} {value : ℚ} (h : FloatNumeral t value) :
    Reads room t (.float (floatLiteral value)) ∧
      Reads room ('-' :: t) (.float (floatLiteral (-value))) := by
  rcases h with ⟨whole, fraction, exponent, rfl, hwhole, hfraction, hexponent, hne, rfl⟩
  have hfloat : ¬ (fraction = [] ∧ exponent = []) := fun hnone =>
    hne.elim (fun h => h hnone.1) fun h => h hnone.2
  rcases hwhole.exists_cons with ⟨c, cs, rfl, hc⟩
  constructor
  · refine Reads.of_atom ⟨c, cs ++ (fraction ++ exponent), rfl, .inl hc⟩ ?_
    intro rest hrest
    rw [List.append_assoc, List.append_assoc, List.cons_append, scanAtom_of_digit hc,
      ← List.cons_append, matchNumber_numeral _ hwhole hfraction hexponent hrest, if_neg hfloat]
    rfl
  · refine Reads.of_atom ⟨'-', c :: (cs ++ (fraction ++ exponent)), rfl, .inr (by simp)⟩ ?_
    intro rest hrest
    rw [List.cons_append, List.append_assoc, List.append_assoc, List.cons_append,
      scanAtom_of_minus hc, ← List.cons_append,
      matchNumber_numeral _ hwhole hfraction hexponent hrest, if_neg hfloat]
    rfl

/-- The decimal value that is written for a positive one. -/
def writtenValue (q : ℚ) : ℚ :=
  (shortestDigits q 17 1).1 * 10 ^ (shortestDigits q 17 1).2

/-- The float that the text of a float is read as. -/
def reread : PyFloat → PyFloat
  | .finite q =>
      if q = 0 then floatLiteral 0
      else if q < 0 then floatLiteral (-writtenValue (-q))
      else floatLiteral (writtenValue q)
  | f => f

/-- A float is read as a float. -/
theorem reads_float (room : Nat) (f : PyFloat) :
    Reads room (floatLiteralText f).toList (.float (reread f)) := by
  have hconstant {t : List Char} {g : PyFloat} (c : Char) (cs : List Char) (ht : t = c :: cs)
      (hc : IsAtomHead c) (hscan : ∀ rest, scanAtom (t ++ rest) = .ok (.float g, rest)) :
      Reads room t (.float g) :=
    Reads.of_atom ⟨c, cs, ht, hc⟩ fun rest _ => hscan rest
  cases f with
  | finite q =>
      unfold floatLiteralText floatText reread
      dsimp only
      split
      · have hzero : FloatNumeral "0.0".toList 0 := by
          refine ⟨['0'], ['.', '0'], [], rfl, wholePart_singleton rfl,
            .inr ⟨['0'], rfl, by simp, by decide⟩, .inl rfl, .inl (by simp), ?_⟩
          have hdigits : natOfDigits (['0'] ++ ['.', '0'].tail) = 0 := by decide
          rw [numeralValue_nil, hdigits]
          simp
        exact (reads_numeral room hzero).1
      · rename_i hne
        split
        · rename_i hneg
          have hminus : "-".toList = ['-'] := rfl
          rw [String.toList_append, hminus]
          exact (reads_numeral room (floatNumeral_positiveRepr (neg_pos.2 hneg))).2
        · rename_i hnot
          have hpos : 0 < q := lt_of_le_of_ne (not_lt.1 hnot) (Ne.symm hne)
          exact (reads_numeral room (floatNumeral_positiveRepr hpos)).1
  | infinite negative =>
      cases negative with
      | false => exact hconstant 'I' "nfinity".toList rfl (.inr (by simp)) fun _ => rfl
      | true => exact hconstant '-' "Infinity".toList rfl (.inr (by simp)) fun _ => rfl
  | nan => exact hconstant 'N' "aN".toList rfl (.inr (by simp)) fun _ => rfl

/-- A string literal is read back. -/
theorem reads_quote (room : Nat) (s : String) : Reads room (quote s).toList (.str s) := by
  rw [toList_quote, quoteChars]
  constructor
  · exact ⟨'"', _, rfl, by decide, by decide⟩
  · intro steps rest hsteps _
    cases steps with
    | zero => simp at hsteps
    | succ steps =>
        rw [List.cons_append, List.cons_append, List.append_assoc, List.singleton_append, scanOnce,
          scanString_quote]
        dsimp only
        rw [joinSurrogates_utf16, String.ofList_toList]

/-! ## Containers -/

theorem toList_joinComma_singleton (t : String) : (joinComma [t]).toList = t.toList := by
  rw [joinComma, String.intercalate_singleton]

theorem toList_joinComma_cons (t u : String) (ts : List String) :
    (joinComma (t :: u :: ts)).toList = t.toList ++ ',' :: (joinComma (u :: ts)).toList := by
  rw [joinComma, String.intercalate_cons_cons, String.toList_append, String.toList_append,
    List.append_assoc]
  rfl

/-- A joined text starts as its first text. -/
theorem exists_toList_joinComma (t : String) (ts : List String) :
    ∃ rest, (joinComma (t :: ts)).toList = t.toList ++ rest := by
  cases ts with
  | nil => exact ⟨[], by rw [toList_joinComma_singleton, List.append_nil]⟩
  | cons u ts => exact ⟨_, toList_joinComma_cons t u ts⟩

theorem skipWhitespace_cons {c : Char} (h : isWhitespace c = false) (cs : List Char) :
    skipWhitespace (c :: cs) = c :: cs := by
  simp [skipWhitespace, h]

/-- The elements of a list are read one after the other. -/
theorem scanElements_joinComma {room : Nat} {texts : List String} {ws : List PyVal}
    (h : List.Forall₂ (fun t w => Reads room t.toList w) texts ws) (hne : texts ≠ [])
    (steps : Nat) (done : List PyVal) (rest : List Char)
    (hsteps : 2 * (joinComma texts).toList.length + 1 ≤ steps) :
    scanElements steps room done ((joinComma texts).toList ++ ']' :: rest) =
      .ok (.list (done ++ ws), rest) := by
  induction h generalizing steps done with
  | nil => exact absurd rfl hne
  | @cons t w ts ws ht hts ih =>
      cases steps with
      | zero => omega
      | succ steps =>
          cases hts with
          | nil =>
              rw [toList_joinComma_singleton] at hsteps ⊢
              rw [scanElements, ht.scan steps (']' :: rest) (by omega) (by simp [Ends])]
              simp only [skipWhitespace_cons (c := ']') rfl]
          | @cons u v us vs hu hus =>
              have hlength := ht.length_pos
              rw [toList_joinComma_cons, List.length_append, List.length_cons] at hsteps
              rcases exists_toList_joinComma u us with ⟨after, hafter⟩
              have hskip : skipWhitespace ((joinComma (u :: us)).toList ++ ']' :: rest) =
                  (joinComma (u :: us)).toList ++ ']' :: rest := by
                rw [hafter, List.append_assoc]
                exact hu.skip _
              have hrest := ih (List.cons_ne_nil u us) steps (done ++ [w]) (by omega)
              rw [toList_joinComma_cons, List.append_assoc, List.cons_append, scanElements,
                ht.scan steps _ (by omega) (by simp [Ends])]
              simp only [skipWhitespace_cons (c := ',') rfl, hskip]
              rw [hrest, List.append_assoc, List.singleton_append]

/-- A text that is read begins with no closing bracket. -/
theorem Reads.ne_close {room : Nat} {t : List Char} {w : PyVal} (h : Reads room t w)
    {c : Char} (hc : c ∈ [']', '\x7d', '\ufeff']) (cs rest : List Char) : t ++ cs ≠ c :: rest := by
  rcases h.first with ⟨d, ds, rfl, -, hd⟩
  intro heq
  rw [(List.cons.inj heq).1] at hd
  exact hd hc

/-- A list of texts that are read is read. -/
theorem Reads.list {room : Nat} {texts : List String} {ws : List PyVal}
    (h : List.Forall₂ (fun t w => Reads room t.toList w) texts ws) :
    Reads (room + 1) ('[' :: (joinComma texts).toList ++ [']']) (.list ws) := by
  constructor
  · exact ⟨'[', _, rfl, rfl, by decide⟩
  · intro steps rest hsteps _
    cases steps with
    | zero => simp at hsteps
    | succ steps =>
        rw [List.append_assoc, List.singleton_append, List.cons_append, scanOnce]
        cases h with
        | nil =>
            have hempty : (joinComma []).toList = [] := rfl
            rw [hempty, List.nil_append]
            simp only [skipWhitespace_cons (c := ']') rfl]
        | @cons t w ts ws ht hts =>
            rcases exists_toList_joinComma t ts with ⟨after, hafter⟩
            have hskip : skipWhitespace ((joinComma (t :: ts)).toList ++ ']' :: rest) =
                (joinComma (t :: ts)).toList ++ ']' :: rest := by
              rw [hafter, List.append_assoc]
              exact ht.skip _
            have hread := scanElements_joinComma (.cons ht hts) (List.cons_ne_nil t ts) steps []
              rest (by simp at hsteps ⊢; omega)
            rw [hskip]
            split
            · rename_i hclose
              rw [hafter, List.append_assoc] at hclose
              exact absurd hclose (ht.ne_close (by simp) _ _)
            · exact hread

/-- The members of an object that has been read, with a later one replacing an earlier one. -/
def setAll (done : PyDict) (members : List (String × PyVal)) : PyDict :=
  members.foldl (fun d m => PyDict.set d m.1 m.2) done

/-- A name, a colon and a value. -/
theorem toList_fieldText (f : String × String) :
    (fieldText f).toList = quoteChars f.1.toList ++ ':' :: f.2.toList := by
  simp [fieldText, toList_quote]

/-- A member of an object is read as its name and its value. -/
def ReadsMember (room : Nat) (f : String × String) (m : String × PyVal) : Prop :=
  f.1 = m.1 ∧ Reads room f.2.toList m.2

/-- One member is scanned, up to the comma or the end. -/
theorem scanMembers_cons {room : Nat} {f : String × String} {m : String × PyVal}
    (h : ReadsMember room f m) (steps : Nat) (done : PyDict) {c : Char} (rest : List Char)
    (hc : c = ',' ∨ c = '\x7d') (hsteps : 2 * (fieldText f).toList.length ≤ steps) :
    scanMembers (steps + 1) room done ((fieldText f).toList ++ c :: rest) =
      if c = ',' then scanMembers steps room (PyDict.set done m.1 m.2) (skipWhitespace rest)
      else .ok (.dict (PyDict.set done m.1 m.2), rest) := by
  rcases h with ⟨hname, hread⟩
  have hends : Ends (c :: rest) := by
    intro d hd
    obtain rfl : c = d := Option.some.inj hd
    rcases hc with rfl | rfl <;> simp
  have hblank : isWhitespace c = false := by
    rcases hc with rfl | rfl <;> rfl
  have hvalue := hread.scan steps (c :: rest)
    (by rw [toList_fieldText, List.length_append, List.length_cons] at hsteps; omega) hends
  have htext : (fieldText f).toList ++ c :: rest =
      '"' :: (f.1.toList.flatMap escapeChar ++ '"' :: ':' :: (f.2.toList ++ c :: rest)) := by
    simp [toList_fieldText, quoteChars]
  rw [htext, scanMembers, scanString_quote]
  simp only [skipWhitespace_cons (c := ':') rfl, hread.skip, hvalue, skipWhitespace_cons hblank,
    joinSurrogates_utf16, String.ofList_toList, hname]
  rcases hc with rfl | rfl <;> rfl

/-- The members of an object are read one after the other. -/
theorem scanMembers_joinComma {room : Nat} {fields : List (String × String)}
    {members : List (String × PyVal)} (h : List.Forall₂ (ReadsMember room) fields members)
    (hne : fields ≠ []) (steps : Nat) (done : PyDict) (rest : List Char)
    (hsteps : 2 * (joinComma (fields.map fieldText)).toList.length + 1 ≤ steps) :
    scanMembers steps room done ((joinComma (fields.map fieldText)).toList ++ '\x7d' :: rest) =
      .ok (.dict (setAll done members), rest) := by
  induction h generalizing steps done with
  | nil => exact absurd rfl hne
  | @cons f m fs ms hf hfs ih =>
      cases steps with
      | zero => omega
      | succ steps =>
          cases hfs with
          | nil =>
              rw [List.map_singleton, toList_joinComma_singleton] at hsteps ⊢
              rw [scanMembers_cons hf steps done rest (.inr rfl) (by omega)]
              rfl
          | @cons g n gs ns hg hgs =>
              have hnonempty : 0 < (fieldText f).toList.length := by
                rw [toList_fieldText]
                simp [quoteChars]
              rw [List.map_cons, List.map_cons, toList_joinComma_cons, List.length_append,
                List.length_cons] at hsteps
              rcases exists_toList_joinComma (fieldText g) (gs.map fieldText) with ⟨after, hafter⟩
              have hskip : skipWhitespace
                  ((joinComma (fieldText g :: gs.map fieldText)).toList ++ '\x7d' :: rest) =
                    (joinComma (fieldText g :: gs.map fieldText)).toList ++ '\x7d' :: rest := by
                rw [hafter, toList_fieldText]
                exact skipWhitespace_cons rfl _
              have hrest := ih (List.cons_ne_nil g gs) steps (PyDict.set done m.1 m.2)
                (by rw [List.map_cons]; omega)
              rw [List.map_cons] at hrest
              rw [List.map_cons, List.map_cons, toList_joinComma_cons, List.append_assoc,
                List.cons_append, scanMembers_cons hf steps done _ (.inl rfl) (by omega),
                if_pos rfl, hskip, hrest]
              rfl

/-- An object of members that are read is read. -/
theorem Reads.dict {room : Nat} {fields : List (String × String)}
    {members : List (String × PyVal)} (h : List.Forall₂ (ReadsMember room) fields members) :
    Reads (room + 1) ('\x7b' :: (joinComma (fields.map fieldText)).toList ++ ['\x7d'])
      (.dict (setAll [] members)) := by
  constructor
  · exact ⟨'\x7b', _, rfl, rfl, by decide⟩
  · intro steps rest hsteps _
    cases steps with
    | zero => simp at hsteps
    | succ steps =>
        rw [List.append_assoc, List.singleton_append, List.cons_append, scanOnce]
        cases h with
        | nil =>
            have hempty : (joinComma ([].map fieldText)).toList = [] := rfl
            rw [hempty, List.nil_append]
            simp only [skipWhitespace_cons (c := '\x7d') rfl]
            rfl
        | @cons f m fs ms hf hfs =>
            rcases exists_toList_joinComma (fieldText f) (fs.map fieldText) with ⟨after, hafter⟩
            have hquote : ∃ cs, (joinComma ((f :: fs).map fieldText)).toList ++ '\x7d' :: rest =
                '"' :: cs := by
              rw [List.map_cons, hafter, toList_fieldText]
              exact ⟨_, rfl⟩
            have hread := scanMembers_joinComma (.cons hf hfs) (List.cons_ne_nil f fs) steps [] rest
              (by simp at hsteps ⊢; omega)
            rcases hquote with ⟨cs, hcs⟩
            rw [hcs] at hread ⊢
            rw [skipWhitespace_cons rfl]
            exact hread

theorem exists_members {room : Nat} {fields : List (String × String)}
    (h : ∀ f ∈ fields, ∃ w, Reads room f.2.toList w) :
    ∃ members, List.Forall₂ (ReadsMember room) fields members := by
  induction fields with
  | nil => exact ⟨[], .nil⟩
  | cons f fields ih =>
      rcases h f List.mem_cons_self with ⟨w, hw⟩
      rcases ih fun g hg => h g (List.mem_cons_of_mem f hg) with ⟨members, hmembers⟩
      exact ⟨(f.1, w) :: members, .cons ⟨rfl, hw⟩ hmembers⟩

/-! ## Values -/

mutual

/-- The integers in a value have at most 4300 digits. -/
def intsFit : PyVal → Bool
  | .none | .bool _ | .float _ | .str _ | .datetime _ | .scalar _ => true
  | .int n => (toString n.natAbs).toList.length ≤ 4300
  | .list vs => intsFitList vs
  | .dict fields => intsFitFields fields

def intsFitList : List PyVal → Bool
  | [] => true
  | v :: vs => intsFit v && intsFitList vs

def intsFitFields : List (String × PyVal) → Bool
  | [] => true
  | (_, v) :: fields => intsFit v && intsFitFields fields

end

mutual

/-- The text of a value is read, given room for its nesting. -/
theorem exists_reads_encode {o : DumpOptions} {v : PyVal} {text : String} {room : Nat}
    (h : encode o v = .ok text) (hdepth : depth v ≤ room) (hints : intsFit v = true) :
    ∃ w, Reads room text.toList w := by
  cases v with
  | none =>
      cases h
      exact ⟨.none, Reads.of_atom ⟨'n', _, rfl, .inr (by simp)⟩ fun _ _ => rfl⟩
  | bool b =>
      cases h
      cases b with
      | false => exact ⟨.bool false, Reads.of_atom ⟨'f', _, rfl, .inr (by simp)⟩ fun _ _ => rfl⟩
      | true => exact ⟨.bool true, Reads.of_atom ⟨'t', _, rfl, .inr (by simp)⟩ fun _ _ => rfl⟩
  | int n =>
      cases h
      exact ⟨.int n, reads_int room (of_decide_eq_true hints)⟩
  | float f =>
      cases h
      exact ⟨.float (reread f), reads_float room f⟩
  | str s =>
      cases h
      exact ⟨.str s, reads_quote room s⟩
  | datetime d =>
      rw [encode] at h
      rcases bind_eq_ok.1 h with ⟨t, -, ht⟩
      cases ht
      exact ⟨.str t, reads_quote room t⟩
  | scalar v =>
      rw [encode] at h
      rcases bind_eq_ok.1 h with ⟨t, -, ht⟩
      cases ht
      exact ⟨.str t, reads_quote room t⟩
  | list vs =>
      rw [encode] at h
      rcases bind_eq_ok.1 h with ⟨texts, htexts, ht⟩
      cases ht
      cases room with
      | zero => simp [depth] at hdepth
      | succ room =>
          rcases exists_reads_encodeList htexts (Nat.le_of_succ_le_succ hdepth) hints with ⟨ws, hws⟩
          refine ⟨.list ws, ?_⟩
          rw [String.toList_append, String.toList_append]
          exact Reads.list hws
  | dict fields =>
      rw [encode] at h
      rcases bind_eq_ok.1 h with ⟨texts, htexts, ht⟩
      cases ht
      cases room with
      | zero => simp [depth] at hdepth
      | succ room =>
          have hread := exists_reads_encodeFields htexts (Nat.le_of_succ_le_succ hdepth) hints
          have hsorted : ∀ f ∈ (if o.sortKeys then sortFields texts else texts),
              ∃ w, Reads room f.2.toList w := by
            intro f hf
            split at hf
            · exact hread f (mem_sortFields.1 hf)
            · exact hread f hf
          rcases exists_members hsorted with ⟨members, hmembers⟩
          refine ⟨.dict (setAll [] members), ?_⟩
          rw [String.toList_append, String.toList_append]
          exact Reads.dict hmembers

theorem exists_reads_encodeList {o : DumpOptions} {vs : List PyVal} {texts : List String}
    {room : Nat} (h : encodeList o vs = .ok texts) (hdepth : depthList vs ≤ room)
    (hints : intsFitList vs = true) :
    ∃ ws, List.Forall₂ (fun t w => Reads room t.toList w) texts ws := by
  cases vs with
  | nil =>
      cases h
      exact ⟨[], .nil⟩
  | cons v vs =>
      rw [intsFitList, Bool.and_eq_true] at hints
      rw [encodeList] at h
      rcases bind_eq_ok.1 h with ⟨t, ht, hrest⟩
      rcases bind_eq_ok.1 hrest with ⟨ts, hts, hcons⟩
      cases hcons
      rcases exists_reads_encode ht ((le_max_left _ _).trans hdepth) hints.1 with ⟨w, hw⟩
      rcases exists_reads_encodeList hts ((le_max_right _ _).trans hdepth) hints.2 with ⟨ws, hws⟩
      exact ⟨w :: ws, .cons hw hws⟩

theorem exists_reads_encodeFields {o : DumpOptions} {fields : List (String × PyVal)}
    {texts : List (String × String)} {room : Nat} (h : encodeFields o fields = .ok texts)
    (hdepth : depthFields fields ≤ room) (hints : intsFitFields fields = true) :
    ∀ f ∈ texts, ∃ w, Reads room f.2.toList w := by
  cases fields with
  | nil =>
      cases h
      simp
  | cons f fields =>
      rcases f with ⟨key, v⟩
      rw [intsFitFields, Bool.and_eq_true] at hints
      rw [encodeFields] at h
      rcases bind_eq_ok.1 h with ⟨t, ht, hrest⟩
      rcases bind_eq_ok.1 hrest with ⟨ts, hts, hcons⟩
      cases hcons
      have hfirst := exists_reads_encode ht ((le_max_left _ _).trans hdepth) hints.1
      have hothers := exists_reads_encodeFields hts ((le_max_right _ _).trans hdepth) hints.2
      exact List.forall_mem_cons.2 ⟨hfirst, hothers⟩

end

/-- A text that is read is loaded. -/
theorem loads_of_reads {room : Nat} {text : String} {w : PyVal} (h : Reads room text.toList w) :
    loads room text = .ok w := by
  have hskip := h.skip []
  have hscan := h.scan (2 * text.toList.length + 2) [] (by omega) (by simp [Ends])
  rw [List.append_nil] at hskip hscan
  have hmark := fun rest => h.ne_close (c := '\ufeff') (by simp) [] rest
  simp only [List.append_nil] at hmark
  unfold loads
  split
  · rename_i heq
    exact absurd heq (hmark _)
  · rw [hskip, hscan]
    rfl

/-- What has been written is loaded, given room for its nesting. -/
theorem exists_loads_encode {o : DumpOptions} {v : PyVal} {text : String} {room : Nat}
    (h : encode o v = .ok text) (hdepth : depth v ≤ room) (hints : intsFit v = true) :
    ∃ w, loads room text = .ok w := by
  rcases exists_reads_encode h hdepth hints with ⟨w, hw⟩
  exact ⟨w, loads_of_reads hw⟩

end PyJson
end Library
end StrategyWorker
