import StrategyWorker.Library.Calendar
import StrategyWorker.Library.PyText

/-!
# Texts of datetimes, read back

{lit}`isoformat` writes a datetime in fixed places: four digits of the year, two of
each other field, six of the microseconds when there are any, and the offset.
{lit}`fromisoformat` reads the same places.  For a datetime in UTC the two are
inverse; the spelling with a {lit}`Z` for the offset differs only in its end.

Main results:

- Theorem {lit}`fromisoformat_text`: the text of a date and a time of day is read
  as that date and time, in UTC.
- Theorem {lit}`fromisoformat_isoformat`: the text of a datetime in UTC is read back.
- Theorem {lit}`replace_offset`, Theorem {lit}`dropRight_zulu`: from the offset to
  the {lit}`Z` and back.
-/

namespace StrategyWorker
namespace Library

/-! ## Digits -/

namespace PyDateTime

/-- A list of digits with a value. -/
structure DigitsOf (n width : Nat) (ds : List Char) : Prop where
  length : ds.length = width
  isDigit : ∀ c ∈ ds, c.isDigit = true
  value : Nat.ofDigitChars 10 ds 0 = n

theorem toList_toString (n : Nat) : (toString n).toList = Nat.toDigits 10 n := by
  rw [Nat.toString_eq_ofList_toDigits, String.toList_ofList]

theorem length_toString (n : Nat) : (toString n).length = (Nat.toDigits 10 n).length := by
  rw [← String.length_toList, toList_toString]

theorem digitsOf_toString (n : Nat) : DigitsOf n (Nat.toDigits 10 n).length (Nat.toDigits 10 n) where
  length := rfl
  isDigit _ hc := Nat.isDigit_of_mem_toDigits (by decide) (by decide) hc
  value := Nat.ofDigitChars_ten_toDigits

theorem digitsOf_padded {width n : Nat} (h : n < 10 ^ width) (hw : 0 < width) :
    DigitsOf n width (padded width n).toList := by
  have hlen : (Nat.toDigits 10 n).length ≤ width := (Nat.length_toDigits_le_iff (by decide) hw).2 h
  have htext : (padded width n).toList =
      List.replicate (width - (Nat.toDigits 10 n).length) '0' ++ Nat.toDigits 10 n := by
    rw [padded, String.toList_append, String.toList_ofList, toList_toString, length_toString]
  constructor
  · rw [htext, List.length_append, List.length_replicate]
    omega
  · intro c hc
    rw [htext] at hc
    rcases List.mem_append.1 hc with hc | hc
    · rw [(List.mem_replicate.1 hc).2]
      decide
    · exact (digitsOf_toString n).isDigit c hc
  · rw [htext, Nat.ofDigitChars_append, Nat.ofDigitChars_replicate_zero, Nat.mul_zero]
    exact Nat.ofDigitChars_ten_toDigits

theorem digitsOf_twoDigits {n : Nat} (h : n < 100) : DigitsOf n 2 (twoDigits n).toList := by
  have hpadded : (twoDigits n).toList = (padded 2 n).toList := by
    rw [padded, String.toList_append, String.toList_ofList, length_toString]
    unfold twoDigits
    split
    · rename_i hsmall
      have hone : (Nat.toDigits 10 n).length = 1 := by rw [Nat.toDigits_of_lt_base hsmall]; rfl
      rw [hone, String.toList_append]
      rfl
    · rename_i hlarge
      have hle := (Nat.length_toDigits_le_iff (n := n) (k := 1) (b := 10) (by decide) (by decide)).1
      have htwo : 2 - (Nat.toDigits 10 n).length = 0 := by
        by_contra hne
        have := hle (by omega)
        omega
      rw [htwo]
      rfl
  rw [hpadded]
  exact digitsOf_padded h (by decide)

/-- Reading digits from where they stand. -/
theorem parseDigits_eq {cs ds rest : List Char} {p acc : Nat} (h : cs.drop p = ds ++ rest)
    (hds : ∀ c ∈ ds, c.isDigit = true) :
    parseDigits cs ds.length p acc = some (Nat.ofDigitChars 10 ds acc, p + ds.length) := by
  induction ds generalizing p acc with
  | nil => simp [parseDigits]
  | cons d ds ih =>
      have hchar : charAt cs p = d := by
        have hget : (cs.drop p)[0]? = some d := by rw [h]; rfl
        rw [List.getElem?_drop, Nat.add_zero] at hget
        simp [charAt, hget]
      have hrest : cs.drop (p + 1) = ds ++ rest := by
        rw [← List.drop_drop, h]
        rfl
      have hd := hds d List.mem_cons_self
      unfold parseDigits
      simp only [hchar, hd, if_true, List.length_cons]
      rw [ih hrest fun c hc => hds c (List.mem_cons_of_mem _ hc), Nat.ofDigitChars_cons,
        Nat.mul_comm acc 10]
      congr 2
      omega

/-- The digits of a number, read from where they stand. -/
theorem DigitsOf.parse {cs ds rest : List Char} {n width p : Nat} (hds : DigitsOf n width ds)
    (h : cs.drop p = ds ++ rest) : parseDigits cs width p 0 = some (n, p + width) := by
  have hparse : parseDigits cs ds.length p 0 = some (Nat.ofDigitChars 10 ds 0, p + ds.length) :=
    parseDigits_eq h hds.isDigit
  rwa [hds.length, hds.value] at hparse

/-! ## The text of a UTC datetime -/

/-- The parts of the text of a UTC datetime: the digits of its fields, and those of its
microseconds when there are any. -/
structure IsoParts where
  year : List Char
  month : List Char
  day : List Char
  hour : List Char
  minute : List Char
  second : List Char
  fraction : Option (List Char)

/-- The characters of the text up to the offset. -/
def IsoParts.body (i : IsoParts) : List Char :=
  i.year ++ '-' :: (i.month ++ '-' :: (i.day ++ 'T' :: (i.hour ++ ':' :: (i.minute ++ ':' ::
    (i.second ++ (i.fraction.elim [] ('.' :: ·)))))))

/-- The characters of the text. -/
def IsoParts.text (i : IsoParts) : List Char :=
  i.body ++ ['+', '0', '0', ':', '0', '0']

/-- Hours, minutes, seconds and microseconds. -/
structure TimeOfDay where
  hour : Nat
  minute : Nat
  second : Nat
  micros : Nat
  hour_lt : hour < 24
  minute_lt : minute < 60
  second_lt : second < 60
  micros_lt : micros < 1000000

def TimeOfDay.total (t : TimeOfDay) : Nat :=
  (t.hour * 3600 + t.minute * 60 + t.second) * 1000000 + t.micros

/-- The parts are those of a date and a time of day. -/
structure IsoParts.Denote (i : IsoParts) (year month day : Nat) (t : TimeOfDay) : Prop where
  year : DigitsOf year 4 i.year
  month : DigitsOf month 2 i.month
  day : DigitsOf day 2 i.day
  hour : DigitsOf t.hour 2 i.hour
  minute : DigitsOf t.minute 2 i.minute
  second : DigitsOf t.second 2 i.second
  fraction : match i.fraction with
    | none => t.micros = 0
    | some ds => DigitsOf t.micros 6 ds

theorem DigitsOf.two {n : Nat} {ds : List Char} (h : DigitsOf n 2 ds) : ∃ a b, ds = [a, b] :=
  List.length_eq_two.1 h.length

theorem DigitsOf.four {n : Nat} {ds : List Char} (h : DigitsOf n 4 ds) :
    ∃ a b c d, ds = [a, b, c, d] := by
  have hlen := h.length
  match ds, hlen with
  | [a, b, c, d], _ => exact ⟨a, b, c, d, rfl⟩

theorem DigitsOf.six {n : Nat} {ds : List Char} (h : DigitsOf n 6 ds) :
    ∃ a b c d e f, ds = [a, b, c, d, e, f] := by
  have hlen := h.length
  match ds, hlen with
  | [a, b, c, d, e, f], _ => exact ⟨a, b, c, d, e, f, rfl⟩

theorem ne_of_isDigit {c x : Char} (h : c.isDigit = true) (hx : x.isDigit = false) : c ≠ x := by
  rintro rfl
  rw [h] at hx
  cases hx

section

variable {i : IsoParts} {year month day : Nat} {t : TimeOfDay}

/-- Where the parts stand in the text. -/
structure IsoParts.Placed (i : IsoParts) : Prop where
  year : ∃ rest, i.text = i.year ++ '-' :: rest
  month : ∃ rest, i.text.drop 5 = i.month ++ '-' :: rest
  day : ∃ rest, i.text.drop 8 = i.day ++ 'T' :: rest
  hour : ∃ rest, i.text.drop 11 = i.hour ++ ':' :: rest
  minute : ∃ rest, i.text.drop 14 = i.minute ++ ':' :: rest
  second : i.text.drop 17 = i.second ++ (i.fraction.elim [] ('.' :: ·) ++
    ['+', '0', '0', ':', '0', '0'])

theorem IsoParts.Denote.placed (h : i.Denote year month day t) : i.Placed := by
  rcases i with ⟨y, m, d, hh, mm, ss, f⟩
  rcases h.year.four with ⟨y1, y2, y3, y4, hy⟩
  rcases h.month.two with ⟨m1, m2, hm⟩
  rcases h.day.two with ⟨d1, d2, hd⟩
  rcases h.hour.two with ⟨h1, h2, hh'⟩
  rcases h.minute.two with ⟨n1, n2, hn⟩
  rcases h.second.two with ⟨s1, s2, hs⟩
  dsimp only at hy hm hd hh' hn hs
  subst hy hm hd hh' hn hs
  exact ⟨⟨_, rfl⟩, ⟨_, rfl⟩, ⟨_, rfl⟩, ⟨_, rfl⟩, ⟨_, rfl⟩, rfl⟩

/-- A character behind digits. -/
theorem charAt_after {cs ds rest : List Char} {c : Char} {p : Nat} (h : cs.drop p = ds ++ c :: rest) :
    charAt cs (p + ds.length) = c := by
  have hget : (cs.drop p)[ds.length]? = some c := by rw [h]; simp
  rw [List.getElem?_drop] at hget
  simp [charAt, hget]

/-- The date is read back. -/
theorem parseDate_text (h : i.Denote year month day t) (hyear : 1 ≤ year)
    (hmonth : 1 ≤ month ∧ month ≤ 12) (hday : 1 ≤ day ∧ day ≤ daysInMonth year month) :
    separatorLocation i.text = some 10 ∧ parseDate i.text 10 = some (ymdToOrdinal year month day) := by
  rcases h.placed.year with ⟨_, hy⟩
  rcases h.placed.month with ⟨_, hm⟩
  rcases h.placed.day with ⟨_, hd⟩
  have hdash : charAt i.text 4 = '-' := by
    have hafter := charAt_after (p := 0) hy
    rwa [h.year.length] at hafter
  have hdash' : charAt i.text 7 = '-' := by
    have hafter := charAt_after hm
    rwa [h.month.length] at hafter
  have hnotWeek : charAt i.text 5 ≠ 'W' := by
    rcases h.month.two with ⟨m1, m2, hm'⟩
    have hdigit : m1.isDigit = true := h.month.isDigit m1 (by rw [hm']; exact List.mem_cons_self)
    rw [hm'] at hm
    have hchar : charAt i.text (5 + ([] : List Char).length) = m1 := charAt_after hm
    rw [List.length_nil, Nat.add_zero] at hchar
    rw [hchar]
    exact ne_of_isDigit hdigit rfl
  have hlong : i.text.length ≠ 7 := by
    intro hlen
    have hnil : i.text.drop 8 = [] := List.drop_eq_nil_of_le (by omega)
    rw [hd] at hnil
    simp at hnil
  constructor
  · simp [separatorLocation, hlong, hdash, hnotWeek]
  · have hy' : parseDigits i.text 4 0 0 = some (year, 4) := h.year.parse hy
    have hm' : parseDigits i.text 2 5 0 = some (month, 7) := h.month.parse hm
    have hd' : parseDigits i.text 2 8 0 = some (day, 10) := h.day.parse hd
    simp [parseDate, hy', hm', hd', hdash, hdash', hnotWeek, hyear, hmonth, hday]

/-- The time of day as it stands in the text. -/
def IsoParts.time (i : IsoParts) : List Char :=
  i.hour ++ ':' :: (i.minute ++ ':' :: (i.second ++ i.fraction.elim [] ('.' :: ·)))

theorem IsoParts.Denote.drop_time (h : i.Denote year month day t) :
    i.text.drop 11 = i.time ++ ['+', '0', '0', ':', '0', '0'] := by
  rcases i with ⟨y, m, d, hh, mm, ss, f⟩
  rcases h.year.four with ⟨y1, y2, y3, y4, hy⟩
  rcases h.month.two with ⟨m1, m2, hm⟩
  rcases h.day.two with ⟨d1, d2, hd⟩
  dsimp only at hy hm hd
  subst hy hm hd
  simp [IsoParts.text, IsoParts.body, IsoParts.time]

/-- No sign and no {lit}`Z` stands in the time of day. -/
theorem IsoParts.Denote.mem_time (h : i.Denote year month day t) {c : Char} (hc : c ∈ i.time) :
    c ≠ '+' ∧ c ≠ '-' ∧ c ≠ 'Z' := by
  have hdigit : c.isDigit = true → c ≠ '+' ∧ c ≠ '-' ∧ c ≠ 'Z' := fun hd =>
    ⟨ne_of_isDigit hd rfl, ne_of_isDigit hd rfl, ne_of_isDigit hd rfl⟩
  have hfraction := h.fraction
  simp only [IsoParts.time, List.mem_append, List.mem_cons] at hc
  rcases hc with hc | rfl | hc | rfl | hc | hc
  · exact hdigit (h.hour.isDigit c hc)
  · decide
  · exact hdigit (h.minute.isDigit c hc)
  · decide
  · exact hdigit (h.second.isDigit c hc)
  · cases hf : i.fraction with
    | none => simp [hf] at hc
    | some ds =>
        simp only [hf] at hc hfraction
        rcases List.mem_cons.1 hc with rfl | hc
        · decide
        · exact hdigit (hfraction.isDigit c hc)

/-- The offset stands behind the time of day. -/
theorem IsoParts.Denote.offsetPosition (h : i.Denote year month day t) :
    PyDateTime.offsetPosition i.text 11 = 11 + i.time.length := by
  unfold PyDateTime.offsetPosition
  rw [h.drop_time, List.takeWhile_append_of_pos]
  · simp
  · intro c hc
    simpa using h.mem_time hc

theorem IsoParts.Denote.length_time (h : i.Denote year month day t) :
    i.time.length = if i.fraction.isSome then 15 else 8 := by
  have hfraction := h.fraction
  simp only [IsoParts.time, List.length_append, List.length_cons, h.hour.length, h.minute.length,
    h.second.length]
  cases hf : i.fraction with
  | none => simp
  | some ds =>
      simp only [hf] at hfraction
      simp [hfraction.length]

/-- The time of day is read back. -/
theorem parseFields_time (h : i.Denote year month day t) :
    ∃ leftover, parseFields i.text (11 + i.time.length) 3 11 true [] =
      some ⟨[t.hour, t.minute, t.second], t.micros, leftover⟩ := by
  rcases h.placed.hour with ⟨_, hh⟩
  rcases h.placed.minute with ⟨_, hm⟩
  have hs := h.placed.second
  have hh' : parseDigits i.text 2 11 0 = some (t.hour, 13) := h.hour.parse hh
  have hm' : parseDigits i.text 2 14 0 = some (t.minute, 16) := h.minute.parse hm
  have hs' : parseDigits i.text 2 17 0 = some (t.second, 19) := h.second.parse hs
  have hcolon : charAt i.text 13 = ':' := by
    have hafter := charAt_after hh
    rwa [h.hour.length] at hafter
  have hcolon' : charAt i.text 16 = ':' := by
    have hafter := charAt_after hm
    rwa [h.minute.length] at hafter
  have hlen := h.length_time
  have hfraction := h.fraction
  cases hf : i.fraction with
  | none =>
      simp only [hf] at hlen hfraction
      have hplus : charAt i.text 19 = '+' := by
        rw [hf] at hs
        have hafter := charAt_after hs
        rwa [h.second.length] at hafter
      exact ⟨true, by simp [parseFields, hh', hm', hs', hcolon, hcolon', hlen, hplus, hfraction]⟩
  | some ds =>
      simp only [hf] at hlen hfraction
      have hpoint : charAt i.text 19 = '.' := by
        rw [hf] at hs
        have hafter := charAt_after hs
        rwa [h.second.length] at hafter
      have hfrac : i.text.drop 20 = ds ++ ['+', '0', '0', ':', '0', '0'] := by
        have hdrop : i.text.drop 20 = (i.text.drop 17).drop 3 := by rw [List.drop_drop]
        rw [hdrop, hs, hf]
        rcases h.second.two with ⟨s1, s2, hsecond⟩
        rw [hsecond]
        rfl
      have hfrac' : parseDigits i.text 6 20 0 = some (t.micros, 26) := hfraction.parse hfrac
      have hread (values : List Nat) : parseFraction i.text 26 20 values =
          some ⟨values, t.micros, charAt i.text (26 + digitsFrom i.text 26) ≠ '\x00'⟩ := by
        simp [parseFraction, hfrac']
      refine ⟨decide (charAt i.text (26 + digitsFrom i.text 26) ≠ '\x00'), ?_⟩
      simp [parseFields, hread, hh', hm', hs', hcolon, hcolon', hlen, hpoint]

/-- The characters from the offset on. -/
theorem IsoParts.Denote.drop_offset (h : i.Denote year month day t) :
    i.text.drop (11 + i.time.length) = ['+', '0', '0', ':', '0', '0'] := by
  rw [← List.drop_drop, h.drop_time, List.drop_left]

theorem IsoParts.Denote.length_text (h : i.Denote year month day t) :
    i.text.length = 11 + i.time.length + 6 := by
  have hlen := congrArg List.length h.drop_offset
  rw [List.length_drop] at hlen
  simp only [List.length_cons, List.length_nil] at hlen
  omega

/-- The offset is read back. -/
theorem parseFields_offset (h : i.Denote year month day t) :
    parseFields i.text i.text.length 3 (11 + i.time.length + 1) true [] =
      some ⟨[0, 0], 0, false⟩ := by
  have hat (k : Nat) : charAt i.text (11 + i.time.length + k) =
      (['+', '0', '0', ':', '0', '0'][k]?).getD '\x00' := by
    rw [← h.drop_offset, List.getElem?_drop]
    simp [charAt]
  have hlen := h.length_text
  generalize 11 + i.time.length = p at hat hlen
  have hhours : parseDigits i.text 2 (p + 1) 0 = some (0, p + 3) := by
    simp [parseDigits, hat 1, hat 2, Nat.add_assoc]
  have hminutes : parseDigits i.text 2 (p + 4) 0 = some (0, p + 6) := by
    simp [parseDigits, hat 4, hat 5, Nat.add_assoc]
  have hcolon : charAt i.text (p + 3) = ':' := hat 3
  have hend : charAt i.text (p + 6) = '\x00' := hat 6
  simp [parseFields, hhours, hminutes, hcolon, hend, hlen]

/-- The time and its offset are read back. -/
theorem parseTime_text (h : i.Denote year month day t) :
    parseTime i.text 11 = some ((t.total : Int), some 0) := by
  rcases parseFields_time h with ⟨leftover, htime⟩
  have hoffset := parseFields_offset h
  have hlen := h.length_text
  have hplus : charAt i.text (11 + i.time.length) = '+' := by
    have hdrop := h.drop_offset
    have hget : (i.text.drop (11 + i.time.length))[0]? = some '+' := by rw [hdrop]; rfl
    rw [List.getElem?_drop, Nat.add_zero] at hget
    simp [charAt, hget]
  have hend : 11 + i.time.length ≠ i.text.length := by omega
  have hrange : (⟨[t.hour, t.minute, t.second], t.micros, leftover⟩ : TimeFields).InRange := by
    have hhour := t.hour_lt
    have hminute := t.minute_lt
    have hsecond := t.second_lt
    simp only [TimeFields.InRange, List.getD_cons_zero, List.getD_cons_succ]
    omega
  have htotal : (⟨[t.hour, t.minute, t.second], t.micros, leftover⟩ : TimeFields).total =
      (t.total : Int) := by
    simp [TimeFields.total, TimeOfDay.total]
  simp [parseTime, h.offsetPosition, htime, hrange, hend, hplus, hoffset, htotal,
    TimeFields.seconds]

/-- The characters of the text are digits and a few signs. -/
theorem IsoParts.Denote.mem_body (h : i.Denote year month day t) {c : Char} (hc : c ∈ i.body) :
    c.isDigit = true ∨ c = '-' ∨ c = ':' ∨ c = 'T' ∨ c = '.' := by
  have hfraction := h.fraction
  simp only [IsoParts.body, List.mem_append, List.mem_cons] at hc
  cases hf : i.fraction with
  | none =>
      simp only [hf, Option.elim_none, List.not_mem_nil, or_false] at hc
      grind [h.year.isDigit c, h.month.isDigit c, h.day.isDigit c, h.hour.isDigit c,
        h.minute.isDigit c, h.second.isDigit c]
  | some ds =>
      simp only [hf, Option.elim_some, List.mem_cons] at hc hfraction
      grind [h.year.isDigit c, h.month.isDigit c, h.day.isDigit c, h.hour.isDigit c,
        h.minute.isDigit c, h.second.isDigit c, hfraction.isDigit c]

theorem utf8Size_of_isDigit {c : Char} (h : c.isDigit = true) : c.utf8Size = 1 := by
  have hvalue := (Char.isDigit_iff_toNat.1 h).2
  rw [Char.utf8Size_eq_one_iff, UInt32.le_iff_toNat_le]
  exact hvalue.trans (by decide)

theorem isSpace_of_isDigit {c : Char} (h : c.isDigit = true) : PyText.isSpace c = false := by
  have hvalue := Char.isDigit_iff_toNat.1 h
  have hzero : '0'.toNat = 48 := rfl
  have hnine : '9'.toNat = 57 := rfl
  simp only [PyText.isSpace, Bool.or_eq_false_iff, Bool.and_eq_false_iff, decide_eq_false_iff_not]
  omega

theorem IsoParts.Denote.utf8Size (h : i.Denote year month day t) {c : Char} (hc : c ∈ i.text) :
    c.utf8Size = 1 := by
  rcases List.mem_append.1 hc with hc | hc
  · rcases h.mem_body hc with hdigit | rfl | rfl | rfl | rfl
    · exact utf8Size_of_isDigit hdigit
    all_goals rfl
  · simp only [List.mem_cons, List.not_mem_nil, or_false] at hc
    rcases hc with rfl | rfl | rfl | rfl | rfl | rfl <;> rfl

theorem bytePositions_ofList {cs : List Char} (h : ∀ c ∈ cs, c.utf8Size = 1) :
    bytePositions (String.ofList cs) = cs := by
  rw [bytePositions, String.toList_ofList]
  induction cs with
  | nil => rfl
  | cons c cs ih =>
      rw [List.flatMap_cons, h c List.mem_cons_self, ih fun c' hc' => h c' (List.mem_cons_of_mem c hc')]
      rfl

/-- The text is read as the datetime that it shows. -/
theorem fromisoformat_text (h : i.Denote year month day t) (hyear : 1 ≤ year)
    (hmonth : 1 ≤ month ∧ month ≤ 12) (hday : 1 ≤ day ∧ day ≤ daysInMonth year month)
    (hrange : 1 ≤ ymdToOrdinal year month day ∧ ymdToOrdinal year month day ≤ maxOrdinal) :
    fromisoformat (String.ofList i.text) =
      ofWall? ((ymdToOrdinal year month day - 1) * microsPerDay + t.total) (some 0) := by
  rcases parseDate_text h hyear hmonth hday with ⟨hsep, hdate⟩
  have htime := parseTime_text h
  have hlen := h.length_text
  have hlong : ¬ i.text.length < 7 := by omega
  have hsep' : ¬ i.text.length ≤ 10 := by omega
  have hT : (charAt i.text 10).utf8Size = 1 := by
    rcases h.placed.day with ⟨_, hd⟩
    have hafter := charAt_after hd
    rw [h.day.length] at hafter
    rw [hafter]
    rfl
  simp [fromisoformat, bytePositions_ofList fun c hc => h.utf8Size hc, hlong, hsep, hdate, hsep', hT,
    htime, hrange]

end

/-! ## The text of a datetime -/

/-- The parts of {lit}`isoformat("T")`. -/
def isoParts (d : PyDateTime) : IsoParts :=
  let (year, month, day) := ordinalToYmd (d.wall / microsPerDay + 1)
  let micros := (d.wall % microsPerDay).toNat
  let seconds := micros / 1000000
  { year := (padded 4 year).toList
    month := (twoDigits month).toList
    day := (twoDigits day).toList
    hour := (twoDigits (seconds / 3600)).toList
    minute := (twoDigits (seconds / 60 % 60)).toList
    second := (twoDigits (seconds % 60)).toList
    fraction :=
      if micros % 1000000 = 0 then none else some (padded 6 (micros % 1000000)).toList }

/-- The time of day of a datetime. -/
def timeOfDay (d : PyDateTime) : TimeOfDay :=
  let micros := (d.wall % microsPerDay).toNat
  let seconds := micros / 1000000
  { hour := seconds / 3600
    minute := seconds / 60 % 60
    second := seconds % 60
    micros := micros % 1000000
    hour_lt := by
      have hlt : d.wall % microsPerDay < 86400000000 := Int.emod_lt_of_pos _ (by decide)
      omega
    minute_lt := Nat.mod_lt _ (by decide)
    second_lt := Nat.mod_lt _ (by decide)
    micros_lt := Nat.mod_lt _ (by decide) }

theorem total_timeOfDay (d : PyDateTime) : (d.timeOfDay.total : Int) = d.wall % microsPerDay := by
  have hnonneg : 0 ≤ d.wall % microsPerDay := Int.emod_nonneg _ (by decide)
  simp only [timeOfDay, TimeOfDay.total]
  omega

theorem isoformat_utc {d : PyDateTime} (hutc : d.utcoffset = some 0) :
    d.isoformat "T" = String.ofList d.isoParts.text := by
  have hoffset : offsetText 0 = "+00:00" := by decide +kernel
  apply String.toList_injective
  rw [String.toList_ofList]
  unfold isoformat isoParts IsoParts.text IsoParts.body
  rw [hutc, Option.elim_some, hoffset]
  dsimp only
  split <;> simp

/-- The parts denote the date and the time of day. -/
theorem isoParts_denote (d : PyDateTime) :
    ∃ year month day, d.isoParts.Denote year month day d.timeOfDay ∧ 1 ≤ year ∧
      (1 ≤ month ∧ month ≤ 12) ∧ (1 ≤ day ∧ day ≤ daysInMonth year month) ∧
      ymdToOrdinal year month day = d.wall / microsPerDay + 1 := by
  have hordinal : 1 ≤ d.wall / microsPerDay + 1 := by
    have hnonneg := Int.ediv_nonneg d.wall_range.1 (b := microsPerDay) (by decide)
    omega
  have hordinal' : d.wall / microsPerDay + 1 ≤ maxOrdinal := by
    have hlt := Int.ediv_lt_of_lt_mul (by decide) d.wall_range.2
    omega
  rcases ordinalToYmd_spec hordinal hordinal' with
    ⟨year, month, day, hymd, hyear, hyear', hmonth, hmonth', hday, hday', heq⟩
  have hshort : daysInMonth year month ≤ 31 := by
    unfold daysInMonth
    split <;> (try split) <;> omega
  refine ⟨year, month, day, ?_, hyear, ⟨hmonth, hmonth'⟩, ⟨hday, hday'⟩, heq⟩
  have hhour := d.timeOfDay.hour_lt
  have hminute := d.timeOfDay.minute_lt
  have hsecond := d.timeOfDay.second_lt
  have hmicros := d.timeOfDay.micros_lt
  simp only [timeOfDay] at hhour hminute hsecond hmicros
  constructor <;> simp only [isoParts, hymd, timeOfDay]
  · exact digitsOf_padded (by omega) (by decide)
  · exact digitsOf_twoDigits (by omega)
  · exact digitsOf_twoDigits (by omega)
  · exact digitsOf_twoDigits (by omega)
  · exact digitsOf_twoDigits (by omega)
  · exact digitsOf_twoDigits (by omega)
  · split <;> rename_i heq'
    · split at heq'
      · assumption
      · cases heq'
    · split at heq'
      · cases heq'
      · obtain rfl := Option.some.inj heq'
        exact digitsOf_padded (by omega) (by decide)

/-- The text of a datetime in UTC is read back. -/
theorem fromisoformat_isoformat {d : PyDateTime} (hutc : d.utcoffset = some 0) :
    fromisoformat (d.isoformat "T") = some d := by
  rcases isoParts_denote d with ⟨year, month, day, hdenote, hyear, hmonth, hday, hordinal⟩
  have hpos : 1 ≤ d.wall / microsPerDay + 1 ∧ d.wall / microsPerDay + 1 ≤ maxOrdinal := by
    have hnonneg := Int.ediv_nonneg d.wall_range.1 (b := microsPerDay) (by decide)
    have hlt := Int.ediv_lt_of_lt_mul (by decide) d.wall_range.2
    omega
  have hwall : (d.wall / microsPerDay + 1 - 1) * microsPerDay + d.timeOfDay.total = d.wall := by
    rw [total_timeOfDay, Int.add_sub_cancel]
    exact Int.ediv_mul_add_emod d.wall microsPerDay
  rw [isoformat_utc hutc, fromisoformat_text hdenote hyear hmonth hday (hordinal ▸ hpos), hordinal,
    hwall, ← hutc, ofWall?, dif_pos ⟨d.wall_range, d.offset_range⟩]

/-! ## With a {lit}`Z` for the offset -/

open PyText

/-- Nothing is replaced before the first occurrence of the first character. -/
theorem replaceFrom_append {c : Char} {cs : List Char} (old new rest : List Char) (h : c ∉ cs) :
    replaceFrom (c :: old) new 0 (cs ++ rest) = cs ++ replaceFrom (c :: old) new 0 rest := by
  induction cs with
  | nil => rfl
  | cons c' cs ih =>
      have hne : c ≠ c' := fun heq => h (heq ▸ List.mem_cons_self)
      have hrest := ih fun hmem => h (List.mem_cons_of_mem c' hmem)
      simp [replaceFrom, List.isPrefixOf, hne, hrest]

/-- A text up to its offset, read with a {lit}`Z` in place of the offset. -/
theorem replace_offset {d : PyDateTime} (hutc : d.utcoffset = some 0) :
    replace (d.isoformat "T") "+00:00" "Z" = String.ofList (d.isoParts.body ++ ['Z']) := by
  rcases isoParts_denote d with ⟨year, month, day, hdenote, -⟩
  have hsign : '+' ∉ d.isoParts.body := by
    intro hmem
    have hkind := hdenote.mem_body hmem
    revert hkind
    decide
  have htail : replaceFrom ['+', '0', '0', ':', '0', '0'] ['Z'] 0 ['+', '0', '0', ':', '0', '0'] =
      ['Z'] := by decide
  have hold : "+00:00".toList = ['+', '0', '0', ':', '0', '0'] := by decide
  have hnew : "Z".toList = ['Z'] := by decide
  rw [isoformat_utc hutc, replace, hold, hnew, String.toList_ofList, IsoParts.text,
    replaceFrom_append _ _ _ hsign, htail]

/-- The text with a {lit}`Z` is its own strip. -/
theorem trimmed_zulu (d : PyDateTime) : Trimmed (String.ofList (d.isoParts.body ++ ['Z'])) := by
  rcases isoParts_denote d with ⟨year, month, day, hdenote, -⟩
  rcases hdenote.year.four with ⟨y1, y2, y3, y4, hyear⟩
  have hdigit := hdenote.year.isDigit y1 (by rw [hyear]; exact List.mem_cons_self)
  unfold Trimmed
  rw [String.toList_ofList]
  constructor
  · rw [IsoParts.body, hyear]
    simp [isSpace_of_isDigit hdigit]
  · simp [isSpace]

/-- The offset in place of the {lit}`Z`. -/
theorem dropRight_zulu {d : PyDateTime} (hutc : d.utcoffset = some 0) :
    dropRight (String.ofList (d.isoParts.body ++ ['Z'])) 1 ++ "+00:00" = d.isoformat "T" := by
  rw [isoformat_utc hutc, dropRight, String.toList_ofList, List.length_append, List.length_singleton,
    Nat.add_sub_cancel, List.take_left]
  apply String.toList_injective
  simp [IsoParts.text]

theorem endsWith_zulu (d : PyDateTime) :
    endsWith (String.ofList (d.isoParts.body ++ ['Z'])) "Z" = true := by
  have hZ : "Z".toList = ['Z'] := by decide
  rw [endsWith, hZ, String.toList_ofList, List.isSuffixOf_iff_suffix]
  exact List.suffix_append _ _

end PyDateTime
end Library
end StrategyWorker
