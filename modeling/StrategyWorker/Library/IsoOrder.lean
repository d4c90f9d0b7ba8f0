import Mathlib.Data.List.Lex
import Mathlib.Data.String.Basic
import StrategyWorker.Library.IsoFormat

/-!
# The order of the texts of datetimes

A database that holds times as texts orders them character by character.  The
fields of a text stand in fixed places, from the year down to the seconds, so
that texts of different seconds are ordered as their seconds are.  After the
seconds a text has a point and six digits or none, and a {lit}`Z`; the point
comes before the {lit}`Z`, so that within one second the text without a fraction
is the last one.

Main results:

- Theorem {lit}`ymdToOrdinal_lt`: dates are ordered by year, month and day.
- Theorem {lit}`zulu_lt_of_second`: texts of different seconds.
- Theorem {lit}`zulu_lt_zulu_iff`: texts in order, except within one second where
  one of them has a fraction and the other none.
-/

namespace StrategyWorker
namespace Library
namespace PyDateTime

/-! ## Digits -/

/-- A list that comes first still does when texts of any length follow both. -/
theorem append_lt_append {as bs xs ys : List Char} (hlength : as.length = bs.length)
    (h : as < bs) : as ++ xs < bs ++ ys := by
  induction as generalizing bs with
  | nil =>
      obtain rfl : bs = [] := List.length_eq_zero_iff.1 hlength.symm
      exact absurd h (lt_irrefl _)
  | cons a as ih =>
      cases bs with
      | nil => cases hlength
      | cons b bs =>
          rw [List.cons_append, List.cons_append, List.cons_lt_cons_iff]
          rcases List.cons_lt_cons_iff.1 h with hfirst | ⟨hsame, hrest⟩
          · exact .inl hfirst
          · exact .inr ⟨hsame, ih (Nat.succ.inj hlength) hrest⟩

theorem digit_lt_ten {c : Char} (h : c.isDigit = true) :
    48 ≤ c.toNat ∧ c.toNat - '0'.toNat < 10 := by
  have hrange : 48 ≤ c.toNat ∧ c.toNat ≤ 57 := by
    simpa [Char.isDigit, UInt32.le_iff_toNat_le] using h
  have hzero : '0'.toNat = 48 := rfl
  omega

/-- The digits before decide which number is smaller. -/
theorem ofDigitChars_lt {ds es : List Char} {n m : Nat} (hlength : ds.length = es.length)
    (hds : ∀ c ∈ ds, c.isDigit = true) (h : n < m) :
    Nat.ofDigitChars 10 ds n < Nat.ofDigitChars 10 es m := by
  induction ds generalizing es n m with
  | nil =>
      obtain rfl : es = [] := List.length_eq_zero_iff.1 hlength.symm
      exact h
  | cons d ds ih =>
      cases es with
      | nil => cases hlength
      | cons e es =>
          have hd := digit_lt_ten (hds d List.mem_cons_self)
          rw [Nat.ofDigitChars_cons, Nat.ofDigitChars_cons]
          apply ih (Nat.succ.inj hlength) fun c hc => hds c (List.mem_cons_of_mem d hc)
          omega

/-- Digits of one length are ordered as the numbers that they stand for. -/
theorem digits_lt_iff {ds es : List Char} {n : Nat} (hlength : ds.length = es.length)
    (hds : ∀ c ∈ ds, c.isDigit = true) (hes : ∀ c ∈ es, c.isDigit = true) :
    ds < es ↔ Nat.ofDigitChars 10 ds n < Nat.ofDigitChars 10 es n := by
  induction ds generalizing es n with
  | nil =>
      obtain rfl : es = [] := List.length_eq_zero_iff.1 hlength.symm
      simp
  | cons d ds ih =>
      cases es with
      | nil => cases hlength
      | cons e es =>
          have hd := digit_lt_ten (hds d List.mem_cons_self)
          have he := digit_lt_ten (hes e List.mem_cons_self)
          have hzero : '0'.toNat = 48 := rfl
          have hlength' : ds.length = es.length := Nat.succ.inj hlength
          have hds' : ∀ c ∈ ds, c.isDigit = true := fun c hc => hds c (List.mem_cons_of_mem d hc)
          have hes' : ∀ c ∈ es, c.isDigit = true := fun c hc => hes c (List.mem_cons_of_mem e hc)
          have hchars : d < e ↔ d.toNat < e.toNat := UInt32.lt_iff_toNat_lt
          rw [List.cons_lt_cons_iff, Nat.ofDigitChars_cons, Nat.ofDigitChars_cons, hchars]
          rcases Nat.lt_trichotomy d.toNat e.toNat with hlt | heq | hgt
          · exact iff_of_true (.inl hlt) (ofDigitChars_lt hlength' hds' (by omega))
          · obtain rfl : d = e := Char.toNat_inj.1 heq
            rw [← ih hlength' hds' hes']
            simp
          · have hne : d ≠ e := fun heq => absurd (heq ▸ hgt) (lt_irrefl _)
            have hback := ofDigitChars_lt hlength'.symm hes'
              (n := 10 * n + (e.toNat - '0'.toNat)) (m := 10 * n + (d.toNat - '0'.toNat)) (by omega)
            apply iff_of_false
            · rintro (hlt | ⟨hsame, -⟩)
              · omega
              · exact hne hsame
            · omega

theorem DigitsOf.lt_iff {n m width : Nat} {ds es : List Char} (hds : DigitsOf n width ds)
    (hes : DigitsOf m width es) : ds < es ↔ n < m := by
  rw [digits_lt_iff (hds.length.trans hes.length.symm) hds.isDigit hes.isDigit (n := 0), hds.value,
    hes.value]

theorem DigitsOf.unique {n width : Nat} {ds es : List Char} (hds : DigitsOf n width ds)
    (hes : DigitsOf n width es) : ds = es := by
  rcases lt_trichotomy ds es with hlt | heq | hgt
  · exact absurd ((hds.lt_iff hes).1 hlt) (lt_irrefl n)
  · exact heq
  · exact absurd ((hes.lt_iff hds).1 hgt) (lt_irrefl n)

/-- A field decides the order of two texts, unless it is the same in both. -/
theorem DigitsOf.append_lt {n m width : Nat} {ds es xs ys : List Char} {c : Char}
    (hds : DigitsOf n width ds) (hes : DigitsOf m width es) (h : n < m ∨ n = m ∧ xs < ys) :
    ds ++ c :: xs < es ++ c :: ys := by
  rcases h with hlt | ⟨rfl, hrest⟩
  · exact append_lt_append (hds.length.trans hes.length.symm) ((hds.lt_iff hes).2 hlt)
  · rw [hds.unique hes]
    exact List.append_left_lt (List.cons_lt_cons_iff.2 (.inr ⟨rfl, hrest⟩))

/-! ## Dates -/

theorem daysBeforeYear_succ (year : Nat) :
    daysBeforeYear (year + 1) = daysBeforeYear year + daysInYear year := by
  unfold daysBeforeYear daysInYear
  by_cases hleap : isLeap year = true
  · rw [if_pos hleap]
    rw [isLeap_iff] at hleap
    push_cast
    omega
  · rw [if_neg hleap]
    rw [isLeap_iff] at hleap
    push_cast
    omega

/-- A month is over before a later one of the same year begins. -/
theorem daysBeforeMonth_lt (year : Nat) {month month' : Nat} (h : 1 ≤ month) (hlt : month < month') :
    daysBeforeMonth year month + daysInMonth year month ≤ daysBeforeMonth year month' := by
  induction month', hlt using Nat.le_induction with
  | base => exact (daysBeforeMonth_succ year month h).ge
  | succ m hm ih =>
      rw [daysBeforeMonth_succ year m (by omega)]
      omega

/-- A year is over before a later one begins. -/
theorem daysBeforeYear_lt {year year' : Nat} (hlt : year < year') :
    daysBeforeYear year + daysInYear year ≤ daysBeforeYear year' := by
  induction year', hlt using Nat.le_induction with
  | base => exact (daysBeforeYear_succ year).ge
  | succ y hy ih =>
      rw [daysBeforeYear_succ]
      omega

/-- A date of the calendar. -/
def IsDate (year month day : Nat) : Prop :=
  (1 ≤ month ∧ month ≤ 12) ∧ (1 ≤ day ∧ day ≤ daysInMonth year month)

/-- A date comes first in its year, month and day, in this order. -/
def DateLt (year month day year' month' day' : Nat) : Prop :=
  year < year' ∨ year = year' ∧ (month < month' ∨ month = month' ∧ day < day')

variable {year month day year' month' day' : Nat}

/-- Dates are ordered by year, month and day. -/
theorem ymdToOrdinal_lt (h : IsDate year month day) (h' : IsDate year' month' day')
    (hlt : DateLt year month day year' month' day') :
    ymdToOrdinal year month day < ymdToOrdinal year' month' day' := by
  rcases h with ⟨hmonth, hday⟩
  rcases h' with ⟨-, hday'⟩
  unfold ymdToOrdinal
  rcases hlt with hlt | ⟨rfl, hlt | ⟨rfl, hlt⟩⟩
  · have hyears := daysBeforeYear_lt hlt
    have hlast := daysBeforeMonth_year year
    have hmonths : daysBeforeMonth year month + daysInMonth year month ≤ daysInYear year := by
      rcases Nat.lt_or_eq_of_le hmonth.2 with hearly | rfl
      · have := daysBeforeMonth_lt year hmonth.1 hearly
        omega
      · exact hlast.le
    omega
  · have hmonths := daysBeforeMonth_lt year hmonth.1 hlt
    omega
  · omega

/-! ## Texts -/

/-- The characters of the text up to the seconds. -/
def IsoParts.head (i : IsoParts) : List Char :=
  i.year ++ '-' :: (i.month ++ '-' :: (i.day ++ 'T' :: (i.hour ++ ':' :: (i.minute ++ ':' ::
    i.second))))

/-- The characters of the text from the fraction on. -/
def IsoParts.tail (i : IsoParts) : List Char :=
  i.fraction.elim [] ('.' :: ·) ++ ['Z']

theorem IsoParts.body_zulu (i : IsoParts) : i.body ++ ['Z'] = i.head ++ i.tail := by
  simp [IsoParts.body, IsoParts.head, IsoParts.tail]

/-- The seconds from the start of year 1. -/
def second (d : PyDateTime) : Int :=
  d.wall / 1000000

/-- Microseconds within the second. -/
def microsecond (d : PyDateTime) : Int :=
  d.wall % 1000000

/-- The text with a {lit}`Z` for the offset. -/
def zulu (d : PyDateTime) : List Char :=
  d.isoParts.body ++ ['Z']

variable {d d' : PyDateTime}

theorem second_eq (d : PyDateTime) :
    d.second = d.wall / microsPerDay * 86400 +
      (d.timeOfDay.hour * 3600 + d.timeOfDay.minute * 60 + d.timeOfDay.second) := by
  have htotal := total_timeOfDay d
  have hmicros := d.timeOfDay.micros_lt
  unfold TimeOfDay.total at htotal
  unfold second
  unfold microsPerDay at htotal ⊢
  omega

theorem length_head (d : PyDateTime) : d.isoParts.head.length = 19 := by
  rcases isoParts_denote d with ⟨year, month, day, hdenote, -⟩
  simp [IsoParts.head, hdenote.year.length, hdenote.month.length, hdenote.day.length,
    hdenote.hour.length, hdenote.minute.length, hdenote.second.length]

/-- Texts of different seconds differ before the fraction. -/
theorem head_lt (h : d.second < d'.second) : d.isoParts.head < d'.isoParts.head := by
  rcases isoParts_denote d with ⟨year, month, day, hparts, -, hmonth, hday, hordinal⟩
  rcases isoParts_denote d' with ⟨year', month', day', hparts', -, hmonth', hday', hordinal'⟩
  have hhour := d'.timeOfDay.hour_lt
  have hminute := d.timeOfDay.minute_lt
  have hsecond := d.timeOfDay.second_lt
  have hminute' := d'.timeOfDay.minute_lt
  have hsecond' := d'.timeOfDay.second_lt
  rw [second_eq, second_eq] at h
  have hclock (hsame : d.wall / microsPerDay = d'.wall / microsPerDay) :
      d.timeOfDay.hour < d'.timeOfDay.hour ∨ d.timeOfDay.hour = d'.timeOfDay.hour ∧
        (d.timeOfDay.minute < d'.timeOfDay.minute ∨ d.timeOfDay.minute = d'.timeOfDay.minute ∧
          d.timeOfDay.second < d'.timeOfDay.second) := by
    omega
  have hdates : DateLt year month day year' month' day' ∨
      (year = year' ∧ month = month' ∧ day = day') ∨ DateLt year' month' day' year month day := by
    unfold DateLt
    omega
  rcases hdates with hlt | ⟨rfl, rfl, rfl⟩ | hgt
  · apply hparts.year.append_lt hparts'.year
    rcases hlt with hlt | ⟨heq, hlt⟩
    · exact .inl hlt
    · refine .inr ⟨heq, hparts.month.append_lt hparts'.month ?_⟩
      rcases hlt with hlt | ⟨heq, hlt⟩
      · exact .inl hlt
      · exact .inr ⟨heq, hparts.day.append_lt hparts'.day (.inl hlt)⟩
  · have htime := hclock (by omega)
    apply hparts.year.append_lt hparts'.year
    refine .inr ⟨rfl, hparts.month.append_lt hparts'.month (.inr ⟨rfl, ?_⟩)⟩
    refine hparts.day.append_lt hparts'.day (.inr ⟨rfl, hparts.hour.append_lt hparts'.hour ?_⟩)
    rcases htime with hlt | ⟨heq, hlt⟩
    · exact .inl hlt
    · refine .inr ⟨heq, hparts.minute.append_lt hparts'.minute ?_⟩
      rcases hlt with hlt | ⟨heq, hlt⟩
      · exact .inl hlt
      · exact .inr ⟨heq, (hparts.second.lt_iff hparts'.second).2 hlt⟩
  · have hlater := ymdToOrdinal_lt ⟨hmonth', hday'⟩ ⟨hmonth, hday⟩ hgt
    omega

/-- Texts of one second agree before the fraction. -/
theorem head_eq (h : d.second = d'.second) : d.isoParts.head = d'.isoParts.head := by
  have hdate : d.wall / microsPerDay = d'.wall / microsPerDay := by
    unfold second at h
    unfold microsPerDay
    omega
  have hclock : (d.wall % microsPerDay).toNat / 1000000 =
      (d'.wall % microsPerDay).toNat / 1000000 := by
    unfold second at h
    unfold microsPerDay
    omega
  simp only [IsoParts.head, isoParts, hdate, hclock]

/-- Texts of different seconds are ordered as their seconds. -/
theorem zulu_lt_of_second (h : d.second < d'.second) : d.zulu < d'.zulu := by
  unfold zulu
  rw [IsoParts.body_zulu, IsoParts.body_zulu]
  exact append_lt_append ((length_head d).trans (length_head d').symm) (head_lt h)

/-- Texts of one second are ordered as their ends. -/
theorem zulu_lt_of_tail (h : d.second = d'.second) (hlt : d.isoParts.tail < d'.isoParts.tail) :
    d.zulu < d'.zulu := by
  unfold zulu
  rw [IsoParts.body_zulu, IsoParts.body_zulu, head_eq h]
  exact List.append_left_lt hlt

theorem tail_of_whole (h : d.microsecond = 0) : d.isoParts.tail = ['Z'] := by
  have hmicros : (d.wall % microsPerDay).toNat % 1000000 = 0 := by
    unfold microsecond at h
    unfold microsPerDay
    omega
  simp [IsoParts.tail, isoParts, hmicros]

theorem tail_of_fraction (h : d.microsecond ≠ 0) :
    ∃ ds, DigitsOf d.timeOfDay.micros 6 ds ∧ d.isoParts.tail = '.' :: (ds ++ ['Z']) := by
  rcases isoParts_denote d with ⟨year, month, day, hparts, -⟩
  have hmicros : (d.wall % microsPerDay).toNat % 1000000 ≠ 0 := by
    unfold microsecond at h
    unfold microsPerDay
    omega
  have hfraction := hparts.fraction
  cases hds : d.isoParts.fraction with
  | none => simp [isoParts, hmicros] at hds
  | some ds =>
      rw [hds] at hfraction
      exact ⟨ds, hfraction, by simp [IsoParts.tail, hds]⟩

/-- Within one second the text without a fraction is the last. -/
theorem zulu_lt_of_whole (h : d.second = d'.second) (hfraction : d.microsecond ≠ 0)
    (hwhole : d'.microsecond = 0) : d.zulu < d'.zulu := by
  apply zulu_lt_of_tail h
  rcases tail_of_fraction hfraction with ⟨ds, -, htail⟩
  rw [htail, tail_of_whole hwhole]
  exact List.cons_lt_cons_iff.2 (.inl (by decide))

/-- Two datetimes of one second, one of which has a fraction and the other none. -/
def Mixed (d d' : PyDateTime) : Prop :=
  d.second = d'.second ∧ ¬ (d.microsecond = 0 ↔ d'.microsecond = 0)

instance (d d' : PyDateTime) : Decidable (Mixed d d') :=
  inferInstanceAs (Decidable (_ ∧ _))

theorem zulu_lt_of_wall (hmixed : ¬ Mixed d d') (h : d.wall < d'.wall) : d.zulu < d'.zulu := by
  by_cases hsecond : d.second = d'.second
  · have hboth : d.microsecond = 0 ↔ d'.microsecond = 0 := by
      by_contra hnot
      exact hmixed ⟨hsecond, hnot⟩
    have hmicros : d.microsecond < d'.microsecond := by
      unfold second at hsecond
      unfold microsecond
      omega
    have hnonneg : 0 ≤ d.microsecond := Int.emod_nonneg _ (by decide)
    have hfraction : d.microsecond ≠ 0 := fun hzero => by
      rw [hboth.1 hzero, hzero] at hmicros
      exact lt_irrefl _ hmicros
    rcases tail_of_fraction hfraction with ⟨ds, hds, htail⟩
    rcases tail_of_fraction (fun hzero => hfraction (hboth.2 hzero)) with ⟨ds', hds', htail'⟩
    apply zulu_lt_of_tail hsecond
    rw [htail, htail', List.cons_lt_cons_iff]
    right
    refine ⟨rfl, append_lt_append (hds.length.trans hds'.length.symm) ((hds.lt_iff hds').2 ?_)⟩
    have htotal := total_timeOfDay d
    have htotal' := total_timeOfDay d'
    have hlt := d.timeOfDay.micros_lt
    have hlt' := d'.timeOfDay.micros_lt
    unfold TimeOfDay.total microsPerDay at htotal htotal'
    unfold microsecond at hmicros
    omega
  · apply zulu_lt_of_second
    unfold second at hsecond ⊢
    omega

/-- Texts are in order, except within one second where one of them has a fraction and the other
none. -/
theorem zulu_lt_zulu_iff (hmixed : ¬ Mixed d d') : d.zulu < d'.zulu ↔ d.wall < d'.wall := by
  constructor
  · intro hlt
    by_contra hnot
    rcases Int.lt_or_eq_of_le (not_lt.1 hnot) with hgt | heq
    · have hmixed' : ¬ Mixed d' d := fun h => hmixed ⟨h.1.symm, fun hiff => h.2 hiff.symm⟩
      exact lt_asymm hlt (zulu_lt_of_wall hmixed' hgt)
    · have hsame : d.zulu = d'.zulu := by
        simp only [zulu, isoParts, heq]
      rw [hsame] at hlt
      exact lt_irrefl _ hlt
  · exact zulu_lt_of_wall hmixed

end PyDateTime
end Library
end StrategyWorker
