import StrategyWorker.Library.PyDateTime

/-!
# Dates and ordinals

The year, month and day that {lit}`ordinalToYmd` finds for an ordinal are a date of
the calendar, and it is the date that has that ordinal.  The year comes from the
place in the cycles of 400, 100, 4 and 1 years, of which the last day of a long
cycle is the exception; month and day come from the months one by one.

Main results:

- Theorem {lit}`yearOfOrdinal_spec`: the year and the day of the year.
- Theorem {lit}`ordinalToYmd_spec`: the date of an ordinal.
-/

namespace StrategyWorker
namespace Library

/-! ## Years -/

theorem isLeap_iff (year : Nat) :
    isLeap year = true ↔ year % 4 = 0 ∧ (year % 100 ≠ 0 ∨ year % 400 = 0) := by
  simp [isLeap]

/-- Days of a year. -/
def daysInYear (year : Nat) : Nat :=
  if isLeap year then 366 else 365

/-- Days before a year that is given by its place in the cycles of 400, 100 and 4 years. -/
theorem daysBeforeYear_cycles {a b c d : Nat} (hb : b ≤ 3) (hc : c ≤ 24) (hd : d ≤ 3) :
    daysBeforeYear (a * 400 + b * 100 + c * 4 + d + 1) =
      a * 146097 + b * 36524 + c * 1461 + d * 365 := by
  have hy : ((a * 400 + b * 100 + c * 4 + d + 1 : Nat) : Int) - 1 =
      a * 400 + b * 100 + c * 4 + d := by push_cast; ring
  have h4 : ((a * 400 + b * 100 + c * 4 + d : Int)) / 4 = a * 100 + b * 25 + c := by omega
  have h100 : ((a * 400 + b * 100 + c * 4 + d : Int)) / 100 = a * 4 + b := by omega
  have h400 : ((a * 400 + b * 100 + c * 4 + d : Int)) / 400 = a := by omega
  simp only [daysBeforeYear, hy, h4, h100, h400]
  ring

/-- The last year of a cycle of 4 years is a leap year, unless it ends a cycle of 100 years and
none of 400. -/
theorem isLeap_cycles {a b c d : Nat} (hb : b ≤ 3) (hc : c ≤ 24) (hd : d ≤ 3) :
    isLeap (a * 400 + b * 100 + c * 4 + d + 1) = true ↔ d = 3 ∧ (c ≠ 24 ∨ b = 3) := by
  rw [isLeap_iff]
  omega

theorem yearOfOrdinal_spec {ordinal : Int} (h : 1 ≤ ordinal) (h' : ordinal ≤ maxOrdinal) :
    1 ≤ (yearOfOrdinal ordinal).1 ∧ (yearOfOrdinal ordinal).1 ≤ 9999 ∧
      (yearOfOrdinal ordinal).2 < daysInYear (yearOfOrdinal ordinal).1 ∧
      daysBeforeYear (yearOfOrdinal ordinal).1 + (yearOfOrdinal ordinal).2 + 1 = ordinal := by
  obtain ⟨n, rfl⟩ : ∃ n : Nat, ordinal = n + 1 := ⟨(ordinal - 1).toNat, by omega⟩
  have hn : ((n : Int) + 1 - 1).toNat = n := by omega
  have hmax : n < 3652059 := by simp only [maxOrdinal] at h'; omega
  unfold yearOfOrdinal daysInYear
  simp only [hn]
  -- the place in the cycles of 400, 100, 4 and 1 years
  generalize ha : n / 146097 = a
  generalize hra : n % 146097 = ra
  generalize hb : ra / 36524 = b
  generalize hrb : ra % 36524 = rb
  generalize hc : rb / 1461 = c
  generalize hrc : rb % 1461 = rc
  generalize hd : rc / 365 = d
  generalize hrd : rc % 365 = rd
  have hc24 : c ≤ 24 := by omega
  by_cases hlast : d = 4 ∨ b = 4
  · -- the last day of a long cycle
    obtain ⟨b', c', hb', hc', hyear, hday, hleap⟩ : ∃ b' c' : Nat, b' ≤ 3 ∧ c' ≤ 24 ∧
        a * 400 + b * 100 + c * 4 + d + 1 - 1 = a * 400 + b' * 100 + c' * 4 + 3 + 1 ∧
        a * 146097 + b' * 36524 + c' * 1461 + 3 * 365 + 365 = n ∧ (c' ≠ 24 ∨ b' = 3) := by
      rcases hlast with rfl | rfl
      · exact ⟨b, c, by omega, by omega, by omega, by omega, by omega⟩
      · exact ⟨3, 24, by omega, by omega, by omega, by omega, by omega⟩
    have hthree : (3 : Nat) ≤ 3 := Nat.le_refl 3
    rw [if_pos hlast]
    simp only [hyear, (isLeap_cycles hb' hc' hthree).2 ⟨rfl, hleap⟩, if_true]
    refine ⟨by omega, by omega, by omega, ?_⟩
    rw [daysBeforeYear_cycles hb' hc' hthree]
    omega
  · have hb3 : b ≤ 3 := by omega
    have hd3 : d ≤ 3 := by omega
    rw [if_neg hlast]
    refine ⟨by omega, by omega, ?_, ?_⟩
    · dsimp only
      split <;> omega
    · rw [daysBeforeYear_cycles hb3 hc24 hd3]
      omega

/-! ## Months -/

/-- Days before the first of a month, month by month. -/
theorem daysBeforeMonth_succ (year month : Nat) (h : 1 ≤ month) :
    daysBeforeMonth year (month + 1) = daysBeforeMonth year month + daysInMonth year month := by
  obtain ⟨m, rfl⟩ : ∃ m, month = m + 1 := ⟨month - 1, by omega⟩
  simp [daysBeforeMonth, List.range_succ]

/-- Month and day are those of the day that was asked for, when the months last that long. -/
theorem monthDay_spec (year months month days : Nat) (hmonth : 1 ≤ month)
    (hdays : daysBeforeMonth year month + days <
      daysBeforeMonth year (month + months) + daysInMonth year (month + months)) :
    month ≤ (monthDay year months month days).1 ∧
      (monthDay year months month days).1 ≤ month + months ∧
      1 ≤ (monthDay year months month days).2 ∧
      (monthDay year months month days).2 ≤ daysInMonth year (monthDay year months month days).1 ∧
      daysBeforeMonth year (monthDay year months month days).1 +
        (monthDay year months month days).2 = daysBeforeMonth year month + days + 1 := by
  induction months generalizing month days with
  | zero =>
      simp only [monthDay, Nat.add_zero] at hdays ⊢
      omega
  | succ months ih =>
      unfold monthDay
      split
      · rename_i hin
        simp only
        omega
      · rename_i hout
        have hsucc := daysBeforeMonth_succ year month hmonth
        have hnext : month + 1 + months = month + (months + 1) := by omega
        have hrec := ih (month + 1) (days - daysInMonth year month) (by omega)
          (by rw [hnext]; omega)
        rw [hnext] at hrec
        omega

theorem daysBeforeMonth_year (year : Nat) :
    daysBeforeMonth year 12 + daysInMonth year 12 = daysInYear year := by
  cases h : isLeap year <;>
    simp [daysBeforeMonth, daysInMonth, daysInYear, List.range_succ, h]

/-- The calendar date of an ordinal is a date, and has that ordinal. -/
theorem ordinalToYmd_spec {ordinal : Int} (h : 1 ≤ ordinal) (h' : ordinal ≤ maxOrdinal) :
    ∃ year month day, ordinalToYmd ordinal = (year, month, day) ∧ 1 ≤ year ∧ year ≤ 9999 ∧
      1 ≤ month ∧ month ≤ 12 ∧ 1 ≤ day ∧ day ≤ daysInMonth year month ∧
      ymdToOrdinal year month day = ordinal := by
  rcases yearOfOrdinal_spec h h' with ⟨hyear, hyear', hdays, hordinal⟩
  generalize hy : yearOfOrdinal ordinal = y at hyear hyear' hdays hordinal
  rcases y with ⟨year, days⟩
  have hjanuary : daysBeforeMonth year 1 = 0 := rfl
  have hlast := daysBeforeMonth_year year
  have hlong : daysBeforeMonth year 1 + days <
      daysBeforeMonth year (1 + 11) + daysInMonth year (1 + 11) := by
    have htwelve : 1 + 11 = 12 := rfl
    rw [hjanuary, htwelve, hlast]
    dsimp only at hdays
    omega
  rcases monthDay_spec year 11 1 days (Nat.le_refl 1) hlong with
    ⟨hmonth, hmonth', hday, hday', hsum⟩
  refine ⟨year, (monthDay year 11 1 days).1, (monthDay year 11 1 days).2, ?_, hyear, hyear', hmonth,
    hmonth', hday, hday', ?_⟩
  · simp only [ordinalToYmd, hy]
  · simp only [ymdToOrdinal]
    rw [hjanuary] at hsum
    dsimp only at hordinal
    omega

end Library
end StrategyWorker
