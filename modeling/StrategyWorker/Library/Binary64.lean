import Mathlib.Algebra.Order.Floor.Ring
import Mathlib.Data.Int.Log
import Mathlib.Data.Rat.Floor
import Mathlib.Tactic.FieldSimp
import Mathlib.Tactic.Linarith
import Mathlib.Tactic.Positivity
import Mathlib.Tactic.Ring

/-!
# Rounding to binary64

A finite binary64 value is a rational number.  {lit}`fl` rounds a rational to
53 significant bits, ties to even; the exponent range is not limited, so it
agrees with the format for magnitudes between its smallest normal and its
largest finite value, and for zero.

Main results:

- Theorem {lit}`roundEven_mono`: rounding to an integer is monotone.
- Theorem {lit}`fl_mono`: rounding to 53 bits is monotone.
- Theorem {lit}`fl_intCast`: integers up to 2^53 are exact.
- Theorem {lit}`trunc_mono`: truncation towards zero is monotone.
-/

namespace StrategyWorker
namespace Library
namespace Binary64

/-! ## Rounding to an integer -/

/-- The nearest integer, the even one at a tie. -/
def roundEven (q : ℚ) : ℤ :=
  if q - ⌊q⌋ < 1 / 2 then ⌊q⌋
  else if 1 / 2 < q - ⌊q⌋ then ⌊q⌋ + 1
  else if ⌊q⌋ % 2 = 0 then ⌊q⌋
  else ⌊q⌋ + 1

theorem floor_le_roundEven (q : ℚ) : ⌊q⌋ ≤ roundEven q := by
  unfold roundEven
  split
  · exact le_rfl
  split
  · omega
  split <;> omega

theorem roundEven_le_floor_add_one (q : ℚ) : roundEven q ≤ ⌊q⌋ + 1 := by
  unfold roundEven
  split
  · omega
  split
  · exact le_rfl
  split <;> omega

/-- Rounding to an integer is monotone. -/
theorem roundEven_mono {q r : ℚ} (h : q ≤ r) : roundEven q ≤ roundEven r := by
  rcases lt_or_eq_of_le (Int.floor_le_floor h) with hlt | heq
  · calc
      roundEven q ≤ ⌊q⌋ + 1 := roundEven_le_floor_add_one q
      _ ≤ ⌊r⌋ := hlt
      _ ≤ roundEven r := floor_le_roundEven r
  · -- both round within the same unit interval, where the fraction decides
    have hfrac : q - ⌊q⌋ ≤ r - ⌊q⌋ := by linarith
    unfold roundEven
    rw [← heq]
    split <;> split <;> try split
    all_goals try split
    all_goals first | omega | (exfalso; linarith)

@[simp]
theorem roundEven_intCast (n : ℤ) : roundEven n = n := by
  simp [roundEven]

/-! ## Rounding to 53 bits -/

/-- The exponent of the unit in the last place of a positive value. -/
def ulpExponent (q : ℚ) : ℤ :=
  Int.log 2 q - 52

/-- Rounding of a nonnegative value. -/
def roundNonneg (q : ℚ) : ℚ :=
  roundEven (q / 2 ^ ulpExponent q) * 2 ^ ulpExponent q

/-- Rounding to the nearest binary64 value, ties to even. -/
def fl (q : ℚ) : ℚ :=
  if 0 ≤ q then roundNonneg q else -roundNonneg (-q)

theorem two_zpow_pos (k : ℤ) : (0 : ℚ) < 2 ^ k :=
  zpow_pos (by norm_num) k

/-- A positive value has between 2^52 and 2^53 units in its last place. -/
theorem scaled_bounds {q : ℚ} (hq : 0 < q) :
    (2 : ℚ) ^ 52 ≤ q / 2 ^ ulpExponent q ∧ q / 2 ^ ulpExponent q < 2 ^ 53 := by
  have hlow : (2 : ℚ) ^ Int.log 2 q ≤ q := by exact_mod_cast Int.zpow_log_le_self (by decide) hq
  have hhigh : q < (2 : ℚ) ^ (Int.log 2 q + 1) := by
    exact_mod_cast Int.lt_zpow_succ_log_self (b := 2) (by decide) q
  have hpos := two_zpow_pos (ulpExponent q)
  constructor
  · rw [le_div_iff₀ hpos]
    calc
      (2 : ℚ) ^ 52 * 2 ^ ulpExponent q = 2 ^ (52 + ulpExponent q) := by
        rw [zpow_add₀ (by norm_num)]
        norm_num
      _ = 2 ^ Int.log 2 q := by rw [ulpExponent]; ring_nf
      _ ≤ q := hlow
  · rw [div_lt_iff₀ hpos]
    calc
      q < 2 ^ (Int.log 2 q + 1) := hhigh
      _ = 2 ^ (53 + ulpExponent q) := by rw [ulpExponent]; ring_nf
      _ = 2 ^ 53 * 2 ^ ulpExponent q := by
        rw [zpow_add₀ (by norm_num)]
        norm_num

/-- Rounding keeps a positive value between the powers of two around it. -/
theorem roundNonneg_bounds {q : ℚ} (hq : 0 < q) :
    (2 : ℚ) ^ Int.log 2 q ≤ roundNonneg q ∧ roundNonneg q ≤ 2 ^ (Int.log 2 q + 1) := by
  rcases scaled_bounds hq with ⟨hlow, hhigh⟩
  have hpos := two_zpow_pos (ulpExponent q)
  have hlow' : (2 : ℤ) ^ 52 ≤ roundEven (q / 2 ^ ulpExponent q) := by
    have := roundEven_mono (q := ((2 ^ 52 : ℤ) : ℚ)) (by exact_mod_cast hlow)
    rwa [roundEven_intCast] at this
  have hhigh' : roundEven (q / 2 ^ ulpExponent q) ≤ (2 : ℤ) ^ 53 := by
    have := roundEven_mono (r := ((2 ^ 53 : ℤ) : ℚ)) (by exact_mod_cast hhigh.le)
    rwa [roundEven_intCast] at this
  constructor
  · calc
      (2 : ℚ) ^ Int.log 2 q = 2 ^ (52 + ulpExponent q) := by rw [ulpExponent]; ring_nf
      _ = (2 ^ 52 : ℤ) * 2 ^ ulpExponent q := by
        rw [zpow_add₀ (by norm_num)]
        norm_num
      _ ≤ roundNonneg q := by
        unfold roundNonneg
        gcongr
  · calc
      roundNonneg q ≤ (2 ^ 53 : ℤ) * 2 ^ ulpExponent q := by
        unfold roundNonneg
        gcongr
      _ = 2 ^ (53 + ulpExponent q) := by
        rw [zpow_add₀ (by norm_num)]
        norm_num
      _ = 2 ^ (Int.log 2 q + 1) := by rw [ulpExponent]; ring_nf

@[simp]
theorem roundNonneg_zero : roundNonneg 0 = 0 := by
  simp [roundNonneg, roundEven]

theorem roundNonneg_nonneg {q : ℚ} (hq : 0 ≤ q) : 0 ≤ roundNonneg q := by
  rcases hq.eq_or_lt with rfl | hq
  · simp
  · exact (two_zpow_pos _).le.trans (roundNonneg_bounds hq).1

/-- Rounding of nonnegative values is monotone: within a binade by rounding to an integer, across
binades by the power of two between them. -/
theorem roundNonneg_mono {q r : ℚ} (hq : 0 ≤ q) (h : q ≤ r) : roundNonneg q ≤ roundNonneg r := by
  rcases hq.eq_or_lt with rfl | hq
  · simpa using roundNonneg_nonneg h
  · have hr : 0 < r := hq.trans_le h
    rcases lt_or_eq_of_le (Int.log_mono_right (b := 2) hq h) with hlt | heq
    · calc
        roundNonneg q ≤ 2 ^ (Int.log 2 q + 1) := (roundNonneg_bounds hq).2
        _ ≤ 2 ^ Int.log 2 r := zpow_le_zpow_right₀ (by norm_num) hlt
        _ ≤ roundNonneg r := (roundNonneg_bounds hr).1
    · have hexp : ulpExponent q = ulpExponent r := by rw [ulpExponent, ulpExponent, heq]
      unfold roundNonneg
      rw [hexp]
      have hpos := two_zpow_pos (ulpExponent r)
      have hround : roundEven (q / 2 ^ ulpExponent r) ≤ roundEven (r / 2 ^ ulpExponent r) :=
        roundEven_mono (by gcongr)
      gcongr

/-- Rounding to binary64 is monotone. -/
theorem fl_mono {q r : ℚ} (h : q ≤ r) : fl q ≤ fl r := by
  unfold fl
  split
  · rename_i hq
    rw [if_pos (hq.trans h)]
    exact roundNonneg_mono hq h
  · rename_i hq
    split
    · rename_i hr
      have hneg : 0 ≤ roundNonneg (-q) := roundNonneg_nonneg (by linarith)
      have hpos := roundNonneg_nonneg hr
      linarith
    · rename_i hr
      have hle := roundNonneg_mono (q := -r) (r := -q) (by linarith) (by linarith)
      linarith

/-! ## Exact values -/

/-- A value below 2^53 that is a natural number is exact. -/
theorem roundNonneg_natCast {n : ℕ} (hn : n < 2 ^ 53) : roundNonneg n = n := by
  rcases Nat.eq_zero_or_pos n with rfl | hpos
  · simp
  · have hq : (0 : ℚ) < n := by exact_mod_cast hpos
    have hlog : Int.log 2 (n : ℚ) = (Nat.log 2 n : ℤ) := by rw [Int.log_natCast]
    have hle : Nat.log 2 n ≤ 52 := by
      have := (Nat.log_lt_iff_lt_pow (by decide) hpos.ne').2 hn
      omega
    have hexp : ulpExponent n = -((52 - Nat.log 2 n : ℕ) : ℤ) := by
      rw [ulpExponent, hlog]
      omega
    have hscaled : (n : ℚ) / 2 ^ ulpExponent n = ((n * 2 ^ (52 - Nat.log 2 n) : ℕ) : ℤ) := by
      rw [hexp, zpow_neg, zpow_natCast]
      push_cast
      field_simp
    unfold roundNonneg
    rw [hscaled, roundEven_intCast, ← hscaled]
    field_simp

/-- Integers of magnitude below 2^53 are exact. -/
theorem fl_intCast {n : ℤ} (hn : n.natAbs < 2 ^ 53) : fl n = n := by
  rcases le_or_gt 0 n with hn0 | hn0
  · rcases Int.eq_ofNat_of_zero_le hn0 with ⟨k, rfl⟩
    have hk : k < 2 ^ 53 := by simpa using hn
    have hnonneg : (0 : ℚ) ≤ ((k : ℤ) : ℚ) := by exact_mod_cast hn0
    rw [fl, if_pos hnonneg, Int.cast_natCast, roundNonneg_natCast hk]
  · rcases Int.eq_ofNat_of_zero_le (neg_nonneg.2 hn0.le) with ⟨k, hk⟩
    obtain rfl : n = -(k : ℤ) := by omega
    have hk : k < 2 ^ 53 := by simpa using hn
    have hneg : ¬ (0 : ℚ) ≤ ((-(k : ℤ) : ℤ) : ℚ) := by
      rw [not_le]
      exact_mod_cast hn0
    rw [fl, if_neg hneg, Int.cast_neg, Int.cast_natCast, neg_neg, roundNonneg_natCast hk]

/-! ## Truncation -/

/-- Truncation towards zero. -/
def trunc (q : ℚ) : ℤ :=
  if 0 ≤ q then ⌊q⌋ else ⌈q⌉

/-- Truncation is monotone. -/
theorem trunc_mono {q r : ℚ} (h : q ≤ r) : trunc q ≤ trunc r := by
  unfold trunc
  split
  · rename_i hq
    rw [if_pos (hq.trans h)]
    exact Int.floor_le_floor h
  · rename_i hq
    split
    · rename_i hr
      have hceil : ⌈q⌉ ≤ 0 := Int.ceil_le.2 (by exact_mod_cast (not_le.1 hq).le)
      exact hceil.trans (Int.floor_nonneg.2 hr)
    · exact Int.ceil_le_ceil h

@[simp]
theorem trunc_intCast (n : ℤ) : trunc n = n := by
  simp [trunc]

/-! ## Values -/

/-- A binary64 value; the sign of zero is not kept. -/
inductive PyFloat where
  | finite (value : ℚ)
  | infinite (negative : Bool)
  | nan
  deriving DecidableEq

/-- The conversion of an integer whose rounding is in the finite range. -/
def PyFloat.ofInt (n : ℤ) : PyFloat :=
  .finite (fl n)

end Binary64
end Library
end StrategyWorker
