import StrategyWorker.Library.PyJson

/-!
# Seventeen digits denote a float

The decimal digits that {lit}`repr` writes for a value of the format are read as
that value again: digits that are accepted earlier round to it, and with
seventeen digits the decimal value is so near that it rounds to it.  Next to a
power of two, and below the smallest normal value, there is room enough.

Main results:

- Theorem {lit}`fl_of_near`: values near a value of 53 bits round to it.
- Theorem {lit}`shortestDigits_near`: what the digits of a value denote.
- Theorem {lit}`floatLiteral_shortestDigits`: the digits are read as the value.
-/

namespace StrategyWorker
namespace Library
namespace Binary64

/-! ## Rounding to an integer -/

/-- A value less than a half away from an integer rounds to it. -/
theorem roundEven_of_near {q : ℚ} {n : ℤ} (h : |q - n| < 1 / 2) : roundEven q = n := by
  rcases abs_lt.1 h with ⟨hlow, hhigh⟩
  rcases le_or_gt (n : ℚ) q with hle | hlt
  · have hfloor : ⌊q⌋ = n := Int.floor_eq_iff.2 ⟨hle, by linarith⟩
    rw [roundEven, hfloor, if_pos hhigh]
  · have hfloor : ⌊q⌋ = n - 1 := by
      rw [Int.floor_eq_iff]
      push_cast
      exact ⟨by linarith, by linarith⟩
    have hfraction : 1 / 2 < q - ((n - 1 : ℤ) : ℚ) := by
      push_cast
      linarith
    rw [roundEven, hfloor, if_neg (not_lt.2 hfraction.le), if_pos hfraction]
    ring

/-- Rounding moves a value by a half at most. -/
theorem abs_roundEven_sub_le (q : ℚ) : |(roundEven q : ℚ) - q| ≤ 1 / 2 := by
  have hlow := Int.floor_le q
  have hhigh := Int.lt_floor_add_one q
  unfold roundEven
  split
  · rw [abs_le]
    constructor <;> linarith
  · split
    · rw [abs_le]
      push_cast
      constructor <;> linarith
    · -- exactly a half, to either side
      have hhalf : q - ⌊q⌋ = 1 / 2 := by linarith
      split
      · rw [abs_le]
        constructor <;> linarith
      · rw [abs_le]
        push_cast
        constructor <;> linarith

theorem roundEven_neg (q : ℚ) : roundEven (-q) = -roundEven q := by
  by_cases hhalf : |q - roundEven q| < 1 / 2
  · apply roundEven_of_near
    have habs : |(-q) - ((-roundEven q : ℤ) : ℚ)| = |q - roundEven q| := by
      rw [← abs_neg (q - roundEven q)]
      congr 1
      push_cast
      ring
    rw [habs]
    exact hhalf
  · -- halfway between two integers, of which the even one is taken
    have hle := abs_roundEven_sub_le q
    rw [abs_sub_comm] at hle
    have heq : |q - roundEven q| = 1 / 2 := le_antisymm hle (not_lt.1 hhalf)
    have hfraction : q - ⌊q⌋ = 1 / 2 := by
      by_contra hne
      unfold roundEven at heq
      split at heq
      · rename_i hlt
        rw [abs_of_nonneg (by linarith [Int.floor_le q])] at heq
        exact hne heq
      · rename_i hge
        have hgt : 1 / 2 < q - ⌊q⌋ := lt_of_le_of_ne (not_lt.1 hge) (Ne.symm hne)
        rw [if_pos hgt, abs_of_neg (by push_cast; linarith [Int.lt_floor_add_one q])] at heq
        push_cast at heq
        linarith
    have hfloor : ⌊-q⌋ = -⌊q⌋ - 1 := by
      rw [Int.floor_eq_iff]
      push_cast
      constructor <;> linarith
    have hfraction' : -q - ((-⌊q⌋ - 1 : ℤ) : ℚ) = 1 / 2 := by
      push_cast
      linarith
    unfold roundEven
    rw [hfloor, hfraction, hfraction']
    simp only [lt_irrefl, if_false]
    split <;> split <;> omega

/-! ## Rounding to 53 bits -/

theorem log_eq_iff {q : ℚ} (hq : 0 < q) {k : ℤ} :
    Int.log 2 q = k ↔ (2 : ℚ) ^ k ≤ q ∧ q < 2 ^ (k + 1) := by
  have hlow := Int.zpow_le_iff_le_log (b := 2) (x := k) (by decide) hq
  have hhigh := Int.lt_zpow_iff_log_lt (b := 2) (x := k + 1) (by decide) hq
  rw [Nat.cast_ofNat] at hlow hhigh
  rw [hlow, hhigh]
  omega

/-- The multiple of the last place that a positive value is rounded to. -/
theorem roundNonneg_of_scaled {v : ℚ} (hv : 0 < v) {k n : ℤ} (hlow : (2 : ℚ) ^ k ≤ v)
    (hhigh : v < 2 ^ (k + 1)) (hnear : |v - n * 2 ^ (k - 52)| < 2 ^ (k - 52) / 2) :
    roundNonneg v = n * 2 ^ (k - 52) := by
  have hulp : ulpExponent v = k - 52 := by rw [ulpExponent, (log_eq_iff hv).2 ⟨hlow, hhigh⟩]
  have hpos := two_zpow_pos (k - 52)
  have hround : roundEven (v / 2 ^ (k - 52)) = n := by
    apply roundEven_of_near
    have hscaled : v / 2 ^ (k - 52) - n = (v - n * 2 ^ (k - 52)) / 2 ^ (k - 52) := by
      field_simp
    rw [hscaled, abs_div, abs_of_pos hpos, div_lt_iff₀ hpos]
    linarith
  rw [roundNonneg, hulp, hround]

/-- A value that is its own rounding is a multiple of its last place. -/
theorem exists_scaled {q : ℚ} (hq : 0 < q) (hfixed : roundNonneg q = q) :
    ∃ n : ℤ, q = n * 2 ^ (Int.log 2 q - 52) ∧ 2 ^ 52 ≤ n ∧ n < 2 ^ 53 := by
  rcases scaled_bounds hq with ⟨hlow, hhigh⟩
  have hpos := two_zpow_pos (ulpExponent q)
  have hscaled : q / 2 ^ ulpExponent q = roundEven (q / 2 ^ ulpExponent q) := by
    rw [div_eq_iff hpos.ne']
    exact hfixed.symm
  refine ⟨roundEven (q / 2 ^ ulpExponent q), hfixed.symm, ?_, ?_⟩
  · rw [hscaled] at hlow
    exact_mod_cast hlow
  · rw [hscaled] at hhigh
    exact_mod_cast hhigh

/-- Values that differ from a value of 53 bits by less than its 2^54th part round to it. -/
theorem roundNonneg_of_near {q v : ℚ} (hq : 0 < q) (hfixed : roundNonneg q = q)
    (hnear : |v - q| < q / 2 ^ 54) : roundNonneg v = q := by
  rcases exists_scaled hq hfixed with ⟨n, hn, hlow, hhigh⟩
  generalize Int.log 2 q - 52 = e at hn
  have hpos := two_zpow_pos e
  have hnlow : (2 : ℚ) ^ 52 ≤ n := by exact_mod_cast hlow
  have hnhigh : (n : ℚ) + 1 ≤ 2 ^ 53 := by exact_mod_cast hhigh
  have hk : (2 : ℚ) ^ (e + 52) = 2 ^ 52 * 2 ^ e := by
    rw [zpow_add₀ (by norm_num)]
    ring_nf
  have hk' : (2 : ℚ) ^ (e + 52 + 1) = 2 ^ 53 * 2 ^ e := by
    rw [zpow_add₀ (by norm_num), hk]
    ring
  have hpart : q / 2 ^ 54 < 2 ^ e / 2 := by
    rw [hn, div_lt_iff₀ (by norm_num)]
    nlinarith
  rcases abs_lt.1 hnear with ⟨hbelow, habove⟩
  by_cases hsame : (2 : ℚ) ^ (e + 52) ≤ v
  · have hlast : e + 52 - 52 = e := by ring
    have hv : 0 < v := (two_zpow_pos _).trans_le hsame
    have hround := roundNonneg_of_scaled (k := e + 52) (n := n) hv hsame
      (by rw [hk']; nlinarith) (by rw [hlast, ← hn]; exact hnear.trans hpart)
    rw [hround, hlast, hn]
  · -- only a power of two has such values below its binade
    have hnear' : q - q / 2 ^ 54 < v := by linarith
    rw [not_le, hk] at hsame
    have hpower : n = 2 ^ 52 := by
      by_contra hne
      have hnext : (2 : ℤ) ^ 52 + 1 ≤ n := by omega
      have hnext' : (2 : ℚ) ^ 52 + 1 ≤ n := by exact_mod_cast hnext
      nlinarith
    have hq' : q = 2 ^ 52 * 2 ^ e := by
      rw [hn, hpower]
      norm_num
    have hlast : (2 : ℚ) ^ (e + 51 - 52) = 2 ^ e / 2 := by
      have hexp : e + 51 - 52 = e - 1 := by ring
      rw [hexp, zpow_sub₀ (by norm_num), zpow_one]
    have hscale : (2 : ℚ) ^ (e + 51) = 2 ^ 51 * 2 ^ e := by
      rw [zpow_add₀ (by norm_num)]
      ring_nf
    have hnext : (2 : ℚ) ^ (e + 51 + 1) = 2 ^ 52 * 2 ^ e := by
      rw [zpow_add₀ (by norm_num), hscale]
      ring
    have hv : 0 < v := by
      have : q / 2 ^ 54 < q := div_lt_self hq (by norm_num)
      linarith
    have hround := roundNonneg_of_scaled (k := e + 51) (n := 2 ^ 53) hv
      (by rw [hscale]; rw [hq'] at hnear'; nlinarith) (by rw [hnext]; exact hsame)
      (by
        rw [hlast]
        push_cast
        rw [abs_lt]
        rw [hq'] at hbelow habove
        constructor <;> linarith)
    rw [hround, hlast, hq']
    push_cast
    ring

theorem fl_of_pos {q : ℚ} (hq : 0 < q) : fl q = roundNonneg q :=
  if_pos hq.le

theorem fl_of_near {q v : ℚ} (hq : 0 < q) (hfixed : fl q = q) (hnear : |v - q| < q / 2 ^ 54) :
    fl v = q := by
  have hv : 0 < v := by
    have hpart : q / 2 ^ 54 < q := div_lt_self hq (by norm_num)
    have hbelow := (abs_lt.1 hnear).1
    linarith
  rw [fl_of_pos hq] at hfixed
  rw [fl_of_pos hv]
  exact roundNonneg_of_near hq hfixed hnear

theorem fl_neg (q : ℚ) : fl (-q) = -fl q := by
  rcases lt_trichotomy q 0 with hq | rfl | hq
  · rw [fl, fl, if_pos (by linarith), if_neg (not_le.2 hq), neg_neg]
  · simp [fl]
  · rw [fl, fl, if_neg (by linarith), if_pos hq.le, neg_neg]

/-- Rounding moves a value by half its last place at most. -/
theorem abs_roundNonneg_sub_le (v : ℚ) :
    |roundNonneg v - v| ≤ 2 ^ ulpExponent v / 2 := by
  have hpos := two_zpow_pos (ulpExponent v)
  have hround := abs_roundEven_sub_le (v / 2 ^ ulpExponent v)
  have hscaled : roundNonneg v - v =
      (roundEven (v / 2 ^ ulpExponent v) - v / 2 ^ ulpExponent v) * 2 ^ ulpExponent v := by
    rw [roundNonneg, sub_mul, div_mul_cancel₀ _ hpos.ne']
  rw [hscaled, abs_mul, abs_of_pos hpos]
  calc
    |(roundEven (v / 2 ^ ulpExponent v) : ℚ) - v / 2 ^ ulpExponent v| * 2 ^ ulpExponent v
        ≤ 1 / 2 * 2 ^ ulpExponent v := by gcongr
    _ = 2 ^ ulpExponent v / 2 := by ring

end Binary64

open Binary64

/-! ## Decimal digits -/

/-- A decimal value from which this value is read. -/
def Near (q v : ℚ) : Prop :=
  fl v = q ∨ |v - q| < q / 2 ^ 54

/-- The digits of a value: they round to it, or they are those of the last try, which is off by half
its last place at most. -/
theorem shortestDigits_cases {q : ℚ} (hq : 0 < q) (tries digits : Nat) (htries : 0 < tries) :
    fl ((shortestDigits q tries digits).1 * 10 ^ (shortestDigits q tries digits).2) = q ∨
      |(shortestDigits q tries digits).1 * 10 ^ (shortestDigits q tries digits).2 - q| ≤
        10 ^ (Int.log 10 q - digits - tries + 2) / 2 := by
  induction tries generalizing digits with
  | zero => cases htries
  | succ tries ih =>
      have hpos : (0 : ℚ) < 10 ^ (Int.log 10 q - digits + 1) := zpow_pos (by norm_num) _
      unfold shortestDigits
      dsimp only
      split
      · rename_i h
        rcases h with h | rfl
        · exact .inl h
        · right
          dsimp only
          have hround := abs_roundEven_sub_le (q / 10 ^ (Int.log 10 q - digits + 1))
          have hnonneg : 0 ≤ roundEven (q / 10 ^ (Int.log 10 q - digits + 1)) := by
            have hmono := roundEven_mono (div_pos hq hpos).le
            have hzero : roundEven (0 : ℚ) = 0 := by exact_mod_cast roundEven_intCast 0
            rwa [hzero] at hmono
          have hcast : ((roundEven (q / 10 ^ (Int.log 10 q - digits + 1))).toNat : ℚ) =
              roundEven (q / 10 ^ (Int.log 10 q - digits + 1)) := by
            exact_mod_cast Int.toNat_of_nonneg hnonneg
          have hscaled : (roundEven (q / 10 ^ (Int.log 10 q - digits + 1)) : ℚ) *
              10 ^ (Int.log 10 q - digits + 1) - q =
                (roundEven (q / 10 ^ (Int.log 10 q - digits + 1)) -
                  q / 10 ^ (Int.log 10 q - digits + 1)) * 10 ^ (Int.log 10 q - digits + 1) := by
            rw [sub_mul, div_mul_cancel₀ _ hpos.ne']
          have hlast : Int.log 10 q - digits - ((0 + 1 : ℕ) : ℤ) + 2 =
              Int.log 10 q - digits + 1 := by
            push_cast
            ring
          rw [hcast, hscaled, abs_mul, abs_of_pos hpos, hlast]
          linarith [mul_le_mul_of_nonneg_right hround hpos.le]
      · rename_i h
        split
        · rename_i h'
          left
          exact_mod_cast h'
        · push Not at h
          have hrest := ih (digits + 1) (Nat.pos_of_ne_zero h.2)
          have hlast : Int.log 10 q - ((digits + 1 : ℕ) : ℤ) - tries + 2 =
              Int.log 10 q - digits - ((tries + 1 : ℕ) : ℤ) + 2 := by
            push_cast
            ring
          rw [hlast] at hrest
          exact hrest

/-- Seventeen digits are near enough. -/
theorem shortestDigits_near {q : ℚ} (hq : 0 < q) :
    Near q ((shortestDigits q 17 1).1 * 10 ^ (shortestDigits q 17 1).2) := by
  refine (shortestDigits_cases hq 17 1 (by decide)).imp id fun h => h.trans_lt ?_
  have hlog : (10 : ℚ) ^ Int.log 10 q ≤ q := by
    exact_mod_cast Int.zpow_log_le_self (b := 10) (by decide) hq
  have hlast : (10 : ℚ) ^ (Int.log 10 q - ((1 : ℕ) : ℤ) - ((17 : ℕ) : ℤ) + 2) =
      10 ^ Int.log 10 q / 10 ^ 16 := by
    have hexp : Int.log 10 q - ((1 : ℕ) : ℤ) - ((17 : ℕ) : ℤ) + 2 = Int.log 10 q - 16 := by
      push_cast
      ring
    rw [hexp, zpow_sub₀ (by norm_num)]
    norm_num
  rw [hlast]
  linarith

theorem Near.pos {q v : ℚ} (hq : 0 < q) (h : Near q v) : 0 < v := by
  rcases h with h | h
  · by_contra hnot
    have hmono := fl_mono (not_lt.1 hnot)
    have hzero : fl 0 = 0 := by simp [fl]
    rw [h, hzero] at hmono
    exact absurd hq (not_lt.2 hmono)
  · have hpart : q / 2 ^ 54 < q := div_lt_self hq (by norm_num)
    linarith [(abs_lt.1 h).1]

namespace PyJson

/-! ## Decimal values that are read -/

theorem floatLiteral_neg {q r : ℚ} (h : floatLiteral q = .finite r) :
    floatLiteral (-q) = .finite (-r) := by
  unfold floatLiteral at h ⊢
  rw [abs_neg]
  split at h
  · rename_i hsmall
    rw [if_pos hsmall, neg_mul, roundEven_neg]
    obtain rfl := PyFloat.finite.inj h
    push_cast
    rw [neg_div]
  · rename_i hlarge
    unfold floatOfRat at h ⊢
    rw [if_neg hlarge, fl_neg, abs_neg]
    split at h
    · rename_i hfinite
      obtain rfl := PyFloat.finite.inj h
      rw [if_pos hfinite]
    · cases h

/-- The smallest normal value, and what the last place below it is worth. -/
theorem smallest_normal :
    (2 : ℚ) ^ (-1022 : ℤ) * 2 ^ 1022 = 1 ∧ (2 : ℚ) ^ 1074 = 2 ^ 1022 * 2 ^ 52 := by
  constructor
  · rw [← zpow_natCast, ← zpow_add₀ (by norm_num)]
    rfl
  · rw [← pow_add]

/-- The last place of a value below the smallest normal one is a fourth of the fixed one. -/
theorem ulp_of_small {v : ℚ} (hlog : Int.log 2 v < -1022) :
    (2 : ℚ) ^ ulpExponent v / 2 * (2 ^ 1022 * 2 ^ 52) ≤ 1 / 4 := by
  have hle : (2 : ℚ) ^ ulpExponent v ≤ 2 ^ (-1022 - 53 : ℤ) := by
    apply zpow_le_zpow_right₀ (by norm_num)
    rw [ulpExponent]
    omega
  rw [zpow_sub₀ (by norm_num)] at hle
  have hnormal := smallest_normal.1
  generalize (2 : ℚ) ^ (-1022 : ℤ) = s at hle hnormal
  have hpos : (0 : ℚ) < 2 ^ 1022 := by positivity
  generalize (2 : ℚ) ^ 1022 = m at hnormal hpos
  calc
    (2 : ℚ) ^ ulpExponent v / 2 * (m * 2 ^ 52) ≤ s / 2 ^ (53 : ℤ) / 2 * (m * 2 ^ 52) := by gcongr
    _ = s * m / 4 := by
      norm_num
      ring
    _ = 1 / 4 := by rw [hnormal]

/-- A value that is near a multiple of the fixed last place is read as that multiple. -/
theorem floatLiteral_of_small {q v : ℚ} {n : ℤ} (hn : q * (2 ^ 1022 * 2 ^ 52) = n)
    (hsmall : |v| * 2 ^ 1022 < 1) (hnear : |v - q| * (2 ^ 1022 * 2 ^ 52) ≤ 1 / 4) :
    floatLiteral v = .finite q := by
  have hpos : (0 : ℚ) < 2 ^ 1022 * 2 ^ 52 := by positivity
  rw [floatLiteral, if_pos hsmall, smallest_normal.2]
  generalize (2 : ℚ) ^ 1022 * 2 ^ 52 = t at hn hnear hpos
  have hround : roundEven (v * t) = n := by
    apply roundEven_of_near
    rw [← hn, ← sub_mul, abs_mul, abs_of_pos hpos]
    linarith
  rw [hround, ← hn, mul_div_assoc, div_self hpos.ne', mul_one]

theorem log_lt_of_small {v : ℚ} (hv : 0 < v) (hsmall : v * 2 ^ 1022 < 1) :
    Int.log 2 v < -1022 := by
  rw [← Int.lt_zpow_iff_log_lt (b := 2) (by decide) hv, Nat.cast_ofNat]
  have hnormal := smallest_normal.1
  have hpos : (0 : ℚ) < 2 ^ 1022 := by positivity
  rw [← hnormal] at hsmall
  exact lt_of_mul_lt_mul_right hsmall hpos.le

/-- A value that rounds to one at or below the smallest normal value is near to it. -/
theorem close_of_fl {q v : ℚ} (hv : 0 < v) (hlog : Int.log 2 v < -1022) (h : fl v = q) :
    |v - q| * (2 ^ 1022 * 2 ^ 52) ≤ 1 / 4 := by
  have hround := abs_roundNonneg_sub_le v
  rw [← fl_of_pos hv, h, abs_sub_comm] at hround
  exact (mul_le_mul_of_nonneg_right hround (by positivity)).trans (ulp_of_small hlog)

/-- A decimal value near a value of the format is read as that value. -/
theorem floatLiteral_of_near {q v : ℚ} (hq : 0 < q) (hfloat : floatLiteral q = .finite q)
    (hnear : Near q v) : floatLiteral v = .finite q := by
  have hv := hnear.pos hq
  have hpos : (0 : ℚ) < 2 ^ 1022 := by positivity
  have hscaled : (0 : ℚ) < 2 ^ 1022 * 2 ^ 52 := by positivity
  by_cases hsmall : q * 2 ^ 1022 < 1
  · -- below the smallest normal value the last place is fixed
    have hscale := smallest_normal.2
    rw [floatLiteral, abs_of_pos hq, if_pos hsmall, hscale] at hfloat
    have hn := ((div_eq_iff hscaled.ne').1 (PyFloat.finite.inj hfloat)).symm
    have hclose : |v - q| * (2 ^ 1022 * 2 ^ 52) ≤ 1 / 4 := by
      rcases hnear with h | h
      · refine close_of_fl hv ?_ h
        have hlow := (roundNonneg_bounds hv).1
        rw [← fl_of_pos hv, h] at hlow
        have hlog := log_lt_of_small hq hsmall
        have hmono := (Int.zpow_le_iff_le_log (b := 2) (by decide) hq).1 (by exact_mod_cast hlow)
        omega
      · have hpart : q / 2 ^ 54 * (2 ^ 1022 * 2 ^ 52) = q * 2 ^ 1022 / 4 := by
          generalize (2 : ℚ) ^ 1022 = m
          ring
        have hle := mul_le_mul_of_nonneg_right h.le hscaled.le
        rw [hpart] at hle
        exact hle.trans (div_le_div_of_nonneg_right hsmall.le (by norm_num))
    refine floatLiteral_of_small hn ?_ hclose
    rw [abs_of_pos hv]
    -- the multiples below the smallest normal value end one place before it
    generalize roundEven (q * (2 ^ 1022 * 2 ^ 52)) = n at hn
    have hlast : n + 1 ≤ 2 ^ 52 := by
      have hlt : (n : ℚ) < 2 ^ 52 := by
        rw [← hn, ← mul_assoc]
        exact mul_lt_of_lt_one_left (by norm_num) hsmall
      have hlt' : n < 2 ^ 52 := by exact_mod_cast hlt
      omega
    have hlast' : (n : ℚ) + 1 ≤ 2 ^ 52 := by exact_mod_cast hlast
    have hvalue := (mul_le_mul_of_nonneg_right (le_abs_self (v - q)) hscaled.le).trans hclose
    rw [sub_mul, hn] at hvalue
    generalize (2 : ℚ) ^ 1022 = m at hvalue
    linarith
  · have hnot : ¬ |q| * 2 ^ 1022 < 1 := by rwa [abs_of_pos hq]
    rw [floatLiteral, if_neg hnot, floatOfRat] at hfloat
    split at hfloat
    · rename_i hfinite
      have hfixed := PyFloat.finite.inj hfloat
      have hround : fl v = q := hnear.elim id fun h => fl_of_near hq hfixed h
      by_cases hbelow : v * 2 ^ 1022 < 1
      · -- only the smallest normal value has such values below it
        have hlog := log_lt_of_small hv hbelow
        have hhigh := (roundNonneg_bounds hv).2
        rw [← fl_of_pos hv, hround] at hhigh
        have hpower : (2 : ℚ) ^ (Int.log 2 v + 1) ≤ 2 ^ (-1022 : ℤ) :=
          zpow_le_zpow_right₀ (by norm_num) (by omega)
        have hle := mul_le_mul_of_nonneg_right (hhigh.trans hpower) hpos.le
        rw [smallest_normal.1] at hle
        have hone : q * 2 ^ 1022 = 1 := le_antisymm hle (not_lt.1 hsmall)
        refine floatLiteral_of_small (n := 2 ^ 52) ?_ ?_ (close_of_fl hv hlog hround)
        · rw [← mul_assoc, hone]
          norm_num
        · rwa [abs_of_pos hv]
      · have hnot' : ¬ |v| * 2 ^ 1022 < 1 := by rwa [abs_of_pos hv]
        rw [hfixed] at hfinite
        rw [floatLiteral, if_neg hnot', floatOfRat, hround, if_pos hfinite]
    · cases hfloat

/-- The digits of a value of the format are read as the value. -/
theorem floatLiteral_shortestDigits {q : ℚ} (hq : 0 < q) (hfloat : floatLiteral q = .finite q) :
    floatLiteral ((shortestDigits q 17 1).1 * 10 ^ (shortestDigits q 17 1).2) = .finite q :=
  floatLiteral_of_near hq hfloat (shortestDigits_near hq)

end PyJson
end Library
end StrategyWorker
