import Mathlib
import Discovery.Decimal.Binary64

namespace Discovery

/-- A negative exponent is moved to the other side. -/
theorem zpow_mul_pow_toNat_neg {b : ℚ} (hb : b ≠ 0) (e : Int) :
    b ^ e * b ^ (-e).toNat = b ^ e.toNat := by
  rw [← zpow_natCast, ← zpow_natCast, ← zpow_add₀ hb]
  congr 1
  omega

namespace Binary64

/-- The rational number that a double stands for, without its sign. -/
def magnitude (x : Binary64) : ℚ :=
  x.significand * 2 ^ x.exponent

/-- A double whose parts the format holds. -/
structure Bounded (x : Binary64) : Prop where
  significand : x.significand < 2 ^ 53
  exponent : x.exponent ≤ 971

/-- Both parts of a scaled quotient have the same factor. -/
theorem scale_eq (num den : Nat) (shift : Int) :
    ((scale num den shift).1 : ℚ) = num * 2 ^ shift * 2 ^ (-shift).toNat ∧
      ((scale num den shift).2 : ℚ) = den * 2 ^ (-shift).toNat := by
  have htwo := zpow_mul_pow_toNat_neg (b := 2) (by norm_num) shift
  simp only [scale, Nat.pow_eq, Nat.cast_mul, Nat.cast_pow, Nat.cast_ofNat]
  exact ⟨by rw [← htwo, mul_assoc], trivial⟩

theorem scale_lt_iff {num den k : Nat} {shift : Int} :
    (scale num den shift).1 < k * (scale num den shift).2 ↔ (num * 2 ^ shift : ℚ) < k * den := by
  obtain ⟨hnum, hden⟩ := scale_eq num den shift
  have hfactor : (0 : ℚ) < 2 ^ (-shift).toNat := by positivity
  rw [← Nat.cast_lt (α := ℚ), Nat.cast_mul, hnum, hden, ← mul_assoc, mul_lt_mul_iff_left₀ hfactor]

/-- A quotient against the power of two between the logarithms of its parts. -/
theorem lt_two_zpow (num : Nat) {den : Nat} (hden : den ≠ 0) :
    (num : ℚ) < 2 ^ ((num.log2 : Int) - den.log2) * (2 * den) := by
  have hnum : (num : ℚ) < 2 ^ (num.log2 + 1) := by
    exact_mod_cast Nat.lt_log2_self
  have hle : (2 : ℚ) ^ den.log2 ≤ den := by
    exact_mod_cast Nat.log2_self_le hden
  calc (num : ℚ) < 2 ^ (num.log2 + 1) := hnum
    _ = 2 ^ ((num.log2 : Int) - den.log2) * (2 * 2 ^ den.log2) := by
      rw [zpow_sub₀ (by norm_num), zpow_natCast, zpow_natCast]
      field_simp
      ring
    _ ≤ 2 ^ ((num.log2 : Int) - den.log2) * (2 * den) := by gcongr

/-- A quotient is smaller than the power of two behind the exponent that is chosen for it. -/
theorem lt_of_exponentOf (num : Nat) {den : Nat} (hden : den ≠ 0) :
    ∃ e ≤ exponentOf num den, (num : ℚ) < 2 ^ (e + 53) * den := by
  let guess : Int := (num.log2 : Int) - den.log2
  by_cases hone : (scale num den (-guess)).1 < 1 * (scale num den (-guess)).2
  · refine ⟨guess - 53, ?_, ?_⟩
    · have hnot : ¬ (scale num den (-guess)).2 ≤ (scale num den (-guess)).1 := by omega
      exact (if_neg hnot).symm.le.trans (le_max_right _ _)
    · rw [scale_lt_iff, zpow_neg, Nat.cast_one, one_mul, ← div_eq_mul_inv,
        div_lt_iff₀' (by positivity)] at hone
      rwa [sub_add_cancel]
  · refine ⟨guess - 52, ?_, ?_⟩
    · have hle : (scale num den (-guess)).2 ≤ (scale num den (-guess)).1 := by omega
      exact (if_pos hle).symm.le.trans (le_max_right _ _)
    · have hlt := lt_two_zpow num hden
      rw [show guess - 52 + 53 = guess + 1 by ring, zpow_add_one₀ (by norm_num), mul_assoc]
      exact hlt

/-- What is rounded has 53 binary digits at most. -/
theorem scale_exponentOf_lt (num : Nat) {den : Nat} (hden : den ≠ 0) :
    (scale num den (-exponentOf num den)).1 < 2 ^ 53 * (scale num den (-exponentOf num den)).2 := by
  obtain ⟨e, hle, hlt⟩ := lt_of_exponentOf num hden
  have hpos : (0 : ℚ) < 2 ^ exponentOf num den := by positivity
  rw [scale_lt_iff, zpow_neg, ← div_eq_mul_inv, div_lt_iff₀' hpos]
  calc (num : ℚ) < 2 ^ (e + 53) * den := hlt
    _ ≤ 2 ^ (exponentOf num den + 53) * den := by gcongr; norm_num
    _ = 2 ^ exponentOf num den * ((2 ^ 53 : Nat) * den) := by
      rw [zpow_add₀ (by norm_num), mul_assoc]
      norm_num

theorem roundHalfEven_le (num den : Nat) : roundHalfEven num den ≤ num / den + 1 := by
  unfold roundHalfEven
  extract_lets q r
  repeat' split
  all_goals omega

theorem roundHalfEven_le_of_lt {num den k : Nat} (h : den ≠ 0 → num < k * den) (hk : 0 < k) :
    roundHalfEven num den ≤ k := by
  refine (roundHalfEven_le num den).trans ?_
  by_cases hden : den = 0
  · rw [hden, Nat.div_zero]
    exact hk
  · have hlt := Nat.div_lt_of_lt_mul ((h hden).trans_eq (Nat.mul_comm k den))
    exact hlt

theorem bounded_zero (negative : Bool) : (zero negative).Bounded where
  significand := Nat.pow_pos (by decide)
  exponent := show (-1074 : Int) ≤ 971 by decide

/-- The one rounding of an operation gives what the format holds. -/
theorem bounded_of_ofQuotient? {negative : Bool} {num den : Nat} {x : Binary64}
    (h : ofQuotient? negative num den = some x) : x.Bounded := by
  let e := exponentOf num den
  let q := scale num den (-e)
  have hrounded : roundHalfEven q.1 q.2 ≤ 2 ^ 53 := by
    refine roundHalfEven_le_of_lt (fun hq => scale_exponentOf_lt num ?_) (by decide)
    rintro rfl
    exact hq (Nat.zero_mul _)
  simp only [ofQuotient?] at h
  split at h
  next =>
    cases h
    exact bounded_zero negative
  next =>
    split at h
    next =>
      split at h
      next => cases h
      next hexponent =>
        cases h
        exact ⟨by norm_num, not_lt.mp hexponent⟩
    next hcarry =>
      split at h
      next => cases h
      next hexponent =>
        cases h
        exact ⟨lt_of_le_of_ne hrounded hcarry, not_lt.mp hexponent⟩

theorem bounded_of_timesTen? {x y : Binary64} {k : Nat} (h : x.timesTen? k = some y) :
    y.Bounded := by
  obtain ⟨_, _, h⟩ := Option.bind_eq_some_iff.mp h
  exact bounded_of_ofQuotient? h

theorem bounded_of_overTen? {x y : Binary64} {k : Nat} (h : x.overTen? k = some y) :
    y.Bounded := by
  obtain ⟨_, _, h⟩ := Option.bind_eq_some_iff.mp h
  exact bounded_of_ofQuotient? h

theorem Bounded.of_scaled? {x y : Binary64} (hx : x.Bounded) {exponent : Int}
    (h : x.scaled? exponent = some y) : y.Bounded := by
  simp only [scaled?] at h
  split at h
  next =>
    cases h
    exact hx
  next =>
    split at h
    next =>
      split at h
      next => exact bounded_of_timesTen? h
      next => cases h
    next =>
      split at h
      next => exact bounded_of_overTen? h
      next =>
        split at h
        next =>
          obtain ⟨_, _, h⟩ := Option.bind_eq_some_iff.mp h
          exact bounded_of_overTen? h
        next =>
          cases h
          exact bounded_zero false

/-- The double of a decimal is one that the format holds. -/
theorem bounded_of_ofDecimal? {negative : Bool} {significand : Nat} {exponent : Int} {x : Binary64}
    (h : ofDecimal? negative significand exponent = some x) : x.Bounded := by
  obtain ⟨y, hy, rfl⟩ := Option.map_eq_some_iff.mp h
  obtain ⟨z, hz, hscaled⟩ := Option.bind_eq_some_iff.mp hy
  have hbounded := (bounded_of_ofQuotient? hz).of_scaled? hscaled
  exact ⟨hbounded.significand, hbounded.exponent⟩

end Binary64

end Discovery
