import Mathlib
import Discovery.Decimal.Shortest
import Discovery.Proofs.Decimal.Binary64

namespace Discovery

namespace Decimal

/-- The rational number that a decimal stands for. -/
def value (d : Decimal) : ℚ :=
  d.digits * 10 ^ d.exponent

theorem compareWith_eq_compare (d : Decimal) (n : Nat) (q : Int) :
    d.compareWith n q = compare d.value (n * 2 ^ q) := by
  let scale : ℚ := 10 ^ (-d.exponent).toNat * 2 ^ (-q).toNat
  have hscale : 0 < scale := by positivity
  have hten := zpow_mul_pow_toNat_neg (b := 10) (by norm_num) d.exponent
  have htwo := zpow_mul_pow_toNat_neg (b := 2) (by norm_num) q
  have hleft : ((d.digits * Nat.pow 10 d.exponent.toNat * Nat.pow 2 (-q).toNat : Nat) : ℚ) =
      d.value * scale := by
    simp only [Nat.pow_eq, Nat.cast_mul, Nat.cast_pow, Nat.cast_ofNat, ← hten, value, scale]
    ring
  have hright : ((n * Nat.pow 2 q.toNat * Nat.pow 10 (-d.exponent).toNat : Nat) : ℚ) =
      n * 2 ^ q * scale := by
    simp only [Nat.pow_eq, Nat.cast_mul, Nat.cast_pow, Nat.cast_ofNat, ← htwo, scale]
    ring
  rw [compareWith]
  obtain h | h | h := lt_trichotomy d.value (n * 2 ^ q)
  · rw [compare_lt_iff_lt.mpr h, Nat.compare_eq_lt, ← Nat.cast_lt (α := ℚ), hleft, hright]
    exact mul_lt_mul_of_pos_right h hscale
  · rw [compare_eq_iff_eq.mpr h, Nat.compare_eq_eq, ← Nat.cast_inj (R := ℚ), hleft, hright, h]
  · rw [compare_gt_iff_gt.mpr h, Nat.compare_eq_gt, ← Nat.cast_lt (α := ℚ), hleft, hright]
    exact mul_lt_mul_of_pos_right h hscale

/-- How many quarters of a unit in the last place lie between a double and the point below it where
    rounding changes. -/
def quartersBelow (x : Binary64) : Nat :=
  if x.significand = Nat.pow 2 52 ∧ -1074 < x.exponent then 1 else 2

/-- The point below a double where rounding changes. -/
def lowBound (x : Binary64) : ℚ :=
  (4 * x.significand - quartersBelow x : Nat) * 2 ^ (x.exponent - 2)

/-- The point above a double where rounding changes. -/
def highBound (x : Binary64) : ℚ :=
  (4 * x.significand + 2 : Nat) * 2 ^ (x.exponent - 2)

variable {d : Decimal} {x : Binary64}

theorem roundsTo_iff :
    d.roundsTo x = true ↔
      (lowBound x < d.value ∨ x.significand % 2 = 0 ∧ d.value = lowBound x) ∧
        (d.value < highBound x ∨ x.significand % 2 = 0 ∧ d.value = highBound x) := by
  simp only [roundsTo, compareWith_eq_compare, compare_gt_iff_gt, compare_lt_iff_lt,
    compare_eq_iff_eq, decide_eq_true_eq, lowBound, highBound, quartersBelow]

theorem quartersBelow_le (x : Binary64) : quartersBelow x ≤ 2 := by
  unfold quartersBelow
  split <;> decide

theorem magnitude_eq (x : Binary64) : x.magnitude = 4 * x.significand * 2 ^ (x.exponent - 2) := by
  have htwo : (2 : ℚ) ^ x.exponent = 2 ^ (x.exponent - 2) * 4 := by
    rw [zpow_sub₀ (by norm_num)]
    norm_num
  rw [Binary64.magnitude, htwo]
  ring

theorem lowBound_add (hx : x.significand ≠ 0) :
    lowBound x + quartersBelow x * 2 ^ (x.exponent - 2) = x.magnitude := by
  have hle : quartersBelow x ≤ 4 * x.significand := by
    have hquarters := quartersBelow_le x
    omega
  rw [lowBound, magnitude_eq, Nat.cast_sub hle]
  push_cast
  ring

theorem highBound_eq (x : Binary64) : highBound x = x.magnitude + 2 * 2 ^ (x.exponent - 2) := by
  rw [highBound, magnitude_eq]
  push_cast
  ring

theorem lowBound_pos (hx : x.significand ≠ 0) : 0 < lowBound x := by
  have hpos : 0 < 4 * x.significand - quartersBelow x := by
    have hquarters := quartersBelow_le x
    omega
  unfold lowBound
  positivity

theorem lowBound_lt (hx : x.significand ≠ 0) : lowBound x < x.magnitude := by
  rw [← lowBound_add hx, lt_add_iff_pos_right]
  have hpos : 0 < quartersBelow x := by
    unfold quartersBelow
    split <;> decide
  positivity

theorem lt_highBound (x : Binary64) : x.magnitude < highBound x := by
  rw [highBound_eq, lt_add_iff_pos_right]
  positivity

theorem quotient_eq (x : Binary64) :
    0 < x.quotient.2 ∧ (x.quotient.1 : ℚ) = x.magnitude * x.quotient.2 := by
  have htwo := zpow_mul_pow_toNat_neg (b := 2) (by norm_num) x.exponent
  refine ⟨Nat.mul_pos Nat.one_pos (Nat.pow_pos (by decide)), ?_⟩
  simp only [Binary64.quotient, Binary64.scale, Binary64.magnitude, Nat.pow_eq, Nat.cast_mul,
    Nat.cast_pow, Nat.cast_ofNat, one_mul]
  rw [mul_assoc, htwo]

/-- The magnitude of a double lies between two neighbours of a grid. -/
theorem below_le_and_lt (x : Binary64) (e : Int) :
    (below x e).digits * 10 ^ e ≤ x.magnitude ∧
      x.magnitude < ((below x e).digits + 1 : Nat) * 10 ^ e := by
  obtain ⟨hden, hnum⟩ := quotient_eq x
  have hten := zpow_mul_pow_toNat_neg (b := 10) (by norm_num) e
  let num := x.quotient.1 * Nat.pow 10 (-e).toNat
  let den := x.quotient.2 * Nat.pow 10 e.toNat
  have hpos : 0 < den := Nat.mul_pos hden (Nat.pow_pos (by decide))
  have hdigits : (below x e).digits = num / den := rfl
  let scale : ℚ := x.quotient.2 * 10 ^ (-e).toNat
  have hscale : 0 < scale := by positivity
  have hleft (k : Nat) : ((k * den : Nat) : ℚ) = k * 10 ^ e * scale := by
    simp only [den, scale, Nat.pow_eq, Nat.cast_mul, Nat.cast_pow, Nat.cast_ofNat, ← hten]
    ring
  have hright : (num : ℚ) = x.magnitude * scale := by
    simp only [num, scale, Nat.pow_eq, Nat.cast_mul, Nat.cast_pow, Nat.cast_ofNat, hnum]
    ring
  have hlow : num / den * den ≤ num := Nat.div_mul_le_self num den
  have hhigh : num < (num / den + 1) * den := Nat.lt_mul_of_div_lt (Nat.lt_succ_self _) hpos
  rw [hdigits]
  constructor
  · rw [← mul_le_mul_iff_left₀ hscale, ← hleft, ← hright]
    exact_mod_cast hlow
  · rw [← mul_lt_mul_iff_left₀ hscale, ← hleft, ← hright]
    exact_mod_cast hhigh

/-- What is chosen on a grid is one of the two neighbours and rounds to the double. -/
theorem of_onGrid?_eq_some {e : Int} (h : onGrid? x e = some d) :
    d.digits ≤ (below x e).digits + 1 ∧ d.roundsTo x = true := by
  unfold onGrid? at h
  extract_lets low high at h
  have hlow (hrounds : low.roundsTo x = true) :
      low.digits ≤ low.digits + 1 ∧ low.roundsTo x = true := ⟨Nat.le_succ _, hrounds⟩
  have hhigh (hrounds : high.roundsTo x = true) :
      high.digits ≤ low.digits + 1 ∧ high.roundsTo x = true := ⟨le_rfl, hrounds⟩
  split at h
  next hlowRounds =>
    split at h
    next hhighRounds =>
      split at h <;> rw [← Option.some.inj h]
      next => exact hlow hlowRounds
      next => exact hhigh hhighRounds
      next =>
        split
        next => exact hlow hlowRounds
        next => exact hhigh hhighRounds
    next => exact Option.some.inj h ▸ hlow hlowRounds
  next =>
    split at h
    next hhighRounds => exact Option.some.inj h ▸ hhigh hhighRounds
    next => cases h

/-- Nothing is chosen only if neither of them does. -/
theorem roundsTo_of_onGrid?_eq_none {e : Int} (h : onGrid? x e = none) :
    (below x e).roundsTo x = false ∧
      (⟨(below x e).digits + 1, e⟩ : Decimal).roundsTo x = false := by
  simp only [onGrid?] at h
  split at h
  next =>
    split at h
    next => split at h <;> cases h
    next => cases h
  next hlow =>
    split at h
    next => cases h
    next hhigh => exact ⟨by simpa using hlow, by simpa using hhigh⟩

/-- A grid is tried in vain only if it is wider than the interval of what rounds to the double. -/
theorem le_of_onGrid?_eq_none (hx : x.significand ≠ 0) {e : Int} (h : onGrid? x e = none) :
    (quartersBelow x + 2 : Nat) * (2 : ℚ) ^ (x.exponent - 2) ≤ 10 ^ e := by
  obtain ⟨hbelow, habove⟩ := below_le_and_lt x e
  obtain ⟨hlow, hhigh⟩ := roundsTo_of_onGrid?_eq_none h
  rw [Bool.eq_false_iff, ne_eq, roundsTo_iff] at hlow hhigh
  have hlow : (below x e).digits * 10 ^ e ≤ lowBound x := by
    by_contra hless
    exact hlow ⟨Or.inl (not_le.mp hless), Or.inl (hbelow.trans_lt (lt_highBound x))⟩
  have hhigh : highBound x ≤ ((below x e).digits + 1 : Nat) * 10 ^ e := by
    by_contra hless
    exact hhigh ⟨Or.inl ((lowBound_lt hx).trans habove), Or.inl (not_le.mp hless)⟩
  have hlowBound := lowBound_add hx
  have hhighBound := highBound_eq x
  push_cast at hhigh ⊢
  linarith

/-- The first grid that holds a decimal is the coarsest one, or the one before it holds none. -/
theorem exists_grid {e : Int} {steps : Nat} (h : firstOnGrid? x e steps = some d) :
    ∃ f ≤ e, onGrid? x f = some d ∧ (f = e ∨ onGrid? x (f + 1) = none) := by
  induction steps generalizing e with
  | zero => cases h
  | succ steps ih =>
    rw [firstOnGrid?] at h
    split at h
    next hgrid =>
      cases h
      exact ⟨e, le_rfl, hgrid, Or.inl rfl⟩
    next hnone =>
      obtain ⟨f, hle, hgrid, hcoarser⟩ := ih h
      refine ⟨f, by omega, hgrid, Or.inr ?_⟩
      obtain rfl | hcoarser := hcoarser
      · rwa [sub_add_cancel]
      · exact hcoarser

theorem digits_pos_of_roundsTo (hx : x.significand ≠ 0) (h : d.roundsTo x = true) :
    0 < d.digits := by
  refine Nat.pos_of_ne_zero fun hdigits => ?_
  have hvalue : d.value = 0 := by rw [value, hdigits, Nat.cast_zero, zero_mul]
  have hpos := lowBound_pos hx
  obtain ⟨hlow | ⟨_, hlow⟩, _⟩ := roundsTo_iff.mp h <;> linarith

/-- The shortest decimal of zero is zero; that of any other double is a decimal of the first grid
    that holds one, or none was found. -/
theorem shortest_cases (x : Binary64) :
    shortest x = ⟨0, 0⟩ ∨ x.significand ≠ 0 ∧ ∃ f ≤ 308, onGrid? x f = some (shortest x) ∧
      (f = 308 ∨ onGrid? x (f + 1) = none) := by
  unfold shortest
  split
  next => exact Or.inl rfl
  next hx =>
    cases hgrid : firstOnGrid? x 308 633 with
    | none => exact Or.inl rfl
    | some d => exact Or.inr ⟨hx, exists_grid hgrid⟩

/-- Only zero has no digits, and it has no exponent then. -/
theorem exponent_shortest (x : Binary64) (h : (shortest x).digits = 0) :
    (shortest x).exponent = 0 := by
  obtain hzero | ⟨hx, f, _, hgrid, _⟩ := shortest_cases x
  · rw [hzero]
  · obtain ⟨_, hrounds⟩ := of_onGrid?_eq_some hgrid
    exact absurd h (Nat.ne_of_gt (digits_pos_of_roundsTo hx hrounds))

/-- The significand in quarters against the width of the interval in quarters. -/
theorem four_mul_significand_le (h : x.Bounded) :
    4 * x.significand ≤ 2 ^ 53 * (quartersBelow x + 2) := by
  have hsignificand := h.significand
  unfold quartersBelow
  split
  next hnarrow =>
    rw [hnarrow.1]
    norm_num
  next => omega

theorem magnitude_le_of_onGrid?_eq_none (hx : x.significand ≠ 0) (h : x.Bounded) {f : Int}
    (hnone : onGrid? x (f + 1) = none) : x.magnitude ≤ 2 ^ 53 * 10 * 10 ^ f := by
  have hwidth := le_of_onGrid?_eq_none hx hnone
  rw [zpow_add_one₀ (by norm_num)] at hwidth
  have hquarters : (4 * x.significand : ℚ) ≤ 2 ^ 53 * (quartersBelow x + 2 : Nat) := by
    exact_mod_cast four_mul_significand_le h
  have hunit : (0 : ℚ) ≤ 2 ^ (x.exponent - 2) := by positivity
  calc x.magnitude = 4 * x.significand * 2 ^ (x.exponent - 2) := magnitude_eq x
    _ ≤ 2 ^ 53 * (quartersBelow x + 2 : Nat) * 2 ^ (x.exponent - 2) :=
      mul_le_mul_of_nonneg_right hquarters hunit
    _ = 2 ^ 53 * ((quartersBelow x + 2 : Nat) * 2 ^ (x.exponent - 2)) := mul_assoc _ _ _
    _ ≤ 2 ^ 53 * (10 ^ f * 10) := mul_le_mul_of_nonneg_left hwidth (by positivity)
    _ = 2 ^ 53 * 10 * 10 ^ f := by ring

theorem magnitude_le (h : x.Bounded) : x.magnitude ≤ 2 ^ 53 * 10 * 10 ^ (308 : Int) := by
  have hsignificand : (x.significand : ℚ) ≤ 2 ^ 53 * 10 := by
    have hle : x.significand ≤ 2 ^ 53 * 10 := by
      have hlt := h.significand
      omega
    exact_mod_cast hle
  have hpower : (2 : ℚ) ^ x.exponent ≤ 10 ^ (308 : Int) := by
    have hlargest : 2 ^ 971 ≤ 10 ^ 308 := by decide +kernel
    calc (2 : ℚ) ^ x.exponent ≤ 2 ^ (971 : Int) := zpow_le_zpow_right₀ (by norm_num) h.exponent
      _ ≤ 10 ^ (308 : Int) := by exact_mod_cast hlargest
  exact mul_le_mul hsignificand hpower (by positivity) (by positivity)

/-- Seventeen digits are enough for every double. -/
theorem digits_shortest_lt (h : x.Bounded) : (shortest x).digits < 10 ^ 17 := by
  obtain hzero | ⟨hx, f, _, hgrid, hcoarser⟩ := shortest_cases x
  · rw [hzero]
    norm_num
  · have hmagnitude : x.magnitude ≤ 2 ^ 53 * 10 * 10 ^ f := by
      obtain rfl | hnone := hcoarser
      · exact magnitude_le h
      · exact magnitude_le_of_onGrid?_eq_none hx h hnone
    obtain ⟨hdigits, _⟩ := of_onGrid?_eq_some hgrid
    have hbelow := (below_le_and_lt x f).1.trans hmagnitude
    have hten : (0 : ℚ) < 10 ^ f := by positivity
    have hle : (below x f).digits ≤ 2 ^ 53 * 10 := by
      exact_mod_cast le_of_mul_le_mul_right hbelow hten
    omega

/-- A decimal that is a whole number has no more digits than it but for zeros at its end. -/
theorem exists_eq_mul_pow {n : Nat} (h : d.value = n) : ∃ m ≤ d.digits, ∃ k, n = m * 10 ^ k := by
  obtain ⟨k, hk | hk⟩ := Int.eq_nat_or_neg d.exponent
  · refine ⟨d.digits, le_rfl, k, ?_⟩
    rw [value, hk, zpow_natCast] at h
    exact_mod_cast h.symm
  · have hpow : (0 : ℚ) < 10 ^ k := by positivity
    rw [value, hk, zpow_neg, zpow_natCast, ← div_eq_mul_inv, div_eq_iff hpow.ne'] at h
    have hdigits : d.digits = n * 10 ^ k := by exact_mod_cast h
    exact ⟨n, hdigits ▸ Nat.le_mul_of_pos_right n (Nat.pow_pos (by decide)), 0, (mul_one n).symm⟩

end Decimal

end Discovery
