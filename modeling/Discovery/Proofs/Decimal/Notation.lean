import Mathlib
import Discovery.Proofs.Json.Literal

namespace Discovery

open Json Numeral

namespace Decimal

/-- Zeros behind the digits and a smaller exponent make no difference. -/
theorem value_mul_pow (n k : Nat) (e : Int) :
    value ⟨n * 10 ^ k, e - k⟩ = value ⟨n, e⟩ := by
  have hne : (10 : ℚ) ≠ 0 := by norm_num
  simp only [value, Nat.cast_mul, Nat.cast_pow, Nat.cast_ofNat]
  rw [mul_assoc, ← zpow_natCast (10 : ℚ) k, ← zpow_add₀ hne, add_sub_cancel]

variable {d : Decimal}

/-- The first one of more than one digit is no zero. -/
theorem isWhole_naturalDigits_append {n : Nat} {others : List Char} (hothers : IsDigits others)
    (hzero : n = 0 → others = []) : IsWhole (naturalDigits n ++ others) where
  digits := (isDigits_naturalDigits n).append hothers
  nonempty h := naturalDigits_ne_nil n (List.append_eq_nil_iff.mp h).1
  zero hhead := by
    rw [List.head?_append_of_ne_nil _ (naturalDigits_ne_nil n)] at hhead
    have hdigits := (isWhole_naturalDigits n).zero hhead
    have hvalue := congrArg digitsValue hdigits
    rw [digitsValue_naturalDigits] at hvalue
    rw [hzero hvalue, hdigits, List.append_nil]

/-- The digits up to any of them do not begin with a zero if all of them do not. -/
theorem isWhole_take {n k : Nat} (hn : 0 < n) (hk : 0 < k) :
    IsWhole ((naturalDigits n).take k) where
  digits c hc := isDigits_naturalDigits n c (List.mem_of_mem_take hc)
  nonempty h := by
    obtain hk' | hnil := List.take_eq_nil_iff.mp h
    · omega
    · exact naturalDigits_ne_nil n hnil
  zero hhead := by
    rw [List.head?_take, if_neg (by omega)] at hhead
    have hvalue := congrArg digitsValue ((isWhole_naturalDigits n).zero hhead)
    rw [digitsValue_naturalDigits] at hvalue
    exact absurd (show n = 0 from hvalue) (by omega)

/-- A literal is taken apart into what stands before the point, behind it and behind its mark. -/
theorem denotes_of_parts {negative : Bool} {whole power text : List Char} {e : Int}
    (fraction : List Char) (hwhole : IsWhole whole) (hfraction : IsDigits fraction)
    (hpower : IsPower power e)
    (htext : text = whole ++ pointed fraction ++ power)
    (hvalue : value ⟨digitsValue (whole ++ fraction), e - fraction.length⟩ = d.value) :
    Denotes (signOf negative ++ text) (signed negative d.value) := by
  rw [htext, ← hvalue, ← List.append_assoc, ← List.append_assoc]
  exact .intro negative hwhole hfraction hpower

theorem denotes_positional (negative : Bool) (hzero : d.digits = 0 → d.exponent = 0) :
    Denotes (signOf negative ++ d.positional) (signed negative d.value) := by
  have hdigits := digitsValue_naturalDigits d.digits
  unfold positional
  extract_lets digits places
  split
  next hexponent =>
    let zeros := List.replicate d.exponent.toNat '0'
    have hzeros : IsDigits zeros := isDigits_replicate_zero _
    have hwhole : IsWhole (digits ++ zeros) := by
      refine isWhole_naturalDigits_append hzeros fun h => ?_
      simp [zeros, hzero h]
    have hvalue : digitsValue (digits ++ zeros ++ ['0']) =
        d.digits * 10 ^ (d.exponent.toNat + 1) := by
      rw [digitsValue_append, digitsValue_append, hdigits, digitsValue_replicate_zero,
        List.length_replicate, pow_succ, ← mul_assoc]
      rfl
    have hexp : (0 - (['0'].length : Nat) : Int) = d.exponent - (d.exponent.toNat + 1 : Nat) := by
      rw [List.length_singleton]
      omega
    refine denotes_of_parts ['0'] hwhole (isDigits_replicate_zero 1) .absent ?_ ?_
    · simp [zeros, pointed]
    · rw [hvalue, hexp, value_mul_pow]
  next hexponent =>
    have hpos : 0 < d.digits := Nat.pos_of_ne_zero fun h => hexponent (Int.le_of_eq (hzero h).symm)
    have hexp : (0 - places : Int) = d.exponent := by omega
    split
    next hplaces =>
      let fraction := digits.drop (digits.length - places)
      have hlength : fraction.length = places := by
        rw [List.length_drop]
        omega
      have hfraction : fraction ≠ [] := by
        rw [← List.length_pos_iff]
        omega
      have hwhole : IsWhole (digits.take (digits.length - places)) := isWhole_take hpos (by omega)
      have hdrop : IsDigits fraction :=
        fun c hc => isDigits_naturalDigits _ c (List.mem_of_mem_drop hc)
      refine denotes_of_parts fraction hwhole hdrop .absent ?_ ?_
      · rw [List.append_nil, pointed_of_ne_nil hfraction]
      · rw [List.take_append_drop, hdigits, hlength, hexp]
    next hplaces =>
      let zeros := List.replicate (places - digits.length) '0'
      have hlength : (zeros ++ digits).length = places := by
        rw [List.length_append, List.length_replicate]
        omega
      have hfraction : zeros ++ digits ≠ [] :=
        fun h => naturalDigits_ne_nil _ (List.append_eq_nil_iff.mp h).2
      have hvalue : digitsValue (['0'] ++ (zeros ++ digits)) = d.digits := by
        rw [digitsValue_append, digitsValue_append, digitsValue_replicate_zero, hdigits,
          show digitsValue ['0'] = 0 from rfl, zero_mul, zero_mul, zero_add, zero_add]
      refine denotes_of_parts (zeros ++ digits) (isWhole_naturalDigits 0)
        ((isDigits_replicate_zero _).append (isDigits_naturalDigits _)) .absent ?_ ?_
      · rw [List.append_nil, pointed_of_ne_nil hfraction, List.append_assoc]
        rfl
      · rw [show naturalDigits 0 = ['0'] from rfl, hvalue, hlength, hexp]

theorem isPower_exponent (e : Int) :
    IsPower ('e' :: (if e < 0 then '-' else '+') :: naturalDigits e.natAbs) e := by
  have hmark : isMark 'e' = true := rfl
  have hdigits := isDigits_naturalDigits e.natAbs
  have hvalue := digitsValue_naturalDigits e.natAbs
  split
  next hneg =>
    have hpower := IsPower.down hmark (naturalDigits_ne_nil _) hdigits
    have habs : -(e.natAbs : Int) = e := by omega
    rwa [hvalue, habs] at hpower
  next hneg =>
    have hpower := IsPower.up hmark (naturalDigits_ne_nil _) hdigits
    have habs : (e.natAbs : Int) = e := by omega
    rwa [hvalue, habs] at hpower

theorem denotes_scientific (negative : Bool) :
    Denotes (signOf negative ++ d.scientific) (signed negative d.value) := by
  have hwhole := isWhole_naturalDigits d.digits
  have hvalue := digitsValue_naturalDigits d.digits
  have hexponent := isPower_exponent d.leadingExponent
  have hlead : d.leadingExponent = d.exponent + (naturalDigits d.digits).length - 1 := rfl
  unfold scientific
  extract_lets e exponent
  generalize hdigits : naturalDigits d.digits = digits at *
  split
  next => exact absurd rfl hwhole.nonempty
  next digit =>
    refine denotes_of_parts [] hwhole isDigits_nil hexponent rfl ?_
    rw [List.append_nil, hvalue, hlead]
    simp
  next digit others hothers =>
    have hfraction : others ≠ [] := fun h => hothers (h ▸ rfl)
    obtain ⟨hdigit, hothersDigits⟩ := List.forall_mem_cons.mp hwhole.digits
    refine denotes_of_parts others (isWhole_singleton hdigit) hothersDigits hexponent ?_ ?_
    · rw [pointed_of_ne_nil hfraction]
      rfl
    · rw [List.singleton_append, hvalue, hlead, List.length_cons]
      congr 2
      omega

/-- What is written for a decimal denotes it, as long as a zero has no exponent. -/
theorem denotes_written (negative : Bool) (hzero : d.digits = 0 → d.exponent = 0) :
    Denotes (signOf negative ++ d.written) (signed negative d.value) := by
  unfold written
  split
  next => exact denotes_positional negative hzero
  next => exact denotes_scientific negative

end Decimal

/-- What is written for a double denotes its shortest decimal with its sign. -/
theorem Binary64.denotes_digits (x : Binary64) :
    Denotes x.digits (signed x.negative (Decimal.shortest x).value) := by
  have hdenotes := Decimal.denotes_written x.negative (Decimal.exponent_shortest x)
  obtain ⟨negative, significand, exponent⟩ := x
  cases negative <;> exact hdenotes

end Discovery
