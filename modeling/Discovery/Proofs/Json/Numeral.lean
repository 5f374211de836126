import Discovery.Proofs.Json.Grammar

namespace Discovery.Json

theorem digit?_digitChar : ∀ d < 10, digit? (Nat.digitChar d) = some d := by
  decide

theorem start?_digitChar : ∀ d < 10, 0 < d →
    Numeral.start? (Nat.digitChar d) = some (.whole false d) := by
  decide

theorem eq_digitChar_of_digit? {c : Char} {d : Nat} (h : digit? c = some d) :
    d < 10 ∧ c = Nat.digitChar d := by
  unfold digit? at h
  split at h
  next hdigit =>
    rw [Char.isDigit, Bool.and_eq_true, decide_eq_true_eq, decide_eq_true_eq] at hdigit
    have hlow : 48 ≤ c.toNat := hdigit.1
    have hhigh : c.toNat ≤ 57 := hdigit.2
    obtain rfl := Option.some.inj h
    refine ⟨by omega, Char.toNat_inj.mp ?_⟩
    rw [Nat.toNat_digitChar_of_lt_ten (by omega)]
    omega
  next => cases h

theorem pos_of_digit? {c : Char} {d : Nat} (h : digit? c = some d) (hzero : c ≠ '0') : 0 < d := by
  obtain ⟨_, rfl⟩ := eq_digitChar_of_digit? h
  refine Nat.pos_of_ne_zero fun heq => hzero ?_
  rw [heq]
  rfl

theorem naturalDigits_of_lt {d : Nat} (hd : d < 10) : naturalDigits d = [Nat.digitChar d] :=
  Nat.toDigits_of_lt_base hd

theorem naturalDigits_concat {n d : Nat} (hpos : 0 < n) (hd : d < 10) :
    naturalDigits (n * 10 + d) = naturalDigits n ++ [Nat.digitChar d] := by
  have hdiv : (n * 10 + d) / 10 = n := by omega
  have hmod : (n * 10 + d) % 10 = d := by omega
  rw [naturalDigits, Nat.toDigits_of_base_le (by decide) (by omega), hdiv, hmod]
  rfl

/-- Whether a character ends every numeral that could end before it. -/
def EndsNumeral (c : Char) : Prop :=
  digit? c = none ∧ c ≠ '.' ∧ Numeral.isMark c = false

instance (c : Char) : Decidable (EndsNumeral c) :=
  inferInstanceAs (Decidable (_ ∧ _))

namespace Numeral

theorem next_of_endsNumeral {n : Numeral} {x : Number} {c : Char} (hvalue : n.value = .ok x)
    (hc : EndsNumeral c) : n.next c = .ok none := by
  obtain ⟨hdigit, hpoint, hmark⟩ := hc
  cases n with
  | sign | point | mark | markSign => cases hvalue
  | _ => simp [next, afterDigits, hdigit, hpoint, hmark]

/-- The sign of a numeral. -/
def signOf (negative : Bool) : List Char :=
  if negative then ['-'] else []

theorem after_firstDigit (negative : Bool) {d : Nat} (hpos : 0 < d) (hd : d < 10) :
    After (signOf negative ++ [Nat.digitChar d]) (.whole negative d) := by
  cases negative with
  | false => exact .start (start?_digitChar d hd hpos)
  | true =>
    have hzero : Nat.digitChar d ≠ '0' := by
      intro heq
      have hvalue := digit?_digitChar d hd
      rw [heq] at hvalue
      have hd : 0 = d := Option.some.inj hvalue
      omega
    exact .next (.start rfl) (by simp [next, hzero, digit?_digitChar d hd])

/-- The digits of a number gather in the significand. -/
theorem after_naturalDigits (negative : Bool) {n : Nat} (hpos : 0 < n) (hlimit : n ≤ significandLimit) :
    After (signOf negative ++ naturalDigits n) (.whole negative n) := by
  induction n using Nat.strongRecOn with
  | ind n ih =>
    by_cases hsmall : n < 10
    · rw [naturalDigits_of_lt hsmall]
      exact after_firstDigit negative hpos hsmall
    · have hmod : n % 10 < 10 := Nat.mod_lt n (by decide)
      have hsum : n / 10 * 10 + n % 10 = n := by omega
      have hdigits : naturalDigits n = naturalDigits (n / 10) ++ [Nat.digitChar (n % 10)] := by
        rw [← naturalDigits_concat (by omega) hmod, hsum]
      rw [hdigits, ← List.append_assoc]
      refine .next (ih (n / 10) (by omega) (by omega) (by omega)) ?_
      simp [next, digit?_digitChar _ hmod, extend?, hsum, hlimit]

/-- The digits of an integer that 64 bits hold make a numeral that stands for it. -/
theorem exists_after_integerDigits {i : Int} (hlow : -9223372036854775808 ≤ i)
    (hhigh : i ≤ 18446744073709551615) :
    ∃ n, After (integerDigits i) n ∧ n.value = .ok (.integer i) := by
  by_cases hneg : i < 0
  · have hbounds : 0 < i.natAbs ∧ i.natAbs ≤ 9223372036854775808 := by omega
    have habs : -(i.natAbs : Int) = i := by omega
    have hafter := after_naturalDigits true hbounds.1 (by simp only [significandLimit]; omega)
    refine ⟨.whole true i.natAbs, ?_, ?_⟩
    · rw [integerDigits, if_pos hneg]
      exact hafter
    · rw [value, integer, if_neg (by decide), if_pos hbounds, habs]
  · have habs : (i.natAbs : Int) = i := by omega
    by_cases hzero : i = 0
    · subst hzero
      exact ⟨.zero false, .start rfl, rfl⟩
    · have hpos : 0 < i.natAbs := by omega
      have hafter := after_naturalDigits false hpos (by simp only [significandLimit]; omega)
      refine ⟨.whole false i.natAbs, ?_, ?_⟩
      · rw [integerDigits, if_neg hneg]
        exact hafter
      · simp [value, integer, habs]

/-- What a literal looks like while it may still be that of an integer. -/
def Keeps : Numeral → List Char → Prop
  | .sign, literal => literal = ['-']
  | .zero negative, literal => literal = signOf negative ++ ['0']
  | .whole negative significand, literal =>
    0 < significand ∧ significand ≤ significandLimit ∧
      literal = signOf negative ++ naturalDigits significand
  | _, _ => True

theorem keeps_firstDigit (negative : Bool) {c : Char} {d : Nat} (hdigit : digit? c = some d)
    (hzero : c ≠ '0') : (Numeral.whole negative d).Keeps (signOf negative ++ [c]) := by
  obtain ⟨hd, rfl⟩ := eq_digitChar_of_digit? hdigit
  refine ⟨pos_of_digit? hdigit hzero, by simp only [significandLimit]; omega, ?_⟩
  rw [naturalDigits_of_lt hd]

theorem keeps_of_start? {c : Char} {n : Numeral} (h : start? c = some n) : n.Keeps [c] := by
  unfold start? at h
  split at h
  next hsign =>
    cases h
    rw [hsign]
    rfl
  next =>
    split at h
    next hzero =>
      cases h
      rw [hzero]
      rfl
    next hzero =>
      obtain ⟨d, hdigit, rfl⟩ := Option.map_eq_some_iff.mp h
      exact keeps_firstDigit false hdigit hzero

theorem keeps_of_afterDigits {negative : Bool} {significand : Nat} {scale : Int}
    {pointAllowed : Bool} {c : Char} {m : Numeral} (literal : List Char)
    (h : afterDigits negative significand scale pointAllowed c = some m) : m.Keeps literal := by
  unfold afterDigits at h
  split at h
  next =>
    cases h
    trivial
  next =>
    split at h
    next =>
      cases h
      trivial
    next => cases h

theorem keeps_afterPoint (negative : Bool) (significand : Nat) (scale : Int) (d : Nat)
    (literal : List Char) : (afterPoint negative significand scale d).Keeps literal := by
  unfold afterPoint
  split <;> trivial

theorem keeps_of_next {literal : List Char} {c : Char} {n m : Numeral} (hn : n.Keeps literal)
    (h : n.next c = .ok (some m)) : m.Keeps (literal ++ [c]) := by
  have hexp {negative : Bool} {significand : Nat} {scale : Int} {pointAllowed : Bool}
      (h : Except.ok (afterDigits negative significand scale pointAllowed c) =
        (.ok (some m) : Except Fault _)) : m.Keeps (literal ++ [c]) :=
    keeps_of_afterDigits _ (Except.ok.inj h)
  cases n with
  | sign =>
    simp only [next] at h
    split at h
    next hzero =>
      cases h
      rw [hn, hzero]
      rfl
    next hzero =>
      split at h
      next d hdigit =>
        cases h
        rw [hn]
        exact keeps_firstDigit true hdigit hzero
      next => cases h
  | whole negative significand =>
    obtain ⟨hpos, _, rfl⟩ := hn
    simp only [next] at h
    split at h
    next d hdigit =>
      obtain ⟨hd, rfl⟩ := eq_digitChar_of_digit? hdigit
      unfold extend? at h
      split at h
      next s hs =>
        split at hs
        next hlimit =>
          cases hs
          cases h
          refine ⟨by omega, hlimit, ?_⟩
          rw [List.append_assoc, naturalDigits_concat hpos hd]
        next => cases hs
      next =>
        cases h
        trivial
    next => exact hexp h
  | point | fraction =>
    simp only [next] at h
    split at h
    next =>
      cases h
      exact keeps_afterPoint _ _ _ _ _
    next => first | cases h | exact hexp h
  | zero | long | excess =>
    simp only [next] at h
    split at h
    next =>
      cases h
      try trivial
    next => exact hexp h
  | mark | markSign | power | vanishing =>
    simp only [next] at h
    repeat' split at h
    all_goals
      cases h
      try trivial

theorem keeps_of_after {literal : List Char} {n : Numeral} (h : After literal n) :
    n.Keeps literal := by
  induction h with
  | start hstart => exact keeps_of_start? hstart
  | next _ hnext ih => exact keeps_of_next ih hnext

theorem map_double_ne_integer (x? : Option Binary64) (i : Int) :
    x?.map Number.double ≠ some (.integer i) := by
  cases x? <;> simp

theorem integer_eq_integer {negative : Bool} {significand : Nat} {i : Int}
    (h : integer negative significand = some (.integer i)) :
    (negative = false ∧ i = significand) ∨
      (negative = true ∧ 0 < significand ∧ significand ≤ 9223372036854775808 ∧
        i = -(significand : Int)) := by
  unfold integer at h
  cases negative with
  | false =>
    cases h
    exact Or.inl ⟨rfl, rfl⟩
  | true =>
    rw [if_neg (by decide)] at h
    split at h
    next hbounds =>
      cases h
      exact Or.inr ⟨rfl, hbounds.1, hbounds.2, rfl⟩
    next => exact absurd h (map_double_ne_integer _ _)

/-- Only digits without anything behind them stand for an integer. -/
theorem value_eq_integer {n : Numeral} {i : Int} (h : n.value = .ok (.integer i)) :
    ∃ negative significand, (n = .zero negative ∧ significand = 0 ∨ n = .whole negative significand) ∧
      integer negative significand = some (.integer i) := by
  cases n with
  | sign | point | mark | markSign | vanishing => cases h
  | zero negative =>
    simp only [value] at h
    split at h
    next x hx =>
      cases h
      exact ⟨negative, 0, Or.inl ⟨rfl, rfl⟩, hx⟩
    next => cases h
  | whole negative significand =>
    simp only [value] at h
    split at h
    next x hx =>
      cases h
      exact ⟨negative, significand, Or.inr rfl, hx⟩
    next => cases h
  | long | fraction | excess | power =>
    simp only [value] at h
    split at h
    next x hx =>
      cases h
      exact absurd hx (map_double_ne_integer _ _)
    next => cases h

/-- A literal that stands for an integer consists of its digits. -/
theorem eq_integerDigits_of_after {literal : List Char} {n : Numeral} {i : Int}
    (h : After literal n) (hvalue : n.value = .ok (.integer i)) :
    literal = integerDigits i ∧ -9223372036854775808 ≤ i ∧ i ≤ 18446744073709551615 := by
  have hkeeps := keeps_of_after h
  obtain ⟨negative, significand, hn, hinteger⟩ := value_eq_integer hvalue
  have hliteral : literal = signOf negative ++ naturalDigits significand ∧
      significand ≤ significandLimit := by
    obtain ⟨rfl, rfl⟩ | rfl := hn
    · exact ⟨hkeeps, Nat.zero_le _⟩
    · exact ⟨hkeeps.2.2, hkeeps.2.1⟩
  obtain ⟨rfl, hlimit⟩ := hliteral
  rw [significandLimit] at hlimit
  obtain ⟨rfl, rfl⟩ | ⟨rfl, hpos, hbound, rfl⟩ := integer_eq_integer hinteger
  · have hsign : ¬ (significand : Int) < 0 := by omega
    refine ⟨?_, by omega, by omega⟩
    rw [integerDigits, if_neg hsign, Int.natAbs_natCast]
    rfl
  · have hsign : -(significand : Int) < 0 := by omega
    refine ⟨?_, by omega, by omega⟩
    rw [integerDigits, if_pos hsign, Int.natAbs_neg, Int.natAbs_natCast]
    rfl

end Numeral

/-- A number is written as the literals that stand for it. -/
theorem Number.isWritten_iff {x : Number} {literal : List Char} :
    x.IsWritten literal ↔ ∃ n, Numeral.After literal n ∧ n.value = .ok x := by
  constructor
  · intro h
    cases h with
    | integer hlow hhigh => exact Numeral.exists_after_integerDigits hlow hhigh
    | double hafter hvalue => exact ⟨_, hafter, hvalue⟩
  · rintro ⟨n, hafter, hvalue⟩
    cases x with
    | integer i =>
      obtain ⟨rfl, hlow, hhigh⟩ := Numeral.eq_integerDigits_of_after hafter hvalue
      exact .integer hlow hhigh
    | double x => exact .double hafter hvalue

end Discovery.Json
