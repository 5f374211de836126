import Mathlib
import Discovery.Proofs.Decimal.Notation
import Discovery.Proofs.Json.Atoms

namespace Discovery.Json

open Numeral (After signOf)

/-- What stands before the exponent mark of a literal, or makes it up alone. -/
def IsUnscaled (text : List Char) : Prop :=
  ∃ negative whole fraction, IsWhole whole ∧ IsDigits fraction ∧
    text = signOf negative ++ whole ++ pointed fraction

namespace Numeral

/-- What has been seen of a literal at each point of it. -/
def Seen : Numeral → List Char → Prop
  | .sign, text => text = ['-']
  | .zero negative, text => text = signOf negative ++ ['0']
  | .whole negative _, text | .long negative _ _, text =>
    ∃ whole, IsWhole whole ∧ whole.head? ≠ some '0' ∧ text = signOf negative ++ whole
  | .point negative _ _, text => ∃ whole, IsWhole whole ∧ text = signOf negative ++ whole ++ ['.']
  | .fraction negative _ _, text | .excess negative _ _, text =>
    ∃ whole digits, IsWhole whole ∧ IsDigits digits ∧ digits ≠ [] ∧
      text = signOf negative ++ whole ++ '.' :: digits
  | .mark .., text => ∃ front mark, IsUnscaled front ∧ isMark mark = true ∧ text = front ++ [mark]
  | .markSign .., text => ∃ front mark sign, IsUnscaled front ∧ isMark mark = true ∧
    sign ∈ ['+', '-'] ∧ text = front ++ [mark, sign]
  | .power .., text | .vanishing _, text => ∃ front power e, IsUnscaled front ∧ IsPower power e ∧
    power ≠ [] ∧ text = front ++ power

variable {text : List Char} {c : Char} {d : Nat} {n m : Numeral}

theorem isDigit_of_digit? (h : digit? c = some d) : c.isDigit = true := by
  unfold digit? at h
  split at h
  next hdigit => exact hdigit
  next => cases h

theorem seen_firstDigit (negative : Bool) (hdigit : digit? c = some d) (hzero : c ≠ '0') :
    ∃ whole, IsWhole whole ∧ whole.head? ≠ some '0' ∧
      signOf negative ++ [c] = signOf negative ++ whole :=
  ⟨[c], isWhole_singleton (isDigit_of_digit? hdigit), fun h => hzero (Option.some.inj h), rfl⟩

theorem seen_of_start? (h : start? c = some n) : n.Seen [c] := by
  unfold start? at h
  split at h
  next hsign =>
    cases h
    exact hsign ▸ rfl
  next =>
    split at h
    next hzero =>
      cases h
      exact hzero ▸ rfl
    next hzero =>
      obtain ⟨d, hdigit, rfl⟩ := Option.map_eq_some_iff.mp h
      exact seen_firstDigit false hdigit hzero

theorem isWhole_concat {whole : List Char} (hwhole : IsWhole whole) (hhead : whole.head? ≠ some '0')
    (hc : c.isDigit = true) : IsWhole (whole ++ [c]) ∧ (whole ++ [c]).head? ≠ some '0' := by
  have hhead' : (whole ++ [c]).head? ≠ some '0' := by
    rwa [List.head?_append_of_ne_nil _ hwhole.nonempty]
  exact ⟨⟨hwhole.digits.append (List.forall_mem_singleton.mpr hc),
    List.append_ne_nil_of_left_ne_nil hwhole.nonempty _, fun h => absurd h hhead'⟩, hhead'⟩

theorem exists_isPower_concat {power : List Char} {e : Int} (h : IsPower power e) (hne : power ≠ [])
    (hc : c.isDigit = true) : ∃ f, IsPower (power ++ [c]) f := by
  have hdigits {digits : List Char} (h : IsDigits digits) : IsDigits (digits ++ [c]) :=
    h.append (List.forall_mem_singleton.mpr hc)
  have hnonempty (digits : List Char) : digits ++ [c] ≠ [] :=
    List.append_ne_nil_of_right_ne_nil digits (List.cons_ne_nil c [])
  cases h with
  | absent => exact absurd rfl hne
  | unsigned hmark _ h => exact ⟨_, .unsigned hmark (hnonempty _) (hdigits h)⟩
  | up hmark _ h => exact ⟨_, .up hmark (hnonempty _) (hdigits h)⟩
  | down hmark _ h => exact ⟨_, .down hmark (hnonempty _) (hdigits h)⟩

theorem isUnscaled_whole (negative : Bool) {whole : List Char} (h : IsWhole whole) :
    IsUnscaled (signOf negative ++ whole) :=
  ⟨negative, whole, [], h, isDigits_nil, (List.append_nil _).symm⟩

theorem isUnscaled_fraction (negative : Bool) {whole digits : List Char} (hwhole : IsWhole whole)
    (hdigits : IsDigits digits) (hne : digits ≠ []) :
    IsUnscaled (signOf negative ++ whole ++ '.' :: digits) :=
  ⟨negative, whole, digits, hwhole, hdigits, by rw [pointed_of_ne_nil hne]⟩

theorem seen_of_afterDigits {negative : Bool} {significand : Nat} {scale : Int}
    {pointAllowed : Bool}
    (htext : IsUnscaled text)
    (hpoint : pointAllowed = true → ∃ whole, IsWhole whole ∧ text = signOf negative ++ whole)
    (h : afterDigits negative significand scale pointAllowed c = some m) :
    m.Seen (text ++ [c]) := by
  unfold afterDigits at h
  split at h
  next hc =>
    cases h
    obtain ⟨hallowed, hc⟩ := Bool.and_eq_true_iff.mp hc
    obtain ⟨whole, hwhole, rfl⟩ := hpoint hallowed
    exact ⟨whole, hwhole, by rw [of_decide_eq_true hc]⟩
  next =>
    split at h
    next hmark =>
      cases h
      exact ⟨text, c, htext, hmark, rfl⟩
    next => cases h

theorem seen_of_afterPoint {negative : Bool} {whole digits : List Char} (hwhole : IsWhole whole)
    (hdigits : IsDigits digits) (hc : c.isDigit = true) (significand : Nat) (scale : Int)
    (d : Nat) : (afterPoint negative significand scale d).Seen
      (signOf negative ++ whole ++ '.' :: digits ++ [c]) := by
  have hseen : ∃ whole' digits', IsWhole whole' ∧ IsDigits digits' ∧ digits' ≠ [] ∧
      signOf negative ++ whole ++ '.' :: digits ++ [c] =
        signOf negative ++ whole' ++ '.' :: digits' := by
    refine ⟨whole, digits ++ [c], hwhole, hdigits.append (List.forall_mem_singleton.mpr hc), ?_, ?_⟩
    · exact List.append_ne_nil_of_right_ne_nil digits (List.cons_ne_nil c [])
    · rw [List.append_assoc, List.cons_append]
  unfold afterPoint
  split <;> exact hseen

theorem seen_of_next (hn : n.Seen text) (h : n.next c = .ok (some m)) : m.Seen (text ++ [c]) := by
  cases n with
  | sign =>
    obtain rfl : text = ['-'] := hn
    simp only [next] at h
    split at h
    next hzero =>
      cases h
      exact hzero ▸ rfl
    next hzero =>
      split at h
      next d hdigit =>
        cases h
        exact seen_firstDigit true hdigit hzero
      next => cases h
  | zero negative =>
    obtain rfl : text = signOf negative ++ ['0'] := hn
    simp only [next] at h
    split at h
    next => cases h
    next =>
      have hwhole : IsWhole ['0'] := isWhole_singleton rfl
      exact seen_of_afterDigits (isUnscaled_whole negative hwhole) (fun _ => ⟨_, hwhole, rfl⟩)
        (Except.ok.inj h)
  | whole negative | long negative =>
    obtain ⟨whole, hwhole, hhead, rfl⟩ := hn
    simp only [next] at h
    split at h
    next d hdigit =>
      obtain ⟨hlonger, hhead⟩ := isWhole_concat hwhole hhead (isDigit_of_digit? hdigit)
      have hseen : ∃ whole', IsWhole whole' ∧ whole'.head? ≠ some '0' ∧
          signOf negative ++ whole ++ [c] = signOf negative ++ whole' :=
        ⟨whole ++ [c], hlonger, hhead, List.append_assoc ..⟩
      first
        | cases h; exact hseen
        | split at h <;> (cases h; exact hseen)
    next =>
      exact seen_of_afterDigits (isUnscaled_whole negative hwhole) (fun _ => ⟨whole, hwhole, rfl⟩)
        (Except.ok.inj h)
  | point negative significand scale =>
    obtain ⟨whole, hwhole, rfl⟩ := hn
    simp only [next] at h
    split at h
    next d hdigit =>
      cases h
      exact seen_of_afterPoint hwhole isDigits_nil (isDigit_of_digit? hdigit) significand scale d
    next => cases h
  | fraction negative significand scale =>
    obtain ⟨whole, digits, hwhole, hdigits, hne, rfl⟩ := hn
    simp only [next] at h
    split at h
    next d hdigit =>
      cases h
      exact seen_of_afterPoint hwhole hdigits (isDigit_of_digit? hdigit) significand scale d
    next =>
      exact seen_of_afterDigits (isUnscaled_fraction negative hwhole hdigits hne)
        (fun hallowed => absurd hallowed Bool.false_ne_true) (Except.ok.inj h)
  | excess negative significand scale =>
    obtain ⟨whole, digits, hwhole, hdigits, hne, rfl⟩ := hn
    simp only [next] at h
    split at h
    next d hdigit =>
      cases h
      refine ⟨whole, digits ++ [c], hwhole,
        hdigits.append (List.forall_mem_singleton.mpr (isDigit_of_digit? hdigit)),
        List.append_ne_nil_of_left_ne_nil hne _, ?_⟩
      rw [List.append_assoc, List.cons_append]
    next =>
      exact seen_of_afterDigits (isUnscaled_fraction negative hwhole hdigits hne)
        (fun hallowed => absurd hallowed Bool.false_ne_true) (Except.ok.inj h)
  | mark =>
    obtain ⟨front, mark, hfront, hmark, rfl⟩ := hn
    simp only [next] at h
    split at h
    next hsign =>
      cases h
      exact ⟨front, mark, c, hfront, hmark, by simp [hsign], List.append_assoc ..⟩
    next =>
      split at h
      next hsign =>
        cases h
        exact ⟨front, mark, c, hfront, hmark, by simp [hsign], List.append_assoc ..⟩
      next =>
        split at h
        next d hdigit =>
          cases h
          exact ⟨front, _, _, hfront, .unsigned hmark (List.cons_ne_nil c [])
            (List.forall_mem_singleton.mpr (isDigit_of_digit? hdigit)), List.cons_ne_nil _ _,
            List.append_assoc ..⟩
        next => cases h
  | markSign =>
    obtain ⟨front, mark, sign, hfront, hmark, hsign, rfl⟩ := hn
    simp only [next] at h
    split at h
    next d hdigit =>
      cases h
      have hdigits : IsDigits [c] := List.forall_mem_singleton.mpr (isDigit_of_digit? hdigit)
      have hpower : ∃ e, IsPower [mark, sign, c] e := by
        simp only [List.mem_cons, List.not_mem_nil, or_false] at hsign
        obtain rfl | rfl := hsign
        · exact ⟨_, .up hmark (List.cons_ne_nil c []) hdigits⟩
        · exact ⟨_, .down hmark (List.cons_ne_nil c []) hdigits⟩
      obtain ⟨e, hpower⟩ := hpower
      exact ⟨front, _, e, hfront, hpower, List.cons_ne_nil _ _, List.append_assoc ..⟩
    next => cases h
  | power | vanishing =>
    obtain ⟨front, power, e, hfront, hpower, hne, rfl⟩ := hn
    simp only [next] at h
    split at h
    next d hdigit =>
      obtain ⟨f, hlonger⟩ := exists_isPower_concat hpower hne (isDigit_of_digit? hdigit)
      have hseen : ∃ front' power' e', IsUnscaled front' ∧ IsPower power' e' ∧ power' ≠ [] ∧
          front ++ power ++ [c] = front' ++ power' :=
        ⟨front, power ++ [c], f, hfront, hlonger, List.append_ne_nil_of_left_ne_nil hne _,
          List.append_assoc ..⟩
      repeat' split at h
      all_goals
        cases h
        try exact hseen
    next => cases h

theorem seen_of_after (h : After text n) : n.Seen text := by
  induction h with
  | start hstart => exact seen_of_start? hstart
  | next _ hnext ih => exact seen_of_next ih hnext

/-- What is read as a number denotes one. -/
theorem exists_denotes_of_after {x : Number} (h : After text n) (hvalue : n.value = .ok x) :
    ∃ q, Denotes text q := by
  have hunscaled {text : List Char} (h : IsUnscaled text) : ∃ q, Denotes text q := by
    obtain ⟨negative, whole, fraction, hwhole, hfraction, rfl⟩ := h
    have hdenotes := Denotes.intro negative hwhole hfraction .absent
    rw [List.append_nil] at hdenotes
    exact ⟨_, hdenotes⟩
  have hseen := seen_of_after h
  cases n with
  | sign | point | mark | markSign => cases hvalue
  | zero negative =>
    obtain rfl := hseen
    exact hunscaled (isUnscaled_whole negative (isWhole_singleton rfl))
  | whole negative | long negative =>
    obtain ⟨whole, hwhole, _, rfl⟩ := hseen
    exact hunscaled (isUnscaled_whole negative hwhole)
  | fraction negative | excess negative =>
    obtain ⟨whole, digits, hwhole, hdigits, hne, rfl⟩ := hseen
    exact hunscaled (isUnscaled_fraction negative hwhole hdigits hne)
  | power | vanishing =>
    obtain ⟨_, power, e, ⟨negative, whole, fraction, hwhole, hfraction, rfl⟩, hpower, _, rfl⟩ := hseen
    exact ⟨_, .intro negative hwhole hfraction hpower⟩

end Numeral

/-- The digits of a whole part are those of the number that they stand for. -/
theorem IsWhole.eq_naturalDigits {whole : List Char} (h : IsWhole whole) :
    whole = naturalDigits (digitsValue whole) := by
  induction whole using List.reverseRecOn with
  | nil => exact absurd rfl h.nonempty
  | append_singleton front c ih =>
    obtain ⟨hfront, hc⟩ := List.forall_mem_append.mp h.digits
    obtain ⟨d, hd⟩ : ∃ d, digit? c = some d := ⟨_, if_pos (hc c List.mem_cons_self)⟩
    obtain ⟨hlt, rfl⟩ := eq_digitChar_of_digit? hd
    have hlast : digitsValue [Nat.digitChar d] = d := by
      rw [← naturalDigits_of_lt hlt, digitsValue_naturalDigits]
    by_cases hempty : front = []
    · subst hempty
      rw [List.nil_append, hlast, naturalDigits_of_lt hlt]
    · have hzero : front.head? ≠ some '0' := by
        intro hhead
        have hwhole := h.zero (by rw [List.head?_append_of_ne_nil _ hempty, hhead])
        have hlength := congrArg List.length hwhole
        rw [List.length_append, List.length_singleton, List.length_singleton] at hlength
        exact hempty (List.length_eq_zero_iff.mp (by omega))
      have heq := ih ⟨hfront, hempty, fun hhead => absurd hhead hzero⟩
      have hpos : 0 < digitsValue front := by
        refine Nat.pos_of_ne_zero fun hvalue => hzero ?_
        rw [heq, hvalue]
        rfl
      rw [digitsValue_append, hlast, List.length_singleton, pow_one, naturalDigits_concat hpos hlt,
        ← heq]

theorem isInteger_integerDigits (i : Int) : IsInteger (integerDigits i) i := by
  have hvalue := digitsValue_naturalDigits i.natAbs
  unfold integerDigits
  split
  next hneg =>
    refine ⟨true, _, isWhole_naturalDigits i.natAbs, rfl, ?_⟩
    rw [hvalue, if_pos rfl]
    omega
  next hneg =>
    refine ⟨false, _, isWhole_naturalDigits i.natAbs, rfl, ?_⟩
    rw [hvalue, if_neg Bool.false_ne_true]
    omega

/-- An integer literal is the written form of its integer, or that of zero with a minus sign. -/
theorem IsInteger.eq_integerDigits {literal : List Char} {i : Int} (h : IsInteger literal i) :
    literal = integerDigits i ∨ (literal = ['-', '0'] ∧ i = 0) := by
  obtain ⟨negative, whole, hwhole, rfl, rfl⟩ := h
  have heq := hwhole.eq_naturalDigits
  generalize digitsValue whole = n at heq ⊢
  subst heq
  cases negative with
  | false => exact Or.inl (if_neg (Int.not_lt.mpr (Int.natCast_nonneg n))).symm
  | true =>
    obtain rfl | hpos := Nat.eq_zero_or_pos n
    · exact Or.inr ⟨rfl, rfl⟩
    · left
      have hneg : -(n : Int) < 0 := by omega
      rw [if_pos rfl, integerDigits, if_pos hneg, Int.natAbs_neg, Int.natAbs_natCast]
      rfl

namespace Numeral

/-- The characters of a literal make one numeral. -/
theorem After.unique {literal : List Char} {n m : Numeral} (h : After literal n)
    (h' : After literal m) : n = m := by
  have hrun {n : Numeral} (h : After literal n) :
      State.run ⟨.value, []⟩ literal = .ok ⟨.numeral n, []⟩ := by
    have hvalue : Expectation.value.AwaitsValue := trivial
    rw [← List.append_nil literal, State.run_after hvalue h]
    rfl
  have heq := (hrun h).symm.trans (hrun h')
  cases heq
  rfl

/-- Digits that do not fit are counted. -/
theorem exists_after_naturalDigits (negative : Bool) {n : Nat} (hlimit : significandLimit < n) :
    ∃ k, After (signOf negative ++ naturalDigits n) (.long negative (n / 10 ^ (k + 1)) (k + 1)) ∧
      n / 10 ^ (k + 1) ≤ significandLimit ∧ significandLimit < n / 10 ^ k := by
  induction n using Nat.strongRecOn with
  | ind n ih =>
    have hten : 10 ≤ n := by
      rw [significandLimit] at hlimit
      omega
    have hmod : n % 10 < 10 := Nat.mod_lt n (by decide)
    have hsum : n / 10 * 10 + n % 10 = n := by omega
    have hdigits : naturalDigits n = naturalDigits (n / 10) ++ [Nat.digitChar (n % 10)] := by
      rw [← naturalDigits_concat (by omega) hmod, hsum]
    rw [hdigits, ← List.append_assoc]
    by_cases hfits : n / 10 ≤ significandLimit
    · refine ⟨0, .next (after_naturalDigits negative (by omega) hfits) ?_, ?_, ?_⟩
      · simp [next, digit?_digitChar _ hmod, extend?, hsum, Nat.not_le.mpr hlimit]
      · simpa using hfits
      · simpa using hlimit
    · obtain ⟨k, hafter, hkept, hfirst⟩ := ih (n / 10) (by omega) (Nat.not_le.mp hfits)
      have hdiv (j : Nat) : n / 10 / 10 ^ j = n / 10 ^ (j + 1) := by
        rw [Nat.div_div_eq_div_mul, pow_succ']
      rw [hdiv] at hafter hkept hfirst
      refine ⟨k + 1, .next hafter ?_, hkept, hfirst⟩
      simp [next, digit?_digitChar _ hmod]

end Numeral

/-- What is made of an integer that 64 bits do not hold. As few of its last digits are dropped as
    possible, and each of them raises the exponent of ten. -/
def IsRead (i : Int) (x : Binary64) : Prop :=
  ∃ dropped : Nat, IsLeast {k : Nat | i.natAbs / 10 ^ k ≤ significandLimit} dropped ∧
    Binary64.ofDecimal? (i < 0) (i.natAbs / 10 ^ dropped) dropped = some x

theorem IsRead.unique {i : Int} {x y : Binary64} (h : IsRead i x) (h' : IsRead i y) : x = y := by
  obtain ⟨k, hk, hx⟩ := h
  obtain ⟨j, hj, hy⟩ := h'
  obtain rfl := hk.unique hj
  exact Option.some.inj (hx.symm.trans hy)

/-- One digit more does not fit. -/
theorem isLeast_dropped {n k : Nat} (hkept : n / 10 ^ (k + 1) ≤ significandLimit)
    (hfirst : significandLimit < n / 10 ^ k) :
    IsLeast {k : Nat | n / 10 ^ k ≤ significandLimit} (k + 1) := by
  refine ⟨hkept, fun j hj => ?_⟩
  by_contra hless
  have hpow : 10 ^ j ≤ 10 ^ k := Nat.pow_le_pow_right (by decide) (by omega)
  have hle : n / 10 ^ k ≤ n / 10 ^ j := Nat.div_le_div_left hpow (Nat.pow_pos (by decide))
  exact absurd (hle.trans hj) (Nat.not_le.mpr hfirst)

theorem IsRead.negative_eq {i : Int} {x : Binary64} (h : IsRead i x) :
    x.negative = decide (i < 0) := by
  obtain ⟨_, _, hx⟩ := h
  obtain ⟨y, _, rfl⟩ := Option.map_eq_some_iff.mp hx
  rfl

/-- Such an integer is printed as it was exactly when it is the shortest decimal of its double. -/
theorem IsRead.denotes_digits_iff {i : Int} {x : Binary64} (h : IsRead i x) :
    Denotes x.digits i ↔ (Decimal.shortest x).value = |i| := by
  have hdigits := x.denotes_digits
  have hiff : signed x.negative (Decimal.shortest x).value = i ↔
      (Decimal.shortest x).value = |i| := by
    rw [h.negative_eq, signed]
    by_cases hneg : i < 0
    · rw [if_pos (decide_eq_true hneg), abs_of_neg hneg, neg_eq_iff_eq_neg, Int.cast_neg]
    · rw [if_neg (by simpa using hneg), abs_of_nonneg (Int.not_lt.mp hneg)]
  rw [← hiff]
  exact ⟨fun hi => hdigits.unique hi, fun heq => heq ▸ hdigits⟩

/-- Seventeen digits of it are printed at most, and zeros. -/
theorem IsRead.exists_natAbs_eq {i : Int} {x : Binary64} (h : IsRead i x)
    (hi : Denotes x.digits i) : ∃ m k : Nat, m < 10 ^ 17 ∧ i.natAbs = m * 10 ^ k := by
  have hvalue : (Decimal.shortest x).value = i.natAbs := by
    rw [h.denotes_digits_iff.mp hi, Nat.cast_natAbs]
  obtain ⟨m, hle, k, heq⟩ := Decimal.exists_eq_mul_pow hvalue
  obtain ⟨_, _, hx⟩ := h
  exact ⟨m, k, hle.trans_lt (Decimal.digits_shortest_lt (Binary64.bounded_of_ofDecimal? hx)), heq⟩

namespace Numeral

variable {literal : List Char} {n : Numeral} {x : Number} {i : Int}

theorem denotes_of_isInteger (hi : IsInteger literal i) (hafter : After literal n)
    (hvalue : n.value = .ok x) (hlow : -9223372036854775808 ≤ i)
    (hhigh : i ≤ 18446744073709551615) : Denotes x.digits i := by
  obtain rfl | ⟨rfl, rfl⟩ := hi.eq_integerDigits
  · obtain ⟨m, hm, hinteger⟩ := exists_after_integerDigits hlow hhigh
    rw [hafter.unique hm, hinteger] at hvalue
    cases hvalue
    exact (isInteger_integerDigits i).denotes
  · -- zero with a minus sign becomes a double
    have hzero : After ['-', '0'] (.zero true) := .next (.start rfl) rfl
    have hdouble : Numeral.value (.zero true) = .ok (.double (Binary64.zero true)) := rfl
    rw [hafter.unique hzero, hdouble] at hvalue
    cases hvalue
    have hshortest : signed true (Decimal.shortest (Binary64.zero true)).value = (0 : Int) := by
      simp [signed, Decimal.shortest, Decimal.value, Binary64.zero]
    rw [← hshortest]
    exact (Binary64.zero true).denotes_digits

/-- Kept and dropped digits make a double. -/
theorem exists_double_of_long {negative : Bool} {significand dropped : Nat}
    (h : (Numeral.long negative significand dropped).value = .ok x) :
    ∃ y, x = .double y ∧ Binary64.ofDecimal? negative significand dropped = some y := by
  simp only [value] at h
  split at h
  next hx =>
    cases h
    obtain ⟨y, hy, rfl⟩ := Option.map_eq_some_iff.mp hx
    exact ⟨y, rfl, hy⟩
  next => cases h

/-- So do the digits of a negative integer that 64 bits do not hold. -/
theorem exists_double_of_whole {significand : Nat} (hlimit : 9223372036854775808 < significand)
    (h : (Numeral.whole true significand).value = .ok x) :
    ∃ y, x = .double y ∧ Binary64.ofDecimal? true significand 0 = some y := by
  have hbounds : ¬ (0 < significand ∧ significand ≤ 9223372036854775808) := by omega
  simp only [value, integer, Bool.not_true, Bool.false_eq_true, if_false, if_neg hbounds] at h
  split at h
  next hx =>
    cases h
    obtain ⟨y, hy, rfl⟩ := Option.map_eq_some_iff.mp hx
    exact ⟨y, rfl, hy⟩
  next => cases h

theorem isRead_of_isInteger (hi : IsInteger literal i) (hafter : After literal n)
    (hvalue : n.value = .ok x) (hout : i < -9223372036854775808 ∨ 18446744073709551615 < i) :
    ∃ y, x = .double y ∧ IsRead i y := by
  obtain rfl | ⟨_, rfl⟩ := hi.eq_integerDigits
  · have hdigits : integerDigits i = signOf (i < 0) ++ naturalDigits i.natAbs := by
      by_cases hneg : i < 0 <;> simp [integerDigits, signOf, hneg]
    rw [hdigits] at hafter
    by_cases hfits : i.natAbs ≤ significandLimit
    · have hneg : i < 0 ∧ 9223372036854775808 < i.natAbs := by
        rw [significandLimit] at hfits
        omega
      rw [decide_eq_true hneg.1] at hafter
      rw [hafter.unique (after_naturalDigits true (by omega) hfits)] at hvalue
      obtain ⟨y, rfl, hy⟩ := exists_double_of_whole hneg.2 hvalue
      refine ⟨y, rfl, 0, ⟨by simpa using hfits, fun _ _ => Nat.zero_le _⟩, ?_⟩
      simpa [hneg.1] using hy
    · obtain ⟨k, hlong, hkept, hfirst⟩ := exists_after_naturalDigits (i < 0) (Nat.not_le.mp hfits)
      rw [hafter.unique hlong] at hvalue
      obtain ⟨y, rfl, hy⟩ := exists_double_of_long hvalue
      exact ⟨y, rfl, k + 1, isLeast_dropped hkept hfirst, hy⟩
  · omega

end Numeral

end Discovery.Json
