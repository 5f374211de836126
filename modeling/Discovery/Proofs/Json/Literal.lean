import Mathlib
import Discovery.Proofs.Decimal.Shortest
import Discovery.Proofs.Json.Numeral

namespace Discovery.Json

open Numeral (signOf isMark)

def IsDigits (text : List Char) : Prop :=
  ∀ c ∈ text, c.isDigit = true

/-- The natural number that decimal digits stand for. -/
def digitsValue (digits : List Char) : Nat :=
  Nat.ofDigitChars 10 digits 0

/-- What stands before the point: a single zero, or digits of which the first is no zero. -/
structure IsWhole (text : List Char) : Prop where
  digits : IsDigits text
  nonempty : text ≠ []
  zero : text.head? = some '0' → text = ['0']

/-- The digits behind the point with the point, which is only there if they are. -/
def pointed : List Char → List Char
  | [] => []
  | digits => '.' :: digits

theorem pointed_of_ne_nil {digits : List Char} (h : digits ≠ []) :
    pointed digits = '.' :: digits := by
  cases digits with
  | nil => exact absurd rfl h
  | cons => rfl

/-- What stands behind all of that, and the exponent of ten it stands for. -/
inductive IsPower : List Char → Int → Prop
  | absent : IsPower [] 0
  | unsigned {mark : Char} {digits : List Char} : isMark mark = true → digits ≠ [] →
    IsDigits digits → IsPower (mark :: digits) (digitsValue digits)
  | up {mark : Char} {digits : List Char} : isMark mark = true → digits ≠ [] →
    IsDigits digits → IsPower (mark :: '+' :: digits) (digitsValue digits)
  | down {mark : Char} {digits : List Char} : isMark mark = true → digits ≠ [] →
    IsDigits digits → IsPower (mark :: '-' :: digits) (-(digitsValue digits))

/-- A number or its negative. -/
def signed (negative : Bool) (q : ℚ) : ℚ :=
  if negative then -q else q

/-- The number that a literal denotes. -/
inductive Denotes : List Char → ℚ → Prop
  | intro (negative : Bool) {whole fraction power : List Char} {e : Int} : IsWhole whole →
    IsDigits fraction → IsPower power e →
    Denotes (signOf negative ++ whole ++ pointed fraction ++ power)
      (signed negative (Decimal.value ⟨digitsValue (whole ++ fraction), e - fraction.length⟩))

/-- An integer literal: digits and nothing else but a minus sign before them. -/
def IsInteger (literal : List Char) (i : Int) : Prop :=
  ∃ negative whole, IsWhole whole ∧ literal = signOf negative ++ whole ∧
    i = if negative then -(digitsValue whole : Int) else digitsValue whole

theorem digitsValue_append (digits others : List Char) :
    digitsValue (digits ++ others) =
      digitsValue digits * 10 ^ others.length + digitsValue others := by
  rw [digitsValue, Nat.ofDigitChars_append, Nat.ofDigitChars_eq_ofDigitChars_zero, mul_comm]
  rfl

theorem digitsValue_naturalDigits (n : Nat) : digitsValue (naturalDigits n) = n :=
  Nat.ofDigitChars_ten_toDigits

theorem digitsValue_replicate_zero (n : Nat) : digitsValue (List.replicate n '0') = 0 := by
  rw [digitsValue, Nat.ofDigitChars_replicate_zero, mul_zero]

theorem isDigits_nil : IsDigits [] :=
  fun _ hmem => nomatch hmem

theorem isDigits_naturalDigits (n : Nat) : IsDigits (naturalDigits n) :=
  fun _ hmem => Nat.isDigit_of_mem_toDigits (by decide) (by decide) hmem

theorem isDigits_replicate_zero (n : Nat) : IsDigits (List.replicate n '0') := by
  intro c hmem
  rw [List.eq_of_mem_replicate hmem]
  rfl

theorem IsDigits.append {digits others : List Char} (h : IsDigits digits) (h' : IsDigits others) :
    IsDigits (digits ++ others) :=
  List.forall_mem_append.mpr ⟨h, h'⟩

theorem naturalDigits_ne_nil (n : Nat) : naturalDigits n ≠ [] :=
  Nat.toDigits_ne_nil

theorem isWhole_singleton {c : Char} (h : c.isDigit = true) : IsWhole [c] where
  digits := List.forall_mem_singleton.mpr h
  nonempty := List.cons_ne_nil c []
  zero hhead := by rw [Option.some.inj hhead]

theorem isWhole_naturalDigits (n : Nat) : IsWhole (naturalDigits n) where
  digits := isDigits_naturalDigits n
  nonempty := naturalDigits_ne_nil n
  zero hhead := by
    induction n using Nat.strongRecOn with
    | ind n ih =>
      by_cases hsmall : n < 10
      · rw [naturalDigits_of_lt hsmall] at hhead ⊢
        rw [Option.some.inj hhead]
      · have hsum : n / 10 * 10 + n % 10 = n := by omega
        have hdigits := naturalDigits_concat (n := n / 10) (by omega) (Nat.mod_lt n (by decide))
        rw [hsum] at hdigits
        rw [hdigits, List.head?_append_of_ne_nil _ (naturalDigits_ne_nil _)] at hhead
        have hzero := congrArg digitsValue (ih (n / 10) (by omega) hhead)
        rw [digitsValue_naturalDigits] at hzero
        exact absurd (show n / 10 = 0 from hzero) (by omega)

theorem IsInteger.denotes {literal : List Char} {i : Int} (h : IsInteger literal i) :
    Denotes literal i := by
  obtain ⟨negative, whole, hwhole, rfl, rfl⟩ := h
  have hdenotes := Denotes.intro negative hwhole isDigits_nil .absent
  simp only [pointed, List.append_nil] at hdenotes
  convert hdenotes using 1
  cases negative <;> simp [signed, Decimal.value]

/-- A run of characters of one kind ends where another kind begins. -/
theorem takeWhile_run {p : Char → Bool} {run rest : List Char} (hrun : ∀ c ∈ run, p c = true)
    (hrest : ∀ c ∈ rest.head?, p c = false) : (run ++ rest).takeWhile p = run := by
  rw [List.takeWhile_append_of_pos hrun]
  cases rest with
  | nil => simp
  | cons c rest => rw [List.takeWhile_cons_of_neg (by simp [hrest c rfl]), List.append_nil]

theorem run_append_inj {p : Char → Bool} {run other rest tail : List Char}
    (hrun : ∀ c ∈ run, p c = true) (hother : ∀ c ∈ other, p c = true)
    (hrest : ∀ c ∈ rest.head?, p c = false) (htail : ∀ c ∈ tail.head?, p c = false)
    (h : run ++ rest = other ++ tail) : run = other ∧ rest = tail := by
  have heq : run = other := by
    rw [← takeWhile_run hrun hrest, h, takeWhile_run hother htail]
  subst heq
  exact ⟨rfl, List.append_cancel_left h⟩

theorem isDigit_of_isMark {c : Char} (h : isMark c = true) : c.isDigit = false := by
  simp only [isMark, Bool.or_eq_true, decide_eq_true_eq] at h
  obtain rfl | rfl := h <;> rfl

theorem IsPower.isMark_of_head? {power : List Char} {e : Int} (h : IsPower power e) :
    ∀ c ∈ power.head?, isMark c = true := by
  cases h with
  | absent => exact fun _ hmem => nomatch hmem
  | unsigned hmark | up hmark | down hmark =>
    rintro _ ⟨⟩
    exact hmark

theorem IsPower.unique {power : List Char} {e f : Int} (h : IsPower power e)
    (h' : IsPower power f) : e = f := by
  have hsign {digits : List Char} (h : IsDigits digits) {c : Char} (hc : c.isDigit = false)
      (rest : List Char) : digits ≠ c :: rest := by
    rintro rfl
    have hdigit := h c List.mem_cons_self
    rw [hc] at hdigit
    cases hdigit
  generalize htext : power = text at h'
  cases h with
  | absent => cases h' <;> simp_all
  | unsigned _ _ hdigits =>
    cases h' with
    | absent => cases htext
    | unsigned => simp_all
    | up | down => exact absurd (List.cons.inj htext).2 (hsign hdigits rfl _)
  | up _ _ hdigits =>
    cases h' with
    | absent => cases htext
    | up => simp_all
    | down => simp at htext
    | unsigned _ _ hothers => exact absurd (List.cons.inj htext).2.symm (hsign hothers rfl _)
  | down _ _ hdigits =>
    cases h' with
    | absent => cases htext
    | down => simp_all
    | up => simp at htext
    | unsigned _ _ hothers => exact absurd (List.cons.inj htext).2.symm (hsign hothers rfl _)

theorem IsWhole.exists_cons {whole : List Char} (h : IsWhole whole) :
    ∃ c rest, whole = c :: rest ∧ c.isDigit = true := by
  obtain ⟨c, rest, rfl⟩ := List.exists_cons_of_ne_nil h.nonempty
  exact ⟨c, rest, rfl, h.digits c List.mem_cons_self⟩

/-- A minus sign is no digit, so it belongs to the sign. -/
theorem signed_append_inj {a b : Bool} {whole others rest tail : List Char} (hwhole : IsWhole whole)
    (hothers : IsWhole others) (h : signOf a ++ (whole ++ rest) = signOf b ++ (others ++ tail)) :
    a = b ∧ whole ++ rest = others ++ tail := by
  have hminus {whole rest more : List Char} (hwhole : IsWhole whole) :
      whole ++ rest ≠ '-' :: more := by
    obtain ⟨c, others, rfl, hc⟩ := hwhole.exists_cons
    rintro ⟨⟩
    cases hc
  cases a with
  | false =>
    cases b with
    | false => exact ⟨rfl, h⟩
    | true => exact absurd (show whole ++ rest = '-' :: (others ++ tail) from h) (hminus hwhole)
  | true =>
    cases b with
    | false => exact absurd (show others ++ tail = '-' :: (whole ++ rest) from h.symm) (hminus hothers)
    | true => exact ⟨rfl, (List.cons.inj h).2⟩

theorem pointed_append_inj {fraction others power tail : List Char} {e f : Int}
    (hfraction : IsDigits fraction) (hothers : IsDigits others) (hpower : IsPower power e)
    (htail : IsPower tail f) (h : pointed fraction ++ power = pointed others ++ tail) :
    fraction = others ∧ power = tail := by
  have hpoint {power rest : List Char} {e : Int} (h : IsPower power e) : power ≠ '.' :: rest := by
    rintro rfl
    exact absurd (h.isMark_of_head? '.' rfl) (by decide)
  have hend {power : List Char} {e : Int} (h : IsPower power e) :
      ∀ c ∈ power.head?, c.isDigit = false :=
    fun c hc => isDigit_of_isMark (h.isMark_of_head? c hc)
  cases fraction with
  | nil =>
    cases others with
    | nil => exact ⟨rfl, h⟩
    | cons d others => exact absurd h (hpoint hpower)
  | cons c fraction =>
    cases others with
    | nil => exact absurd h.symm (hpoint htail)
    | cons d others =>
      exact run_append_inj hfraction hothers (hend hpower) (hend htail) (List.cons.inj h).2

theorem isDigit_of_head?_pointed_append {fraction power : List Char} {e : Int}
    (h : IsPower power e) : ∀ c ∈ (pointed fraction ++ power).head?, c.isDigit = false := by
  cases fraction with
  | nil => exact fun c hc => isDigit_of_isMark (h.isMark_of_head? c hc)
  | cons d fraction =>
    rintro _ ⟨⟩
    rfl

/-- A literal denotes one number. -/
theorem Denotes.unique {literal : List Char} {p q : ℚ} (h : Denotes literal p)
    (h' : Denotes literal q) : p = q := by
  obtain @⟨a, whole, fraction, power, e, hwhole, hfraction, hpower⟩ := h
  generalize htext : signOf a ++ whole ++ pointed fraction ++ power = text at h'
  obtain @⟨b, others, digits, tail, f, hothers, hdigits, htail⟩ := h'
  simp only [List.append_assoc] at htext
  obtain ⟨rfl, hdigitsOn⟩ := signed_append_inj hwhole hothers htext
  obtain ⟨rfl, hpointOn⟩ := run_append_inj hwhole.digits hothers.digits
    (isDigit_of_head?_pointed_append hpower) (isDigit_of_head?_pointed_append htail) hdigitsOn
  obtain ⟨rfl, rfl⟩ := pointed_append_inj hfraction hdigits hpower htail hpointOn
  rw [hpower.unique htail]

/-- The characters that occur in literals. -/
def IsNumeric (c : Char) : Prop :=
  c.isDigit = true ∨ c ∈ ['-', '+', '.', 'e', 'E']

instance (c : Char) : Decidable (IsNumeric c) :=
  inferInstanceAs (Decidable (_ ∨ _))

theorem IsPower.isNumeric {power : List Char} {e : Int} (h : IsPower power e) :
    ∀ c ∈ power, IsNumeric c := by
  have hmark {c : Char} (h : isMark c = true) : IsNumeric c := by
    simp only [isMark, Bool.or_eq_true, decide_eq_true_eq] at h
    obtain rfl | rfl := h <;> decide
  cases h with
  | absent => exact fun _ hmem => nomatch hmem
  | unsigned h _ hdigits =>
    exact List.forall_mem_cons.mpr ⟨hmark h, fun c hc => Or.inl (hdigits c hc)⟩
  | up h _ hdigits | down h _ hdigits =>
    exact List.forall_mem_cons.mpr ⟨hmark h, List.forall_mem_cons.mpr
      ⟨by decide, fun c hc => Or.inl (hdigits c hc)⟩⟩

theorem Denotes.isNumeric {literal : List Char} {q : ℚ} (h : Denotes literal q) :
    ∀ c ∈ literal, IsNumeric c := by
  obtain @⟨negative, whole, fraction, power, e, hwhole, hfraction, hpower⟩ := h
  have hsign : ∀ c ∈ signOf negative, IsNumeric c := by
    cases negative with
    | false => exact fun _ hmem => nomatch hmem
    | true => exact List.forall_mem_singleton.mpr (by decide)
  have hpointed : ∀ c ∈ pointed fraction, IsNumeric c := by
    cases fraction with
    | nil => exact fun _ hmem => nomatch hmem
    | cons d fraction =>
      exact List.forall_mem_cons.mpr ⟨by decide, fun c hc => Or.inl (hfraction c hc)⟩
  intro c hc
  simp only [List.mem_append] at hc
  obtain ((hc | hc) | hc) | hc := hc
  · exact hsign c hc
  · exact Or.inl (hwhole.digits c hc)
  · exact hpointed c hc
  · exact hpower.isNumeric c hc

/-- A literal begins with a minus sign or a digit. -/
theorem Denotes.exists_start? {literal : List Char} {q : ℚ} (h : Denotes literal q) :
    ∃ c more n, literal = c :: more ∧ Numeral.start? c = some n := by
  obtain @⟨negative, whole, fraction, power, e, hwhole, hfraction, hpower⟩ := h
  obtain ⟨c, rest, rfl, hc⟩ := hwhole.exists_cons
  cases negative with
  | true => exact ⟨'-', _, _, rfl, rfl⟩
  | false =>
    refine ⟨c, _, if c = '0' then .zero false else .whole false (c.toNat - 48), rfl, ?_⟩
    have hminus : c ≠ '-' := by
      rintro rfl
      cases hc
    rw [Numeral.start?, if_neg hminus, digit?, if_pos hc]
    split <;> rfl

end Discovery.Json
