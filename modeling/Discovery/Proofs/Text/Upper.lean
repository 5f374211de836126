import Mathlib
import Discovery.Text.Upper

namespace Discovery.Text

/-- The long s, whose upper case is an S. -/
def longS : Char :=
  '\u017F'

/-- Whether a character is some case of a letter other than I. -/
def IsCaseOf (c letter : Char) : Prop :=
  c = letter ∨ c = letter.toLower ∨ letter = 'S' ∧ c = longS

instance (c letter : Char) : Decidable (IsCaseOf c letter) :=
  inferInstanceAs (Decidable (_ ∨ _ ∨ _ ∧ _))

/-- A character is written out as several, or it has a partner, or it stays as it is. -/
theorem upperChar_cases (c : Char) :
    (∃ e ∈ caseExpansions, e.code = c.toNat ∧ upperChar c = e.upper.map Char.ofNat) ∨
      (∃ r ∈ caseRuns, ∃ n, r.partner? c.toNat = some n ∧ upperChar c = [Char.ofNat n]) ∨
      upperChar c = [c] := by
  unfold upperChar
  split
  next e he =>
    have hcode := List.find?_some he
    exact Or.inl ⟨e, List.mem_of_find?_eq_some he, by simpa using hcode, rfl⟩
  next =>
    split
    next n hn =>
      obtain ⟨r, hr, hpartner⟩ := List.exists_of_findSome?_eq_some hn
      exact Or.inr (Or.inl ⟨r, hr, n, hpartner, rfl⟩)
    next => exact Or.inr (Or.inr rfl)

theorem exists_expansion_or_singleton (c : Char) :
    (∃ e ∈ caseExpansions, upperChar c = e.upper.map Char.ofNat) ∨ ∃ d, upperChar c = [d] := by
  obtain ⟨e, he, _, hupper⟩ | ⟨_, _, n, _, hupper⟩ | hsame := upperChar_cases c
  · exact Or.inl ⟨e, he, hupper⟩
  · exact Or.inr ⟨Char.ofNat n, hupper⟩
  · exact Or.inr ⟨c, hsame⟩

theorem partner?_eq_some_iff {r : CaseRun} {n m : Nat} :
    r.partner? n = some m ↔
      (r.first ≤ n ∧ n ≤ r.last ∧ (n - r.first) % r.step = 0) ∧ m = r.target + (n - r.first) := by
  simp [CaseRun.partner?, eq_comm]

/-- The tables begin with the lower-case letters. -/
theorem upperChar_of_lt {c : Char} (h : c.toNat < 0x61) : upperChar c = [c] := by
  have hcodes : ∀ e ∈ caseExpansions, 0x61 ≤ e.code := by decide +kernel
  have hfirsts : ∀ r ∈ caseRuns, 0x61 ≤ r.first := by decide +kernel
  obtain ⟨e, he, hcode, _⟩ | ⟨r, hr, n, hpartner, _⟩ | hsame := upperChar_cases c
  · have := hcodes e he
    omega
  · have := hfirsts r hr
    have := (partner?_eq_some_iff.mp hpartner).1
    omega
  · exact hsame

/-- The upper-case letters by their number. -/
def letterAt (n : Nat) : Char :=
  Char.ofNat (0x41 + n)

theorem exists_letterAt {letter : Char} (h : letter.isUpper = true) :
    ∃ n < 26, letter = letterAt n := by
  have hrange : 0x41 ≤ letter.toNat ∧ letter.toNat ≤ 0x5A := by
    simpa [Char.isUpper, UInt32.le_iff_toNat_le] using h
  refine ⟨letter.toNat - 0x41, by omega, ?_⟩
  rw [letterAt, Nat.add_sub_cancel' hrange.1, Char.ofNat_toNat]

theorem toNat_letterAt : ∀ n < 26, (letterAt n).toNat = 0x41 + n := by
  decide

theorem toNat_toLower_letterAt : ∀ n < 26, (letterAt n).toLower.toNat = 0x61 + n := by
  decide

theorem upperChar_toLower_letterAt :
    ∀ n < 26, upperChar (letterAt n).toLower = [letterAt n] := by
  decide +kernel

theorem two_le_length_of_mem_caseExpansions : ∀ e ∈ caseExpansions, 2 ≤ e.upper.length := by
  decide +kernel

/-- Of all runs only that of the lower-case letters and those of the dotless i and the long s lead
    to letters; the others lead behind them. -/
theorem caseRuns_to_letters : ∀ r ∈ caseRuns, 0x5B ≤ r.target ∨
    (r.first = 0x61 ∧ r.target = 0x41) ∨ (r.first = 0x131 ∧ r.last = 0x131 ∧ r.target = 0x49) ∨
      (r.first = 0x17F ∧ r.last = 0x17F ∧ r.target = 0x53) := by
  decide +kernel

/-- The characters with a partner among the letters. -/
theorem isCaseOf_of_partner? {r : CaseRun} {c : Char} {n m : Nat} (hr : r ∈ caseRuns) (hm : m < 26)
    (hne : letterAt m ≠ 'I') (hpartner : r.partner? c.toNat = some n) (hn : n = 0x41 + m) :
    IsCaseOf c (letterAt m) := by
  obtain ⟨⟨hfirst, hlast, _⟩, htarget⟩ := partner?_eq_some_iff.mp hpartner
  obtain hbehind | ⟨hrun, hto⟩ | ⟨hrun, hend, hto⟩ | ⟨hrun, hend, hto⟩ := caseRuns_to_letters r hr
  · omega
  · refine Or.inr (Or.inl (Char.toNat_inj.mp ?_))
    rw [toNat_toLower_letterAt m hm]
    omega
  · obtain rfl : m = 8 := by omega
    exact absurd rfl hne
  · obtain rfl : m = 18 := by omega
    have hc : c.toNat = longS.toNat := by
      rw [show longS.toNat = 0x17F from rfl]
      omega
    exact Or.inr (Or.inr ⟨rfl, Char.toNat_inj.mp hc⟩)

/-- The characters that become a given letter. -/
theorem upperChar_eq_letter_iff {c letter : Char} (hupper : letter.isUpper = true)
    (hne : letter ≠ 'I') : upperChar c = [letter] ↔ IsCaseOf c letter := by
  obtain ⟨m, hm, rfl⟩ := exists_letterAt hupper
  constructor
  · intro h
    obtain ⟨e, he, _, hupper⟩ | ⟨r, hr, n, hpartner, hupper⟩ | hsame := upperChar_cases c
    · have htwo := two_le_length_of_mem_caseExpansions e he
      have hone := congrArg List.length (hupper.symm.trans h)
      rw [List.length_map, List.length_singleton] at hone
      omega
    · have hchar : (Char.ofNat n).toNat = 0x41 + m := by
        rw [← toNat_letterAt m hm, List.singleton_inj.mp (hupper.symm.trans h)]
      -- a number that is the code of no character counts as zero, which no letter does
      have hn : n = 0x41 + m := by
        unfold Char.ofNat at hchar
        split at hchar
        next => exact hchar
        next =>
          have hzero : 0 = 0x41 + m := hchar
          omega
      exact isCaseOf_of_partner? hr hm hne hpartner hn
    · exact Or.inl (List.singleton_inj.mp (hsame.symm.trans h))
  · rintro (rfl | rfl | ⟨hletter, rfl⟩)
    · refine upperChar_of_lt ?_
      rw [toNat_letterAt m hm]
      omega
    · exact upperChar_toLower_letterAt m hm
    · rw [hletter]
      decide +kernel

/-- Whether nothing in a word is what some character is written out as. -/
def HasNoExpansion (word : List Char) : Prop :=
  ∀ e ∈ caseExpansions, ¬ e.upper.map Char.ofNat <:+: word

instance (word : List Char) : Decidable (HasNoExpansion word) :=
  inferInstanceAs (Decidable (∀ e ∈ caseExpansions, ¬ _))

theorem HasNoExpansion.tail {c : Char} {word : List Char} (h : HasNoExpansion (c :: word)) :
    HasNoExpansion word :=
  fun e he hrest => h e he (hrest.trans (List.suffix_cons c word).isInfix)

/-- The texts with a given upper case. -/
theorem upper_eq_iff {s word : List Char}
    (hletters : ∀ letter ∈ word, letter.isUpper = true ∧ letter ≠ 'I')
    (hfree : HasNoExpansion word) : upper s = word ↔ List.Forall₂ IsCaseOf s word := by
  induction s generalizing word with
  | nil => rw [List.forall₂_nil_left_iff, eq_comm]; rfl
  | cons c s ih =>
    have hcons : upper (c :: s) = upperChar c ++ upper s := List.flatMap_cons
    rw [hcons]
    constructor
    · intro h
      obtain ⟨e, he, hupper⟩ | ⟨d, hupper⟩ := exists_expansion_or_singleton c
      · rw [hupper] at h
        exact absurd (h ▸ (List.prefix_append _ _).isInfix) (hfree e he)
      · rw [hupper, List.singleton_append] at h
        subst h
        obtain ⟨⟨hd, hne⟩, hrest⟩ := List.forall_mem_cons.mp hletters
        exact .cons ((upperChar_eq_letter_iff hd hne).mp hupper) ((ih hrest hfree.tail).mp rfl)
    · rintro (_ | ⟨hc, hs⟩)
      obtain ⟨⟨hd, hne⟩, hrest⟩ := List.forall_mem_cons.mp hletters
      rw [(upperChar_eq_letter_iff hd hne).mpr hc, (ih hrest hfree.tail).mpr hs]
      rfl

end Discovery.Text
