import Discovery.Text.Blank
import Discovery.Text.Word

namespace Discovery.Text

/-- Two classes whose ranges lie apart. -/
def Apart (ranges others : List CodeRange) : Prop :=
  ∀ r ∈ ranges, ∀ other ∈ others, r.last < other.first ∨ other.last < r.first

instance (ranges others : List CodeRange) : Decidable (Apart ranges others) :=
  inferInstanceAs (Decidable (∀ r ∈ ranges, ∀ other ∈ others, _ ∨ _))

theorem Apart.inClass_eq_false {ranges others : List CodeRange} (hapart : Apart ranges others)
    {c : Char} (h : inClass ranges c = true) : inClass others c = false := by
  obtain ⟨r, hr, hc⟩ := List.any_eq_true.mp h
  simp only [CodeRange.contains, Bool.and_eq_true, decide_eq_true_eq] at hc
  refine List.any_eq_false.mpr fun other hother hin => ?_
  simp only [CodeRange.contains, Bool.and_eq_true, decide_eq_true_eq] at hin
  have hends := hapart r hr other hother
  omega

theorem isWordChar_of_isBlank {c : Char} (h : isBlank c = true) : isWordChar c = false := by
  have hlow : Apart blankRanges wordRangesLow := by decide +kernel
  have hmiddle : Apart blankRanges wordRangesMiddle := by decide +kernel
  have hhigh : Apart blankRanges wordRangesHigh := by decide +kernel
  rw [isWordChar, hlow.inClass_eq_false h, hmiddle.inClass_eq_false h, hhigh.inClass_eq_false h]
  rfl

theorem isBlank_of_isWordChar {c : Char} (h : isWordChar c = true) : isBlank c = false := by
  cases hblank : isBlank c with
  | false => rfl
  | true => exact h.symm.trans (isWordChar_of_isBlank hblank)

theorem isWord_iff {s : List Char} : isWord s = true ↔ s ≠ [] ∧ ∀ c ∈ s, isWordChar c = true := by
  simp [isWord]

end Discovery.Text
