import Mathlib.Data.List.DropRight
import Mathlib.Data.List.TakeWhile
import Discovery.Text.Blank

namespace Discovery.Text

/-- A text of nothing but white space. -/
def IsBlankText (s : List Char) : Prop :=
  ∀ c ∈ s, isBlank c = true

/-- A text without white space at either end. -/
def IsTrimmed (s : List Char) : Prop :=
  (∀ c ∈ s.head?, isBlank c = false) ∧ ∀ c ∈ s.getLast?, isBlank c = false

-- by the characters that occur, not by a search through all characters
instance (s : List Char) : Decidable (IsBlankText s) :=
  List.decidableBAll (fun c => isBlank c = true) s

instance (s : List Char) : Decidable (IsTrimmed s) :=
  @instDecidableAnd _ _ (Option.decidableForallMem s.head?) (Option.decidableForallMem s.getLast?)

theorem IsBlankText.notMem {s : List Char} (hs : IsBlankText s) {c : Char}
    (hc : isBlank c = false) : c ∉ s :=
  fun hmem => Bool.noConfusion (hc.symm.trans (hs c hmem))

theorem trimStart_append {front : List Char} (hfront : IsBlankText front) (s : List Char) :
    trimStart (front ++ s) = trimStart s :=
  List.dropWhile_append_of_pos hfront

theorem trimEnd_append {back : List Char} (hback : IsBlankText back) (s : List Char) :
    trimEnd (s ++ back) = trimEnd s := by
  have hreverse : ∀ c ∈ back.reverse, isBlank c = true := fun c hc =>
    hback c (List.mem_reverse.mp hc)
  rw [trimEnd, List.reverse_append, List.dropWhile_append_of_pos hreverse]
  rfl

theorem trimStart_of_head? {s : List Char} (h : ∀ c ∈ s.head?, isBlank c = false) :
    trimStart s = s := by
  cases s with
  | nil => rfl
  | cons c rest => exact List.dropWhile_cons_of_neg (by simp [h c rfl])

theorem trimEnd_of_getLast? {s : List Char} (h : ∀ c ∈ s.getLast?, isBlank c = false) :
    trimEnd s = s := by
  rw [List.getLast?_eq_head?_reverse] at h
  exact (congrArg List.reverse (trimStart_of_head? h)).trans s.reverse_reverse

/-- What `trimStart` leaves away is white space, and what it leaves does not begin with any. -/
theorem exists_of_trimStart (s : List Char) :
    (∃ front, s = front ++ trimStart s ∧ IsBlankText front) ∧
      ∀ c ∈ (trimStart s).head?, isBlank c = false := by
  refine ⟨⟨s.takeWhile isBlank, List.takeWhile_append_dropWhile.symm, fun c hc =>
    List.mem_takeWhile_imp hc⟩, fun c hc => ?_⟩
  have hhead := List.head?_dropWhile_not isBlank s
  rw [show s.dropWhile isBlank = trimStart s from rfl, Option.mem_def.mp hc] at hhead
  simpa using hhead

theorem exists_of_trimEnd (s : List Char) :
    (∃ back, s = trimEnd s ++ back ∧ IsBlankText back) ∧
      ∀ c ∈ (trimEnd s).getLast?, isBlank c = false := by
  obtain ⟨⟨front, hs, hfront⟩, hhead⟩ := exists_of_trimStart s.reverse
  refine ⟨⟨front.reverse, ?_, fun c hc => hfront c (List.mem_reverse.mp hc)⟩, fun c hc => ?_⟩
  · rw [← List.reverse_inj, hs, List.reverse_append, List.reverse_reverse]
    exact congrArg (front ++ ·) (List.reverse_reverse _).symm
  · rw [trimEnd, List.getLast?_reverse] at hc
    exact hhead c hc

/-- A trimmed text is the part of a text with only white space around it. -/
theorem trim_eq_iff {s t : List Char} :
    trim s = t ↔ IsTrimmed t ∧
      ∃ front back, s = front ++ t ++ back ∧ IsBlankText front ∧ IsBlankText back := by
  constructor
  · rintro rfl
    obtain ⟨⟨front, hs, hfront⟩, hhead⟩ := exists_of_trimStart s
    obtain ⟨⟨back, hrest, hback⟩, hlast⟩ := exists_of_trimEnd (trimStart s)
    refine ⟨⟨fun c hc => ?_, hlast⟩, front, back, ?_, hfront, hback⟩
    · apply hhead c
      rw [hrest, List.head?_append, show trimEnd (trimStart s) = trim s from rfl,
        Option.mem_def.mp hc]
      rfl
    · rw [trim, List.append_assoc, ← hrest, ← hs]
  · rintro ⟨⟨hhead, hlast⟩, front, back, rfl, hfront, hback⟩
    rw [trim, List.append_assoc, trimStart_append hfront]
    cases t with
    | nil =>
      -- white space only: where the first part of it ends does not matter
      have hnothing : trimStart back = [] := List.dropWhile_eq_nil_iff.mpr hback
      rw [List.nil_append, hnothing]
      rfl
    | cons c rest =>
      have hfirst : ∀ d ∈ (c :: rest ++ back).head?, isBlank d = false := hhead
      rw [trimStart_of_head? hfirst, trimEnd_append hback, trimEnd_of_getLast? hlast]

theorem isTrimmed_trim (s : List Char) : IsTrimmed (trim s) :=
  (trim_eq_iff.mp rfl).1

theorem trim_eq_nil_iff {s : List Char} : trim s = [] ↔ IsBlankText s := by
  rw [trim_eq_iff]
  constructor
  · rintro ⟨_, front, back, rfl, hfront, hback⟩ c hc
    rw [List.append_nil] at hc
    exact (List.mem_append.mp hc).elim (hfront c) (hback c)
  · intro hs
    exact ⟨⟨nofun, nofun⟩, s, [], by simp, hs, nofun⟩

theorem mem_of_mem_trim {s : List Char} {c : Char} (h : c ∈ trim s) : c ∈ s := by
  obtain ⟨_, front, back, hs, _⟩ := trim_eq_iff.mp (rfl : trim s = trim s)
  rw [hs]
  simp [h]

/-- White space behind a text does not count. -/
theorem trim_append {back : List Char} (hback : IsBlankText back) (s : List Char) :
    trim (s ++ back) = trim s := by
  obtain ⟨htrimmed, front, rest, hs, hfront, hrest⟩ := trim_eq_iff.mp (rfl : trim s = trim s)
  refine trim_eq_iff.mpr ⟨htrimmed, front, rest ++ back, ?_, hfront, fun c hc => ?_⟩
  · rw [← List.append_assoc, ← hs]
  · exact (List.mem_append.mp hc).elim (hrest c) (hback c)

end Discovery.Text
