import Discovery.Proofs.Json.Draft

namespace Discovery.Json

theorem outcome_print {d : Json} (h : d.Integral) (layout : Layout) :
    State.start.outcome (d.print layout).toList = withinLimit d.depth (.ok d.canonical) :=
  outcome_of_writtenIn (writtenIn_print h layout)

/-- A printed document whose numbers are integers is read as its canonical form, unless it nests too
    deep. -/
theorem read_print {d : Json} (h : d.Integral) (hdepth : d.depth ≤ nestingLimit) (layout : Layout) :
    read (d.print layout).toList = .ok d.canonical := by
  rw [read_eq_ok_iff, outcome_print h, withinLimit_of_le hdepth]

/-- A printed document whose numbers are integers is refused when it nests too deep. -/
theorem read_print_tooDeep {d : Json} (h : d.Integral) (hdepth : nestingLimit < d.depth)
    (layout : Layout) :
    ∃ error, read (d.print layout).toList = .error error ∧ error.code = .nestingTooDeep := by
  apply exists_error_of_outcome
  rw [outcome_print h, withinLimit_of_lt hdepth]

/-- Empty arrays inside each other, one more than the number says. -/
def nested : Nat → Json
  | 0 => .array []
  | n + 1 => .array [nested n]

theorem depth_nested (n : Nat) : (nested n).depth = n + 1 := by
  induction n with
  | zero => rfl
  | succ n ih => rw [nested, Json.depth, depthOfItems, depthOfItems, Nat.max_zero, ih]

theorem integral_nested (n : Nat) : (nested n).Integral := by
  induction n with
  | zero => exact .array (by simp)
  | succ n ih => exact .array (by simpa using ih)

theorem canonical_nested (n : Nat) : (nested n).canonical = nested n := by
  induction n with
  | zero => rfl
  | succ n ih => rw [nested, canonical, canonicalItems, canonicalItems, ih]

theorem printAt_nested (n depth : Nat) : printAt .compact depth (nested n) =
    List.replicate (n + 1) '[' ++ List.replicate (n + 1) ']' := by
  induction n generalizing depth with
  | zero => rfl
  | succ n ih =>
    have hopen : List.replicate (n + 2) '[' = '[' :: List.replicate (n + 1) '[' := rfl
    have hclose : List.replicate (n + 2) ']' = List.replicate (n + 1) ']' ++ [']'] :=
      List.replicate_succ'
    rw [nested, printAt, ih, printItems, hopen, hclose]
    simp only [Layout.gap, List.nil_append, List.append_nil, List.cons_append, List.append_assoc]

/-- As many brackets as the reader allows are read. -/
theorem read_nested {n : Nat} (h : n < nestingLimit) :
    read (List.replicate (n + 1) '[' ++ List.replicate (n + 1) ']') = .ok (nested n) := by
  have hdepth : (nested n).depth ≤ nestingLimit := by
    rw [depth_nested]
    exact h
  have hread := read_print (integral_nested n) hdepth .compact
  rwa [print, String.toList_ofList, printAt_nested, canonical_nested] at hread

end Discovery.Json
