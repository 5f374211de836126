import Discovery.Text.Split

namespace Discovery.Text

/-- The part before a cut is free of the separator, and the two parts with the separator between
    them are the whole text. Both facts together determine the cut. -/
theorem cut_eq_some_iff {sep : Char} {s before after : List Char} :
    cut sep s = some (before, after) ↔ s = before ++ sep :: after ∧ sep ∉ before := by
  induction s generalizing before with
  | nil => simp [cut]
  | cons c rest ih =>
    by_cases hc : c = sep
    · subst hc
      rw [cut, if_pos rfl]
      constructor
      · intro h
        cases h
        simp
      · rintro ⟨heq, hfree⟩
        cases before with
        | nil => simpa using heq
        | cons b before =>
          have hb : c = b := (List.cons.inj heq).1
          exact absurd (hb ▸ List.mem_cons_self) hfree
    · rw [cut, if_neg hc]
      constructor
      · intro h
        obtain ⟨⟨b, a⟩, hcut, hpair⟩ := Option.map_eq_some_iff.mp h
        obtain ⟨rfl, rfl⟩ := Prod.mk.inj hpair
        obtain ⟨rfl, hfree⟩ := ih.mp hcut
        exact ⟨rfl, by simp [hfree, Ne.symm hc]⟩
      · rintro ⟨heq, hfree⟩
        cases before with
        | nil => exact absurd (List.cons.inj heq).1 hc
        | cons b before =>
          obtain ⟨rfl, hrest⟩ := List.cons.inj heq
          have hcut := ih.mpr ⟨hrest, fun h => hfree (List.mem_cons_of_mem _ h)⟩
          simp [hcut]

theorem cut_eq_none_iff {sep : Char} {s : List Char} : cut sep s = none ↔ sep ∉ s := by
  induction s with
  | nil => simp [cut]
  | cons c rest ih =>
    by_cases hc : c = sep
    · simp [cut, hc]
    · simp [cut, hc, Ne.symm hc, ih]

/-- A text cut at a separator that was put behind a part free of it. -/
theorem cut_append {sep : Char} {before : List Char} (after : List Char) (hfree : sep ∉ before) :
    cut sep (before ++ sep :: after) = some (before, after) :=
  cut_eq_some_iff.mpr ⟨rfl, hfree⟩

end Discovery.Text
