import Discovery.Flag.Token
import Discovery.Proofs.Text.Cut

namespace Discovery

/-- An argument that is no flag: it is empty, a hyphen alone, or does not begin with a hyphen. -/
def IsOperand (argument : String) : Prop :=
  argument = "" ∨ argument = "-" ∨ argument.toList.head? ≠ some '-'

instance (argument : String) : Decidable (IsOperand argument) :=
  inferInstanceAs (Decidable (_ ∨ _ ∨ _))

theorem isOperand_iff_toList {argument : String} :
    IsOperand argument ↔ argument.toList = ['-'] ∨ argument.toList.head? ≠ some '-' := by
  have hempty : argument = "" → argument.toList.head? ≠ some '-' := by
    rintro rfl
    decide
  have hhyphen : argument = "-" ↔ argument.toList = ['-'] := by
    rw [← String.toList_inj]
    rfl
  rw [IsOperand, hhyphen]
  exact ⟨fun h => h.elim (fun h => Or.inr (hempty h)) id, Or.inr⟩

namespace Token

theorem ofArgument_of_isOperand {argument : String} (h : IsOperand argument) :
    ofArgument argument = .operand := by
  rw [isOperand_iff_toList] at h
  unfold ofArgument
  generalize argument.toList = chars at h
  cases chars with
  | nil => rfl
  | cons c rest =>
    obtain hhyphen | hhead := h
    · obtain ⟨rfl, rfl⟩ := List.cons.inj hhyphen
      rfl
    · have hc : c ≠ '-' := by simpa using hhead
      simp [hc]

/-- A name without a value. Neither an equals sign nor the empty text is a name. -/
theorem ofArgument_long {name : String} (hne : name ≠ "") (hfree : '=' ∉ name.toList) :
    ofArgument ("--" ++ name) = .long name none := by
  have hlist : ("--" ++ name).toList = '-' :: '-' :: name.toList := by simp
  have hchars : name.toList ≠ [] := by simpa using hne
  unfold ofArgument
  rw [hlist]
  cases hname : name.toList with
  | nil => exact absurd hname hchars
  | cons c rest =>
    rw [hname] at hfree
    simp only [Text.cut_eq_none_iff.mpr hfree]
    rw [← hname, String.ofList_toList]

/-- A name with a value behind the first equals sign; the value may hold further ones. -/
theorem ofArgument_long_value {name : String} (value : String) (hfree : '=' ∉ name.toList) :
    ofArgument ("--" ++ name ++ "=" ++ value) = .long name (some value) := by
  have hlist : ("--" ++ name ++ "=" ++ value).toList =
      '-' :: '-' :: (name.toList ++ '=' :: value.toList) := by simp
  have hcut := Text.cut_append value.toList hfree
  unfold ofArgument
  rw [hlist]
  cases hname : name.toList ++ '=' :: value.toList with
  | nil => simp at hname
  | cons c rest =>
    rw [hname] at hcut
    simp [hcut]

theorem ofArgument_short {letter : Char} (rest : List Char) (hletter : letter ≠ '-') :
    ofArgument ("-" ++ String.singleton letter ++ String.ofList rest) = .short letter rest := by
  have hlist : ("-" ++ String.singleton letter ++ String.ofList rest).toList =
      '-' :: letter :: rest := by simp
  unfold ofArgument
  rw [hlist]
  simp [hletter]

/-- What messages call a flag: its name with both hyphens and without a value, or its letter with
    the hyphen. -/
def flagName (argument : String) : String :=
  if ['-', '-'] <+: argument.toList then String.ofList (argument.toList.takeWhile (· ≠ '='))
  else String.ofList (argument.toList.take 2)

/-- Whether an argument is the help flag, by its name or by its letter with anything behind it. -/
def AsksForHelp (argument : String) : Prop :=
  argument = "--help" ∨ ['-', 'h'] <+: argument.toList

instance (argument : String) : Decidable (AsksForHelp argument) :=
  inferInstanceAs (Decidable (_ ∨ _))

/-- What a look says about the text of the argument. -/
def Describes : Token → String → Prop
  | .separator, argument => argument = "--"
  | .long name none, argument => argument = "--" ++ name ∧ name ≠ "" ∧ '=' ∉ name.toList
  | .long name (some value), argument =>
    argument = "--" ++ name ++ "=" ++ value ∧ '=' ∉ name.toList
  | .short letter rest, argument =>
    argument = "-" ++ String.singleton letter ++ String.ofList rest ∧ letter ≠ '-'
  | .operand, argument => IsOperand argument

/-- The look of an argument describes its text, so an argument is known by its look. -/
theorem describes_ofArgument (argument : String) : (ofArgument argument).Describes argument := by
  have operand {argument : String} (h : IsOperand argument) :
      (ofArgument argument).Describes argument := by
    rw [ofArgument_of_isOperand h]
    exact h
  obtain ⟨chars, rfl⟩ : ∃ chars, argument = String.ofList chars := ⟨argument.toList, by simp⟩
  cases chars with
  | nil => exact operand (Or.inl rfl)
  | cons c chars =>
    by_cases hc : c = '-'
    · subst hc
      cases chars with
      | nil => exact operand (Or.inr (Or.inl rfl))
      | cons letter rest =>
        by_cases hletter : letter = '-'
        · subst hletter
          cases hcut : Text.cut '=' rest with
          | none =>
            have hfree : '=' ∉ (String.ofList rest).toList := by
              simpa using Text.cut_eq_none_iff.mp hcut
            by_cases hrest : rest = []
            · subst hrest
              exact rfl
            · have hne : String.ofList rest ≠ "" := by simpa using hrest
              have htext : String.ofList ('-' :: '-' :: rest) = "--" ++ String.ofList rest := by
                simp [← String.toList_inj]
              rw [htext, ofArgument_long hne hfree]
              exact ⟨rfl, hne, hfree⟩
          | some parts =>
            obtain ⟨name, value⟩ := parts
            obtain ⟨rfl, hname⟩ := Text.cut_eq_some_iff.mp hcut
            have hfree : '=' ∉ (String.ofList name).toList := by simpa using hname
            have htext : String.ofList ('-' :: '-' :: (name ++ '=' :: value)) =
                "--" ++ String.ofList name ++ "=" ++ String.ofList value := by
              simp [← String.toList_inj]
            rw [htext, ofArgument_long_value _ hfree]
            exact ⟨rfl, hfree⟩
        · have htext : String.ofList ('-' :: letter :: rest) =
              "-" ++ String.singleton letter ++ String.ofList rest := by
            simp [← String.toList_inj]
          rw [htext, ofArgument_short rest hletter]
          exact ⟨rfl, hletter⟩
    · exact operand (isOperand_iff_toList.mpr (Or.inr (by simpa using hc)))

theorem flagName_of_long {argument name : String} {value? : Option String}
    (h : ofArgument argument = .long name value?) : flagName argument = "--" ++ name := by
  have hlook := describes_ofArgument argument
  rw [h] at hlook
  have hkept (hfree : '=' ∉ name.toList) :
      ∀ c ∈ ("--" ++ name).toList, decide (c ≠ '=') = true := by
    intro c hmem
    have hne : c ≠ '=' := by
      rintro rfl
      simp [hfree] at hmem
    simpa using hne
  unfold flagName
  cases value? with
  | none =>
    obtain ⟨rfl, _, hfree⟩ := hlook
    have hall : (("--" ++ name).toList ++ []).takeWhile (fun c => decide (c ≠ '=')) =
        ("--" ++ name).toList ++ [].takeWhile _ :=
      List.takeWhile_append_of_pos (hkept hfree)
    rw [List.append_nil, List.takeWhile_nil, List.append_nil] at hall
    rw [if_pos (by simp), hall, String.ofList_toList]
  | some value =>
    obtain ⟨rfl, hfree⟩ := hlook
    have hlist : ("--" ++ name ++ "=" ++ value).toList =
        ("--" ++ name).toList ++ '=' :: value.toList := by simp
    rw [if_pos (by simp), hlist, List.takeWhile_append_of_pos (hkept hfree),
      List.takeWhile_cons_of_neg (by simp), List.append_nil, String.ofList_toList]

theorem flagName_of_short {argument : String} {letter : Char} {rest : List Char}
    (h : ofArgument argument = .short letter rest) :
    flagName argument = "-" ++ String.singleton letter := by
  have hlook := describes_ofArgument argument
  rw [h] at hlook
  obtain ⟨rfl, hletter⟩ := hlook
  have hlist : ("-" ++ String.singleton letter ++ String.ofList rest).toList =
      '-' :: letter :: rest := by simp
  have hnotLong : ¬ ['-', '-'] <+: '-' :: letter :: rest := by
    simp [List.cons_prefix_cons, Ne.symm hletter]
  rw [flagName, hlist, if_neg hnotLong]
  simp

end Token

end Discovery
