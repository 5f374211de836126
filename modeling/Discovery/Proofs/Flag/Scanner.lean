import Discovery.Flag.Scan
import Discovery.Proofs.Except
import Discovery.Proofs.Flag.Token

namespace Discovery

namespace Scan

/-- The flags and the arguments of two scans, those of the first one in front. -/
instance : Append Scan where
  append a b := ⟨a.occurrences ++ b.occurrences, a.extra ++ b.extra⟩

/-- A scan that found one flag. -/
def ofFlag (flag : Flag) (value : String) : Scan :=
  ⟨[⟨flag, value⟩], []⟩

/-- A scan that found arguments that are no flags. -/
def ofExtra (arguments : List String) : Scan :=
  ⟨[], arguments⟩

@[simp] theorem occurrences_append (a b : Scan) :
    (a ++ b).occurrences = a.occurrences ++ b.occurrences :=
  rfl

@[simp] theorem extra_append (a b : Scan) : (a ++ b).extra = a.extra ++ b.extra :=
  rfl

@[ext] theorem ext {a b : Scan} (hoccurrences : a.occurrences = b.occurrences)
    (hextra : a.extra = b.extra) : a = b := by
  cases a
  cases b
  simp_all

theorem append_assoc (a b c : Scan) : a ++ b ++ c = a ++ (b ++ c) := by
  ext1 <;> simp

theorem append_ofFlag (a : Scan) (flag : Flag) (value : String) :
    a ++ ofFlag flag value = { a with occurrences := a.occurrences ++ [⟨flag, value⟩] } := by
  ext1 <;> simp [ofFlag]

theorem append_ofExtra (a : Scan) (arguments : List String) :
    a ++ ofExtra arguments = { a with extra := a.extra ++ arguments } := by
  ext1 <;> simp [ofExtra]

end Scan

namespace Flag

theorem letter_injective {a b : Flag} (h : a.letter = b.letter) : a = b := by
  cases a <;> cases b <;> first | rfl | exact absurd h (by decide)

theorem name?_injective {a b : Flag} {name : String} (ha : a.name? = some name)
    (hb : b.name? = some name) : a = b := by
  have h : a.name? = b.name? := ha.trans hb.symm
  cases a <;> cases b <;> first | rfl | exact absurd h (by decide)

/-- No flag uses the letter of help or the hyphen. -/
theorem letter_ne (flag : Flag) : flag.letter ≠ 'h' ∧ flag.letter ≠ '-' := by
  cases flag <;> decide

/-- Names are not empty, hold no equals sign and differ from the name of help. -/
theorem name?_ne {flag : Flag} {name : String} (h : flag.name? = some name) :
    name ≠ "" ∧ '=' ∉ name.toList ∧ name ≠ "help" := by
  cases flag <;> simp only [name?, Option.some.injEq, reduceCtorEq] at h <;> subst h <;> decide

/-- The values that a flag takes: an output mode in any case, or any text for the other flags. -/
def Admits (flag : Flag) (value : String) : Prop :=
  flag = .output → Text.equalIgnoringCase value "JSON" ∨ Text.equalIgnoringCase value "ID"

theorem admits_iff_choices {flag : Flag} {value : String} :
    flag.Admits value ↔ flag.choices = [] ∨ flag.choices.any (Text.equalIgnoringCase value) := by
  cases flag <;> simp [Admits, choices]

theorem check_eq_ok_iff {flag : Flag} {value : String} :
    flag.check value = .ok () ↔ flag.Admits value := by
  rw [admits_iff_choices, check]
  split
  · simp_all
  · split <;> simp_all

/-- The text behind a letter without one leading equals sign. -/
def withoutEquals (text : String) : String :=
  if text.toList.head? = some '=' then String.ofList text.toList.tail else text

/-- How a flag is written in one argument, with its value if that stands in the same argument. -/
inductive Spelled (flag : Flag) : Option String → String → Prop where
  | letter : Spelled flag none ("-" ++ String.singleton flag.letter)
  | name {name : String} : flag.name? = some name → Spelled flag none ("--" ++ name)
  | letterValue {text : String} : text ≠ "" →
    Spelled flag (some (withoutEquals text)) ("-" ++ String.singleton flag.letter ++ text)
  | nameValue {name : String} (value : String) : flag.name? = some name →
    Spelled flag (some value) ("--" ++ name ++ "=" ++ value)

theorem attached?_of_ne_nil {rest : List Char} (h : rest ≠ []) :
    Token.attached? rest = some (withoutEquals (String.ofList rest)) := by
  unfold withoutEquals
  rw [String.toList_ofList]
  cases rest with
  | nil => exact absurd rfl h
  | cons c rest =>
    by_cases hc : c = '='
    · subst hc
      rfl
    · rw [if_neg (by simpa using hc)]
      simp [Token.attached?, hc]

theorem find?_letter {flags : List Flag} {flag : Flag} (h : flag ∈ flags) :
    (flags.find? fun f => f.letter = flag.letter) = some flag := by
  have hsome : (flags.find? fun f => f.letter = flag.letter).isSome := by
    rw [List.find?_isSome]
    exact ⟨flag, h, by simp⟩
  obtain ⟨found, hfound⟩ := Option.isSome_iff_exists.mp hsome
  have hletter := List.find?_some hfound
  rw [hfound, letter_injective (of_decide_eq_true hletter)]

theorem find?_name {flags : List Flag} {flag : Flag} {name : String} (h : flag ∈ flags)
    (hname : flag.name? = some name) : (flags.find? fun f => f.name? = some name) = some flag := by
  have hsome : (flags.find? fun f => f.name? = some name).isSome := by
    rw [List.find?_isSome]
    exact ⟨flag, h, by simp [hname]⟩
  obtain ⟨found, hfound⟩ := Option.isSome_iff_exists.mp hsome
  have hfoundName := List.find?_some hfound
  rw [hfound, name?_injective (of_decide_eq_true hfoundName) hname]

/-- Whether what messages call a flag is no flag of the list and does not ask for help. -/
def IsUnknown (flags : List Flag) (name : String) : Prop :=
  Token.isHelp name = false ∧ ∀ flag ∈ flags, ¬ flag.Spelled none name

theorem isUnknown_long {flags : List Flag} {name : String} (hhelp : name ≠ "help")
    (h : ∀ flag ∈ flags, flag.name? ≠ some name) : IsUnknown flags ("--" ++ name) := by
  constructor
  · have hname : "--" ++ name ≠ "--help" := by
      intro heq
      have hlist := congrArg String.toList heq
      exact hhelp (String.toList_inj.mp (by simpa using hlist))
    have hletter : "--" ++ name ≠ "-h" := by
      intro heq
      have hlist := congrArg String.toList heq
      simp at hlist
    simp [Token.isHelp, hname, hletter]
  · intro flag hmem hspelled
    generalize hwritten : "--" ++ name = written at hspelled
    cases hspelled with
    | letter =>
      have hlist := congrArg String.toList hwritten
      have hletter : '-' = flag.letter := by simp at hlist; exact hlist.1
      exact flag.letter_ne.2 hletter.symm
    | name hname =>
      obtain rfl : name = _ := by simpa using hwritten
      exact h flag hmem hname

theorem isUnknown_short {flags : List Flag} {letter : Char} (hhelp : letter ≠ 'h')
    (hhyphen : letter ≠ '-') (h : ∀ flag ∈ flags, flag.letter ≠ letter) :
    IsUnknown flags ("-" ++ String.singleton letter) := by
  constructor
  · simp [Token.isHelp, ← String.toList_inj, hhelp]
  · intro flag hmem hspelled
    generalize hwritten : "-" ++ String.singleton letter = written at hspelled
    have hlist := congrArg String.toList hwritten
    cases hspelled with
    | letter =>
      have hletter : letter = flag.letter := by simpa using hlist
      exact h flag hmem hletter.symm
    | name hname =>
      simp at hlist
      exact hhyphen hlist.1

end Flag

namespace Scanner

variable {flags : List Flag}

/-- A scanner that has found something and has nothing pending. -/
def settled (found : Scan) : Scanner :=
  ⟨found, .none, false⟩

/-- The scan that the remaining arguments lead to. -/
def finish (flags : List Flag) (s : Scanner) (arguments : List String) : Except Stop Scan := do
  let s ← s.run flags arguments
  let s ← s.settle
  .ok s.found

theorem ofArguments_eq_finish (flags : List Flag) (arguments : List String) :
    Scan.ofArguments flags arguments = (settled ⟨[], []⟩).finish flags arguments :=
  rfl

theorem finish_cons (s : Scanner) (argument : String) (rest : List String) :
    s.finish flags (argument :: rest) = s.step flags argument >>= fun s => s.finish flags rest := by
  rw [finish, run]
  cases s.step flags argument <;> rfl

theorem finish_cons_of_step {s next : Scanner} {argument : String} (rest : List String)
    (h : s.step flags argument = .ok next) :
    s.finish flags (argument :: rest) = next.finish flags rest := by
  rw [finish_cons, h]
  rfl

/-- A flag in whatever spelling is taken as that flag. -/
theorem takeToken_of_spelled {flag : Flag} {value? : Option String} {argument : String}
    (hmem : flag ∈ flags) (h : flag.Spelled value? argument) (s : Scanner) :
    s.takeToken flags argument = s.takeFlag flag value? := by
  obtain ⟨hhelp, hhyphen⟩ := flag.letter_ne
  cases h with
  | letter =>
    have htoken := Token.ofArgument_short [] hhyphen
    rw [String.ofList_nil, String.append_empty] at htoken
    simp only [takeToken, htoken, takeShort, hhelp, if_false, Flag.find?_letter hmem, Token.attached?]
  | @letterValue text hne =>
    have hchars : text.toList ≠ [] := by simpa using hne
    have hattached := Flag.attached?_of_ne_nil hchars
    have htoken := Token.ofArgument_short text.toList hhyphen
    rw [String.ofList_toList] at htoken hattached
    simp only [takeToken, htoken, takeShort, hhelp, if_false, Flag.find?_letter hmem,
      hattached]
  | @name name hname =>
    obtain ⟨hne, hfree, hnotHelp⟩ := Flag.name?_ne hname
    simp only [takeToken, Token.ofArgument_long hne hfree, takeLong, hnotHelp, if_false,
      Flag.find?_name hmem hname]
  | @nameValue name value hname =>
    obtain ⟨_, hfree, hnotHelp⟩ := Flag.name?_ne hname
    simp only [takeToken, Token.ofArgument_long_value value hfree, takeLong, hnotHelp, if_false,
      Flag.find?_name hmem hname]

theorem takeHelp_ne_ok (s next : Scanner) : s.takeHelp ≠ .ok next := by
  intro h
  obtain ⟨_, _, herror⟩ := bind_eq_ok_iff.mp h
  cases herror

theorem takeToken_of_asksForHelp {argument : String} (h : Token.AsksForHelp argument) (s : Scanner) :
    s.takeToken flags argument = s.takeHelp := by
  obtain rfl | ⟨rest, hlist⟩ := h
  · rfl
  · have htoken := Token.ofArgument_short rest (by decide : 'h' ≠ '-')
    have hargument : "-" ++ String.singleton 'h' ++ String.ofList rest = argument := by
      rw [← String.toList_inj, ← hlist]
      simp
    rw [hargument] at htoken
    rw [takeToken, htoken]
    rfl

theorem takeToken_helpValue (value : String) (s : Scanner) :
    s.takeToken flags ("--help=" ++ value) = .error (.misuse (.helpValue value)) := by
  have htoken := Token.ofArgument_long_value value (by decide : '=' ∉ "help".toList)
  have hargument : "--" ++ "help" ++ "=" ++ value = "--help=" ++ value := rfl
  rw [hargument] at htoken
  rw [takeToken, htoken]
  rfl

/-- All that an argument can be that looks like a flag: two hyphens alone, a flag of the list, help,
    help with a value, or a flag that is unknown. Except for flags of the list, what it does to a
    scanner is the same whatever has been found. -/
theorem takeToken_of_not_isOperand {argument : String} (h : ¬ IsOperand argument)
    (flags : List Flag) :
    (argument = "--" ∧ ∀ s : Scanner,
        s.takeToken flags argument = .ok { s with flagsEnded := true }) ∨
      (∃ flag ∈ flags, ∃ value?, flag.Spelled value? argument) ∨
      (Token.AsksForHelp argument ∧ ∀ s : Scanner, s.takeToken flags argument = s.takeHelp) ∨
      (∃ value, argument = "--help=" ++ value ∧ ∀ s : Scanner,
        s.takeToken flags argument = .error (.misuse (.helpValue value))) ∨
      (Flag.IsUnknown flags (Token.flagName argument) ∧ ∀ s : Scanner,
        s.takeToken flags argument = .error (.unknown (Token.flagName argument))) := by
  have hlook := Token.describes_ofArgument argument
  simp only [takeToken]
  cases htoken : Token.ofArgument argument with
  | separator =>
    rw [htoken] at hlook
    exact Or.inl ⟨hlook, fun _ => rfl⟩
  | long name value? =>
    have hname := Token.flagName_of_long htoken
    rw [htoken] at hlook
    by_cases hhelp : name = "help"
    · subst hhelp
      cases value? with
      | none => exact Or.inr (Or.inr (Or.inl ⟨Or.inl hlook.1, fun _ => rfl⟩))
      | some value => exact Or.inr (Or.inr (Or.inr (Or.inl ⟨value, hlook.1, fun _ => rfl⟩)))
    · cases hfind : flags.find? fun flag => flag.name? = some name with
      | some flag =>
        have hflag : flag.name? = some name := by simpa using List.find?_some hfind
        refine Or.inr (Or.inl ⟨flag, List.mem_of_find?_eq_some hfind, value?, ?_⟩)
        cases value? with
        | none =>
          obtain ⟨rfl, _⟩ := hlook
          exact .name hflag
        | some value =>
          obtain ⟨rfl, _⟩ := hlook
          exact .nameValue value hflag
      | none =>
        refine Or.inr (Or.inr (Or.inr (Or.inr ⟨?_, fun s => ?_⟩)))
        · rw [hname]
          exact Flag.isUnknown_long hhelp (by simpa using hfind)
        · simp only [takeLong, hhelp, if_false, hfind, hname]
  | short letter rest =>
    have hname := Token.flagName_of_short htoken
    rw [htoken] at hlook
    obtain ⟨rfl, hhyphen⟩ := hlook
    by_cases hhelp : letter = 'h'
    · subst hhelp
      refine Or.inr (Or.inr (Or.inl ⟨Or.inr ⟨rest, by simp⟩, fun _ => rfl⟩))
    · cases hfind : flags.find? fun flag => flag.letter = letter with
      | some flag =>
        have hletter : flag.letter = letter := by simpa using List.find?_some hfind
        subst hletter
        refine Or.inr (Or.inl ⟨flag, List.mem_of_find?_eq_some hfind, ?_⟩)
        by_cases hrest : rest = []
        · subst hrest
          rw [String.ofList_nil, String.append_empty]
          exact ⟨none, .letter⟩
        · exact ⟨_, .letterValue (by simpa using hrest)⟩
      | none =>
        refine Or.inr (Or.inr (Or.inr (Or.inr ⟨?_, fun s => ?_⟩)))
        · rw [hname]
          exact Flag.isUnknown_short hhelp hhyphen (by simpa using hfind)
        · simp only [takeShort, hhelp, if_false, hfind, hname]
          simp
  | operand =>
    rw [htoken] at hlook
    exact absurd hlook h

/-- All that an argument can do to a scanner without stopping it, as long as flags are looked for
    and no value is expected that may be anything. -/
theorem takeToken_eq_ok {s next : Scanner} {argument : String}
    (h : s.takeToken flags argument = .ok next) :
    (argument = "--" ∧ next = { s with flagsEnded := true }) ∨
      (∃ flag ∈ flags, ∃ value?, flag.Spelled value? argument ∧ s.takeFlag flag value? = .ok next) ∨
      (IsOperand argument ∧ ((∃ flag, s.pending = .awaiting flag ∧
          next = { s with pending := .given flag argument }) ∨
        ((∀ flag, s.pending ≠ .awaiting flag) ∧ s.takeExtra argument = .ok next))) := by
  by_cases hoperand : IsOperand argument
  · refine Or.inr (Or.inr ⟨hoperand, ?_⟩)
    rw [takeToken, Token.ofArgument_of_isOperand hoperand] at h
    simp only at h
    split at h
    next flag hpending => exact Or.inl ⟨flag, hpending, (Except.ok.inj h).symm⟩
    next hpending => exact Or.inr ⟨hpending, h⟩
  · obtain ⟨hseparator, htake⟩ | ⟨flag, hmem, value?, hspelled⟩ | ⟨_, htake⟩ | ⟨_, _, htake⟩ |
        ⟨_, htake⟩ := takeToken_of_not_isOperand hoperand flags
    · exact Or.inl ⟨hseparator, (Except.ok.inj ((htake s).symm.trans h)).symm⟩
    · rw [takeToken_of_spelled hmem hspelled] at h
      exact Or.inr (Or.inl ⟨flag, hmem, value?, hspelled, h⟩)
    · exact absurd ((htake s).symm.trans h) (takeHelp_ne_ok s next)
    · cases (htake s).symm.trans h
    · cases (htake s).symm.trans h

theorem step_of_not_awaiting {s : Scanner} (hopen : s.flagsEnded = false)
    (hpending : ∀ flag, s.pending ≠ .awaiting flag) (argument : String) :
    s.step flags argument = s.takeToken flags argument := by
  simp only [step, hopen, Bool.false_eq_true, if_false]

theorem settle_endFlags (s : Scanner) :
    settle { s with flagsEnded := true } = s.settle.map fun s => { s with flagsEnded := true } := by
  obtain ⟨found, pending, ended⟩ := s
  cases pending with
  | none => rfl
  | awaiting flag => rfl
  | given flag value =>
    simp only [settle, keep]
    cases flag.check value <;> rfl

/-- Scanners that settle alike finish alike: apart from a value that is expected next, nothing is
    done with what is pending before it has been judged. -/
theorem finish_congr {s t : Scanner} (arguments : List String) (hsettle : s.settle = t.settle)
    (hended : s.flagsEnded = t.flagsEnded) (hs : ∀ flag, s.pending ≠ .awaiting flag)
    (ht : ∀ flag, t.pending ≠ .awaiting flag) :
    s.finish flags arguments = t.finish flags arguments := by
  induction arguments generalizing s t with
  | nil =>
    change s.settle >>= _ = t.settle >>= _
    rw [hsettle]
  | cons argument rest ih =>
    have hflag (flag value?) : s.takeFlag flag value? = t.takeFlag flag value? := by
      rw [takeFlag, takeFlag, hsettle]
    have hextra (argument) : s.takeExtra argument = t.takeExtra argument := by
      rw [takeExtra, takeExtra, hsettle]
    have hhelp : s.takeHelp = t.takeHelp := by rw [takeHelp, takeHelp, hsettle]
    rw [finish_cons, finish_cons]
    cases hopen : s.flagsEnded with
    | true =>
      have htrue : t.flagsEnded = true := hended ▸ hopen
      rw [step, step, if_pos hopen, if_pos htrue, hextra]
    | false =>
      have hfalse : t.flagsEnded = false := hended ▸ hopen
      rw [step_of_not_awaiting hopen hs, step_of_not_awaiting hfalse ht, takeToken, takeToken]
      cases Token.ofArgument argument with
      | separator =>
        -- the only argument that leaves what is pending unjudged
        have hrest : settle { s with flagsEnded := true } = settle { t with flagsEnded := true } := by
          rw [settle_endFlags, settle_endFlags, hsettle]
        exact ih hrest rfl hs ht
      | long name value? => simp only [takeLong, hhelp, hflag]
      | short letter text => simp only [takeShort, hhelp, hflag]
      | operand => simp only [hextra]

/-- A scan that ends well has judged what was pending, unless that was a value still to come. -/
theorem settle_of_finish {s : Scanner} {arguments : List String} {scan : Scan}
    (h : s.finish flags arguments = .ok scan)
    (hs : s.flagsEnded = true ∨ ∀ flag, s.pending ≠ .awaiting flag) :
    ∃ next, s.settle = .ok next := by
  induction arguments generalizing s with
  | nil =>
    obtain ⟨next, hnext, _⟩ := bind_eq_ok_iff.mp (show s.settle >>= _ = _ from h)
    exact ⟨next, hnext⟩
  | cons argument rest ih =>
    rw [finish_cons] at h
    obtain ⟨t, hstep, hrest⟩ := bind_eq_ok_iff.mp h
    cases hopen : s.flagsEnded with
    | true =>
      rw [step, if_pos hopen] at hstep
      obtain ⟨next, hnext, _⟩ := bind_eq_ok_iff.mp hstep
      exact ⟨next, hnext⟩
    | false =>
      have hpending := hs.resolve_left (by simp [hopen])
      rw [step_of_not_awaiting hopen hpending] at hstep
      obtain ⟨_, rfl⟩ | ⟨flag, _, value?, _, hflag⟩ | ⟨_, ⟨flag, hflag, _⟩ | ⟨_, hextra⟩⟩ :=
        takeToken_eq_ok hstep
      · obtain ⟨next, hnext⟩ := ih hrest (Or.inl rfl)
        rw [settle_endFlags] at hnext
        cases hsettle : s.settle with
        | error stop => simp [hsettle, Except.map] at hnext
        | ok next => exact ⟨next, rfl⟩
      · obtain ⟨next, hnext, _⟩ := bind_eq_ok_iff.mp hflag
        exact ⟨next, hnext⟩
      · exact absurd hflag (hpending flag)
      · obtain ⟨next, hnext, _⟩ := bind_eq_ok_iff.mp hextra
        exact ⟨next, hnext⟩

/-- What has been judged joins what was found before, and the scan goes on. -/
theorem keep_of_admits {flag : Flag} {value : String} (h : flag.Admits value) (s : Scanner) :
    s.keep flag value = .ok { s with found := s.found ++ Scan.ofFlag flag value, pending := .none } := by
  rw [Scan.append_ofFlag, keep, Flag.check_eq_ok_iff.mpr h]

theorem admits_of_keep {flag : Flag} {value : String} {s next : Scanner}
    (h : s.keep flag value = .ok next) : flag.Admits value := by
  unfold keep at h
  split at h
  next hcheck => exact Flag.check_eq_ok_iff.mp hcheck
  next => cases h

theorem finish_given {found : Scan} {flag : Flag} {value : String} (h : flag.Admits value)
    (arguments : List String) :
    finish flags ⟨found, .given flag value, false⟩ arguments =
      (settled (found ++ Scan.ofFlag flag value)).finish flags arguments := by
  apply finish_congr
  · exact keep_of_admits h _
  · rfl
  · simp
  · simp [settled]

theorem finish_ended (found : Scan) (arguments : List String) :
    finish flags ⟨found, .none, true⟩ arguments = .ok (found ++ Scan.ofExtra arguments) := by
  induction arguments generalizing found with
  | nil =>
    rw [Scan.append_ofExtra, List.append_nil]
    rfl
  | cons argument rest ih =>
    have hstep : step flags ⟨found, .none, true⟩ argument =
        .ok ⟨found ++ Scan.ofExtra [argument], .none, true⟩ := by
      rw [Scan.append_ofExtra]
      rfl
    rw [finish_cons_of_step rest hstep, ih, Scan.append_assoc]
    rfl

end Scanner

end Discovery
