import Mathlib.Data.List.TakeWhile
import Discovery.Proofs.Request.Interpretation
import Discovery.Proofs.Target.Resolution

namespace Discovery

namespace Scan

/-- What a scan without flags makes of an argument that looks like one, with operands in front of it
    and any arguments behind it. -/
def ofForeignFlag (operands : List String) (flag : String) (rest : List String) :
    Except Stop Scan :=
  if flag = "--" then .ok ⟨[], operands ++ rest⟩
  else if Token.AsksForHelp flag then .error .help
  else if "--help=".toList <+: flag.toList then
    .error (.misuse (.helpValue (String.ofList (flag.toList.drop "--help=".length))))
  else .error (.unknown (Token.flagName flag))

theorem finish_foreignFlag {flag : String} (h : ¬ IsOperand flag) (operands rest : List String) :
    (Scanner.settled (.ofExtra operands)).finish Subcommand.delete.flags (flag :: rest) =
      ofForeignFlag operands flag rest := by
  rw [Scanner.finish_cons, Scanner.step_of_not_awaiting rfl (by simp [Scanner.settled]),
    ofForeignFlag]
  by_cases hseparator : flag = "--"
  · subst hseparator
    rw [if_pos rfl]
    have hended : Scanner.finish Subcommand.delete.flags ⟨.ofExtra operands, .none, true⟩ rest =
        .ok (.ofExtra operands ++ .ofExtra rest) :=
      Scanner.finish_ended (.ofExtra operands) rest
    exact hended
  by_cases hhelp : Token.AsksForHelp flag
  · rw [if_neg hseparator, if_pos hhelp, Scanner.takeToken_of_asksForHelp hhelp]
    rfl
  by_cases hvalue : "--help=".toList <+: flag.toList
  · obtain ⟨value, hlist⟩ := hvalue
    obtain rfl : flag = "--help=" ++ String.ofList value := by
      rw [← String.toList_inj, ← hlist]
      simp
    rw [if_neg hseparator, if_neg hhelp, if_pos (by simp), Scanner.takeToken_helpValue]
    simp
    rfl
  · rw [if_neg hseparator, if_neg hhelp, if_neg hvalue]
    obtain ⟨heq, _⟩ | ⟨_, hmem, _⟩ | ⟨hasks, _⟩ | ⟨value, rfl, _⟩ | ⟨_, htake⟩ :=
      Scanner.takeToken_of_not_isOperand h Subcommand.delete.flags
    · exact absurd heq hseparator
    · cases hmem
    · exact absurd hasks hhelp
    · exact absurd (by simp) hvalue
    · rw [htake]
      rfl

/-- What `delete` finds in arguments. It has no flags of its own, so the first argument that looks
    like a flag ends the scan, unless it is two hyphens. -/
theorem ofArguments_delete (arguments : List String) :
    Scan.ofArguments Subcommand.delete.flags arguments =
      match arguments.dropWhile (fun argument => IsOperand argument) with
      | [] => .ok ⟨[], arguments⟩
      | flag :: rest =>
        ofForeignFlag (arguments.takeWhile fun argument => IsOperand argument) flag rest := by
  have hoperands : ∀ argument ∈ arguments.takeWhile (fun argument => IsOperand argument),
      IsOperand argument := by
    intro argument hmem
    simpa using List.mem_takeWhile_imp hmem
  have hsplit := List.takeWhile_append_dropWhile
    (p := fun argument => decide (IsOperand argument)) (l := arguments)
  have hscan : (Scanner.settled ⟨[], []⟩).finish Subcommand.delete.flags _ = _ :=
    Scanner.finish_operands hoperands ⟨[], []⟩
      (arguments.dropWhile fun argument => IsOperand argument)
  rw [hsplit] at hscan
  rw [Scanner.ofArguments_eq_finish, hscan]
  cases hrest : arguments.dropWhile (fun argument => IsOperand argument) with
  | nil =>
    rw [hrest, List.append_nil] at hsplit
    rw [hsplit]
    rfl
  | cons flag rest =>
    have hflag : ¬ IsOperand flag := by
      have hne : arguments.dropWhile (fun argument => IsOperand argument) ≠ [] := by simp [hrest]
      have hhead := List.head_dropWhile_not (fun argument => decide (IsOperand argument)) hne
      simpa [hrest] using hhead
    exact finish_foreignFlag hflag _ rest

end Scan

namespace Request

/-- What becomes of the arguments of `delete` between its target and its identifier. Only two
    hyphens may stand there. -/
def deletionBetween (hosts : Hosts) (identifier : String) (between : List String) :
    Except Failure Request :=
  let usage := Subcommand.usage .delete
  if between = [] ∨ between = ["--"] then .ok (.delete hosts identifier)
  else
    match between.dropWhile (fun argument => IsOperand argument) with
    | [] => .error (.extraArguments between usage)
    | flag :: rest =>
      if flag = "--" then
        .error (.extraArguments (between.takeWhile (fun argument => IsOperand argument) ++ rest) usage)
      else if Token.AsksForHelp flag then .ok (Subcommand.help .delete)
      else if "--help=".toList <+: flag.toList then
        let value := String.ofList (flag.toList.drop "--help=".length)
        .error (.invalidArgument (Misuse.helpValue value).message usage)
      else .error (.unknownFlag (Token.flagName flag) usage)

/-- What becomes of the arguments of `delete` under some aliases. The identifier is looked at first,
    then the target, then what is between them. -/
def deletion (aliases : Aliases) (arguments : List String) : Except Failure Request :=
  match arguments.getLast? with
  | none => .error (.missingArgument "service identifier" (Subcommand.usage .delete))
  | some identifier =>
    if identifier = "-h" ∨ identifier = "--help" then .ok (Subcommand.help .delete)
    else
      let (target, between) := takeTarget arguments.dropLast
      match Hosts.ofText? (aliases.hostText target) with
      | none => .error (.noHosts target)
      | some hosts => deletionBetween hosts identifier between

variable {world : World} {setting : Setting}

theorem outcome_withFlags_delete (hosts : Hosts) (identifier : String) (between : List String) :
    ((Subcommand.withFlags .delete between fun _ =>
      pure (.delete hosts identifier)).run world).outcome =
        deletionBetween hosts identifier between := by
  have hscan := Scan.ofArguments_delete between
  have hsplit := List.takeWhile_append_dropWhile
    (p := fun argument => decide (IsOperand argument)) (l := between)
  have extra {scan : Scan} (h : Scan.ofArguments Subcommand.delete.flags between = .ok scan)
      (hextra : scan.extra ≠ []) :
      ((Subcommand.withFlags .delete between fun _ =>
        pure (.delete hosts identifier)).run world).outcome =
          .error (.extraArguments scan.extra (Subcommand.usage .delete)) := by
    rw [Subcommand.withFlags_of_extra h hextra]
    rfl
  have stopped {stop : Stop}
      (h : Scan.ofArguments Subcommand.delete.flags between = .error stop) :
      ((Subcommand.withFlags .delete between fun _ =>
        pure (.delete hosts identifier)).run world).outcome =
          Subcommand.outcomeOfStop .delete stop := by
    rw [Subcommand.withFlags_of_stop h, Dialogue.outcome_ofExcept]
  unfold deletionBetween
  by_cases hnothing : between = [] ∨ between = ["--"]
  · rw [if_pos hnothing]
    obtain rfl | rfl := hnothing <;> rfl
  rw [if_neg hnothing]
  obtain ⟨hne, hseparator⟩ := not_or.mp hnothing
  cases hrest : between.dropWhile (fun argument => IsOperand argument) with
  | nil =>
    rw [hrest] at hscan
    exact extra hscan hne
  | cons flag rest =>
    rw [hrest] at hscan hsplit
    simp only [Scan.ofForeignFlag] at hscan ⊢
    by_cases hflag : flag = "--"
    · rw [if_pos hflag] at hscan ⊢
      refine extra hscan fun hempty => hseparator ?_
      obtain ⟨hfront, rfl⟩ := List.append_eq_nil_iff.mp hempty
      rw [← hsplit, hfront, hflag]
      rfl
    rw [if_neg hflag] at hscan ⊢
    by_cases hhelp : Token.AsksForHelp flag
    · rw [if_pos hhelp] at hscan ⊢
      exact stopped hscan
    rw [if_neg hhelp] at hscan ⊢
    by_cases hvalue : "--help=".toList <+: flag.toList
    · rw [if_pos hvalue] at hscan ⊢
      exact stopped hscan
    · rw [if_neg hvalue] at hscan ⊢
      exact stopped hscan

theorem outcome_ofDeleteArguments (arguments : List String) :
    ((ofDeleteArguments setting arguments).run world).outcome =
      deletion (setting.aliases.aliasesIn world) arguments := by
  unfold ofDeleteArguments deletion
  cases arguments.getLast? with
  | none => rfl
  | some identifier =>
    simp only
    by_cases hhelp : identifier = "-h" ∨ identifier = "--help"
    · rw [if_pos (by simpa [Token.isHelp] using hhelp), if_pos hhelp]
      rfl
    · rw [if_neg (by simpa [Token.isHelp] using hhelp), if_neg hhelp, Subcommand.outcome_withHosts,
        Setting.resolve, Aliases.resolve]
      cases Hosts.ofText? ((setting.aliases.aliasesIn world).hostText
          (takeTarget arguments.dropLast).1) with
      | none => rfl
      | some hosts => exact outcome_withFlags_delete hosts identifier _

theorem takeTarget_separator {target? : Option String} {separator : List String}
    (htarget : ∀ target ∈ target?, Token.beginsWithHyphen target = false)
    (hseparator : separator = [] ∨ separator = ["--"]) :
    takeTarget (target?.toList ++ separator) = (target?.getD defaultTarget, separator) := by
  apply takeTarget_toList_append htarget
  obtain rfl | rfl := hseparator <;> decide

theorem deletionBetween_eq_ok_iff {hosts found : Hosts} {identifier given : String}
    {between : List String} :
    deletionBetween hosts identifier between = .ok (.delete found given) ↔
      (between = [] ∨ between = ["--"]) ∧ hosts = found ∧ identifier = given := by
  unfold deletionBetween
  by_cases hnothing : between = [] ∨ between = ["--"]
  · simp [hnothing]
  · simp only [hnothing, if_false, false_and, iff_false]
    intro h
    split at h
    next => cases h
    next =>
      split at h
      next => cases h
      split at h
      next => cases h
      split at h <;> cases h

/-- A deletion succeeds exactly for an identifier that does not ask for help, behind a target if
    there is one and two hyphens if there are any. -/
theorem deletion_eq_ok_iff {aliases : Aliases} {arguments : List String} {hosts : Hosts}
    {identifier : String} :
    deletion aliases arguments = .ok (.delete hosts identifier) ↔
      ∃ (target? : Option String) (separator : List String),
        arguments = target?.toList ++ separator ++ [identifier] ∧
        (∀ target ∈ target?, Token.beginsWithHyphen target = false) ∧
        (separator = [] ∨ separator = ["--"]) ∧ ¬ (identifier = "-h" ∨ identifier = "--help") ∧
        Hosts.ofText? (aliases.hostText (target?.getD defaultTarget)) = some hosts := by
  unfold deletion
  constructor
  · intro h
    split at h
    next => cases h
    next last hlast =>
      obtain ⟨init, rfl⟩ := List.getLast?_eq_some_iff.mp hlast
      split at h
      next => cases h
      next hhelp =>
        rw [List.dropLast_concat] at h
        obtain ⟨target?, htarget, hinit, hdefault⟩ := exists_target_of_takeTarget init
        simp only [hdefault] at h
        split at h
        next => cases h
        next found hfound =>
          obtain ⟨hseparator, rfl, rfl⟩ := deletionBetween_eq_ok_iff.mp h
          exact ⟨target?, _, by rw [← hinit], htarget, hseparator, hhelp, hfound⟩
  · rintro ⟨target?, separator, rfl, htarget, hseparator, hhelp, hhosts⟩
    rw [List.getLast?_concat]
    simp only [hhelp, if_false, List.dropLast_concat, takeTarget_separator htarget hseparator, hhosts]
    exact deletionBetween_eq_ok_iff.mpr ⟨hseparator, rfl, rfl⟩

end Request

end Discovery
