import Discovery.Proofs.Flag.Stop
import Discovery.Proofs.Request.Interpretation
import Discovery.Proofs.Service.Announcement

namespace Discovery.Request

variable {world : World} {setting : Setting}

/-- Whether an outcome comes from a target without hosts, the help flag or an unknown flag. -/
def IsEarly : Except Failure Request → Prop
  | .ok (.help ..) => True
  | .error (.noHosts _) => True
  | .error (.unknownFlag ..) => True
  | _ => False

theorem atOnce_of_isEarly {command : Subcommand} {stop : Stop}
    (h : IsEarly (command.outcomeOfStop stop)) : stop.AtOnce := by
  cases stop with
  | help | unknown => trivial
  | misuse => exact h

/-- Arguments behind the first one do not change the target. -/
theorem takeTarget_append (first : String) (rest more : List String) :
    takeTarget (first :: rest ++ more) =
      ((takeTarget (first :: rest)).1, (takeTarget (first :: rest)).2 ++ more) := by
  by_cases hhyphen : Token.beginsWithHyphen first <;> simp [takeTarget, hhyphen]

/-- More arguments do not change an early outcome of a subcommand whose outcome is not early once
    all flags are known. -/
theorem outcome_append_of_isEarly {command : Subcommand}
    {next : Hosts → Scan → Dialogue Failure Request}
    (hlate : ∀ hosts scan, ¬ IsEarly ((next hosts scan).run world).outcome)
    {first : String} {rest : List String} (more : List String)
    (h : IsEarly ((Subcommand.withHosts setting (first :: rest) fun hosts arguments =>
      Subcommand.withFlags command arguments (next hosts)).run world).outcome) :
    ((Subcommand.withHosts setting (first :: rest ++ more) fun hosts arguments =>
        Subcommand.withFlags command arguments (next hosts)).run world).outcome =
      ((Subcommand.withHosts setting (first :: rest) fun hosts arguments =>
        Subcommand.withFlags command arguments (next hosts)).run world).outcome := by
  have hresolve : setting.resolve world (first :: rest ++ more) =
      setting.resolve world (first :: rest) := by
    rw [Setting.resolve, takeTarget_append]
    rfl
  rw [Subcommand.outcome_withHosts] at h ⊢
  rw [Subcommand.outcome_withHosts, hresolve, takeTarget_append]
  cases hhosts : setting.resolve world (first :: rest) with
  | error failure => rfl
  | ok hosts =>
    rw [hhosts, ok_bind] at h
    rw [ok_bind, ok_bind]
    cases hscan : Scan.ofArguments command.flags (takeTarget (first :: rest)).2 with
    | ok scan =>
      by_cases hextra : scan.extra = []
      · rw [Subcommand.withFlags_of_scan hscan hextra] at h
        exact absurd h (hlate hosts scan)
      · rw [Subcommand.withFlags_of_extra hscan hextra] at h
        exact h.elim
    | error stop =>
      rw [Subcommand.withFlags_of_stop hscan, Dialogue.outcome_ofExcept] at h
      obtain ⟨front, argument, ⟨back, harguments⟩, hdecided, _⟩ :=
        Scan.exists_deciding_prefix hscan (atOnce_of_isEarly h)
      have hmore : Scan.ofArguments command.flags ((takeTarget (first :: rest)).2 ++ more) =
          .error stop := by
        rw [← harguments, List.append_assoc]
        exact hdecided (back ++ more)
      rw [Subcommand.withFlags_of_stop hscan, Subcommand.withFlags_of_stop hmore]

/-- No definition fails for want of hosts or because of a flag. -/
theorem not_isEarly_of_definition (hosts : Hosts) (output : OutputMode) (scan : Scan)
    (home? : Option String) :
    ¬ IsEarly (((scan.definition home?).run world).outcome >>= fun definition =>
      .ok (.add hosts output definition)) := by
  intro h
  cases hdefinition : ((scan.definition home?).run world).outcome with
  | ok definition =>
    rw [hdefinition] at h
    exact h
  | error failure =>
    rw [hdefinition] at h
    unfold Scan.definition at hdefinition
    split at hdefinition
    next source _ =>
      rw [Scan.outcome_documentDefinition] at hdefinition
      split at hdefinition
      next =>
        cases hdefinition
        exact h
      next =>
        cases hload : (source.load.run world).outcome with
        | ok document => simp [hload, Except.map] at hdefinition
        | error other =>
          rw [hload] at hdefinition
          obtain rfl := Except.error.inj hdefinition
          obtain ⟨_, _, rfl⟩ | ⟨_, rfl⟩ | ⟨_, _, rfl⟩ := Source.failure_of_load hload <;>
            exact h
    next =>
      rw [Scan.outcome_fieldDefinition] at hdefinition
      cases hfields : Announcement.ofFields scan.fields (Subcommand.usage .add) with
      | ok a => simp [hfields, Except.map] at hdefinition
      | error other =>
        rw [hfields] at hdefinition
        obtain rfl := Except.error.inj hdefinition
        obtain ⟨_, rfl⟩ := Announcement.exists_missing_of_ofFields hfields
        exact h

theorem outcome_ofShowArguments_append {first : String} {rest : List String} (more : List String)
    (h : IsEarly ((ofShowArguments setting (first :: rest)).run world).outcome) :
    ((ofShowArguments setting (first :: rest ++ more)).run world).outcome =
      ((ofShowArguments setting (first :: rest)).run world).outcome :=
  outcome_append_of_isEarly (fun _ _ => id) more h

theorem outcome_ofAddArguments_append {first : String} {rest : List String} (more : List String)
    (h : IsEarly ((ofAddArguments setting (first :: rest)).run world).outcome) :
    ((ofAddArguments setting (first :: rest ++ more)).run world).outcome =
      ((ofAddArguments setting (first :: rest)).run world).outcome := by
  refine outcome_append_of_isEarly (fun hosts scan => ?_) more h
  rw [Dialogue.outcome_bind]
  exact not_isEarly_of_definition hosts scan.outputMode scan setting.home?

/-- The first problem decides. A scan that stops for help or an unknown flag has a shortest part at
    its front that stops it in this way: fewer arguments do not stop it at once, and more of them
    change nothing. The last argument of that part is the flag that is unknown. Therefore nothing
    behind a target without hosts, the help flag or an unknown flag has a say in the outcome of
    `show` or `add`. -/
theorem first_problem_decides :
    (∀ (command : Subcommand) (arguments : List String) (stop : Stop),
      Scan.ofArguments command.flags arguments = .error stop → stop.AtOnce →
      ∃ shortest, shortest <+: arguments ∧
        Scan.ofArguments command.flags shortest = .error stop ∧
        (∀ fewer, fewer <+: shortest → fewer ≠ shortest → ∀ other : Stop, other.AtOnce →
          Scan.ofArguments command.flags fewer ≠ .error other) ∧
        (∀ more, Scan.ofArguments command.flags (shortest ++ more) = .error stop) ∧
        ∀ flag, stop = .unknown flag → ∃ argument, shortest.getLast? = some argument ∧
          argument.toList.head? = some '-' ∧ argument ≠ "-" ∧ argument ≠ "--" ∧
          flag = Token.flagName argument ∧ Flag.IsUnknown command.flags flag) ∧
    (∀ (setting : Setting) (world : World) (command : Subcommand) (word first : String)
      (rest more : List String),
      Subcommand.ofWord? (Subcommand.selector [word]) = some command → command ≠ .delete →
      IsEarly ((ofArguments setting (word :: first :: rest)).run world).outcome →
      ((ofArguments setting (word :: first :: rest ++ more)).run world).outcome =
        ((ofArguments setting (word :: first :: rest)).run world).outcome) := by
  constructor
  · intro command arguments stop hscan hstop
    obtain ⟨front, argument, hpart, hdecided, hfewer, hflag, hseparator, hkind⟩ :=
      Scan.exists_deciding_prefix hscan hstop
    have hshortest := hdecided []
    rw [List.append_nil] at hshortest
    refine ⟨front ++ [argument], hpart, hshortest, ?_, hdecided, ?_⟩
    · intro fewer hless hne other hother hstopped
      have hfront : fewer <+: front := (List.prefix_concat_iff.mp hless).resolve_left hne
      exact hfewer fewer hfront other hstopped hother
    · rintro flag rfl
      obtain ⟨⟨⟩, _⟩ | ⟨hname, hunknown⟩ := hkind
      obtain rfl := Stop.unknown.inj hname
      have hlook : argument.toList.head? = some '-' := by
        by_contra hhead
        exact hflag (Or.inr (Or.inr hhead))
      have hhyphen : argument ≠ "-" := fun heq => hflag (Or.inr (Or.inl heq))
      exact ⟨argument, by simp, hlook, hhyphen, hseparator, rfl, hunknown⟩
  · intro setting world command word first rest more hword hdelete hearly
    rw [outcome_ofArguments_of_word world setting hword] at hearly
    rw [List.cons_append, outcome_ofArguments_of_word world setting hword,
      outcome_ofArguments_of_word world setting hword]
    cases command with
    | add => exact outcome_ofAddArguments_append more hearly
    | «show» => exact outcome_ofShowArguments_append more hearly
    | delete => exact absurd rfl hdelete

/-- A faulty value, an unknown flag behind it and help behind both: the unknown flag decides, since
    the value is not judged before it. -/
theorem unknown_flag_decides :
    let arguments := ["-o", "xml", "--bad=1", "-h"]
    let setting : Setting := ⟨"home", .nowhere⟩
    let world : World := ⟨fun _ => .error .notFound, .error .closed⟩
    Scan.ofArguments Subcommand.show.flags arguments = .error (.unknown "--bad") ∧
      (∃ shortest, shortest <+: arguments ∧ shortest.getLast? = some "--bad=1" ∧
        ∀ more, Scan.ofArguments Subcommand.show.flags (shortest ++ more) =
          .error (.unknown "--bad")) ∧
      IsEarly ((ofArguments setting ("Show" :: "-o" :: ["xml", "--bad=1"])).run world).outcome ∧
      ∀ more, ((ofArguments setting ("Show" :: "-o" :: ["xml", "--bad=1"] ++ more)).run
        world).outcome =
          ((ofArguments setting ("Show" :: "-o" :: ["xml", "--bad=1"])).run world).outcome := by
  intro arguments setting world
  have hscan : Scan.ofArguments Subcommand.show.flags arguments = .error (.unknown "--bad") := rfl
  have hearly :
      IsEarly ((ofArguments setting ("Show" :: "-o" :: ["xml", "--bad=1"])).run world).outcome :=
    trivial
  obtain ⟨hstop, hmore⟩ := first_problem_decides
  obtain ⟨shortest, hshortest, _, _, hdecided, hlast⟩ := hstop .show arguments _ hscan trivial
  obtain ⟨argument, hargument, _, _, _, hname, _⟩ := hlast "--bad" rfl
  refine ⟨hscan, ⟨shortest, hshortest, ?_, hdecided⟩, hearly, fun more => ?_⟩
  · have hmem : argument ∈ arguments :=
      hshortest.subset (List.mem_of_getLast? hargument)
    have hbad : ∀ a ∈ arguments, Token.flagName a = "--bad" → a = "--bad=1" := by decide
    rw [hargument, hbad argument hmem hname.symm]
  · exact hmore setting world .show "Show" "-o" ["xml", "--bad=1"] more (by decide) (by decide) hearly

end Discovery.Request
