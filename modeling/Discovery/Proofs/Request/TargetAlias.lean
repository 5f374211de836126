import Discovery.Proofs.Dictionary
import Discovery.Proofs.Request.Deletion
import Discovery.Proofs.Request.Precedence
import Discovery.Proofs.Target.Resolution

namespace Discovery

/-- The target of arguments: the first of them, or the default where there is none or it looks like
    a flag. -/
inductive IsTarget : String → List String → Prop
  | given {target : String} {rest : List String} :
    Token.beginsWithHyphen target = false → IsTarget target (target :: rest)
  | default {arguments : List String} :
    (∀ first ∈ arguments.head?, Token.beginsWithHyphen first = true) →
      IsTarget defaultTarget arguments

theorem isTarget_iff {target : String} {arguments : List String} :
    IsTarget target arguments ↔ (takeTarget arguments).1 = target := by
  cases arguments with
  | nil =>
    constructor
    · rintro ⟨⟩
      rfl
    · rintro rfl
      exact .default nofun
  | cons first rest =>
    by_cases hfirst : Token.beginsWithHyphen first = true
    · simp only [takeTarget, hfirst, if_true]
      constructor
      · rintro (hargument | _)
        · exact absurd hfirst (by simp [hargument])
        · rfl
      · rintro rfl
        exact .default fun argument hargument => Option.some.inj hargument ▸ hfirst
    · simp only [takeTarget, hfirst]
      constructor
      · rintro (_ | hflag)
        · rfl
        · exact absurd (hflag first rfl) hfirst
      · rintro rfl
        exact .given (by simpa using hfirst)

/-- The arguments among which a subcommand looks for its target. The identifier at the end of those
    of `delete` is not one of them. -/
def Subcommand.targetArguments : Subcommand → List String → List String
  | .delete, arguments => arguments.dropLast
  | .add, arguments | .show, arguments => arguments

/-- The target of a command line. Only one that selects a subcommand has a target. -/
def Request.IsTargetOf (target : String) (arguments : List String) : Prop :=
  ∃ command, Subcommand.ofWord? (Subcommand.selector arguments) = some command ∧
    IsTarget target (command.targetArguments arguments.tail)

namespace Aliases

variable {aliases : Aliases} {name text target : String}

theorem hostText_insert : hostText (aliases.insert name text) name = text := by
  simp [hostText, Dictionary.find?_insert]

/-- Only the target is looked up. -/
theorem resolveTarget_insert_of_ne (h : target ≠ name) :
    resolveTarget (aliases.insert name text) target = resolveTarget aliases target := by
  simp only [resolveTarget, resolutionEvents, resolve, hostText, Dictionary.find?_insert, if_neg h]

end Aliases

/-- A request to other hosts. -/
def Request.withHosts (hosts : Hosts) : Request → Request
  | .add _ output definition => .add hosts output definition
  | .show _ output => .show hosts output
  | .delete _ identifier => .delete hosts identifier
  | .help topic? text => .help topic? text

/-- What may be said about hosts has been said: a request that goes to some now goes to these, and
    help stays help. -/
theorem Request.withHosts_cases (hosts : Hosts) (request : Request) :
    request.hosts? = none ∧ request.withHosts hosts = request ∨
      (request.withHosts hosts).hosts? = some hosts := by
  cases request with
  | add | «show» | delete => exact Or.inr rfl
  | help => exact Or.inl ⟨rfl, rfl⟩

variable {home? : Option String} {name text : String} {aliases : Aliases}
  {arguments : List String} {world : World}

namespace Subcommand

theorem withHosts_insert_of_ne (h : ¬ IsTarget name arguments)
    (next : Hosts → List String → Dialogue Failure Request) :
    withHosts ⟨home?, .table (aliases.insert name text)⟩ arguments next =
      withHosts ⟨home?, .table aliases⟩ arguments next :=
  congrArg (· >>= fun found => next found (takeTarget arguments).2)
    (Aliases.resolveTarget_insert_of_ne fun htarget => h (isTarget_iff.mpr htarget))

/-- A stage for which the hosts are no more than where its request goes. -/
def IgnoresHosts {ι : Type} (world : World) (next : Hosts → ι → Dialogue Failure Request) : Prop :=
  ∀ (known found : Hosts) (input : ι), ((next found input).run world).outcome =
    ((next known input).run world).outcome.map (Request.withHosts found)

theorem IgnoresHosts.withFlags {next : Hosts → Scan → Dialogue Failure Request}
    (h : IgnoresHosts world next) (command : Subcommand) :
    IgnoresHosts world fun hosts rest => command.withFlags rest (next hosts) := by
  intro known found rest
  change ((command.withFlags rest (next found)).run world).outcome =
    ((command.withFlags rest (next known)).run world).outcome.map (Request.withHosts found)
  cases hscan : Scan.ofArguments command.flags rest with
  | error stop =>
    rw [withFlags_of_stop hscan, withFlags_of_stop hscan, Dialogue.outcome_ofExcept]
    cases stop <;> rfl
  | ok scan =>
    by_cases hextra : scan.extra = []
    · rw [withFlags_of_scan hscan hextra, withFlags_of_scan hscan hextra]
      exact h known found scan
    · rw [withFlags_of_extra hscan hextra, withFlags_of_extra hscan hextra]
      rfl

/-- Where a stage behind the target succeeds with an alias and with another text for it, the two
    requests are the same but for the hosts, and these are the ones in that text. -/
theorem IgnoresHosts.withHosts {next : Hosts → List String → Dialogue Failure Request}
    (h : IgnoresHosts world next) (htarget : IsTarget name arguments) {request changed : Request}
    (hrequest : ((Subcommand.withHosts ⟨home?, .table aliases⟩ arguments next).run world).outcome =
      .ok request)
    (hchanged : ((Subcommand.withHosts ⟨home?, .table (aliases.insert name text)⟩ arguments
      next).run world).outcome = .ok changed) :
    ∃ found, Hosts.ofText? text = some found ∧ changed = request.withHosts found := by
  rw [outcome_withHosts] at hrequest hchanged
  obtain ⟨known, _, hknown⟩ := bind_eq_ok_iff.mp hrequest
  obtain ⟨found, hresolve, hfound⟩ := bind_eq_ok_iff.mp hchanged
  rw [Setting.resolve, isTarget_iff.mp htarget, Aliases.resolve_eq_ok_iff] at hresolve
  rw [h known found, hknown] at hfound
  refine ⟨found, ?_, (Except.ok.inj hfound).symm⟩
  rw [← hresolve]
  exact congrArg Hosts.ofText? Aliases.hostText_insert.symm

end Subcommand

namespace Request

theorem ignoresHosts_ofAddFlags :
    Subcommand.IgnoresHosts world fun hosts scan => ofAddFlags hosts home? scan := by
  intro known found scan
  rw [outcome_ofAddFlags, outcome_ofAddFlags]
  cases ((scan.definition home?).run world).outcome <;> rfl

theorem ignoresHosts_ofShowFlags :
    Subcommand.IgnoresHosts world fun hosts (scan : Scan) => pure (.show hosts scan.outputMode) :=
  fun _ _ _ => rfl

theorem ignoresHosts_ofDeleteFlags (identifier : String) :
    Subcommand.IgnoresHosts world fun hosts (_ : Scan) => pure (.delete hosts identifier) :=
  fun _ _ _ => rfl

/-- The arguments of a subcommand are decided by themselves, and then not as a request to any hosts,
    or their target is looked up before anything else. The setting has no other part in them than
    its aliases there and its home directory behind. -/
theorem ofSubcommandArguments_cases (command : Subcommand) (arguments : List String) :
    (∃ decided : Except Failure Request,
      (∀ request, decided = .ok request → request.hosts? = none) ∧
      ∀ setting, ofSubcommandArguments setting arguments command = Dialogue.ofExcept decided) ∨
    ∃ next : Option String → Hosts → List String → Dialogue Failure Request,
      (∀ home? world, Subcommand.IgnoresHosts world (next home?)) ∧
      ∀ setting, ofSubcommandArguments setting arguments command =
        Subcommand.withHosts setting (command.targetArguments arguments) (next setting.home?) := by
  cases command with
  | add => exact Or.inr ⟨fun home? hosts rest =>
      Subcommand.withFlags .add rest (ofAddFlags hosts home?),
      fun _ _ => ignoresHosts_ofAddFlags.withFlags .add, fun _ => rfl⟩
  | «show» => exact Or.inr ⟨_, fun _ _ => ignoresHosts_ofShowFlags.withFlags .show, fun _ => rfl⟩
  | delete =>
    cases hlast : arguments.getLast? with
    | none =>
      refine Or.inl ⟨.error (.missingArgument "service identifier" (Subcommand.usage .delete)),
        nofun, fun setting => ?_⟩
      simp only [ofSubcommandArguments, ofDeleteArguments, hlast]
      rfl
    | some identifier =>
      by_cases hhelp : Token.isHelp identifier = true
      · refine Or.inl ⟨.ok (Subcommand.help .delete), ?_, fun setting => ?_⟩
        · rintro request ⟨⟩
          rfl
        · simp only [ofSubcommandArguments, ofDeleteArguments, hlast, hhelp, if_true]
          rfl
      · refine Or.inr ⟨_, fun _ _ => (ignoresHosts_ofDeleteFlags identifier).withFlags .delete,
          fun setting => ?_⟩
        simp only [ofSubcommandArguments, ofDeleteArguments, hlast]
        rw [if_neg hhelp]
        rfl

/-- An alias that is not the target is never looked up. -/
theorem ofSubcommandArguments_insert_of_ne {command : Subcommand}
    (h : ¬ IsTarget name (command.targetArguments arguments)) :
    ofSubcommandArguments ⟨home?, .table (aliases.insert name text)⟩ arguments command =
      ofSubcommandArguments ⟨home?, .table aliases⟩ arguments command := by
  obtain ⟨decided, _, heq⟩ | ⟨next, _, heq⟩ := ofSubcommandArguments_cases command arguments
  · rw [heq, heq]
  · rw [heq, heq, Subcommand.withHosts_insert_of_ne h]

theorem ofArguments_insert_of_ne (h : ¬ IsTargetOf name arguments) :
    ofArguments ⟨home?, .table (aliases.insert name text)⟩ arguments =
      ofArguments ⟨home?, .table aliases⟩ arguments := by
  cases hselected : Subcommand.ofWord? (Subcommand.selector arguments) with
  | none => simp only [ofArguments, hselected]
  | some command =>
    rw [ofArguments_of_selected _ hselected, ofArguments_of_selected _ hselected,
      ofSubcommandArguments_insert_of_ne fun htarget => h ⟨command, hselected, htarget⟩]

/-- An alias that is the target has a say in the hosts of a request and in nothing else. -/
theorem withHosts_of_isTarget {command : Subcommand}
    (htarget : IsTarget name (command.targetArguments arguments)) {request changed : Request}
    (hrequest : ((ofSubcommandArguments ⟨home?, .table aliases⟩ arguments command).run
      world).outcome = .ok request)
    (hchanged : ((ofSubcommandArguments ⟨home?, .table (aliases.insert name text)⟩ arguments
      command).run world).outcome = .ok changed) :
    (request.hosts? = none ∧ changed = request) ∨
      ∃ found, Hosts.ofText? text = some found ∧ changed = request.withHosts found := by
  obtain ⟨decided, hhelp, heq⟩ | ⟨next, hnext, heq⟩ := ofSubcommandArguments_cases command arguments
  · rw [heq, Dialogue.outcome_ofExcept] at hrequest hchanged
    exact Or.inl ⟨hhelp request hrequest, Except.ok.inj (hchanged.symm.trans hrequest)⟩
  · rw [heq] at hrequest hchanged
    exact Or.inr ((hnext home? world).withHosts htarget hrequest hchanged)

/-- An alias has a say in nothing but the hosts of its target. Unless its name is the target of the
    command line, a run does not depend on it at all. If it is, two requests with different texts
    for it are the same but for their hosts, and these are the ones in the text, of which none is
    looked up again. -/
theorem alias_reaches_only_its_target (home? : Option String) (aliases : Aliases) (name text : String)
    (arguments : List String) (world : World) :
    let run (aliases : Aliases) := (ofArguments ⟨home?, .table aliases⟩ arguments).run world
    let changed := aliases.insert name text
    (¬ IsTargetOf name arguments → run changed = run aliases) ∧
      (IsTargetOf name arguments → ∀ request other, (run aliases).outcome = .ok request →
        (run changed).outcome = .ok other →
          request.hosts? = none ∧ other = request ∨
            ∃ found, Hosts.ofText? text = some found ∧ other.hosts? = some found ∧
              other = request.withHosts found) := by
  intro run changed
  refine ⟨fun hname => congrArg (Dialogue.run world) (ofArguments_insert_of_ne hname), ?_⟩
  rintro ⟨command, hselected, htarget⟩ request other hrequest hother
  have houtcome (aliases : Aliases) : (run aliases).outcome =
      ((ofSubcommandArguments ⟨home?, .table aliases⟩ arguments.tail command).run world).outcome := by
    change ((ofArguments ⟨home?, .table aliases⟩ arguments).run world).outcome = _
    rw [ofArguments_of_selected _ hselected]
    rfl
  rw [houtcome] at hrequest hother
  obtain hhelp | ⟨found, hfound, rfl⟩ := withHosts_of_isTarget htarget hrequest hother
  · exact Or.inl hhelp
  · obtain hhelp | hhosts := request.withHosts_cases found
    · exact Or.inl hhelp
    · exact Or.inr ⟨found, hfound, hhosts, rfl⟩

/-- The default target as an alias for itself and for another alias, and that other alias, whose
    name is no target but an identifier. -/
theorem alias_reaches_default_target :
    let aliases : Aliases := Dictionary.ofPairs [("lab", "a,b")]
    let world : World := ⟨fun _ => .error .notFound, .error .closed⟩
    let outcome (aliases : Aliases) :=
      ((ofArguments ⟨"home", .table aliases⟩ ["delete", "lab"]).run world).outcome
    let request := .delete ⟨["http://localhost:8080"], by decide⟩ "lab"
    let other := .delete ⟨["localhost", "lab"], by decide⟩ "lab"
    outcome aliases = .ok request ∧
      outcome (aliases.insert "localhost" "localhost, lab") = .ok other ∧
      (∃ found, Hosts.ofText? "localhost, lab" = some found ∧ other = request.withHosts found) ∧
      outcome (aliases.insert "lab" ",") = outcome aliases := by
  intro aliases world outcome request other
  have hword : Subcommand.ofWord? (Subcommand.selector ["delete"]) = some .delete := by decide
  have hdefault : IsTargetOf "localhost" ["delete", "lab"] :=
    ⟨.delete, hword, .default (by decide)⟩
  have hidentifier : ¬ IsTargetOf "lab" ["delete", "lab"] := by
    rintro ⟨command, hcommand, htarget⟩
    obtain rfl : .delete = command := Option.some.inj (hword.symm.trans hcommand)
    have hname : "localhost" = "lab" := isTarget_iff.mp htarget
    exact absurd hname (by decide)
  have houtcome {aliases : Aliases} {hosts : Hosts}
      (h : Hosts.ofText? (aliases.hostText "localhost") = some hosts) :
      outcome aliases = .ok (.delete hosts "lab") := by
    refine (outcome_ofArguments_of_word world _ hword ["lab"]).trans ?_
    rw [ofSubcommandArguments, outcome_ofDeleteArguments]
    exact deletion_eq_ok_iff.mpr ⟨none, [], rfl, by simp, Or.inl rfl, by decide, h⟩
  have hrequest : outcome aliases = .ok request := houtcome (by decide)
  have hother : outcome (aliases.insert "localhost" "localhost, lab") = .ok other :=
    houtcome (by decide)
  obtain ⟨hsame, _⟩ := alias_reaches_only_its_target "home" aliases "lab" "," ["delete", "lab"] world
  obtain ⟨_, hchanged⟩ := alias_reaches_only_its_target "home" aliases "localhost"
    "localhost, lab" ["delete", "lab"] world
  refine ⟨hrequest, hother, ?_, congrArg Trace.outcome (hsame hidentifier)⟩
  obtain ⟨⟨⟩, _⟩ | ⟨found, hfound, _, heq⟩ := hchanged hdefault request other hrequest hother
  exact ⟨found, hfound, heq⟩

end Request

end Discovery
