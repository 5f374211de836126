import Discovery.Proofs.Request.Precedence
import Discovery.Proofs.Target.Resolution

namespace Discovery

theorem Flag.Spelled.beginsWithHyphen {flag : Flag} {value? : Option String} {argument : String}
    (h : flag.Spelled value? argument) : Token.beginsWithHyphen argument = true := by
  cases h <;> simp [Token.beginsWithHyphen]

/-- Options begin with a hyphen, and so do the two hyphens that may end them. -/
theorem Line.beginsWithHyphen_of_mem_head? {line : Line} {flags : List Flag}
    (hwritten : line.Written flags) (hoptions : line.operands = []) :
    ∀ first ∈ line.arguments.head?, Token.beginsWithHyphen first = true := by
  obtain ⟨items, rest?⟩ := line
  intro first hfirst
  cases items with
  | nil =>
    cases rest? with
    | none => cases hfirst
    | some rest =>
      obtain rfl := Option.some.inj hfirst
      decide
  | cons item items =>
    have hitem : item.Written flags := hwritten item List.mem_cons_self
    cases item with
    | operand argument => cases hoptions
    | apart spelling flag value =>
      obtain rfl := Option.some.inj hfirst
      exact hitem.2.1.beginsWithHyphen
    | joined spelling flag value =>
      obtain rfl := Option.some.inj hfirst
      exact hitem.2.1.beginsWithHyphen

/-- A command line of `add` with nothing but well-formed options behind its target. -/
structure Addition where
  /-- the argument that selects the command -/
  word : String
  target? : Option String
  line : Line
  selected : Subcommand.ofWord? (Subcommand.selector [word]) = some .add
  target_noFlag : ∀ target ∈ target?, Token.beginsWithHyphen target = false
  written : line.Written Subcommand.add.flags
  optionsOnly : line.operands = []

namespace Addition

variable (c : Addition)

/-- The arguments of a command line, without the name of the program. -/
def arguments : List String :=
  c.word :: (c.target?.toList ++ c.line.arguments)

/-- The target that counts. -/
def target : String :=
  c.target?.getD defaultTarget

/-- The hosts of the target. -/
def resolve (setting : Setting) (world : World) : Except Failure Hosts :=
  (setting.aliases.aliasesIn world).resolve c.target

theorem takeTarget_eq :
    takeTarget (c.target?.toList ++ c.line.arguments) = (c.target, c.line.arguments) :=
  takeTarget_toList_append c.target_noFlag
    (Line.beginsWithHyphen_of_mem_head? c.written c.optionsOnly)

theorem setting_resolve_eq (setting : Setting) (world : World) :
    setting.resolve world (c.target?.toList ++ c.line.arguments) = c.resolve setting world := by
  rw [Setting.resolve, takeTarget_eq]
  rfl

/-- Behind the target nothing stands in the way of the definition. -/
theorem withFlags_eq (next : Scan → Dialogue Failure Request) :
    Subcommand.withFlags .add c.line.arguments next = next c.line.scan :=
  Subcommand.withFlags_of_scan (Scan.ofArguments_line c.written) c.optionsOnly next

variable (setting : Setting) (world : World)

theorem outcome_eq :
    ((Request.ofArguments setting c.arguments).run world).outcome =
      c.resolve setting world >>= fun hosts =>
        ((Request.ofAddFlags hosts setting.home? c.line.scan).run world).outcome := by
  rw [arguments, Request.outcome_ofArguments_of_word world setting c.selected,
    Request.ofSubcommandArguments, Request.ofAddArguments, Subcommand.outcome_withHosts,
    setting_resolve_eq, takeTarget_eq]
  simp only [withFlags_eq]
  rfl

theorem inputs_eq :
    ((Request.ofArguments setting c.arguments).run world).inputs = setting.aliases.inputs ++
      match c.resolve setting world with
      | .ok hosts => ((Request.ofAddFlags hosts setting.home? c.line.scan).run world).inputs
      | .error _ => [] := by
  rw [arguments, Request.inputs_ofArguments_of_word world setting c.selected,
    Request.ofSubcommandArguments, Request.ofAddArguments, Subcommand.inputs_withHosts,
    setting_resolve_eq, takeTarget_eq]
  simp only [withFlags_eq]
  rfl

theorem warnings_eq :
    ((Request.ofArguments setting c.arguments).run world).warnings =
      match c.resolve setting world with
      | .ok hosts => ((Request.ofAddFlags hosts setting.home? c.line.scan).run world).warnings
      | .error _ => [] := by
  rw [arguments, Request.warnings_ofArguments_of_word world setting c.selected,
    Request.ofSubcommandArguments, Request.ofAddArguments, Subcommand.warnings_withHosts,
    setting_resolve_eq, takeTarget_eq]
  simp only [withFlags_eq]
  rfl

end Addition

/-- Every command line that leads to a request to add something is one of these. -/
theorem Request.exists_addition_of_outcome {setting : Setting} {world : World}
    {arguments : List String} {hosts : Hosts} {output : OutputMode} {definition : Definition}
    (h : ((ofArguments setting arguments).run world).outcome = .ok (.add hosts output definition)) :
    ∃ c : Addition, c.arguments = arguments := by
  obtain ⟨word, rest, scan, rfl, hword, _, hscan, hextra, _⟩ := outcome_ofArguments_eq_add h
  obtain ⟨target?, htarget, hrest, _⟩ := exists_target_of_takeTarget rest
  rw [Scanner.ofArguments_eq_finish] at hscan
  obtain ⟨line, hwritten, harguments, rfl⟩ := Scanner.exists_line_of_finish _ hscan
  refine ⟨⟨word, target?, line, hword, htarget, hwritten, hextra⟩, ?_⟩
  rw [Addition.arguments, harguments, ← hrest]

end Discovery
