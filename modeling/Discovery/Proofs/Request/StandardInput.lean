import Discovery.Proofs.Request.Precedence
import Discovery.Proofs.Target.Resolution

namespace Discovery

variable {setting : Setting} {world other : World} {arguments : List String}

theorem AliasOrigin.standard_not_mem_inputs (origin : AliasOrigin) :
    Input.standard ∉ origin.inputs := by
  cases origin <;> simp [inputs]

/-- Aliases come from files. -/
theorem AliasOrigin.aliasesIn_congr (hfile : other.file = world.file) (origin : AliasOrigin) :
    origin.aliasesIn other = origin.aliasesIn world := by
  cases origin <;> simp only [aliasesIn, hfile]

theorem Setting.resolve_congr (hfile : other.file = world.file) (arguments : List String) :
    setting.resolve other arguments = setting.resolve world arguments := by
  rw [resolve, resolve, AliasOrigin.aliasesIn_congr hfile]

namespace Subcommand

theorem standard_mem_inputs_withHosts {next : Hosts → List String → Dialogue Failure Request} :
    Input.standard ∈ ((withHosts setting arguments next).run world).inputs ↔
      ∃ hosts, setting.resolve world arguments = .ok hosts ∧
        Input.standard ∈ ((next hosts (takeTarget arguments).2).run world).inputs := by
  have haliases := setting.aliases.standard_not_mem_inputs
  rw [inputs_withHosts, List.mem_append, or_iff_right haliases]
  cases setting.resolve world arguments <;> simp

theorem mem_inputs_withFlags {command : Subcommand} {next : Scan → Dialogue Failure Request}
    {input : Input} :
    input ∈ ((withFlags command arguments next).run world).inputs ↔
      ∃ scan, Scan.ofArguments command.flags arguments = .ok scan ∧ scan.extra = [] ∧
        input ∈ ((next scan).run world).inputs := by
  cases hscan : Scan.ofArguments command.flags arguments with
  | error stop => simp [withFlags_of_stop hscan]
  | ok scan =>
    by_cases hextra : scan.extra = []
    · simp [withFlags_of_scan hscan hextra, hextra]
    · simp [withFlags_of_extra hscan hextra, hextra, Dialogue.run]

end Subcommand

namespace Scan

variable {scan : Scan}

/-- Whether the document is expected on the standard input: the last file is a hyphen, or there is
    no file and the last text is one. -/
def NamesStandardInput (scan : Scan) : Prop :=
  scan.last? .documentFile = some "-" ∨
    scan.all .documentFile = [] ∧ scan.last? .document = some "-"

theorem source?_eq_standardInput_iff (home? : Option String) :
    scan.source? home? = some .standardInput ↔ scan.NamesStandardInput := by
  have hnoFile : scan.last? .documentFile = none ↔ scan.all .documentFile = [] :=
    List.getLast?_eq_none_iff
  rw [source?, NamesStandardInput, ← hnoFile]
  cases scan.last? .documentFile with
  | some path =>
    by_cases hpath : path = "-" <;> simp [Source.ofFlags?, Source.standardInputMark, hpath]
  | none =>
    cases scan.last? .document with
    | none => simp [Source.ofFlags?]
    | some text =>
      by_cases htext : text = "-" <;> simp [Source.ofFlags?, Source.standardInputMark, htext]

theorem standard_mem_inputs_definition {home? : Option String} :
    Input.standard ∈ ((scan.definition home?).run world).inputs ↔
      scan.all .property = [] ∧ scan.NamesStandardInput := by
  rw [← source?_eq_standardInput_iff home?, definition]
  cases scan.source? home? with
  | none => simp [inputs_fieldDefinition]
  | some source =>
    have hproperty : scan.has .property = true ↔ scan.all .property ≠ [] := has_iff
    rw [inputs_documentDefinition, Source.inputs_load]
    by_cases hnone : scan.all .property = []
    · cases source <;> simp [hproperty, hnone, Source.inputs]
    · simp [hproperty, hnone]

end Scan

/-- Whether a document is expected on the standard input. The command is `add`, its target has
    hosts, its flags are in order, and nothing stands beside a document that is to be found there. -/
structure AsksForStandardInput (setting : Setting) (world : World) (arguments : List String) :
    Prop where
  selected : Subcommand.ofWord? (Subcommand.selector arguments) = some .add
  resolved : ∃ hosts, setting.resolve world arguments.tail = .ok hosts
  named : ∃ scan, Scan.ofArguments Subcommand.add.flags (takeTarget arguments.tail).2 = .ok scan ∧
    scan.extra = [] ∧ scan.all .property = [] ∧ scan.NamesStandardInput

theorem AsksForStandardInput.of_file_eq (hasked : AsksForStandardInput setting world arguments)
    (hfile : other.file = world.file) : AsksForStandardInput setting other arguments := by
  refine ⟨hasked.selected, ?_, hasked.named⟩
  rw [Setting.resolve_congr hfile]
  exact hasked.resolved

namespace Request

theorem standard_mem_inputs_ofAddArguments :
    Input.standard ∈ ((ofAddArguments setting arguments).run world).inputs ↔
      (∃ hosts, setting.resolve world arguments = .ok hosts) ∧
        ∃ scan, Scan.ofArguments Subcommand.add.flags (takeTarget arguments).2 = .ok scan ∧
          scan.extra = [] ∧ scan.all .property = [] ∧ scan.NamesStandardInput := by
  have hflags (hosts : Hosts) (scan : Scan) :
      Input.standard ∈ ((ofAddFlags hosts setting.home? scan).run world).inputs ↔
        scan.all .property = [] ∧ scan.NamesStandardInput := by
    rw [inputs_ofAddFlags, Scan.standard_mem_inputs_definition]
  simp only [ofAddFlags] at hflags
  rw [ofAddArguments, Subcommand.standard_mem_inputs_withHosts]
  simp only [Subcommand.mem_inputs_withFlags, hflags, exists_and_right]

theorem standard_not_mem_inputs_ofShowArguments :
    Input.standard ∉ ((ofShowArguments setting arguments).run world).inputs := by
  rw [ofShowArguments, Subcommand.standard_mem_inputs_withHosts]
  simp [Subcommand.mem_inputs_withFlags]

theorem standard_not_mem_inputs_ofDeleteArguments :
    Input.standard ∉ ((ofDeleteArguments setting arguments).run world).inputs := by
  unfold ofDeleteArguments
  split
  next => simp [Dialogue.run]
  next =>
    split
    next => simp
    next =>
      rw [Subcommand.standard_mem_inputs_withHosts]
      simp [Subcommand.mem_inputs_withFlags]

/-- Only `add` expects anything on the standard input. -/
theorem readsStandardInput_iff :
    ((ofArguments setting arguments).run world).readsStandardInput = true ↔
      AsksForStandardInput setting world arguments := by
  have hadd : AsksForStandardInput setting world arguments ↔
      Subcommand.ofWord? (Subcommand.selector arguments) = some .add ∧
        Input.standard ∈ ((ofAddArguments setting arguments.tail).run world).inputs := by
    rw [standard_mem_inputs_ofAddArguments]
    exact ⟨fun h => ⟨h.selected, h.resolved, h.named⟩, fun h => ⟨h.1, h.2.1, h.2.2⟩⟩
  rw [Trace.readsStandardInput, List.contains_iff_mem, inputs_ofArguments, hadd]
  cases Subcommand.ofWord? (Subcommand.selector arguments) with
  | none => simp
  | some command =>
    cases command with
    | add => simp [ofSubcommandArguments]
    | «show» => simp [ofSubcommandArguments, standard_not_mem_inputs_ofShowArguments]
    | delete => simp [ofSubcommandArguments, standard_not_mem_inputs_ofDeleteArguments]

/-- A run that does not ask for the standard input is the same whatever is there. -/
theorem run_eq_of_not_asks (hunasked : ¬ AsksForStandardInput setting world arguments)
    (hfile : other.file = world.file) :
    (ofArguments setting arguments).run other = (ofArguments setting arguments).run world := by
  -- the worlds differ on the standard input only, and the run does not ask for that
  apply Dialogue.run_congr
  intro input hinput
  cases input with
  | file path => exact congrFun hfile path
  | standard => exact absurd (readsStandardInput_iff.mp (List.contains_iff_mem.mpr hinput)) hunasked

/-- Where the standard input is asked for, the hosts and the output mode are settled before, and
    all that it has a say in is the document. -/
theorem exists_outcome_of_asks (hasked : AsksForStandardInput setting world arguments) :
    ∃ hosts output, ∀ other : World, other.file = world.file →
      ((ofArguments setting arguments).run other).outcome =
        (Source.standardInput.load.run other).outcome.map fun document =>
          .add hosts output (.document document) := by
  obtain ⟨hselected, ⟨hosts, hhosts⟩, scan, hscan, hextra, hproperty, hstandard⟩ := hasked
  refine ⟨hosts, scan.outputMode, fun other hfile => ?_⟩
  have hsource : scan.source? setting.home? = some .standardInput :=
    (Scan.source?_eq_standardInput_iff setting.home?).mpr hstandard
  -- every stage in front of the document asks for files only
  rw [outcome_ofArguments, hselected]
  simp only
  rw [ofAddArguments, Subcommand.outcome_withHosts, Setting.resolve_congr hfile, hhosts, ok_bind,
    Subcommand.withFlags_of_scan hscan hextra]
  exact outcome_ofAddFlags_of_source hsource hproperty

/-- The standard input is read exactly when a document is expected there. Otherwise a run is the
    same whatever is there, even if it cannot be read. Where it is read, whatever is accepted there
    leads to a request with the same hosts and the same output mode, and all other contents to the
    failure to load them. -/
theorem standard_input_read_when_asked (setting : Setting) (world : World)
    (arguments : List String) :
    (((ofArguments setting arguments).run world).readsStandardInput = true ↔
        AsksForStandardInput setting world arguments) ∧
      (¬ AsksForStandardInput setting world arguments → ∀ other : World,
        other.file = world.file →
          (ofArguments setting arguments).run other = (ofArguments setting arguments).run world) ∧
      (AsksForStandardInput setting world arguments → ∃ hosts output, ∀ other : World,
        other.file = world.file →
          ((ofArguments setting arguments).run other).readsStandardInput = true ∧
          ((ofArguments setting arguments).run other).outcome =
            (Source.standardInput.load.run other).outcome.map fun document =>
              .add hosts output (.document document)) := by
  refine ⟨readsStandardInput_iff, fun hunasked other => run_eq_of_not_asks hunasked,
    fun hasked => ?_⟩
  obtain ⟨hosts, output, houtcome⟩ := exists_outcome_of_asks hasked
  exact ⟨hosts, output, fun other hfile =>
    ⟨readsStandardInput_iff.mpr (hasked.of_file_eq hfile), houtcome other hfile⟩⟩

/-- A hyphen for a file is asked for, whatever the text beside it. Next to a property it is not, so
    there it makes no difference what is on the standard input. -/
theorem standard_input_read_for_hyphen :
    let setting : Setting := ⟨"home", .nowhere⟩
    let silent : World := ⟨fun _ => .error .notFound, .error .closed⟩
    let other : World := ⟨silent.file, .ok "[]".toUTF8⟩
    let asked := ofArguments setting ["add", "-f", "-", "-j", "x"]
    let conflict := ofArguments setting ["add", "-D", "x", "-f", "-"]
    (asked.run silent).readsStandardInput = true ∧
      (asked.run silent).outcome = .error (.unreadableStandardInput .closed) ∧
      (asked.run other).readsStandardInput = true ∧
      conflict.run other = conflict.run silent := by
  intro setting silent other asked conflict
  have hresolve : setting.resolve silent ["-f", "-", "-j", "x"] =
      .ok ⟨["http://localhost:8080"], by decide⟩ :=
    Aliases.resolve_eq_ok_iff.mpr (by decide)
  have hasked : AsksForStandardInput setting silent ["add", "-f", "-", "-j", "x"] := by
    refine ⟨by decide, ⟨_, hresolve⟩, ⟨[⟨.documentFile, "-"⟩, ⟨.document, "x"⟩], []⟩, ?_⟩
    exact ⟨rfl, rfl, rfl, Or.inl rfl⟩
  have hunasked : ¬ AsksForStandardInput setting silent ["add", "-D", "x", "-f", "-"] := by
    rintro ⟨_, _, scan, hscan, _, hproperty, _⟩
    obtain rfl : ⟨[⟨.property, "x"⟩, ⟨.documentFile, "-"⟩], []⟩ = scan :=
      Except.ok.inj hscan
    cases hproperty
  obtain ⟨_, _, hknown⟩ :=
    standard_input_read_when_asked setting silent ["add", "-f", "-", "-j", "x"]
  obtain ⟨hosts, output, hasks⟩ := hknown hasked
  obtain ⟨hread, houtcome⟩ := hasks silent rfl
  have hsame := (standard_input_read_when_asked setting silent ["add", "-D", "x", "-f", "-"]).2.1
  exact ⟨hread, houtcome, (hasks other rfl).1, hsame hunasked other rfl⟩

end Request

end Discovery
