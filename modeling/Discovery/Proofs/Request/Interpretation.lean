import Discovery.Proofs.Flag.Grammar
import Discovery.Proofs.Service.Source
import Discovery.Request.Interpretation

namespace Discovery

variable (world : World) (setting : Setting)

/-- The aliases of an origin in a world. An alias file that gives no text counts as one without
    aliases. -/
def AliasOrigin.aliasesIn (world : World) : AliasOrigin → Aliases
  | .file path =>
    match (world.file path).bind decodeText with
    | .ok text => .ofText text
    | .error _ => Dictionary.empty
  | .table aliases => aliases
  | .nowhere => Dictionary.empty

theorem AliasOrigin.outcome_load {ε : Type} (origin : AliasOrigin) :
    ((origin.load : Dialogue ε Aliases).run world).outcome = .ok (origin.aliasesIn world) := by
  cases origin with
  | file path =>
    simp only [load, aliasesIn, Dialogue.outcome_bind, Dialogue.outcome_readText, World.answer,
      ok_bind]
    cases (world.file path).bind decodeText <;> rfl
  | table aliases => rfl
  | nowhere => rfl

/-- What is asked for where aliases come from. -/
def AliasOrigin.inputs : AliasOrigin → List Input
  | .file path => [.file path]
  | .table _ => []
  | .nowhere => []

theorem AliasOrigin.inputs_load {ε : Type} (origin : AliasOrigin) :
    ((origin.load : Dialogue ε Aliases).run world).inputs = origin.inputs := by
  cases origin with
  | file path =>
    rw [load, Dialogue.inputs_bind, Dialogue.outcome_readText]
    cases (world.answer (.file path)).bind decodeText <;> rfl
  | table aliases => rfl
  | nowhere => rfl

theorem AliasOrigin.warnings_load {ε : Type} (origin : AliasOrigin) :
    ((origin.load : Dialogue ε Aliases).run world).warnings = [] := by
  cases origin with
  | file path =>
    rw [load, Dialogue.warnings_bind, Dialogue.outcome_readText]
    cases (world.answer (.file path)).bind decodeText <;> rfl
  | table aliases => rfl
  | nowhere => rfl

namespace Aliases

variable (aliases : Aliases) (target : String)

theorem outcome_resolveTarget :
    ((aliases.resolveTarget target).run world).outcome = aliases.resolve target := by
  rw [resolveTarget, Dialogue.outcome_bind, Dialogue.outcome_notes, ok_bind,
    Dialogue.outcome_ofExcept]

theorem inputs_resolveTarget : ((aliases.resolveTarget target).run world).inputs = [] := by
  rw [resolveTarget, Dialogue.inputs_bind, Dialogue.inputs_notes, Dialogue.outcome_notes]
  simp only [Dialogue.inputs_ofExcept, List.nil_append]

theorem warnings_resolveTarget : ((aliases.resolveTarget target).run world).warnings = [] := by
  rw [resolveTarget, Dialogue.warnings_bind, Dialogue.warnings_notes, Dialogue.outcome_notes]
  simp only [Dialogue.warnings_ofExcept, List.append_nil]
  unfold resolutionEvents
  split <;> rfl

end Aliases

/-- The hosts of the target of some arguments. -/
def Setting.resolve (setting : Setting) (world : World) (arguments : List String) :
    Except Failure Hosts :=
  (setting.aliases.aliasesIn world).resolve (takeTarget arguments).1

namespace Subcommand

theorem outcome_withHosts (arguments : List String)
    (next : Hosts → List String → Dialogue Failure Request) :
    ((withHosts setting arguments next).run world).outcome =
      setting.resolve world arguments >>= fun hosts =>
        ((next hosts (takeTarget arguments).2).run world).outcome := by
  rw [withHosts, Dialogue.outcome_bind, AliasOrigin.outcome_load, ok_bind, Dialogue.outcome_bind,
    Aliases.outcome_resolveTarget]
  rfl

/-- The aliases are asked for first, and nothing else is unless the target has hosts. -/
theorem inputs_withHosts (arguments : List String)
    (next : Hosts → List String → Dialogue Failure Request) :
    ((withHosts setting arguments next).run world).inputs = setting.aliases.inputs ++
      match setting.resolve world arguments with
      | .ok hosts => ((next hosts (takeTarget arguments).2).run world).inputs
      | .error _ => [] := by
  rw [withHosts, Dialogue.inputs_bind, AliasOrigin.outcome_load, AliasOrigin.inputs_load]
  simp only
  rw [Dialogue.inputs_bind, Aliases.inputs_resolveTarget, Aliases.outcome_resolveTarget,
    Setting.resolve]
  cases (setting.aliases.aliasesIn world).resolve (takeTarget arguments).1 <;> rfl

theorem warnings_withHosts (arguments : List String)
    (next : Hosts → List String → Dialogue Failure Request) :
    ((withHosts setting arguments next).run world).warnings =
      match setting.resolve world arguments with
      | .ok hosts => ((next hosts (takeTarget arguments).2).run world).warnings
      | .error _ => [] := by
  rw [withHosts, Dialogue.warnings_bind, AliasOrigin.outcome_load, AliasOrigin.warnings_load]
  simp only
  rw [Dialogue.warnings_bind, Aliases.warnings_resolveTarget, Aliases.outcome_resolveTarget,
    Setting.resolve]
  cases (setting.aliases.aliasesIn world).resolve (takeTarget arguments).1 <;> rfl

theorem withFlags_of_scan {command : Subcommand} {arguments : List String} {scan : Scan}
    (h : Scan.ofArguments command.flags arguments = .ok scan) (hextra : scan.extra = [])
    (next : Scan → Dialogue Failure Request) : withFlags command arguments next = next scan := by
  rw [withFlags, h]
  simp only [hextra, if_true]

theorem withFlags_of_extra {command : Subcommand} {arguments : List String} {scan : Scan}
    (h : Scan.ofArguments command.flags arguments = .ok scan) (hextra : scan.extra ≠ [])
    (next : Scan → Dialogue Failure Request) :
    withFlags command arguments next = .fail (.extraArguments scan.extra command.usage) := by
  rw [withFlags, h]
  simp only [hextra, if_false]

/-- What a scan that stopped becomes: a request for help, or a failure with the help text. -/
def outcomeOfStop (command : Subcommand) : Stop → Except Failure Request
  | .help => .ok command.help
  | .unknown flag => .error (.unknownFlag flag command.usage)
  | .misuse reason => .error (.invalidArgument reason.message command.usage)

theorem withFlags_of_stop {command : Subcommand} {arguments : List String} {stop : Stop}
    (h : Scan.ofArguments command.flags arguments = .error stop)
    (next : Scan → Dialogue Failure Request) :
    withFlags command arguments next = .ofExcept (command.outcomeOfStop stop) := by
  rw [withFlags, h]
  cases stop <;> rfl

/-- All that arguments behind a target can lead to when they are no failure: help, or what follows
    the flags when nothing else is there. -/
theorem outcome_withFlags_eq_ok {command : Subcommand} {arguments : List String}
    {next : Scan → Dialogue Failure Request} {request : Request}
    (h : ((withFlags command arguments next).run world).outcome = .ok request) :
    request = command.help ∨ ∃ scan, Scan.ofArguments command.flags arguments = .ok scan ∧
      scan.extra = [] ∧ ((next scan).run world).outcome = .ok request := by
  unfold withFlags at h
  split at h
  next scan hscan =>
    split at h
    next hextra => exact Or.inr ⟨scan, hscan, hextra, h⟩
    next => cases h
  next stop _ =>
    split at h
    next => cases h
    next => exact Or.inl (Except.ok.inj h).symm

end Subcommand

namespace Scan

variable (scan : Scan)

theorem outcome_fieldDefinition :
    (scan.fieldDefinition.run world).outcome =
      (Announcement.ofFields scan.fields (Subcommand.usage .add)).map .announcement := by
  rw [fieldDefinition, Dialogue.outcome_bind, Dialogue.outcome_notes, ok_bind,
    Dialogue.outcome_bind, Dialogue.outcome_ofExcept]
  cases Announcement.ofFields scan.fields (Subcommand.usage .add) <;> rfl

/-- Properties cannot be added to a document; without them it is the one that is loaded. -/
theorem outcome_documentDefinition (source : Source) :
    ((scan.documentDefinition source).run world).outcome =
      if scan.has .property then
        .error (.conflictingInput ((scan.all .property).map fun text => "-D" ++ text)
          (Subcommand.usage .add))
      else (source.load.run world).outcome.map .document := by
  unfold documentDefinition
  split
  next => rfl
  next =>
    rw [Dialogue.outcome_bind, Dialogue.outcome_notes, ok_bind, Dialogue.outcome_bind]
    cases (source.load.run world).outcome <;> rfl

theorem inputs_fieldDefinition : (scan.fieldDefinition.run world).inputs = [] := by
  rw [fieldDefinition, Dialogue.inputs_bind, Dialogue.inputs_notes, Dialogue.outcome_notes]
  simp only [Dialogue.inputs_bind, Dialogue.inputs_ofExcept, Dialogue.outcome_ofExcept,
    List.nil_append]
  cases Announcement.ofFields scan.fields (Subcommand.usage .add) <;> rfl

/-- A document that is in conflict with properties is not even looked at. -/
theorem inputs_documentDefinition (source : Source) :
    ((scan.documentDefinition source).run world).inputs =
      if scan.has .property then [] else (source.load.run world).inputs := by
  unfold documentDefinition
  split
  next => rfl
  next =>
    rw [Dialogue.inputs_bind, Dialogue.inputs_notes, Dialogue.outcome_notes]
    simp only [Dialogue.inputs_bind, List.nil_append]
    cases (source.load.run world).outcome <;> simp

theorem warnings_loadingEvents (source : Source) :
    (scan.loadingEvents source).filter (fun event => event.severity = .warning) =
      if scan.hasFields then [.fieldsIgnored] else [] := by
  unfold loadingEvents
  split <;> rfl

/-- The warning that flags have no effect comes before the document is loaded, so it does not depend
    on what is found there. -/
theorem warnings_documentDefinition (source : Source) :
    ((scan.documentDefinition source).run world).warnings =
      if scan.has .property then [] else if scan.hasFields then [.fieldsIgnored] else [] := by
  unfold documentDefinition
  split
  next => rfl
  next =>
    rw [Dialogue.warnings_bind, Dialogue.warnings_notes, warnings_loadingEvents,
      Dialogue.outcome_notes]
    simp only [Dialogue.warnings_bind, Source.warnings_load, List.nil_append]
    cases (source.load.run world).outcome <;> exact List.append_nil _

/-- A document of flags is one that was loaded. -/
theorem outcome_documentDefinition_eq_ok {source : Source} {definition : Definition}
    (h : ((scan.documentDefinition source).run world).outcome = .ok definition) :
    ∃ document, (source.load.run world).outcome = .ok document ∧
      definition = .document document := by
  rw [outcome_documentDefinition] at h
  split at h
  next => cases h
  next =>
    cases hload : (source.load.run world).outcome with
    | error failure => simp [hload, Except.map] at h
    | ok document =>
      rw [hload] at h
      exact ⟨document, rfl, (Except.ok.inj h).symm⟩

/-- All that flags can define: a document that was loaded, or the announcement of their fields. -/
theorem outcome_definition_eq_ok {home? : Option String} {definition : Definition}
    (h : ((scan.definition home?).run world).outcome = .ok definition) :
    (∃ source document, scan.source? home? = some source ∧
        (source.load.run world).outcome = .ok document ∧ definition = .document document) ∨
      (∃ a, Announcement.ofFields scan.fields (Subcommand.usage .add) = .ok a ∧
        definition = .announcement a) := by
  unfold Scan.definition at h
  split at h
  next source hsource =>
    obtain ⟨document, hload, hdefinition⟩ := scan.outcome_documentDefinition_eq_ok world h
    exact Or.inl ⟨source, document, hsource, hload, hdefinition⟩
  next =>
    rw [outcome_fieldDefinition] at h
    cases hfields : Announcement.ofFields scan.fields (Subcommand.usage .add) with
    | error failure => simp [hfields, Except.map] at h
    | ok a =>
      rw [hfields] at h
      exact Or.inr ⟨a, rfl, (Except.ok.inj h).symm⟩

end Scan

namespace Request

/-- A command line is interpreted as the subcommand that its first argument selects. -/
theorem outcome_ofArguments (arguments : List String) :
    ((ofArguments setting arguments).run world).outcome =
      match Subcommand.ofWord? (Subcommand.selector arguments) with
      | some .add => ((ofAddArguments setting arguments.tail).run world).outcome
      | some .show => ((ofShowArguments setting arguments.tail).run world).outcome
      | some .delete => ((ofDeleteArguments setting arguments.tail).run world).outcome
      | none => .ok (.help none Subcommand.combinedUsage) := by
  rw [ofArguments, Dialogue.outcome_bind, Dialogue.outcome_note, ok_bind]
  cases Subcommand.ofWord? (Subcommand.selector arguments) with
  | none => rfl
  | some command => cases command <;> rfl

/-- Interprets the arguments of a subcommand. -/
def ofSubcommandArguments (setting : Setting) (arguments : List String) :
    Subcommand → Dialogue Failure Request
  | .add => ofAddArguments setting arguments
  | .show => ofShowArguments setting arguments
  | .delete => ofDeleteArguments setting arguments

/-- A subcommand that is selected is logged and then goes on with the other arguments. -/
theorem ofArguments_of_selected {arguments : List String} {command : Subcommand}
    (hselected : Subcommand.ofWord? (Subcommand.selector arguments) = some command) :
    ofArguments setting arguments =
      Dialogue.note (.dispatching (Subcommand.selector arguments)) >>= fun _ =>
        ofSubcommandArguments setting arguments.tail command := by
  simp only [ofArguments, hselected]
  cases command <;> rfl

theorem inputs_ofArguments (arguments : List String) :
    ((ofArguments setting arguments).run world).inputs =
      match Subcommand.ofWord? (Subcommand.selector arguments) with
      | some command => ((ofSubcommandArguments setting arguments.tail command).run world).inputs
      | none => [] := by
  rw [ofArguments, Dialogue.inputs_bind]
  cases Subcommand.ofWord? (Subcommand.selector arguments) with
  | none => rfl
  | some command => cases command <;> rfl

variable {word : String} {command : Subcommand}

theorem outcome_ofArguments_of_word
    (hword : Subcommand.ofWord? (Subcommand.selector [word]) = some command)
    (arguments : List String) :
    ((ofArguments setting (word :: arguments)).run world).outcome =
      ((ofSubcommandArguments setting arguments command).run world).outcome := by
  have hselected : Subcommand.ofWord? (Subcommand.selector (word :: arguments)) = some command :=
    hword
  rw [outcome_ofArguments, hselected]
  cases command <;> rfl

theorem inputs_ofArguments_of_word
    (hword : Subcommand.ofWord? (Subcommand.selector [word]) = some command)
    (arguments : List String) :
    ((ofArguments setting (word :: arguments)).run world).inputs =
      ((ofSubcommandArguments setting arguments command).run world).inputs := by
  have hselected : Subcommand.ofWord? (Subcommand.selector (word :: arguments)) = some command :=
    hword
  rw [inputs_ofArguments, hselected]
  rfl

theorem warnings_ofArguments_of_word
    (hword : Subcommand.ofWord? (Subcommand.selector [word]) = some command)
    (arguments : List String) :
    ((ofArguments setting (word :: arguments)).run world).warnings =
      ((ofSubcommandArguments setting arguments command).run world).warnings := by
  have hselected : Subcommand.ofWord? (Subcommand.selector (word :: arguments)) = some command :=
    hword
  rw [ofArguments, Dialogue.warnings_bind, hselected]
  cases command <;> rfl

variable {world setting} {arguments : List String} {request : Request}

/-- All that the arguments of `add` can become. -/
theorem outcome_ofAddArguments_eq_ok
    (h : ((ofAddArguments setting arguments).run world).outcome = .ok request) :
    request = Subcommand.help .add ∨ ∃ hosts scan definition,
      setting.resolve world arguments = .ok hosts ∧
        Scan.ofArguments Subcommand.add.flags (takeTarget arguments).2 = .ok scan ∧
        scan.extra = [] ∧ ((scan.definition setting.home?).run world).outcome = .ok definition ∧
        request = .add hosts scan.outputMode definition := by
  rw [ofAddArguments, Subcommand.outcome_withHosts] at h
  obtain ⟨hosts, hhosts, hflags⟩ := bind_eq_ok_iff.mp h
  obtain hhelp | ⟨scan, hscan, hextra, hnext⟩ := Subcommand.outcome_withFlags_eq_ok world hflags
  · exact Or.inl hhelp
  · rw [Dialogue.outcome_bind] at hnext
    obtain ⟨definition, hdefinition, hrequest⟩ := bind_eq_ok_iff.mp hnext
    exact Or.inr ⟨hosts, scan, definition, hhosts, hscan, hextra, hdefinition,
      (Except.ok.inj hrequest).symm⟩

/-- What the arguments of `add` become when every stage succeeds. -/
theorem outcome_ofAddArguments_of_scan {hosts : Hosts} {scan : Scan} {definition : Definition}
    (hhosts : setting.resolve world arguments = .ok hosts)
    (hscan : Scan.ofArguments Subcommand.add.flags (takeTarget arguments).2 = .ok scan)
    (hextra : scan.extra = [])
    (hdefinition : ((scan.definition setting.home?).run world).outcome = .ok definition) :
    ((ofAddArguments setting arguments).run world).outcome =
      .ok (.add hosts scan.outputMode definition) := by
  rw [ofAddArguments, Subcommand.outcome_withHosts, hhosts, ok_bind,
    Subcommand.withFlags_of_scan hscan hextra, Dialogue.outcome_bind, hdefinition]
  rfl

/-- All that the arguments of `show` can become. -/
theorem outcome_ofShowArguments_eq_ok
    (h : ((ofShowArguments setting arguments).run world).outcome = .ok request) :
    request = Subcommand.help .show ∨ ∃ hosts scan, setting.resolve world arguments = .ok hosts ∧
      Scan.ofArguments Subcommand.show.flags (takeTarget arguments).2 = .ok scan ∧
      scan.extra = [] ∧ request = .show hosts scan.outputMode := by
  rw [ofShowArguments, Subcommand.outcome_withHosts] at h
  obtain ⟨hosts, hhosts, hflags⟩ := bind_eq_ok_iff.mp h
  obtain hhelp | ⟨scan, hscan, hextra, hnext⟩ := Subcommand.outcome_withFlags_eq_ok world hflags
  · exact Or.inl hhelp
  · exact Or.inr ⟨hosts, scan, hhosts, hscan, hextra, (Except.ok.inj hnext).symm⟩

/-- All that the arguments of `delete` can become. -/
theorem outcome_ofDeleteArguments_eq_ok
    (h : ((ofDeleteArguments setting arguments).run world).outcome = .ok request) :
    request = Subcommand.help .delete ∨ ∃ identifier hosts scan,
      arguments.getLast? = some identifier ∧
        setting.resolve world arguments.dropLast = .ok hosts ∧
        Scan.ofArguments Subcommand.delete.flags (takeTarget arguments.dropLast).2 = .ok scan ∧
        scan.extra = [] ∧ request = .delete hosts identifier := by
  unfold ofDeleteArguments at h
  split at h
  next => cases h
  next identifier hlast =>
    split at h
    next => exact Or.inl (Except.ok.inj h).symm
    next =>
      rw [Subcommand.outcome_withHosts] at h
      obtain ⟨hosts, hhosts, hflags⟩ := bind_eq_ok_iff.mp h
      obtain hhelp | ⟨scan, hscan, hextra, hnext⟩ :=
        Subcommand.outcome_withFlags_eq_ok world hflags
      · exact Or.inl hhelp
      · exact Or.inr ⟨identifier, hosts, scan, hlast, hhosts, hscan, hextra,
          (Except.ok.inj hnext).symm⟩

/-- A request to add something comes from `add`, and every stage of it has succeeded. -/
theorem outcome_ofArguments_eq_add {hosts : Hosts} {output : OutputMode} {definition : Definition}
    (h : ((ofArguments setting arguments).run world).outcome = .ok (.add hosts output definition)) :
    ∃ word rest scan, arguments = word :: rest ∧
      Subcommand.ofWord? (Subcommand.selector [word]) = some .add ∧
      setting.resolve world rest = .ok hosts ∧
      Scan.ofArguments Subcommand.add.flags (takeTarget rest).2 = .ok scan ∧ scan.extra = [] ∧
      ((scan.definition setting.home?).run world).outcome = .ok definition ∧
      output = scan.outputMode := by
  rw [outcome_ofArguments] at h
  split at h
  next hselected =>
    cases arguments with
    | nil => exact absurd hselected (by decide)
    | cons word rest =>
      obtain hhelp | ⟨found, scan, given, hhosts, hscan, hextra, hdefinition, heq⟩ :=
        outcome_ofAddArguments_eq_ok h
      · cases hhelp
      · cases heq
        exact ⟨word, rest, scan, rfl, hselected, hhosts, hscan, hextra, hdefinition, rfl⟩
  next =>
    obtain hhelp | ⟨_, _, _, _, _, heq⟩ := outcome_ofShowArguments_eq_ok h
    · cases hhelp
    · cases heq
  next =>
    obtain hhelp | ⟨_, _, _, _, _, _, _, heq⟩ := outcome_ofDeleteArguments_eq_ok h
    · cases hhelp
    · cases heq
  next => cases h

/-- The definition in a request came from the flags of `add`. -/
theorem exists_scan_of_outcome_add {hosts : Hosts} {output : OutputMode} {definition : Definition}
    (h : ((ofArguments setting arguments).run world).outcome = .ok (.add hosts output definition)) :
    ∃ scan : Scan, ((scan.definition setting.home?).run world).outcome = .ok definition := by
  obtain ⟨_, _, scan, _, _, _, _, _, hdefinition, _⟩ := outcome_ofArguments_eq_add h
  exact ⟨scan, hdefinition⟩

end Request

end Discovery
