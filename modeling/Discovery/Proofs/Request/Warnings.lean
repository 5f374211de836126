import Discovery.Proofs.Request.IgnoredFields

namespace Discovery

variable {world : World} {setting : Setting} {arguments : List String} {request : Request}

namespace Scan

variable {scan : Scan} {home? : Option String}

/-- Whether there are flags that describe a service one by one beside a document. -/
def HasFieldsBesideDocument (scan : Scan) : Prop :=
  (scan.all .document ≠ [] ∨ scan.all .documentFile ≠ []) ∧ ∃ flag ∈ Flag.fields, scan.all flag ≠ []

theorem source?_eq_none_iff :
    scan.source? home? = none ↔ scan.all .document = [] ∧ scan.all .documentFile = [] := by
  have hnone (flag : Flag) : scan.last? flag = none ↔ scan.all flag = [] :=
    List.getLast?_eq_none_iff
  rw [source?, ← hnone, ← hnone]
  cases scan.last? .documentFile <;> cases scan.last? .document <;> simp [Source.ofFlags?]

/-- A text that holds no property is worth no warning. -/
theorem warnings_fieldDefinition (scan : Scan) :
    (scan.fieldDefinition.run world).warnings = [] := by
  have hignored : ((Properties.ignored (scan.all .property)).map Event.propertyIgnored).filter
      (fun event => event.severity = .warning) = [] := by
    simp [Event.severity]
  rw [fieldDefinition, Dialogue.warnings_bind, Dialogue.warnings_notes, hignored,
    Dialogue.outcome_notes]
  simp only [Dialogue.warnings_bind, Dialogue.warnings_ofExcept, Dialogue.outcome_ofExcept,
    List.nil_append]
  cases Announcement.ofFields scan.fields (Subcommand.usage .add) <;> rfl

theorem warnings_definition_of_ok {definition : Definition}
    (h : ((scan.definition home?).run world).outcome = .ok definition) :
    (scan.HasFieldsBesideDocument ∧
        ((scan.definition home?).run world).warnings = [.fieldsIgnored] ∧
        ∃ d, definition = .document d) ∨
      (¬ scan.HasFieldsBesideDocument ∧ ((scan.definition home?).run world).warnings = []) := by
  cases hsource : scan.source? home? with
  | none =>
    obtain ⟨hdocument, hfile⟩ := source?_eq_none_iff.mp hsource
    have hdefinition : scan.definition home? = scan.fieldDefinition := by
      rw [Scan.definition, hsource]
    refine Or.inr ⟨fun hfields => ?_, ?_⟩
    · exact hfields.1.elim (absurd hdocument) (absurd hfile)
    · rw [hdefinition, warnings_fieldDefinition]
  | some source =>
    have hnames : ¬ (scan.all .document = [] ∧ scan.all .documentFile = []) := fun hneither => by
      cases hsource.symm.trans (source?_eq_none_iff.mpr hneither)
    have hgiven := Decidable.not_and_iff_not_or_not.mp hnames
    rw [Request.definition_of_source hsource] at h ⊢
    obtain ⟨d, _, hd⟩ := scan.outcome_documentDefinition_eq_ok world h
    -- with properties the document would not have been loaded
    have hproperty : scan.has .property = false := by
      rw [outcome_documentDefinition] at h
      split at h
      next => cases h
      next hnone => exact Bool.eq_false_iff.mpr hnone
    rw [warnings_documentDefinition, hproperty, if_neg Bool.false_ne_true]
    by_cases hfields : scan.hasFields = true
    · exact Or.inl ⟨⟨hgiven, scan.hasFields_iff.mp hfields⟩, if_pos hfields, d, hd⟩
    · exact Or.inr ⟨fun hbeside => hfields (scan.hasFields_iff.mpr hbeside.2), if_neg hfields⟩

end Scan

/-- What is warned of on the way to a request comes after the flags, and there only if these do not
    ask for help. -/
theorem Subcommand.warnings_withHosts_of_ok {command : Subcommand}
    {next : Hosts → Scan → Dialogue Failure Request}
    (h : ((withHosts setting arguments fun hosts rest =>
      withFlags command rest (next hosts)).run world).outcome = .ok request) :
    (∃ stop, Scan.ofArguments command.flags (takeTarget arguments).2 = .error stop ∧
      ((withHosts setting arguments fun hosts rest =>
        withFlags command rest (next hosts)).run world).warnings = []) ∨
    ∃ hosts scan, Scan.ofArguments command.flags (takeTarget arguments).2 = .ok scan ∧
      ((next hosts scan).run world).outcome = .ok request ∧
      ((withHosts setting arguments fun hosts rest =>
        withFlags command rest (next hosts)).run world).warnings =
          ((next hosts scan).run world).warnings := by
  rw [outcome_withHosts] at h
  obtain ⟨hosts, hhosts, hflags⟩ := bind_eq_ok_iff.mp h
  rw [warnings_withHosts, hhosts]
  cases hscan : Scan.ofArguments command.flags (takeTarget arguments).2 with
  | error stop =>
    refine Or.inl ⟨stop, rfl, ?_⟩
    simp only [withFlags_of_stop hscan, Dialogue.warnings_ofExcept]
  | ok scan =>
    by_cases hextra : scan.extra = []
    · rw [withFlags_of_scan hscan hextra] at hflags
      exact Or.inr ⟨hosts, scan, rfl, hflags, by simp only [withFlags_of_scan hscan hextra]⟩
    · rw [withFlags_of_extra hscan hextra] at hflags
      cases hflags

namespace Request

/-- Whether a service is to be added with a document and flags that describe it one by one. -/
structure GivesFieldsBesideDocument (arguments : List String) : Prop where
  selected : Subcommand.ofWord? (Subcommand.selector arguments) = some .add
  given : ∃ scan, Scan.ofArguments Subcommand.add.flags (takeTarget arguments.tail).2 = .ok scan ∧
    scan.HasFieldsBesideDocument

theorem warnings_ofShowArguments_of_ok
    (h : ((ofShowArguments setting arguments).run world).outcome = .ok request) :
    ((ofShowArguments setting arguments).run world).warnings = [] := by
  obtain ⟨_, _, hnone⟩ | ⟨_, _, _, _, hsame⟩ := Subcommand.warnings_withHosts_of_ok h
  · exact hnone
  · exact hsame

theorem warnings_ofDeleteArguments_of_ok
    (h : ((ofDeleteArguments setting arguments).run world).outcome = .ok request) :
    ((ofDeleteArguments setting arguments).run world).warnings = [] := by
  unfold ofDeleteArguments at h ⊢
  split at h
  next => cases h
  next identifier _ =>
    by_cases hhelp : Token.isHelp identifier = true
    · simp only [hhelp, if_true]
      rfl
    · simp only [hhelp] at h ⊢
      obtain ⟨_, _, hnone⟩ | ⟨_, _, _, _, hsame⟩ := Subcommand.warnings_withHosts_of_ok h
      · exact hnone
      · exact hsame

theorem warnings_ofAddArguments_of_ok
    (h : ((ofAddArguments setting arguments).run world).outcome = .ok request) :
    ((∃ scan, Scan.ofArguments Subcommand.add.flags (takeTarget arguments).2 = .ok scan ∧
          scan.HasFieldsBesideDocument) ∧
        ((ofAddArguments setting arguments).run world).warnings = [.fieldsIgnored] ∧
        ∃ hosts output d, request = .add hosts output (.document d)) ∨
      ((¬ ∃ scan, Scan.ofArguments Subcommand.add.flags (takeTarget arguments).2 = .ok scan ∧
          scan.HasFieldsBesideDocument) ∧
        ((ofAddArguments setting arguments).run world).warnings = []) := by
  have hadd : ((Subcommand.withHosts setting arguments fun hosts rest =>
      Subcommand.withFlags .add rest (ofAddFlags hosts setting.home?)).run world).outcome =
        .ok request := h
  obtain ⟨stop, hstop, hnone⟩ | ⟨hosts, scan, hscan, hnext, hsame⟩ :=
    Subcommand.warnings_withHosts_of_ok hadd
  · refine Or.inr ⟨fun ⟨scan, hscan, _⟩ => ?_, hnone⟩
    cases hstop.symm.trans hscan
  · rw [outcome_ofAddFlags] at hnext
    obtain ⟨definition, hdefinition, hrequest⟩ := bind_eq_ok_iff.mp hnext
    rw [warnings_ofAddFlags] at hsame
    obtain ⟨hbeside, hwarned, d, rfl⟩ | ⟨hbeside, hwarned⟩ :=
      Scan.warnings_definition_of_ok hdefinition
    · exact Or.inl ⟨⟨scan, hscan, hbeside⟩, hsame.trans hwarned, hosts, scan.outputMode, d,
        (Except.ok.inj hrequest).symm⟩
    · refine Or.inr ⟨fun ⟨found, hfound, hfields⟩ => hbeside ?_, hsame.trans hwarned⟩
      obtain rfl := Except.ok.inj (hscan.symm.trans hfound)
      exact hfields

/-- On the way to a request there is one warning, or none. -/
theorem warnings_of_outcome
    (h : ((ofArguments setting arguments).run world).outcome = .ok request) :
    (GivesFieldsBesideDocument arguments ∧
        ((ofArguments setting arguments).run world).warnings = [.fieldsIgnored] ∧
        ∃ hosts output d, request = .add hosts output (.document d)) ∨
      (¬ GivesFieldsBesideDocument arguments ∧
        ((ofArguments setting arguments).run world).warnings = []) := by
  have hother {command : Subcommand} (hcommand : command ≠ .add)
      (hselected : Subcommand.ofWord? (Subcommand.selector arguments) = some command) :
      ¬ GivesFieldsBesideDocument arguments := fun hgives =>
    hcommand (Option.some.inj (hselected.symm.trans hgives.selected))
  cases hselected : Subcommand.ofWord? (Subcommand.selector arguments) with
  | none =>
    refine Or.inr ⟨fun hgives => ?_, by simp only [ofArguments, hselected]; rfl⟩
    cases hselected.symm.trans hgives.selected
  | some command =>
    have houtcome : ((ofSubcommandArguments setting arguments.tail command).run world).outcome =
        .ok request := by
      rwa [ofArguments_of_selected setting hselected] at h
    have hwarnings : ((ofArguments setting arguments).run world).warnings =
        ((ofSubcommandArguments setting arguments.tail command).run world).warnings := by
      rw [ofArguments_of_selected setting hselected]
      rfl
    rw [hwarnings]
    cases command with
    | «show» => exact Or.inr ⟨hother (by decide) hselected, warnings_ofShowArguments_of_ok houtcome⟩
    | delete =>
      exact Or.inr ⟨hother (by decide) hselected, warnings_ofDeleteArguments_of_ok houtcome⟩
    | add =>
      have hgives : GivesFieldsBesideDocument arguments ↔
          ∃ scan, Scan.ofArguments Subcommand.add.flags (takeTarget arguments.tail).2 = .ok scan ∧
            scan.HasFieldsBesideDocument :=
        ⟨GivesFieldsBesideDocument.given, fun hgiven => ⟨hselected, hgiven⟩⟩
      rw [hgives]
      exact warnings_ofAddArguments_of_ok houtcome

end Request

end Discovery
