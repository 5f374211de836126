import Discovery.Proofs.Request.Interpretation

namespace Discovery

theorem Scan.has_iff {scan : Scan} {flag : Flag} : scan.has flag = true ↔ scan.all flag ≠ [] := by
  simp [Scan.has, Scan.all]

namespace Line

variable (line : Line)

/-- The value that counts when a flag is given more than once. -/
def last? (flag : Flag) : Option String :=
  (line.values flag).getLast?

/-- Whether a flag is given that takes a document. -/
def NamesDocument : Prop :=
  line.values .documentFile ≠ [] ∨ line.values .document ≠ []

/-- The source of the document: the last file, and only where no file is given the last text. A
    single hyphen in either place is the standard input. -/
inductive Names (home? : Option String) : Source → Prop
  | file {path : String} : line.last? .documentFile = some path → path ≠ "-" →
    Names home? (.file (expandHome home? path))
  | fileStandard : line.last? .documentFile = some "-" → Names home? .standardInput
  | text {text : String} : line.values .documentFile = [] → line.last? .document = some text →
    text ≠ "-" → Names home? (.literal text)
  | textStandard : line.values .documentFile = [] → line.last? .document = some "-" →
    Names home? .standardInput

/-- The properties of a line, unless it has none. -/
def properties? : Option Properties :=
  let properties := Properties.ofTexts (line.values .property)
  if properties.isEmpty then none else some properties

variable {line}

theorem last?_scan (flag : Flag) : line.scan.last? flag = line.last? flag := by
  rw [Scan.last?, all_scan, last?]

theorem last?_eq_none_iff {flag : Flag} : line.last? flag = none ↔ line.values flag = [] :=
  List.getLast?_eq_none_iff

theorem has_scan_iff {flag : Flag} : line.scan.has flag = true ↔ line.values flag ≠ [] := by
  rw [Scan.has_iff, all_scan]

theorem exists_source_of_namesDocument (h : line.NamesDocument) (home? : Option String) :
    ∃ source, line.Names home? source ∧ line.scan.source? home? = some source := by
  rw [Scan.source?, last?_scan, last?_scan]
  cases hfile : line.last? .documentFile with
  | some path =>
    by_cases hpath : path = "-"
    · subst hpath
      exact ⟨.standardInput, .fileStandard hfile, rfl⟩
    · refine ⟨.file (expandHome home? path), .file hfile hpath, ?_⟩
      simp [Source.ofFlags?, Source.standardInputMark, hpath]
  | none =>
    have hnoFile := last?_eq_none_iff.mp hfile
    cases htext : line.last? .document with
    | none => exact absurd (last?_eq_none_iff.mp htext) (h.resolve_left (not_not_intro hnoFile))
    | some text =>
      by_cases hmark : text = "-"
      · subst hmark
        exact ⟨.standardInput, .textStandard hnoFile htext, rfl⟩
      · refine ⟨.literal text, .text hnoFile htext hmark, ?_⟩
        simp [Source.ofFlags?, Source.standardInputMark, hmark]

end Line

namespace Request

/-- What `add` does once its hosts and its flags are known. -/
def ofAddFlags (hosts : Hosts) (home? : Option String) (scan : Scan) : Dialogue Failure Request := do
  let definition ← scan.definition home?
  pure (.add hosts scan.outputMode definition)

variable {world : World} {setting : Setting} {hosts : Hosts} {line : Line} {home? : Option String}

theorem outcome_ofAddFlags (scan : Scan) :
    ((ofAddFlags hosts home? scan).run world).outcome =
      ((scan.definition home?).run world).outcome.map (.add hosts scan.outputMode) := by
  rw [ofAddFlags, Dialogue.outcome_bind]
  cases ((scan.definition home?).run world).outcome <;> rfl

theorem inputs_ofAddFlags (scan : Scan) :
    ((ofAddFlags hosts home? scan).run world).inputs = ((scan.definition home?).run world).inputs := by
  rw [ofAddFlags, Dialogue.inputs_bind]
  cases ((scan.definition home?).run world).outcome <;> simp

theorem definition_of_source {scan : Scan} {source : Source} (h : scan.source? home? = some source) :
    scan.definition home? = scan.documentDefinition source := by
  rw [Scan.definition, h]

theorem outputMode_scan (line : Line) : line.scan.outputMode = .ofValue (line.last? .output) := by
  rw [Scan.outputMode, Line.last?_scan]

/-- Without properties a document is all that the flags define. -/
theorem outcome_ofAddFlags_of_source {scan : Scan} {source : Source}
    (hsource : scan.source? home? = some source) (hproperty : scan.all .property = []) :
    ((ofAddFlags hosts home? scan).run world).outcome =
      (source.load.run world).outcome.map fun document =>
        .add hosts scan.outputMode (.document document) := by
  have hnone : ¬ scan.has .property = true := fun hhas => Scan.has_iff.mp hhas hproperty
  rw [outcome_ofAddFlags, definition_of_source hsource, Scan.outcome_documentDefinition,
    if_neg hnone]
  cases (source.load.run world).outcome <;> rfl

variable {trace : Trace Failure Request}

end Request

end Discovery
