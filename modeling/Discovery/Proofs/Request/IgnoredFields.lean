import Discovery.Proofs.Request.Addition

namespace Discovery

/-- The flags that describe a service one by one, properties apart. -/
def Flag.fields : List Flag :=
  [.environment, .serviceType, .pool, .location]

namespace Scan

variable {a b : Scan}

theorem hasFields_iff (scan : Scan) :
    scan.hasFields = true ↔ ∃ flag ∈ Flag.fields, scan.all flag ≠ [] := by
  simp [hasFields, Flag.fields, has_iff, or_assoc]

/-- Whether scans agree on all flags other than fields. -/
def AgreeBesideFields (a b : Scan) : Prop :=
  ∀ flag, flag ∉ Flag.fields → a.all flag = b.all flag

theorem AgreeBesideFields.last?_eq (h : a.AgreeBesideFields b) {flag : Flag}
    (hflag : flag ∉ Flag.fields) : a.last? flag = b.last? flag :=
  congrArg List.getLast? (h flag hflag)

theorem AgreeBesideFields.has_eq (h : a.AgreeBesideFields b) {flag : Flag}
    (hflag : flag ∉ Flag.fields) : a.has flag = b.has flag := by
  rw [Bool.eq_iff_iff, has_iff, has_iff, h flag hflag]

theorem AgreeBesideFields.source?_eq (h : a.AgreeBesideFields b) (home? : Option String) :
    a.source? home? = b.source? home? := by
  rw [source?, source?, h.last?_eq (by decide), h.last?_eq (by decide)]

theorem AgreeBesideFields.outputMode_eq (h : a.AgreeBesideFields b) :
    a.outputMode = b.outputMode := by
  rw [outputMode, outputMode, h.last?_eq (by decide)]

end Scan

namespace Line

/-- The options of a line that are no fields, in order. -/
def besideFields (line : Line) : List Occurrence :=
  line.occurrences.filter fun o => o.flag ∉ Flag.fields

theorem values_eq_map_besideFields (line : Line) {flag : Flag} (hflag : flag ∉ Flag.fields) :
    line.values flag = (line.besideFields.filter fun o => o.flag = flag).map Occurrence.value := by
  have hkept : line.besideFields.filter (fun o => o.flag = flag) =
      line.occurrences.filter fun o => o.flag = flag := by
    rw [besideFields, List.filter_filter]
    refine List.filter_congr fun o _ => ?_
    by_cases ho : o.flag = flag
    · simp [ho, hflag]
    · simp [ho]
  rw [← all_scan, hkept]
  rfl

theorem agreeBesideFields_of_eq {a b : Line} (h : a.besideFields = b.besideFields) :
    a.scan.AgreeBesideFields b.scan := by
  intro flag hflag
  rw [all_scan, all_scan, values_eq_map_besideFields a hflag, h,
    ← values_eq_map_besideFields b hflag]

end Line

namespace Request

variable {world : World} {hosts : Hosts} {home? : Option String} {a b : Scan}

/-- With a document, scans that agree beside fields lead to the same outcome, and the same is read
    for them. -/
theorem ofAddFlags_congr (world : World) (hosts : Hosts) (h : a.AgreeBesideFields b)
    {source : Source} (hsource : a.source? home? = some source) :
    ((ofAddFlags hosts home? a).run world).outcome = ((ofAddFlags hosts home? b).run world).outcome ∧
      ((ofAddFlags hosts home? a).run world).inputs =
        ((ofAddFlags hosts home? b).run world).inputs := by
  have hother : b.source? home? = some source := h.source?_eq home? ▸ hsource
  have hproperty : Flag.property ∉ Flag.fields := by decide
  constructor
  · rw [outcome_ofAddFlags, outcome_ofAddFlags, definition_of_source hsource,
      definition_of_source hother, Scan.outcome_documentDefinition, Scan.outcome_documentDefinition,
      h.has_eq hproperty, h _ hproperty, h.outputMode_eq]
  · rw [inputs_ofAddFlags, inputs_ofAddFlags, definition_of_source hsource,
      definition_of_source hother, Scan.inputs_documentDefinition, Scan.inputs_documentDefinition,
      h.has_eq hproperty]

theorem warnings_ofAddFlags (scan : Scan) :
    ((ofAddFlags hosts home? scan).run world).warnings =
      ((scan.definition home?).run world).warnings := by
  rw [ofAddFlags, Dialogue.warnings_bind]
  cases ((scan.definition home?).run world).outcome <;> exact List.append_nil _

end Request

namespace Addition

variable (setting : Setting) (world : World)

/-- Command lines with one target and a document that agree beside fields lead to the same request
    or failure, and the same is read for them. -/
theorem outcome_eq_of_besideFields {a b : Addition} (htarget : a.target? = b.target?)
    (hline : a.line.besideFields = b.line.besideFields) (hnames : a.line.NamesDocument) :
    ((Request.ofArguments setting a.arguments).run world).outcome =
        ((Request.ofArguments setting b.arguments).run world).outcome ∧
      ((Request.ofArguments setting a.arguments).run world).inputs =
        ((Request.ofArguments setting b.arguments).run world).inputs := by
  obtain ⟨source, _, hsource⟩ := Line.exists_source_of_namesDocument hnames setting.home?
  have hresolve : a.resolve setting world = b.resolve setting world := by
    rw [resolve, resolve, target, target, htarget]
  have hscan := Line.agreeBesideFields_of_eq hline
  rw [a.outcome_eq, b.outcome_eq, a.inputs_eq, b.inputs_eq, hresolve]
  cases b.resolve setting world with
  | error failure => exact ⟨rfl, rfl⟩
  | ok hosts =>
    obtain ⟨houtcome, hinputs⟩ := Request.ofAddFlags_congr world hosts hscan hsource
    exact ⟨houtcome, congrArg (setting.aliases.inputs ++ ·) hinputs⟩

/-- The warnings of a command line with a document. -/
theorem warnings_eq_of_namesDocument {c : Addition} (hnames : c.line.NamesDocument) :
    ((Request.ofArguments setting c.arguments).run world).warnings =
      match c.resolve setting world with
      | .ok _ =>
        if c.line.scan.has .property then []
        else if c.line.scan.hasFields then [.fieldsIgnored] else []
      | .error _ => [] := by
  obtain ⟨source, _, hsource⟩ := Line.exists_source_of_namesDocument hnames setting.home?
  rw [c.warnings_eq]
  cases c.resolve setting world with
  | error failure => rfl
  | ok hosts =>
    simp only [Request.warnings_ofAddFlags, Request.definition_of_source hsource,
      Scan.warnings_documentDefinition]

end Addition

/-- Beside a document, fields have no effect. Command lines with the same target whose options are
    the same but for fields lead to the same request or the same failure and read the same. There is
    one warning, given exactly when the target has hosts and there are fields and no properties, and
    never more than one. -/
theorem Request.fields_ignored_beside_document (setting : Setting) (world : World) :
    (∀ a b : Addition, a.target? = b.target? → a.line.besideFields = b.line.besideFields →
      a.line.NamesDocument →
      let first := (ofArguments setting a.arguments).run world
      let second := (ofArguments setting b.arguments).run world
      first.outcome = second.outcome ∧ first.inputs = second.inputs ∧
        first.readsStandardInput = second.readsStandardInput) ∧
    ∀ c : Addition, c.line.NamesDocument →
      let warnings := ((ofArguments setting c.arguments).run world).warnings
      warnings.length ≤ 1 ∧ (∀ event ∈ warnings, event = .fieldsIgnored) ∧
        (warnings.length = 1 ↔ (∃ hosts, c.resolve setting world = .ok hosts) ∧
          c.line.values .property = [] ∧ ∃ flag ∈ Flag.fields, c.line.values flag ≠ []) := by
  constructor
  · intro a b htarget hline hnames first second
    obtain ⟨houtcome, hinputs⟩ :=
      Addition.outcome_eq_of_besideFields setting world htarget hline hnames
    refine ⟨houtcome, hinputs, ?_⟩
    rw [Trace.readsStandardInput, Trace.readsStandardInput, hinputs]
  · intro c hnames warnings
    have hwarnings := Addition.warnings_eq_of_namesDocument setting world hnames
    have hproperty : c.line.scan.has .property = true ↔ c.line.values .property ≠ [] :=
      Line.has_scan_iff
    have hfields := Scan.hasFields_iff c.line.scan
    simp only [Line.all_scan] at hfields
    simp only [warnings, hwarnings, ← hfields]
    cases c.resolve setting world with
    | error failure => simp
    | ok hosts =>
      by_cases hnone : c.line.values .property = []
      · have hhas : ¬ c.line.scan.has .property = true := fun h => hproperty.mp h hnone
        cases hfound : c.line.scan.hasFields <;> simp [hhas, hnone]
      · simp [hproperty.mpr hnone, hnone]

/-- Two command lines with a document that is none. One of them has an environment that looks like a
    flag in front of it and an empty pool behind it. -/
theorem Request.fields_ignored_beside_bracket :
    let setting : Setting := ⟨"home", .table (Dictionary.ofPairs [("lab", "a,b")])⟩
    let world : World := ⟨fun _ => .error .notFound, .error .closed⟩
    let first := (ofArguments setting ["add", "lab", "-e-x", "-j", "[", "-p", ""]).run world
    let second := (ofArguments setting ["Add", "lab", "--JSON=["]).run world
    first.outcome = second.outcome ∧ first.inputs = second.inputs ∧
      first.warnings.length = 1 ∧ second.warnings.length ≤ 1 := by
  intro setting world first second
  have hword : Subcommand.ofWord? (Subcommand.selector ["add"]) = some .add := by decide
  have hother : Subcommand.ofWord? (Subcommand.selector ["Add"]) = some .add := by decide
  let line : Line := ⟨[.joined "-e-x" .environment "-x", .apart "-j" .document "[",
    .apart "-p" .pool ""], none⟩
  let other : Line := ⟨[.joined "--JSON=[" .document "["], none⟩
  have hline : line.Written Subcommand.add.flags := by
    intro item hitem
    simp only [line, List.mem_cons, List.not_mem_nil, or_false] at hitem
    obtain rfl | rfl | rfl := hitem
    · have htext : "-x" ≠ "" := by decide
      exact ⟨by decide, .letterValue htext, fun h => nomatch h⟩
    · exact ⟨by decide, .letter, Or.inl rfl, fun h => nomatch h⟩
    · exact ⟨by decide, .letter, Or.inr (by decide), fun h => nomatch h⟩
  have hotherLine : other.Written Subcommand.add.flags := by
    intro item hitem
    obtain rfl := List.mem_singleton.mp hitem
    have hname : Flag.document.name? = some "JSON" := rfl
    exact ⟨by decide, .nameValue "[" hname, fun h => nomatch h⟩
  let a : Addition := ⟨"add", some "lab", line, hword, by decide, hline, rfl⟩
  let b : Addition := ⟨"Add", some "lab", other, hother, by decide, hotherLine, rfl⟩
  have hnames : line.NamesDocument := Or.inr (by decide)
  have hotherNames : other.NamesDocument := Or.inr (by decide)
  have hhosts : (setting.aliases.aliasesIn world).resolve "lab" = .ok ⟨["a", "b"], by decide⟩ :=
    Aliases.resolve_eq_ok_iff.mpr (by decide)
  have hfield : line.values .environment ≠ [] := by decide
  obtain ⟨hsame, hwarned⟩ := fields_ignored_beside_document setting world
  obtain ⟨houtcome, hinputs, _⟩ := hsame a b rfl rfl hnames
  refine ⟨houtcome, hinputs, ?_, (hwarned b hotherNames).1⟩
  exact (hwarned a hnames).2.2.mpr ⟨⟨_, hhosts⟩, rfl, .environment, by decide, hfield⟩

end Discovery
