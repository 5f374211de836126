import Discovery.Proofs.Request.Addition

namespace Discovery

/-- The source that a value stands for behind a flag that takes a document. -/
def Source.ofFlag (home? : Option String) (flag : Flag) (value : String) : Source :=
  if value = "-" then .standardInput
  else if flag = .document then .literal value
  else .file (expandHome home? value)

/-- What the document in a text leads to. -/
def Request.ofText (hosts : Hosts) (output : OutputMode) (text origin : String) :
    Except Failure Request :=
  match Json.read text.toList with
  | .ok document => .ok (.add hosts output (.document document))
  | .error error => .error (.malformedDocument origin error)

namespace Source

variable {home? : Option String} {value : String}

theorem ofFlag_mark (flag : Flag) : ofFlag home? flag "-" = .standardInput :=
  if_pos rfl

theorem ofFlag_document (h : value ≠ "-") : ofFlag home? .document value = .literal value := by
  rw [ofFlag, if_neg h, if_pos rfl]

/-- A path is taken as it is unless it begins with a tilde. -/
theorem ofFlag_documentFile (h : value ≠ "-") (htilde : value.toList.head? ≠ some '~') :
    ofFlag home? .documentFile value = .file value := by
  have hpath : expandHome home? value = value := by
    unfold expandHome
    split <;> simp_all
  rw [ofFlag, if_neg h, if_neg (by decide), hpath]

theorem map_parse (source : Source) (hosts : Hosts) (output : OutputMode) (text : String) :
    (source.parse text).map (fun document => .add hosts output (.document document)) =
      Request.ofText hosts output text source.origin := by
  rw [parse, Request.ofText]
  cases Json.read text.toList <;> rfl

/-- A text that holds a document is not the mark for the standard input. -/
theorem ne_mark_of_read {text : String} {d : Json} (h : Json.read text.toList = .ok d) :
    text ≠ "-" := by
  rintro rfl
  cases h

end Source

theorem Flag.takesAnything_iff {flag : Flag} :
    flag.takesAnything = true ↔ flag = .document ∨ flag = .documentFile := by
  cases flag <;> simp [takesAnything]

theorem Flag.ne_of_takesAnything {flag other : Flag} (h : flag.takesAnything = true)
    (hother : other.takesAnything = false) : flag ≠ other := by
  rintro rfl
  exact absurd (h.symm.trans hother) (by decide)

namespace Item

/-- Whether an item is an option that chooses the output. -/
def ChoosesOutput (item : Item) : Prop :=
  (item.valueOf? .output).isSome

instance (item : Item) : Decidable item.ChoosesOutput :=
  inferInstanceAs (Decidable (_ = true))

variable {item : Item}

theorem ChoosesOutput.valueOf?_eq_none (h : item.ChoosesOutput) {flag : Flag}
    (hflag : flag ≠ .output) : item.valueOf? flag = none := by
  cases item with
  | operand argument => rfl
  | apart spelling given value | joined spelling given value =>
    have hgiven : given = .output := by simpa [ChoosesOutput, valueOf?] using h
    simp [valueOf?, hgiven, hflag.symm]

theorem ChoosesOutput.operand?_eq_none (h : item.ChoosesOutput) : item.operand? = none := by
  cases item with
  | operand argument => cases h
  | apart spelling flag value => rfl
  | joined spelling flag value => rfl

end Item

theorem Line.values_insert (before after : List Item) (item : Item) (rest? : Option (List String))
    (flag : Flag) :
    values ⟨before ++ item :: after, rest?⟩ flag =
      before.filterMap (Item.valueOf? flag) ++ (item.valueOf? flag).toList ++
        after.filterMap (Item.valueOf? flag) := by
  rw [values, List.filterMap_append, List.append_assoc]
  cases h : item.valueOf? flag with
  | none => rw [List.filterMap_cons_none h]; rfl
  | some value => rw [List.filterMap_cons_some h]; rfl

/-- What stands around a document on a command line of `add`: options that choose the output, on
    either side. -/
structure Surroundings where
  /-- the command line without the document -/
  outer : Addition
  before : List Item
  after : List Item
  split : before ++ after = outer.line.items
  outputOnly : ∀ item ∈ outer.line.items, item.ChoosesOutput

namespace Surroundings

variable (s : Surroundings)

/-- The arguments of the command line with a flag and its value put in. -/
def arguments (spelling value : String) : List String :=
  s.outer.word :: (s.outer.target?.toList ++ (s.before.flatMap Item.arguments ++
    spelling :: value :: Line.arguments ⟨s.after, s.outer.line.rest?⟩))

/-- The output mode that is chosen around the document. -/
def outputMode : OutputMode :=
  .ofValue (s.outer.line.last? .output)

/-- The options with another one put in. -/
def lineWith (item : Item) : Line :=
  ⟨s.before ++ item :: s.after, s.outer.line.rest?⟩

theorem mem_lineWith_iff {item given : Item} :
    item ∈ (s.lineWith given).items ↔ item = given ∨ item ∈ s.outer.line.items := by
  simp [lineWith, ← s.split, or_left_comm]

theorem values_lineWith {flag : Flag} (hflag : flag ≠ .output) (item : Item) :
    (s.lineWith item).values flag = (item.valueOf? flag).toList := by
  have hnone : (s.before ++ s.after).filterMap (Item.valueOf? flag) = [] :=
    List.filterMap_eq_nil_iff.mpr fun item hitem =>
      (s.outputOnly item (s.split ▸ hitem)).valueOf?_eq_none hflag
  rw [List.filterMap_append] at hnone
  obtain ⟨hbefore, hafter⟩ := List.append_eq_nil_iff.mp hnone
  rw [lineWith, Line.values_insert, hbefore, hafter, List.nil_append, List.append_nil]

theorem values_lineWith_output {item : Item} (h : item.valueOf? .output = none) :
    (s.lineWith item).values .output = s.outer.line.values .output := by
  rw [lineWith, Line.values_insert, h, Option.toList_none, List.append_nil, ← List.filterMap_append,
    s.split, Line.values]

theorem operands_lineWith {item : Item} (h : item.operand? = none) :
    (s.lineWith item).operands = [] := by
  obtain ⟨_, hrest⟩ := List.append_eq_nil_iff.mp s.outer.optionsOnly
  refine List.append_eq_nil_iff.mpr ⟨List.filterMap_eq_nil_iff.mpr fun given hgiven => ?_, hrest⟩
  obtain rfl | houter := s.mem_lineWith_iff.mp hgiven
  · exact h
  · exact (s.outputOnly given houter).operand?_eq_none

variable {flag : Flag} {spelling : String} (hany : flag.takesAnything = true)
  (hspelled : flag.Spelled none spelling) (value : String)
include hany hspelled

/-- A flag that takes a document takes any value. -/
theorem written_lineWith :
    (s.lineWith (.apart spelling flag value)).Written Subcommand.add.flags := by
  intro item hitem
  obtain rfl | houter := s.mem_lineWith_iff.mp hitem
  · exact ⟨by cases flag <;> decide, hspelled, Or.inl hany,
      fun houtput => absurd houtput (Flag.ne_of_takesAnything hany rfl)⟩
  · exact s.outer.written item houter

/-- The command line with a document. -/
def fill : Addition where
  word := s.outer.word
  target? := s.outer.target?
  line := s.lineWith (.apart spelling flag value)
  selected := s.outer.selected
  target_noFlag := s.outer.target_noFlag
  written := s.written_lineWith hany hspelled value
  optionsOnly := s.operands_lineWith rfl

theorem arguments_fill : (s.fill hany hspelled value).arguments = s.arguments spelling value := by
  simp [fill, Addition.arguments, arguments, lineWith, Line.arguments, Item.arguments]

theorem values_fill {given : Flag} (hgiven : given ≠ .output) :
    (s.fill hany hspelled value).line.values given = if flag = given then [value] else [] := by
  rw [fill, s.values_lineWith hgiven, Item.valueOf?]
  split <;> rfl

theorem outputMode_fill : (s.fill hany hspelled value).line.scan.outputMode = s.outputMode := by
  have houtput : Item.valueOf? .output (.apart spelling flag value) = none :=
    if_neg (Flag.ne_of_takesAnything hany rfl)
  rw [Request.outputMode_scan, Line.last?, fill, s.values_lineWith_output houtput, outputMode,
    Line.last?]

theorem source?_fill (home? : Option String) :
    (s.fill hany hspelled value).line.scan.source? home? = some (.ofFlag home? flag value) := by
  rw [Scan.source?, Line.last?_scan, Line.last?_scan, Line.last?, Line.last?,
    s.values_fill hany hspelled value (by decide), s.values_fill hany hspelled value (by decide)]
  obtain rfl | rfl := Flag.takesAnything_iff.mp hany
  all_goals by_cases hmark : value = "-" <;>
    simp [Source.ofFlags?, Source.ofFlag, Source.standardInputMark, hmark]

/-- A document among output options is loaded for the hosts of the target, and there is nothing
    else to it. -/
theorem outcome_arguments (setting : Setting) (world : World) :
    ((Request.ofArguments setting (s.arguments spelling value)).run world).outcome =
      s.outer.resolve setting world >>= fun hosts =>
        ((Source.ofFlag setting.home? flag value).load.run world).outcome.map fun document =>
          .add hosts s.outputMode (.document document) := by
  have hproperty : (s.fill hany hspelled value).line.scan.all .property = [] := by
    rw [Line.all_scan, s.values_fill hany hspelled value (by decide),
      if_neg (Flag.ne_of_takesAnything hany rfl)]
  have hsource := s.source?_fill hany hspelled value setting.home?
  rw [← s.arguments_fill hany hspelled, Addition.outcome_eq]
  simp only [Request.outcome_ofAddFlags_of_source hsource hproperty, s.outputMode_fill]
  rfl

omit hany hspelled in
/-- A text on the command line needs no input. -/
theorem outcome_literal {setting : Setting} {world : World} {hosts : Hosts}
    (hhosts : s.outer.resolve setting world = .ok hosts)
    (hspelled : Flag.document.Spelled none spelling) {text : String} (htext : text ≠ "-") :
    ((Request.ofArguments setting (s.arguments spelling text)).run world).outcome =
      Request.ofText hosts s.outputMode text "--JSON" := by
  rw [s.outcome_arguments rfl hspelled, hhosts, ok_bind, Source.ofFlag_document htext,
    Source.outcome_load, Source.textIn, ok_bind, Source.map_parse]
  rfl

end Surroundings

end Discovery
