import Discovery.Proofs.Request.Plan

namespace Discovery.Request

open Json

variable {setting : Setting} {world : World}

/-- A document in a request was read, so it is in order and nests no deeper than the reader
    allows. -/
theorem ordered_of_outcome {arguments : List String} {hosts : Hosts} {output : OutputMode} {d : Json}
    (h : ((ofArguments setting arguments).run world).outcome =
      .ok (.add hosts output (.document d))) :
    d.Ordered ∧ d.depth ≤ nestingLimit := by
  obtain ⟨scan, hdefinition⟩ := exists_scan_of_outcome_add h
  obtain ⟨_, document, _, hload, heq⟩ | ⟨_, _, heq⟩ :=
    scan.outcome_definition_eq_ok world hdefinition
  · obtain ⟨text, hread⟩ := Source.exists_read_of_load hload
    cases heq
    exact ordered_of_read hread
  · cases heq

/-- A document on the command line makes the request to add what it defines. -/
theorem outcome_of_documentText {text : String} {d : Json} {hosts : Hosts}
    (hhosts : (setting.aliases.aliasesIn world).resolve defaultTarget = .ok hosts)
    (hread : Json.read text.toList = .ok d) :
    ((ofArguments setting ["add", "-j", text]).run world).outcome =
      .ok (.add hosts .json (.document d)) := by
  let scan : Scan := ⟨[⟨.document, text⟩], []⟩
  have hscan : Scan.ofArguments Subcommand.add.flags ["-j", text] = .ok scan := by
    have hwritten : Line.Written Subcommand.add.flags ⟨[.apart "-j" .document text], none⟩ := by
      intro item hmem
      obtain rfl := List.mem_singleton.mp hmem
      exact ⟨by decide, .letter, Or.inl rfl, by simp [Flag.Admits]⟩
    rw [Scanner.ofArguments_eq_finish]
    exact Scanner.finish_line hwritten ⟨[], []⟩
  have hsource : scan.source? setting.home? = some (.literal text) := by
    have hliteral : text ≠ Source.standardInputMark := by
      rintro rfl
      cases hread
    exact congrArg some (if_neg hliteral)
  have hload : ((Source.literal text).load.run world).outcome = .ok d := by
    rw [Source.load, Dialogue.outcome_bind, Source.text, Dialogue.outcome_pure, ok_bind,
      Dialogue.outcome_ofExcept, Source.parse, hread]
  have hproperty : scan.has .property = false := rfl
  have hdefinition : ((scan.definition setting.home?).run world).outcome = .ok (.document d) := by
    rw [Scan.definition, hsource]
    change (Dialogue.run world (scan.documentDefinition _)).outcome = _
    rw [Scan.outcome_documentDefinition, hproperty, if_neg Bool.false_ne_true, hload]
    rfl
  have htarget : setting.resolve world ["-j", text] = .ok hosts := hhosts
  rw [outcome_ofArguments]
  exact outcome_ofAddArguments_of_scan htarget hscan rfl hdefinition

section Plan

variable {hosts : Hosts} {output : OutputMode} {d : Json}

theorem integral_plan_document (hintegral : d.Integral) :
    (plan (.add hosts output (.document d))).Integral := by
  apply integral_plan
  rintro _ ⟨⟩
  exact hintegral

theorem canonical_plan_document (hordered : d.Ordered) :
    (plan (.add hosts output (.document d))).canonical =
      .object (membersInPlan (.add hosts output (.document d))) := by
  apply canonical_plan
  rintro _ ⟨⟩
  exact hordered

/-- The plan of a document nests one level deeper than the document, or than the hosts. -/
theorem depth_plan_document_le_iff :
    (plan (.add hosts output (.document d))).depth ≤ nestingLimit ↔ d.depth < nestingLimit := by
  have hlimit : nestingLimit = 126 + 1 := rfl
  rw [hlimit, depth_plan_add_le_iff (by decide), Nat.lt_succ_iff]
  rfl

/-- A document that leaves no room for one more level gives a plan that is refused. -/
theorem read_plan_document_tooDeep (hintegral : d.Integral) (hfull : nestingLimit ≤ d.depth)
    (layout : Layout) :
    ∃ error, Json.read ((plan (.add hosts output (.document d))).print layout).toList =
      .error error ∧ error.code = .nestingTooDeep := by
  apply read_print_tooDeep (integral_plan_document hintegral)
  rw [← Nat.not_le, depth_plan_document_le_iff]
  exact Nat.not_lt.mpr hfull

end Plan

/-- The plan of a document that was read with integers for numbers only. It is read as the command,
    the hosts in order, the output mode and the document itself, as long as the document leaves room
    for one more level. A document as deep as the reader allows gives a plan that is refused. -/
theorem read_plan_of_document {arguments : List String} {hosts : Hosts} {output : OutputMode}
    {d : Json}
    (h : ((ofArguments setting arguments).run world).outcome = .ok (.add hosts output (.document d)))
    (hintegral : d.Integral) (layout : Layout) :
    let text := (plan (.add hosts output (.document d))).print layout
    (d.depth < nestingLimit →
      Json.read text.toList = .ok (.object [("command", .string "ADD"), ("definition", d),
        ("hosts", .array (hosts.entries.map .string)), ("output", .string output.word)])) ∧
    (nestingLimit ≤ d.depth → d.depth = nestingLimit ∧
      ∃ error, Json.read text.toList = .error error ∧ error.code = .nestingTooDeep) := by
  intro text
  obtain ⟨hordered, hdepth⟩ := ordered_of_outcome h
  constructor
  · intro hless
    rw [read_print (integral_plan_document hintegral) (depth_plan_document_le_iff.mpr hless) layout,
      canonical_plan_document hordered]
    rfl
  · intro hfull
    exact ⟨Nat.le_antisymm hdepth hfull, read_plan_document_tooDeep hintegral hfull layout⟩

/-- A document on the command line that is two deep. -/
theorem read_plan_of_documentText :
    let setting : Setting := ⟨"home", .nowhere⟩
    let world : World := ⟨fun _ => .error .notFound, .error .closed⟩
    let hosts : Hosts := ⟨["http://localhost:8080"], by decide⟩
    let d : Json := .object [("k", .array [.number (.integer (-1)), .string "\""])]
    ((ofArguments setting ["add", "-j", "\x7b\"k\": [-1, \"\\\"\"]\x7d"]).run world).outcome =
        .ok (.add hosts .json (.document d)) ∧ d.Integral ∧ d.depth < nestingLimit ∧
      Json.read ((plan (.add hosts .json (.document d))).print .compact).toList =
        .ok (.object [("command", .string "ADD"), ("definition", d),
          ("hosts", .array [.string "http://localhost:8080"]), ("output", .string "JSON")]) := by
  intro setting world hosts d
  have hhosts : (setting.aliases.aliasesIn world).resolve defaultTarget = .ok hosts := by decide
  have hrequest : ((ofArguments setting ["add", "-j",
      "\x7b\"k\": [-1, \"\\\"\"]\x7d"]).run world).outcome = .ok (.add hosts .json (.document d)) :=
    outcome_of_documentText hhosts rfl
  have hintegral : d.Integral := by
    apply Integral.object
    simp only [List.forall_mem_cons, List.not_mem_nil, false_implies, implies_true, and_true]
    apply Integral.array
    simp only [List.forall_mem_cons, List.not_mem_nil, false_implies, implies_true, and_true]
    exact ⟨.integer (by decide) (by decide), .string _⟩
  have hdepth : d.depth < nestingLimit := by decide
  exact ⟨hrequest, hintegral, hdepth,
    (read_plan_of_document hrequest hintegral .compact).1 hdepth⟩

/-- A document on the command line that is 127 arrays deep is read, while the plan of the request
    that it makes is not. -/
theorem plan_of_deepest_document_refused :
    let setting : Setting := ⟨"home", .nowhere⟩
    let world : World := ⟨fun _ => .error .notFound, .error .closed⟩
    let hosts : Hosts := ⟨["http://localhost:8080"], by decide⟩
    let text := String.ofList (List.replicate 127 '[' ++ List.replicate 127 ']')
    let request : Request := .add hosts .json (.document (nested 126))
    ((ofArguments setting ["add", "-j", text]).run world).outcome = .ok request ∧
      (nested 126).Integral ∧
      ∀ layout, ∃ error, Json.read (request.plan.print layout).toList = .error error ∧
        error.code = .nestingTooDeep := by
  intro setting world hosts text request
  have hhosts : (setting.aliases.aliasesIn world).resolve defaultTarget = .ok hosts := by decide
  have hread : Json.read text.toList = .ok (nested 126) := by
    rw [String.toList_ofList]
    exact read_nested (by decide)
  have hfull : nestingLimit ≤ (nested 126).depth := Nat.le_of_eq (depth_nested 126).symm
  exact ⟨outcome_of_documentText hhosts hread, integral_nested 126,
    read_plan_document_tooDeep (integral_nested 126) hfull⟩

end Discovery.Request
