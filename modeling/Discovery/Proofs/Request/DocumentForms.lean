import Discovery.Proofs.Request.Surroundings

namespace Discovery

/-- Whether there is a document in a text, and what is wrong with it if not, does not depend on where
    the text comes from. -/
theorem Request.ofText_cases (hosts : Hosts) (output : OutputMode) (text : String) :
    let result := ofText hosts output text
    (∃ document, ∀ origin, result origin = .ok (.add hosts output (.document document))) ∨
      ∃ error, ∀ origin, result origin = .error (.malformedDocument origin error) := by
  intro result
  simp only [result, ofText]
  cases Json.read text.toList with
  | ok document => exact Or.inl ⟨document, fun _ => rfl⟩
  | error error => exact Or.inr ⟨error, fun _ => rfl⟩

namespace Surroundings

/-- What a command line leads to when some bytes are on the standard input and its document is
    expected there, and what it leads to when they are in a file and that is the one it names. -/
structure BytesLeadTo (s : Surroundings) (setting : Setting) (world : World) (bytes : ByteArray)
    (fromStandardInput : Except Failure Request) (fromFile : String → Except Failure Request) :
    Prop where
  standardInput : world.standardInput = .ok bytes →
    ∀ (flag : Flag) spelling, flag = .document ∨ flag = .documentFile →
      flag.Spelled none spelling →
      ((Request.ofArguments setting (s.arguments spelling "-")).run world).outcome =
        fromStandardInput
  file : ∀ path spelling, world.file path = .ok bytes → path ≠ "-" →
    path.toList.head? ≠ some '~' → Flag.documentFile.Spelled none spelling →
      ((Request.ofArguments setting (s.arguments spelling path)).run world).outcome = fromFile path

variable {s : Surroundings} {setting : Setting} {world : World} {hosts : Hosts} {flag : Flag}
  {spelling : String}

theorem outcome_of_noHosts
    (hnone : s.outer.resolve setting world = .error (.noHosts s.outer.target))
    (hflag : flag = .document ∨ flag = .documentFile) (hspelled : flag.Spelled none spelling)
    (value : String) :
    ((Request.ofArguments setting (s.arguments spelling value)).run world).outcome =
      .error (.noHosts s.outer.target) := by
  rw [s.outcome_arguments (Flag.takesAnything_iff.mpr hflag) hspelled, hnone]
  rfl

/-- Bytes are decoded and then parsed, on the standard input as in a file. -/
theorem bytesLeadTo (hhosts : s.outer.resolve setting world = .ok hosts) (bytes : ByteArray) :
    let request (document : Json) : Request := .add hosts s.outputMode (.document document)
    s.BytesLeadTo setting world bytes
      (((decodeText bytes).mapError .unreadableStandardInput >>=
        Source.standardInput.parse).map request)
      (fun path => ((decodeText bytes).mapError (.unreadableFile path) >>=
        (Source.file path).parse).map request) := by
  intro request
  constructor
  case standardInput =>
    intro hinput flag spelling hflag hspelled
    rw [s.outcome_arguments (Flag.takesAnything_iff.mpr hflag) hspelled, hhosts, ok_bind,
      Source.ofFlag_mark, Source.outcome_load, Source.textIn, hinput]
    rfl
  case file =>
    intro path spelling hfile hmark htilde hspelled
    rw [s.outcome_arguments rfl hspelled, hhosts, ok_bind, Source.ofFlag_documentFile hmark htilde,
      Source.outcome_load, Source.textIn, hfile]
    rfl

theorem bytesLeadTo_of_text (hhosts : s.outer.resolve setting world = .ok hosts) (text : String) :
    s.BytesLeadTo setting world text.toUTF8
      (Request.ofText hosts s.outputMode text "standard input")
      (Request.ofText hosts s.outputMode text) := by
  have hbytes := bytesLeadTo hhosts text.toUTF8
  rw [decodeText_toUTF8] at hbytes
  exact {
    standardInput := fun hinput flag spelling hflag hspelled =>
      (hbytes.standardInput hinput flag spelling hflag hspelled).trans
        (Source.map_parse .standardInput hosts s.outputMode text)
    file := fun path spelling hfile hmark htilde hspelled =>
      (hbytes.file path spelling hfile hmark htilde hspelled).trans
        (Source.map_parse (.file path) hosts s.outputMode text) }

theorem bytesLeadTo_of_not_text (hhosts : s.outer.resolve setting world = .ok hosts)
    {bytes : ByteArray} (h : ¬ bytes.IsValidUTF8) :
    s.BytesLeadTo setting world bytes (.error (.unreadableStandardInput .notText))
      (fun path => .error (.unreadableFile path .notText)) := by
  have hbytes := bytesLeadTo hhosts bytes
  rw [decodeText_of_not_isValidUTF8 h] at hbytes
  exact hbytes

end Surroundings

/-- The three ways to give a document agree, whatever stands around it. If the target has no hosts,
    they all fail for that. Otherwise the same text leads to the same request from the command line,
    the standard input and a file, or to failures that have the same error and differ in the place
    that they name. Bytes that are no text fail as such. -/
theorem Request.document_forms_agree (setting : Setting) (aliases : Aliases) (s : Surroundings) :
    (∀ failure, aliases.resolve s.outer.target = .error failure →
      ∀ world, setting.aliases.aliasesIn world = aliases → ∀ (flag : Flag) spelling value,
        flag = .document ∨ flag = .documentFile → flag.Spelled none spelling →
        ((ofArguments setting (s.arguments spelling value)).run world).outcome =
          .error (.noHosts s.outer.target)) ∧
    ∀ hosts, aliases.resolve s.outer.target = .ok hosts →
      (∀ text, text ≠ "-" → ∃ result : String → Except Failure Request,
        ((∃ document, ∀ origin,
            result origin = .ok (.add hosts s.outputMode (.document document))) ∨
          ∃ error, ∀ origin, result origin = .error (.malformedDocument origin error)) ∧
        ∀ world, setting.aliases.aliasesIn world = aliases →
          (∀ spelling, Flag.document.Spelled none spelling →
            ((ofArguments setting (s.arguments spelling text)).run world).outcome =
              result "--JSON") ∧
          s.BytesLeadTo setting world text.toUTF8 (result "standard input") result) ∧
      ∀ bytes : ByteArray, ¬ bytes.IsValidUTF8 →
        ∀ world, setting.aliases.aliasesIn world = aliases →
          s.BytesLeadTo setting world bytes (.error (.unreadableStandardInput .notText))
            (fun path => .error (.unreadableFile path .notText)) := by
  have hresolve {world : World} (hworld : setting.aliases.aliasesIn world = aliases) :
      s.outer.resolve setting world = aliases.resolve s.outer.target := by
    rw [Addition.resolve, hworld]
  refine ⟨fun failure hfailure world hworld flag spelling value hflag hspelled => ?_,
    fun hosts hhosts => ⟨fun text htext => ?_, fun bytes hbytes world hworld => ?_⟩⟩
  · obtain rfl := Aliases.eq_noHosts_of_resolve hfailure
    exact Surroundings.outcome_of_noHosts ((hresolve hworld).trans hfailure) hflag hspelled value
  · refine ⟨ofText hosts s.outputMode text, ofText_cases hosts s.outputMode text,
      fun world hworld => ?_⟩
    have hhosts' := (hresolve hworld).trans hhosts
    exact ⟨fun spelling hspelled => s.outcome_literal hhosts' hspelled htext,
      Surroundings.bytesLeadTo_of_text hhosts' text⟩
  · exact Surroundings.bytesLeadTo_of_not_text ((hresolve hworld).trans hhosts) hbytes

/-- Two hyphens are a text like any other behind a flag that takes a document, and fail as one. A
    byte that begins no character fails before that, a target without hosts before anything else. -/
theorem Request.document_forms_agree_for_hyphens :
    let setting : Setting := ⟨"home", .table (Dictionary.ofPairs [("none", ",")])⟩
    let hyphens : World := ⟨fun _ => .ok "--".toUTF8, .ok "--".toUTF8⟩
    let broken : World := ⟨fun _ => .ok ⟨#[0xff]⟩, .ok ⟨#[0xff]⟩⟩
    let outcome (world : World) (arguments : List String) :=
      ((ofArguments setting arguments).run world).outcome
    (∃ error,
      outcome hyphens ["add", "h", "-o", "ID", "-j", "--"] =
        .error (.malformedDocument "--JSON" error) ∧
      outcome hyphens ["add", "h", "-o", "ID", "--JSON", "-"] =
        .error (.malformedDocument "standard input" error) ∧
      outcome hyphens ["add", "h", "-o", "ID", "-f", "p"] =
        .error (.malformedDocument "p" error)) ∧
      outcome broken ["add", "h", "-o", "ID", "-f", "-"] =
        .error (.unreadableStandardInput .notText) ∧
      outcome broken ["add", "h", "-o", "ID", "-f", "p"] =
        .error (.unreadableFile "p" .notText) ∧
      outcome broken ["add", "none", "-o", "ID", "-j", "--"] = .error (.noHosts "none") := by
  intro setting hyphens broken outcome
  let chosen : Item := .apart "-o" .output "ID"
  have hwritten : Line.Written Subcommand.add.flags ⟨[chosen], none⟩ := by
    intro item hitem
    obtain rfl := List.mem_singleton.mp hitem
    exact ⟨by decide, .letter, Or.inr (by decide), fun _ => Or.inr (by decide)⟩
  have hchosen : ∀ item ∈ [chosen], item.ChoosesOutput := by
    intro item hitem
    obtain rfl := List.mem_singleton.mp hitem
    rfl
  have hword : Subcommand.ofWord? (Subcommand.selector ["add"]) = some .add := by decide
  let h : Surroundings :=
    ⟨⟨"add", some "h", ⟨[chosen], none⟩, hword, by decide, hwritten, rfl⟩, [chosen], [], rfl,
      hchosen⟩
  let hostless : Surroundings :=
    ⟨⟨"add", some "none", ⟨[chosen], none⟩, hword, by decide, hwritten, rfl⟩, [chosen], [], rfl,
      hchosen⟩
  let aliases : Aliases := Dictionary.ofPairs [("none", ",")]
  have hhosts : aliases.resolve "h" = .ok ⟨["h"], by decide⟩ :=
    Aliases.resolve_eq_ok_iff.mpr (by decide)
  have hnone : aliases.resolve "none" = .error (.noHosts "none") :=
    Aliases.resolve_of_hostEntries_eq_nil (by decide)
  have hname : Flag.document.name? = some "JSON" := rfl
  obtain ⟨hagree, hunreadable⟩ := (document_forms_agree setting aliases h).2 _ hhosts
  obtain ⟨result, hresult, hforms⟩ := hagree "--" (by decide)
  obtain ⟨hliteral, hbytes⟩ := hforms hyphens rfl
  have hbroken := hunreadable ⟨#[0xff]⟩ (by decide) broken rfl
  refine ⟨?_, hbroken.standardInput rfl .documentFile "-f" (Or.inr rfl) .letter,
    hbroken.file "p" "-f" rfl (by decide) (by decide) .letter,
    (document_forms_agree setting aliases hostless).1 _ hnone broken rfl .document "-j" "--"
      (Or.inl rfl) .letter⟩
  obtain ⟨document, hok⟩ | ⟨error, herror⟩ := hresult
  · obtain ⟨failure, hfailure⟩ : ∃ failure, outcome hyphens ["add", "h", "-o", "ID", "-j", "--"] =
        .error failure := ⟨_, rfl⟩
    have hmade := (hliteral "-j" .letter).trans (hok "--JSON")
    cases hfailure.symm.trans hmade
  · refine ⟨error, (hliteral "-j" .letter).trans (herror _), ?_, ?_⟩
    · have hinput := hbytes.standardInput rfl .document "--JSON" (Or.inl rfl) (.name hname)
      exact hinput.trans (herror _)
    · exact (hbytes.file "p" "-f" rfl (by decide) (by decide) .letter).trans (herror _)

/-- Without hosts no form gets as far as its document. -/
theorem Request.document_unread_without_hosts :
    let setting : Setting := ⟨"home", .nowhere⟩
    let world : World := ⟨fun _ => .ok "\x7b".toUTF8, .ok "\x7b".toUTF8⟩
    ∀ form ∈ [["-j", "\x7b"], ["-j", "-"], ["-f", "-"], ["-f", "p"]],
      let outcome := ((ofArguments setting ("add" :: "," :: form)).run world).outcome
      outcome = .error (.noHosts ",") ∧ (∀ request, outcome ≠ .ok request) ∧
        ∀ origin error, outcome ≠ .error (.malformedDocument origin error) := by
  intro setting world form hform outcome
  have houtcome : outcome = .error (.noHosts ",") := by
    simp only [List.mem_cons, List.not_mem_nil, or_false] at hform
    obtain rfl | rfl | rfl | rfl := hform <;> rfl
  rw [houtcome]
  exact ⟨rfl, nofun, nofun⟩

end Discovery
