import Discovery.Proofs.Json.Accepted
import Discovery.Proofs.Json.RoundTrip
import Discovery.Proofs.Request.Surroundings
import Discovery.Proofs.Service.Announcement

namespace Discovery

open Json

namespace Announcement

variable (a : Announcement)

/-- A reader sorts the members of an announcement as a server finds them. -/
theorem canonical_toJson_eq_document : a.toJson.canonical = a.document := by
  rw [toJson, document, members_eq]
  simp only [canonical, canonicalMembers, canonical_ofString?, canonical_propertiesValue]

theorem read_print_toJson (layout : Layout) :
    Json.read (a.toJson.print layout).toList = .ok a.document := by
  have hdepth : a.toJson.depth ≤ nestingLimit := Nat.le_trans a.depth_toJson_le (by decide)
  rw [read_print a.integral_toJson hdepth, canonical_toJson_eq_document]

/-- What was read is in order, so it is read again as it is. -/
theorem read_print_document (layout : Layout) :
    Json.read (a.document.print layout).toList = .ok a.document := by
  obtain ⟨hordered, hdepth⟩ := ordered_of_read (a.read_print_toJson layout)
  have hintegral : a.document.Integral :=
    a.canonical_toJson_eq_document ▸ a.integral_toJson.canonical
  rw [read_print hintegral hdepth, hordered.canonical_eq]

end Announcement

namespace Addition

variable (c : Addition)

/-- A command line without its options that say something about the service. -/
def outputOnly : Addition where
  word := c.word
  target? := c.target?
  line := ⟨c.line.items.filter fun item => item.ChoosesOutput, c.line.rest?⟩
  selected := c.selected
  target_noFlag := c.target_noFlag
  written := fun item hitem => c.written item (List.mem_of_mem_filter hitem)
  optionsOnly := by
    obtain ⟨hitems, hrest⟩ := List.append_eq_nil_iff.mp c.optionsOnly
    refine List.append_eq_nil_iff.mpr ⟨List.filterMap_eq_nil_iff.mpr fun item hitem => ?_, hrest⟩
    exact List.filterMap_eq_nil_iff.mp hitems item (List.mem_of_mem_filter hitem)

theorem choosesOutput_of_mem_outputOnly :
    ∀ item ∈ c.outputOnly.line.items, item.ChoosesOutput := by
  intro item hitem
  exact of_decide_eq_true (List.mem_filter.mp hitem).2

theorem values_outputOnly : c.outputOnly.line.values .output = c.line.values .output := by
  rw [outputOnly, Line.values, Line.values, List.filterMap_filter]
  refine List.filterMap_congr fun item _ => ?_
  cases hvalue : item.valueOf? .output <;> simp [Item.ChoosesOutput, hvalue]

/-- The options for the output, with the document behind all of them. -/
def surroundings : Surroundings where
  outer := c.outputOnly
  before := c.outputOnly.line.items
  after := []
  split := List.append_nil _
  outputOnly := c.choosesOutput_of_mem_outputOnly

theorem outputMode_of_outer_eq {s : Surroundings} (h : s.outer = c.outputOnly) :
    s.outputMode = c.line.scan.outputMode := by
  rw [Surroundings.outputMode, h, Line.last?, values_outputOnly, Request.outputMode_scan,
    Line.last?]

end Addition

/-- An announcement that the flags of a command line make up can be given as a document just as
    well, in the order of a plan or in that of a server. With the flags that describe the service
    replaced by either text, the command line leads to a request with the same hosts and the same
    output mode, and a server receives the same text. -/
theorem Request.document_of_announcement {setting : Setting} {world : World}
    {arguments : List String} {hosts : Hosts} {output : OutputMode} {a : Announcement}
    (h : ((ofArguments setting arguments).run world).outcome =
      .ok (.add hosts output (.announcement a))) :
    let printed := (Definition.announcement a).payload.print .compact
    (∃ (c : Addition) (s : Surroundings), c.arguments = arguments ∧ s.outer = c.outputOnly) ∧
      ∀ (c : Addition) (s : Surroundings), c.arguments = arguments → s.outer = c.outputOnly →
        ∀ other : World, setting.aliases.aliasesIn other = setting.aliases.aliasesIn world →
          ∀ spelling, Flag.document.Spelled none spelling →
            ∀ text ∈ [printed, (Definition.announcement a).toJson.print .compact],
              ∃ document, ((ofArguments setting (s.arguments spelling text)).run other).outcome =
                  .ok (.add hosts output (.document document)) ∧
                (Definition.document document).payload.print .compact = printed := by
  intro printed
  obtain ⟨given, hgiven⟩ := exists_addition_of_outcome h
  refine ⟨⟨given, given.surroundings, hgiven, rfl⟩, ?_⟩
  rintro c s rfl houter other hother spelling hspelled text htext
  have hread : Json.read text.toList = .ok a.document := by
    simp only [List.mem_cons, List.not_mem_nil, or_false] at htext
    obtain rfl | rfl := htext
    · exact a.read_print_document .compact
    · exact a.read_print_toJson .compact
  -- the hosts and the output mode come from the options that are left
  rw [c.outcome_eq] at h
  obtain ⟨found, hfound, hflags⟩ := bind_eq_ok_iff.mp h
  obtain ⟨rfl, rfl⟩ : found = hosts ∧ c.line.scan.outputMode = output := by
    rw [outcome_ofAddFlags] at hflags
    cases hdefinition : ((c.line.scan.definition setting.home?).run world).outcome with
    | error failure => simp [hdefinition, Except.map] at hflags
    | ok definition =>
      rw [hdefinition] at hflags
      cases hflags
      exact ⟨rfl, rfl⟩
  have hhosts : s.outer.resolve setting other = .ok found := by
    rw [houter, ← hfound, Addition.resolve, Addition.resolve, hother]
    rfl
  refine ⟨a.document, ?_, rfl⟩
  rw [s.outcome_literal hhosts hspelled (Source.ne_mark_of_read hread), Request.ofText, hread,
    c.outputMode_of_outer_eq houter]

/-- An announcement with a quote and a backslash in its texts, an empty pool and no location. -/
theorem Request.document_of_quoted_announcement :
    let setting : Setting := ⟨"home", .nowhere⟩
    let world : World := ⟨fun _ => .error .notFound, .error .closed⟩
    let hosts : Hosts := ⟨["h"], by decide⟩
    let outcome (arguments : List String) := ((ofArguments setting arguments).run world).outcome
    let a : Announcement := ⟨"\"", "t", "", none, some (Properties.ofTexts ["k=\\"])⟩
    outcome ["add", "h", "-D", "k=\\", "-e\"", "-o", "id", "-t", "t", "-p", ""] =
        .ok (.add hosts .id (.announcement a)) ∧
      ∀ text ∈ [a.document.print .compact, a.toJson.print .compact], ∃ document,
        outcome ["add", "h", "-o", "id", "--JSON", text] =
            .ok (.add hosts .id (.document document)) ∧
          document.print .compact = a.document.print .compact := by
  intro setting world hosts outcome a
  have hmade : outcome ["add", "h", "-D", "k=\\", "-e\"", "-o", "id", "-t", "t", "-p", ""] =
      .ok (.add hosts .id (.announcement a)) := rfl
  let line : Line := ⟨[.apart "-D" .property "k=\\", .joined "-e\"" .environment "\"",
    .apart "-o" .output "id", .apart "-t" .serviceType "t", .apart "-p" .pool ""], none⟩
  have hline : line.Written Subcommand.add.flags := by
    intro item hitem
    simp only [line, List.mem_cons, List.not_mem_nil, or_false] at hitem
    obtain rfl | rfl | rfl | rfl | rfl := hitem
    · exact ⟨by decide, .letter, Or.inr (by decide), nofun⟩
    · have htext : "\"" ≠ "" := by decide
      exact ⟨by decide, .letterValue htext, nofun⟩
    · exact ⟨by decide, .letter, Or.inr (by decide), fun _ => Or.inr (by decide)⟩
    · exact ⟨by decide, .letter, Or.inr (by decide), nofun⟩
    · exact ⟨by decide, .letter, Or.inr (by decide), nofun⟩
  have hword : Subcommand.ofWord? (Subcommand.selector ["add"]) = some .add := by decide
  let c : Addition := ⟨"add", some "h", line, hword, by decide, hline, rfl⟩
  have hname : Flag.document.name? = some "JSON" := rfl
  exact ⟨hmade, (document_of_announcement hmade).2 c c.surroundings rfl rfl world rfl "--JSON"
    (.name hname)⟩

end Discovery
