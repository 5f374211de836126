import Mathlib
import Discovery.Proofs.Json.Place
import Discovery.Proofs.Request.DocumentPlan

namespace Discovery.Request

open Json

/-- A text is the one that a command line gives for a definition. -/
def GivesText (setting : Setting) (world : World) (arguments : List String) (text : String) :
    Prop :=
  ∃ scan source, Scan.ofArguments Subcommand.add.flags (takeTarget arguments.tail).2 = .ok scan ∧
    scan.source? setting.home? = some source ∧ source.textIn world = .ok text

variable {setting : Setting} {world : World} {arguments : List String} {hosts : Hosts}
  {output : OutputMode} {d : Json}

/-- The document in a request is what was read of the text that the command line gives. -/
theorem exists_read_of_outcome
    (h : ((ofArguments setting arguments).run world).outcome =
      .ok (.add hosts output (.document d))) :
    ∃ text, GivesText setting world arguments text ∧
      ∀ other, GivesText setting world arguments other →
        other = text ∧ Json.read other.toList = .ok d := by
  obtain ⟨word, rest, scan, rfl, _, _, hscan, _, hdefinition, _⟩ := outcome_ofArguments_eq_add h
  obtain ⟨source, document, hsource, hload, heq⟩ | ⟨_, _, heq⟩ :=
    scan.outcome_definition_eq_ok world hdefinition
  · cases heq
    rw [Source.outcome_load] at hload
    obtain ⟨text, htext, hparse⟩ := bind_eq_ok_iff.mp hload
    refine ⟨text, ⟨scan, source, hscan, hsource, htext⟩, ?_⟩
    rintro other ⟨scan', source', hscan', hsource', htext'⟩
    obtain rfl := Except.ok.inj (hscan.symm.trans hscan')
    obtain rfl := Option.some.inj (hsource.symm.trans hsource')
    obtain rfl := Except.ok.inj (htext.symm.trans htext')
    exact ⟨rfl, Source.parse_eq_ok_iff.mp hparse⟩
  · cases heq

/-- The definition is the last member of its plan. -/
theorem find?_draft_plan (place : List Selector) :
    (plan (.add hosts output (.document d))).draft.find? (.name "definition" :: place) =
      d.draft.find? place := by
  rfl

/-- Every integer in a document given to `add` is printed at its place in the definition and in the
    plan. What is printed denotes it if 64 bits hold it. Otherwise the double is printed that was
    made of its digits, and this denotes it only if it is the shortest decimal of that double; so it
    has nothing but zeros behind the first seventeen digits then. -/
theorem integers_of_document
    (h : ((ofArguments setting arguments).run world).outcome =
      .ok (.add hosts output (.document d))) :
    (∃ text, GivesText setting world arguments text) ∧
      ∀ text, GivesText setting world arguments text →
        (∃ draft : Draft, draft.WrittenIn text.toList) ∧
          ∀ draft : Draft, draft.WrittenIn text.toList → ∀ place literal i,
            draft.find? place = some (.number literal) → IsInteger literal i →
              ∃ printed, (Definition.document d).payload.PrintsAt place printed ∧
                (plan (.add hosts output (.document d))).PrintsAt (.name "definition" :: place)
                  printed ∧
                (-9223372036854775808 ≤ i → i ≤ 18446744073709551615 → Denotes printed i) ∧
                (i < -9223372036854775808 ∨ 18446744073709551615 < i →
                  ∃ x, IsRead i x ∧ printed = x.digits ∧
                    (Denotes printed i ↔ (Decimal.shortest x).value = |i|) ∧
                    (Denotes printed i → ∃ m k : Nat, m < 10 ^ 17 ∧ i.natAbs = m * 10 ^ k)) := by
  obtain ⟨text, hgiven, hread⟩ := exists_read_of_outcome h
  refine ⟨⟨text, hgiven⟩, fun text htext => ?_⟩
  obtain ⟨_, hread⟩ := hread text htext
  obtain ⟨written, _, hwritten, _⟩ := Draft.exists_reads_of_read hread
  refine ⟨⟨written, hwritten⟩, fun draft hdraft place literal i hfind hi => ?_⟩
  obtain ⟨printed, hprinted, hwithin, hbeyond⟩ := printsAt_of_isInteger hread hdraft hfind hi
  refine ⟨printed, printsAt_iff.mpr hprinted, printsAt_iff.mpr ?_, hwithin, hbeyond⟩
  rw [find?_draft_plan, hprinted]

/-- The largest integer that 64 bits hold and a power of ten far beyond it, both of them printed as
    they were. -/
theorem integers_of_powerOfTen :
    let setting : Setting := ⟨"home", .nowhere⟩
    let world : World := ⟨fun _ => .error .notFound, .error .closed⟩
    let hosts : Hosts := ⟨["http://localhost:8080"], by decide⟩
    let text := "[18446744073709551615,100000000000000000000000]"
    let x : Binary64 := ⟨false, 5960464477539062, 24⟩
    let d : Json := .array [.number (.integer 18446744073709551615), .number (.double x)]
    ((ofArguments setting ["add", "-j", text]).run world).outcome =
        .ok (.add hosts .json (.document d)) ∧
      ∀ place ∈ [([.index 0], 18446744073709551615), ([.index 1], 100000000000000000000000)],
        ∃ printed, d.PrintsAt place.1 printed ∧ Denotes printed (place.2 : ℚ) := by
  intro setting world hosts text x d
  have hhosts : (setting.aliases.aliasesIn world).resolve defaultTarget = .ok hosts := by decide
  have hvalue : (Numeral.long false 10000000000000000000 4).value = .ok (.double x) := by
    decide +kernel
  have hrun : State.start.run "[18446744073709551615,100000000000000000000000]".toList =
      State.run ⟨.numeral (.long false 10000000000000000000 4),
        [.array [.number (.integer 18446744073709551615)]]⟩ [']'] := rfl
  have hread : Json.read text.toList = .ok d := by
    rw [read_eq_ok_iff, State.outcome_of_run hrun, State.outcome_cons,
      State.step_numeral_end hvalue rfl]
    rfl
  have hrequest : ((ofArguments setting ["add", "-j", text]).run world).outcome =
      .ok (.add hosts .json (.document d)) := outcome_of_documentText hhosts hread
  have hgiven : GivesText setting world ["add", "-j", text] text :=
    ⟨⟨[⟨.document, text⟩], []⟩, .literal text, rfl, rfl, rfl⟩
  let written : Json := .array [.number (.integer 18446744073709551615),
    .number (.integer 100000000000000000000000)]
  have htext : written.print .compact = text := by decide +kernel
  have hdraft : written.draft.WrittenIn text.toList :=
    htext ▸ Draft.writtenIn_print written .compact
  have hprinted := ((integers_of_document hrequest).2 text hgiven).2 written.draft hdraft
  refine ⟨hrequest, ?_⟩
  simp only [List.forall_mem_cons, List.not_mem_nil, false_implies, implies_true, and_true]
  constructor
  · obtain ⟨printed, hplace, _, hwithin, _⟩ :=
      hprinted [.index 0] _ _ rfl (isInteger_integerDigits 18446744073709551615)
    exact ⟨printed, hplace, by exact_mod_cast hwithin (by decide) (by decide)⟩
  · obtain ⟨printed, hplace, _, _, hbeyond⟩ :=
      hprinted [.index 1] _ _ rfl (isInteger_integerDigits 100000000000000000000000)
    obtain ⟨y, hy, _, hiff, _⟩ := hbeyond (Or.inr (by decide))
    have hx : IsRead 100000000000000000000000 x :=
      ⟨4, isLeast_dropped (by decide +kernel) (by decide +kernel), by decide +kernel⟩
    have hshortest : Decimal.shortest x = ⟨1, 23⟩ := by decide +kernel
    have hexact : Denotes printed (100000000000000000000000 : Int) := by
      rw [hiff, hy.unique hx, hshortest, Decimal.value]
      norm_num
    exact ⟨printed, hplace, by exact_mod_cast hexact⟩

/-- The first integer that 64 bits do not hold is printed as another one. -/
theorem integer_beyond_limits_changed :
    let setting : Setting := ⟨"home", .nowhere⟩
    let world : World := ⟨fun _ => .error .notFound, .error .closed⟩
    let hosts : Hosts := ⟨["http://localhost:8080"], by decide⟩
    let text := "18446744073709551616"
    let d : Json := .number (.double ⟨false, 4503599627370496, 12⟩)
    ((ofArguments setting ["add", "-j", text]).run world).outcome =
        .ok (.add hosts .json (.document d)) ∧
      Draft.WrittenIn (.number text.toList) text.toList ∧
      IsInteger text.toList 18446744073709551616 ∧
      (∀ layout, d.print layout = "1.8446744073709552e+19") ∧
      ∀ printed, d.PrintsAt [] printed → Denotes printed 18446744073709552000 ∧
        ¬ Denotes printed 18446744073709551616 := by
  intro setting world hosts text d
  have hhosts : (setting.aliases.aliasesIn world).resolve defaultTarget = .ok hosts := by decide
  have hvalue : (Numeral.long false 1844674407370955161 1).value =
      .ok (.double ⟨false, 4503599627370496, 12⟩) := by decide +kernel
  have hrun : State.start.run "18446744073709551616".toList =
      State.run ⟨.numeral (.long false 1844674407370955161 1), []⟩ [] := rfl
  have hfinish : State.finish ⟨.numeral (.long false 1844674407370955161 1), []⟩ = .ok d :=
    State.finish_numeral hvalue
  have hread : Json.read text.toList = .ok d := by
    rw [read_eq_ok_iff, State.outcome_of_run hrun]
    exact hfinish
  have htext : text.toList = integerDigits 18446744073709551616 := by decide +kernel
  have hinteger : IsInteger text.toList 18446744073709551616 := by
    rw [htext]
    exact isInteger_integerDigits 18446744073709551616
  have hdenotes : Denotes (Binary64.digits ⟨false, 4503599627370496, 12⟩) 18446744073709552000 := by
    have hshortest : Decimal.shortest ⟨false, 4503599627370496, 12⟩ = ⟨18446744073709552, 3⟩ := by
      decide +kernel
    have hdigits := Binary64.denotes_digits ⟨false, 4503599627370496, 12⟩
    rw [hshortest, signed, if_neg Bool.false_ne_true, Decimal.value] at hdigits
    norm_num at hdigits
    exact hdigits
  refine ⟨outcome_of_documentText hhosts hread,
    ⟨[], text.toList, [], (List.append_nil _).symm, isGap_nil, .number (.intro hinteger.denotes),
      isGap_nil⟩,
    hinteger,
    fun layout => ?_, fun printed hprinted => ?_⟩
  · cases layout <;> decide +kernel
  · cases printsAt_iff.mp hprinted
    refine ⟨hdenotes, fun hsame => ?_⟩
    have heq := hdenotes.unique hsame
    norm_num at heq

end Discovery.Request
