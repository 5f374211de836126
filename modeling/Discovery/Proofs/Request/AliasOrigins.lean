import Discovery.Proofs.Request.StandardInput
import Discovery.Proofs.Request.TargetAlias
import Discovery.Proofs.Session
import Discovery.Proofs.Target.Aliases

namespace Discovery

/-- Two runs that answer alike: with the same outcome and the same warnings, and both or neither
    asking for the standard input. What else they log may differ. -/
structure Trace.AnswersLike {ε α : Type} (trace other : Trace ε α) : Prop where
  outcome : trace.outcome = other.outcome
  warnings : trace.warnings = other.warnings
  readsStandardInput : trace.readsStandardInput = other.readsStandardInput

variable {home? : Option String} {world : World} {origin other : AliasOrigin} {arguments : List String}

namespace Subcommand

/-- Behind the target nothing is left of the place where the aliases came from. -/
theorem withHosts_answersLike (h : origin.aliasesIn world = other.aliasesIn world)
    (next : Hosts → List String → Dialogue Failure Request) :
    ((withHosts ⟨home?, origin⟩ arguments next).run world).AnswersLike
      ((withHosts ⟨home?, other⟩ arguments next).run world) := by
  have hresolve : Setting.resolve ⟨home?, origin⟩ world arguments =
      Setting.resolve ⟨home?, other⟩ world arguments := by
    rw [Setting.resolve, h, Setting.resolve]
  constructor
  case outcome => rw [outcome_withHosts, outcome_withHosts, hresolve]
  case warnings => rw [warnings_withHosts, warnings_withHosts, hresolve]
  case readsStandardInput =>
    rw [Bool.eq_iff_iff]
    simp only [Trace.readsStandardInput, List.contains_iff_mem, standard_mem_inputs_withHosts,
      hresolve]

end Subcommand

namespace Request

theorem ofSubcommandArguments_answersLike (h : origin.aliasesIn world = other.aliasesIn world)
    (home? : Option String) (arguments : List String) (command : Subcommand) :
    ((ofSubcommandArguments ⟨home?, origin⟩ arguments command).run world).AnswersLike
      ((ofSubcommandArguments ⟨home?, other⟩ arguments command).run world) := by
  obtain ⟨decided, _, heq⟩ | ⟨next, _, heq⟩ := ofSubcommandArguments_cases command arguments
  · rw [heq, heq]
    exact ⟨rfl, rfl, rfl⟩
  · rw [heq, heq]
    exact Subcommand.withHosts_answersLike h (next home?)

/-- A command line is answered by what the aliases are, not by where they come from. -/
theorem ofArguments_answersLike (h : origin.aliasesIn world = other.aliasesIn world) :
    ((ofArguments ⟨home?, origin⟩ arguments).run world).AnswersLike
      ((ofArguments ⟨home?, other⟩ arguments).run world) := by
  cases hselected : Subcommand.ofWord? (Subcommand.selector arguments) with
  | none =>
    simp only [ofArguments, hselected]
    exact ⟨rfl, rfl, rfl⟩
  | some command =>
    rw [ofArguments_of_selected _ hselected, ofArguments_of_selected _ hselected]
    -- the event in front is the same and no warning
    obtain ⟨houtcome, hwarnings, hreads⟩ :=
      ofSubcommandArguments_answersLike h home? arguments.tail command
    exact ⟨houtcome, hwarnings, hreads⟩

end Request

namespace AliasOrigin

variable {path : String}

theorem aliasesIn_file_of_text {text : String} (h : world.file path = .ok text.toUTF8) :
    (AliasOrigin.file path).aliasesIn world = (AliasOrigin.table (.ofText text)).aliasesIn world := by
  have htext : (world.file path).bind decodeText = .ok text := by
    rw [h]
    exact decodeText_toUTF8 text
  simp only [aliasesIn, htext]

theorem aliasesIn_file_of_fault {fault : ReadFault}
    (h : (world.file path).bind decodeText = .error fault) :
    (AliasOrigin.file path).aliasesIn world = AliasOrigin.nowhere.aliasesIn world := by
  simp only [aliasesIn, h]

end AliasOrigin

/-- All ways to come by aliases agree. Pairs that are collected make the table that results from
    inserting them one after another, and also the one that is read from their lines, if they can be
    written. It gives for a name the hosts of the last pair with it and has one entry for each name,
    and tables are equal exactly when they give the same for each name. A command line is answered
    alike under a file of aliases and under the table of its text, and a file that gives no text
    is like none. -/
theorem alias_origins_agree :
    (∀ pairs : List (String × String), let aliases : Aliases := Dictionary.ofPairs pairs
      (Session.start.after (pairs.map fun pair => .insert pair.1 pair.2)).aliases = aliases ∧
      ((∀ pair ∈ pairs, Aliases.IsWritable pair.1 pair.2) →
        Aliases.ofText ("\n".intercalate (pairs.map fun pair => pair.1 ++ "=" ++ pair.2)) =
          aliases) ∧
      (∀ name hosts, aliases.find? name = some hosts ↔
        ∃ front back, pairs = front ++ (name, hosts) :: back ∧ name ∉ back.map Prod.fst) ∧
      aliases.size = (pairs.map Prod.fst).dedup.length) ∧
    (∀ a b : Aliases, a = b ↔ ∀ name, a.find? name = b.find? name) ∧
    ∀ (home? : Option String) (path : String) (arguments : List String) (world : World),
      let run (origin : AliasOrigin) := (Request.ofArguments ⟨home?, origin⟩ arguments).run world
      (∀ text, world.file path = .ok text.toUTF8 →
        (run (.file path)).AnswersLike (run (.table (.ofText text)))) ∧
      (∀ fault, world.file path = .error fault →
        (run (.file path)).AnswersLike (run .nowhere)) ∧
      ∀ bytes, world.file path = .ok bytes → ¬ bytes.IsValidUTF8 →
        (run (.file path)).AnswersLike (run .nowhere) := by
  refine ⟨fun pairs => ⟨Session.aliases_after_insert pairs, fun hwritable => ?_,
    fun name hosts => Dictionary.find?_ofPairs_eq_some_iff, Dictionary.size_ofPairs pairs⟩,
    fun a b => ⟨fun heq name => heq ▸ rfl, Dictionary.ext_find?⟩, fun home? path arguments world =>
    ⟨fun text htext => ?_, fun fault hfault => ?_, fun bytes hbytes hinvalid => ?_⟩⟩
  · exact Aliases.ofText_pairLines hwritable
  · exact Request.ofArguments_answersLike (AliasOrigin.aliasesIn_file_of_text htext)
  · have hread : (world.file path).bind decodeText = .error fault := by
      rw [hfault]
      rfl
    exact Request.ofArguments_answersLike (AliasOrigin.aliasesIn_file_of_fault hread)
  · have hread : (world.file path).bind decodeText = .error .notText := by
      rw [hbytes]
      exact decodeText_of_not_isValidUTF8 hinvalid
    exact Request.ofArguments_answersLike (AliasOrigin.aliasesIn_file_of_fault hread)

/-- A name that is given twice has the hosts of the second time, also in a file. Where the file is
    none or has no text, the name is a host itself. -/
theorem alias_origins_agree_on_last_pair :
    let pairs := [("lab", "1"), ("a_", ""), ("lab", "x, y")]
    let aliases : Aliases := Dictionary.ofPairs pairs
    let text := "lab=1\na_=\nlab=x, y"
    let world : World :=
      ⟨fun path => if path = "rc" then .ok text.toUTF8
        else if path = "raw" then .ok ⟨#[0xff]⟩ else .error .isDirectory, .error .closed⟩
    let outcome (origin : AliasOrigin) :=
      ((Request.ofArguments ⟨"home", origin⟩ ["show", "lab"]).run world).outcome
    Aliases.ofText text = aliases ∧ aliases.find? "lab" = some "x, y" ∧ aliases.size = 2 ∧
      aliases ≠ Dictionary.ofPairs pairs.reverse ∧
      outcome (.file "rc") = .ok (.show ⟨["x", "y"], by decide⟩ .json) ∧
      outcome (.file "raw") = .ok (.show ⟨["lab"], by decide⟩ .json) ∧
      outcome (.file "directory") = .ok (.show ⟨["lab"], by decide⟩ .json) := by
  intro pairs aliases text world outcome
  obtain ⟨hways, hext, horigins⟩ := alias_origins_agree
  obtain ⟨_, hlines, hlast, hsize⟩ := hways pairs
  obtain ⟨hfile, _, _⟩ := horigins "home" "rc" ["show", "lab"] world
  obtain ⟨_, _, hraw⟩ := horigins "home" "raw" ["show", "lab"] world
  obtain ⟨_, hdirectory, _⟩ := horigins "home" "directory" ["show", "lab"] world
  have hwritable : ∀ pair ∈ pairs, Aliases.IsWritable pair.1 pair.2 := by
    intro pair hpair
    simp only [pairs, List.mem_cons, List.not_mem_nil, or_false] at hpair
    obtain rfl | rfl | rfl := hpair <;> exact ⟨by decide +kernel, by decide, by decide⟩
  have htext : Aliases.ofText text = aliases := hlines hwritable
  have hnowhere : outcome .nowhere = .ok (.show ⟨["lab"], by decide⟩ .json) := rfl
  have htable : outcome (.table aliases) = .ok (.show ⟨["x", "y"], by decide⟩ .json) := by
    have hword : Subcommand.ofWord? (Subcommand.selector ["show"]) = some .show := by decide
    have hhosts : aliases.resolve "lab" = .ok ⟨["x", "y"], by decide⟩ :=
      Aliases.resolve_eq_ok_iff.mpr (by decide)
    refine (Request.outcome_ofArguments_of_word world _ hword ["lab"]).trans ?_
    rw [Request.ofSubcommandArguments, Request.ofShowArguments, Subcommand.outcome_withHosts]
    change aliases.resolve "lab" >>= _ = _
    rw [hhosts]
    rfl
  have horder : aliases ≠ Dictionary.ofPairs pairs.reverse := fun heq =>
    absurd ((hext _ _).mp heq "lab") (by decide)
  have hfind : aliases.find? "lab" = some "x, y" :=
    (hlast "lab" "x, y").mpr ⟨[("lab", "1"), ("a_", "")], [], rfl, by decide⟩
  refine ⟨htext, hfind, hsize, horder, ?_,
    (hraw ⟨#[0xff]⟩ rfl (by decide)).outcome.trans hnowhere,
    (hdirectory .isDirectory rfl).outcome.trans hnowhere⟩
  rw [← htable, ← htext]
  exact (hfile text rfl).outcome

end Discovery
