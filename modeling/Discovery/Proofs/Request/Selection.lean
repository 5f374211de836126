import Discovery.Proofs.Request.Interpretation
import Discovery.Proofs.Text.Upper

namespace Discovery

namespace Subcommand

/-- Whether a text is the word for a subcommand in some case, letter by letter. -/
def WrittenAs (command : Subcommand) (text : String) : Prop :=
  List.Forall₂ Text.IsCaseOf text.toList command.word.toList

instance (command : Subcommand) (text : String) : Decidable (command.WrittenAs text) :=
  inferInstanceAs (Decidable (List.Forall₂ Text.IsCaseOf _ _))

theorem ofWord?_eq_some_iff {word : String} {command : Subcommand} :
    ofWord? word = some command ↔ command.word = word := by
  constructor
  · intro h
    simpa using List.find?_some h
  · rintro rfl
    cases command <;> decide

/-- No character is written out as a part of a word, and none of the words has an I. -/
theorem upper_eq_word_iff (command : Subcommand) (text : String) :
    String.ofList (Text.upper text.toList) = command.word ↔ command.WrittenAs text := by
  have hall : command.word.toList.all fun letter => letter.isUpper && letter != 'I' := by
    cases command <;> decide
  have hletters : ∀ letter ∈ command.word.toList, letter.isUpper = true ∧ letter ≠ 'I' := by
    simpa using hall
  have hfree : Text.HasNoExpansion command.word.toList := by
    cases command <;> decide +kernel
  rw [WrittenAs, ← Text.upper_eq_iff hletters hfree, ← String.toList_inj, String.toList_ofList]

theorem selected_iff {text : String} {command : Subcommand} (arguments : List String) :
    ofWord? (selector (text :: arguments)) = some command ↔ command.WrittenAs text := by
  rw [ofWord?_eq_some_iff, eq_comm, selector, upper_eq_word_iff]

end Subcommand

namespace Request

variable {setting : Setting} {arguments : List String}

/-- Whether a first argument selects a subcommand: under every setting, all that is behind it is
    interpreted as the arguments of that subcommand. -/
def Selects (text : String) (command : Subcommand) : Prop :=
  ∀ (setting : Setting) (arguments : List String), ofArguments setting (text :: arguments) =
    Dialogue.note (.dispatching command.word) >>= fun _ =>
      ofSubcommandArguments setting arguments command

/-- What asks for general help does so without looking at anything. -/
theorem ofArguments_of_not_selected
    (h : Subcommand.ofWord? (Subcommand.selector arguments) = none) :
    ofArguments setting arguments =
      Dialogue.note (.dispatching (Subcommand.selector arguments)) >>= fun _ =>
        pure (.help none Subcommand.combinedUsage) := by
  simp only [ofArguments, h]

/-- The arguments of a subcommand never lead to general help. -/
theorem subcommand?_of_outcome {world : World} {command : Subcommand} {request : Request}
    (h : ((ofSubcommandArguments setting arguments command).run world).outcome = .ok request) :
    request.subcommand? = some command := by
  cases command with
  | add =>
    obtain rfl | ⟨_, _, _, _, _, _, _, rfl⟩ := outcome_ofAddArguments_eq_ok h <;> rfl
  | «show» =>
    obtain rfl | ⟨_, _, _, _, _, rfl⟩ := outcome_ofShowArguments_eq_ok h <;> rfl
  | delete =>
    obtain rfl | ⟨_, _, _, _, _, _, _, rfl⟩ := outcome_ofDeleteArguments_eq_ok h <;> rfl

/-- Every subcommand can be asked for help, which tells one from another. -/
theorem outcome_help (world : World) (command : Subcommand) :
    ((ofSubcommandArguments ⟨"", .nowhere⟩ ["-h"] command).run world).outcome =
      .ok command.help := by
  cases command <;> rfl

theorem selects_of_writtenAs {text : String} {command : Subcommand} (h : command.WrittenAs text) :
    Selects text command := by
  intro setting arguments
  have hselected := (Subcommand.selected_iff arguments).mpr h
  rw [ofArguments_of_selected setting hselected, ← Subcommand.ofWord?_eq_some_iff.mp hselected]
  rfl

theorem writtenAs_of_selects {text : String} {command : Subcommand} (h : Selects text command) :
    command.WrittenAs text := by
  let setting : Setting := ⟨"", .nowhere⟩
  let world : World := ⟨fun _ => .error .notFound, .error .closed⟩
  have hhelp : ((ofArguments setting [text, "-h"]).run world).outcome = .ok command.help := by
    rw [h setting ["-h"], Dialogue.outcome_bind, Dialogue.outcome_note, ok_bind, outcome_help]
  cases hselected : Subcommand.ofWord? (Subcommand.selector [text, "-h"]) with
  | none =>
    rw [ofArguments_of_not_selected hselected] at hhelp
    cases hhelp
  | some other =>
    rw [ofArguments_of_selected setting hselected, Dialogue.outcome_bind, Dialogue.outcome_note,
      ok_bind, List.tail_cons, outcome_help] at hhelp
    cases hhelp
    exact (Subcommand.selected_iff ["-h"]).mp hselected

/-- No subcommand is selected when there is no first argument or it is written as none of the
    words. -/
theorem selected_eq_none_iff :
    Subcommand.ofWord? (Subcommand.selector arguments) = none ↔
      ∀ text ∈ arguments.head?, ∀ command : Subcommand, ¬ command.WrittenAs text := by
  cases arguments with
  | nil => exact ⟨fun _ _ hmem => absurd hmem (Option.not_mem_none _), fun _ => by decide⟩
  | cons text rest =>
    rw [Option.eq_none_iff_forall_ne_some]
    simp [Subcommand.selected_iff]

/-- A first argument selects a subcommand exactly when it is the word for that subcommand in some
    case, where a long s counts as an S. Every other command line asks for general help, and so does
    an empty one: it never fails, nothing is asked for, and what is behind the first argument, the
    setting and the world make no difference. -/
theorem selected_or_general_help :
    (∀ text command, Selects text command ↔ command.WrittenAs text) ∧
    (∀ (setting : Setting) (world : World) (arguments : List String),
      ((ofArguments setting arguments).run world).outcome =
          .ok (.help none Subcommand.combinedUsage) ↔
        ∀ text ∈ arguments.head?, ∀ command : Subcommand, ¬ command.WrittenAs text) ∧
    (∀ arguments : List String,
      (∀ text ∈ arguments.head?, ∀ command : Subcommand, ¬ command.WrittenAs text) →
        ∀ (setting : Setting) (world : World), (ofArguments setting arguments).run world =
          ⟨.ok (.help none Subcommand.combinedUsage),
            [.dispatching (Subcommand.selector arguments)], []⟩) ∧
    kind (.help none Subcommand.combinedUsage) = "HELP" := by
  have hhelp {arguments : List String} (setting : Setting) (world : World)
      (h : ∀ text ∈ arguments.head?, ∀ command : Subcommand, ¬ command.WrittenAs text) :
      (ofArguments setting arguments).run world =
        ⟨.ok (.help none Subcommand.combinedUsage),
          [.dispatching (Subcommand.selector arguments)], []⟩ := by
    rw [ofArguments_of_not_selected (selected_eq_none_iff.mpr h)]
    rfl
  refine ⟨fun text command => ⟨writtenAs_of_selects, selects_of_writtenAs⟩,
    fun setting world arguments => ⟨fun h => ?_, fun h => ?_⟩,
    fun arguments h setting world => hhelp setting world h, rfl⟩
  · refine selected_eq_none_iff.mp ?_
    cases hselected : Subcommand.ofWord? (Subcommand.selector arguments) with
    | none => rfl
    | some command =>
      rw [ofArguments_of_selected setting hselected, Dialogue.outcome_bind, Dialogue.outcome_note,
        ok_bind] at h
      cases subcommand?_of_outcome h
  · rw [hhelp setting world h]

/-- A long s that selects a subcommand, and a ligature with the same letters in upper case that
    does not. -/
theorem selected_or_general_help_of_long_s :
    let setting : Setting := ⟨"home", .file "aliases"⟩
    let world : World := ⟨fun _ => .error .notFound, .error .closed⟩
    let ligature : List String := ["\uFB06ow", "-h"]
    Selects "\u017FhOw" .show ∧ ¬ Selects "\u017FhOw" .add ∧
      (∀ text ∈ ligature.head?, ∀ command : Subcommand, ¬ command.WrittenAs text) ∧
      Subcommand.selector ligature = "STOW" ∧
      (ofArguments setting ligature).run world =
        ⟨.ok (.help none Subcommand.combinedUsage), [.dispatching "STOW"], []⟩ ∧
      ((ofArguments setting []).run world).outcome =
        .ok (.help none Subcommand.combinedUsage) := by
  intro setting world ligature
  obtain ⟨hselects, hhelp, hrun, _⟩ := selected_or_general_help
  have hligature : ∀ text ∈ ligature.head?, ∀ command : Subcommand, ¬ command.WrittenAs text := by
    rintro text ⟨⟩ command
    cases command <;> decide
  have hselector : Subcommand.selector ligature = "STOW" := by decide +kernel
  refine ⟨(hselects _ _).mpr (by decide), fun h => absurd ((hselects _ _).mp h) (by decide),
    hligature, hselector, ?_, (hhelp setting world []).mpr fun _ hmem => nomatch hmem⟩
  rw [hrun ligature hligature setting world, hselector]

end Request

end Discovery
