import Discovery.Proofs.Dialogue
import Discovery.Proofs.Except
import Discovery.Service.Loading

namespace Discovery

theorem decodeText_toUTF8 (text : String) : decodeText text.toUTF8 = .ok text := by
  have hvalid : text.toUTF8.IsValidUTF8 := text.isValidUTF8
  rw [decodeText, String.fromUTF8?, dif_pos hvalid]
  rfl

theorem decodeText_of_not_isValidUTF8 {bytes : ByteArray} (h : ¬ bytes.IsValidUTF8) :
    decodeText bytes = .error .notText := by
  rw [decodeText, String.fromUTF8?, dif_neg h]

namespace Source

variable (world : World) (source : Source)

/-- The text at a source in a world, or why there is none. -/
def textIn (world : World) : Source → Except Failure String
  | file path => ((world.file path).bind decodeText).mapError (.unreadableFile path)
  | standardInput => (world.standardInput.bind decodeText).mapError .unreadableStandardInput
  | literal text => .ok text

theorem outcome_text : (source.text.run world).outcome = source.textIn world := by
  cases source with
  | file path =>
    rw [text, Dialogue.outcome_bind, Dialogue.outcome_readText, ok_bind, textIn, World.answer]
    cases (world.file path).bind decodeText <;> rfl
  | standardInput =>
    rw [text, Dialogue.outcome_bind, Dialogue.outcome_readText, ok_bind, textIn, World.answer]
    cases world.standardInput.bind decodeText <;> rfl
  | literal text => rfl

theorem outcome_load : (source.load.run world).outcome = source.textIn world >>= source.parse := by
  rw [load, Dialogue.outcome_bind, outcome_text]
  simp only [Dialogue.outcome_ofExcept]

/-- What is asked for where a document comes from. -/
def inputs : Source → List Input
  | file path => [.file path]
  | standardInput => [.standard]
  | literal _ => []

theorem inputs_text : (source.text.run world).inputs = source.inputs := by
  cases source with
  | file path =>
    rw [text, Dialogue.inputs_bind, Dialogue.outcome_readText]
    cases (world.answer (.file path)).bind decodeText <;> rfl
  | standardInput =>
    rw [text, Dialogue.inputs_bind, Dialogue.outcome_readText]
    cases (world.answer .standard).bind decodeText <;> rfl
  | literal text => rfl

theorem inputs_load : (source.load.run world).inputs = source.inputs := by
  rw [load, Dialogue.inputs_bind, inputs_text]
  cases (source.text.run world).outcome <;> simp

theorem warnings_text : (source.text.run world).warnings = [] := by
  cases source with
  | file path =>
    rw [text, Dialogue.warnings_bind, Dialogue.outcome_readText]
    cases (world.answer (.file path)).bind decodeText <;> rfl
  | standardInput =>
    rw [text, Dialogue.warnings_bind, Dialogue.outcome_readText]
    cases (world.answer .standard).bind decodeText <;> rfl
  | literal text => rfl

theorem warnings_load : (source.load.run world).warnings = [] := by
  rw [load, Dialogue.warnings_bind, warnings_text]
  cases (source.text.run world).outcome <;> simp

variable {world source} {text : String} {d : Json}

theorem outcome_load_of_text (h : (source.text.run world).outcome = .ok text) :
    (source.load.run world).outcome = source.parse text := by
  rw [outcome_load, ← outcome_text, h, ok_bind]

theorem parse_of_read (h : Json.read text.toList = .ok d) : source.parse text = .ok d := by
  rw [parse, h]

theorem parse_of_error {error : Json.Error} (h : Json.read text.toList = .error error) :
    source.parse text = .error (.malformedDocument source.origin error) := by
  rw [parse, h]

theorem parse_eq_ok_iff : source.parse text = .ok d ↔ Json.read text.toList = .ok d := by
  cases hread : Json.read text.toList with
  | ok document => simp [parse_of_read hread]
  | error error => simp [parse_of_error hread]

/-- Why a document cannot be loaded: its source cannot be read, or the text there is none. -/
theorem failure_of_load {failure : Failure} (h : (source.load.run world).outcome = .error failure) :
    (∃ path fault, failure = .unreadableFile path fault) ∨
      (∃ fault, failure = .unreadableStandardInput fault) ∨
      ∃ origin error, failure = .malformedDocument origin error := by
  rw [outcome_load] at h
  obtain htext | ⟨text, _, hparse⟩ := bind_eq_error_iff.mp h
  · cases source with
    | file path =>
      obtain ⟨fault, _, heq⟩ := mapError_eq_error_iff.mp htext
      exact Or.inl ⟨path, fault, heq.symm⟩
    | standardInput =>
      obtain ⟨fault, _, heq⟩ := mapError_eq_error_iff.mp htext
      exact Or.inr (Or.inl ⟨fault, heq.symm⟩)
    | literal text => cases htext
  · cases hread : Json.read text.toList with
    | ok document => simp [parse_of_read hread] at hparse
    | error error =>
      rw [parse_of_error hread] at hparse
      exact Or.inr (Or.inr ⟨source.origin, error, (Except.error.inj hparse).symm⟩)

/-- The document at a source is one that the reader accepted. -/
theorem exists_read_of_load (h : (source.load.run world).outcome = .ok d) :
    ∃ text : String, Json.read text.toList = .ok d := by
  rw [outcome_load] at h
  obtain ⟨text, _, hparse⟩ := bind_eq_ok_iff.mp h
  exact ⟨text, parse_eq_ok_iff.mp hparse⟩

end Source

end Discovery
