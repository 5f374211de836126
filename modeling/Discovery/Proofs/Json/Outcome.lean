import Discovery.Json.Reader

namespace Discovery.Json

namespace State

/-- The document that the rest of a text leads to, or why there is none. -/
def outcome (s : State) (text : List Char) : Except FaultCode Json :=
  match s.run text with
  | .ok t => t.finish
  | .error (fault, _) => .error fault.code

variable {s t : State}

theorem outcome_cons (s : State) (c : Char) (rest : List Char) :
    s.outcome (c :: rest) = match s.step c with
      | .ok t => t.outcome rest
      | .error fault => .error fault.code := by
  rw [outcome, run]
  cases s.step c <;> rfl

theorem outcome_cons_of_step {c : Char} (h : s.step c = .ok t) (rest : List Char) :
    s.outcome (c :: rest) = t.outcome rest := by
  rw [outcome_cons, h]

theorem outcome_of_run {text rest : List Char} (h : s.run text = t.run rest) :
    s.outcome text = t.outcome rest := by
  rw [outcome, h, outcome]

/-- A text with a document in the end goes on after its first character. -/
theorem exists_step_of_outcome {c : Char} {rest : List Char} {d : Json}
    (h : s.outcome (c :: rest) = .ok d) : ∃ t, s.step c = .ok t ∧ t.outcome rest = .ok d := by
  rw [outcome_cons] at h
  split at h
  next t hstep => exact ⟨t, hstep, h⟩
  next => cases h

end State

theorem read_eq_ok_iff {text : List Char} {d : Json} :
    read text = .ok d ↔ State.start.outcome text = .ok d := by
  rw [read, State.outcome]
  cases State.start.run text with
  | error fault => simp
  | ok s =>
    simp only
    cases s.finish <;> simp

theorem exists_error_of_outcome {text : List Char} {code : FaultCode}
    (h : State.start.outcome text = .error code) :
    ∃ error, read text = .error error ∧ error.code = code := by
  rw [State.outcome] at h
  rw [read]
  split at h
  next s hrun =>
    rw [hrun]
    simp only [h]
    exact ⟨_, rfl, rfl⟩
  next fault rest hrun =>
    obtain rfl := Except.error.inj h
    rw [hrun]
    exact ⟨_, rfl, rfl⟩

end Discovery.Json
