import Discovery.Proofs.Flag.Scanner

namespace Discovery

/-- Whether a scan stops at the argument that it has come to, and not because of a value. -/
def Stop.AtOnce : Stop → Prop
  | .help => True
  | .unknown _ => True
  | .misuse _ => False

namespace Scanner

variable {flags : List Flag} {stop : Stop}

theorem run_append (s : Scanner) (front back : List String) :
    s.run flags (front ++ back) = s.run flags front >>= fun t => t.run flags back := by
  induction front generalizing s with
  | nil => rfl
  | cons argument front ih =>
    rw [List.cons_append, run, run]
    cases s.step flags argument with
    | error stop => rfl
    | ok next => exact ih next

theorem finish_append_of_run {s t : Scanner} {front : List String}
    (h : s.run flags front = .ok t) (back : List String) :
    s.finish flags (front ++ back) = t.finish flags back := by
  rw [finish, run_append, h, ok_bind]
  rfl

theorem not_atOnce_of_keep {s : Scanner} {flag : Flag} {value : String}
    (h : s.keep flag value = .error stop) : ¬ stop.AtOnce := by
  unfold keep at h
  split at h
  next => cases h
  next =>
    cases h
    exact id

theorem not_atOnce_of_settle {s : Scanner} (h : s.settle = .error stop) : ¬ stop.AtOnce := by
  unfold settle at h
  split at h
  next => cases h
  next =>
    cases h
    exact id
  next => exact not_atOnce_of_keep h

theorem not_atOnce_of_takeFlag {s : Scanner} {flag : Flag} {value? : Option String}
    (h : s.takeFlag flag value? = .error stop) : ¬ stop.AtOnce := by
  obtain hsettle | ⟨next, _, hkeep⟩ := bind_eq_error_iff.mp h
  · exact not_atOnce_of_settle hsettle
  · cases value? with
    | none => cases hkeep
    | some value => exact not_atOnce_of_keep hkeep

theorem not_atOnce_of_takeExtra {s : Scanner} {argument : String}
    (h : s.takeExtra argument = .error stop) : ¬ stop.AtOnce := by
  obtain hsettle | ⟨next, _, hnext⟩ := bind_eq_error_iff.mp h
  · exact not_atOnce_of_settle hsettle
  · cases hnext

/-- The arguments that stop a scan at once: the help flag and unknown flags. -/
theorem step_eq_error {s : Scanner} {argument : String}
    (h : s.step flags argument = .error stop) (hstop : stop.AtOnce) :
    ¬ IsOperand argument ∧ argument ≠ "--" ∧
      ((stop = .help ∧ Token.AsksForHelp argument) ∨
        (stop = .unknown (Token.flagName argument) ∧
          Flag.IsUnknown flags (Token.flagName argument))) := by
  have htake : s.takeToken flags argument = .error stop := by
    unfold step at h
    split at h
    next => exact absurd hstop (not_atOnce_of_takeExtra h)
    next =>
      split at h
      next =>
        split at h
        next => cases h
        next => exact h
      next => exact h
  by_cases hoperand : IsOperand argument
  · rw [takeToken, Token.ofArgument_of_isOperand hoperand] at htake
    simp only at htake
    split at htake
    next => cases htake
    next => exact absurd hstop (not_atOnce_of_takeExtra htake)
  · have hseparator : argument ≠ "--" := by
      rintro rfl
      cases htake
    refine ⟨hoperand, hseparator, ?_⟩
    obtain ⟨heq, _⟩ | ⟨flag, hmem, value?, hspelled⟩ | ⟨hhelp, hstep⟩ | ⟨value, _, hstep⟩ |
        ⟨hunknown, hstep⟩ := takeToken_of_not_isOperand hoperand flags
    · exact absurd heq hseparator
    · rw [takeToken_of_spelled hmem hspelled] at htake
      exact absurd hstop (not_atOnce_of_takeFlag htake)
    · rw [hstep] at htake
      obtain hsettle | ⟨_, _, hend⟩ := bind_eq_error_iff.mp htake
      · exact absurd hstop (not_atOnce_of_settle hsettle)
      · exact Or.inl ⟨(Except.error.inj hend).symm, hhelp⟩
    · rw [hstep] at htake
      cases htake
      exact hstop.elim
    · rw [hstep] at htake
      exact Or.inr ⟨(Except.error.inj htake).symm, hunknown⟩

/-- A run that stops does so at one of its arguments, having taken those in front of it. -/
theorem exists_step_of_run {s : Scanner} {arguments : List String}
    (h : s.run flags arguments = .error stop) :
    ∃ front argument back t, arguments = front ++ argument :: back ∧
      s.run flags front = .ok t ∧ t.step flags argument = .error stop := by
  induction arguments generalizing s with
  | nil => cases h
  | cons argument rest ih =>
    obtain hstep | ⟨next, hstep, hrest⟩ := bind_eq_error_iff.mp h
    · exact ⟨[], argument, rest, s, rfl, rfl, hstep⟩
    · obtain ⟨front, last, back, t, rfl, hfront, hlast⟩ := ih hrest
      refine ⟨argument :: front, last, back, t, rfl, ?_, hlast⟩
      rw [run, hstep]
      exact hfront

/-- The arguments up to the one that stops a run stop it whatever follows. -/
theorem finish_of_step {s t : Scanner} {front : List String} {argument : String}
    (hfront : s.run flags front = .ok t) (hstep : t.step flags argument = .error stop)
    (back : List String) : s.finish flags (front ++ argument :: back) = .error stop := by
  rw [finish_append_of_run hfront, finish_cons, hstep]
  rfl

/-- A run that takes all its arguments ends well or because of a value. -/
theorem not_atOnce_of_run {s t : Scanner} {arguments : List String}
    (hrun : s.run flags arguments = .ok t) (h : s.finish flags arguments = .error stop) :
    ¬ stop.AtOnce := by
  rw [← List.append_nil arguments, finish_append_of_run hrun] at h
  obtain hsettle | ⟨_, _, hend⟩ := bind_eq_error_iff.mp (show t.settle >>= _ = _ from h)
  · exact not_atOnce_of_settle hsettle
  · cases hend

/-- A scan that stops at once does so at one of its arguments. -/
theorem exists_step_of_finish {s : Scanner} {arguments : List String}
    (h : s.finish flags arguments = .error stop) (hstop : stop.AtOnce) :
    ∃ front argument back t, arguments = front ++ argument :: back ∧
      s.run flags front = .ok t ∧ t.step flags argument = .error stop := by
  cases hrun : s.run flags arguments with
  | ok t => exact absurd hstop (not_atOnce_of_run hrun h)
  | error other =>
    rw [finish, hrun] at h
    cases h
    exact exists_step_of_run hrun

end Scanner

namespace Scan

variable {flags : List Flag} {stop : Stop}

/-- A scan that stops at once is decided by the arguments up to the help flag or the unknown flag:
    they stop it in the same way whatever follows, and fewer of them do not stop it at once. -/
theorem exists_deciding_prefix {arguments : List String}
    (h : Scan.ofArguments flags arguments = .error stop) (hstop : stop.AtOnce) :
    ∃ front argument, front ++ [argument] <+: arguments ∧
      (∀ back, Scan.ofArguments flags (front ++ [argument] ++ back) = .error stop) ∧
      (∀ fewer, fewer <+: front → ∀ other, Scan.ofArguments flags fewer = .error other →
        ¬ other.AtOnce) ∧
      ¬ IsOperand argument ∧ argument ≠ "--" ∧
      ((stop = .help ∧ Token.AsksForHelp argument) ∨
        (stop = .unknown (Token.flagName argument) ∧
          Flag.IsUnknown flags (Token.flagName argument))) := by
  obtain ⟨front, argument, back, t, rfl, hfront, hstep⟩ := Scanner.exists_step_of_finish h hstop
  refine ⟨front, argument, ⟨back, by simp⟩, fun back => ?_, ?_, Scanner.step_eq_error hstep hstop⟩
  · rw [List.append_assoc]
    exact Scanner.finish_of_step hfront hstep back
  · rintro fewer ⟨others, rfl⟩ other hother
    rw [Scanner.run_append] at hfront
    obtain ⟨u, hfewer, _⟩ := bind_eq_ok_iff.mp hfront
    exact Scanner.not_atOnce_of_run hfewer hother

end Scan

end Discovery
