import Discovery.Dialogue.Trace

namespace Discovery.Dialogue

variable {ε α β : Type} (world : World)

theorem outcome_bind (x : Dialogue ε α) (next : α → Dialogue ε β) :
    ((x >>= next).run world).outcome =
      (x.run world).outcome >>= fun a => ((next a).run world).outcome := by
  induction x with
  | done value => rfl
  | fail failure => rfl
  | log event rest ih => exact ih
  | ask input answer ih => exact ih _

/-- What comes second asks for its inputs behind those of what comes first, if it comes at all. -/
theorem inputs_bind (x : Dialogue ε α) (next : α → Dialogue ε β) :
    ((x >>= next).run world).inputs = (x.run world).inputs ++
      match (x.run world).outcome with
      | .ok a => ((next a).run world).inputs
      | .error _ => [] := by
  induction x with
  | done value => rfl
  | fail failure => rfl
  | log event rest ih => exact ih
  | ask input answer ih => exact congrArg (List.cons input) (ih _)

theorem events_bind (x : Dialogue ε α) (next : α → Dialogue ε β) :
    ((x >>= next).run world).events = (x.run world).events ++
      match (x.run world).outcome with
      | .ok a => ((next a).run world).events
      | .error _ => [] := by
  induction x with
  | done value => rfl
  | fail failure => rfl
  | log event rest ih => exact congrArg (List.cons event) ih
  | ask input answer ih => exact ih _

theorem warnings_bind (x : Dialogue ε α) (next : α → Dialogue ε β) :
    ((x >>= next).run world).warnings = (x.run world).warnings ++
      match (x.run world).outcome with
      | .ok a => ((next a).run world).warnings
      | .error _ => [] := by
  rw [Trace.warnings, events_bind, List.filter_append]
  cases (x.run world).outcome <;> rfl

/-- Worlds that agree on what is asked for in one of them lead to the same trace. -/
theorem run_congr {x : Dialogue ε α} {world other : World}
    (h : ∀ input ∈ (x.run world).inputs, other.answer input = world.answer input) :
    x.run other = x.run world := by
  induction x with
  | done value => rfl
  | fail failure => rfl
  | log event rest ih => rw [run, run, ih h]
  | ask input answer ih =>
    obtain ⟨hanswer, hrest⟩ := List.forall_mem_cons.mp h
    rw [run, run, hanswer, ih _ hrest]

@[simp] theorem outcome_pure (value : α) :
    ((pure value : Dialogue ε α).run world).outcome = .ok value :=
  rfl

@[simp] theorem outcome_note (event : Event) :
    ((note event : Dialogue ε Unit).run world).outcome = .ok () :=
  rfl

@[simp] theorem outcome_notes (events : List Event) :
    ((notes events : Dialogue ε Unit).run world).outcome = .ok () := by
  induction events with
  | nil => rfl
  | cons event events ih => exact ih

@[simp] theorem outcome_ofExcept (x : Except ε α) : ((ofExcept x).run world).outcome = x := by
  cases x <;> rfl

@[simp] theorem outcome_readText (input : Input) :
    ((readText input : Dialogue ε _).run world).outcome =
      .ok ((world.answer input).bind decodeText) :=
  rfl

@[simp] theorem inputs_pure (value : α) :
    ((pure value : Dialogue ε α).run world).inputs = [] :=
  rfl

@[simp] theorem inputs_notes (events : List Event) :
    ((notes events : Dialogue ε Unit).run world).inputs = [] := by
  induction events with
  | nil => rfl
  | cons event events ih => exact ih

@[simp] theorem inputs_ofExcept (x : Except ε α) : ((ofExcept x).run world).inputs = [] := by
  cases x <;> rfl

@[simp] theorem warnings_notes (events : List Event) :
    ((notes events : Dialogue ε Unit).run world).warnings =
      events.filter fun event => event.severity = .warning := by
  have hevents : ((notes events : Dialogue ε Unit).run world).events = events := by
    induction events with
    | nil => rfl
    | cons event events ih => exact congrArg (List.cons event) ih
  rw [Trace.warnings, hevents]

@[simp] theorem warnings_ofExcept (x : Except ε α) : ((ofExcept x).run world).warnings = [] := by
  cases x <;> rfl

end Discovery.Dialogue
