import Discovery.Dialogue.Basic

namespace Discovery

/-- The contents of all files and of the standard input, or why they cannot be read. -/
structure World where
  file : String → Except ReadFault ByteArray
  standardInput : Except ReadFault ByteArray

/-- The answer of a world. -/
def World.answer (world : World) : Input → Except ReadFault ByteArray
  | .file path => world.file path
  | .standard => world.standardInput

/-- What a dialogue did. -/
structure Trace (ε α : Type) where
  outcome : Except ε α
  events : List Event
  inputs : List Input

namespace Trace

variable {ε α : Type}

/-- Whether the standard input was asked for. -/
def readsStandardInput (trace : Trace ε α) : Bool :=
  trace.inputs.contains .standard

/-- The events that are warnings. -/
def warnings (trace : Trace ε α) : List Event :=
  trace.events.filter fun event => event.severity = .warning

end Trace

/-- Runs a dialogue in a world. -/
def Dialogue.run {ε α : Type} (world : World) : Dialogue ε α → Trace ε α
  | done value => ⟨.ok value, [], []⟩
  | fail failure => ⟨.error failure, [], []⟩
  | log event next =>
    let trace := next.run world
    { trace with events := event :: trace.events }
  | ask input next =>
    let trace := (next (world.answer input)).run world
    { trace with inputs := input :: trace.inputs }

end Discovery
