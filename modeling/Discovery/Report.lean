import Discovery.Dialogue.Trace
import Discovery.Environment
import Discovery.Request.Interpretation

namespace Discovery

/-- A failure as it is shown at the end of a run. Its cause and the calls that led to it, if they are
    asked for, stand in paragraphs of their own. -/
def Failure.report (failure : Failure) (stack? : Option String) : String :=
  let cause := match failure.cause? with
    | some cause => "\n\nCaused by:\n    " ++ cause
    | none => ""
  let calls := match stack? with
    | some stack => "\n\nStack backtrace:\n" ++ String.ofList (Text.trimEnd stack.toList)
    | none => ""
  "Error: " ++ failure.message ++ cause ++ calls ++ "\n"

/-- What a run leaves behind: an exit code, its output and what it wrote on the error stream, which
    holds the log and the message of a failure. -/
structure Report where
  code : UInt8
  output : String
  errors : String
  deriving Repr, DecidableEq

namespace Report

/-- The log of a run in which every event happens at the same time. -/
def log (time : String) (display : Display) (events : List Event) : String :=
  String.join ((events.filter display.filter.admits).map (Event.line display.coloured time))

/-- The end of a run: the exit code, the output and the message of a failure. -/
def ofOutcome (stack? : Option String) : Except Failure String → Report
  | .ok output => ⟨0, output, ""⟩
  | .error failure => ⟨1, "", failure.report stack?⟩

/-- The report of a trace. -/
def ofTrace (time : String) (display : Display) (trace : Trace Failure String) : Report :=
  let last := ofOutcome display.stack? trace.outcome
  { last with errors := log time display trace.events ++ last.errors }

/-- Runs the program in a given world. -/
def ofArguments (time : String) (display : Display) (world : World) (setting : Setting)
    (arguments : List String) : Report :=
  .ofTrace time display ((Request.answer setting arguments).run world)

/-- Runs the program for a user in a given world. -/
def ofEnvironment (time stack : String) (environment : Environment) (world : World)
    (arguments : List String) : Report :=
  .ofArguments time (environment.display stack) world environment.setting arguments

end Report

end Discovery
