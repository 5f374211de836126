import Discovery.Log.Event
import Discovery.Text.Case

namespace Discovery

/-- The levels at which a log can be kept, from nothing at all to everything. -/
inductive Verbosity where
  | off
  | error
  | warn
  | info
  | debug
  | trace
  deriving Repr, DecidableEq

namespace Verbosity

/-- The name of a level. -/
def name : Verbosity → String
  | off => "off"
  | error => "error"
  | warn => "warn"
  | info => "info"
  | debug => "debug"
  | trace => "trace"

/-- All levels, each of them with more in the log than the ones before it. -/
def all : List Verbosity :=
  [off, error, warn, info, debug, trace]

/-- The level with a given name, in any case. -/
def ofName? (text : String) : Option Verbosity :=
  all.find? fun level => Text.equalIgnoringCase text level.name

/-- The level with a given number, which may have a sign and zeros in front. -/
def ofNumber? (text : List Char) : Option Verbosity :=
  let digits := match text with
    | '+' :: rest => rest
    | _ => text
  if digits.isEmpty || !digits.all Char.isDigit then none
  else all[digits.foldl (fun n c => 10 * n + (c.toNat - 48)) 0]?

/-- The level that a text asks for. -/
def ofText? (text : List Char) : Option Verbosity :=
  (ofNumber? text).or (ofName? (String.ofList text))

/-- Whether events of a severity are written. -/
def admits (verbosity : Verbosity) (severity : Severity) : Bool :=
  match verbosity, severity with
  | off, _ => false
  | error, _ => false
  | warn, severity => severity = .warning
  | info, severity => severity = .warning
  | debug, _ => true
  | trace, _ => true

end Verbosity

end Discovery
