import Discovery.Input
import Discovery.Request.Basic
import Discovery.Service.Source
import Discovery.Text.Quoted

namespace Discovery

/-- How grave an event is. -/
inductive Severity where
  | debug
  | warning
  deriving Repr, DecidableEq

namespace Severity

/-- What log lines call a severity. Labels are aligned at their ends. -/
def label : Severity → String
  | debug => "DEBUG"
  | warning => " WARN"

/-- The style of a label in colours: blue or yellow. -/
def style : Severity → String
  | debug => "34"
  | warning => "33"

end Severity

/-- What happens while a command line is interpreted. -/
inductive Event where
  /-- a subcommand is looked for -/
  | dispatching (selector : String)
  | aliasesLoaded (path : String) (count : Nat)
  | aliasesUnreadable (path : String) (fault : ReadFault)
  /-- a target is an alias -/
  | aliasResolved (target hosts : String)
  /-- flags that describe a service stand beside a document -/
  | fieldsIgnored
  | documentLoading (source : Source)
  /-- the value of a property flag holds no property -/
  | propertyIgnored (text : String)
  | requestReady (command : String) (output : OutputMode)
  deriving Repr, DecidableEq

namespace Event

/-- How grave an event is. Only what takes effect against the wording of the command is a
    warning. -/
def severity : Event → Severity
  | fieldsIgnored => .warning
  | _ => .debug

/-- The sentence of an event. -/
def message : Event → String
  | dispatching _ => "dispatching command"
  | aliasesLoaded .. => "loaded alias file"
  | aliasesUnreadable .. => "alias file not readable, using no aliases"
  | aliasResolved .. => "resolved alias"
  | fieldsIgnored =>
    "raw JSON service definition given, ignoring environment/type/pool/location flags"
  | documentLoading _ => "loading raw JSON service definition"
  | propertyIgnored _ => "ignoring property not in key=value form"
  | requestReady .. => "request ready for transport"

/-- The details of an event. Only the texts of an alias and of a source are quoted. -/
def details : Event → List (String × String)
  | dispatching selector => [("command", selector)]
  | aliasesLoaded path count => [("path", path), ("aliases", toString count)]
  | aliasesUnreadable path fault => [("path", path), ("error", fault.message)]
  | aliasResolved target hosts => [("alias", Text.quoted target), ("hosts", Text.quoted hosts)]
  | fieldsIgnored => []
  | documentLoading source => [("source", source.description)]
  | propertyIgnored text => [("property", text)]
  | requestReady command output => [("command", command), ("output", output.word)]

/-- The part of the program in which an event happens. -/
def place : Event → String
  | dispatching _ => "discovery_cli::command"
  | aliasesLoaded .. => "discovery_cli::hosts"
  | aliasesUnreadable .. => "discovery_cli::hosts"
  | aliasResolved .. => "discovery_cli::hosts"
  | fieldsIgnored => "discovery_cli::command"
  | documentLoading _ => "discovery_cli::command"
  | propertyIgnored _ => "discovery_cli::payload"
  | requestReady .. => "discovery::cli"

/-- A text in the style with a given number, where a terminal shows styles. -/
def styled (coloured : Bool) (style text : String) : String :=
  if coloured then "\x1b[" ++ style ++ "m" ++ text ++ "\x1b[0m" else text

/-- The line of an event at a given time. In colours the time is faint, and so are the equals signs
    behind the names of the details, which are slanted. -/
def line (coloured : Bool) (time : String) (event : Event) : String :=
  styled coloured "2" time ++ " " ++
    styled coloured event.severity.style event.severity.label ++ " " ++ event.message ++
    String.join (event.details.map fun (name, value) =>
      " " ++ styled coloured "3" name ++ styled coloured "2" "=" ++ value) ++ "\n"

end Event

end Discovery
