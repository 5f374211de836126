import Discovery.Flag.Scan
import Discovery.Input
import Discovery.Json.Fault

namespace Discovery

/-- Why a command line is no request. Failures of the form of a command carry the help text to be shown
    with them. -/
inductive Failure where
  | unknownFlag (flag usage : String)
  | invalidArgument (reason usage : String)
  | missingOption (option usage : String)
  | missingArgument (argument usage : String)
  | extraArguments (arguments : List String) (usage : String)
  /-- properties together with a document -/
  | conflictingInput (properties : List String) (usage : String)
  /-- a target that stands for no host -/
  | noHosts (target : String)
  | malformedDocument (origin : String) (error : Json.Error)
  | unreadableFile (path : String) (fault : ReadFault)
  | unreadableStandardInput (fault : ReadFault)
  deriving Repr, DecidableEq

namespace Failure

/-- One indented line an item. -/
def listing (items : List String) : String :=
  String.join (items.map fun item => "   " ++ item ++ "\n")

/-- The wording of a failure. -/
def message : Failure → String
  | unknownFlag flag usage => "invalid option: " ++ flag ++ "\n" ++ usage
  | invalidArgument reason usage => "invalid argument: " ++ reason ++ "\n" ++ usage
  | missingOption option usage => "missing argument --" ++ option ++ "\n" ++ usage
  | missingArgument argument usage => "missing " ++ argument ++ "\n" ++ usage
  | extraArguments arguments usage => "extra arguments:\n" ++ listing arguments ++ usage
  | conflictingInput properties usage =>
    "service properties cannot be combined with raw JSON input:\n" ++ listing properties ++ usage
  | noHosts target => "no hosts resolved from '" ++ target ++ "'"
  | malformedDocument origin _ => "malformed JSON from " ++ origin
  | unreadableFile path _ => "failed to read JSON file " ++ path
  | unreadableStandardInput _ => "failed to read JSON from standard input"

/-- The wording of what lies behind a failure. -/
def cause? : Failure → Option String
  | malformedDocument _ error => some error.message
  | unreadableFile _ fault => some fault.message
  | unreadableStandardInput fault => some fault.message
  | _ => none

end Failure

/-- The failure of a scan that stopped. Asking for help is none. -/
def Stop.failure? (usage : String) : Stop → Option Failure
  | .help => none
  | .unknown flag => some (.unknownFlag flag usage)
  | .misuse reason => some (.invalidArgument reason.message usage)

end Discovery
