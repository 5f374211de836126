import Discovery.Json.Printer
import Discovery.Request.Basic
import Discovery.Text.Blank

namespace Discovery.Request

/-- The word for what a request belongs to. -/
def kind (request : Request) : String :=
  match request.subcommand? with
  | some command => command.word
  | none => "HELP"

/-- The hosts of a request as a document. -/
def hostsJson (hosts : Hosts) : Json :=
  .ofStrings hosts.entries

/-- The plan of a request. -/
def plan : Request → Json
  | add hosts output definition =>
    .object [("command", .string "ADD"), ("hosts", hostsJson hosts),
      ("output", .string output.word), ("definition", definition.toJson)]
  | .show hosts output =>
    .object [("command", .string "SHOW"), ("hosts", hostsJson hosts),
      ("output", .string output.word)]
  | delete hosts identifier =>
    .object [("command", .string "DELETE"), ("hosts", hostsJson hosts),
      ("id", .string identifier)]
  | help topic? text =>
    .object [("command", .string "HELP"), ("topic", .string (kind (help topic? text))),
      ("text", .string text)]

/-- What is printed for a request: the help text without white space at its end, or the plan laid
    out for people. -/
def printed (request : Request) : String :=
  match request.helpText? with
  | some text => String.ofList (Text.trimEnd text.toList) ++ "\n"
  | none => request.plan.print .pretty ++ "\n"

end Discovery.Request
