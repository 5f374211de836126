import Discovery.Flag.Basic

namespace Discovery

namespace Flag

/-- The first column of a flag. -/
def heading (flag : Flag) : String :=
  let name := match flag.name? with
    | some name => ", --" ++ name
    | none => ""
  "-" ++ String.singleton flag.letter ++ name ++ " <" ++ flag.placeholder ++ ">"

/-- The second column of a flag. -/
def explanation (flag : Flag) : String :=
  match flag.choices with
  | [] => flag.purpose
  | choices => flag.purpose ++ " [possible values: " ++ ", ".intercalate choices ++ "]"

end Flag

namespace Subcommand

/-- The sentence that opens a help text. -/
def purpose : Subcommand → String
  | .add => "Announce a static service to a discovery server"
  | .show => "Show the services registered on a discovery server"
  | .delete => "Remove a static service from a discovery server"

/-- The form of a command. -/
def synopsis : Subcommand → String
  | .add => "discovery add [alias|URL] [OPTIONS] SERVICE_DEFINITION"
  | .show => "discovery show [alias|URL] [OPTIONS]"
  | .delete => "discovery delete [alias|URL] IDENTIFIER"

/-- The rows of the table. Help can be asked of every subcommand. -/
def rows (command : Subcommand) : List (String × String) :=
  command.flags.map (fun flag => (flag.heading, flag.explanation)) ++ [("-h, --help", "Print help")]

/-- A row whose first column is `width` characters wide. -/
def row (width : Nat) : String × String → String
  | (heading, explanation) =>
    "  " ++ heading ++ String.ofList (List.replicate (width - heading.length) ' ') ++ "  " ++
      explanation ++ "\n"

/-- The help text of a subcommand. -/
def usage (command : Subcommand) : String :=
  let width := (command.rows.map fun (heading, _) => heading.length).foldl max 0
  command.purpose ++ "\n\nUsage: " ++ command.synopsis ++ "\n\nOptions:\n" ++
    String.join (command.rows.map (row width))

/-- The help text of all subcommands together. -/
def combinedUsage : String :=
  "\n".intercalate [usage .add, usage .show, usage .delete]

end Subcommand

end Discovery
