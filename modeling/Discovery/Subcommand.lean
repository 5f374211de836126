import Discovery.Text.Upper

namespace Discovery

/-- What is asked of a server. -/
inductive Subcommand where
  | add
  | «show»
  | delete
  deriving Repr, DecidableEq

namespace Subcommand

/-- The word for a subcommand in a plan. -/
def word : Subcommand → String
  | .add => "ADD"
  | .show => "SHOW"
  | .delete => "DELETE"

/-- The name of a subcommand in a log line. -/
def name : Subcommand → String
  | .add => "Add"
  | .show => "Show"
  | .delete => "Delete"

/-- The subcommand with a given word. -/
def ofWord? (word : String) : Option Subcommand :=
  [add, .show, delete].find? fun c => c.word = word

/-- The first argument in upper case. An empty command line counts as a word that selects
    nothing. -/
def selector : List String → String
  | [] => "?"
  | argument :: _ => String.ofList (Text.upper argument.toList)

end Subcommand

end Discovery
