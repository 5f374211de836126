import Discovery.Flag.Usage
import Discovery.Service.Definition
import Discovery.Target.Hosts
import Discovery.Text.Case

namespace Discovery

/-- How a server shall report the result of a request. -/
inductive OutputMode where
  | json
  | id
  deriving Repr, DecidableEq

namespace OutputMode

/-- The word for an output mode. -/
def word : OutputMode → String
  | json => "JSON"
  | id => "ID"

/-- The output mode that a value names. A scan keeps no value that names none, so only a missing
    flag leads to the default. -/
def ofValue : Option String → OutputMode
  | some value => if Text.equalIgnoringCase value id.word then id else json
  | none => json

end OutputMode

/-- What a command line asks for. -/
inductive Request where
  | add (hosts : Hosts) (output : OutputMode) (definition : Definition)
  | «show» (hosts : Hosts) (output : OutputMode)
  | delete (hosts : Hosts) (identifier : String)
  /-- help on one subcommand or on all of them -/
  | help (topic? : Option Subcommand) (text : String)

/-- Help on one subcommand. -/
def Subcommand.help (command : Subcommand) : Request :=
  .help (some command) command.usage

namespace Request

/-- The subcommand that a request belongs to; general help belongs to none. -/
def subcommand? : Request → Option Subcommand
  | add .. => some .add
  | .show .. => some .show
  | delete .. => some .delete
  | help topic? _ => topic?

/-- The hosts that a request goes to. -/
def hosts? : Request → Option Hosts
  | add hosts _ _ => some hosts
  | .show hosts _ => some hosts
  | delete hosts _ => some hosts
  | help .. => none

/-- The output mode of a request, where nothing else was asked for the default. -/
def output : Request → OutputMode
  | add _ output _ => output
  | .show _ output => output
  | _ => .json

/-- The definition in a request. -/
def definition? : Request → Option Definition
  | add _ _ definition => some definition
  | _ => none

/-- The text of a help request. -/
def helpText? : Request → Option String
  | help _ text => some text
  | _ => none

end Request

end Discovery
