import Discovery.Subcommand

namespace Discovery

/-- A flag. -/
inductive Flag where
  | output
  | environment
  | serviceType
  | pool
  | location
  | property
  | document
  | documentFile
  deriving Repr, DecidableEq

namespace Flag

/-- The letter that follows a single hyphen. -/
def letter : Flag → Char
  | .output => 'o'
  | .environment => 'e'
  | .serviceType => 't'
  | .pool => 'p'
  | .location => 'l'
  | .property => 'D'
  | .document => 'j'
  | .documentFile => 'f'

/-- The name that follows two hyphens. Properties have none. -/
def name? : Flag → Option String
  | .output => some "output"
  | .environment => some "environment"
  | .serviceType => some "type"
  | .pool => some "pool"
  | .location => some "location"
  | .property => none
  | .document => some "JSON"
  | .documentFile => some "JSONFile"

/-- What the help text calls the value of a flag. -/
def placeholder : Flag → String
  | .output => "FMT"
  | .environment => "ENVIRONMENT"
  | .serviceType => "TYPE"
  | .pool => "POOL"
  | .location => "LOCATION"
  | .property => "KEY=VALUE"
  | .document => "JSON"
  | .documentFile => "JSONFILE"

/-- What the help text says about a flag. -/
def purpose : Flag → String
  | .output => "Output option: format JSON or ID"
  | .environment => "Service definition: environment"
  | .serviceType => "Service definition: type"
  | .pool => "Service definition: pool"
  | .location => "Service definition: location"
  | .property => "Sets a service property"
  | .document => "Service definition: entire raw JSON data, or '-' for stdin"
  | .documentFile => "Service definition: file holding the raw JSON data, or '-' for stdin"

/-- The only values of a flag, in any case; most flags take every value. -/
def choices : Flag → List String
  | .output => ["JSON", "ID"]
  | _ => []

/-- Whether the argument after a flag is its value whatever it looks like. The other flags do not
    take an argument that looks like a flag. -/
def takesAnything : Flag → Bool
  | .document => true
  | .documentFile => true
  | _ => false

/-- A flag with its value as messages show it. The name is preferred to the letter. -/
def spelling (flag : Flag) : String :=
  let mark := match flag.name? with
    | some name => "--" ++ name
    | none => "-" ++ String.singleton flag.letter
  mark ++ " <" ++ flag.placeholder ++ ">"

end Flag

/-- The flags of a subcommand, in the order of its help text. -/
def Subcommand.flags : Subcommand → List Flag
  | .add =>
    [.output, .environment, .serviceType, .pool, .location, .property, .document, .documentFile]
  | .show => [.output]
  | .delete => []

end Discovery
