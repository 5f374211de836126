import Discovery.Text.Split

namespace Discovery

/-- What an argument looks like. -/
inductive Token where
  /-- two hyphens -/
  | separator
  /-- two hyphens and a name, with a value if an equals sign follows -/
  | long (name : String) (value? : Option String)
  /-- a hyphen and a letter, with whatever follows -/
  | short (letter : Char) (rest : List Char)
  /-- no flag -/
  | operand
  deriving Repr, DecidableEq

namespace Token

/-- What an argument looks like. A name ends before the first equals sign. -/
def ofArgument (argument : String) : Token :=
  match argument.toList with
  | ['-', '-'] => .separator
  | '-' :: '-' :: text =>
    match Text.cut '=' text with
    | some (name, value) => .long (String.ofList name) (some (String.ofList value))
    | none => .long (String.ofList text) none
  | '-' :: letter :: rest => .short letter rest
  | _ => .operand

/-- The value behind a letter, without one equals sign before it. Nothing behind the letter is no
    value, but an equals sign alone is the empty one. -/
def attached? : List Char → Option String
  | [] => none
  | '=' :: value => some (String.ofList value)
  | value => some (String.ofList value)

/-- Whether an argument asks for help. -/
def isHelp (argument : String) : Bool :=
  argument = "-h" || argument = "--help"

/-- Whether an argument begins with a hyphen. Such an argument is never a target. -/
def beginsWithHyphen (argument : String) : Bool :=
  argument.toList.head? = some '-'

end Token

end Discovery
