import Discovery.Flag.Basic
import Discovery.Flag.Token
import Discovery.Text.Case

namespace Discovery

/-- Why a flag cannot be taken as it is given. -/
inductive Misuse where
  /-- nothing that could be its value follows -/
  | missingValue (flag : Flag)
  /-- the value is none of its choices -/
  | notAChoice (flag : Flag) (value : String)
  /-- the help flag has a value -/
  | helpValue (value : String)
  deriving Repr, DecidableEq

/-- The wording of a misuse. -/
def Misuse.message : Misuse → String
  | missingValue flag => "missing value for " ++ flag.spelling
  | notAChoice flag value =>
    "'" ++ value ++ "' is not valid for " ++ flag.spelling ++ " (expected one of: " ++
      ", ".intercalate flag.choices ++ ")"
  | helpValue value =>
    if value = "" then "unexpected value for an argument found: --help"
    else "'" ++ value ++ "' is not valid for --help"

/-- Judges a value. An empty value of a flag with choices counts as none. -/
def Flag.check (flag : Flag) (value : String) : Except Misuse Unit :=
  if flag.choices = [] ∨ flag.choices.any (Text.equalIgnoringCase value) then .ok ()
  else if value = "" then .error (.missingValue flag)
  else .error (.notAChoice flag value)

/-- A flag with a value that has been judged. -/
structure Occurrence where
  flag : Flag
  value : String
  deriving Repr, DecidableEq

/-- The flags and the other arguments that have been found, each in order. -/
structure Scan where
  occurrences : List Occurrence
  extra : List String
  deriving Repr, DecidableEq

namespace Scan

/-- The values of a flag. -/
def all (scan : Scan) (flag : Flag) : List String :=
  (scan.occurrences.filter fun o => o.flag = flag).map Occurrence.value

/-- The value that counts when a flag is given more than once. -/
def last? (scan : Scan) (flag : Flag) : Option String :=
  (scan.all flag).getLast?

/-- Whether a flag is given. -/
def has (scan : Scan) (flag : Flag) : Bool :=
  scan.occurrences.any fun o => o.flag = flag

/-- Whether one of the flags is given that describe a service without a document, properties
    apart. -/
def hasFields (scan : Scan) : Bool :=
  scan.has .environment || scan.has .serviceType || scan.has .pool || scan.has .location

end Scan

/-- Why a scan ends before the last argument. -/
inductive Stop where
  /-- help is asked for -/
  | help
  /-- a flag that the subcommand does not have -/
  | unknown (flag : String)
  | misuse (reason : Misuse)
  deriving Repr, DecidableEq

/-- A flag whose value stands in an argument of its own. Such a value is judged when the next known
    flag or operand comes, or at the end, so a flag that is unknown is reported before a faulty value
    in front of it. -/
inductive Pending where
  /-- no such flag -/
  | none
  /-- the value is expected next -/
  | awaiting (flag : Flag)
  /-- the value has been seen and not yet been judged -/
  | given (flag : Flag) (value : String)
  deriving Repr, DecidableEq

/-- A scan in progress. After two hyphens alone nothing is a flag any more. -/
structure Scanner where
  found : Scan
  pending : Pending
  flagsEnded : Bool
  deriving Repr, DecidableEq

namespace Scanner

/-- Nothing has been found yet. -/
def start : Scanner :=
  ⟨⟨[], []⟩, .none, false⟩

/-- Judges a value and keeps it. -/
def keep (s : Scanner) (flag : Flag) (value : String) : Except Stop Scanner :=
  match flag.check value with
  | .ok () =>
    .ok { s with
      found := { s.found with occurrences := s.found.occurrences ++ [⟨flag, value⟩] }
      pending := .none }
  | .error reason => .error (.misuse reason)

/-- Judges the pending value, if there is one. -/
def settle (s : Scanner) : Except Stop Scanner :=
  match s.pending with
  | .none => .ok s
  | .awaiting flag => .error (.misuse (.missingValue flag))
  | .given flag value => s.keep flag value

/-- A flag of the subcommand, with the value that stands in the same argument if there is one. -/
def takeFlag (s : Scanner) (flag : Flag) (value? : Option String) : Except Stop Scanner := do
  let s ← s.settle
  match value? with
  | none => .ok { s with pending := .awaiting flag }
  | some value => s.keep flag value

/-- Help is asked for, unless the pending value is faulty. -/
def takeHelp (s : Scanner) : Except Stop Scanner := do
  let _ ← s.settle
  .error .help

/-- An argument that is no flag and no value of one. -/
def takeExtra (s : Scanner) (argument : String) : Except Stop Scanner := do
  let s ← s.settle
  .ok { s with found := { s.found with extra := s.found.extra ++ [argument] } }

/-- A name behind two hyphens. -/
def takeLong (flags : List Flag) (s : Scanner) (name : String) (value? : Option String) :
    Except Stop Scanner :=
  if name = "help" then
    match value? with
    | none => s.takeHelp
    | some value => .error (.misuse (.helpValue value))
  else
    match flags.find? fun flag => flag.name? = some name with
    | some flag => s.takeFlag flag value?
    | none => .error (.unknown ("--" ++ name))

/-- A letter behind one hyphen. What follows the letter of the help flag does not count. -/
def takeShort (flags : List Flag) (s : Scanner) (letter : Char) (rest : List Char) :
    Except Stop Scanner :=
  if letter = 'h' then s.takeHelp
  else
    match flags.find? fun flag => flag.letter = letter with
    | some flag => s.takeFlag flag (Token.attached? rest)
    | none => .error (.unknown (String.ofList ['-', letter]))

/-- An argument whose look has not yet been considered. -/
def takeToken (flags : List Flag) (s : Scanner) (argument : String) : Except Stop Scanner :=
  match Token.ofArgument argument with
  | .separator => .ok { s with flagsEnded := true }
  | .long name value? => s.takeLong flags name value?
  | .short letter rest => s.takeShort flags letter rest
  | .operand =>
    match s.pending with
    | .awaiting flag => .ok { s with pending := .given flag argument }
    | _ => s.takeExtra argument

/-- One more argument. -/
def step (flags : List Flag) (s : Scanner) (argument : String) : Except Stop Scanner :=
  if s.flagsEnded then s.takeExtra argument
  else
    match s.pending with
    | .awaiting flag =>
      if flag.takesAnything then .ok { s with pending := .given flag argument }
      else s.takeToken flags argument
    | _ => s.takeToken flags argument

/-- All remaining arguments. -/
def run (flags : List Flag) (s : Scanner) : List String → Except Stop Scanner
  | [] => .ok s
  | argument :: rest => do
    let s ← s.step flags argument
    s.run flags rest

end Scanner

/-- Scans arguments for the given flags. -/
def Scan.ofArguments (flags : List Flag) (arguments : List String) : Except Stop Scan := do
  let s ← Scanner.start.run flags arguments
  let s ← s.settle
  .ok s.found

end Discovery
