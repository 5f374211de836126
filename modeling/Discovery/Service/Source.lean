import Discovery.Path
import Discovery.Text.Quoted

namespace Discovery

/-- The place of a document. -/
inductive Source where
  | file (path : String)
  | standardInput
  | literal (text : String)
  deriving Repr, DecidableEq

namespace Source

/-- The value that stands for the standard input. -/
def standardInputMark : String :=
  "-"

/-- The source that the values of the two document flags name. A file wins over a text. -/
def ofFlags? (home? : Option String) (document? documentFile? : Option String) : Option Source :=
  match documentFile?, document? with
  | some path, _ =>
    some (if path = standardInputMark then .standardInput else .file (expandHome home? path))
  | none, some text => some (if text = standardInputMark then .standardInput else .literal text)
  | none, none => none

/-- What messages call a source. -/
def origin : Source → String
  | file path => path
  | standardInput => "standard input"
  | literal _ => "--JSON"

/-- What log lines call a source. -/
def description : Source → String
  | file path => "File(" ++ Text.quoted path ++ ")"
  | standardInput => "Stdin"
  | literal text => "Literal(" ++ Text.quoted text ++ ")"

end Source

end Discovery
