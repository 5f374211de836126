import Discovery.Dialogue.Basic
import Discovery.Failure
import Discovery.Json.Reader
import Discovery.Service.Source

namespace Discovery.Source

/-- The text at a source. -/
def text : Source → Dialogue Failure String
  | file path => do
    match ← Dialogue.readText (.file path) with
    | .ok text => pure text
    | .error fault => .fail (.unreadableFile path fault)
  | standardInput => do
    match ← Dialogue.readText .standard with
    | .ok text => pure text
    | .error fault => .fail (.unreadableStandardInput fault)
  | literal text => pure text

/-- The document that a text from a source holds. -/
def parse (source : Source) (text : String) : Except Failure Json :=
  match Json.read text.toList with
  | .ok document => .ok document
  | .error error => .error (.malformedDocument source.origin error)

/-- The document at a source. -/
def load (source : Source) : Dialogue Failure Json := do
  let text ← source.text
  Dialogue.ofExcept (source.parse text)

end Discovery.Source
