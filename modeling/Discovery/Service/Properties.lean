import Discovery.Dictionary
import Discovery.Text.Split

namespace Discovery

/-- The properties of a service by key. -/
abbrev Properties := Dictionary String

namespace Properties

/-- The key and the value in a text. The key ends before the first equals sign and is not empty; the
    value may hold further ones. -/
def ofText? (text : String) : Option (String × String) :=
  match Text.cut '=' text.toList with
  | some (key, value) =>
    if key.isEmpty then none else some (String.ofList key, String.ofList value)
  | none => none

/-- The properties in a list of texts, of which later ones win. -/
def ofTexts (texts : List String) : Properties :=
  Dictionary.ofPairs (texts.filterMap ofText?)

/-- The texts in a list that hold no property. -/
def ignored (texts : List String) : List String :=
  texts.filter fun text => (ofText? text).isNone

end Properties

end Discovery
