import Discovery.Dictionary
import Discovery.Text.Blank
import Discovery.Text.Split
import Discovery.Text.Word

namespace Discovery

/-- The hosts of each alias, as they are written. -/
abbrev Aliases := Dictionary String

namespace Aliases

/-- The alias of a line and its hosts. The line is cut at its first equals sign, and white space at
    the ends of either part does not count. -/
def ofLine? (line : List Char) : Option (String × String) :=
  match Text.cut '=' line with
  | none => none
  | some (before, after) =>
    if Text.isWord (Text.trim before) then
      some (String.ofList (Text.trim before), String.ofList (Text.trim after))
    else none

/-- The aliases of a text. A carriage return before a line feed is white space at the end of the
    hosts and so needs no rule of its own. -/
def ofText (text : String) : Aliases :=
  Dictionary.ofPairs ((Text.pieces '\n' text.toList).filterMap ofLine?)

end Aliases

end Discovery
