import Discovery.Text.Blank
import Discovery.Text.Split

namespace Discovery

/-- The hosts in a text, in order. There may be none. -/
def hostEntries (text : String) : List String :=
  (((Text.pieces ',' text.toList).map Text.trim).filter fun host => !host.isEmpty).map String.ofList

/-- The servers of a request, of which there is at least one. -/
structure Hosts where
  entries : List String
  nonempty : entries ≠ []
  deriving DecidableEq

/-- The hosts in a text, if there are any. -/
def Hosts.ofText? (text : String) : Option Hosts :=
  if h : hostEntries text = [] then none else some ⟨hostEntries text, h⟩

end Discovery
