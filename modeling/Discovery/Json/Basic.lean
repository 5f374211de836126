import Discovery.Decimal.Binary64

namespace Discovery

/-- A number of a document: an integer of 64 bits, signed or unsigned, or a finite double. -/
inductive Json.Number where
  | integer (value : Int)
  | double (value : Binary64)
  deriving Repr, DecidableEq

/-- A JSON document. Its members are a list, so it can be printed in the order in which it was made;
    a document that was read has them sorted. -/
inductive Json (ν : Type := Json.Number) where
  | null
  | bool (value : Bool)
  | number (value : ν)
  | string (value : String)
  | array (items : List (Json ν))
  | object (members : List (String × Json ν))
  deriving Repr

namespace Json

/-- Text or null. -/
def ofString? : Option String → Json
  | none => null
  | some s => string s

/-- A list of texts. -/
def ofStrings (texts : List String) : Json :=
  array (texts.map string)

end Json

end Discovery
