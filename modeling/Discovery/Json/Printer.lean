import Discovery.Decimal.Notation
import Discovery.Json.Basic

namespace Discovery.Json

/-- How a document is laid out. -/
inductive Layout where
  /-- no space at all -/
  | compact
  /-- one item or member a line, two spaces deeper than the brackets around it -/
  | pretty
  deriving Repr, DecidableEq

/-- The hexadecimal digit of a number below 16, in lower case. -/
def hexDigit (n : Nat) : Char :=
  if n < 10 then Char.ofNat (48 + n) else Char.ofNat (87 + n)

/-- What a character becomes in a string. Control characters without a letter of their own are
    written by their number; all others but the quote and the backslash stand for themselves. -/
def escape (c : Char) : List Char :=
  match c with
  | '"' => ['\\', '"']
  | '\\' => ['\\', '\\']
  | '\x08' => ['\\', 'b']
  | '\t' => ['\\', 't']
  | '\n' => ['\\', 'n']
  | '\x0c' => ['\\', 'f']
  | '\r' => ['\\', 'r']
  | c =>
    if c.toNat < 0x20 then ['\\', 'u', '0', '0', hexDigit (c.toNat / 16), hexDigit (c.toNat % 16)]
    else [c]

/-- A string between its quotes. -/
def printString (s : String) : List Char :=
  '"' :: s.toList.flatMap escape ++ ['"']

/-- The written form of a number. -/
def Number.digits : Number → List Char
  | .integer i => integerDigits i
  | .double x => x.digits

/-- What stands between two items, or between a bracket and an item. -/
def Layout.gap (layout : Layout) (depth : Nat) : List Char :=
  match layout with
  | .compact => []
  | .pretty => '\n' :: List.replicate (2 * depth) ' '

/-- What stands between a key and its value. -/
def Layout.colon : Layout → List Char
  | .compact => [':']
  | .pretty => [':', ' ']

mutual

/-- A document with `depth` brackets around it. -/
def printAt (layout : Layout) (depth : Nat) : Json → List Char
  | .null => ['n', 'u', 'l', 'l']
  | .bool true => ['t', 'r', 'u', 'e']
  | .bool false => ['f', 'a', 'l', 's', 'e']
  | .number x => x.digits
  | .string s => printString s
  | .array [] => ['[', ']']
  | .array (item :: items) =>
    '[' :: layout.gap (depth + 1) ++ printAt layout (depth + 1) item ++
      printItems layout (depth + 1) items ++ layout.gap depth ++ [']']
  | .object [] => ['\x7b', '\x7d']
  | .object ((key, value) :: members) =>
    '\x7b' :: layout.gap (depth + 1) ++ printString key ++ layout.colon ++
      printAt layout (depth + 1) value ++ printMembers layout (depth + 1) members ++
      layout.gap depth ++ ['\x7d']

/-- The items after the first one, each with a comma before it. -/
def printItems (layout : Layout) (depth : Nat) : List Json → List Char
  | [] => []
  | item :: items =>
    ',' :: layout.gap depth ++ printAt layout depth item ++ printItems layout depth items

/-- The members after the first one, each with a comma before it. -/
def printMembers (layout : Layout) (depth : Nat) : List (String × Json) → List Char
  | [] => []
  | (key, value) :: members =>
    ',' :: layout.gap depth ++ printString key ++ layout.colon ++ printAt layout depth value ++
      printMembers layout depth members

end

/-- A document as a text. -/
def print (layout : Layout) (document : Json) : String :=
  String.ofList (printAt layout 0 document)

end Discovery.Json
