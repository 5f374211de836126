import Discovery.Text.Hidden

namespace Discovery.Text

/-- A code point in braces, in lower-case hexadecimal without leading zeros. -/
def bracedCode (c : Char) : List Char :=
  ['\\', 'u', '\x7b'] ++ Nat.toDigits 16 c.toNat ++ ['\x7d']

/-- What a character becomes between double quotes. The four characters with a short name use it,
    the quote and the backslash are escaped, and hidden characters are written by their number. -/
def quoteChar (c : Char) : List Char :=
  match c with
  | '\x00' => ['\\', '0']
  | '\t' => ['\\', 't']
  | '\r' => ['\\', 'r']
  | '\n' => ['\\', 'n']
  | '"' => ['\\', '"']
  | '\\' => ['\\', '\\']
  | c => if isHidden c then bracedCode c else [c]

/-- A text between double quotes. A single quote needs no escape between them. -/
def quoted (s : String) : String :=
  String.ofList ('"' :: s.toList.flatMap quoteChar ++ ['"'])

end Discovery.Text
