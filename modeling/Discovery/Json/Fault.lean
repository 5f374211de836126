namespace Discovery.Json

/-- What is wrong with a text. The first four are texts that end too early. -/
inductive FaultCode where
  | endInList
  | endInObject
  | endInString
  | endInValue
  | expectedColon
  | expectedListCommaOrEnd
  | expectedObjectCommaOrEnd
  | expectedLiteral
  | expectedValue
  | invalidEscape
  | invalidNumber
  | numberOutOfRange
  | loneSurrogate
  | unexpectedEndOfEscape
  | controlCharacter
  | keyNotString
  | trailingComma
  | trailingCharacters
  | nestingTooDeep
  deriving Repr, DecidableEq

/-- The wording of a fault. -/
def FaultCode.message : FaultCode → String
  | endInList => "EOF while parsing a list"
  | endInObject => "EOF while parsing an object"
  | endInString => "EOF while parsing a string"
  | endInValue => "EOF while parsing a value"
  | expectedColon => "expected `:`"
  | expectedListCommaOrEnd => "expected `,` or `]`"
  | expectedObjectCommaOrEnd => "expected `,` or `\x7d`"
  | expectedLiteral => "expected ident"
  | expectedValue => "expected value"
  | invalidEscape => "invalid escape"
  | invalidNumber => "invalid number"
  | numberOutOfRange => "number out of range"
  | loneSurrogate => "lone leading surrogate in hex escape"
  | unexpectedEndOfEscape => "unexpected end of hex escape"
  | controlCharacter => "control character (\\u0000-\\u001F) found while parsing a string"
  | keyNotString => "key must be a string"
  | trailingComma => "trailing comma"
  | trailingCharacters => "trailing characters"
  | nestingTooDeep => "recursion limit exceeded"

/-- A fault found at a character. Its place lies `reach` bytes behind the start of that
    character. -/
structure Fault where
  code : FaultCode
  reach : Nat
  deriving Repr, DecidableEq

/-- A fault at the first byte of a character, where nearly all faults are. -/
def Fault.at (code : FaultCode) : Fault :=
  ⟨code, 1⟩

/-- A fault of what came before a character. -/
def Fault.before (code : FaultCode) : Fault :=
  ⟨code, 0⟩

/-- A fault with its place in a text. Lines count from one; the column is the number of bytes from
    the start of the line up to and including the fault. -/
structure Error where
  code : FaultCode
  line : Nat
  column : Nat
  deriving Repr, DecidableEq

/-- The wording of a fault with its place. -/
def Error.message (e : Error) : String :=
  e.code.message ++ " at line " ++ toString e.line ++ " column " ++ toString e.column

/-- The number of bytes of a text in UTF-8. -/
def byteCount (s : List Char) : Nat :=
  s.foldr (fun c n => c.utf8Size + n) 0

/-- The characters that lie whole within the first `n` bytes of a text. -/
def takeBytes (n : Nat) : List Char → List Char
  | [] => []
  | c :: rest => if c.utf8Size ≤ n then c :: takeBytes (n - c.utf8Size) rest else []

/-- The part of a text behind its last line feed. -/
def lastLine (s : List Char) : List Char :=
  (s.reverse.takeWhile fun c => c != '\n').reverse

/-- The place behind the first `offset` bytes of a text. A line feed among them begins a new line,
    also when it is itself the fault. -/
def Error.locate (code : FaultCode) (text : List Char) (offset : Nat) : Error :=
  let seen := takeBytes offset text
  ⟨code, seen.count '\n' + 1, byteCount (lastLine seen) + (offset - byteCount seen)⟩

end Discovery.Json
