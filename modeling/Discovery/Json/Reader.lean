import Discovery.Dictionary
import Discovery.Json.Numeral

namespace Discovery.Json

/-- The number of arrays and objects that may be open at once. -/
def nestingLimit : Nat :=
  127

/-- An array or object that is open. The items of an array are kept last first; an object that waits
    for the value of a member keeps its key. -/
inductive Frame where
  | array (items : List Json)
  | object (members : List (String × Json)) (key : String)

/-- How far an escape in a string has been read. -/
inductive Escape where
  /-- no escape -/
  | none
  /-- a backslash -/
  | start
  /-- a backslash, a `u` and some of the four digits, the last one first -/
  | digits (seen : List Char)
  /-- the first half of a surrogate pair -/
  | half (lead : Nat)
  /-- the first half of a surrogate pair and a backslash -/
  | halfStart (lead : Nat)
  /-- the first half of a surrogate pair and a part of the second, the last digit first -/
  | halfDigits (lead : Nat) (seen : List Char)

/-- What is expected next. -/
inductive Expectation where
  /-- a value -/
  | value
  /-- the first item of an array, or its end -/
  | firstItem
  /-- an item of an array after a comma -/
  | nextItem
  /-- a comma or the end of an array -/
  | afterItem
  /-- the first key of an object, or its end -/
  | firstKey
  /-- a key of an object after a comma -/
  | nextKey
  /-- the colon after a key -/
  | colon
  /-- a comma or the end of an object -/
  | afterMember
  /-- the rest of a word that stands for a value: its next character and those after it -/
  | word (next : Char) (rest : List Char) (meaning : Json)
  /-- more of a numeral -/
  | numeral (n : Numeral)
  /-- more of a string, which is kept last character first -/
  | string (isKey : Bool) (chars : List Char) (escape : Escape)
  /-- nothing, since the document is complete -/
  | nothing (document : Json)

/-- The state of the machine. The innermost open array or object comes first. The machine refuses the
    first character that cannot continue a document, which is the place of the fault. -/
structure State where
  expects : Expectation
  frames : List Frame

/-- The state before the first character. -/
def State.start : State :=
  ⟨.value, []⟩

/-- The four white-space characters of a document. -/
def isSpace (c : Char) : Bool :=
  c = ' ' || c = '\n' || c = '\t' || c = '\r'

/-- Puts a value where it belongs: into the innermost open array or object, or at the top. -/
def deliver (v : Json) : List Frame → State
  | [] => ⟨.nothing v, []⟩
  | .array items :: frames => ⟨.afterItem, .array (v :: items) :: frames⟩
  | .object members key :: frames =>
    ⟨.afterMember, .object (insertEntry key v members) key :: frames⟩

/-- The end of an array. -/
def closeArray : List Frame → State
  | .array items :: frames => deliver (.array items.reverse) frames
  | frames => ⟨.afterItem, frames⟩

/-- The end of an object. -/
def closeObject : List Frame → State
  | .object members _ :: frames => deliver (.object members) frames
  | frames => ⟨.afterMember, frames⟩

/-- Opens an array or object, unless too many are open. -/
def openFrame (frame : Frame) (expects : Expectation) (frames : List Frame) : Except Fault State :=
  if frames.length < nestingLimit then .ok ⟨expects, frame :: frames⟩
  else .error (.at .nestingTooDeep)

/-- The first character of a value. -/
def beginValue (c : Char) (frames : List Frame) : Except Fault State :=
  match c with
  | 'n' => .ok ⟨.word 'u' ['l', 'l'] .null, frames⟩
  | 't' => .ok ⟨.word 'r' ['u', 'e'] (.bool true), frames⟩
  | 'f' => .ok ⟨.word 'a' ['l', 's', 'e'] (.bool false), frames⟩
  | '"' => .ok ⟨.string false [] .none, frames⟩
  | '[' => openFrame (.array []) .firstItem frames
  | '\x7b' => openFrame (.object [] "") .firstKey frames
  | c =>
    match Numeral.start? c with
    | some n => .ok ⟨.numeral n, frames⟩
    | none => .error (.at .expectedValue)

/-- A complete string, which is a key or a value. -/
def endString (isKey : Bool) (chars : List Char) (frames : List Frame) : State :=
  let s := String.ofList chars.reverse
  if isKey then
    match frames with
    | .object members _ :: frames => ⟨.colon, .object members s :: frames⟩
    | frames => ⟨.colon, frames⟩
  else deliver (.string s) frames

/-- The character of an escape with a single letter. -/
def escapeLetter? : Char → Option Char
  | '"' => some '"'
  | '\\' => some '\\'
  | '/' => some '/'
  | 'b' => some '\x08'
  | 'f' => some '\x0c'
  | 'n' => some '\n'
  | 'r' => some '\r'
  | 't' => some '\t'
  | _ => none

/-- The value of a hexadecimal digit, in either case. -/
def hexDigit? (c : Char) : Option Nat :=
  if c.isDigit then some (c.toNat - 48)
  else if 'a' ≤ c ∧ c ≤ 'f' then some (c.toNat - 87)
  else if 'A' ≤ c ∧ c ≤ 'F' then some (c.toNat - 55)
  else none

/-- The value of hexadecimal digits, the last one first. -/
def hexValue? : List Char → Option Nat
  | [] => some 0
  | c :: rest => do
    let d ← hexDigit? c
    let high ← hexValue? rest
    some (high * 16 + d)

/-- One more digit of an escape. The four digits are the next four bytes, whatever these are:
    nothing is judged before all of them are there, and a fault lies behind the last of them. -/
def takeHexDigit (seen : List Char) (c : Char) : Except Fault (List Char ⊕ Nat) :=
  let bytes := byteCount seen
  if bytes + c.utf8Size < 4 then .ok (.inl (c :: seen))
  else
    match hexValue? (c :: seen) with
    | some n => .ok (.inr n)
    | none => .error ⟨.invalidEscape, 4 - bytes⟩

/-- Whether a number is the first half of a surrogate pair. -/
def isLead (n : Nat) : Bool :=
  0xD800 ≤ n && n ≤ 0xDBFF

/-- Whether a number is the second half of a surrogate pair. -/
def isTrail (n : Nat) : Bool :=
  0xDC00 ≤ n && n ≤ 0xDFFF

/-- The character of a surrogate pair. -/
def joinSurrogates (lead trail : Nat) : Char :=
  Char.ofNat (0x10000 + (lead - 0xD800) * 0x400 + (trail - 0xDC00))

/-- One more character of a string. -/
def stepString (isKey : Bool) (chars : List Char) (escape : Escape) (frames : List Frame)
    (c : Char) : Except Fault State :=
  match escape with
  | .none =>
    if c = '"' then .ok (endString isKey chars frames)
    else if c = '\\' then .ok ⟨.string isKey chars .start, frames⟩
    else if c.toNat < 0x20 then .error (.at .controlCharacter)
    else .ok ⟨.string isKey (c :: chars) .none, frames⟩
  | .start =>
    if c = 'u' then .ok ⟨.string isKey chars (.digits []), frames⟩
    else match escapeLetter? c with
      | some meaning => .ok ⟨.string isKey (meaning :: chars) .none, frames⟩
      | none => .error (.at .invalidEscape)
  | .digits seen => do
    match ← takeHexDigit seen c with
    | .inl seen => .ok ⟨.string isKey chars (.digits seen), frames⟩
    | .inr n =>
      if isTrail n then .error (.at .loneSurrogate)
      else if isLead n then .ok ⟨.string isKey chars (.half n), frames⟩
      else .ok ⟨.string isKey (Char.ofNat n :: chars) .none, frames⟩
  | .half lead =>
    if c = '\\' then .ok ⟨.string isKey chars (.halfStart lead), frames⟩
    else .error (.at .unexpectedEndOfEscape)
  | .halfStart lead =>
    if c = 'u' then .ok ⟨.string isKey chars (.halfDigits lead []), frames⟩
    else .error (.at .unexpectedEndOfEscape)
  | .halfDigits lead seen => do
    match ← takeHexDigit seen c with
    | .inl seen => .ok ⟨.string isKey chars (.halfDigits lead seen), frames⟩
    | .inr n =>
      if isTrail n then .ok ⟨.string isKey (joinSurrogates lead n :: chars) .none, frames⟩
      else .error (.at .loneSurrogate)

/-- One character where it cannot continue a numeral. White space is passed over, except in a word
    or a string. -/
def stepOutside (s : State) (c : Char) : Except Fault State :=
  match s.expects with
  | .word next rest meaning =>
    if c = next then
      match rest with
      | [] => .ok (deliver meaning s.frames)
      | next :: rest => .ok ⟨.word next rest meaning, s.frames⟩
    else .error (.at .expectedLiteral)
  | .string isKey chars escape => stepString isKey chars escape s.frames c
  | expects =>
    if isSpace c then .ok s
    else match expects with
      | .firstItem => if c = ']' then .ok (closeArray s.frames) else beginValue c s.frames
      | .nextItem => if c = ']' then .error (.at .trailingComma) else beginValue c s.frames
      | .afterItem =>
        if c = ',' then .ok ⟨.nextItem, s.frames⟩
        else if c = ']' then .ok (closeArray s.frames)
        else .error (.at .expectedListCommaOrEnd)
      | .firstKey =>
        if c = '"' then .ok ⟨.string true [] .none, s.frames⟩
        else if c = '\x7d' then .ok (closeObject s.frames)
        else .error (.at .keyNotString)
      | .nextKey =>
        if c = '"' then .ok ⟨.string true [] .none, s.frames⟩
        else if c = '\x7d' then .error (.at .trailingComma)
        else .error (.at .keyNotString)
      | .colon => if c = ':' then .ok ⟨.value, s.frames⟩ else .error (.at .expectedColon)
      | .afterMember =>
        if c = ',' then .ok ⟨.nextKey, s.frames⟩
        else if c = '\x7d' then .ok (closeObject s.frames)
        else .error (.at .expectedObjectCommaOrEnd)
      | .nothing _ => .error (.at .trailingCharacters)
      | _ => beginValue c s.frames

/-- One character. A character that does not belong to a numeral ends it and is then taken on its
    own. -/
def State.step (s : State) (c : Char) : Except Fault State :=
  match s.expects with
  | .numeral n => do
    match ← n.next c with
    | some n => .ok ⟨.numeral n, s.frames⟩
    | none =>
      match n.value with
      | .ok x => stepOutside (deliver (.number x) s.frames) c
      | .error code => .error (.before code)
  | _ => stepOutside s c

/-- Runs the machine over a text. A fault comes with the rest of the text from the faulty character
    on. -/
def State.run (s : State) : List Char → Except (Fault × List Char) State
  | [] => .ok s
  | c :: rest =>
    match s.step c with
    | .ok next => next.run rest
    | .error fault => .error (fault, c :: rest)

/-- The document of a text that ends here. -/
def State.finish (s : State) : Except FaultCode Json :=
  match s.expects with
  | .nothing document => .ok document
  | .numeral n => do
    match (deliver (.number (← n.value)) s.frames).expects with
    | .nothing document => .ok document
    | .afterItem => .error .endInList
    | _ => .error .endInObject
  | .firstItem | .afterItem => .error .endInList
  | .firstKey | .colon | .afterMember => .error .endInObject
  | .string .. => .error .endInString
  | .value | .nextItem | .nextKey | .word .. => .error .endInValue

/-- Reads a document. -/
def read (text : List Char) : Except Error Json :=
  match State.start.run text with
  | .error (fault, rest) =>
    .error (.locate fault.code text (byteCount text - byteCount rest + fault.reach))
  | .ok s =>
    match s.finish with
    | .ok document => .ok document
    | .error code => .error (.locate code text (byteCount text))

end Discovery.Json
