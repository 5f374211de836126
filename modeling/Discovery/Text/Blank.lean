import Discovery.Text.Range

namespace Discovery.Text

/-- The code points with the Unicode property `White_Space`: the five control characters from tab to
    carriage return, the space, next line, no-break space, and the spaces and separators of the
    general blocks. The zero-width space and the byte order mark are not among them. -/
def blankRanges : List CodeRange :=
  [⟨0x9, 0xD⟩, ⟨0x20, 0x20⟩, ⟨0x85, 0x85⟩, ⟨0xA0, 0xA0⟩, ⟨0x1680, 0x1680⟩, ⟨0x2000, 0x200A⟩,
    ⟨0x2028, 0x2029⟩, ⟨0x202F, 0x202F⟩, ⟨0x205F, 0x205F⟩, ⟨0x3000, 0x3000⟩]

/-- White space of any script. -/
def isBlank (c : Char) : Bool :=
  inClass blankRanges c

/-- A text without the white space at its start. -/
def trimStart (s : List Char) : List Char :=
  s.dropWhile isBlank

/-- A text without the white space at its end. -/
def trimEnd (s : List Char) : List Char :=
  (s.reverse.dropWhile isBlank).reverse

/-- A text without the white space at either end. -/
def trim (s : List Char) : List Char :=
  trimEnd (trimStart s)

end Discovery.Text
