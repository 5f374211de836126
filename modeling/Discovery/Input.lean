namespace Discovery

/-- Something to read. -/
inductive Input where
  | file (path : String)
  | standard
  deriving Repr, DecidableEq

/-- Why an input gave no text. The first five are faults of a path, the others of a stream. -/
inductive ReadFault where
  /-- nothing has this name -/
  | notFound
  /-- the path goes through something that is not a directory -/
  | notDirectory
  /-- the path leads to a directory -/
  | isDirectory
  /-- the path, or a part of it, is longer than a file system allows -/
  | nameTooLong
  /-- the path holds the character that ends a path for the system -/
  | nulInName
  /-- the bytes are not UTF-8 -/
  | notText
  /-- the stream can no longer be read -/
  | closed
  /-- any other fault, in the words of the system -/
  | other (wording : String)
  deriving Repr, DecidableEq

/-- The wording of a fault. -/
def ReadFault.message : ReadFault → String
  | notFound => "No such file or directory (os error 2)"
  | notDirectory => "Not a directory (os error 20)"
  | isDirectory => "Is a directory (os error 21)"
  | nameTooLong => "File name too long (os error 36)"
  | nulInName => "file name contained an unexpected NUL byte"
  | notText => "stream did not contain valid UTF-8"
  | closed => "input closed"
  | other wording => wording

/-- The text that bytes stand for in UTF-8. -/
def decodeText (bytes : ByteArray) : Except ReadFault String :=
  match String.fromUTF8? bytes with
  | some text => .ok text
  | none => .error .notText

end Discovery
