import Discovery.Input
import Discovery.Text.Split

namespace Discovery

/-- What stands at the end of a path. -/
inductive FileNode where
  | file (bytes : ByteArray)
  | directory

/-- Files and directories by the names on the way to them. The directories on the way to an entry
    are there without entries of their own. -/
structure FileTree where
  entries : List (List String × FileNode)

namespace FileTree

/-- The number of bytes that a name may have. -/
def nameLimit : Nat :=
  255

/-- The number of bytes that a path may have. -/
def pathLimit : Nat :=
  4095

/-- The parts of a path between its slashes. -/
def parts (path : String) : List String :=
  (Text.pieces '/' path.toList).map String.ofList

/-- The names in a relative path. Repeated slashes and parts that stay where they are do not
    count. -/
def names (path : String) : List String :=
  (parts path).filter fun part => part ≠ "" ∧ part ≠ "."

/-- The tree with the given relative paths. -/
def ofPaths (paths : List (String × FileNode)) : FileTree :=
  ⟨paths.map fun (path, node) => (names path, node)⟩

/-- What stands behind the given names. -/
def node? (tree : FileTree) (path : List String) : Option FileNode :=
  match tree.entries.find? fun entry => entry.1 = path with
  | some entry => some entry.2
  | none => if tree.entries.any fun entry => path.isPrefixOf entry.1 then some .directory else none

/-- Where a walk has come to. -/
inductive Place where
  /-- in a directory or at a file of the tree, with the names on the way to it, the last one
      first -/
  | inside (path : List String)
  /-- in a directory outside the tree -/
  | outside

/-- What stands at a place. The working directory is there even when the tree is empty. -/
def nodeAt? (tree : FileTree) : Place → Option FileNode
  | .inside [] => some .directory
  | .inside path => tree.node? path.reverse
  | .outside => some .directory

/-- One part of a path. It can be taken only in a directory. An empty part, as behind a slash at the
    end of a path, stays there, and so does a single dot; two dots lead to the directory around
    it. -/
def walk (tree : FileTree) (place : Place) (part : String) : Except ReadFault Place :=
  match tree.nodeAt? place with
  | none => .error .notFound
  | some (.file _) => .error .notDirectory
  | some .directory =>
    if part = "" ∨ part = "." then .ok place
    else if part = ".." then
      match place with
      | .inside (_ :: path) => .ok (.inside path)
      | _ => .ok .outside
    else if nameLimit < part.utf8ByteSize then .error .nameTooLong
    else
      match place with
      | .inside path =>
        match tree.nodeAt? (.inside (part :: path)) with
        | some _ => .ok (.inside (part :: path))
        | none => .error .notFound
      | .outside => .error .notFound

/-- Reads the file at a path. A path that begins with a slash starts outside the tree. -/
def read (tree : FileTree) (path : String) : Except ReadFault ByteArray := do
  if path.toList.contains '\x00' then .error .nulInName
  else if path = "" then .error .notFound
  else if pathLimit < path.utf8ByteSize then .error .nameTooLong
  else
    let start : Place := if path.toList.head? = some '/' then .outside else .inside []
    let place ← (parts path).foldlM tree.walk start
    match tree.nodeAt? place with
    | some (.file bytes) => .ok bytes
    | some .directory => .error .isDirectory
    | none => .error .notFound

end FileTree

end Discovery
