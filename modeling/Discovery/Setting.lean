import Discovery.Dialogue.Basic
import Discovery.Path
import Discovery.Target.Aliases

namespace Discovery

/-- Where aliases come from. -/
inductive AliasOrigin where
  | file (path : String)
  | table (aliases : Aliases)
  | nowhere

/-- Reads the aliases. They are optional, so a file that cannot be read counts as one without
    any. -/
def AliasOrigin.load {ε : Type} : AliasOrigin → Dialogue ε Aliases
  | .file path => do
    match ← Dialogue.readText (.file path) with
    | .ok text =>
      let aliases := Aliases.ofText text
      Dialogue.note (.aliasesLoaded path aliases.size)
      pure aliases
    | .error fault =>
      Dialogue.note (.aliasesUnreadable path fault)
      pure Dictionary.empty
  | .table aliases => pure aliases
  | .nowhere => pure Dictionary.empty

/-- What a command line is interpreted against. -/
structure Setting where
  home? : Option String
  aliases : AliasOrigin

namespace Setting

/-- The name of the alias file in the home directory. -/
def aliasFileName : String :=
  ".discoveryrc"

/-- The alias file of a user with a home directory. A path of its own, unless it is empty, wins over
    the file in the home directory. -/
def aliasFile (home : String) (path? : Option String) : String :=
  (path?.filter (· ≠ "")).getD (joinPath home aliasFileName)

/-- The place of the aliases of a user. Without a home directory there is only a path of its own. -/
def aliasOrigin (home? path? : Option String) : AliasOrigin :=
  match home?, path?.filter (· ≠ "") with
  | some home, _ => .file (aliasFile home path?)
  | none, some path => .file path
  | none, none => .nowhere

/-- The setting of a user who may have a home directory and an alias file of its own. -/
def ofUser (home? path? : Option String) : Setting :=
  ⟨home?, aliasOrigin home? path?⟩

end Setting

end Discovery
