import Discovery.Dialogue.Basic
import Discovery.Failure
import Discovery.Flag.Token
import Discovery.Target.Aliases
import Discovery.Target.Hosts

namespace Discovery

/-- The target of a command that names none. -/
def defaultTarget : String :=
  "localhost"

/-- The host that the default target stands for, unless it is an alias. -/
def defaultHost : String :=
  "http://localhost:8080"

/-- Takes the target off the front of the arguments. An argument that looks like a flag stays. -/
def takeTarget : List String → String × List String
  | [] => (defaultTarget, [])
  | argument :: rest =>
    if Token.beginsWithHyphen argument then (defaultTarget, argument :: rest) else (argument, rest)

namespace Aliases

/-- The hosts of a target, as they are written. -/
def hostText (aliases : Aliases) (target : String) : String :=
  match aliases.find? target with
  | some hosts => hosts
  | none => if target = defaultTarget then defaultHost else target

/-- The hosts of a target. -/
def resolve (aliases : Aliases) (target : String) : Except Failure Hosts :=
  match Hosts.ofText? (aliases.hostText target) with
  | some hosts => .ok hosts
  | none => .error (.noHosts target)

/-- The events of resolving a target. -/
def resolutionEvents (aliases : Aliases) (target : String) : List Event :=
  match aliases.find? target with
  | some hosts => [.aliasResolved target hosts]
  | none => []

/-- Resolves a target and logs it when it is an alias. -/
def resolveTarget (aliases : Aliases) (target : String) : Dialogue Failure Hosts := do
  Dialogue.notes (aliases.resolutionEvents target)
  Dialogue.ofExcept (aliases.resolve target)

end Aliases

end Discovery
