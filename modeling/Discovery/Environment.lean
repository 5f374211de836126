import Discovery.Log.Filter
import Discovery.Setting

namespace Discovery

/-- How a run is shown. -/
structure Display where
  filter : Filter
  coloured : Bool
  /-- the calls that led to a failure, where they are asked for -/
  stack? : Option String

/-- The display with a setting of the log, plain and without the calls behind a failure. -/
def Display.ofSetting (setting? : Option String) : Display :=
  ⟨.ofSetting setting?, false, none⟩

/-- What the environment says about a user: variables that may be missing, and what the system has on
    record. -/
structure Environment where
  home? : Option String := none
  /-- the home directory on record -/
  recordedHome? : Option String := none
  aliasFile? : Option String := none
  log? : Option String := none
  /-- an objection to colours -/
  plain? : Option String := none
  /-- a wish to see the calls that led to a failure -/
  stack? : Option String := none
  /-- the same wish, for libraries in particular -/
  libraryStack? : Option String := none

namespace Environment

/-- The home directory of the user. What is empty counts as missing. -/
def userHome? (environment : Environment) : Option String :=
  (environment.home?.filter (· ≠ "")).or (environment.recordedHome?.filter (· ≠ ""))

/-- What a command line is interpreted against. -/
def setting (environment : Environment) : Setting :=
  .ofUser environment.userHome? environment.aliasFile?

/-- Whether the log is in colours, as it is unless the user objects to them. -/
def coloured (environment : Environment) : Bool :=
  environment.plain?.all (· = "")

/-- Whether the calls that led to a failure are shown. The wish for libraries comes first, and any
    text but a zero is one. -/
def showsStack (environment : Environment) : Bool :=
  (environment.libraryStack?.or environment.stack?).any (· ≠ "0")

/-- How a run is shown that has the given calls behind a failure. -/
def display (environment : Environment) (stack : String) : Display where
  filter := .ofSetting environment.log?
  coloured := environment.coloured
  stack? := if environment.showsStack then some stack else none

end Environment

end Discovery
