import Discovery.Log.Clock
import Discovery.Report
import Std.Time.DateTime.Timestamp

namespace Discovery

/-- The fault behind an error number of the system. Some layers report the number negated. -/
def ReadFault.ofErrorNumber (number : UInt32) (wording : String) : ReadFault :=
  let number := if number < 0x80000000 then number else 0 - number
  match number with
  | 2 => .notFound
  | 20 => .notDirectory
  | 21 => .isDirectory
  | 36 => .nameTooLong
  | n => .other (wording ++ " (os error " ++ toString n ++ ")")

/-- The fault behind an error of the system. -/
def ReadFault.ofError : IO.Error → ReadFault
  | .noFileOrDirectory _ number wording => ofErrorNumber number wording
  | .inappropriateType _ number wording => ofErrorNumber number wording
  | .invalidArgument _ number wording => ofErrorNumber number wording
  | .permissionDenied _ number wording => ofErrorNumber number wording
  | .resourceExhausted _ number wording => ofErrorNumber number wording
  | .noSuchThing _ number wording => ofErrorNumber number wording
  | .otherError number wording => ofErrorNumber number wording
  | error => .other (toString error)

/-- Reads an input from the system. -/
def Input.fetch (input : Input) : IO (Except ReadFault ByteArray) := do
  try
    match input with
    | .file path =>
      if path.toList.contains '\x00' then return .error .nulInName
      return .ok (← IO.FS.readBinFile path)
    | .standard => return .ok (← (← IO.getStdin).readBinToEnd)
  catch error => return .error (.ofError error)

/-- The current time as log lines show it. -/
def currentTime : IO String := do
  let now ← Std.Time.Timestamp.now
  return Clock.text (now.toNanosecondsSinceUnixEpoch.val.toNat / 1000)

/-- The number of the user that a process works for, in the status of the process. -/
def userInStatus? (status : String) : Option String :=
  (Text.pieces '\n' status.toList).findSome? fun line =>
    match Text.pieces '\t' line with
    | ['U', 'i', 'd', ':'] :: user :: _ => some (String.ofList user)
    | _ => none

/-- The home directory of a user in the list of the accounts. -/
def homeInAccounts? (accounts user : String) : Option String :=
  (Text.pieces '\n' accounts.toList).findSome? fun line =>
    match Text.pieces ':' line with
    | [_, _, number, _, _, home, _] => if number = user.toList then some (String.ofList home) else none
    | _ => none

/-- The home directory that the system has on record for the user. -/
def recordedHome? : IO (Option String) := do
  try
    match userInStatus? (← IO.FS.readFile "/proc/self/status") with
    | some user => return homeInAccounts? (← IO.FS.readFile "/etc/passwd") user
    | none => return none
  catch _ => return none

/-- The environment of the process. -/
def currentEnvironment : IO Environment := do
  return {
    home? := ← IO.getEnv "HOME"
    recordedHome? := ← recordedHome?
    aliasFile? := ← IO.getEnv "DISCOVERY_RC"
    log? := ← IO.getEnv "DISCOVERY_LOG"
    plain? := ← IO.getEnv "NO_COLOR"
    stack? := ← IO.getEnv "RUST_BACKTRACE"
    libraryStack? := ← IO.getEnv "RUST_LIB_BACKTRACE" }

/-- What is shown for the calls that led to a failure, since they are not known here. -/
def unknownStack : String :=
  "   0: <unknown>"

/-- Writes an event to the error stream, if the filter admits it. -/
def Event.write (display : Display) (event : Event) : IO Unit := do
  if display.filter.admits event then
    (← IO.getStderr).putStr (event.line display.coloured (← currentTime))

/-- Carries out a dialogue. -/
def Dialogue.perform {ε α : Type} (display : Display) : Dialogue ε α → IO (Except ε α)
  | done value => return .ok value
  | fail failure => return .error failure
  | log event next => do
    event.write display
    next.perform display
  | ask input next => do
    (next (← input.fetch)).perform display

end Discovery

open Discovery in
/-- Interprets a command line for the user of the process. -/
def main (arguments : List String) : IO UInt32 := do
  let environment ← currentEnvironment
  let display := environment.display unknownStack
  let outcome ← (Request.answer environment.setting arguments).perform display
  let report := Report.ofOutcome display.stack? outcome
  (← IO.getStdout).putStr report.output
  (← IO.getStderr).putStr report.errors
  return report.code.toUInt32
