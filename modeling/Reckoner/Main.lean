import Std.Time.Zoned
import Reckoner.CommandLine

/-! # The program

Reads the clock and the settings file, runs the command line and prints its outcome.
-/

namespace Reckoner

namespace CommandLine

/-- The local date and time. A clock outside of the calendar shows the beginning of 1970. -/
def localNow : IO DateTime := do
  let moment ← Std.Time.PlainDateTime.now
  let day := Date.ofYearMonthDay? moment.date.year.toInt moment.date.month.val.toNat
    moment.date.day.val.toNat
  let clock := Time.ofParts? moment.time.hour.val.toNat moment.time.minute.val.toNat
    moment.time.second.val.toNat moment.time.nanosecond.val.toNat
  pure ⟨day.getD Date.epoch, clock.getD Time.midnight⟩

/-- Why a file cannot be read. -/
def reason : IO.Error → String
  | .noFileOrDirectory .. => "No such file or directory (os error 2)"
  | .permissionDenied .. => "Permission denied (os error 13)"
  | .inappropriateType .. => "Is a directory (os error 21)"
  | error => toString error

/-- The text of a file, or why it cannot be read. -/
def readText (name : String) : IO (Except String String) := do
  try
    match String.fromUTF8? (← IO.FS.readBinFile name) with
    | some text => pure (.ok text)
    | none => pure (.error "stream did not contain valid UTF-8")
  catch error => pure (.error (reason error))

/-- The text of the settings file that the arguments name, if they name one. -/
def readSettings (arguments : List String) : IO (Except String String) := do
  match Request.ofArguments arguments with
  | .ok request => match request.settingsFile with
    | some name => readText name
    | none => pure (.ok "")
  | .error _ => pure (.ok "")

end CommandLine

end Reckoner

/-- Evaluates or reduces the expression among the arguments. -/
def main (arguments : List String) : IO UInt32 := do
  let settings ← Reckoner.CommandLine.readSettings arguments
  let now ← Reckoner.CommandLine.localNow
  let outcome := Reckoner.CommandLine.run (fun _ => settings) now arguments
  IO.print outcome.output
  IO.eprint outcome.errors
  pure (if outcome.succeeds then 0 else 1)
