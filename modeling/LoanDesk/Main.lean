import LoanDesk.CommandLine.Run
import Std.Time.Zoned

/-!
# The program

The world that a run sees is the file system, the environment and the clock; what it answers is
printed.
-/

namespace LoanDesk.Main

/-- How the system's error is seen. -/
def fileError (e : IO.Error) : FileError :=
  match e with
  | .noFileOrDirectory .. => .notFound
  | .inappropriateType _ code _ =>
    if code = 20 ∨ code = -20 then .notDirectory
    else if code = 21 ∨ code = -21 then .isDirectory
    else .other (toString e)
  | .invalidArgument _ code _ =>
    if code = 36 ∨ code = -36 then .nameTooLong else .other (toString e)
  | e => .other (toString e)

/-- The text of a file. -/
def readFile (path : String) : IO (Except FileError String) := do
  if path.toList.contains '\x00' then return .error .unexpectedNul
  try
    match String.fromUTF8? (← IO.FS.readBinFile path) with
    | some text => return .ok text
    | none => return .error .notText
  catch e => return .error (fileError e)

/-- The date of a day of the calendar. -/
def date (year : Int) (month day : Nat) : IO Date :=
  match Date.ofParts? year month day with
  | some d => return d
  | none => throw (IO.userError "the clock shows no date")

/-- The time of day at this place. -/
def now : IO Moment := do
  let t ← Std.Time.DateTime.now
  let d := t.toPlainDateTime
  return ⟨← date d.date.year d.date.month.val.toNat d.date.day.val.toNat, d.time.hour.val.toNat,
    d.time.minute.val.toNat, d.time.second.val.toNat, d.time.nanosecond.val.toNat,
    t.timezone.offset.second.val⟩

/-- The line of the log. -/
def logLine : LogLine → String
  | .warning text => "WARN " ++ text
  | .error text => "ERROR " ++ text

/-- The names of the commands. -/
def usage : String :=
  let names := CommandLine.commands.map fun c => c.name
  "Usage: [OPTIONS] <" ++ "|".intercalate names ++ "> [ARGUMENTS]"

end LoanDesk.Main

/-- Carries out the command that the arguments ask for. -/
def main (arguments : List String) : IO UInt32 := do
  let environment ← IO.getEnv "LENDERBOT_CONFIG_DIR"
  match LoanDesk.CommandLine.read environment arguments with
  | .error .help =>
    IO.println LoanDesk.Main.usage
    return 0
  | .error .misuse =>
    IO.eprintln LoanDesk.Main.usage
    return 2
  | .ok invocation =>
    let home ← IO.getEnv "HOME"
    let a ← LoanDesk.CommandLine.run ⟨LoanDesk.Main.readFile, home, LoanDesk.Main.now⟩ invocation
    for line in a.log do
      IO.eprintln (LoanDesk.Main.logLine line)
    IO.print a.output
    IO.eprint a.errorLine
    return a.exitCode.toUInt32
