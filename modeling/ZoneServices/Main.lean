import Std.Time.DateTime.Timestamp
import ZoneServices.CommandLine.Run

/-!
# The program

Reads its arguments, runs the command that they give, and shows what it comes to.
-/

namespace ZoneServices.Program

/-- How the program is called. -/
def usage : String :=
  "Usage: dnsvc analyze --origin <ORIGIN> [--input <FILE>] [--config <FILE>] [--max-records <N>]\n"
    ++ "       dnsvc generate --origin <ORIGIN> [--input <FILE>]\n"
    ++ "       dnsvc services"

/-- The time of the clock, or the epoch if it is beyond the calendar. -/
def now : IO Timestamp := do
  let moment ← Std.Time.Timestamp.now
  let since := moment.toDurationSinceUnixEpoch
  return (Timestamp.ofSeconds? since.second.val since.nano.val.toNat).getD .epoch

/-- The files, the standard input and the clock of the computer. -/
def system : CommandSystem IO where
  fileOctets path := do
    try
      return some (← IO.FS.readBinFile (String.ofList path)).toList
    catch _ =>
      return none
  inputOctets := do
    return (← (← IO.getStdin).readBinToEnd).toList
  now := now

/-- Prints what a command comes to; the exit code tells whether it failed. -/
def finish (result : CommandResult) : IO UInt32 := do
  for line in result.output do
    IO.println (String.ofList line)
  for line in result.complaints do
    IO.eprintln (String.ofList line)
  match result.error with
  | none => return 0
  | some error =>
    let message := error.message
    IO.eprintln s!"Error: {message}"
    if let some cause := error.cause? then
      IO.eprintln s!"\nCaused by:\n    {cause}"
    return 1

end ZoneServices.Program

/-- Runs the command that the arguments ask for. -/
def main (arguments : List String) : IO UInt32 := do
  match ZoneServices.Arguments.read (arguments.map String.toList) with
  | .error .help =>
    IO.println ZoneServices.Program.usage
    return 0
  | .error .wrong =>
    IO.eprintln ZoneServices.Program.usage
    return 2
  | .ok command => ZoneServices.Program.finish (← command.run ZoneServices.Program.system)
