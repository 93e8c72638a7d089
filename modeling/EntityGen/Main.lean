import EntityGen.Command.Run
import EntityGen.Stamp
import Std.Time.DateTime.Timestamp

/-! # The program

Runs the command line with the files and the clock of the system. -/

namespace EntityGen

/-- What an action of the system gives for a path; `none` if it fails or the path cannot be one. -/
def attempt? (path : String) (action : IO α) : IO (Option α) := do
  if Path.holdsNul path then return none
  try return some (← action) catch _ => return none

instance : FileAccess IO where
  readText path := attempt? path (IO.FS.readFile path)
  isThere path := do
    return (← attempt? path do ((← IO.currentDir) / path).pathExists) = some true
  createDirs path := do
    if path = "" then return true
    return (← attempt? path (IO.FS.createDirAll path)).isSome
  writeText path text := do return (← attempt? path (IO.FS.writeFile path text)).isSome

/-- The date of a run that starts now. -/
def currentStamp : IO String :=
  return Stamp.render (← Std.Time.Timestamp.now).toNanosecondsSinceUnixEpoch.val.toNat

end EntityGen

open EntityGen

def main (args : List String) : IO UInt32 := do
  let outcome ← Command.runArguments (← currentStamp) args
  (← IO.getStdout).putStr outcome.output
  (← IO.getStderr).putStr outcome.error
  return outcome.exitCode.toUInt32
