import GameRunner.Host.CommandLine

/-!
# The program

The command line on real files.
-/

namespace GameRunner

/-- The kind of an error that the operating system has reported. -/
def fileErrorOf : IO.Error → FileError
  | .noFileOrDirectory .. => .notFound
  | .permissionDenied .. => .permissionDenied
  | .inappropriateType _ code _ => if code = 20 then .notDirectory else .isDirectory
  | .illegalOperation .. => .isDirectory
  | .invalidArgument _ code _ => if code = 36 then .nameTooLong else .nameWithNull
  | _ => .notDirectory

/-- The outcome of an operation on files. -/
def outcomeOf (x : IO α) : IO (Except FileError α) := do
  match ← x.toBaseIO with
  | .ok a => return .ok a
  | .error e => return .error (fileErrorOf e)

/-- Eight random bytes as a number. -/
def randomSeed : IO UInt64 := do
  return (← IO.getRandomBytes 8).foldl (fun n b => n * 256 + b.toUInt64) 0

/-- The host that the operating system is. -/
def systemHost (started : Nat) : Host IO where
  read path := outcomeOf (IO.FS.readBinFile path)
  write path bytes := outcomeOf (IO.FS.writeBinFile path bytes)
  clock := do
    let now ← IO.monoMsNow
    return { elapsed := Float.ofNat (now - started), unix := Float.ofNat now }
  entropy := randomSeed

end GameRunner

open GameRunner in
/-- Runs the program. -/
def main (args : List String) : IO UInt32 := do
  let report ← CommandLine.run (systemHost (← IO.monoMsNow)) "gmlrun" args
  (← IO.getStdout).putStr report.out
  (← IO.getStderr).putStr report.err
  return UInt32.ofNat report.exit
