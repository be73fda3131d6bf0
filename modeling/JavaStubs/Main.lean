import JavaStubs.CommandLine.Listing
import JavaStubs.CommandLine.Program

/-! The program on a project whose files are listed on the standard input. What a run writes stays in memory, no other
program can be started, and the clock stands at the epoch. -/

namespace JavaStubs.CommandLine

def listedRoot : FilePath :=
  FilePath.root.child "project"

def listedWorld (environment : List (String × String)) (lines : List String) : World :=
  let d : Disk := { tree := .empty, cwd := listedRoot }
  { disk := ofListing (d.ensureDirs listedRoot).1 lines, moment := ⟨1970, 1, 1, 0, 0, 0, 0⟩, environment }

/-- Reads lines up to the end of input, in reverse. -/
partial def readLines (input : IO.FS.Stream) (lines : List String) : IO (List String) := do
  let line ← input.getLine
  if line.isEmpty then return lines
  readLines input ((if Text.endsWith line "\n" then Text.dropEnd line 1 else line) :: lines)

def environmentNames : List String :=
  [Settings.rootVariable, Settings.runIdVariable, Settings.logVariable]

end JavaStubs.CommandLine

open JavaStubs JavaStubs.CommandLine

def main (args : List String) : IO UInt32 := do
  let lines ← readLines (← IO.getStdin) []
  let environment ← environmentNames.filterMapM fun name => do
    return (← IO.getEnv name).map fun value => (name, value)
  let (result, world) := (ExceptT.run (CommandLine.run args)).run (listedWorld environment lines.reverse)
  IO.print world.stdout
  IO.eprint world.stderr
  match result with
  | .ok exit => return UInt32.ofNat exit.code
  | .error _ => return UInt32.ofNat ErrorClass.general.exitCode
