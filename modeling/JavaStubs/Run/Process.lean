import JavaStubs.Charset.Decode
import JavaStubs.Number.Elapsed
import JavaStubs.Run.Log

/-! Starting another program and waiting for its end or its time limit. -/

namespace JavaStubs

structure CommandResult where
  code : Int
  stdout : String
  stderr : String
  milliseconds : Int
  deriving Repr, DecidableEq, Inhabited

def CommandResult.combined (r : CommandResult) : String :=
  Text.trim (r.stdout ++ r.stderr)

/-- The code that stands for a program stopped at its time limit. -/
def timeoutCode : Int := 124

/-- Captured output as text; bytes are read leniently as UTF-8. -/
def Captured.asText : Captured → String
  | nothing => ""
  | text s => s
  | bytes data => String.ofList (Charset.decodeLeniently data)

namespace Action

/-- Starts a program: it changes the tree, and its ending is known. -/
def start (command : List String) (directory : FilePath) (limit? : Option Int) : Action Ending := do
  modify fun w => { w with started := w.started ++ [⟨command, directory, limit?⟩] }
  let w ← get
  match w.behaviours with
  | [] => return .notStarted .ENOENT
  | b :: bs =>
    set { w with behaviours := bs, disk := { w.disk with tree := b.change w.disk.tree } }
    return b.ending

def since (begun : Number.Real64) : Action Int := do
  return ((← tick).sub begun |>.scale 1000).truncate

/-- Runs a program to its end. A time limit of zero or less is none. -/
def run (command : List String) (directory : FilePath) (limit : Int) (log? : Option Settings) :
    Action CommandResult := do
  let begun ← tick
  let ending ← start command directory (if 0 < limit then some limit else none)
  let result ← match ending with
    | .exited code stdout stderr => do pure ⟨code, stdout, stderr, ← since begun⟩
    | .timedOut stdout stderr => do
      let note := s!"\ncommand timed out after {limit}s"
      pure ⟨timeoutCode, stdout.asText, Text.trim (stderr.asText ++ note), ← since begun⟩
    | .notStarted errno => throw (.access (.os ⟨errno, some (command.headD "")⟩))
    | .broken failure => throw failure
  if let some settings := log? then
    Log.write settings ⟨.debug, "process", "run-command",
      [("command", .text (" ".intercalate command)), ("cwd", .text directory.text), ("code", .int result.code),
        ("duration_ms", .int result.milliseconds)]⟩
  return result

end Action

end JavaStubs
