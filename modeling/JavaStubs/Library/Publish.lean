import JavaStubs.Charset.Decode
import JavaStubs.Library.Plan
import JavaStubs.Run.Log
import JavaStubs.Run.Writing
import JavaStubs.Source.Scan
import JavaStubs.Text.Lines

/-! Publishing a library of global variables: every script becomes a wrapper class, classes of scripts that are gone
are removed, and last the registry lists what is there. -/

namespace JavaStubs.Library

structure Published where
  sourceSet : SourceSet
  wrappers : List Wrapper
  registry : Registry
  rewritten : Nat
  deriving Repr, DecidableEq, Inhabited

/-- The lines of a class body for the bytes of a script in an encoding. -/
def bodyOf (encoding : String) (data : List UInt8) : Except CharsetError (List String) := do
  let charset ← Charset.named false encoding
  let cs ← charset.decodeFile data
  return (Text.linesOf cs).map fun line => String.ofList (bodyLine line)

def readBody (d : Disk) (p : FilePath) (encoding : String) : Except Failure (List String) :=
  let unread (e : ReadError) : Failure := .stub (.cannotReadScript p e)
  if holdsNul encoding then .error (.charset .nulInName)
  else match d.read p with
    | .error (.os e) => .error (unread (.access e))
    | .error .nul => .error (.access .nul)
    | .ok data => (bodyOf encoding data).mapError fun e => unread (.charset e)

/-- Writes the wrapper of one script and says whether its file changed. -/
def publishWrapper (settings : Settings) (encoding : String) (w : Wrapper) : Action Bool := do
  let body ← Action.look fun d => readBody d w.source encoding
  let changed ← Action.writeText w.generated (wrapperText w.className body) encoding
  Log.write settings ⟨.debug, "globalvars", "wrapper",
    [("variable", .text w.name), ("path", .text w.generated.text)]⟩
  return changed

/-- Writes wrappers in order and counts the files that changed. -/
def publishWrappers (settings : Settings) (encoding : String) : List Wrapper → Action Nat
  | [] => return 0
  | w :: ws => do
    let changed ← publishWrapper settings encoding w
    let count ← publishWrappers settings encoding ws
    return (if changed then 1 else 0) + count

/-- Files of the package directory that look like wrappers, by name. A directory that may not be listed for
want of permission counts as empty. -/
def wrapperFiles (d : Disk) (dir : FilePath) : Except AccessError (List FilePath) :=
  match d.isDir? dir with
  | .error e => .error e
  | .ok false => .ok []
  | .ok true =>
    match d.stat dir with
    | .error e => .error e
    | .ok (l, _) =>
      match d.list dir l with
      | .error e => if e.errno.isPermission then .ok [] else .error (.os e)
      | .ok entries => .ok ((entries.filter fun e => Text.endsWith e.1 scriptSuffix).map fun e => dir.child e.1)

/-- Removes those of the given files that are not to be kept, and names the removed ones. -/
def removeStale (keep : List FilePath) : List FilePath → Action (List FilePath)
  | [] => return []
  | p :: ps => do
    let isFile ← Action.look fun d => (d.isFile? p).mapError .access
    if isFile && !keep.contains p then
      Action.change fun d => d.unlink p
      return p :: (← removeStale keep ps)
    else removeStale keep ps

def prune (dir : FilePath) (keep : List FilePath) : Action (List FilePath) :=
  Acting.mapFailure (Failure.refused (.cannotPrune dir)) do
    let files ← Action.look fun d => (wrapperFiles d dir).mapError .access
    removeStale keep files

def logRemoved (settings : Settings) : List FilePath → Action Unit
  | [] => return ()
  | p :: ps => do
    Log.write settings ⟨.debug, "globalvars", "prune", [("path", .text p.text)]⟩
    logRemoved settings ps

/-- The source set that takes the place of the library. It keeps the includes and drops the excludes. -/
def publishedSet (s : SourceSet) (directory : FilePath) : SourceSet :=
  { s with directory, excludes := [], mode := .plain }

/-- Writes the wrappers of a library below an intermediate directory, and counts the files that changed. Nothing is
written if two scripts collide. -/
def publishClasses (settings : Settings) (s : SourceSet) (intermediate : FilePath) (encoding : String) :
    Action (List Wrapper × Nat) := do
  Log.write settings ⟨.info, "globalvars", "discovered", [("directory", .text s.directory.text),
    ("message", .text "Discovered Pipeline Library global Vars, will handle in a custom way")]⟩
  let scripts ← Action.look fun d => d.scan s
  let wrappers ← Acting.ofExcept ((plan intermediate scripts).mapError .stub)
  let _ ← Action.ensureDir (packageDir intermediate)
  let count ← publishWrappers settings encoding wrappers
  return (wrappers, count)

/-- Removes stale wrappers, then writes the registry and says whether its file changed. -/
def publishRegistry (settings : Settings) (intermediate : FilePath) (encoding : String) (wrappers : List Wrapper) :
    Action Bool := do
  let removed ← prune (packageDir intermediate) (wrappers.map (·.generated))
  logRemoved settings removed
  let registry := registryOf intermediate wrappers
  Action.writeText registry.path (registryText registry.entries) encoding

/-- Publishes a library below an intermediate directory: its classes first, the registry last. -/
def publish (settings : Settings) (s : SourceSet) (intermediate : FilePath) (encoding : String := "utf-8") :
    Action Published := do
  let (wrappers, count) ← publishClasses settings s intermediate encoding
  let changed ← publishRegistry settings intermediate encoding wrappers
  let rewritten := count + if changed then 1 else 0
  let sourceSet := publishedSet s (intermediate.absolute (← Action.disk).cwd)
  Log.write settings ⟨.info, "globalvars", "transformed",
    [("variables", .int wrappers.length), ("rewritten", .int rewritten)]⟩
  return ⟨sourceSet, wrappers, registryOf intermediate wrappers, rewritten⟩

end JavaStubs.Library
