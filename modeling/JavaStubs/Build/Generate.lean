import JavaStubs.Build.Project
import JavaStubs.Build.Sources
import JavaStubs.Disk.Files

/-! Generating the stubs of a project: settle the source sets, hand them to the compiler, and set the times of all
stubs back, so that no stub is taken for newer than the class compiled from its source. -/

namespace JavaStubs

def epoch : Stamp := .known 0

namespace Action

def resetFiles : List Disk.Met → Action Unit
  | [] => return ()
  | m :: ms => do
    change fun d => d.setModified m.path m.loc epoch
    resetFiles ms

/-- Sets the times of all stubs below a directory back and counts them. What comes before a refused step has
been set. -/
def resetTimes (p : FilePath) : Action Nat := do
  let isDir ← look fun d => (d.isDir? p).mapError .access
  if !isDir then throw (.stub (.outputNotADirectory p))
  Acting.mapFailure (Failure.refused .cannotReset) do
    let trace := (← disk).stubFiles p
    resetFiles trace.items
    match trace.stop? with
    | some e => throw (.access e)
    | none => return trace.items.length

end Action

structure Report where
  scope : Scope
  output : FilePath
  count : Int
  files : List FilePath
  roots : List FilePath
  /-- The names of the global variables. -/
  names : List String
  normalized : Nat
  dryRun : Bool
  deriving Repr, DecidableEq, Inhabited

def Report.toFields (r : Report) : List (String × Value) :=
  [("scope", .text r.scope.word), ("output_directory", .text r.output.text), ("generated_count", .int r.count),
    ("files", .texts (r.files.map FilePath.text)), ("source_roots", .texts (r.roots.map FilePath.text)),
    ("global_variables", .texts r.names), ("normalized", .int r.normalized), ("dry_run", .bool r.dryRun)]

/-- The compiler that a configuration asks for. Without a command nothing is generated. -/
def Compiler.ofConfig (settings : Settings) (config : Config) (dryRun : Bool) : Action Compiler := do
  if dryRun then return { engine := .dry }
  if config.command.isEmpty then
    Log.write settings ⟨Log.warn, "stubs", "no-compiler",
      [("message", .text "no stub compiler command configured; running dry")]⟩
    return { engine := .dry }
  Acting.ofExcept ((ofCommand ⟨config.command, settings.root, config.timeout, some settings⟩).mapError .stub)

namespace BuildAction

def generate (settings : Settings) (config : Config) : BuildAction Report := do
  let sets ← look fun d => Project.sources d settings config
  let output ← onWorld (Action.ensureDir (← get).host.output)
  modify fun b => { b with
    compiler := b.compiler.configure output (config.classPathFor settings.root) config.effectiveEncoding }
  let outcome ← compileSources settings sets (Config.intermediateFor settings.scope settings.root) config.readEncoding
  let normalized ← onWorld (Action.resetTimes output)
  onWorld (Log.write settings ⟨.debug, "stubs", "reset-timestamps",
    [("directory", .text output.text), ("files", .int normalized)]⟩)
  let b ← get
  return {
    scope := settings.scope
    output
    count := outcome.count
    files := outcome.files
    roots := b.host.roots
    names := (outcome.library?.map fun l => l.wrappers.map (·.name)).getD []
    normalized
    dryRun := b.compiler.engine.isDry }

end BuildAction

end JavaStubs
