import JavaStubs.Build.Host
import JavaStubs.Config.Basic
import JavaStubs.Run.Log
import JavaStubs.Run.Writing

/-! A project as the host of a build: where its stubs go, which source sets it has, and the file that tells the next
build step what was learned. -/

namespace JavaStubs.Project

/-- The host of a project's build, with nothing learned. -/
def host (settings : Settings) (config : Config) : Host :=
  { output := config.outputFor settings.scope settings.root }

def stateVersion : Int := 1

def statePath (settings : Settings) : FilePath :=
  (settings.buildRoot.child "stubgen").child (settings.scope.word ++ "-build-state.json")

/-- The source sets of a project that declares none: the usual directory, if it exists. -/
def defaultSources (d : Disk) (settings : Settings) : Except Failure (List SourceSet) :=
  let s := Config.defaultSourceSet settings.scope settings.root
  match d.isDir? s.directory with
  | .ok true => .ok [s]
  | .ok false => .ok []
  | .error e => .error (.access e)

def sources (d : Disk) (settings : Settings) (config : Config) : Except Failure (List SourceSet) := do
  let declared ← match config.sourcesFor settings.scope with
    | some sets => pure sets
    | none => defaultSources d settings
  (SourceSet.normalize settings.root d.cwd (declared.map SourceSet.declaration)).mapError fun p =>
    .stub (.sourceSets p)

def stateValue (settings : Settings) (h : Host) : Value :=
  .table [("schema_version", .int stateVersion), ("scope", .text settings.scope.word),
    ("output_directory", .text h.output.text), ("source_roots", .texts (h.roots.map FilePath.text)),
    ("force_compile", .texts (h.forced.map FilePath.text))]

def writeState (settings : Settings) (h : Host) : Action FilePath :=
  Action.writeJson (statePath settings) (stateValue settings h)

end JavaStubs.Project
