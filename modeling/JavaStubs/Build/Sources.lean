import JavaStubs.Build.Basic
import JavaStubs.Library.Publish

/-! Handing source sets to the compiler. A library of global variables is published first, and the published classes
take its place; a file that several sets hold is handed over once. -/

namespace JavaStubs

structure Outcome where
  count : Int
  files : List FilePath
  sourceSets : List SourceSet
  library? : Option Library.Published
  deriving Repr, DecidableEq, Inhabited

def summary (count : Int) : String :=
  if count = 0 then "No sources found for Java stub generation"
  else s!"Generated {count} Java stub" ++ if 1 < count then "s" else ""

namespace BuildAction

/-- Hands over the scripts that were not handed over before. -/
def addScripts (settings : Settings) (files : List FilePath) : List Script → BuildAction (List FilePath)
  | [] => return files
  | s :: ss => do
    if files.contains s.path then addScripts settings files ss
    else
      onWorld (Log.write settings ⟨.debug, "stubs", "add", [("path", .text s.path.text)]⟩)
      onCompiler (·.add s.path)
      force s.path
      addScripts settings (files ++ [s.path]) ss

def effectiveSet (settings : Settings) (intermediate : FilePath) (encoding : String) (s : SourceSet) :
    BuildAction (SourceSet × Option Library.Published) := do
  if s.mode = .auto then throw (.stub (.openMode s.directory))
  addRoot s.directory
  if s.isLibrary then
    let published ← onWorld (Library.publish settings s intermediate encoding)
    addRoot published.sourceSet.directory
    return (published.sourceSet, some published)
  else return (s, none)

structure Gathered where
  files : List FilePath := []
  sourceSets : List SourceSet := []
  library? : Option Library.Published := none

def addSets (settings : Settings) (intermediate : FilePath) (encoding : String) :
    Gathered → List SourceSet → BuildAction Gathered
  | g, [] => return g
  | g, s :: ss => do
    let (current, published?) ← effectiveSet settings intermediate encoding s
    let scripts ← look fun d => d.scan current
    let files ← addScripts settings g.files scripts
    addSets settings intermediate encoding
      { files, sourceSets := g.sourceSets ++ [current], library? := published?.orElse fun _ => g.library? } ss

/-- A failure of the compiler counts as one of the tool's own. -/
def compilerFailure : Failure → Failure
  | .stub e => .stub e
  | f => .stub (.compilerFailed f.message)

/-- Hands over all source sets, after telling the host where the stubs go. -/
def handOver (settings : Settings) (sets : List SourceSet) (intermediate : FilePath) (encoding : String) :
    BuildAction Gathered := do
  addRoot (← get).host.output
  addSets settings intermediate encoding {} sets

/-- Hands over source sets and compiles once. -/
def compileSources (settings : Settings) (sets : List SourceSet) (intermediate : FilePath)
    (encoding : String := "utf-8") : BuildAction Outcome := do
  let g ← handOver settings sets intermediate encoding
  let count ← Acting.mapFailure compilerFailure compile
  onWorld (Log.write settings ⟨.info, "stubs", "compile", [("generated", .int count), ("files", .int g.files.length),
    ("message", .text (summary count))]⟩)
  return ⟨count, g.files, g.sourceSets, g.library?⟩

end BuildAction

end JavaStubs
