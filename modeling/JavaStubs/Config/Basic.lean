import JavaStubs.Config.Shape
import JavaStubs.Scope
import JavaStubs.Source.Set

/-! The configuration of a project: what the documented keys mean, their defaults, and what the command line may
override. -/

namespace JavaStubs

structure Config where
  sourceEncoding : Option String := none
  projectEncoding : Option String := none
  classPath : List String := []
  outputDirectory : Option String := none
  testOutputDirectory : Option String := none
  command : List String := []
  timeout : Nat := 0
  sources : Option (List SourceSet) := none
  testSources : Option (List SourceSet) := none
  /-- Where the configuration comes from. -/
  origin : String := "<defaults>"
  deriving Repr, DecidableEq, Inhabited

namespace Config

def texts : Shape :=
  .list false .text

def sourceSetShape : Shape :=
  .table ["directory"]
    [("directory", .text), ("includes", texts), ("excludes", texts), ("line-ending", .text),
      ("model-encoding", .text), ("mode", .word (Mode.words.map (·.1)))]

def compilerShape : Shape :=
  .table [] [("command", .list true .text), ("timeout-seconds", .count)]

def shape : Shape :=
  .table []
    [("source-encoding", .text), ("project-encoding", .text), ("classpath", texts), ("output-directory", .text),
      ("test-output-directory", .text), ("compiler", compilerShape), ("sources", .list false sourceSetShape),
      ("test-sources", .list false sourceSetShape)]

/-- The violation of the configuration's shape that is reported, if there is one. -/
def violation? (v : Value) : Option Violation :=
  reported? (violations shape v)

/-- Whether the message of every violation can be written. -/
def reportable (v : Value) : Bool :=
  (violations shape v).all fun x => x.departure.shown?.all Value.showable

def textAt (key : String) (v : Value) : Option String :=
  (v.field? key).bind Value.text?

def textsAt (key : String) (v : Value) (default : List String) : List String :=
  match (v.field? key).bind Value.items? with
  | some items => items.filterMap Value.text?
  | none => default

def sourceSetOf (v : Value) : SourceSet where
  directory := .ofText ((textAt "directory" v).getD "")
  includes := textsAt "includes" v SourceSet.defaultIncludes
  excludes := textsAt "excludes" v []
  lineEnding := textAt "line-ending" v
  modelEncoding := textAt "model-encoding" v
  mode := ((textAt "mode" v).map Mode.ofWord).getD .auto

def sourceSetsAt (key : String) (v : Value) : Option (List SourceSet) :=
  ((v.field? key).bind Value.items?).map fun items => items.map sourceSetOf

/-- The configuration that a value of the right shape stands for. -/
def ofValue (v : Value) (origin : String) : Config :=
  let compiler := (v.field? "compiler").getD (.table [])
  { sourceEncoding := textAt "source-encoding" v
    projectEncoding := textAt "project-encoding" v
    classPath := textsAt "classpath" v []
    outputDirectory := textAt "output-directory" v
    testOutputDirectory := textAt "test-output-directory" v
    command := textsAt "command" compiler []
    timeout := (((compiler.field? "timeout-seconds").bind integer?).getD 0).toNat
    sources := sourceSetsAt "sources" v
    testSources := sourceSetsAt "test-sources" v
    origin }

def nonEmpty? : Option String → Option String
  | some "" => none
  | s => s

def effectiveEncoding (c : Config) : Option String :=
  (nonEmpty? c.sourceEncoding).orElse fun _ => c.projectEncoding

def defaultEncoding : String := "utf-8"

def readEncoding (c : Config) : String :=
  (nonEmpty? c.effectiveEncoding).getD defaultEncoding

/-- Values of the command line that take the place of configured ones; empty ones do not count. -/
structure Override where
  sourceEncoding : Option String := none
  outputDirectory : Option String := none
  scope : Scope := .main
  deriving Repr, DecidableEq, Inhabited

def override (c : Config) (o : Override) : Config :=
  let c := match nonEmpty? o.sourceEncoding with
    | some e => { c with sourceEncoding := some e }
    | none => c
  match nonEmpty? o.outputDirectory, o.scope with
  | some d, .main => { c with outputDirectory := some d }
  | some d, .test => { c with testOutputDirectory := some d }
  | none, _ => c

def sourcesFor (c : Config) : Scope → Option (List SourceSet)
  | .main => c.sources
  | .test => c.testSources

def defaultOutput : Scope → String
  | .main => "target/generated-sources/groovy-stubs/main"
  | .test => "target/generated-sources/groovy-stubs/test"

def outputFor (c : Config) (scope : Scope) (root : FilePath) : FilePath :=
  let configured := match scope with
    | .main => c.outputDirectory
    | .test => c.testOutputDirectory
  root ++ .ofText ((nonEmpty? configured).getD (defaultOutput scope))

/-- The class path with every entry seen from the project. -/
def classPathFor (c : Config) (root : FilePath) : List String :=
  c.classPath.map fun entry => (root ++ .ofText entry).text

/-- Where generated sources go on their way to the compiler. -/
def intermediateFor (scope : Scope) (root : FilePath) : FilePath :=
  root ++ match scope with
    | .main => .ofText "target/generated-sources/globalVarsTmp"
    | .test => .ofText "target/generated-test-sources/globalVarsTmp"

def defaultSourceSet (scope : Scope) (root : FilePath) : SourceSet :=
  .ofDirectory (root ++ match scope with
    | .main => .ofText "src/main/groovy"
    | .test => .ofText "src/test/groovy")

def sourceSetsValue : Option (List SourceSet) → Value
  | none => .null
  | some sets => .array (sets.map SourceSet.toValue)

def toValue (c : Config) : Value :=
  .table [("origin", .text c.origin), ("source_encoding", .ofText? c.sourceEncoding),
    ("project_encoding", .ofText? c.projectEncoding), ("classpath", .texts c.classPath),
    ("output_directory", .ofText? c.outputDirectory), ("test_output_directory", .ofText? c.testOutputDirectory),
    ("compiler", .table [("command", .texts c.command), ("timeout_seconds", .int c.timeout)]),
    ("sources", sourceSetsValue c.sources), ("test_sources", sourceSetsValue c.testSources)]

end Config

end JavaStubs
