import JavaStubs.Charset.Basic
import JavaStubs.Config.Shape
import JavaStubs.Disk.Locate
import JavaStubs.Source.Set
import JavaStubs.Toml.Problem

/-! Everything that can go wrong, by cause. The tool's own errors belong to a class with an exit code; all other
failures are unexpected ones, which the command line reports as internal errors. -/

namespace JavaStubs

inductive ErrorClass where
  | general
  | configuration
  | collision
  | fileSystem
  | compiler
  deriving Repr, DecidableEq, Inhabited

namespace ErrorClass

def exitCode : ErrorClass → Nat
  | general => 99
  | configuration => 3
  | collision => 3
  | fileSystem => 4
  | compiler => 5

def kind : ErrorClass → String
  | general => "generic_error"
  | configuration => "configuration_error"
  | collision => "variable_collision"
  | fileSystem => "filesystem_error"
  | compiler => "compiler_error"

end ErrorClass

/-- Scripts whose variables would have one class name. -/
structure Collision where
  className : String
  scripts : List FilePath
  deriving Repr, DecidableEq, Inhabited

def Collision.text (c : Collision) : String :=
  s!"{c.className} <- " ++ ", ".intercalate (c.scripts.map FilePath.text)

inductive ReadError where
  | access (e : OsError)
  | charset (e : CharsetError)
  deriving Repr, DecidableEq, Inhabited

def ReadError.message : ReadError → String
  | access e => e.message
  | charset e => e.message

inductive StubError where
  | rootNotADirectory (root : FilePath)
  | unknownScope (word : String)
  | configNotFound (path : FilePath)
  | cannotReadConfig (path : FilePath) (e : OsError)
  | malformedConfig (path : FilePath) (e : Toml.Error)
  | invalidConfig (origin : String) (v : Config.Violation)
  | sourceSets (p : SourceSet.Problem)
  | relativeDirectory (directory : FilePath)
  | openMode (directory : FilePath)
  | unknownOption (key : String)
  | collision (groups : List Collision)
  | cannotCreateDirectory (path : FilePath) (e : OsError)
  | cannotEncode (path : FilePath) (encoding : String) (e : CharsetError)
  | cannotWrite (path : FilePath) (e : OsError)
  | missingDirectory (directory : FilePath)
  | notADirectory (directory : FilePath)
  | cannotScan (directory : FilePath) (e : OsError)
  | cannotReadScript (path : FilePath) (e : ReadError)
  | cannotPrune (directory : FilePath) (e : OsError)
  | cannotListStubs (directory : FilePath) (e : OsError)
  | outputNotADirectory (directory : FilePath)
  | cannotReset (e : OsError)
  | addedAfterRun (file : FilePath)
  | noTarget
  | alreadyRan
  | emptyCommand
  | cannotStart (program : String) (e : OsError)
  | timedOut (seconds : Int)
  | exited (code : Int) (detail : String)
  | compilerFailed (reason : String)
  /-- An error of a class with a message of its own. -/
  | raised (cls : ErrorClass) (message : String)
  deriving Inhabited

namespace StubError

def errorClass : StubError → ErrorClass
  | rootNotADirectory _ | unknownScope _ | configNotFound _ | cannotReadConfig .. | malformedConfig ..
  | invalidConfig .. | sourceSets _ | relativeDirectory _ | openMode _ | unknownOption _ => .configuration
  | collision _ => .collision
  | cannotCreateDirectory .. | cannotEncode .. | cannotWrite .. | missingDirectory _ | notADirectory _
  | cannotScan .. | cannotReadScript .. | cannotPrune .. | cannotListStubs .. | outputNotADirectory _
  | cannotReset _ => .fileSystem
  | addedAfterRun _ | noTarget | alreadyRan | emptyCommand | cannotStart .. | timedOut _ | exited ..
  | compilerFailed _ => .compiler
  | raised cls _ => cls

def message : StubError → String
  | rootNotADirectory root => s!"project root is not a directory: {root.text}"
  | unknownScope word => s!"unknown scope `{word}` (expected one of main, test)"
  | configNotFound path => s!"configuration file not found: {path.text}"
  | cannotReadConfig path e => s!"cannot read configuration {path.text}: {e.message}"
  | malformedConfig path e => s!"malformed TOML in {path.text}: {e.message}"
  | invalidConfig origin v => s!"invalid stubgen configuration in {origin} at {v.location}: {v.departure.message}"
  | sourceSets p => p.message
  | relativeDirectory directory =>
    s!"source set directory must be absolute after normalization: {directory.text}"
  | openMode directory => s!"source set mode was not resolved: {directory.text}"
  | unknownOption key => s!"unknown stub compiler option: {key}"
  | collision groups =>
    "global variable names collide on wrapper class: " ++ "; ".intercalate (groups.map Collision.text)
  | cannotCreateDirectory path e => s!"failed to create directory {path.text}: {e.message}"
  | cannotEncode path encoding e => s!"cannot encode {path.text} as {encoding}: {e.message}"
  | cannotWrite path e => s!"failed to write {path.text}: {e.message}"
  | missingDirectory directory => s!"source directory does not exist: {directory.text}"
  | notADirectory directory => s!"source directory is not a directory: {directory.text}"
  | cannotScan directory e => s!"failed to scan source directory {directory.text}: {e.message}"
  | cannotReadScript path e => s!"failed to read global variable script {path.text}: {e.message}"
  | cannotPrune directory e => s!"failed to prune stale wrappers in {directory.text}: {e.message}"
  | cannotListStubs directory e => s!"failed to list stub directory {directory.text}: {e.message}"
  | outputNotADirectory directory => s!"Failed to get output folder: {directory.text} is not a directory"
  | cannotReset e => s!"Failed to get output folder: {e.message}"
  | addedAfterRun file => s!"cannot add {file.text}: stub compiler already ran"
  | noTarget => "stub compiler target directory is not set"
  | alreadyRan => "stub compiler already ran for this invocation"
  | emptyCommand => "stub compiler command is empty"
  | cannotStart program e => s!"failed to start stub compiler `{program}`: {e.message}"
  | timedOut seconds => s!"stub compiler timed out after {seconds}s"
  | exited code detail => s!"stub compiler exited with code {code}: {detail}"
  | compilerFailed reason => s!"stub compiler failed: {reason}"
  | raised _ message => message

end StubError

inductive Failure where
  | stub (e : StubError)
  | access (e : AccessError)
  | charset (e : CharsetError)
  /-- A project directory that is a loop of links. -/
  | linkLoop (path : FilePath)
  /-- A value that should have been a table. -/
  | notATable (v : Value)
  /-- A compiler that cannot compile. -/
  | unimplemented
  | runtime (message : String)
  | badValue (message : String)
  deriving Inhabited

def Value.kindName : Value → String
  | .null => "NoneType"
  | .bool _ => "bool"
  | .int _ => "int"
  | .real _ => "float"
  | .text _ => "str"
  | .date _ => "datetime.date"
  | .time _ => "datetime.time"
  | .dateTime _ => "datetime.datetime"
  | .array _ => "list"
  | .table _ => "dict"

def Failure.message : Failure → String
  | stub e => e.message
  | access e => e.message
  | charset e => e.message
  | linkLoop path => "Symlink loop from " ++ Text.quoted path.text
  | notATable v => s!"'{v.kindName}' object has no attribute 'get'"
  | unimplemented => ""
  | runtime message => message
  | badValue message => message

/-- The failure of an operation that the system refused, given a cause of the tool's own. A text that cannot be a
path stays what it is. -/
def Failure.refused (cause : OsError → StubError) : Failure → Failure
  | .access (.os e) => .stub (cause e)
  | f => f

end JavaStubs
