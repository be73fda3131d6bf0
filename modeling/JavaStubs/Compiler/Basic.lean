import JavaStubs.Compiler.Template
import JavaStubs.Disk.Stubs
import JavaStubs.Run.Process
import JavaStubs.Source.Suffix

/-! Stub compilers. A compiler gathers files and options and compiles them once; after that it takes no more files. -/

namespace JavaStubs

structure CommandSpec where
  command : List String
  directory : FilePath
  timeout : Int := 0
  log? : Option Settings := none
  deriving Repr, Inhabited

/-- How a compiler generates stubs. -/
inductive Engine where
  /-- Notes the request and generates nothing. -/
  | dry
  /-- Has no way to generate stubs. -/
  | missing
  /-- Changes the tree and gives a count or a failure. -/
  | builtin (run : Request → FileTree → Except Failure Int × FileTree)
  | command (spec : CommandSpec)
  deriving Inhabited

def Engine.isDry : Engine → Bool
  | dry => true
  | _ => false

structure Compiler where
  engine : Engine
  target? : Option FilePath := none
  classPath : List String := []
  options : List (String × String) := []
  files : List FilePath := []
  ran : Bool := false
  /-- The request that was compiled, where the engine notes it. -/
  noted? : Option Request := none
  deriving Inhabited

namespace Compiler

/-- A compiler that runs a command, which must have at least one word. -/
def ofCommand (spec : CommandSpec) : Except StubError Compiler :=
  if spec.command.isEmpty then .error .emptyCommand else .ok { engine := .command spec }

def setOption (c : Compiler) (key value : String) : Except StubError Compiler :=
  if key = sourceEncodingKey then
    .ok { c with options := (c.options.filter (·.1 ≠ key)) ++ [(key, value)] }
  else .error (.unknownOption key)

def add (c : Compiler) (file : FilePath) : Except StubError Compiler :=
  if c.ran then .error (.addedAfterRun file) else .ok { c with files := c.files ++ [file] }

def request (c : Compiler) : Except StubError Request :=
  match c.target? with
  | none => .error .noTarget
  | some target => .ok ⟨target, c.classPath, c.options, c.files⟩

def configure (c : Compiler) (target : FilePath) (classPath : List String) (encoding : Option String) : Compiler :=
  let c := { c with target? := some target, classPath }
  match encoding with
  | none => c
  | some e =>
    match c.setOption sourceEncodingKey e with
    | .ok c => c
    | .error _ => c

def stubEndings : List String :=
  SuffixMapping.standard.map (·.target)

def judge (timeout : Int) (r : CommandResult) : Except StubError Unit :=
  if r.code = timeoutCode ∧ Text.contains r.stderr "timed out" then .error (.timedOut timeout)
  else if r.code ≠ 0 then
    let detail := r.combined
    .error (.exited r.code (if detail = "" then "no output" else detail))
  else .ok ()

/-- Runs a command on a request and counts the stubs that are new or changed. Without files it is not run. -/
def runCommand (spec : CommandSpec) (r : Request) : Action Int := do
  if r.files.isEmpty then return 0
  let before ← Action.look fun d => d.times r.target stubEndings
  let line := r.commandLine spec.command
  let result ← Acting.mapFailure (Failure.refused (.cannotStart (line.headD "")))
    (Action.run line spec.directory spec.timeout spec.log?)
  Acting.ofExcept ((judge spec.timeout result).mapError .stub)
  let after ← Action.look fun d => d.times r.target stubEndings
  return countChanged before after

end Compiler

namespace Engine

def notes : Engine → Bool
  | dry | builtin _ => true
  | missing | command _ => false

def generate (engine : Engine) (r : Request) : Action Int :=
  match engine with
  | dry => return 0
  | missing => throw .unimplemented
  | builtin run => do
    let w ← get
    let (result, tree) := run r w.disk.tree
    set { w with disk := { w.disk with tree } }
    Acting.ofExcept result
  | command spec => Compiler.runCommand spec r

end Engine

end JavaStubs
