import JavaStubs.Disk.RealPath
import JavaStubs.Run.World
import JavaStubs.Scope
import JavaStubs.Text.Blank

/-! The settings of one run: its name, the project, the scope, and how output is given. Arguments come before the
environment, and the environment before defaults; an empty text counts as absent. -/

namespace JavaStubs

inductive OutputFormat where
  | text
  | json
  deriving Repr, DecidableEq, Inhabited

def OutputFormat.word : OutputFormat → String
  | text => "text"
  | json => "json"

structure Settings where
  runId : String
  root : FilePath
  scope : Scope := .main
  format : OutputFormat := .text
  verbose : Bool := false
  quiet : Bool := false
  logJson : Bool := false
  deriving Repr, DecidableEq, Inhabited

namespace Settings

/-- What the caller of a run may ask for. -/
structure Request where
  runId : Option String := none
  root : Option String := none
  scope : String := Scope.main.word
  format : OutputFormat := .text
  verbose : Bool := false
  quiet : Bool := false
  logJson : Bool := false
  deriving Repr, Inhabited

def buildRoot (s : Settings) : FilePath :=
  s.root.child "target"

def rootVariable : String := "STUBGEN_PROJECT_ROOT"

def runIdVariable : String := "STUBGEN_RUN_ID"

def logVariable : String := "STUBGEN_LOG_JSON"

def given? : Option String → Option String
  | some "" => none
  | s => s

/-- Whether a variable is switched on. The accepted words have ASCII letters, and no other letter has one of
these as its small form. -/
def isOn (value : Option String) : Bool :=
  let word := (Text.trim (value.getD "")).map Char.toLower
  ["1", "true", "yes", "on"].contains word

def flag (environment : List (String × String)) (name : String) : Bool :=
  isOn (environment.lookup name)

def revisionName : RevisionAnswer → String
  | .unavailable => "unknown"
  | .text s =>
    let s := Text.trim s
    if s = "" then "unknown" else s

def makeRunId (moment : Moment) (revision : RevisionAnswer) (start : String := "stubgen") : String :=
  s!"{start}-{moment.compact}-{revisionName revision}"

/-- The canonical form of a directory. A loop of links has none. -/
def resolve (d : Disk) (p : FilePath) : Except Failure FilePath :=
  if holdsNul p.text then .error (.access .nul)
  else
    let q := d.canonical p
    match d.stat q with
    | .error (.os e) => if e.errno = .ELOOP then .error (.linkLoop q) else .ok q
    | _ => .ok q

def ofRequest (w : World) (r : Request) : Except Failure Settings := do
  let named := (given? r.root).orElse fun _ => given? (w.environment.lookup rootVariable)
  let root ← resolve w.disk (.ofText (named.getD "."))
  if !(← (w.disk.isDir? root).mapError .access) then throw (.stub (.rootNotADirectory root))
  match Scope.ofWord? r.scope with
  | none => throw (.stub (.unknownScope r.scope))
  | some scope =>
    let id := (given? r.runId).orElse fun _ => given? (w.environment.lookup runIdVariable)
    return {
      runId := id.getD (makeRunId w.moment w.revision)
      root
      scope
      format := r.format
      verbose := r.verbose
      quiet := r.quiet
      logJson := r.logJson || flag w.environment logVariable }

end Settings

end JavaStubs
