import JavaStubs.Charset.Decode
import JavaStubs.Config.Basic
import JavaStubs.Disk.Files
import JavaStubs.Failure
import JavaStubs.Text.Lines
import JavaStubs.Toml.Document

/-! Finding and reading the configuration of a project: an explicit file, else the tool's own file, else the tool's
section in the project's common file, else the defaults. -/

namespace JavaStubs.Config

def ownFile : String := "stubgen.toml"

def commonFile : String := "pyproject.toml"

/-- The configuration that a value stands for, if it has the right shape. -/
def parse (v : Value) (origin : String := "<config>") : Except StubError Config :=
  match violation? v with
  | some violation => .error (.invalidConfig origin violation)
  | none => .ok (ofValue v origin)

/-- The configuration that a value stands for. The messages of all violations are written before one is chosen. -/
def interpret (v : Value) (origin : String := "<config>") : Except Failure Config :=
  if reportable v then (parse v origin).mapError .stub else .error (.badValue (Value.overlong none))

theorem interpret_of_reportable {v : Value} {origin : String} (h : reportable v = true) :
    interpret v origin = (parse v origin).mapError .stub :=
  if_pos h

theorem interpret_of_not_reportable {v : Value} {origin : String} (h : reportable v = false) :
    interpret v origin = .error (.badValue (Value.overlong none)) := by
  simp [interpret, h]

def usualFile? (d : Disk) (root : FilePath) : List String → Except Failure (Option FilePath)
  | [] => .ok none
  | name :: names =>
    match d.isFile? (root.child name) with
    | .error e => .error (.access e)
    | .ok true => .ok (some (root.child name))
    | .ok false => usualFile? d root names

/-- The configuration file of a project. One that is asked for must exist. -/
def file? (d : Disk) (root : FilePath) (explicit : Option String) : Except Failure (Option FilePath) :=
  match nonEmpty? explicit with
  | some name =>
    let path := root ++ FilePath.ofText name
    match d.isFile? path with
    | .error e => .error (.access e)
    | .ok true => .ok (some path)
    | .ok false => .error (.stub (.configNotFound path))
  | none => usualFile? d root [ownFile, commonFile]

/-- How reading a document fails. An integer with too many digits does not make it malformed. -/
def unreadable (path : FilePath) (e : Toml.Error) : Failure :=
  match e.problem with
  | .overlong _ => .badValue e.problem.message
  | _ => .stub (.malformedConfig path e)

def readTable (d : Disk) (path : FilePath) : Except Failure Value :=
  match d.read path with
  | .error (.os e) => .error (.stub (.cannotReadConfig path e))
  | .error .nul => .error (.access .nul)
  | .ok data =>
    match Charset.utf8.decodeAll data with
    | .error e => .error (.charset e)
    | .ok cs => (Toml.read (Text.unifyNewlines cs)).mapError (unreadable path)

def table? : Value → Option Value
  | .table fields => some (.table fields)
  | _ => none

def commonSection (v : Value) : Except Failure (Option Value) :=
  match v.field? "tool" with
  | none => .ok none
  | some (.table fields) => .ok ((fields.lookup "stubgen").bind table?)
  | some other => .error (.notATable other)

/-- The tool's settings in a file of its own: all of it, unless it has a section. -/
def ownSection (v : Value) : Value :=
  (((v.field? "tool").bind fun tool => tool.field? "stubgen").bind table?).getD v

def sectionOf (path : FilePath) (v : Value) : Except Failure (Option Value) :=
  if path.name = commonFile then commonSection v else .ok (some (ownSection v))

def load (d : Disk) (root : FilePath) (explicit : Option String) : Except Failure Config := do
  match ← file? d root explicit with
  | none => return {}
  | some path =>
    match ← sectionOf path (← readTable d path) with
    | none => return { origin := path.text }
    | some v => interpret v path.text

end JavaStubs.Config
