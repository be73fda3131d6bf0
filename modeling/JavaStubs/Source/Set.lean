import JavaStubs.FilePath
import JavaStubs.Text.Blank
import JavaStubs.Value.Basic

/-! Source sets: a directory, patterns that pick its files, and how they are to be treated. -/

namespace JavaStubs

/-- How the files of a source set are treated. -/
inductive Mode where
  /-- Decided by the directory's name. -/
  | auto
  | plain
  /-- A library of global variables: each script becomes a class. -/
  | globalVars
  /-- A word that names no mode. -/
  | other (word : String)
  deriving Repr, DecidableEq, Inhabited

namespace Mode

def words : List (String × Mode) :=
  [("auto", auto), ("plain", plain), ("global-vars", globalVars)]

def ofWord (word : String) : Mode :=
  (words.lookup word).getD (other word)

def word : Mode → String
  | auto => "auto"
  | plain => "plain"
  | globalVars => "global-vars"
  | other word => word

/-- Directories of this name hold global variables. -/
def libraryName : String := "vars"

def infer (directory : FilePath) : Mode :=
  if directory.name = libraryName then globalVars else plain

def settle (directory : FilePath) : Mode → Mode
  | auto => infer directory
  | mode => mode

end Mode

structure SourceSetOf (Pattern : Type) where
  directory : FilePath
  includes : List Pattern
  excludes : List Pattern
  lineEnding : Option String
  modelEncoding : Option String
  mode : Mode
  deriving Repr, Inhabited

abbrev SourceSet := SourceSetOf String

/-- A source set whose patterns were not looked at yet. -/
abbrev Declaration := SourceSetOf Value

instance : DecidableEq SourceSet := fun a b =>
  decidable_of_iff (a.directory = b.directory ∧ a.includes = b.includes ∧ a.excludes = b.excludes ∧
    a.lineEnding = b.lineEnding ∧ a.modelEncoding = b.modelEncoding ∧ a.mode = b.mode)
    (by cases a; cases b; simp)

namespace SourceSet

def defaultIncludes : List String :=
  ["**/*.groovy"]

def ofDirectory (directory : FilePath) : SourceSet :=
  ⟨directory, defaultIncludes, [], none, none, .auto⟩

def isLibrary (s : SourceSet) : Bool :=
  s.mode = .globalVars

def declaration (s : SourceSet) : Declaration :=
  { s with includes := s.includes.map .text, excludes := s.excludes.map .text }

def toValue (s : SourceSet) : Value :=
  .table [("directory", .text s.directory.text), ("includes", .texts s.includes), ("excludes", .texts s.excludes),
    ("line_ending", .ofText? s.lineEnding), ("model_encoding", .ofText? s.modelEncoding),
    ("mode", .text s.mode.word)]

inductive Problem where
  | blankDirectory
  | unknownMode (word : String) (directory : FilePath)
  | emptyPattern (label : String) (directory : FilePath)
  | duplicate (directory : FilePath)
  | secondLibrary (first second : FilePath)
  deriving Repr, DecidableEq, Inhabited

def Problem.message : Problem → String
  | blankDirectory => "source set without a directory"
  | unknownMode word directory => s!"unknown source set mode `{word}` for {directory.text}"
  | emptyPattern label directory => s!"empty {label} pattern in source set {directory.text}"
  | duplicate directory => s!"source directory configured more than once: {directory.text}"
  | secondLibrary first second =>
    s!"only one global variable library per scope is supported: {first.text} and {second.text}"

def pattern? : Value → Option String
  | .text s => if Text.isBlankText s then none else some s
  | _ => none

def isUnknown : Mode → Bool
  | .other _ => true
  | _ => false

def place (root directory : FilePath) : FilePath :=
  directory.absolute root

def settleOne (root cwd : FilePath) (d : Declaration) : Except Problem SourceSet :=
  if Text.isBlankText d.directory.text then .error .blankDirectory
  else if isUnknown d.mode then .error (.unknownMode d.mode.word d.directory)
  else
    let directory := (place root d.directory).absolute cwd
    match d.includes.mapM pattern? with
    | none => .error (.emptyPattern "include" directory)
    | some includes =>
      match d.excludes.mapM pattern? with
      | none => .error (.emptyPattern "exclude" directory)
      | some excludes =>
        .ok { d with directory, includes, excludes, mode := d.mode.settle directory }

/-- Whether a settled set can stand beside those before it. -/
def conflict? (before : List SourceSet) (s : SourceSet) : Option Problem :=
  if before.any fun b => b.directory = s.directory then some (.duplicate s.directory)
  else if s.isLibrary then (before.find? isLibrary).map fun b => .secondLibrary b.directory s.directory
  else none

def settleAll (root cwd : FilePath) : (before : List SourceSet) → List Declaration → Except Problem (List SourceSet)
  | before, [] => .ok before
  | before, d :: ds =>
    match settleOne root cwd d with
    | .error problem => .error problem
    | .ok s =>
      match conflict? before s with
      | some problem => .error problem
      | none => settleAll root cwd (before ++ [s]) ds

/-- Settles a list of declarations: directories become absolute, and each set gets a definite mode. -/
def normalize (root cwd : FilePath) (ds : List Declaration) : Except Problem (List SourceSet) :=
  settleAll root cwd [] ds

end SourceSet

structure Script where
  path : FilePath
  baseName : String
  deriving Repr, DecidableEq, Inhabited

def Script.ofPath (cwd p : FilePath) : Script :=
  let path := p.absolute cwd
  ⟨path, path.name⟩

end JavaStubs
