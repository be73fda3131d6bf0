import JavaStubs.Failure
import JavaStubs.Library.Naming

/-! Which class each script of a library becomes and where it goes. Scripts whose variables differ only in case have
one class name, and then there is no plan. -/

namespace JavaStubs.Library

/-- The class made of a script. -/
structure Wrapper where
  name : String
  className : String
  source : FilePath
  generated : FilePath
  deriving Repr, DecidableEq, Inhabited

/-- The file that lists all variables with their classes. -/
structure Registry where
  path : FilePath
  entries : List (String × String)
  deriving Repr, DecidableEq, Inhabited

def scriptSuffix : String := SuffixMapping.groovyToJava.source

def classOf (s : Script) : String :=
  className (variableName s.baseName)

def packageDir (intermediate : FilePath) : FilePath :=
  intermediate.child package

def registryPath (intermediate : FilePath) : FilePath :=
  intermediate.child (registryStem ++ scriptSuffix)

def wrapperOf (intermediate : FilePath) (s : Script) : Wrapper where
  name := variableName s.baseName
  className := classOf s
  source := s.path
  generated := (packageDir intermediate).child (classOf s ++ scriptSuffix)

def classNames (scripts : List Script) : List String :=
  ((scripts.map classOf).eraseDups).mergeSort fun a b => decide (a ≤ b)

/-- Class names that more than one script has, each with its scripts in order. -/
def collisions (scripts : List Script) : List Collision :=
  (classNames scripts).filterMap fun name =>
    let group := scripts.filter fun s => classOf s = name
    if 1 < group.length then some ⟨name, group.map (·.path)⟩ else none

/-- The wrappers of a library, or the collisions that rule them out. -/
def plan (intermediate : FilePath) (scripts : List Script) : Except StubError (List Wrapper) :=
  match collisions scripts with
  | [] => .ok (scripts.map (wrapperOf intermediate))
  | groups => .error (.collision groups)

/-- Entries by variable, then by class. -/
def entryLess (a b : String × String) : Bool :=
  a.1 < b.1 || (a.1 = b.1 && decide (a.2 ≤ b.2))

def registryOf (intermediate : FilePath) (wrappers : List Wrapper) : Registry where
  path := registryPath intermediate
  entries := (wrappers.map fun w => (w.name, w.className)).mergeSort entryLess

end JavaStubs.Library
