import JavaStubs.FilePath

/-! The build that stubs are made for: it learns of source roots and of files that have to be compiled again. Both are
kept in the order in which they were first named. -/

namespace JavaStubs

/-- What the build was told, as it was told. -/
inductive HostCall where
  | addRoot (p : FilePath)
  | force (p : FilePath)
  deriving Repr, DecidableEq, Inhabited

structure Host where
  output : FilePath
  roots : List FilePath := []
  forced : List FilePath := []
  calls : List HostCall := []
  deriving Repr, DecidableEq, Inhabited

/-- Adds an item at the end unless it is there already. -/
def addNew {α : Type} [DecidableEq α] (xs : List α) (x : α) : List α :=
  if x ∈ xs then xs else xs ++ [x]

namespace Host

def addRoot (h : Host) (cwd p : FilePath) : Host :=
  { h with roots := addNew h.roots (p.absolute cwd), calls := h.calls ++ [.addRoot p] }

def force (h : Host) (cwd p : FilePath) : Host :=
  { h with forced := addNew h.forced (p.absolute cwd), calls := h.calls ++ [.force p] }

end Host

end JavaStubs
