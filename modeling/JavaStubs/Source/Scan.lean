import JavaStubs.Disk.Walk
import JavaStubs.Failure
import JavaStubs.Source.Pattern
import JavaStubs.Source.Suffix

/-! Finding the scripts of a source set. The result is ordered by relative path, and it is all or nothing: one listing
that is refused anywhere below the directory refuses the scan. -/

namespace JavaStubs

namespace SourceSet

/-- The patterns of which a file has to match one; without any, every file does. -/
def effectiveIncludes (s : SourceSet) : List String :=
  if s.includes.isEmpty then ["**"] else s.includes

def effectiveExcludes (s : SourceSet) : List String :=
  s.excludes ++ Pattern.standardExcludes

/-- Whether a file of the directory belongs to the set, by the names on the way to it. -/
def selects (s : SourceSet) (mappings : List SuffixMapping) (names : List String) : Bool :=
  let path := Text.join "/" names
  SuffixMapping.isCandidate mappings (names.getLast?.getD "") &&
    Pattern.anyPicks s.effectiveIncludes path && !Pattern.anyPicks s.effectiveExcludes path

end SourceSet

def sortByText (paths : List (List String)) : List (List String) :=
  paths.mergeSort fun a b => decide (Text.join "/" a ≤ Text.join "/" b)

def FilePath.descend (p : FilePath) (names : List String) : FilePath :=
  ⟨p.anchor, p.parts ++ names⟩

namespace Disk

def sourceDirectory (d : Disk) (s : SourceSet) : Except Failure Loc := do
  let p := s.directory
  if !p.isAbsolute then throw (.stub (.relativeDirectory p))
  if !(← (d.exists? p).mapError .access) then throw (.stub (.missingDirectory p))
  if !(← (d.isDir? p).mapError .access) then throw (.stub (.notADirectory p))
  match d.stat p with
  | .ok (l, _) => return l
  | .error e => throw (.access e)

def scan (d : Disk) (s : SourceSet) (mappings : List SuffixMapping := SuffixMapping.standard) :
    Except Failure (List Script) := do
  let l ← d.sourceDirectory s
  match d.leaves s.directory l [] with
  | .error e => throw (.stub (.cannotScan s.directory e))
  | .ok leaves =>
    return ((sortByText leaves).filter (s.selects mappings)).map fun names =>
      .ofPath d.cwd (s.directory.descend names)

end Disk

end JavaStubs
