import JavaStubs.Disk.Walk
import JavaStubs.Failure

/-! The times of stub files: what they are, and which files are new or changed between two looks. -/

namespace JavaStubs

/-- Modification times of files by path, in the order of the walk. -/
abbrev Times := List (FilePath × Stamp)

namespace Disk

def modified? (d : Disk) (l : Loc) : Option Stamp :=
  match d.tree.get? l with
  | some (.file _ modified _) => some modified
  | _ => none

/-- Why a file that was met cannot be asked for its time, if so. -/
def unasked? (d : Disk) (m : Met) : Option AccessError :=
  (d.barred? m.path).map fun errno => .os (.at errno m.path)

/-- The times of the files below a directory whose names have one of the given endings. Each is asked for when it is
met, before the walk goes on. -/
def times (d : Disk) (p : FilePath) (endings : List String) : Except Failure Times := do
  if !(← (d.isDir? p).mapError .access) then return []
  let trace := d.stubFiles p
  let wanted := trace.items.filter fun m => endings.any fun e => Text.endsWith m.path.name e
  match (wanted.findSome? d.unasked?).or trace.stop? with
  | some e => throw ((Failure.access e).refused (.cannotListStubs p))
  | none => return wanted.filterMap fun m => (d.modified? m.loc).map fun t => (m.path, t)

end Disk

/-- How many files are new or have another time than before. -/
def countChanged (before after : Times) : Nat :=
  after.countP fun (p, t) => before.lookup p ≠ some t

end JavaStubs
