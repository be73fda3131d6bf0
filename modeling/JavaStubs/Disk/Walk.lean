import JavaStubs.Disk.Locate
import JavaStubs.Disk.Size

/-! Walks over the real directories below a path. A walk never goes through a link, and the listing of a directory may
be denied. -/

namespace JavaStubs

/-- What a walk met: the items in order, and the error that stopped it, if one did. -/
structure Trace (α : Type) where
  items : List α
  stop? : Option AccessError
  deriving Inhabited

namespace Trace

def done : Trace α := ⟨[], none⟩

def failed (e : AccessError) : Trace α := ⟨[], some e⟩

/-- What follows a stopped walk is not met. -/
def append (a b : Trace α) : Trace α :=
  match a.stop? with
  | some e => ⟨a.items, some e⟩
  | none => ⟨a.items ++ b.items, b.stop?⟩

def after (items : List α) (t : Trace α) : Trace α :=
  ⟨items ++ t.items, t.stop?⟩

def join : List (Trace α) → Trace α
  | [] => done
  | t :: ts => t.append (join ts)

end Trace

namespace Disk

/-- The entries of the directory `here`, which is asked for as `p`. -/
def list (d : Disk) (p : FilePath) (here : Loc) : Except OsError (List (String × Entry)) :=
  match d.unlisted? p with
  | some errno => .error (.at errno p)
  | none => .ok (d.tree.listing here)

def dirNames (entries : List (String × Entry)) : List String :=
  (entries.filter (·.2.isDir)).map (·.1)

def fileNames (entries : List (String × Entry)) : List String :=
  (entries.filter (·.2.isFile)).map (·.1)

/-- Names in a listing of `here` that do not lead to a directory, broken links among them. -/
def leafNames (d : Disk) (here : Loc) (entries : List (String × Entry)) : List String :=
  (entries.filter fun (c, e) => !d.leadsToDir (c :: here) e).map (·.1)

/-- The names from the start of a walk to each entry below `here` that does not lead to a directory. The result
is all of them or the first refused listing, a directory before what it holds. -/
def leaves (d : Disk) (p : FilePath) (here : Loc) (sofar : List String) : Except OsError (List (List String)) :=
  if _h : d.tree.isDir here then do
    let entries ← d.list p here
    let nested ← (dirNames entries).mapM fun c => leaves d (p.child c) (c :: here) (sofar ++ [c])
    return (d.leafNames here entries).map (fun c => sofar ++ [c]) ++ nested.flatten
  else .error (.at .ENOTDIR p)
  termination_by d.tree.size here
  decreasing_by exact FileTree.size_child_lt _h c

/-- A file met by the stub walk: how it is called and where it is. -/
structure Met where
  path : FilePath
  loc : Loc
  deriving Repr, DecidableEq, Inhabited

def Met.child (m : Met) (c : String) : Met :=
  ⟨m.path.child c, c :: m.loc⟩

/-- The regular files below the directories on a stack, the top one first. The files of a directory come before
those of its subdirectories, and each group in the order of names. -/
def stubFilesFrom (d : Disk) : List Met → Trace Met
  | [] => .done
  | m :: stack =>
    if _h : d.tree.isDir m.loc then
      match _hl : d.list m.path m.loc with
      | .error e => .failed (.os e)
      | .ok entries =>
        .after ((fileNames entries).map m.child) (stubFilesFrom d ((dirNames entries).map m.child ++ stack))
    else .failed (.os (.at .ENOTDIR m.path))
  termination_by stack => FileTree.sumOf (fun m => d.tree.size m.loc) stack
  decreasing_by
    have hn : (dirNames entries).Nodup := by
      unfold list at _hl
      split at _hl
      · simp at _hl
      · simp only [Except.ok.injEq] at _hl
        subst _hl
        exact (d.tree.listing_nodup m.loc).sublist (List.filter_sublist.map _)
    obtain ⟨_, he⟩ := FileTree.isDir_iff.1 _h
    have := d.tree.sum_size_le m.loc hn
    have := FileTree.sizeBelow_lt_size he
    simp only [FileTree.sumOf_append, FileTree.sumOf_map, FileTree.sumOf, Met.child]
    omega

/-- The regular files that are met below `p`. -/
def stubFiles (d : Disk) (p : FilePath) : Trace Met :=
  match d.unlisted? p with
  | some errno => .failed (.os (.at errno p))
  | none =>
    match d.stat p with
    | .ok (l, _) => d.stubFilesFrom [⟨p, l⟩]
    | .error e => .failed e

end Disk

end JavaStubs
