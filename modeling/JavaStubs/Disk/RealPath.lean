import JavaStubs.Disk.Locate

/-! The canonical form of a path: absolute, without `..` and, as far as the path exists, without links. A path that
runs into a loop of links keeps the link that closes the loop and all that follows it. -/

namespace JavaStubs

namespace FileTree

/-- Parts applied to a location by their text alone. -/
def descend (here : Loc) (parts : List String) : Loc :=
  parts.foldl (fun l c => if c = "." then l else if c = ".." then l.tail else c :: l) here

/-- The state of making a path canonical: where it is, whether no loop was met, and what is known of each link:
its canonical target, or nothing while that is being found. -/
structure Canonical where
  loc : Loc
  complete : Bool
  known : List (Loc × Option Loc)

/-- Follows parts from `here`. What may not be looked up counts as no link. `depth` bounds how many links may be open at
once; a link is never opened inside itself, so the number of links in the tree is enough. -/
def canonicalFrom (t : FileTree) (barred : Loc → Bool) (depth : Nat) (known : List (Loc × Option Loc)) (here : Loc)
    (parts : List String) : Canonical :=
  match parts with
  | [] => ⟨here, true, known⟩
  | c :: rest =>
    if c = "." then canonicalFrom t barred depth known here rest
    else if c = ".." then canonicalFrom t barred depth known here.tail rest
    else match if barred (c :: here) then none else t.get? (c :: here) with
      | some (.link target) =>
        match known.lookup (c :: here) with
        | some (some l) => canonicalFrom t barred depth known l rest
        | some none => ⟨descend (c :: here) rest, false, known⟩
        | none =>
          match depth with
          | 0 => ⟨descend (c :: here) rest, false, known⟩
          | depth + 1 =>
            let base := if isAbsoluteText target then [] else here
            let inner := canonicalFrom t barred depth ((c :: here, none) :: known) base (Text.words '/' target)
            if inner.complete then
              canonicalFrom t barred (depth + 1) ((c :: here, some inner.loc) :: inner.known) inner.loc rest
            else ⟨descend inner.loc rest, false, inner.known⟩
      | _ => canonicalFrom t barred depth known (c :: here) rest
  termination_by (depth, parts.length)

def linkCount (t : FileTree) : Nat :=
  t.entries.countP (·.2.isLink)

end FileTree

def FilePath.ofLoc (l : Loc) : FilePath :=
  ⟨.slash, l.reverse⟩

/-- How a location is spelled while `p` is made canonical: from the current directory if `p` is relative and the location
is below it. -/
def Disk.spelled (d : Disk) (p : FilePath) (l : Loc) : FilePath :=
  if p.isAbsolute ∨ ¬FileTree.Below d.cwd.parts.reverse l then .ofLoc l
  else ⟨.none, l.reverse.drop d.cwd.parts.length⟩

def Disk.canonical (d : Disk) (p : FilePath) : FilePath :=
  let barred (l : Loc) : Bool := (d.barred? (d.spelled p l)).isSome
  .ofLoc (d.tree.canonicalFrom barred d.tree.linkCount [] [] (p.absolute d.cwd).parts).loc

end JavaStubs
