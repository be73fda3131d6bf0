import JavaStubs.Disk.Errno
import JavaStubs.Disk.Tree
import JavaStubs.FilePath

/-! Where a path leads on a disk: names are looked up one after the other, `..` goes to the directory above, and a
symbolic link is replaced by its target, at most forty times in one path. -/

namespace JavaStubs

/-- What is at the end of a path: an entry, or a free name in an existing directory. -/
inductive Place where
  | found (l : Loc) (e : Entry)
  | vacant (l : Loc)
  deriving Repr, DecidableEq, Inhabited

def maxName : Nat := 255

/-- The least number of bytes of a path that is too long. -/
def pathLimit : Nat := 4096

/-- The greatest number of links followed for one path. -/
def maxLinks : Nat := 40

namespace FileTree

/-- The parts of a link's target. A final slash asks for a directory, which a dot after it does too. -/
def linkParts (target : String) : List String :=
  Text.words '/' target ++ if Text.endsWith target "/" then ["."] else []

def isAbsoluteText (s : String) : Bool :=
  Text.startsWith s "/"

/-- The number of parts that an entry puts in its place on a path. -/
def partCount : Entry → Nat
  | .link target => (linkParts target).length
  | _ => 0

/-- The greatest number of parts that a link of the tree has. -/
def longestLink (t : FileTree) : Nat :=
  t.entries.foldr (fun e n => max (partCount e.2) n) 0

theorem partCount_le_longestLink {t : FileTree} {l : Loc} {e : Entry} (h : t.get? l = some e) :
    partCount e ≤ t.longestLink := by
  rw [get?_eq_some_iff] at h
  unfold longestLink
  generalize t.entries = es at h
  induction es with
  | nil => simp at h
  | cons x xs ih =>
    rw [List.foldr_cons]
    rcases List.mem_cons.1 h with rfl | h
    · exact Nat.le_max_left _ _
    · exact Nat.le_trans (ih h) (Nat.le_max_right _ _)

/-- Following a link pays for the parts it puts on the path. -/
theorem linkParts_add_lt {t : FileTree} {l : Loc} {target : String} (h : t.get? l = some (.link target))
    (links : Nat) (rest : List String) :
    links * (t.longestLink + 1) + ((linkParts target).length + rest.length) <
      (links + 1) * (t.longestLink + 1) + (rest.length + 1) := by
  have hle : (linkParts target).length ≤ t.longestLink := partCount_le_longestLink h
  rw [Nat.add_mul]
  omega

/-- Follows names from `here`, with `links` more links to follow. A link in the last place is followed only if
`follow` holds. -/
def walk (t : FileTree) (follow : Bool) (links : Nat) (here : Loc) (parts : List String) : Except Errno Place :=
  match parts with
  | [] =>
    match t.get? here with
    | some e => .ok (.found here e)
    | none => .error .ENOENT
  | c :: rest =>
    if t.isDir here then
      if c = "." then t.walk follow links here rest
      else if c = ".." then t.walk follow links here.tail rest
      else if maxName < c.utf8ByteSize then .error .ENAMETOOLONG
      else match h : t.get? (c :: here) with
        | none => if rest.isEmpty then .ok (.vacant (c :: here)) else .error .ENOENT
        | some (.link target) =>
          if rest.isEmpty ∧ ¬follow then .ok (.found (c :: here) (.link target))
          else match links with
            | 0 => .error .ELOOP
            | links + 1 =>
              have := linkParts_add_lt h links rest
              t.walk follow links (if isAbsoluteText target then [] else here) (linkParts target ++ rest)
        | some _ => t.walk follow links (c :: here) rest
    else .error .ENOTDIR
  termination_by links * (t.longestLink + 1) + parts.length

end FileTree

/-- Operations that the system refuses, by the text of the path they are asked for. -/
structure Denials where
  listing : List (String × Errno) := []
  times : List (String × Errno) := []
  removal : List (String × Errno) := []
  deriving Repr, Inhabited

/-- How the system ends the writing of a file: when it is opened, or once a number of bytes has arrived. -/
structure Halt where
  errno : Errno
  arrived? : Option Nat := none
  deriving Repr, Inhabited

/-- What stands in the way of paths, by their texts: directories that may not be searched, directories that cannot be
made, and files that cannot be written to the end. -/
structure Obstacles where
  search : List String := []
  making : List (String × Errno) := []
  writing : List (String × Halt) := []
  deriving Repr, Inhabited

/-- A file tree seen from a current directory. -/
structure Disk where
  tree : FileTree
  cwd : FilePath
  denied : Denials := {}
  obstacles : Obstacles := {}
  deriving Inhabited

/-- Why a path could not be used: the system refused it, or it holds a NUL, which no path can. -/
inductive AccessError where
  | os (e : OsError)
  | nul
  deriving Repr, DecidableEq, Inhabited

def AccessError.message : AccessError → String
  | os e => e.message
  | nul => "embedded null byte"

def OsError.at (errno : Errno) (p : FilePath) : OsError :=
  ⟨errno, some p.text⟩

namespace Disk

/-- Why a path is refused before any of its names is looked up: it is too long, or one of the directories that it names
on the way may not be searched. -/
def barred? (d : Disk) (p : FilePath) : Option Errno :=
  if pathLimit ≤ p.text.utf8ByteSize then some .ENAMETOOLONG
  else if p.above.any fun q => d.obstacles.search.contains q.text then some .EACCES
  else none

/-- Why the listing of a directory is refused, if it is. -/
def unlisted? (d : Disk) (p : FilePath) : Option Errno :=
  (d.denied.listing.lookup p.text).or (d.barred? p)

def untimed? (d : Disk) (p : FilePath) : Option Errno :=
  (d.denied.times.lookup p.text).or (d.barred? p)

def locate (d : Disk) (follow : Bool) (p : FilePath) : Except AccessError Place :=
  if holdsNul p.text then .error .nul
  else match d.barred? p with
    | some errno => .error (.os (.at errno p))
    | none =>
      match d.tree.walk follow maxLinks [] (p.absolute d.cwd).parts with
      | .ok place => .ok place
      | .error errno => .error (.os (.at errno p))

/-- The entry a path leads to, links followed. -/
def stat (d : Disk) (p : FilePath) : Except AccessError (Loc × Entry) :=
  match d.locate true p with
  | .ok (.found l e) => .ok (l, e)
  | .ok (.vacant _) => .error (.os (.at .ENOENT p))
  | .error e => .error e

/-- Whether a path leads to an entry of some kind. A path that leads nowhere does not; other refusals remain. -/
def test (d : Disk) (kind : Entry → Bool) (p : FilePath) : Except AccessError Bool :=
  match d.stat p with
  | .ok (_, e) => .ok (kind e)
  | .error .nul => .ok false
  | .error (.os e) => if e.errno.leadsNowhere then .ok false else .error (.os e)

def exists? (d : Disk) : FilePath → Except AccessError Bool :=
  d.test fun _ => true

def isDir? (d : Disk) : FilePath → Except AccessError Bool :=
  d.test Entry.isDir

def isFile? (d : Disk) : FilePath → Except AccessError Bool :=
  d.test Entry.isFile

/-- Whether a directory entry counts as a directory once links are followed. -/
def leadsToDir (d : Disk) (l : Loc) (e : Entry) : Bool :=
  match e with
  | .dir _ => true
  | .file .. => false
  | .link _ =>
    match l with
    | [] => false
    | c :: here =>
      match d.tree.walk true maxLinks here [c] with
      | .ok (.found _ e) => e.isDir
      | _ => false

end Disk

end JavaStubs
