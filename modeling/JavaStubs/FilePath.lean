import JavaStubs.Text.Cut

/-! Paths as text: an anchor and a list of parts. Repeated and final slashes and `.` parts are not kept, `..` parts
are, and nothing here looks at a disk. -/

namespace JavaStubs

/-- What a path starts with. Exactly two slashes are kept apart from one; three or more count as one. -/
inductive Anchor where
  | none
  | slash
  | doubleSlash
  deriving Repr, DecidableEq, Inhabited

structure FilePath where
  anchor : Anchor
  parts : List String
  deriving Repr, DecidableEq, Inhabited

namespace FilePath

def anchorOf : List Char → Anchor
  | '/' :: '/' :: '/' :: _ => .slash
  | '/' :: '/' :: _ => .doubleSlash
  | '/' :: _ => .slash
  | _ => .none

def partsOf (s : String) : List String :=
  (Text.words '/' s).filter (· ≠ ".")

def ofText (s : String) : FilePath :=
  ⟨anchorOf s.toList, partsOf s⟩

def Anchor.text : Anchor → String
  | .none => ""
  | .slash => "/"
  | .doubleSlash => "//"

/-- The empty relative path is written as a dot. -/
def text (p : FilePath) : String :=
  if p.anchor = .none ∧ p.parts = [] then "." else Anchor.text p.anchor ++ "/".intercalate p.parts

instance : ToString FilePath := ⟨text⟩

def isAbsolute (p : FilePath) : Bool :=
  p.anchor ≠ .none

/-- The second path seen from the first; an absolute one stands for itself. -/
def append (p q : FilePath) : FilePath :=
  if q.isAbsolute then q else ⟨p.anchor, p.parts ++ q.parts⟩

instance : Append FilePath := ⟨append⟩

def child (p : FilePath) (name : String) : FilePath :=
  ⟨p.anchor, p.parts ++ [name]⟩

/-- The last part, empty for a bare anchor. -/
def name (p : FilePath) : String :=
  p.parts.getLast?.getD ""

/-- The path without its last part; a bare anchor is its own parent. -/
def parent (p : FilePath) : FilePath :=
  ⟨p.anchor, p.parts.dropLast⟩

/-- The paths that end before the last part, the shortest one first. -/
def above (p : FilePath) : List FilePath :=
  (List.range p.parts.length).map fun n => ⟨p.anchor, p.parts.take n⟩

/-- A relative path is seen from `base`. No part is looked at. -/
def absolute (p base : FilePath) : FilePath :=
  base ++ p

def root : FilePath :=
  ⟨.slash, []⟩

@[simp] theorem append_parts_of_relative {p q : FilePath} (h : q.isAbsolute = false) :
    p ++ q = ⟨p.anchor, p.parts ++ q.parts⟩ := by
  show append p q = _
  simp [append, h]

@[simp] theorem append_of_absolute {p q : FilePath} (h : q.isAbsolute = true) : p ++ q = q := by
  show append p q = _
  simp [append, h]

theorem isAbsolute_append {p : FilePath} (h : p.isAbsolute = true) (q : FilePath) :
    (p ++ q).isAbsolute = true := by
  by_cases hq : q.isAbsolute = true
  · rw [append_of_absolute hq, hq]
  · rw [append_parts_of_relative (by simpa using hq)]
    simpa [isAbsolute] using h

theorem absolute_of_isAbsolute {p : FilePath} (h : p.isAbsolute = true) (base : FilePath) : p.absolute base = p :=
  append_of_absolute h

@[simp] theorem name_child (p : FilePath) (n : String) : (p.child n).name = n := by
  simp [name, child]

@[simp] theorem parent_child (p : FilePath) (n : String) : (p.child n).parent = p := by
  simp [parent, child]

theorem above_child (p : FilePath) (n : String) : (p.child n).above = p.above ++ [p] := by
  unfold above child
  rw [List.length_append, List.length_singleton, List.range_succ, List.map_append, List.map_singleton,
    List.take_left]
  congr 1
  apply List.map_congr_left
  intro k hk
  have hle : k ≤ p.parts.length := Nat.le_of_lt (List.mem_range.1 hk)
  simp only [List.take_append_of_le_length hle]

end FilePath

end JavaStubs
