import JavaStubs.Text.Blank
import JavaStubs.Text.Cut

/-! Patterns that pick files by their relative path. `**` spans directories, `*` and `?` stay inside one segment, and
every other character stands for itself. -/

namespace JavaStubs.Pattern

/-- What a pattern asks of the next characters of a path. -/
inductive Atom where
  /-- This character. -/
  | char (c : Char)
  /-- One character inside a segment. -/
  | one
  /-- Any run of characters inside a segment. -/
  | run
  /-- Any number of whole directories, each with the slash after it. -/
  | dirs
  /-- All that is left, if it is on one line. -/
  | all
  deriving Repr, DecidableEq

def segmentAtoms (part : List Char) : List Atom :=
  part.map fun c => if c = '*' then .run else if c = '?' then .one else .char c

def doubleStar : List Char := ['*', '*']

def partsAtoms : List (List Char) → List Atom
  | [] => []
  | [p] => if p = doubleStar then [.all] else segmentAtoms p
  | p :: ps => (if p = doubleStar then [.dirs] else segmentAtoms p ++ [.char '/']) ++ partsAtoms ps

/-- The pattern as it is meant: without blanks around it, with forward slashes, without slashes in front, and
with `**` where nothing or a slash would be last. -/
def normalize (pattern : List Char) : List Char :=
  let slashes := (Text.trimChars pattern).map fun c => if c = '\\' then '/' else c
  let cs := slashes.dropWhile (· == '/')
  if cs.isEmpty || cs.getLast? == some '/' then cs ++ doubleStar else cs

def parts (pattern : List Char) : List (List Char) :=
  (Text.cutChars '/' (normalize pattern)).filter (!·.isEmpty)

def atoms (pattern : String) : List Atom :=
  partsAtoms (parts pattern.toList)

/-- The path after its first segment and the slash behind it, if that segment is not empty and not the last. -/
def afterDir? (path : List Char) : Option (List Char) :=
  match path.dropWhile (· ≠ '/') with
  | '/' :: rest => if path.head? = some '/' then none else some rest
  | _ => none

theorem length_afterDir? {path rest : List Char} (h : afterDir? path = some rest) : rest.length < path.length := by
  unfold afterDir? at h
  split at h
  · next r hr =>
    split at h
    · simp at h
    · simp only [Option.some.injEq] at h
      subst h
      have := (List.dropWhile_sublist (· ≠ '/') (l := path)).length_le
      simp only [hr, List.length_cons] at this
      omega
  · simp at h

def accepts (as : List Atom) (path : List Char) : Bool :=
  match as, path with
  | [], [] => true
  | [], _ :: _ => false
  | .char c :: as, d :: ds => c == d && accepts as ds
  | .one :: as, d :: ds => d != '/' && accepts as ds
  | .char _ :: _, [] => false
  | .one :: _, [] => false
  | .run :: as, [] => accepts as []
  | .run :: as, d :: ds => accepts as (d :: ds) || (d != '/' && accepts (.run :: as) ds)
  | .dirs :: as, path =>
    accepts as path ||
      match h : afterDir? path with
      | some rest =>
        have := length_afterDir? h
        accepts (.dirs :: as) rest
      | none => false
  | .all :: as, [] => accepts as []
  | .all :: as, d :: ds => accepts as (d :: ds) || (d != '\n' && accepts (.all :: as) ds)
  termination_by as.length + path.length

def picks (pattern path : String) : Bool :=
  accepts (atoms pattern) path.toList

def anyPicks (patterns : List String) (path : String) : Bool :=
  patterns.any (picks · path)

/-- Files that are never sources: backups, editor and desktop files, and what version control keeps. -/
def standardExcludes : List String :=
  ["**/*~", "**/#*#", "**/.#*", "**/.DS_Store", "**/.git/**", "**/.gitignore", "**/.hg/**", "**/.svn/**", "**/CVS/**"]

end JavaStubs.Pattern
