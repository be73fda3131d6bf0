import JavaStubs.Text.Cut

/-! File name suffixes and what they become. -/

namespace JavaStubs

/-- Files whose name ends in `source` give files whose name ends in `target`. -/
structure SuffixMapping where
  source : String
  target : String
  deriving Repr, DecidableEq, Inhabited

namespace SuffixMapping

/-- A name must have something in front of the suffix. -/
def covers (m : SuffixMapping) (name : String) : Bool :=
  Text.endsWith name m.source && m.source.toList.length < name.toList.length

/-- The name without its suffix. Cutting an empty suffix off leaves nothing. -/
def stem (m : SuffixMapping) (name : String) : String :=
  if m.covers name then
    if m.source = "" then "" else Text.dropEnd name m.source.toList.length
  else name

def targetName (m : SuffixMapping) (name : String) : String :=
  m.stem name ++ m.target

def groovyToJava : SuffixMapping :=
  ⟨".groovy", ".java"⟩

def standard : List SuffixMapping :=
  [groovyToJava]

def find? (mappings : List SuffixMapping) (name : String) : Option SuffixMapping :=
  List.find? (·.covers name) mappings

def isCandidate (mappings : List SuffixMapping) (name : String) : Bool :=
  (find? mappings name).isSome

end SuffixMapping

end JavaStubs
