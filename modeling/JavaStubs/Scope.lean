/-! The two halves of a project: its main sources and its test sources. -/

namespace JavaStubs

inductive Scope where
  | main
  | test
  deriving Repr, DecidableEq, Inhabited

namespace Scope

def word : Scope → String
  | main => "main"
  | test => "test"

def all : List Scope :=
  [main, test]

def ofWord? (word : String) : Option Scope :=
  all.find? fun s => s.word = word

end Scope

end JavaStubs
