import JavaStubs.Compiler.Request
import JavaStubs.Text.Replace

/-! Command lines with placeholders. A word with a placeholder that has no value is left out, and a bare one takes an
option right before it along. -/

namespace JavaStubs

inductive Placeholder where
  | target
  | classPath
  | encoding
  deriving Repr, DecidableEq, Inhabited

namespace Placeholder

def all : List Placeholder :=
  [target, classPath, encoding]

def text : Placeholder → String
  | target => "\x7btarget\x7d"
  | classPath => "\x7bclasspath\x7d"
  | encoding => "\x7bencoding\x7d"

def value (r : Request) : Placeholder → String
  | target => r.target.text
  | classPath => ":".intercalate r.classPath
  | encoding => (r.options.lookup sourceEncodingKey).getD ""

def usedIn (word : String) : List Placeholder :=
  all.filter fun p => Text.contains word p.text

def isBare (word : String) : Bool :=
  all.any fun p => p.text = word

end Placeholder

namespace Request

/-- A word with its placeholders replaced, one kind after the other. -/
def fill (r : Request) (word : String) : String :=
  (Placeholder.usedIn word).foldl (fun w p => Text.replace w p.text (p.value r)) word

def lacks (r : Request) (word : String) : Bool :=
  (Placeholder.usedIn word).any fun p => p.value r = ""

/-- The words so far without an option in the last place. -/
def dropOption (words : List String) : List String :=
  match words.getLast? with
  | some last => if Text.startsWith last "-" then words.dropLast else words
  | none => words

/-- One more word of the command after those that are rendered. -/
def renderWord (r : Request) (rendered : List String) (word : String) : List String :=
  if r.lacks word then (if Placeholder.isBare word then dropOption rendered else rendered)
  else rendered ++ [r.fill word]

def commandLine (r : Request) (command : List String) : List String :=
  command.foldl r.renderWord [] ++ r.files.map FilePath.text

end Request

end JavaStubs
