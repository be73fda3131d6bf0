import JavaStubs.Text.Cut

/-! Lines of a text. A line ends at CR LF, at a lone CR or at LF, and at nothing else; a terminator at the very end
opens no further line. -/

namespace JavaStubs.Text

/-- Every line terminator becomes a single LF. -/
def unifyNewlines : List Char → List Char
  | [] => []
  | '\r' :: '\n' :: cs => '\n' :: unifyNewlines cs
  | '\r' :: cs => '\n' :: unifyNewlines cs
  | c :: cs => c :: unifyNewlines cs

/-- Cuts at LF; what follows the last LF is a line only if it is not empty. -/
def cutLines (cs : List Char) : List (List Char) :=
  let pieces := cutChars '\n' cs
  if pieces.getLast? = some [] then pieces.dropLast else pieces

def linesOf (cs : List Char) : List (List Char) :=
  cutLines (unifyNewlines cs)

def lines (s : String) : List String :=
  (linesOf s.toList).map String.ofList

@[simp] theorem cutLines_nil : cutLines [] = [] := rfl

end JavaStubs.Text
