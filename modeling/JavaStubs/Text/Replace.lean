import JavaStubs.Text.Cut

/-! Replacing every occurrence of a text, from left to right and without overlap. -/

namespace JavaStubs.Text

/-- Replaces a non-empty `old` by `new`. -/
def replaceChars (old new : List Char) (cs : List Char) : List Char :=
  match cs with
  | [] => []
  | c :: rest =>
    if old.isPrefixOf (c :: rest) && !old.isEmpty then new ++ replaceChars old new (rest.drop (old.length - 1))
    else c :: replaceChars old new rest
  termination_by cs.length
  decreasing_by
    all_goals
      simp only [List.length_drop, List.length_cons]
      omega

def replace (s old new : String) : String :=
  String.ofList (replaceChars old.toList new.toList s.toList)

end JavaStubs.Text
