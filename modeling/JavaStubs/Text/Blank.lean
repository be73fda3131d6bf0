/-! Blank characters, and text without the blanks at its ends. -/

namespace JavaStubs.Text

/-- White space: tab to carriage return, the four information separators, the space, and the blanks beyond
ASCII. -/
def isBlank (c : Char) : Bool :=
  let n := c.toNat
  (0x9 ≤ n && n ≤ 0xd) || (0x1c ≤ n && n ≤ 0x20) || n == 0x85 || n == 0xa0 || n == 0x1680 ||
    (0x2000 ≤ n && n ≤ 0x200a) || n == 0x2028 || n == 0x2029 || n == 0x202f || n == 0x205f || n == 0x3000

def trimStartChars (cs : List Char) : List Char :=
  cs.dropWhile isBlank

def trimEndChars (cs : List Char) : List Char :=
  (cs.reverse.dropWhile isBlank).reverse

def trimChars (cs : List Char) : List Char :=
  trimEndChars (trimStartChars cs)

/-- The text from its first to its last character that is not blank. -/
def trim (s : String) : String :=
  String.ofList (trimChars s.toList)

def isBlankText (s : String) : Bool :=
  s.toList.all isBlank

end JavaStubs.Text
