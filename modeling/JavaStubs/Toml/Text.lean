import JavaStubs.Toml.Problem

/-! Blanks, comments, keys and strings of a TOML document. -/

namespace JavaStubs.Toml

def isSpace (c : Char) : Bool :=
  c == ' ' || c == '\t'

def isSpaceOrNewline (c : Char) : Bool :=
  isSpace c || c == '\n'

/-- Control characters that may not stand in comments and strings of one line. -/
def isIllegal (c : Char) : Bool :=
  (c.toNat < 0x20 || c.toNat == 0x7f) && c != '\t'

/-- Control characters that may not stand in strings of several lines. -/
def isIllegalMultiline (c : Char) : Bool :=
  isIllegal c && c != '\n'

def isBareKeyChar (c : Char) : Bool :=
  c.isAlphanum || c == '-' || c == '_'

def isKeyStart (c : Char) : Bool :=
  isBareKeyChar c || c == '"' || c == '\''

def skipSpace (cs : List Char) : List Char :=
  cs.dropWhile isSpace

/-- What stands before the first occurrence of `mark`, and what follows it. -/
def breakAt? (mark : List Char) : List Char → Option (List Char × List Char)
  | [] => if mark.isEmpty then some ([], []) else none
  | c :: cs =>
    if mark.isPrefixOf (c :: cs) then some ([], (c :: cs).drop mark.length)
    else (breakAt? mark cs).map fun (before, after) => (c :: before, after)

/-- Finds the first illegal character of a stretch of text that `after` follows. -/
def checkLegal (illegal : Char → Bool) (after : List Char) : List Char → Except Fault Unit
  | [] => .ok ()
  | c :: cs => if illegal c then .error ⟨.invalidCharacter c, c :: cs ++ after⟩ else checkLegal illegal after cs

/-- Skips a comment, if one starts here, up to the end of its line. -/
def skipComment (cs : List Char) : Except Fault (List Char) :=
  match cs with
  | '#' :: cs =>
    let (body, rest) := cs.span (· ≠ '\n')
    (checkLegal isIllegal rest body).map fun _ => rest
  | _ => .ok cs

def literalUntil (mark : String) (illegal : Char → Bool) (cs : List Char) : Read String :=
  match breakAt? mark.toList cs with
  | none => .error ⟨.missing mark, []⟩
  | some (body, rest) => (checkLegal illegal (mark.toList ++ rest) body).map fun _ => (String.ofList body, rest)

def isScalar (n : Nat) : Bool :=
  n ≤ 0xd7ff || (0xe000 ≤ n && n ≤ 0x10ffff)

/-- A character given by exactly `width` hexadecimal digits. -/
def hexChar (width : Nat) (cs : List Char) : Read Char :=
  match (cs.take width).mapM Text.hexValue? with
  | some digits =>
    if digits.length = width then
      let n := digits.foldl (fun n d => n * 16 + d) 0
      if isScalar n then .ok (Char.ofNat n, cs.drop width) else .error ⟨.notScalar, cs.drop width⟩
    else .error ⟨.badHex, cs⟩
  | none => .error ⟨.badHex, cs⟩

/-- An escape after its backslash: what it stands for. In a string of several lines a backslash before the end
of a line stands for nothing and swallows the blanks that follow. -/
def escape (multiline : Bool) (cs : List Char) : Read (List Char) :=
  match cs with
  | [] => .error ⟨.badEscape, []⟩
  | c :: rest =>
    if multiline && c == '\n' then .ok ([], rest.dropWhile isSpaceOrNewline)
    else if multiline && isSpace c then
      match skipSpace rest with
      | [] => .ok ([], [])
      | '\n' :: rest => .ok ([], rest.dropWhile isSpaceOrNewline)
      | rest => .error ⟨.badEscape, rest⟩
    else match c with
      | 'u' => (hexChar 4 rest).map fun (c, rest) => ([c], rest)
      | 'U' => (hexChar 8 rest).map fun (c, rest) => ([c], rest)
      | 'b' => .ok (['\x08'], rest)
      | 't' => .ok (['\t'], rest)
      | 'n' => .ok (['\n'], rest)
      | 'f' => .ok (['\x0c'], rest)
      | 'r' => .ok (['\r'], rest)
      | '"' => .ok (['"'], rest)
      | '\\' => .ok (['\\'], rest)
      | _ => .error ⟨.badEscape, rest⟩

/-- The body of a string with escapes, up to its closing quotes. Each turn reads at least one character, so the
length of the text is fuel enough. -/
def basicBody (multiline : Bool) : (fuel : Nat) → (read cs : List Char) → Read String
  | 0, _, cs => .error ⟨.unterminated, cs⟩
  | fuel + 1, read, cs =>
    match cs with
    | [] => .error ⟨.unterminated, []⟩
    | '"' :: rest =>
      if !multiline then .ok (String.ofList read.reverse, rest)
      else match rest with
        | '"' :: '"' :: rest => .ok (String.ofList read.reverse, rest)
        | _ => basicBody multiline fuel ('"' :: read) rest
    | '\\' :: rest =>
      match escape multiline rest with
      | .ok (chars, rest) => basicBody multiline fuel (chars.reverse ++ read) rest
      | .error f => .error f
    | c :: rest =>
      if (if multiline then isIllegalMultiline c else isIllegal c) then .error ⟨.illegalCharacter c, cs⟩
      else basicBody multiline fuel (c :: read) rest

def basic (multiline : Bool) (cs : List Char) : Read String :=
  basicBody multiline (cs.length + 1) [] cs

/-- Up to two more quotes right after the end of a string of several lines belong to it. -/
def moreQuotes (quote : Char) : String × List Char → String × List Char
  | (s, cs) =>
    let n := ((cs.take 2).takeWhile (· == quote)).length
    (s ++ String.ofList (List.replicate n quote), cs.drop n)

def dropNewline : List Char → List Char
  | '\n' :: cs => cs
  | cs => cs

def string? (cs : List Char) : Option (Read String) :=
  match cs with
  | '"' :: '"' :: '"' :: rest => some ((basic true (dropNewline rest)).map (moreQuotes '"'))
  | '"' :: rest => some (basic false rest)
  | '\'' :: '\'' :: '\'' :: rest =>
    some ((literalUntil "'''" isIllegalMultiline (dropNewline rest)).map (moreQuotes '\''))
  | '\'' :: rest => some (literalUntil "'" isIllegal rest)
  | _ => none

def keyPart (cs : List Char) : Read String :=
  match cs with
  | '"' :: rest => basic false rest
  | '\'' :: rest => literalUntil "'" isIllegal rest
  | _ =>
    let (bare, rest) := cs.span isBareKeyChar
    if bare.isEmpty then .error ⟨.invalidKey, cs⟩ else .ok (String.ofList bare, rest)

def keyParts : (fuel : Nat) → (read : Key) → List Char → Read Key
  | 0, _, cs => .error ⟨.invalidKey, cs⟩
  | fuel + 1, read, cs =>
    match cs with
    | '.' :: rest =>
      match keyPart (skipSpace rest) with
      | .ok (k, rest) => keyParts fuel (read ++ [k]) (skipSpace rest)
      | .error f => .error f
    | _ => .ok (read, cs)

def key (cs : List Char) : Read Key :=
  match keyPart cs with
  | .ok (k, rest) => keyParts (cs.length + 1) [k] (skipSpace rest)
  | .error f => .error f

end JavaStubs.Toml
