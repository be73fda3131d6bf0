import JavaStubs.Text.Quoted
import JavaStubs.Value.Basic

/-! What can be wrong with a TOML document, and where. A place is a line and a column, both counted from one, or the
end of the document. -/

namespace JavaStubs.Toml

abbrev Key := List String

inductive Problem where
  | invalidStatement
  | trailingText
  | missing (text : String)
  | invalidCharacter (c : Char)
  | illegalCharacter (c : Char)
  | declaredTwice (key : Key)
  | overwritten
  | frozen (key : Key)
  | redefined (key : Key)
  | duplicateInline (key : String)
  | unclosedTableHeader
  | unclosedArrayHeader
  | missingEquals
  | invalidKey
  | unclosedArray
  | unclosedInlineTable
  | badEscape
  | badHex
  | notScalar
  | unterminated
  | invalidDate
  | invalidValue
  /-- A decimal integer with too many digits. The document is well-formed all the same. -/
  | overlong (digits : Nat)
  deriving Repr, DecidableEq, Inhabited

/-- A key as a list of quoted parts; a single part is followed by a comma. -/
def keyText : Key → String
  | [k] => "(" ++ Text.quoted k ++ ",)"
  | ks => "(" ++ ", ".intercalate (ks.map Text.quoted) ++ ")"

def quotedChar (c : Char) : String :=
  Text.quoted (String.ofList [c])

def Problem.message : Problem → String
  | invalidStatement => "Invalid statement"
  | trailingText => "Expected newline or end of document after a statement"
  | missing text => "Expected " ++ Text.quoted text
  | invalidCharacter c => "Found invalid character " ++ quotedChar c
  | illegalCharacter c => "Illegal character " ++ quotedChar c
  | declaredTwice key => "Cannot declare " ++ keyText key ++ " twice"
  | overwritten => "Cannot overwrite a value"
  | frozen key => "Cannot mutate immutable namespace " ++ keyText key
  | redefined key => "Cannot redefine namespace " ++ keyText key
  | duplicateInline key => "Duplicate inline table key " ++ Text.quoted key
  | unclosedTableHeader => "Expected ']' at the end of a table declaration"
  | unclosedArrayHeader => "Expected ']]' at the end of an array declaration"
  | missingEquals => "Expected '=' after a key in a key/value pair"
  | invalidKey => "Invalid initial character for a key part"
  | unclosedArray => "Unclosed array"
  | unclosedInlineTable => "Unclosed inline table"
  | badEscape => "Unescaped '\\' in a string"
  | badHex => "Invalid hex value"
  | notScalar => "Escaped character is not a Unicode scalar value"
  | unterminated => "Unterminated string"
  | invalidDate => "Invalid date or datetime"
  | invalidValue => "Invalid value"
  | overlong digits => Value.overlong (some digits)

inductive Position where
  | within (line column : Nat)
  | atEnd
  deriving Repr, DecidableEq, Inhabited

def Position.text : Position → String
  | within line column => s!"line {line}, column {column}"
  | atEnd => "end of document"

def Position.after (before : List Char) : Position :=
  .within (before.count '\n' + 1) ((before.reverse.takeWhile (· ≠ '\n')).length + 1)

structure Error where
  problem : Problem
  position : Position
  deriving Repr, DecidableEq, Inhabited

def Error.message (e : Error) : String :=
  e.problem.message ++ " (at " ++ e.position.text ++ ")"

/-- A problem met while reading, with the text that was not read yet. -/
structure Fault where
  problem : Problem
  rest : List Char
  deriving Repr, Inhabited

/-- The error of a fault in a document: its place follows from how much was not read. -/
def Fault.within (f : Fault) (document : List Char) : Error :=
  ⟨f.problem, if f.rest.isEmpty then .atEnd else .after (document.take (document.length - f.rest.length))⟩

/-- The result of reading something at the start of a text, with the text after it. -/
abbrev Read (α : Type) := Except Fault (α × List Char)

end JavaStubs.Toml
