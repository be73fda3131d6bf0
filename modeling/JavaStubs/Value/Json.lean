import JavaStubs.Number.Shortest
import JavaStubs.Text.Hex
import JavaStubs.Value.Iso

/-! Values as JSON text. Keys are sorted, everything outside ASCII is escaped, and the layout is either one line or
one entry a line with two blanks of indent a level. -/

namespace JavaStubs.Json

/-- A code point in four hexadecimal digits, beyond U+FFFF as two surrogates. -/
def escapeCode (n : Nat) : List Char :=
  if n < 0x10000 then '\\' :: 'u' :: Text.hexDigits 4 n
  else
    let m := n - 0x10000
    '\\' :: 'u' :: Text.hexDigits 4 (0xd800 + m / 0x400) ++ '\\' :: 'u' :: Text.hexDigits 4 (0xdc00 + m % 0x400)

def quotedChar (c : Char) : List Char :=
  if c = '"' then ['\\', '"']
  else if c = '\\' then ['\\', '\\']
  else if c = '\n' then ['\\', 'n']
  else if c = '\r' then ['\\', 'r']
  else if c = '\t' then ['\\', 't']
  else if c = '\x08' then ['\\', 'b']
  else if c = '\x0c' then ['\\', 'f']
  else if 0x20 ≤ c.toNat ∧ c.toNat < 0x7f then [c]
  else escapeCode c.toNat

def quotedChars (cs : List Char) : List Char :=
  '"' :: cs.flatMap quotedChar ++ ['"']

def quoted (s : String) : String :=
  String.ofList (quotedChars s.toList)

inductive Layout where
  | line
  | indented
  deriving Repr, DecidableEq

/-- Entries between brackets, laid out for a container at nesting depth `depth`. -/
def bracket (layout : Layout) (depth : Nat) (opening closing : String) (entries : List String) : String :=
  match entries, layout with
  | [], _ => opening ++ closing
  | _, .line => opening ++ ", ".intercalate entries ++ closing
  | _, .indented =>
    let newLine (d : Nat) : String := "\n" ++ String.ofList (List.replicate (2 * d) ' ')
    opening ++ newLine (depth + 1) ++ ("," ++ newLine (depth + 1)).intercalate entries ++ newLine depth ++ closing

def names : Number.SpecialNames :=
  ⟨"Infinity", "NaN"⟩

/-- Entries of a table in the order of their keys. -/
def sortFields {α : Type} (fields : List (String × α)) : List (String × α) :=
  fields.mergeSort fun a b => decide (a.1 ≤ b.1)

mutual

def render (layout : Layout) (depth : Nat) : Value → String
  | .null => "null"
  | .bool b => if b then "true" else "false"
  | .int n => toString n
  | .real x => x.text names
  | .text s => quoted s
  | .date d => quoted d.iso
  | .time t => quoted t.iso
  | .dateTime t => quoted t.iso
  | .array items => bracket layout depth "[" "]" (renderItems layout (depth + 1) items)
  | .table fields =>
    bracket layout depth "\x7b" "\x7d"
      ((sortFields (renderFields layout (depth + 1) fields)).map fun (key, v) => quoted key ++ ": " ++ v)

def renderItems (layout : Layout) (depth : Nat) : List Value → List String
  | [] => []
  | v :: vs => render layout depth v :: renderItems layout depth vs

def renderFields (layout : Layout) (depth : Nat) : List (String × Value) → List (String × String)
  | [] => []
  | (key, v) :: rest => (key, render layout depth v) :: renderFields layout depth rest

end

end JavaStubs.Json

namespace JavaStubs

def Value.json (layout : Json.Layout) (v : Value) : String :=
  Json.render layout 0 v

end JavaStubs
