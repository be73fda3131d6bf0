import JavaStubs.Toml.Scalar
import JavaStubs.Toml.Table
import JavaStubs.Toml.Text

/-! Reading a whole TOML document into a table. -/

namespace JavaStubs.Toml

/-- Skips blanks, line ends and comments inside an array; `comment` says whether a comment has begun. -/
def skipArraySpace : (comment : Bool) → List Char → Except Fault (List Char)
  | _, [] => .ok []
  | true, c :: rest =>
    if c = '\n' then skipArraySpace false rest
    else if isIllegal c then .error ⟨.invalidCharacter c, c :: rest⟩
    else skipArraySpace true rest
  | false, c :: rest =>
    if isSpaceOrNewline c then skipArraySpace false rest
    else if c = '#' then skipArraySpace true rest
    else .ok (c :: rest)

def arraySpace (cs : List Char) : Except Fault (List Char) :=
  skipArraySpace false cs

/-- Adds a key and its value to an inline table. `marks` holds the keys whose values were written in one
piece. -/
def addInline (marks : Marks) (fields : Fields) (key : Key) (v : Value) : Except Problem Fields :=
  if marks.isFrozen key then .error (.frozen key)
  else
    let last := key.getLast?.getD ""
    update false (define (.duplicateInline last) last v) key.dropLast fields

def isContainer : Value → Bool
  | .array _ | .table _ => true
  | _ => false

mutual

def value : (fuel : Nat) → List Char → Read Value
  | 0, cs => .error ⟨.invalidValue, cs⟩
  | fuel + 1, cs =>
    match string? cs with
    | some result => result.map fun (s, rest) => (.text s, rest)
    | none =>
      match cs with
      | '[' :: rest =>
        match arraySpace rest with
        | .error f => .error f
        | .ok (']' :: rest) => .ok (.array [], rest)
        | .ok rest => (items fuel rest).map fun (vs, rest) => (.array vs, rest)
      | '\x7b' :: rest =>
        match skipSpace rest with
        | '\x7d' :: rest => .ok (.table [], rest)
        | rest => (pairs fuel [] [] rest).map fun (fields, rest) => (.table fields, rest)
      | _ => scalar cs

/-- The items of an array, from one that must come to the closing bracket. -/
def items : (fuel : Nat) → List Char → Read (List Value)
  | 0, cs => .error ⟨.unclosedArray, cs⟩
  | fuel + 1, cs =>
    match value fuel cs with
    | .error f => .error f
    | .ok (v, rest) =>
      match arraySpace rest with
      | .error f => .error f
      | .ok (']' :: rest) => .ok ([v], rest)
      | .ok (',' :: rest) =>
        match arraySpace rest with
        | .error f => .error f
        | .ok (']' :: rest) => .ok ([v], rest)
        | .ok rest => (items fuel rest).map fun (vs, rest) => (v :: vs, rest)
      | .ok rest => .error ⟨.unclosedArray, rest⟩

def pair : (fuel : Nat) → List Char → Read (Key × Value)
  | 0, cs => .error ⟨.invalidKey, cs⟩
  | fuel + 1, cs =>
    match key cs with
    | .error f => .error f
    | .ok (k, '=' :: rest) => (value fuel (skipSpace rest)).map fun (v, rest) => ((k, v), rest)
    | .ok (_, rest) => .error ⟨.missingEquals, rest⟩

def pairs : (fuel : Nat) → Marks → (read : Fields) → List Char → Read Fields
  | 0, _, _, cs => .error ⟨.unclosedInlineTable, cs⟩
  | fuel + 1, marks, read, cs =>
    match pair fuel cs with
    | .error f => .error f
    | .ok ((k, v), rest) =>
      match addInline marks read k v with
      | .error problem => .error ⟨problem, rest⟩
      | .ok read =>
        match skipSpace rest with
        | '\x7d' :: rest => .ok (read, rest)
        | ',' :: rest => pairs fuel (if isContainer v then .frozen k :: marks else marks) read (skipSpace rest)
        | rest => .error ⟨.unclosedInlineTable, rest⟩

end

/-- Enough fuel for any value in a text. Every level of nesting and every item reads a character, and takes
three steps at most. -/
def enough (cs : List Char) : Nat :=
  3 * cs.length + 3

/-- What has been read of a document: its table, its marks, those that come into force at the next header, and
the key of the header that is in force. -/
structure Draft where
  fields : Fields := []
  marks : Marks := []
  pending : List Key := []
  header : Key := []

namespace Draft

/-- Tables that were opened by dotted keys count as declared once another header comes. -/
def closeSection (d : Draft) : Draft :=
  { d with marks := d.pending.map .declared ++ d.marks, pending := [] }

def openHeader (d : Draft) (k : Key) : Except Problem Draft :=
  if d.marks.isDeclared k || d.marks.isFrozen k then .error (.declaredTwice k)
  else match openTable k d.fields with
    | .ok fields => .ok { d with fields, marks := .declared k :: d.marks, header := k }
    | .error problem => .error problem

def openItem (d : Draft) (k : Key) : Except Problem Draft :=
  if d.marks.isFrozen k then .error (.frozen k)
  else match appendTable k d.fields with
    | .ok fields => .ok { d with fields, marks := .declared k :: d.marks.forget k, header := k }
    | .error problem => .error problem

/-- The tables that a dotted key goes through, outermost first. -/
def tablesOn (header k : Key) : List Key :=
  (List.range (k.length - 1)).map fun i => header ++ k.take (i + 1)

def assign (d : Draft) (k : Key) (v : Value) : Except Problem Draft :=
  let through := tablesOn d.header k
  let parent := d.header ++ k.dropLast
  match through.find? d.marks.isDeclared with
  | some t => .error (.redefined t)
  | none =>
    if d.marks.isFrozen parent then .error (.frozen parent)
    else
      match update true (define .overwritten (k.getLast?.getD "") v) parent d.fields with
      | .error problem => .error problem
      | .ok fields =>
        let marks := if isContainer v then .frozen (d.header ++ k) :: d.marks else d.marks
        .ok { d with fields, marks, pending := d.pending ++ through }

end Draft

/-- One statement that starts at the given text, which is not empty. -/
def statement (limit : Nat) (d : Draft) (cs : List Char) : Read Draft :=
  let at? (rest : List Char) (result : Except Problem Draft) (finish : Draft → Read Draft) : Read Draft :=
    match result with
    | .ok d => finish d
    | .error problem => .error ⟨problem, rest⟩
  match cs with
  | '[' :: '[' :: rest =>
    match key (skipSpace rest) with
    | .error f => .error f
    | .ok (k, rest) => at? rest (d.closeSection.openItem k) fun d =>
      match rest with
      | ']' :: ']' :: rest => .ok (d, skipSpace rest)
      | _ => .error ⟨.unclosedArrayHeader, rest⟩
  | '[' :: rest =>
    match key (skipSpace rest) with
    | .error f => .error f
    | .ok (k, rest) => at? rest (d.closeSection.openHeader k) fun d =>
      match rest with
      | ']' :: rest => .ok (d, skipSpace rest)
      | _ => .error ⟨.unclosedTableHeader, rest⟩
  | '#' :: _ => .ok (d, cs)
  | c :: _ =>
    if isKeyStart c then
      match pair limit cs with
      | .error f => .error f
      | .ok ((k, v), rest) => at? rest (d.assign k v) fun d => .ok (d, skipSpace rest)
    else .error ⟨.invalidStatement, cs⟩
  | [] => .ok (d, [])

/-- Statement after statement. Each but the last ends with a line end; `limit` is fuel for any value among them. -/
def statements (limit : Nat) : (fuel : Nat) → Draft → List Char → Except Fault Fields
  | 0, d, _ => .ok d.fields
  | fuel + 1, d, cs =>
    match skipSpace cs with
    | [] => .ok d.fields
    | '\n' :: rest => statements limit fuel d rest
    | cs =>
      match statement limit d cs with
      | .error f => .error f
      | .ok (d, rest) =>
        match skipComment rest with
        | .error f => .error f
        | .ok [] => .ok d.fields
        | .ok ('\n' :: rest) => statements limit fuel d rest
        | .ok rest => .error ⟨.trailingText, rest⟩

/-- Reads a document whose lines end with LF. -/
def read (cs : List Char) : Except Error Value :=
  match statements (enough cs) (cs.length + 1) {} cs with
  | .ok fields => .ok (.table fields)
  | .error f => .error (f.within cs)

end JavaStubs.Toml
