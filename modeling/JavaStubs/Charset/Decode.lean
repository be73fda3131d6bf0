import JavaStubs.Charset.Encode

/-! Reading text in a character set. A file is read in blocks: a character cut off by the end of a block waits for the
next one, and the positions that an error names count from the bytes that were waiting. -/

namespace JavaStubs.Charset

/-- What stands at the start of some bytes: a character that uses `more` bytes after its first, bytes that stand
for none, or the beginning of a character whose other bytes are missing. -/
inductive Step where
  | char (c : Char) (more : Nat)
  | bad (span : Nat) (reason : String)
  | short (reason : String)

def isContinuation (b : UInt8) : Bool :=
  0x80 ≤ b && b < 0xc0

/-- The second byte that may follow a first one of three or four bytes; it rules out overlong forms, surrogates
and numbers beyond the last code point. -/
def isSecond (first b : UInt8) : Bool :=
  isContinuation b && !(first == 0xe0 && b < 0xa0) && !(first == 0xed && 0xa0 ≤ b) &&
    !(first == 0xf0 && b < 0x90) && !(first == 0xf4 && 0x90 ≤ b)

def charOfBits (parts : List Nat) : Char :=
  Char.ofNat (parts.foldl (fun n part => n * 0x40 + part) 0)

def low6 (b : UInt8) : Nat :=
  b.toNat % 0x40

def utf8Step (b : UInt8) (rest : List UInt8) : Step :=
  let cut := Step.short "unexpected end of data"
  let broken (span : Nat) := Step.bad span "invalid continuation byte"
  if b < 0x80 then .char (Char.ofNat b.toNat) 0
  else if b < 0xc2 ∨ 0xf4 < b then .bad 1 "invalid start byte"
  else if b < 0xe0 then
    match rest with
    | [] => cut
    | b₁ :: _ => if isContinuation b₁ then .char (charOfBits [b.toNat % 0x20, low6 b₁]) 1 else broken 1
  else if b < 0xf0 then
    match rest with
    | [] => cut
    | b₁ :: rest =>
      if !isSecond b b₁ then broken 1
      else match rest with
        | [] => cut
        | b₂ :: _ =>
          if isContinuation b₂ then .char (charOfBits [b.toNat % 0x10, low6 b₁, low6 b₂]) 2 else broken 2
  else
    match rest with
    | [] => cut
    | b₁ :: rest =>
      if !isSecond b b₁ then broken 1
      else match rest with
        | [] => cut
        | b₂ :: rest =>
          if !isContinuation b₂ then broken 2
          else match rest with
            | [] => cut
            | b₃ :: _ =>
              if isContinuation b₃ then .char (charOfBits [b.toNat % 0x8, low6 b₁, low6 b₂, low6 b₃]) 3
              else broken 3

def unit (little : Bool) (a b : UInt8) : Nat :=
  if little then a.toNat + 0x100 * b.toNat else 0x100 * a.toNat + b.toNat

def utf16Step (little : Bool) (b : UInt8) (rest : List UInt8) : Step :=
  match rest with
  | [] => .short "truncated data"
  | b₁ :: rest =>
    let u := unit little b b₁
    if u < 0xd800 ∨ 0xdfff < u then .char (Char.ofNat u) 1
    else if 0xdbff < u then .bad 2 "illegal encoding"
    else match rest with
      | b₂ :: b₃ :: _ =>
        let v := unit little b₂ b₃
        if 0xdc00 ≤ v ∧ v ≤ 0xdfff then .char (Char.ofNat (0x10000 + (u - 0xd800) * 0x400 + (v - 0xdc00))) 3
        else .bad 2 "illegal UTF-16 surrogate"
      | _ => .short "unexpected end of data"

def tableChar? (first second : Nat) : Option Char :=
  if second < 0x40 ∨ second = 0x7f ∨ 0xfc < second then none
  else
    let row := if first < 0xa0 then first - 0x81 else first - 0xc1
    let column := if second < 0x7f then second - 0x40 else second - 0x41
    (jisTable[188 * row + column]?).filter (· ≠ ' ')

def lowStep (limit : Nat) (reason : String) (b : UInt8) (_ : List UInt8) : Step :=
  if b.toNat < limit then .char (Char.ofNat b.toNat) 0 else .bad 1 reason

def windowsStep (b : UInt8) (_ : List UInt8) : Step :=
  let n := b.toNat
  if n < 0x80 ∨ 0xa0 ≤ n then .char (Char.ofNat n) 0
  else match windowsExtras.lookup n with
    | some code => .char (Char.ofNat code) 0
    | none => .bad 1 "character maps to <undefined>"

def shiftJisStep (b : UInt8) (rest : List UInt8) : Step :=
  let illegal := Step.bad 1 "illegal multibyte sequence"
  let n := b.toNat
  if n < 0x80 then .char (Char.ofNat n) 0
  else if 0xa1 ≤ n ∧ n < 0xe0 then .char (Char.ofNat (n - 0xa1 + 0xff61)) 0
  else if n = 0x80 ∨ n = 0xa0 ∨ 0xea < n then illegal
  else
    match rest with
    | [] => .short "incomplete multibyte sequence"
    | b₁ :: _ =>
      match tableChar? n b₁.toNat with
      | some c => .char c 1
      | none => illegal

/-- Reads characters as long as they are whole. At the end of the input a cut off character is an error;
before it, its bytes are handed back. -/
def decodeBy (step : UInt8 → List UInt8 → Step) (codec : String) (final : Bool) (position : Nat)
    (bytes : List UInt8) : Except CharsetError (List Char × List UInt8) :=
  match bytes with
  | [] => .ok ([], [])
  | b :: rest =>
    match step b rest with
    | .char c more =>
      match decodeBy step codec final (position + 1 + more) (rest.drop more) with
      | .ok (cs, waiting) => .ok (c :: cs, waiting)
      | .error e => .error e
    | .bad span reason => .error (.undecodable codec b position (position + span) reason)
    | .short reason =>
      if final then .error (.undecodable codec b position (position + bytes.length) reason) else .ok ([], bytes)
  termination_by bytes.length
  decreasing_by
    simp only [List.length_drop, List.length_cons]
    omega

def utf16Codec (little : Bool) : String :=
  if little then "utf-16-le" else "utf-16-be"

/-- Reads one block. The result is the text, the bytes that wait for the next block, and the character set to go
on with: after a mark it is known in more detail. -/
def decodeBlock (charset : Charset) (final : Bool) (bytes : List UInt8) :
    Except CharsetError (List Char × List UInt8 × Charset) :=
  let plain (step : UInt8 → List UInt8 → Step) (codec : String) (next : Charset) (skip : Nat) (position : Nat) :=
    (decodeBy step codec final position (bytes.drop skip)).map fun (cs, waiting) => (cs, waiting, next)
  match charset with
  | utf8 => plain utf8Step "utf-8" utf8 0 0
  | utf8Marked =>
    if bytes.length < 3 ∧ bytes.isPrefixOf utf8Mark then .ok ([], bytes, utf8Marked)
    else plain utf8Step "utf-8" utf8 (if utf8Mark.isPrefixOf bytes then 3 else 0) 0
  | utf16 =>
    match bytes with
    | 0xff :: 0xfe :: _ => plain (utf16Step true) (utf16Codec true) utf16Little 2 2
    | 0xfe :: 0xff :: _ => plain (utf16Step false) (utf16Codec false) utf16Big 2 2
    | _ =>
      match plain (utf16Step true) (utf16Codec true) utf16 0 0 with
      | .ok (cs, waiting, next) =>
        if waiting.length + 2 ≤ bytes.length then .error .noByteOrderMark else .ok (cs, waiting, next)
      | .error e => .error e
  | utf16Little => plain (utf16Step true) (utf16Codec true) utf16Little 0 0
  | utf16Big => plain (utf16Step false) (utf16Codec false) utf16Big 0 0
  | latin1 => plain (lowStep 0x100 "") "latin-1" latin1 0 0
  | ascii => plain (lowStep 0x80 "ordinal not in range(128)") "ascii" ascii 0 0
  | windows1252 => plain windowsStep "charmap" windows1252 0 0
  | shiftJis => plain shiftJisStep "shift_jis" shiftJis 0 0

/-- The text of bytes that are all there. -/
def decodeAll (charset : Charset) (bytes : List UInt8) : Except CharsetError (List Char) :=
  (charset.decodeBlock true bytes).map (·.1)

/-- Reads block after block; once they are used up, what still waits is cut off. -/
def decodeBlocks (charset : Charset) (waiting : List UInt8) : List (List UInt8) → Except CharsetError (List Char)
  | [] => charset.decodeAll waiting
  | block :: blocks =>
    match charset.decodeBlock false (waiting ++ block) with
    | .ok (cs, waiting, next) => (next.decodeBlocks waiting blocks).map (cs ++ ·)
    | .error e => .error e

def blockSize : Nat := 8192

/-- The blocks of a file; all but the last are full. -/
def blocks (bytes : List UInt8) : List (List UInt8) :=
  if bytes.isEmpty then []
  else bytes.take blockSize :: blocks (bytes.drop blockSize)
  termination_by bytes.length
  decreasing_by
    have : 0 < bytes.length := List.length_pos_iff.2 (by simp_all)
    simp only [List.length_drop, blockSize]
    omega

def decodeFile (charset : Charset) (bytes : List UInt8) : Except CharsetError (List Char) :=
  charset.decodeBlocks [] (blocks bytes)

/-- Bytes as text, each maximal ill-formed part of UTF-8 replaced by U+FFFD. -/
def decodeLeniently (bytes : List UInt8) : List Char :=
  match bytes with
  | [] => []
  | b :: rest =>
    match utf8Step b rest with
    | .char c more => c :: decodeLeniently (rest.drop more)
    | .bad span _ => '\ufffd' :: decodeLeniently (rest.drop (span - 1))
    | .short _ => ['\ufffd']
  termination_by bytes.length
  decreasing_by
    all_goals
      simp only [List.length_drop, List.length_cons]
      omega

end JavaStubs.Charset
