import JavaStubs.Charset.Basic
import JavaStubs.Charset.Jis

/-! Writing text in a character set. Sets of one byte a character report the whole run of characters that have none.
-/

namespace JavaStubs.Charset

def byte (n : Nat) : UInt8 :=
  UInt8.ofNat n

def utf8Bytes (c : Char) : List UInt8 :=
  let n := c.toNat
  if n < 0x80 then [byte n]
  else if n < 0x800 then [byte (0xc0 + n / 0x40), byte (0x80 + n % 0x40)]
  else if n < 0x10000 then [byte (0xe0 + n / 0x1000), byte (0x80 + n / 0x40 % 0x40), byte (0x80 + n % 0x40)]
  else [byte (0xf0 + n / 0x40000), byte (0x80 + n / 0x1000 % 0x40), byte (0x80 + n / 0x40 % 0x40),
    byte (0x80 + n % 0x40)]

def utf16Units (c : Char) : List Nat :=
  let n := c.toNat
  if n < 0x10000 then [n] else [0xd800 + (n - 0x10000) / 0x400, 0xdc00 + (n - 0x10000) % 0x400]

/-- No character is a surrogate. -/
theorem toNat_bounds (c : Char) : c.toNat < 0xd800 ∨ (0xe000 ≤ c.toNat ∧ c.toNat < 0x110000) :=
  c.valid

theorem utf16Units_of_lt {c : Char} (h : c.toNat < 0x10000) : utf16Units c = [c.toNat] :=
  if_pos h

theorem utf16Units_of_le {c : Char} (h : ¬c.toNat < 0x10000) : utf16Units c =
    [0xd800 + (c.toNat - 0x10000) / 0x400, 0xdc00 + (c.toNat - 0x10000) % 0x400] :=
  if_neg h

def unitBytes (little : Bool) (u : Nat) : List UInt8 :=
  if little then [byte (u % 0x100), byte (u / 0x100)] else [byte (u / 0x100), byte (u % 0x100)]

def utf16Bytes (little : Bool) (c : Char) : List UInt8 :=
  (utf16Units c).flatMap (unitBytes little)

/-- Characters of the bytes 0x80 to 0x9f in the Windows set; five of these bytes are not used. -/
def windowsExtras : List (Nat × Nat) :=
  [(0x80, 0x20ac), (0x82, 0x201a), (0x83, 0x192), (0x84, 0x201e), (0x85, 0x2026), (0x86, 0x2020), (0x87, 0x2021),
    (0x88, 0x2c6), (0x89, 0x2030), (0x8a, 0x160), (0x8b, 0x2039), (0x8c, 0x152), (0x8e, 0x17d), (0x91, 0x2018),
    (0x92, 0x2019), (0x93, 0x201c), (0x94, 0x201d), (0x95, 0x2022), (0x96, 0x2013), (0x97, 0x2014), (0x98, 0x2dc),
    (0x99, 0x2122), (0x9a, 0x161), (0x9b, 0x203a), (0x9c, 0x153), (0x9e, 0x17e), (0x9f, 0x178)]

def windowsByte? (c : Char) : Option UInt8 :=
  let n := c.toNat
  if n < 0x80 ∨ (0xa0 ≤ n ∧ n < 0x100) then some (byte n)
  else (windowsExtras.find? fun row => row.2 = n).map fun row => byte row.1

def lowByte? (limit : Nat) (c : Char) : Option UInt8 :=
  if c.toNat < limit then some (byte c.toNat) else none

def tableBytes (place : Nat) : List UInt8 :=
  let first := place / 188
  let second := place % 188
  [byte (if first < 31 then 0x81 + first else 0xc1 + first), byte (if second < 63 then 0x40 + second else 0x41 + second)]

/-- ASCII and half-width letters have one byte. The yen sign and the overline get the bytes of a backslash and a tilde. -/
def shiftJisBytes? (c : Char) : Option (List UInt8) :=
  let n := c.toNat
  if n < 0x80 then some [byte n]
  else if n = 0xa5 then some [0x5c]
  else if n = 0x203e then some [0x7e]
  else if 0xff61 ≤ n ∧ n < 0xffa0 then some [byte (n - 0xff61 + 0xa1)]
  else (jisTable.idxOf? c).map tableBytes

/-- A set in which not every character has bytes: those of each, and the words of its refusals. A refusal names the
characters in a row that have none, or only the first of them. -/
structure PartialSet where
  bytes? : Char → Option (List UInt8)
  codec : String
  reason : String
  inRows : Bool := true

def PartialSet.encode (set : PartialSet) (position : Nat) : List Char → Except CharsetError (List UInt8)
  | [] => .ok []
  | c :: cs =>
    match set.bytes? c with
    | some bytes => (set.encode (position + 1) cs).map (bytes ++ ·)
    | none =>
      let more := if set.inRows then (cs.takeWhile fun c => (set.bytes? c).isNone).length else 0
      .error (.unencodable set.codec c position (position + 1 + more) set.reason)

def asciiSet : PartialSet :=
  { bytes? c := (lowByte? 0x80 c).map ([·]), codec := "ascii", reason := "ordinal not in range(128)" }

def latin1Set : PartialSet :=
  { bytes? c := (lowByte? 0x100 c).map ([·]), codec := "latin-1", reason := "ordinal not in range(256)" }

def windowsSet : PartialSet :=
  { bytes? c := (windowsByte? c).map ([·]), codec := "charmap", reason := "character maps to <undefined>" }

def shiftJisSet : PartialSet :=
  { bytes? := shiftJisBytes?, codec := "shift_jis", reason := "illegal multibyte sequence", inRows := false }

def utf8Mark : List UInt8 :=
  [0xef, 0xbb, 0xbf]

/-- The bytes of a text. UTF-16 with a mark is written with the low byte first. -/
def encodeChars (charset : Charset) (cs : List Char) : Except CharsetError (List UInt8) :=
  match charset with
  | utf8 => .ok (cs.flatMap utf8Bytes)
  | utf8Marked => .ok (utf8Mark ++ cs.flatMap utf8Bytes)
  | utf16 => .ok (0xff :: 0xfe :: cs.flatMap (utf16Bytes true))
  | utf16Little => .ok (cs.flatMap (utf16Bytes true))
  | utf16Big => .ok (cs.flatMap (utf16Bytes false))
  | latin1 => latin1Set.encode 0 cs
  | ascii => asciiSet.encode 0 cs
  | windows1252 => windowsSet.encode 0 cs
  | shiftJis => shiftJisSet.encode 0 cs

/-- The bytes of a text in the character set of the given name. -/
def encodeAs (name : String) (s : String) : Except CharsetError (List UInt8) :=
  match named true name with
  | .ok charset => charset.encodeChars s.toList
  | .error e => .error e

end JavaStubs.Charset
