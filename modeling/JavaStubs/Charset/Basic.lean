import JavaStubs.Text.Cut
import JavaStubs.Text.Hex

/-! Character sets and how their names are recognised. Names are compared without regard to case, and every run of
characters other than letters, digits and dots counts as one underscore. -/

namespace JavaStubs

inductive Charset where
  | utf8
  /-- UTF-8 with a mark at the start. -/
  | utf8Marked
  /-- UTF-16 whose byte order is given by a mark at the start. -/
  | utf16
  | utf16Little
  | utf16Big
  | latin1
  | ascii
  | windows1252
  | shiftJis
  deriving Repr, DecidableEq, Inhabited

/-- Why text could not be read or written in a character set. -/
inductive CharsetError where
  | unknown (name : String)
  /-- A transformation of bytes that is not a character set. -/
  | notText (name : String) (writing : Bool)
  | nulInName
  /-- Bytes from `start` up to `stop` that stand for no character. -/
  | undecodable (codec : String) (first : UInt8) (start stop : Nat) (reason : String)
  /-- Characters from `start` up to `stop` that have no bytes. -/
  | unencodable (codec : String) (first : Char) (start stop : Nat) (reason : String)
  | noByteOrderMark
  deriving Repr, DecidableEq, Inhabited

namespace CharsetError

def span (start stop : Nat) : String :=
  s!"{start}-{stop - 1}"

/-- A character as an escape of the least width that holds it. -/
def escape (c : Char) : String :=
  let n := c.toNat
  if n < 0x100 then "\\x" ++ Text.hex 2 n
  else if n < 0x10000 then "\\u" ++ Text.hex 4 n
  else "\\U" ++ Text.hex 8 n

def message : CharsetError → String
  | unknown name => s!"unknown encoding: {name}"
  | notText name writing =>
    let call := if writing then "codecs.encode()" else "codecs.open()"
    s!"'{name}' is not a text encoding; use {call} to handle arbitrary codecs"
  | nulInName => "embedded null character"
  | undecodable codec first start stop reason =>
    if stop = start + 1 then
      s!"'{codec}' codec can't decode byte 0x{Text.hex 2 first.toNat} in position {start}: {reason}"
    else s!"'{codec}' codec can't decode bytes in position {span start stop}: {reason}"
  | unencodable codec first start stop reason =>
    if stop = start + 1 then
      s!"'{codec}' codec can't encode character '{escape first}' in position {start}: {reason}"
    else s!"'{codec}' codec can't encode characters in position {span start stop}: {reason}"
  | noByteOrderMark => "UTF-16 stream does not start with BOM"

end CharsetError

namespace Charset

def isNameChar (c : Char) : Bool :=
  c.isAlphanum || c == '.'

/-- A name in small letters, with one underscore for each inner run of other characters. -/
def normalizeChars : (gap started : Bool) → List Char → List Char
  | _, _, [] => []
  | gap, started, c :: cs =>
    if isNameChar c then
      (if gap && started then ['_'] else []) ++ c.toLower :: normalizeChars false true cs
    else normalizeChars true started cs

def normalize (name : String) : String :=
  String.ofList (normalizeChars false false name.toList)

def names : List (Charset × List String) :=
  [(utf8, ["cp65001", "u8", "utf", "utf8", "utf8_ucs2", "utf8_ucs4"]),
    (latin1, ["8859", "cp819", "csisolatin1", "ibm819", "iso8859", "iso8859_1", "iso_8859_1", "iso_8859_1_1987",
      "iso_ir_100", "l1", "latin", "latin1"]),
    (ascii, ["646", "ansi_x3.4_1968", "ansi_x3.4_1986", "ansi_x3_4_1968", "cp367", "csascii", "ibm367",
      "iso646_us", "iso_646.irv_1991", "iso_ir_6", "us", "us_ascii"]),
    (windows1252, ["1252", "windows_1252"]),
    (shiftJis, ["csshiftjis", "s_jis", "shiftjis", "sjis", "x_mac_japanese"]),
    (utf16, ["u16", "utf16"]),
    (utf16Little, ["unicodelittleunmarked", "utf_16le"]),
    (utf16Big, ["unicodebigunmarked", "utf_16be"])]

/-- The name under which each character set is known first. -/
def properNames : List (String × Charset) :=
  [("utf_8", utf8), ("utf_8_sig", utf8Marked), ("latin_1", latin1), ("ascii", ascii), ("cp1252", windows1252),
    ("shift_jis", shiftJis), ("utf_16", utf16), ("utf_16_le", utf16Little), ("utf_16_be", utf16Big)]

def transformNames : List String :=
  ["hex", "hex_codec", "base64", "base_64", "base64_codec", "bz2", "bz2_codec", "quopri", "quoted_printable",
    "quotedprintable", "quopri_codec", "rot13", "rot_13", "uu", "uu_codec", "zip", "zlib", "zlib_codec"]

def aliased? (name : String) : Option Charset :=
  (names.find? fun row => row.2.contains name).map (·.1)

/-- The character set of a name. A dot also counts as an underscore. -/
def ofName? (name : String) : Option Charset :=
  let n := normalize name
  let plain := n.map fun c => if c = '.' then '_' else c
  (aliased? n).orElse fun _ => (aliased? plain).orElse fun _ => properNames.lookup n

/-- The character set of a name for reading or for writing, or why there is none. -/
def named (writing : Bool) (name : String) : Except CharsetError Charset :=
  if holdsNul name then .error .nulInName
  else match ofName? name with
    | some charset => .ok charset
    | none => if transformNames.contains (normalize name) then .error (.notText name writing) else .error (.unknown name)

end Charset

end JavaStubs
