import JavaStubs.Charset.Encode
import JavaStubs.Disk.Files
import JavaStubs.Text.Cut

/-! Projects as lines of text. A line that ends in a slash names a directory, one that starts with a tab is a line of
the file named last, and any other names a file. -/

namespace JavaStubs.CommandLine

/-- A disk while its listing is read, with the file whose lines may follow. -/
structure Listed where
  disk : Disk
  file? : Option FilePath := none
  deriving Inhabited

namespace Listed

/-- Replaces the bytes of a file. What cannot be written is left out. -/
def put (x : Listed) (p : FilePath) (data : List UInt8) : Listed :=
  let d := (x.disk.ensureDirs p.parent).1
  ⟨(d.write p data).toOption.getD d, some p⟩

def addLine (x : Listed) (line : String) : Listed :=
  match line.toList, x.file? with
  | [], _ => x
  | '\t' :: cs, some p => x.put p ((x.disk.read p).toOption.getD [] ++ (cs ++ ['\n']).flatMap Charset.utf8Bytes)
  | '\t' :: _, none => x
  | _, _ =>
    let p := FilePath.ofText line
    if Text.endsWith line "/" then ⟨(x.disk.ensureDirs p).1, none⟩ else x.put p []

end Listed

def ofListing (d : Disk) (lines : List String) : Disk :=
  (lines.foldl Listed.addLine { disk := d }).disk

end JavaStubs.CommandLine
