import JavaStubs.Disk.Locate

/-! Reading, writing, making and removing entries of a disk. What is refused leaves the disk as it is, but for
directories that were made before the refusal and for the beginning of a file whose writing is broken off. -/

namespace JavaStubs.Disk

def read (d : Disk) (p : FilePath) : Except AccessError (List UInt8) :=
  match d.stat p with
  | .ok (_, .file data ..) => .ok data
  | .ok (_, _) => .error (.os (.at .EISDIR p))
  | .error e => .error e

/-- Writes a file: an existing one keeps its access time, a new one counts as created at present. -/
def write (d : Disk) (p : FilePath) (data : List UInt8) : Except AccessError Disk :=
  match d.locate true p with
  | .ok (.found l (.file _ _ accessed)) => .ok { d with tree := d.tree.insert l (.file data .now accessed) }
  | .ok (.found _ _) => .error (.os (.at .EISDIR p))
  | .ok (.vacant l) => .ok { d with tree := d.tree.create l (.file data .now .now) }
  | .error e => .error e

/-- Writes a file as far as the system lets it. Where the writing is broken off, the file has the bytes that have
arrived, and the refusal names no path. -/
def put (d : Disk) (p : FilePath) (data : List UInt8) : Disk × Except AccessError Unit :=
  match d.obstacles.writing.lookup p.text with
  | some ⟨errno, none⟩ => (d, .error (.os (.at errno p)))
  | some ⟨errno, some arrived⟩ =>
    match d.write p (data.take arrived) with
    | .ok d => (d, .error (.os ⟨errno, none⟩))
    | .error e => (d, .error e)
  | none =>
    match d.write p data with
    | .ok d => (d, .ok ())
    | .error e => (d, .error e)

def makeDir (d : Disk) (p : FilePath) : Except AccessError Disk :=
  match d.locate false p with
  | .ok (.found _ _) => .error (.os (.at .EEXIST p))
  | .ok (.vacant l) =>
    match d.obstacles.making.lookup p.text with
    | some errno => .error (.os (.at errno p))
    | none => .ok { d with tree := d.tree.create l (.dir .now) }
  | .error e => .error e

def unlink (d : Disk) (p : FilePath) : Except AccessError Disk :=
  match d.denied.removal.lookup p.text with
  | some errno => .error (.os (.at errno p))
  | none =>
    match d.locate false p with
    | .ok (.found _ (.dir _)) => .error (.os (.at .EISDIR p))
    | .ok (.found l _) => .ok { d with tree := d.tree.remove l }
    | .ok (.vacant _) => .error (.os (.at .ENOENT p))
    | .error e => .error e

/-- Makes one directory, or accepts the one that is there. A name that is taken by something else is refused. -/
def ensureOne (d : Disk) (p : FilePath) : Except AccessError Disk :=
  match d.makeDir p with
  | .error (.os e) =>
    if e.errno = .ENOENT then .error (.os e)
    else match d.isDir? p with
      | .ok true => .ok d
      | .ok false => .error (.os e)
      | .error e => .error e
  | result => result

/-- Makes a directory with those above it. The path is tried first; only if something above is missing is the
parent made. -/
def ensureDirs (d : Disk) (p : FilePath) : Disk × Except AccessError Unit :=
  match d.ensureOne p with
  | .ok d => (d, .ok ())
  | .error e =>
    if _h : p.parts ≠ [] ∧ e = .os (.at .ENOENT p) then
      match ensureDirs d p.parent with
      | (d, .error e) => (d, .error e)
      | (d, .ok ()) =>
        match d.ensureOne p with
        | .ok d => (d, .ok ())
        | .error e => (d, .error e)
    else (d, .error e)
  termination_by p.parts.length
  decreasing_by
    simp only [FilePath.parent, List.length_dropLast]
    have := List.length_pos_iff.2 _h.1
    omega

/-- Sets the modification time of a file and keeps its access time. -/
def setModified (d : Disk) (p : FilePath) (l : Loc) (time : Stamp) : Except AccessError Disk :=
  match d.untimed? p with
  | some errno => .error (.os (.at errno p))
  | none =>
    match d.tree.get? l with
    | some (.file data _ accessed) => .ok { d with tree := d.tree.insert l (.file data time accessed) }
    | _ => .error (.os (.at .ENOENT p))

end JavaStubs.Disk
