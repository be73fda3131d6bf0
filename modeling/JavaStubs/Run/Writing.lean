import JavaStubs.Charset.Encode
import JavaStubs.Disk.Files
import JavaStubs.Run.World
import JavaStubs.Value.Json

/-! Making directories and writing files as steps of a run. A file is written only if it does not hold the bytes
already, and text that cannot be encoded is refused before the disk is touched. -/

namespace JavaStubs

namespace Disk

/-- Writes a file with the directories above it, unless it holds the bytes. The result says whether it was
written; directories made before a refusal stay, and so do the bytes that have arrived. -/
def update (d : Disk) (p : FilePath) (data : List UInt8) : Disk × Except AccessError Bool :=
  match d.isFile? p with
  | .error e => (d, .error e)
  | .ok isFile =>
    match if isFile then d.read p else .ok [] with
    | .error e => (d, .error e)
    | .ok old =>
      if isFile && old == data then (d, .ok false)
      else
        match d.ensureDirs p.parent with
        | (d, .error e) => (d, .error e)
        | (d, .ok ()) =>
          match d.put p data with
          | (d, .ok ()) => (d, .ok true)
          | (d, .error e) => (d, .error e)

end Disk

namespace Action

/-- Does something to the disk that may leave it changed even if it is refused. -/
def alter (f : Disk → Disk × Except AccessError α) : Action α :=
  ExceptT.mk fun w =>
    let (d, result) := f w.disk
    (result.mapError .access, { w with disk := d })

def ensureDir (p : FilePath) : Action FilePath := do
  Acting.mapFailure (Failure.refused (.cannotCreateDirectory p)) (alter fun d => d.ensureDirs p)
  return p

/-- Why text could not be encoded; a name that no encoding can have stays what it is. -/
def encodeFailure (p : FilePath) (encoding : String) : CharsetError → Failure
  | .nulInName => .charset .nulInName
  | e => .stub (.cannotEncode p encoding e)

/-- Writes text unless the file holds exactly its bytes, and says whether it did. -/
def writeText (p : FilePath) (content : String) (encoding : String := "utf-8") : Action Bool := do
  match Charset.encodeAs encoding content with
  | .error e => throw (encodeFailure p encoding e)
  | .ok data => Acting.mapFailure (Failure.refused (.cannotWrite p)) (alter fun d => d.update p data)

def writeJson (p : FilePath) (v : Value) : Action FilePath := do
  let _ ← writeText p (v.json .indented ++ "\n")
  return p

end Action

end JavaStubs
