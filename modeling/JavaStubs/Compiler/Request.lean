import JavaStubs.Failure

/-! What a stub compiler is asked to do. -/

namespace JavaStubs

/-- The option that tells the compiler how its sources are encoded, the only one there is. -/
def sourceEncodingKey : String := "sourceEncoding"

structure Request where
  target : FilePath
  classPath : List String
  options : List (String × String)
  files : List FilePath
  deriving Repr, DecidableEq, Inhabited

namespace Request

def toValue (r : Request) : Value :=
  .table [("target_directory", .text r.target.text), ("class_path", .texts r.classPath),
    ("config", .table (r.options.map fun (k, v) => (k, .text v))), ("files", .texts (r.files.map FilePath.text))]

end Request

end JavaStubs
