import JavaStubs.Value.Basic
import JavaStubs.Toml.Problem

/-! Tables that grow while a document is read, and the marks that say which of their keys may still be opened or
changed. -/

namespace JavaStubs.Toml

abbrev Fields := List (String × Value)

/-- Gives a key a value, in its place if it has one and at the end otherwise. -/
def put (fields : Fields) (k : String) (v : Value) : Fields :=
  match fields with
  | [] => [(k, v)]
  | (k', v') :: rest => if k' = k then (k, v) :: rest else (k', v') :: put rest k v

/-- Changes the table behind a dotted key; missing tables on the way are made. With `lists` the key of an array
stands for its last table. -/
def update (lists : Bool) (change : Fields → Except Problem Fields) : Key → Fields → Except Problem Fields
  | [], fields => change fields
  | k :: ks, fields =>
    match fields.lookup k with
    | none => (update lists change ks []).map fun inner => put fields k (.table inner)
    | some (.table inner) => (update lists change ks inner).map fun inner => put fields k (.table inner)
    | some (.array items) =>
      match lists, items.getLast? with
      | true, some (.table inner) =>
        (update lists change ks inner).map fun inner => put fields k (.array (items.dropLast ++ [.table inner]))
      | _, _ => .error .overwritten
    | some _ => .error .overwritten

def openTable (key : Key) (fields : Fields) : Except Problem Fields :=
  update true .ok key fields

def define (problem : Problem) (k : String) (v : Value) (fields : Fields) : Except Problem Fields :=
  if (fields.lookup k).isSome then .error problem else .ok (put fields k v)

/-- Adds an empty table to the array behind a key, which is made if it is missing. -/
def appendTable (key : Key) (fields : Fields) : Except Problem Fields :=
  let last := key.getLast?.getD ""
  update true (fun inner =>
    match inner.lookup last with
    | none => .ok (put inner last (.array [.table []]))
    | some (.array items) => .ok (put inner last (.array (items ++ [.table []])))
    | some _ => .error .overwritten) key.dropLast fields

/-- What a mark on a key says: that its value was written in one piece, so that nothing at it or below may
change, or that its table has been declared, so that no header may declare it again. -/
inductive Mark where
  | frozen (key : Key)
  | declared (key : Key)
  deriving DecidableEq

def Mark.key : Mark → Key
  | frozen key => key
  | declared key => key

abbrev Marks := List Mark

/-- Whether a key, or one it is below, is frozen. The document itself never is. -/
def Marks.isFrozen (marks : Marks) (key : Key) : Bool :=
  !key.isEmpty && marks.any fun
    | .frozen k => k.isPrefixOf key
    | .declared _ => false

def Marks.isDeclared (marks : Marks) (key : Key) : Bool :=
  !key.isEmpty && marks.contains (.declared key)

def Marks.forget (marks : Marks) (key : Key) : Marks :=
  marks.filter fun m => !key.isPrefixOf m.key

end JavaStubs.Toml
