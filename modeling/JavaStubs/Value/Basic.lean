import JavaStubs.Number.Real64

/-! Values of a data document: what a configuration file can hold and what a report consists of. A table keeps its
keys in the order in which they were written. -/

namespace JavaStubs

structure Date where
  year : Nat
  month : Nat
  day : Nat
  deriving Repr, DecidableEq

structure TimeOfDay where
  hour : Nat
  minute : Nat
  second : Nat
  microsecond : Nat
  deriving Repr, DecidableEq

/-- A time is local unless it comes with its distance from universal time, in minutes. -/
structure DateTime where
  date : Date
  time : TimeOfDay
  offset? : Option Int
  deriving Repr, DecidableEq

inductive Value where
  | null
  | bool (b : Bool)
  | int (n : Int)
  | real (x : Number.Real64)
  | text (s : String)
  | date (d : Date)
  | time (t : TimeOfDay)
  | dateTime (t : DateTime)
  | array (items : List Value)
  | table (fields : List (String × Value))
  deriving Inhabited

namespace Value

/-- The most decimal digits of an integer that is turned into text, or read from text. -/
def digitLimit : Nat := 4300

/-- The message about an integer with too many digits. When it is read, it is known how many there are. -/
def overlong (digits? : Option Nat) : String :=
  let value := (digits?.map fun n => s!": value has {n} digits").getD ""
  s!"Exceeds the limit ({digitLimit} digits) for integer string conversion{value}; use sys.set_int_max_str_digits() " ++
    "to increase the limit"

/-- What holds of a value if it holds of its members holds of every value. -/
@[elab_as_elim]
theorem induction {P : Value → Prop} (null : P .null) (bool : ∀ b, P (.bool b)) (int : ∀ n, P (.int n))
    (real : ∀ x, P (.real x)) (text : ∀ s, P (.text s)) (date : ∀ d, P (.date d)) (time : ∀ t, P (.time t))
    (dateTime : ∀ t, P (.dateTime t)) (array : ∀ items, (∀ v ∈ items, P v) → P (.array items))
    (table : ∀ fields, (∀ f ∈ fields, P f.2) → P (.table fields)) (v : Value) : P v :=
  @Value.rec P (fun items => ∀ v ∈ items, P v) (fun fields => ∀ f ∈ fields, P f.2) (fun f => P f.2)
    null bool int real text date time dateTime array table
    nofun (fun _ _ h hs => List.forall_mem_cons.2 ⟨h, hs⟩) nofun (fun _ _ h hs => List.forall_mem_cons.2 ⟨h, hs⟩)
    (fun _ _ h => h) v

def field? (key : String) : Value → Option Value
  | table fields => fields.lookup key
  | _ => none

def text? : Value → Option String
  | text s => some s
  | _ => none

def items? : Value → Option (List Value)
  | array items => some items
  | _ => none

def texts (ss : List String) : Value :=
  .array (ss.map .text)

def ofText? : Option String → Value
  | some s => .text s
  | none => .null

/-- Fields of which the later ones take the place of earlier ones of the same key. -/
def mergeFields (fields more : List (String × Value)) : List (String × Value) :=
  (fields.filter fun f => more.all fun m => m.1 ≠ f.1) ++ more

end Value

end JavaStubs
