import JavaStubs.Text.Cut
import JavaStubs.Value.Shown

/-! Shapes of configuration values, and where a value departs from its shape. Every departure is found, and one of
them is reported. -/

namespace JavaStubs.Config

/-- What a value may look like. -/
inductive Shape where
  /-- A text that is not empty. -/
  | text
  /-- An integral number that is not negative. -/
  | count
  /-- One of some words. -/
  | word (words : List String)
  /-- A list of values of one shape, with at least one if asked for. -/
  | list (nonempty : Bool) (item : Shape)
  /-- A table with these keys only, some of them required. -/
  | table (required : List String) (fields : List (String × Shape))

/-- One step from a value to a part of it. -/
inductive PathStep where
  | key (name : String)
  | index (i : Nat)
  deriving Repr, DecidableEq, Inhabited

def PathStep.text : PathStep → String
  | key name => name
  | index i => toString i

inductive Departure where
  | wrongKind (v : Value) (kind : String)
  | unexpectedKeys (names : List String)
  | missingKey (name : String)
  | notAWord (v : Value) (words : List String)
  | empty (v : Value)
  | negative (v : Value)
  deriving Inhabited

def Departure.shown? : Departure → Option Value
  | wrongKind v _ | notAWord v _ | empty v | negative v => some v
  | unexpectedKeys _ | missingKey _ => none

def Departure.message : Departure → String
  | wrongKind v kind => s!"{v.shown} is not of type {Text.quoted kind}"
  | unexpectedKeys names =>
    let verb := if names.length = 1 then "was" else "were"
    let list := ", ".intercalate (names.map Text.quoted)
    s!"Additional properties are not allowed ({list} {verb} unexpected)"
  | missingKey name => s!"{Text.quoted name} is a required property"
  | notAWord v words => s!"{v.shown} is not one of {(Value.texts words).shown}"
  | empty v => s!"{v.shown} should be non-empty"
  | negative v => s!"{v.shown} is less than the minimum of 0"

/-- A departure and where it was found. `mismatch` says that the value has the wrong kind for its shape, or that
the shape asks for no kind. -/
structure Violation where
  path : List PathStep
  departure : Departure
  mismatch : Bool
  deriving Inhabited

def Violation.location (v : Violation) : String :=
  let text := Text.join "/" (v.path.map PathStep.text)
  if text = "" then "<root>" else text

def integer? : Value → Option Int
  | .int n => some n
  | .real x => x.toInt?
  | _ => none

/-- Whether a number is below zero; nothing else is. -/
def isNegative : Value → Bool
  | .int n => n < 0
  | .real x => x.isNegative
  | _ => false

def here (departure : Departure) (mismatch : Bool) : List Violation :=
  [⟨[], departure, mismatch⟩]

def under (step : PathStep) (vs : List Violation) : List Violation :=
  vs.map fun v => { v with path := step :: v.path }

mutual

def violations : Shape → Value → List Violation
  | .text, v =>
    match v with
    | .text s => if s = "" then here (.empty v) false else []
    | _ => here (.wrongKind v "string") true
  | .count, v =>
    (if (integer? v).isSome then [] else here (.wrongKind v "integer") true) ++
      if isNegative v then here (.negative v) (integer? v).isNone else []
  | .word words, v =>
    match v with
    | .text s => if words.contains s then [] else here (.notAWord v words) true
    | _ => here (.notAWord v words) true
  | .list nonempty item, v =>
    match v with
    | .array items =>
      (if nonempty && items.isEmpty then here (.empty v) false else []) ++
        (items.zipIdx.map fun (x, i) => under (.index i) (violations item x)).flatten
    | _ => here (.wrongKind v "array") true
  | .table required fields, v =>
    match v with
    | .table given =>
      let extra := (given.map (·.1)).filter fun k => (fields.map (·.1)).all (· ≠ k)
      (if extra.isEmpty then []
        else here (.unexpectedKeys (extra.mergeSort fun a b => decide (a ≤ b))) false) ++
        ((required.filter fun k => (given.lookup k).isNone).map fun k => ⟨[], .missingKey k, false⟩) ++
        fieldViolations fields given
    | _ => here (.wrongKind v "object") true

def fieldViolations : List (String × Shape) → List (String × Value) → List Violation
  | [], _ => []
  | (k, shape) :: rest, given =>
    (match given.lookup k with
      | some v => under (.key k) (violations shape v)
      | none => []) ++ fieldViolations rest given

end

/-- Steps in order: keys as texts, indexes as numbers. -/
def stepLess : PathStep → PathStep → Bool
  | .key a, .key b => a < b
  | .index a, .index b => a < b
  | .index _, .key _ => true
  | .key _, .index _ => false

def pathLess : List PathStep → List PathStep → Bool
  | [], [] => false
  | [], _ :: _ => true
  | _ :: _, [] => false
  | a :: as, b :: bs => stepLess a b || (a = b && pathLess as bs)

/-- Whether the second violation is to be reported rather than the first. -/
def outranks (a b : Violation) : Bool :=
  if b.path.length ≠ a.path.length then b.path.length < a.path.length
  else if a.path ≠ b.path then pathLess a.path b.path
  else b.mismatch && !a.mismatch

def reported? : List Violation → Option Violation
  | [] => none
  | v :: vs => some (vs.foldl (fun best v => if outranks best v then v else best) v)

end JavaStubs.Config
