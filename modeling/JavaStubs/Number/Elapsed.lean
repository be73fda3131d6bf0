import JavaStubs.Number.Real64

/-! Differences and multiples of binary numbers, each rounded to the nearest one, and the whole part of a number. -/

namespace JavaStubs.Number.Real64

def ofScaled (n : Int) (e : Int) : Real64 :=
  if e < 0 then ofRatio (n < 0) n.natAbs (Nat.pow 2 e.natAbs)
  else ofRatio (n < 0) (n.natAbs * Nat.pow 2 e.natAbs) 1

def ofInt (n : Int) : Real64 :=
  ofScaled n 0

def signed (negative : Bool) (m : Nat) : Int :=
  if negative then -(m : Int) else m

/-- The difference of two finite numbers; of others there is none. -/
def sub : Real64 → Real64 → Real64
  | .finite s m e, .finite s' m' e' =>
    let low := min e e'
    let a := signed s (m * Nat.pow 2 (e - low).toNat)
    let b := signed s' (m' * Nat.pow 2 (e' - low).toNat)
    ofScaled (a - b) low
  | _, _ => .nan

def scale (x : Real64) (k : Int) : Real64 :=
  match x with
  | .finite s m e => ofScaled (signed s m * k) e
  | x => x

/-- The integer next to a number on the side of zero. -/
def truncate : Real64 → Int
  | .finite s m e =>
    let n : Nat := if e < 0 then m / Nat.pow 2 e.natAbs else m * Nat.pow 2 e.natAbs
    signed s n
  | _ => 0

end JavaStubs.Number.Real64
