/-! Binary floating-point numbers of 64 bits, as exact values. A decimal is read by rounding it to the nearest such
number, ties to the even mantissa. -/

namespace JavaStubs.Number

/-- A finite number is `± mantissa · 2 ^ exponent`, with a mantissa below `2 ^ 53` that is at least `2 ^ 52`
unless the exponent is the least one, `-1074`. -/
inductive Real64 where
  | finite (negative : Bool) (mantissa : Nat) (exponent : Int)
  | infinite (negative : Bool)
  | nan
  deriving Repr, DecidableEq, Inhabited

/-- `num / den` rounded to the nearest integer, a half to the even one. -/
def roundDiv (num den : Nat) : Nat :=
  let q := num / den
  let r := num % den
  if 2 * r < den then q
  else if den < 2 * r then q + 1
  else if q % 2 = 0 then q else q + 1

/-- `num / den` divided by `2 ^ k`, rounded. -/
def roundScaled (num den : Nat) (k : Int) : Nat :=
  if k < 0 then roundDiv (num * Nat.pow 2 k.natAbs) den else roundDiv num (den * Nat.pow 2 k.natAbs)

namespace Real64

def zero (negative : Bool) : Real64 :=
  .finite negative 0 (-1074)

/-- The number nearest to `num / den`, where `den` is not zero. -/
def ofRatio (negative : Bool) (num den : Nat) : Real64 :=
  if num = 0 then zero negative
  else
    let low : Int := (num.log2 : Int) - den.log2 - 53
    let fits :=
      if low < 0 then num * Nat.pow 2 low.natAbs < den * Nat.pow 2 53 else num < den * Nat.pow 2 (low.natAbs + 53)
    let e := max (-1074) (if fits then low else low + 1)
    let m := roundScaled num den e
    let (m, e) := if m = Nat.pow 2 53 then (Nat.pow 2 52, e + 1) else (m, e)
    if 971 < e then .infinite negative else .finite negative m e

/-- The number nearest to `digits · 10 ^ exponent`. Beyond four hundred places on either side the result no
longer depends on the digits. -/
def ofDecimal (negative : Bool) (digits : Nat) (exponent : Int) : Real64 :=
  let places : Int := (Nat.toDigits 10 digits).length + exponent
  if digits = 0 ∨ places < -400 then zero negative
  else if 400 < places then .infinite negative
  else if exponent < 0 then ofRatio negative digits (Nat.pow 10 exponent.natAbs)
  else ofRatio negative (digits * Nat.pow 10 exponent.natAbs) 1

def toInt? : Real64 → Option Int
  | .finite negative m e =>
    let magnitude? : Option Nat :=
      if e < 0 then (if m % Nat.pow 2 e.natAbs = 0 then some (m / Nat.pow 2 e.natAbs) else none)
      else some (m * Nat.pow 2 e.natAbs)
    magnitude?.map fun n => if negative then -(n : Int) else n
  | _ => none

def isNegative : Real64 → Bool
  | .finite negative m _ => negative && m != 0
  | .infinite negative => negative
  | .nan => false

end Real64

end JavaStubs.Number
