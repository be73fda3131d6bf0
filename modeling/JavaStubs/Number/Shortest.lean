import JavaStubs.Number.Real64

/-! The shortest decimal that reads back as a given binary number: of the grids of one digit, two digits and so on,
the first with a number that rounds to the given one. -/

namespace JavaStubs.Number

/-- A positive number `num / den` with the ends of the interval that rounds to it, over the same denominator. -/
structure Interval where
  low : Nat
  num : Nat
  high : Nat
  den : Nat
  closed : Bool

/-- The interval around `m · 2 ^ e`. Below a power of two the neighbours are twice as close. -/
def Interval.of (m : Nat) (e : Int) : Interval :=
  let below := if m = Nat.pow 2 52 ∧ -1074 < e then 1 else 2
  let scale := if 0 ≤ e then Nat.pow 2 e.natAbs else 1
  let den := if 0 ≤ e then 4 else 4 * Nat.pow 2 e.natAbs
  ⟨(4 * m - below) * scale, 4 * m * scale, (4 * m + 2) * scale, den, m % 2 = 0⟩

/-- Whether `n · unitNum / unitDen` lies in the interval. -/
def Interval.contains (i : Interval) (n unitNum unitDen : Nat) : Bool :=
  let x := n * unitNum * i.den
  let low := i.low * unitDen
  let high := i.high * unitDen
  if i.closed then low ≤ x && x ≤ high else low < x && x < high

/-- The digits of the number on the grid of multiples of `unitNum / unitDen`, if one of its two neighbours there
lies in the interval. -/
def Interval.onGrid? (i : Interval) (unitNum unitDen : Nat) : Option Nat :=
  let n := i.num * unitDen / (i.den * unitNum)
  match i.contains n unitNum unitDen, i.contains (n + 1) unitNum unitDen with
  | false, false => none
  | true, false => some n
  | false, true => some (n + 1)
  | true, true =>
    let down := i.num * unitDen - n * unitNum * i.den
    let up := (n + 1) * unitNum * i.den - i.num * unitDen
    some (if down < up then n else if up < down then n + 1 else if n % 2 = 0 then n else n + 1)

/-- The place of the decimal point: the number lies in `[10 ^ (p - 1), 10 ^ p)`. -/
def pointPlace (num den : Nat) : Int :=
  if den ≤ num then (Nat.toDigits 10 (num / den)).length
  else
    let place := (List.range 400).find? fun j => den ≤ num * Nat.pow 10 (j + 1)
    Int.negOfNat (place.getD 400)

/-- The number without its last zeros, and how many it lost. -/
def stripZeros : (fuel n : Nat) → Nat × Nat
  | 0, n => (n, 0)
  | fuel + 1, n =>
    if n ≠ 0 ∧ n % 10 = 0 then
      let (d, z) := stripZeros fuel (n / 10)
      (d, z + 1)
    else (n, 0)

/-- Digits and the place of the point: the decimal is `0.d₁d₂… · 10 ^ place`. -/
structure Decimal where
  digits : List Char
  place : Int

/-- The shortest decimal of `m · 2 ^ e`, for a positive `m`. -/
def shortest (m : Nat) (e : Int) : Decimal :=
  let i := Interval.of m e
  let p := pointPlace i.num i.den
  let hit := (List.range 17).findSome? fun k =>
    let unit : Int := p - ((k : Nat) + 1 : Nat)
    let n? := if 0 ≤ unit then i.onGrid? (Nat.pow 10 unit.natAbs) 1 else i.onGrid? 1 (Nat.pow 10 unit.natAbs)
    n?.map fun n => (n, unit)
  match hit with
  | none => ⟨['0'], 1⟩
  | some (n, unit) =>
    let (d, zeros) := stripZeros 20 n
    let digits := Nat.toDigits 10 d
    ⟨digits, digits.length + zeros + unit⟩

/-- Which decimals are written without an exponent, and how an exponent looks. -/
structure RealFormat where
  firstPlace : Int
  lastPlace : Int
  exponentDigits : Nat

/-- Positional from `0.0001` up to sixteen digits before the point; otherwise an exponent of two digits or
more with its sign. -/
def plainFormat : RealFormat :=
  ⟨-3, 16, 2⟩

/-- A decimal in a format. A positional number always has a digit on each side of the point. -/
def Decimal.write (f : RealFormat) (d : Decimal) : List Char :=
  if f.firstPlace ≤ d.place ∧ d.place ≤ f.lastPlace then
    if d.place ≤ 0 then '0' :: '.' :: List.replicate d.place.natAbs '0' ++ d.digits
    else
      let n := d.place.toNat
      let whole := d.digits.take n ++ List.replicate (n - d.digits.length) '0'
      let rest := d.digits.drop n
      whole ++ '.' :: (if rest.isEmpty then ['0'] else rest)
  else
    let x := d.place - 1
    let exponent := Nat.toDigits 10 x.natAbs
    d.digits.take 1 ++ (if d.digits.length ≤ 1 then [] else '.' :: d.digits.drop 1) ++
      'e' :: (if x < 0 then '-' else '+') :: List.replicate (f.exponentDigits - exponent.length) '0' ++ exponent

structure SpecialNames where
  infinity : String
  nan : String

/-- The text of a number: the shortest decimal that reads back, or a name. -/
def Real64.text (names : SpecialNames) (x : Real64) : String :=
  let sign (negative : Bool) : String := if negative then "-" else ""
  match x with
  | .finite negative m e =>
    sign negative ++ (if m = 0 then "0.0" else String.ofList ((shortest m e).write plainFormat))
  | .infinite negative => sign negative ++ names.infinity
  | .nan => names.nan

end JavaStubs.Number
