import JavaStubs.Value.Iso

/-! Moments of universal time, as log events and run names write them. -/

namespace JavaStubs

structure Moment where
  year : Nat
  month : Nat
  day : Nat
  hour : Nat
  minute : Nat
  second : Nat
  microsecond : Nat
  deriving Repr, DecidableEq, Inhabited

namespace Moment

/-- The standard form with the distance from universal time. Microseconds are written only if there are any. -/
def iso (m : Moment) : String :=
  let date := "-".intercalate [padded 4 m.year, padded 2 m.month, padded 2 m.day]
  let time := ":".intercalate [padded 2 m.hour, padded 2 m.minute, padded 2 m.second]
  let fraction := if m.microsecond = 0 then "" else "." ++ padded 6 m.microsecond
  date ++ "T" ++ time ++ fraction ++ "+00:00"

/-- Digits for use in a name. The year has as many as it needs. -/
def compact (m : Moment) : String :=
  toString m.year ++ padded 2 m.month ++ padded 2 m.day ++ "-" ++ padded 2 m.hour ++ padded 2 m.minute ++
    padded 2 m.second

end Moment

end JavaStubs
