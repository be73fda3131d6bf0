import JavaStubs.Value.Basic

/-! Dates and times in their standard form, with a blank between a date and its time. -/

namespace JavaStubs

def padded (width n : Nat) : String :=
  let digits := Nat.toDigits 10 n
  String.ofList (List.replicate (width - digits.length) '0' ++ digits)

def Date.iso (d : Date) : String :=
  "-".intercalate [padded 4 d.year, padded 2 d.month, padded 2 d.day]

/-- Microseconds are written only if there are any. -/
def TimeOfDay.iso (t : TimeOfDay) : String :=
  ":".intercalate [padded 2 t.hour, padded 2 t.minute, padded 2 t.second] ++
    if t.microsecond = 0 then "" else "." ++ padded 6 t.microsecond

/-- A distance from universal time in hours and minutes. -/
def isoOffset (minutes : Int) : String :=
  (if minutes < 0 then "-" else "+") ++ ":".intercalate [padded 2 (minutes.natAbs / 60), padded 2 (minutes.natAbs % 60)]

def DateTime.iso (t : DateTime) : String :=
  t.date.iso ++ " " ++ t.time.iso ++ (t.offset?.map isoOffset).getD ""

end JavaStubs
