import JavaStubs.Text.Hex
import JavaStubs.Value.Basic
import JavaStubs.Toml.Problem

/-! Numbers, dates and times of a TOML document. Each reader takes the longest start of the text that has its form and
gives what follows it. -/

namespace JavaStubs.Toml

def digitValue (c : Char) : Nat :=
  c.toNat - '0'.toNat

def digits? (n : Nat) (cs : List Char) : Option (Nat × List Char) :=
  let ds := cs.take n
  if ds.length = n ∧ ds.all Char.isDigit then some (ds.foldl (fun v c => v * 10 + digitValue c) 0, cs.drop n)
  else none

def twoDigits? (low high : Nat) (cs : List Char) : Option (Nat × List Char) :=
  match digits? 2 cs with
  | some (n, rest) => if low ≤ n ∧ n ≤ high then some (n, rest) else none
  | none => none

def skip? (p : Char → Bool) : List Char → Option (List Char)
  | [] => none
  | c :: cs => if p c then some cs else none

/-- A fraction of a second: the first six digits count. -/
def microseconds (cs : List Char) : Nat × List Char :=
  match cs with
  | '.' :: rest =>
    let ds := rest.takeWhile Char.isDigit
    if ds.isEmpty then (0, cs)
    else ((List.range 6).foldl (fun v i => v * 10 + ((ds[i]?).map digitValue).getD 0) 0, rest.dropWhile Char.isDigit)
  | _ => (0, cs)

def timeOfDay? (cs : List Char) : Option (TimeOfDay × List Char) := do
  let (hour, cs) ← twoDigits? 0 23 cs
  let cs ← skip? (· == ':') cs
  let (minute, cs) ← twoDigits? 0 59 cs
  let cs ← skip? (· == ':') cs
  let (second, cs) ← twoDigits? 0 59 cs
  let (micro, cs) := microseconds cs
  return (⟨hour, minute, second, micro⟩, cs)

/-- The distance from universal time in minutes. -/
def offset? (cs : List Char) : Option (Int × List Char) :=
  match cs with
  | [] => none
  | c :: rest =>
    if c = 'Z' ∨ c = 'z' then some (0, rest)
    else if c = '+' ∨ c = '-' then do
      let (hour, rest) ← twoDigits? 0 23 rest
      let rest ← skip? (· == ':') rest
      let (minute, rest) ← twoDigits? 0 59 rest
      let minutes : Int := (hour * 60 + minute : Nat)
      return (if c = '+' then minutes else -minutes, rest)
    else none

def calendarDate? (cs : List Char) : Option (Date × List Char) := do
  let (year, cs) ← digits? 4 cs
  let cs ← skip? (· == '-') cs
  let (month, cs) ← twoDigits? 1 12 cs
  let cs ← skip? (· == '-') cs
  let (day, cs) ← twoDigits? 1 31 cs
  return (⟨year, month, day⟩, cs)

def isLeapYear (year : Nat) : Bool :=
  year % 4 == 0 && (year % 100 != 0 || year % 400 == 0)

def daysIn (year month : Nat) : Nat :=
  if month = 2 then (if isLeapYear year then 29 else 28)
  else if [4, 6, 9, 11].contains month then 30 else 31

def isValidDate (d : Date) : Bool :=
  1 ≤ d.year && d.day ≤ daysIn d.year d.month

def dateTime? (cs : List Char) : Option (Read Value) := do
  let (date, rest) ← calendarDate? cs
  let withTime : Option (TimeOfDay × List Char) := do
    let afterMark ← skip? (fun c => c == 'T' || c == 't' || c == ' ') rest
    timeOfDay? afterMark
  return if !isValidDate date then .error ⟨.invalidDate, cs⟩
    else match withTime with
      | none => .ok (.date date, rest)
      | some (time, rest) =>
        match offset? rest with
        | some (minutes, rest) => .ok (.dateTime ⟨date, time, some minutes⟩, rest)
        | none => .ok (.dateTime ⟨date, time, none⟩, rest)

/-- Further digits, each of which may have one underscore in front of it. -/
def moreDigits (isDigit : Char → Bool) : List Char → List Char × List Char
  | '_' :: c :: cs =>
    if isDigit c then
      let (ds, rest) := moreDigits isDigit cs
      (c :: ds, rest)
    else ([], '_' :: c :: cs)
  | c :: cs =>
    if isDigit c then
      let (ds, rest) := moreDigits isDigit cs
      (c :: ds, rest)
    else ([], c :: cs)
  | [] => ([], [])

def digitRun? (isDigit : Char → Bool) (cs : List Char) : Option (List Char × List Char) :=
  match cs with
  | [] => none
  | c :: rest =>
    if isDigit c then
      let (ds, rest) := moreDigits isDigit rest
      some (c :: ds, rest)
    else none

def valueIn (base : Nat) (ds : List Char) : Nat :=
  ds.foldl (fun v c => v * base + (Text.hexValue? c).getD 0) 0

def isDigitBelow (base : Nat) (c : Char) : Bool :=
  match Text.hexValue? c with
  | some v => v < base
  | none => false

/-- An integer in another base, marked by a letter after a zero. -/
def based? (cs : List Char) : Option (Value × List Char) :=
  let read (base : Nat) (rest : List Char) : Option (Value × List Char) :=
    (digitRun? (isDigitBelow base) rest).map fun (ds, rest) => (.int (valueIn base ds), rest)
  match cs with
  | '0' :: 'x' :: rest => read 16 rest
  | '0' :: 'b' :: rest => read 2 rest
  | '0' :: 'o' :: rest => read 8 rest
  | _ => none

def sign (cs : List Char) : Bool × List Char :=
  match cs with
  | '-' :: rest => (true, rest)
  | '+' :: rest => (false, rest)
  | _ => (false, cs)

/-- The whole part of a decimal number: a zero alone, or digits that start with another one. -/
def whole? (cs : List Char) : Option (List Char × List Char) :=
  match cs with
  | '0' :: rest => some (['0'], rest)
  | _ => digitRun? Char.isDigit cs

def fraction? (cs : List Char) : Option (List Char × List Char) :=
  match cs with
  | '.' :: rest => digitRun? Char.isDigit rest
  | _ => none

def exponent? (cs : List Char) : Option (Int × List Char) :=
  match cs with
  | [] => none
  | c :: rest =>
    if c = 'e' ∨ c = 'E' then
      let (negative, rest) := sign rest
      (digitRun? Char.isDigit rest).map fun (ds, rest) =>
        let n : Int := valueIn 10 ds
        (if negative then -n else n, rest)
    else none

/-- A decimal number. It is an integer unless it has a fraction or an exponent. -/
def decimal? (cs : List Char) : Option (Read Value) := do
  let (negative, rest) := sign cs
  let (whole, rest) ← whole? rest
  let (fraction, rest') := (fraction? rest).getD ([], rest)
  let (exponent, rest'') := (exponent? rest').getD (0, rest')
  let isReal := (fraction? rest).isSome || (exponent? rest').isSome
  return if isReal then
      .ok (.real (.ofDecimal negative (valueIn 10 (whole ++ fraction)) (exponent - fraction.length)), rest'')
    else if Value.digitLimit < whole.length then .error ⟨.overlong whole.length, cs⟩
    else
      let n : Int := valueIn 10 whole
      .ok (.int (if negative then -n else n), rest)

def special? (cs : List Char) : Option (Value × List Char) :=
  let (negative, rest) := sign cs
  match rest with
  | 'i' :: 'n' :: 'f' :: rest => some (.real (.infinite negative), rest)
  | 'n' :: 'a' :: 'n' :: rest => some (.real .nan, rest)
  | _ => none

def number? (cs : List Char) : Option (Read Value) :=
  ((based? cs).map .ok).orElse fun _ => (decimal? cs).orElse fun _ => (special? cs).map .ok

def scalar (cs : List Char) : Read Value :=
  match cs with
  | 't' :: 'r' :: 'u' :: 'e' :: rest => .ok (.bool true, rest)
  | 'f' :: 'a' :: 'l' :: 's' :: 'e' :: rest => .ok (.bool false, rest)
  | _ =>
    match dateTime? cs with
    | some result => result
    | none =>
      match timeOfDay? cs with
      | some (t, rest) => .ok (.time t, rest)
      | none =>
        match number? cs with
        | some result => result
        | none => .error ⟨.invalidValue, cs⟩

end JavaStubs.Toml
