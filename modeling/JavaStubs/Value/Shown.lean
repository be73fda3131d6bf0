import JavaStubs.Number.Shortest
import JavaStubs.Text.Quoted
import JavaStubs.Value.Iso

/-! The text of a value inside a message. Texts stand in quotes, tables show their keys in order, and a time names its
parts. -/

namespace JavaStubs

/-- Arguments of a constructor call: the parts that are always there, then the small parts down to the last one
that is not zero. -/
def timeParts (t : TimeOfDay) : List Nat :=
  if t.microsecond ≠ 0 then [t.hour, t.minute, t.second, t.microsecond]
  else if t.second ≠ 0 then [t.hour, t.minute, t.second]
  else [t.hour, t.minute]

def callText (name : String) (args : List String) : String :=
  name ++ "(" ++ ", ".intercalate args ++ ")"

/-- A distance from universal time. One to the west counts as the day before plus seconds. -/
def offsetText (minutes : Int) : String :=
  if minutes = 0 then "datetime.timezone.utc"
  else
    let seconds := minutes * 60
    let days := seconds.fdiv 86400
    let rest := seconds.fmod 86400
    let parts := (if days = 0 then [] else [s!"days={days}"]) ++ (if rest = 0 then [] else [s!"seconds={rest}"])
    callText "datetime.timezone" [callText "datetime.timedelta" parts]

def Date.parts (d : Date) : List Nat :=
  [d.year, d.month, d.day]

def Date.shown (d : Date) : String :=
  callText "datetime.date" (d.parts.map toString)

def TimeOfDay.shown (t : TimeOfDay) : String :=
  callText "datetime.time" ((timeParts t).map toString)

def DateTime.shown (t : DateTime) : String :=
  callText "datetime.datetime" ((t.date.parts ++ timeParts t.time).map toString ++
    match t.offset? with
    | none => []
    | some minutes => ["tzinfo=" ++ offsetText minutes])

namespace Value

def shownNames : Number.SpecialNames :=
  ⟨"inf", "nan"⟩

mutual

def shown : Value → String
  | null => "None"
  | bool b => if b then "True" else "False"
  | int n => toString n
  | real x => x.text shownNames
  | text s => Text.quoted s
  | date d => d.shown
  | time t => t.shown
  | dateTime t => t.shown
  | array items => "[" ++ ", ".intercalate (shownItems items) ++ "]"
  | table fields => "\x7b" ++ ", ".intercalate (shownFields fields) ++ "\x7d"

def shownItems : List Value → List String
  | [] => []
  | v :: vs => shown v :: shownItems vs

def shownFields : List (String × Value) → List String
  | [] => []
  | (key, v) :: rest => (Text.quoted key ++ ": " ++ shown v) :: shownFields rest

end

/-- The text of a value that stands for itself: a text has no quotes, and dates and times have their standard form. -/
def plain : Value → String
  | text s => s
  | date d => d.iso
  | time t => t.iso
  | dateTime t => t.iso
  | v => v.shown

mutual

/-- Whether no integer in a value has too many digits to be shown. -/
def showable : Value → Bool
  | int n => decide (n.natAbs < 10 ^ digitLimit)
  | array items => allShowable items
  | table fields => fieldsShowable fields
  | _ => true

def allShowable : List Value → Bool
  | [] => true
  | v :: vs => showable v && allShowable vs

def fieldsShowable : List (String × Value) → Bool
  | [] => true
  | (_, v) :: rest => showable v && fieldsShowable rest

end

end Value

end JavaStubs
