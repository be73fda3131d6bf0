import JavaStubs.Run.Settings
import JavaStubs.Value.Json
import JavaStubs.Value.Shown

/-! Log events on the standard error, as `key=value` words or as one JSON object. -/

namespace JavaStubs.Log

inductive Level where
  | debug
  | info
  /-- A level that is always shown. -/
  | other (word : String)
  deriving Repr, DecidableEq, Inhabited

def Level.ofWord (word : String) : Level :=
  if word = "debug" then debug else if word = "info" then info else other word

def Level.word : Level → String
  | debug => "debug"
  | info => "info"
  | other word => word

def warn : Level := .other "warn"

structure Event where
  level : Level
  component : String
  action : String
  fields : List (String × Value) := []
  deriving Inhabited

def isShown (s : Settings) : Level → Bool
  | .debug => s.verbose
  | .info => !s.quiet
  | .other _ => true

/-- The standard fields of an event with its own, which take their place. -/
def Event.payload (e : Event) (s : Settings) (moment : Moment) : List (String × Value) :=
  Value.mergeFields [("ts", .text moment.iso), ("level", .text e.level.word), ("run_id", .text s.runId),
    ("component", .text e.component), ("action", .text e.action)] e.fields

/-- The event in words. Only the time can be replaced by a field. -/
def Event.text (e : Event) (s : Settings) (moment : Moment) : String :=
  let ts := ((e.fields.lookup "ts").map Value.plain).getD moment.iso
  let core :=
    s!"ts={ts} level={e.level.word} run_id={s.runId} component={e.component} action={e.action}"
  let extras := " ".intercalate ((Json.sortFields e.fields).map fun (k, v) => k ++ "=" ++ v.plain)
  if extras = "" then core else core ++ " " ++ extras

def Event.line (e : Event) (s : Settings) (moment : Moment) : String :=
  (if s.logJson then (Value.table (e.payload s moment)).json .line else e.text s moment) ++ "\n"

def write (s : Settings) (e : Event) : Action Unit := do
  if isShown s e.level then Action.err (e.line s (← get).moment)

end JavaStubs.Log
