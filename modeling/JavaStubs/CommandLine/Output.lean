import JavaStubs.Run.Settings
import JavaStubs.Value.Json

/-! What the commands of the program print: reports as JSON or as plain lines, and errors. -/

namespace JavaStubs.CommandLine

def toolName : String := "stubgen"

def toolVersion : String := "0.1.0"

def reportVersion : Int := 1

def baseFields (s : Settings) : List (String × Value) :=
  [("schema_version", .int reportVersion), ("tool", .text toolName), ("status", .text "ok"), ("run_id", .text s.runId),
    ("scope", .text s.scope.word), ("project_root", .text s.root.text)]

def printLine (line : String) : Action Unit :=
  Action.out (line ++ "\n")

def printReport (s : Settings) (layout : Json.Layout) (fields : List (String × Value)) : Action Unit :=
  printLine ((Value.table (Value.mergeFields (baseFields s) fields)).json layout)

/-- Prints lines for people, unless only warnings and errors are wanted. -/
def printLines (s : Settings) (lines : List String) : Action Unit :=
  if s.quiet then return () else Action.out (String.join (lines.map (· ++ "\n")))

def versionLine : String :=
  toolName ++ " " ++ toolVersion

def versionReport : Value :=
  .table [("schema_version", .int reportVersion), ("tool", .text toolName), ("status", .text "ok"),
    ("version", .text toolVersion)]

def errorText (asJson : Bool) (message : String) (code : Int) (kind : String := ErrorClass.general.kind)
    (runId : String := "") : String :=
  if asJson then
    (Value.table [("schema_name", .text "stubgen.error.v1"), ("schema_version", .int reportVersion),
      ("tool", .text toolName), ("status", .text "error"), ("run_id", .text runId),
      ("errors", .array [.table [("code", .int code), ("kind", .text kind), ("message", .text message)]])]).json .line
  else s!"{toolName}: error: {message}"

end JavaStubs.CommandLine
