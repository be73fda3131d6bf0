import JavaStubs.Build.Generate
import JavaStubs.CommandLine.Arguments
import JavaStubs.CommandLine.Help
import JavaStubs.CommandLine.Output
import JavaStubs.Config.Load

/-! The program: it reads its arguments, performs the command they name, and turns failures into an error line and an
exit code. -/

namespace JavaStubs.CommandLine

structure Exit where
  code : Nat
  /-- Whether the arguments already led to the end, before any command was performed. -/
  isUsage : Bool := false
  deriving Repr, DecidableEq, Inhabited

/-- Answers a request for help or for the version, or arguments that cannot be accepted. -/
def leave : Halt → Action Exit
  | .help c => do
    Action.out (unlines (helpLines c))
    return ⟨0, true⟩
  | .version => do
    printLine versionLine
    return ⟨0, true⟩
  | .misuse c message => do
    Action.err (unlines (usageLines c ++ [s!"{c.invocation}: error: {message}"]))
    return ⟨2, true⟩

def loadConfig (s : Settings) (a : Arguments) : Action Config :=
  Action.look fun d => Config.load d s.root (a.value? .configFile)

def dump (s : Settings) (a : Arguments) : Action Unit := do
  let config ← loadConfig s a
  if config.toValue.showable then
    printReport s (if s.format = .json then .line else .indented) [("config", config.toValue)]
  else throw (.badValue (Value.overlong none))

def validate (s : Settings) (a : Arguments) : Action Unit := do
  let config ← loadConfig s a
  if s.format = .json then printReport s .line [("origin", .text config.origin)]
  else printLines s [s!"configuration ok: {config.origin}"]

/-- Performs a build on the world with a new host. The build is handed back as it is at the end. -/
def building (compiler : Compiler) (host : Host) (act : BuildAction α) : Action (α × Build) :=
  ExceptT.mk fun world =>
    let (result, b) := act.run.run { world, compiler, host }
    (result.map (·, b), b.world)

def generate (s : Settings) (a : Arguments) : Action Unit := do
  let config := (← loadConfig s a).override
    { sourceEncoding := a.value? .sourceEncoding, outputDirectory := a.value? .outputDir, scope := s.scope }
  let compiler ← Compiler.ofConfig s config (a.has .dryRun)
  let (report, b) ← building compiler (Project.host s config) (BuildAction.generate s config)
  let statePath ← Project.writeState s b.host
  if s.format = .json then
    let noted? := if b.compiler.engine.isDry then b.compiler.noted? else none
    printReport s .line (report.toFields ++ [("state_file", .text statePath.text)] ++
      noted?.toList.map fun r => ("request", r.toValue))
  else
    printLines s (summary report.count :: report.files.map (fun p => " + " ++ p.text) ++
      if report.dryRun then [s!"dry run: {report.files.length} source(s) prepared, stub compiler not invoked"] else [])

/-- The directory that was named, else where the stubs of the project go. -/
def stubDirectory (s : Settings) (a : Arguments) : Action FilePath := do
  match Config.nonEmpty? (a.value? .directory) with
  | some directory => return s.root ++ FilePath.ofText directory
  | none => return (← loadConfig s a).outputFor s.scope s.root

/-- Sets the times of generated stubs back. -/
def normalize (s : Settings) (a : Arguments) : Action Unit := do
  let target ← stubDirectory s a
  let count ← Action.resetTimes target
  if s.format = .json then printReport s .line [("directory", .text target.text), ("normalized", .int count)]
  else printLines s [s!"reset {count} stub timestamp(s) under {target.text}"]

def setFields (set : SourceSet) (scripts : List Script) : List (String × Value) :=
  let names := (scripts.map fun x => Library.variableName x.baseName).eraseDups
  [("files", .texts (scripts.map fun x => x.path.text))] ++
    if set.isLibrary then [("variables", .table (names.map fun v => (v, .text (Library.className v))))] else []

def setValue (set : SourceSet) (scripts : List Script) : Value :=
  match set.toValue with
  | .table fields => .table (fields ++ setFields set scripts)
  | v => v

def scanAll (d : Disk) : List SourceSet → Except Failure (List (SourceSet × List Script))
  | [] => .ok []
  | set :: sets => do
    let scripts ← d.scan set
    return (set, scripts) :: (← scanAll d sets)

/-- Lists the source sets of the project with their scripts, also where only warnings are wanted. -/
def scan (s : Settings) (a : Arguments) : Action Unit := do
  let config ← loadConfig s a
  let listing ← Action.look fun d => do scanAll d (← Project.sources d s config)
  if s.format = .json then
    printReport s .line [("source_sets", .array (listing.map fun (set, scripts) => setValue set scripts))]
  else if listing.isEmpty then printLine "no source sets"
  else
    Action.out (unlines (listing.flatMap fun (set, scripts) =>
      s!"{set.directory.text} ({set.mode.word})" :: scripts.map fun x => "  " ++ x.path.text))

def perform (s : Settings) (a : Arguments) : Action Unit :=
  match a.commands with
  | [.generate] => generate s a
  | [.scan] => scan s a
  | [.normalize] => normalize s a
  | [.config, .dump] => dump s a
  | [.config, .validate] => validate s a
  | _ => return ()

def commandName (a : Arguments) : String :=
  match Command.top.positional with
  | .command _ commands => ((commands.find? fun c => some c.2 = a.commands.head?).map (·.1)).getD ""
  | _ => ""

def request (a : Arguments) (asJson : Bool) : Settings.Request where
  runId := a.value? .runId
  root := a.value? .projectRoot
  scope := (a.value? .scope).getD Scope.main.word
  format := if asJson then .json else .text
  verbose := a.has .verbose
  quiet := a.has .quiet
  logJson := a.has .logJson

def performLogged (s : Settings) (a : Arguments) : Action Unit := do
  let name := commandName a
  Log.write s ⟨.debug, "cli", "start",
    [("cmd", .text name), ("scope", .text s.scope.word), ("project_root", .text s.root.text)]⟩
  perform s a
  Log.write s ⟨.debug, "cli", "finish", [("cmd", .text name), ("rc", .int 0)]⟩

/-- Prints a failure. Its class decides the exit code; one that has no class is an internal error. -/
def report (asJson : Bool) (runId : String) (f : Failure) : Action Exit := do
  let cls := match f with
    | .stub e => e.errorClass
    | _ => .general
  let message := match f with
    | .stub e => e.message
    | f => "internal error: " ++ f.message
  Action.err (errorText asJson message cls.exitCode cls.kind runId ++ "\n")
  return ⟨cls.exitCode, false⟩

/-- Runs the program. JSON is also printed where its option stands among the arguments without being read as one.
-/
def run (args : List String) : Action Exit := do
  match parseAll args with
  | .error halt => leave halt
  | .ok a =>
    let asJson := a.has .json || args.contains "--json"
    if a.commands = [.version] then
      printLine (if asJson then versionReport.json .line else versionLine)
      return ⟨0, false⟩
    match Settings.ofRequest (← get) (request a asJson) with
    | .error f => report asJson "" f
    | .ok s =>
      try
        performLogged s a
        return ⟨0, false⟩
      catch f => report asJson s.runId f

end JavaStubs.CommandLine
