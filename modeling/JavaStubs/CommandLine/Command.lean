import JavaStubs.Scope

/-! The commands of the program, the options each of them has, and what may follow them. -/

namespace JavaStubs.CommandLine

inductive Command where
  | top
  | version
  | generate
  | scan
  | normalize
  | config
  | dump
  | validate
  deriving Repr, DecidableEq, Inhabited

inductive Field where
  | json
  | projectRoot
  | scope
  | configFile
  | runId
  | logJson
  | verbose
  | quiet
  | sourceEncoding
  | outputDir
  | dryRun
  | directory
  deriving Repr, DecidableEq, Inhabited

inductive Effect where
  | help
  | version
  /-- Notes that the option was given. -/
  | mark (field : Field)
  /-- Takes one argument, one of the choices if there are any. -/
  | take (field : Field) (choices : List String)
  deriving Repr, DecidableEq, Inhabited

structure Switch where
  names : List String
  effect : Effect
  /-- The name of the argument in help texts. -/
  argument : String
  help : String
  deriving Repr, DecidableEq, Inhabited

inductive Positional where
  | nothing
  | optional (field : Field) (name help : String)
  /-- One of some commands, with the name that errors give it. -/
  | command (name : String) (commands : List (String × Command))
  deriving Repr, Inhabited

namespace Switch

def helpSwitch : Switch :=
  ⟨["-h", "--help"], .help, "", "show this help message and exit"⟩

def jsonSwitch : Switch :=
  ⟨["--json"], .mark .json, "", "emit JSON output"⟩

def label (s : Switch) : String :=
  "/".intercalate s.names

end Switch

namespace Command

def invocation : Command → String
  | top => "stubgen"
  | version => "stubgen version"
  | generate => "stubgen generate"
  | scan => "stubgen scan"
  | normalize => "stubgen normalize"
  | config => "stubgen config"
  | dump => "stubgen config dump"
  | validate => "stubgen config validate"

/-- What a command does, as the help of the command above it says. -/
def summary : Command → String
  | top => "Java stub generation for Groovy sources"
  | version => "print the stubgen version"
  | generate => "generate Java stubs for the configured Groovy sources"
  | scan => "list the Groovy sources each source set contributes"
  | normalize => "reset modification times of generated stubs to the epoch"
  | config => "configuration commands"
  | dump => "print the effective configuration"
  | validate => "validate configuration against the schema"

def topSwitches : List Switch :=
  [.helpSwitch,
    ⟨["--version"], .version, "", "show program's version number and exit"⟩,
    .jsonSwitch,
    ⟨["--project-root"], .take .projectRoot [], "PROJECT_ROOT",
      "project directory (defaults to STUBGEN_PROJECT_ROOT or cwd)"⟩,
    ⟨["--scope"], .take .scope (Scope.all.map Scope.word), "\x7bmain,test\x7d", "main or test sources"⟩,
    ⟨["--config"], .take .configFile [], "CONFIG",
      "configuration file (defaults to stubgen.toml or pyproject.toml)"⟩,
    ⟨["--run-id"], .take .runId [], "RUN_ID", "run identifier used in log events"⟩,
    ⟨["--log-json"], .mark .logJson, "", "emit log events as JSON lines on stderr"⟩,
    ⟨["--verbose"], .mark .verbose, "", "enable debug log events"⟩,
    ⟨["--quiet"], .mark .quiet, "", "only emit warnings and errors"⟩]

def generateSwitches : List Switch :=
  [.helpSwitch,
    ⟨["--source-encoding"], .take .sourceEncoding [], "SOURCE_ENCODING",
      "encoding used to read sources (defaults to the project encoding)"⟩,
    ⟨["--output-dir"], .take .outputDir [], "OUTPUT_DIR",
      "override the stub output directory for the selected scope"⟩,
    ⟨["--dry-run"], .mark .dryRun, "", "scan and transform sources without running the stub compiler"⟩,
    .jsonSwitch]

/-- The options of a command, in the order in which they are declared. -/
def switches : Command → List Switch
  | top => topSwitches
  | generate => generateSwitches
  | config => [.helpSwitch]
  | version | scan | normalize | dump | validate => [.helpSwitch, .jsonSwitch]

def positional : Command → Positional
  | top => .command "cmd" [("version", version), ("generate", generate), ("scan", scan), ("normalize", normalize),
      ("config", config)]
  | config => .command "config_cmd" [("dump", dump), ("validate", validate)]
  | normalize => .optional .directory "directory" "stub directory (defaults to the scope output directory)"
  | version | generate | scan | dump | validate => .nothing

def fields (c : Command) : List Field :=
  c.switches.filterMap fun s =>
    match s.effect with
    | .mark f | .take f _ => some f
    | .help | .version => none

/-- Options that cannot be given together. -/
def excludes : Field → List Field
  | .verbose => [.quiet]
  | .quiet => [.verbose]
  | _ => []

end Command

end JavaStubs.CommandLine
