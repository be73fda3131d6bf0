import JavaStubs.CommandLine.Command
import JavaStubs.Text.Cut

/-! Help pages for a terminal of eighty columns: usage lines, then each option with its help in a column that starts
two places after the longest name, or at column 24 if that is less. -/

namespace JavaStubs.CommandLine

def usageLines : Command → List String
  | .top =>
    ["usage: stubgen [-h] [--version] [--json] [--project-root PROJECT_ROOT]",
      "               [--scope \x7bmain,test\x7d] [--config CONFIG] [--run-id RUN_ID]",
      "               [--log-json] [--verbose | --quiet]",
      "               \x7bversion,generate,scan,normalize,config\x7d ..."]
  | .version => ["usage: stubgen version [-h] [--json]"]
  | .generate =>
    ["usage: stubgen generate [-h] [--source-encoding SOURCE_ENCODING]",
      "                        [--output-dir OUTPUT_DIR] [--dry-run] [--json]"]
  | .scan => ["usage: stubgen scan [-h] [--json]"]
  | .normalize => ["usage: stubgen normalize [-h] [--json] [directory]"]
  | .config => ["usage: stubgen config [-h] \x7bdump,validate\x7d ..."]
  | .dump => ["usage: stubgen config dump [-h] [--json]"]
  | .validate => ["usage: stubgen config validate [-h] [--json]"]

/-- A line of help: how far it is indented, a name, and what is said of it. -/
structure Row where
  indent : Nat
  name : String
  help : String
  deriving Repr, Inhabited

def lineWidth : Nat := 78

def latestColumn : Nat := 24

/-- Words as lines of at most `width` characters; `line` is the line being filled. -/
def fill (width : Nat) (line : String) : List String → List String
  | [] => [line]
  | w :: ws =>
    if line = "" then fill width w ws
    else if line.length + 1 + w.length ≤ width then fill width (line ++ " " ++ w) ws
    else line :: fill width w ws

def blanks (n : Nat) : String :=
  String.ofList (List.replicate n ' ')

def padTo (n : Nat) (s : String) : String :=
  s ++ blanks (n - s.length)

def helpColumn (rows : List Row) : Nat :=
  min latestColumn (rows.foldl (fun n r => max n (r.name.length + 2)) 0 + 2)

/-- A row as lines. A name that is too long for its column has a line of its own. -/
def Row.lines (column : Nat) (r : Row) : List String :=
  if r.help = "" then [blanks r.indent ++ r.name]
  else
    let text := fill (lineWidth - column) "" (Text.words ' ' r.help)
    if r.name.length ≤ column - r.indent - 2 then
      match text with
      | [] => [blanks r.indent ++ r.name]
      | first :: rest =>
        (blanks r.indent ++ padTo (column - r.indent - 2) r.name ++ "  " ++ first) :: rest.map (blanks column ++ ·)
    else (blanks r.indent ++ r.name) :: text.map (blanks column ++ ·)

def Switch.row (s : Switch) : Row :=
  let names := s.names.map fun n => if s.argument = "" then n else n ++ " " ++ s.argument
  ⟨2, ", ".intercalate names, s.help⟩

def Positional.rows : Positional → List Row
  | nothing => []
  | optional _ name help => [⟨2, name, help⟩]
  | command _ commands =>
    ⟨2, "\x7b" ++ ",".intercalate (commands.map (·.1)) ++ "\x7d", ""⟩ ::
      commands.map fun (name, c) => ⟨4, name, c.summary⟩

def helpLines (c : Command) : List String :=
  let positionals := c.positional.rows
  let options := c.switches.map Switch.row
  let column := helpColumn (positionals ++ options)
  let part (title : String) (rows : List Row) : List String :=
    if rows.isEmpty then [] else "" :: title :: rows.flatMap (Row.lines column)
  usageLines c ++ (if c = .top then ["", c.summary] else []) ++ part "positional arguments:" positionals ++
    part "options:" options

def unlines (ls : List String) : String :=
  String.join (ls.map (· ++ "\n"))

end JavaStubs.CommandLine
