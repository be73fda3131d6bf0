import JavaStubs.CommandLine.Command
import JavaStubs.Text.Cut
import JavaStubs.Text.Digit
import JavaStubs.Text.Quoted

/-! Reading the arguments of a command. Options may be shortened as long as they stay unambiguous, an argument may
follow its option after an equals sign, and after `--` nothing is an option. -/

namespace JavaStubs.CommandLine

/-- Why reading stopped before its end. -/
inductive Halt where
  | help (c : Command)
  | version
  /-- Arguments that a command cannot accept. -/
  | misuse (c : Command) (message : String)
  deriving Repr, DecidableEq, Inhabited

/-- An argument taken for an option: which one, the name that was meant, and the text after it, with or without
an equals sign between. -/
structure Hit where
  switch : Switch
  name : String
  equals : Bool
  rest? : Option String
  deriving Repr, DecidableEq, Inhabited

inductive Token where
  | plain (text : String)
  | dashes
  | option (text : String) (hit? : Option Hit)
  deriving Repr, DecidableEq, Inhabited

def Token.text : Token → String
  | plain text => text
  | dashes => "--"
  | option text _ => text

def Token.isOption : Token → Bool
  | option .. => true
  | _ => false

def namedSwitches (switches : List Switch) : List (String × Switch) :=
  switches.flatMap fun s => s.names.map fun n => (n, s)

/-- What stands before the first equals sign, and what follows it. -/
def splitEquals (s : String) : String × Option String :=
  let cs := s.toList
  match cs.dropWhile (· ≠ '=') with
  | [] => (s, none)
  | _ :: rest => (String.ofList (cs.takeWhile (· ≠ '=')), some (String.ofList rest))

/-- A dash and a decimal number, with or without an end of line. -/
def isNegativeNumber (s : String) : Bool :=
  match s.toList with
  | '-' :: cs =>
    let cs := if cs.getLast? = some '\n' then cs.dropLast else cs
    let fraction := (cs.dropWhile Text.isDecimal).drop 1
    let isWhole := !cs.isEmpty && cs.all Text.isDecimal
    isWhole || ((cs.dropWhile Text.isDecimal).head? == some '.' && !fraction.isEmpty && fraction.all Text.isDecimal)
  | _ => false

/-- The options that an unknown name may stand for. -/
def candidates (names : List (String × Switch)) (text : String) : List Hit :=
  match text.toList with
  | '-' :: '-' :: _ =>
    let (start, rest?) := splitEquals text
    (names.filter fun (n, _) => Text.startsWith n start).map fun (n, s) => ⟨s, n, rest?.isSome, rest?⟩
  | '-' :: c :: rest =>
    names.filterMap fun (n, s) =>
      if n = String.ofList ['-', c] then some ⟨s, n, false, some (String.ofList rest)⟩
      else if Text.startsWith n text then some ⟨s, n, false, none⟩
      else none
  | _ => []

def classify (c : Command) (text : String) : Except Halt Token :=
  let names := namedSwitches c.switches
  if !Text.startsWith text "-" then .ok (.plain text)
  else match names.lookup text with
    | some s => .ok (.option text (some ⟨s, text, false, none⟩))
    | none =>
      if text = "-" then .ok (.plain text)
      else
        let (start, rest?) := splitEquals text
        match rest?, names.lookup start with
        | some rest, some s => .ok (.option text (some ⟨s, start, true, some rest⟩))
        | _, _ =>
          match candidates names text with
          | [hit] => .ok (.option text (some hit))
          | [] =>
            if isNegativeNumber text || text.toList.contains ' ' then .ok (.plain text) else .ok (.option text none)
          | hits =>
            let list := ", ".intercalate (hits.map (·.name))
            .error (.misuse c s!"ambiguous option: {text} could match {list}")

/-- What the arguments are to a command; after `--` all are plain. -/
def tokens (c : Command) : List String → Except Halt (List Token)
  | [] => .ok []
  | text :: rest =>
    if text = "--" then .ok (.dashes :: rest.map .plain)
    else match classify c text with
      | .error h => .error h
      | .ok t => (tokens c rest).map (t :: ·)

/-- What was given so far, what is not understood, and the commands that were named. -/
structure Arguments where
  given : List (Field × String) := []
  extras : List String := []
  commands : List Command := []
  deriving Repr, DecidableEq, Inhabited

namespace Arguments

def has (a : Arguments) (f : Field) : Bool :=
  a.given.any fun g => g.1 = f

def value? (a : Arguments) (f : Field) : Option String :=
  (a.given.reverse.find? fun g => g.1 = f).map (·.2)

def give (a : Arguments) (f : Field) (value : String) : Arguments :=
  { a with given := a.given ++ [(f, value)] }

def addExtra (a : Arguments) (text : String) : Arguments :=
  { a with extras := a.extras ++ [text] }

/-- What a subcommand read, added to what came before it. Fields of the subcommand are decided by it alone. -/
def absorb (a : Arguments) (c : Command) (sub : Arguments) : Arguments where
  given := a.given.filter (fun g => !(c :: sub.commands).any fun c => c.fields.contains g.1) ++ sub.given
  extras := a.extras ++ sub.extras
  commands := c :: sub.commands

end Arguments

def argumentError (c : Command) (label message : String) : Halt :=
  .misuse c s!"argument {label}: {message}"

def choiceMessage (value : String) (choices : List String) : String :=
  let list := ", ".intercalate (choices.map Text.quoted)
  s!"invalid choice: {Text.quoted value} (choose from {list})"

def labelOf (c : Command) (f : Field) : String :=
  ((c.switches.find? fun s => s.effect = .mark f).map Switch.label).getD ""

/-- Letters after a one-letter option that takes no argument: the text that cannot be used, if there is one. -/
def unusedText? (c : Command) (equals : Bool) (cs : List Char) : Option String :=
  match cs with
  | [] => some ""
  | d :: ds =>
    if equals || d = '-' then some (String.ofList cs)
    else if ((namedSwitches c.switches).lookup (String.ofList ['-', d])).isNone then none
    else match ds with
      | [] => none
      | '=' :: rest => if rest.isEmpty then some "" else some (String.ofList rest)
      | e :: rest => unusedText? c false (e :: rest)

def applyPlain (c : Command) (a : Arguments) (s : Switch) : Except Halt Arguments :=
  match s.effect with
  | .help => .error (.help c)
  | .version => .error .version
  | .take f _ => .ok (a.give f "")
  | .mark f =>
    match (Command.excludes f).find? a.has with
    | some g => .error (argumentError c s.label s!"not allowed with argument {labelOf c g}")
    | none => .ok (a.give f "")

def applyValue (c : Command) (a : Arguments) (s : Switch) (f : Field) (choices : List String) (value : String) :
    Except Halt Arguments :=
  if choices.isEmpty || choices.contains value then .ok (a.give f value)
  else .error (argumentError c s.label (choiceMessage value choices))

def applyOption (c : Command) (a : Arguments) (hit : Hit) (rest : List Token) :
    Except Halt (Arguments × List Token) :=
  match hit.switch.effect, hit.rest? with
  | .take f choices, some value => (applyValue c a hit.switch f choices value).map (·, rest)
  | .take f choices, none =>
    match rest with
    | .plain value :: rest => (applyValue c a hit.switch f choices value).map (·, rest)
    | _ => .error (argumentError c hit.switch.label "expected one argument")
  | _, none => (applyPlain c a hit.switch).map (·, rest)
  | _, some text =>
    let unused? := if Text.startsWith hit.name "--" then some text else unusedText? c hit.equals text.toList
    match unused? with
    | some unused => .error (argumentError c hit.switch.label s!"ignored explicit argument {Text.quoted unused}")
    | none => (applyPlain c a hit.switch).map (·, rest)

theorem length_applyOption {c : Command} {a a' : Arguments} {hit : Hit} {rest rest' : List Token}
    (h : applyOption c a hit rest = .ok (a', rest')) : rest'.length ≤ rest.length := by
  have map_ok {x : Except Halt Arguments} {ts : List Token} (h : x.map (·, ts) = .ok (a', rest')) : rest' = ts := by
    cases x with
    | error e => simp [Except.map] at h
    | ok v => simp only [Except.map, Except.ok.injEq, Prod.mk.injEq] at h; exact h.2.symm
  unfold applyOption at h
  split at h
  · simp [map_ok h]
  · split at h
    · simp [map_ok h]
    · simp at h
  · simp [map_ok h]
  · dsimp only at h
    split at h
    · simp at h
    · simp [map_ok h]

/-- What follows an argument that has been read, without the `--` after it. -/
def dropDashes (ts : List Token) : List Token :=
  ts.dropWhile (· = .dashes)

theorem length_dropDashes (ts : List Token) : (dropDashes ts).length ≤ ts.length :=
  (List.dropWhile_sublist _).length_le

/-- Reads tokens from left to right, up to the name of a subcommand. The result holds that name and all words
after it, or no words. -/
def read (c : Command) (a : Arguments) : List Token → Except Halt (Arguments × List String)
  | [] => .ok (a, [])
  | .option text none :: ts => read c (a.addExtra text) ts
  | .option _ (some hit) :: ts =>
    match h : applyOption c a hit ts with
    | .error halt => .error halt
    | .ok (a, rest) =>
      have := length_applyOption h
      read c a rest
  | .plain text :: ts =>
    match c.positional with
    | .nothing => read c (a.addExtra text) ts
    | .command .. => .ok (a, text :: ts.map Token.text)
    | .optional f .. =>
      if a.has f then read c (a.addExtra text) ts
      else
        have := length_dropDashes ts
        read c (a.give f text) (dropDashes ts)
  | .dashes :: ts =>
    match c.positional, ts with
    | .command .., [] => .ok (a.addExtra "--", [])
    | .command .., ts => .ok (a, "--" :: ts.map Token.text)
    | .nothing, ts => read c (a.addExtra "--") ts
    | .optional f .., ts => if a.has f then read c (a.addExtra "--") ts else read c a ts
  termination_by ts => ts.length
  decreasing_by
    all_goals simp only [List.length_cons]
    all_goals omega

theorem length_tokens {c : Command} {args : List String} {ts : List Token} (h : tokens c args = .ok ts) :
    ts.length = args.length := by
  induction args generalizing ts with
  | nil => simp [tokens] at h; simp [← h]
  | cons text args ih =>
    rw [tokens] at h
    split at h
    · simp at h; simp [← h]
    · split at h
      · simp at h
      · cases hr : tokens c args with
        | error e => simp [hr, Except.map] at h
        | ok rest => simp [hr, Except.map] at h; simp [← h, ih hr]

theorem length_read {c : Command} {a a' : Arguments} {ts : List Token} {words : List String}
    (h : read c a ts = .ok (a', words)) : words.length ≤ ts.length := by
  fun_induction read c a ts <;> grind [length_applyOption, length_dropDashes]

def parse (c : Command) (args : List String) : Except Halt Arguments :=
  match ht : tokens c args with
  | .error halt => .error halt
  | .ok ts =>
    match hr : read c {} ts with
    | .error halt => .error halt
    | .ok (a, words) =>
      match c.positional, words with
      | .command label _, [] => .error (.misuse c s!"the following arguments are required: {label}")
      | .command label choices, word :: words =>
        match choices.lookup word with
        | none => .error (argumentError c label (choiceMessage word (choices.map (·.1))))
        | some sub =>
          have : words.length < args.length := by
            have := length_tokens ht
            have := length_read hr
            simp only [List.length_cons] at this
            omega
          (parse sub words).map (a.absorb sub)
      | _, _ => .ok a
  termination_by args.length

def parseAll (args : List String) : Except Halt Arguments :=
  match parse .top args with
  | .error halt => .error halt
  | .ok a =>
    if a.extras.isEmpty then .ok a
    else
      let list := " ".intercalate a.extras
      .error (.misuse .top s!"unrecognized arguments: {list}")

end JavaStubs.CommandLine
