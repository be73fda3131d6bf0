import JavaStubs.Failure
import JavaStubs.Number.Real64
import JavaStubs.Run.Moment

/-! The world a run acts on: the disk, the environment, what other programs will do when they are started, and what
was written. An action that fails keeps the world as it was at the failure. -/

namespace JavaStubs

inductive RevisionAnswer where
  | text (s : String)
  | unavailable
  deriving Repr, DecidableEq, Inhabited

/-- Output that a program left when it was stopped. -/
inductive Captured where
  | nothing
  | text (s : String)
  | bytes (data : List UInt8)
  deriving Repr, DecidableEq, Inhabited

/-- How a started program ends. -/
inductive Ending where
  | exited (code : Int) (stdout stderr : String)
  | timedOut (stdout stderr : Captured)
  | notStarted (errno : Errno)
  | broken (failure : Failure)
  deriving Inhabited

/-- What a program does when it is started: a change of the file tree, and an ending. -/
structure Behaviour where
  change : FileTree → FileTree
  ending : Ending
  deriving Inhabited

/-- A program that was started. A time limit is given only if it is positive. -/
structure Started where
  command : List String
  directory : FilePath
  limit? : Option Int
  deriving Repr, DecidableEq, Inhabited

structure World where
  disk : Disk
  moment : Moment
  environment : List (String × String) := []
  revision : RevisionAnswer := .unavailable
  /-- What the next programs will do; after the last one, programs cannot be found. -/
  behaviours : List Behaviour := []
  /-- The next readings of the clock in seconds; after the last one it stands at zero. -/
  ticks : List Number.Real64 := []
  started : List Started := []
  stdout : String := ""
  stderr : String := ""
  deriving Inhabited

/-- Something done to a world of some kind that may fail; the world at the failure is kept. -/
abbrev Acting (σ : Type) := ExceptT Failure (StateM σ)

abbrev Action := Acting World

namespace Acting

def onPart (get : σ → τ) (set : σ → τ → σ) (act : Acting τ α) : Acting σ α :=
  ExceptT.mk fun s =>
    let (result, part) := (act.run).run (get s)
    (result, set s part)

def ofExcept (result : Except Failure α) : Acting σ α :=
  ExceptT.mk fun s => (result, s)

def mapFailure (f : Failure → Failure) (act : Acting σ α) : Acting σ α :=
  ExceptT.mk fun s =>
    match (act.run).run s with
    | (.ok a, s) => (.ok a, s)
    | (.error e, s) => (.error (f e), s)

def fail (e : StubError) : Acting σ α :=
  throw (.stub e)

end Acting

namespace Action

def disk : Action Disk := do
  return (← get).disk

def look (f : Disk → Except Failure α) : Action α := do
  Acting.ofExcept (f (← disk))

/-- Replaces the disk by what an operation makes of it. A refused operation leaves it as it is. -/
def change (f : Disk → Except AccessError Disk) : Action Unit := do
  match f (← disk) with
  | .ok d => modify fun w => { w with disk := d }
  | .error e => throw (.access e)

def out (s : String) : Action Unit :=
  modify fun w => { w with stdout := w.stdout ++ s }

def err (s : String) : Action Unit :=
  modify fun w => { w with stderr := w.stderr ++ s }

def tick : Action Number.Real64 := do
  let w ← get
  match w.ticks with
  | [] => return Number.Real64.zero false
  | t :: ts =>
    set { w with ticks := ts }
    return t

end Action

end JavaStubs
