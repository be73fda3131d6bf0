import JavaStubs.Build.Host
import JavaStubs.Compiler.Basic

/-! A build in progress: the world, the compiler and the host. A step that fails keeps what was done before. -/

namespace JavaStubs

structure Build where
  world : World
  compiler : Compiler
  host : Host
  deriving Inhabited

abbrev BuildAction := Acting Build

namespace BuildAction

def onWorld (act : Action α) : BuildAction α :=
  Acting.onPart (·.world) (fun b world => { b with world }) act

def look (f : Disk → Except Failure α) : BuildAction α :=
  onWorld (Action.look f)

def addRoot (p : FilePath) : BuildAction Unit :=
  modify fun b => { b with host := b.host.addRoot b.world.disk.cwd p }

def force (p : FilePath) : BuildAction Unit :=
  modify fun b => { b with host := b.host.force b.world.disk.cwd p }

def onCompiler (f : Compiler → Except StubError Compiler) : BuildAction Unit := do
  let b ← get
  match f b.compiler with
  | .ok compiler => set { b with compiler }
  | .error e => throw (.stub e)

/-- Compiles what was gathered. Without a target the one run is not used up; a run that fails is. -/
def compile : BuildAction Int := do
  let b ← get
  let c := b.compiler
  if c.ran then throw (.stub .alreadyRan)
  match c.request with
  | .error e => throw (.stub e)
  | .ok r =>
    set { b with compiler := { c with ran := true, noted? := if c.engine.notes then some r else c.noted? } }
    onWorld (c.engine.generate r)

end BuildAction

end JavaStubs
