import JavaStubs.Proofs.Build.Books
import JavaStubs.Proofs.Build.Resetting

/-! The stages of a build: its sets are settled and handed over, what was handed over is compiled, and the times of
all stubs are set back. A build ends with the first stage that fails. -/
namespace JavaStubs.BuildAction

/-- All that comes before compiling. -/
def prepare (settings : Settings) (config : Config) : BuildAction (FilePath × Gathered) := do
  let sets ← look fun d => Project.sources d settings config
  let output ← onWorld (Action.ensureDir (← get).host.output)
  modify fun b => { b with
    compiler := b.compiler.configure output (config.classPathFor settings.root) config.effectiveEncoding }
  let g ← handOver settings sets (Config.intermediateFor settings.scope settings.root) config.readEncoding
  return (output, g)

/-- What a build comes to that was compiled and whose times were set back. -/
def reportOf (settings : Settings) (output : FilePath) (g : Gathered) (count : Int) (normalized : Nat) (b : Build) :
    Report where
  scope := settings.scope
  output
  count
  files := g.files
  roots := b.host.roots
  names := (g.library?.map fun l => l.wrappers.map (·.name)).getD []
  normalized
  dryRun := b.compiler.engine.isDry

def conclude (settings : Settings) (output : FilePath) (g : Gathered) : BuildAction Report := do
  let count ← Acting.mapFailure compilerFailure compile
  onWorld (Log.write settings ⟨.info, "stubs", "compile", [("generated", .int count), ("files", .int g.files.length),
    ("message", .text (summary count))]⟩)
  let normalized ← onWorld (Action.resetTimes output)
  onWorld (Log.write settings ⟨.debug, "stubs", "reset-timestamps",
    [("directory", .text output.text), ("files", .int normalized)]⟩)
  let b ← get
  return reportOf settings output g count normalized b

theorem generate_eq (settings : Settings) (config : Config) :
    generate settings config = prepare settings config >>= fun x => conclude settings x.1 x.2 := by
  simp only [generate, compileSources, prepare, conclude, reportOf, bind_assoc, pure_bind]

/-- How a build ends: in handing over, in compiling, in setting times back, or well. Logging between the stages changes
nothing but the standard error. -/
inductive Ends (settings : Settings) (config : Config) (b : Build) : Except Failure Report → Build → Prop
  | unprepared {e b'} : (prepare settings config).runFrom b = (.error e, b') → Ends settings config b (.error e) b'
  | uncompiled {x handed e b'} : (prepare settings config).runFrom b = (.ok x, handed) →
      compile.runFrom handed = (.error e, b') → Ends settings config b (.error (compilerFailure e)) b'
  | unreset {x handed count compiled text e w} : (prepare settings config).runFrom b = (.ok x, handed) →
      compile.runFrom handed = (.ok count, compiled) →
      (Action.resetTimes x.1).runFrom { compiled.world with stderr := text } = (.error e, w) →
      Ends settings config b (.error e) { compiled with world := w }
  | done {x handed count compiled text normalized w text'} : (prepare settings config).runFrom b = (.ok x, handed) →
      compile.runFrom handed = (.ok count, compiled) →
      (Action.resetTimes x.1).runFrom { compiled.world with stderr := text } = (.ok normalized, w) →
      Ends settings config b (.ok (reportOf settings x.1 x.2 count normalized compiled))
        { compiled with world := { w with stderr := text' } }

variable {settings : Settings} {config : Config} {b b' : Build} {r : Except Failure Report}

def configured (settings : Settings) (config : Config) (b : Build) (w : World) : Build where
  world := w
  compiler := b.compiler.configure b.host.output (config.classPathFor settings.root) config.effectiveEncoding
  host := b.host

/-- Handing over starts once the sets are settled and the output directory is made. -/
theorem runFrom_prepare (settings : Settings) (config : Config) (b : Build) :
    (prepare settings config).runFrom b =
      match Project.sources b.world.disk settings config with
      | .error e => (.error e, b)
      | .ok sets =>
        match (Action.ensureDir b.host.output).runFrom b.world with
        | (.error e, w) => (.error e, { b with world := w })
        | (.ok _, w) =>
          match (handOver settings sets (Config.intermediateFor settings.scope settings.root)
              config.readEncoding).runFrom (configured settings config b w) with
          | (.error e, b') => (.error e, b')
          | (.ok g, b') => (.ok (b.host.output, g), b') := by
  unfold prepare
  rw [Acting.runFrom_bind, runFrom_look]
  cases Project.sources b.world.disk settings config with
  | error e => rfl
  | ok sets =>
    dsimp only
    rw [Acting.runFrom_bind, Acting.runFrom_get]
    dsimp only
    rw [Acting.runFrom_bind, runFrom_onWorld]
    rcases hmade : (Action.ensureDir b.host.output).runFrom b.world with ⟨_ | output, w⟩
    · rfl
    obtain rfl := Action.ensureDir_ok hmade
    dsimp only
    rw [Acting.runFrom_bind, Acting.runFrom_modify]
    dsimp only
    rw [Acting.runFrom_bind]
    rcases hhanded : (handOver settings sets (Config.intermediateFor settings.scope settings.root)
      config.readEncoding).runFrom (configured settings config b w) with ⟨_ | g, b'⟩
    · unfold configured at hhanded
      rw [hhanded]
    · unfold configured at hhanded
      rw [hhanded]
      rfl

theorem prepare_ok {x : FilePath × Gathered} {handed : Build}
    (h : (prepare settings config).runFrom b = (.ok x, handed)) :
    ∃ sets w, Project.sources b.world.disk settings config = .ok sets ∧
      (Action.ensureDir b.host.output).runFrom b.world = (.ok b.host.output, w) ∧ x.1 = b.host.output ∧
      (handOver settings sets (Config.intermediateFor settings.scope settings.root) config.readEncoding).runFrom
        (configured settings config b w) = (.ok x.2, handed) := by
  rw [runFrom_prepare] at h
  split at h
  · cases h
  next sets hsources =>
  split at h
  · cases h
  next output w hmade =>
  obtain rfl := Action.ensureDir_ok hmade
  split at h
  · cases h
  next g b' hhanded =>
  cases h
  exact ⟨sets, w, hsources, hmade, rfl, hhanded⟩

theorem runFrom_onWorld_log (settings : Settings) (e : Log.Event) (b : Build) :
    ∃ text, (onWorld (Log.write settings e)).runFrom b = (.ok (), { b with world := { b.world with stderr := text } }) := by
  obtain ⟨text, hlog⟩ := Log.runFrom_write settings e b.world
  exact ⟨text, by rw [runFrom_onWorld, hlog]⟩

theorem ends_generate (h : (generate settings config).runFrom b = (r, b')) : Ends settings config b r b' := by
  rw [generate_eq, Acting.runFrom_bind] at h
  rcases hprepare : (prepare settings config).runFrom b with ⟨_ | x, handed⟩
  · rw [hprepare] at h
    cases h
    exact .unprepared hprepare
  rw [hprepare] at h
  dsimp only at h
  rw [conclude, Acting.runFrom_bind, Acting.runFrom_mapFailure] at h
  rcases hcompile : compile.runFrom handed with ⟨_ | count, compiled⟩
  · rw [hcompile] at h
    cases h
    exact .uncompiled hprepare hcompile
  rw [hcompile] at h
  dsimp only [mapError_ok] at h
  obtain ⟨text, hlog⟩ := runFrom_onWorld_log settings ⟨.info, "stubs", "compile",
    [("generated", .int count), ("files", .int x.2.files.length), ("message", .text (summary count))]⟩ compiled
  rw [Acting.runFrom_bind_of_ok hlog, Acting.runFrom_bind, runFrom_onWorld] at h
  rcases hreset : (Action.resetTimes x.1).runFrom { compiled.world with stderr := text } with ⟨_ | normalized, w⟩
  · dsimp only at h
    rw [hreset] at h
    cases h
    exact .unreset hprepare hcompile hreset
  dsimp only at h
  rw [hreset] at h
  dsimp only at h
  obtain ⟨text', hlog'⟩ := runFrom_onWorld_log settings ⟨.debug, "stubs", "reset-timestamps",
    [("directory", .text x.1.text), ("files", .int normalized)]⟩ { compiled with world := w }
  rw [Acting.runFrom_bind_of_ok hlog'] at h
  cases h
  change Ends settings config b (.ok (reportOf settings x.1 x.2 count normalized compiled)) _
  exact .done hprepare hcompile hreset

end JavaStubs.BuildAction
