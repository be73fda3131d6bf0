import JavaStubs.Proofs.Build.DryRun
import JavaStubs.Proofs.Compiler.Calls

/-! What a build asks of its compiler. -/
namespace JavaStubs

/-- A build whose compiler generates in another way. -/
def Build.withEngine (b : Build) (engine : Engine) : Build :=
  { b with compiler := { b.compiler with engine } }

namespace BuildAction

/-- Steps that go the same way whatever the engine is, and that leave it alone. -/
def Blind (act : BuildAction α) : Prop :=
  ∀ b engine, act.runFrom (b.withEngine engine) = ((act.runFrom b).1, (act.runFrom b).2.withEngine engine)

namespace Blind

theorem pure (a : α) : Blind (Pure.pure a) :=
  fun _ _ => rfl

theorem throw (e : Failure) (f : α → BuildAction β) : Blind (MonadExcept.throw e >>= f) :=
  fun _ _ => rfl

theorem onWorld (act : Action α) : Blind (BuildAction.onWorld act) :=
  fun _ _ => rfl

theorem look (f : Disk → Except Failure α) : Blind (BuildAction.look f) :=
  onWorld _

theorem addRoot (p : FilePath) : Blind (BuildAction.addRoot p) :=
  fun _ _ => rfl

theorem force (p : FilePath) : Blind (BuildAction.force p) :=
  fun _ _ => rfl

theorem bind {act : BuildAction α} {f : α → BuildAction β} (h : Blind act) (hf : ∀ a, Blind (f a)) :
    Blind (act >>= f) := by
  intro b engine
  rw [Acting.runFrom_bind, Acting.runFrom_bind, h]
  rcases act.runFrom b with ⟨r, b'⟩
  cases r with
  | error e => rfl
  | ok a => exact hf a b' engine

/-- A look at the build does not tell engines apart if what is done next does not depend on the engine. -/
theorem asking {f : Build → BuildAction α} (hf : ∀ b engine, f (b.withEngine engine) = f b) (h : ∀ b, Blind (f b)) :
    Blind (get >>= f) := by
  intro b engine
  rw [Acting.runFrom_bind, Acting.runFrom_bind, Acting.runFrom_get, Acting.runFrom_get]
  dsimp only
  rw [hf]
  exact h b b engine

theorem changing {f : Build → Build} (h : ∀ b engine, f (b.withEngine engine) = (f b).withEngine engine) :
    Blind (modify f) := by
  intro b engine
  rw [Acting.runFrom_modify, Acting.runFrom_modify, h]

theorem add (p : FilePath) : Blind (onCompiler (·.add p)) := by
  intro b engine
  rw [runFrom_onCompiler, runFrom_onCompiler]
  unfold Compiler.add
  cases hran : b.compiler.ran <;> simp [Build.withEngine, hran]

theorem engine {act : BuildAction α} (h : Blind act) (b : Build) :
    (act.runFrom b).2.compiler.engine = b.compiler.engine :=
  congrArg (·.2.compiler.engine) (h b b.compiler.engine)

end Blind

variable {settings : Settings} {config : Config} {intermediate : FilePath} {encoding : String} {b : Build}

theorem blind_addScripts (settings : Settings) (files : List FilePath) (scripts : List Script) :
    Blind (addScripts settings files scripts) := by
  induction scripts generalizing files with
  | nil => exact .pure _
  | cons s ss ih =>
    rw [addScripts]
    split
    · exact ih _
    · exact .bind (.onWorld _) fun _ => .bind (.add _) fun _ => .bind (.force _) fun _ => ih _

theorem blind_effectiveSet (settings : Settings) (intermediate : FilePath) (encoding : String) (s : SourceSet) :
    Blind (effectiveSet settings intermediate encoding s) := by
  unfold effectiveSet
  by_cases hmode : s.mode = .auto
  · rw [if_pos hmode]
    exact .throw _ _
  · rw [if_neg hmode]
    refine .bind (.addRoot _) fun _ => ?_
    split
    · exact .bind (.onWorld _) fun _ => .bind (.addRoot _) fun _ => .pure _
    · exact .pure _

theorem blind_addSets (settings : Settings) (intermediate : FilePath) (encoding : String) (g : Gathered)
    (sets : List SourceSet) : Blind (addSets settings intermediate encoding g sets) := by
  induction sets generalizing g with
  | nil => exact .pure _
  | cons s ss ih =>
    rw [addSets]
    exact .bind (blind_effectiveSet _ _ _ _) fun _ => .bind (.look _) fun _ => .bind (blind_addScripts _ _ _) fun _ => ih _

theorem blind_handOver (settings : Settings) (sets : List SourceSet) (intermediate : FilePath) (encoding : String) :
    Blind (handOver settings sets intermediate encoding) :=
  .asking (fun _ _ => rfl) fun _ => .bind (.addRoot _) fun _ => blind_addSets _ _ _ _ _

theorem configure_withEngine (c : Compiler) (engine : Engine) (target : FilePath) (classPath : List String)
    (encoding : Option String) : { c with engine }.configure target classPath encoding =
      { c.configure target classPath encoding with engine } := by
  cases encoding <;> simp [Compiler.configure, Compiler.setOption]

theorem blind_prepare (settings : Settings) (config : Config) : Blind (prepare settings config) := by
  refine .bind (.look _) fun sets => .asking (fun _ _ => rfl) fun b => .bind (.onWorld _) fun output => ?_
  refine .bind (.changing fun b engine => ?_) fun _ => .bind (blind_handOver _ _ _ _) fun _ => .pure _
  simp only [Build.withEngine, configure_withEngine]

variable (settings intermediate encoding) in
theorem compiler_of_handOver {sets : List SourceSet} (hmodes : ∀ s ∈ sets, s.mode ≠ .auto)
    (hran : b.compiler.ran = false) :
    ∃ files, ((handOver settings sets intermediate encoding).runFrom b).2.compiler = { b.compiler with files } := by
  rcases handOver_spec settings intermediate encoding b hmodes with
    ⟨ts, w, g, handed, text, -, hhanded, hbooked, -⟩ | ⟨e, w, b', text, files, -, hhanded, hcompiler, -⟩ | ⟨hran', -⟩
  · rw [hhanded]
    exact ⟨_, hbooked.compiler⟩
  · rw [hhanded]
    exact ⟨files, hcompiler⟩
  · cases hran.symm.trans hran'

variable (settings config) in
theorem ran_of_prepare (hran : b.compiler.ran = false) :
    ((prepare settings config).runFrom b).2.compiler.ran = false := by
  rw [runFrom_prepare]
  rcases hsources : Project.sources b.world.disk settings config with e | sets
  · exact hran
  dsimp only
  rcases (Action.ensureDir b.host.output).runFrom b.world with ⟨_ | output, w⟩
  · exact hran
  dsimp only
  obtain ⟨ds, hsets⟩ := sets_of_sources hsources
  have hconfigured : (configured settings config b w).compiler.ran = false := (configure_keeps _ _ _ _).2.1.trans hran
  obtain ⟨files, hcompiler⟩ := compiler_of_handOver settings (Config.intermediateFor settings.scope settings.root)
    config.readEncoding (SourceSet.normalize_modes hsets) hconfigured
  rcases hhanded : (handOver settings sets (Config.intermediateFor settings.scope settings.root)
    config.readEncoding).runFrom (configured settings config b w) with ⟨_ | g, b'⟩ <;>
  · rw [hhanded] at hcompiler
    change b'.compiler.ran = false
    rw [hcompiler]
    exact hconfigured

/-- Once all is handed over, the sets have taken their turns in order, and the configured compiler has got its files. -/
theorem handed_of_prepare {x : FilePath × Gathered} {handed : Build}
    (h : (prepare settings config).runFrom b = (.ok x, handed)) :
    ∃ sets ts w w' files, Project.sources b.world.disk settings config = .ok sets ∧
      (Action.ensureDir b.host.output).runFrom b.world = (.ok b.host.output, w) ∧
      (Turn.takeAll settings (Config.intermediateFor settings.scope settings.root) config.readEncoding sets).runFrom w =
        (.ok ts, w') ∧ handed.world.disk = w'.disk ∧
      handed.compiler = { (configured settings config b w).compiler with files } := by
  obtain ⟨sets, w, hsources, hmade, -, hhanded⟩ := prepare_ok h
  obtain ⟨ds, hsets⟩ := sets_of_sources hsources
  rcases handOver_spec settings (Config.intermediateFor settings.scope settings.root) config.readEncoding
      (configured settings config b w) (SourceSet.normalize_modes hsets) with
    ⟨ts, w', g, handed', text, hturns, hrun, hbooked, -, -, hworld⟩ | ⟨e, w', b', _, _, -, hrun, -⟩ | ⟨-, e, b', hrun⟩
  · cases hrun.symm.trans hhanded
    exact ⟨sets, ts, w, w', _, hsources, hmade, hturns, by rw [hworld], hbooked.compiler⟩
  · cases hrun.symm.trans hhanded
  · cases hrun.symm.trans hhanded

theorem request_of_prepare {x : FilePath × Gathered} {handed : Build}
    (h : (prepare settings config).runFrom b = (.ok x, handed)) : ∃ r, handed.compiler.request = .ok r := by
  obtain ⟨sets, ts, w, w', files, -, -, -, -, hcompiler⟩ := handed_of_prepare h
  have htarget : handed.compiler.target? = some b.host.output := by
    rw [hcompiler]
    exact target?_of_configure _ _ _ _
  exact ⟨_, by rw [Compiler.request, htarget]⟩

def FailsBefore (settings : Settings) (config : Config) (b : Build) (e : Failure) (b' : Build) : Prop :=
  (generate settings config).runFrom b = (.error e, b') ∧ b'.compiler.ran = false

def Generates (settings : Settings) (config : Config) (b : Build) (r : Request) (moment : Build) : Prop :=
  ∃ x handed, (prepare settings config).runFrom b = (.ok x, handed) ∧ enter.runFrom handed = (.ok r, moment) ∧
    (generate settings config).runFrom b = (conclude settings x.1 x.2).runFrom handed ∧
    compile.runFrom handed = (onWorld (moment.compiler.engine.generate r)).runFrom moment

theorem failsBefore_of_prepare {e : Failure} {b' : Build} (hran : b.compiler.ran = false)
    (h : (prepare settings config).runFrom b = (.error e, b')) : FailsBefore settings config b e b' := by
  have hfresh := ran_of_prepare settings config hran
  rw [h] at hfresh
  refine ⟨?_, hfresh⟩
  rw [generate_eq, Acting.runFrom_bind_of_error h]

/-- A build that has handed over everything to a compiler that has not run yet comes to the generation. -/
theorem generates_of_prepare {x : FilePath × Gathered} {handed : Build} {r : Request}
    (h : (prepare settings config).runFrom b = (.ok x, handed)) (hran : handed.compiler.ran = false)
    (hrequest : handed.compiler.request = .ok r) :
    Generates settings config b r { handed with compiler := { handed.compiler with
      ran := true, noted? := if handed.compiler.engine.notes then some r else handed.compiler.noted? } } := by
  have hentered := Compiler.Call.enter_of_ok hran hrequest
  refine ⟨x, handed, h, hentered, ?_, ?_⟩
  · rw [generate_eq, Acting.runFrom_bind_of_ok h]
  · rw [runFrom_compile, Acting.runFrom_bind_of_ok hentered]

theorem compiler_of_generate {x : FilePath × Gathered} {handed : Build}
    (h : (prepare settings config).runFrom b = (.ok x, handed)) :
    ((generate settings config).runFrom b).2.compiler = (compile.runFrom handed).2.compiler := by
  rcases hrun : (generate settings config).runFrom b with ⟨r, b'⟩
  cases ends_generate hrun with
  | unprepared hprepare => cases hprepare.symm.trans h
  | uncompiled hprepare hcompile =>
    cases hprepare.symm.trans h
    rw [hcompile]
  | unreset hprepare hcompile =>
    cases hprepare.symm.trans h
    rw [hcompile]
  | done hprepare hcompile =>
    cases hprepare.symm.trans h
    rw [hcompile]

theorem Generates.noted? {r : Request} {moment : Build} (h : Generates settings config b r moment)
    (hnoted : moment.compiler.noted? = some r) : ((generate settings config).runFrom b).2.compiler.noted? = some r := by
  obtain ⟨x, handed, hprepare, -, -, hcompile⟩ := h
  rw [compiler_of_generate hprepare, hcompile, runFrom_onWorld]
  exact hnoted

def commandOf (settings : Settings) (config : Config) : CommandSpec :=
  ⟨config.command, settings.root, config.timeout, some settings⟩

/-- A dry run shows the request of the configured command. From the same start, either both builds fail before they
generate, with the same error, or the dry one notes the request that the command gets, and both stand in the same world
with the same host when they start to generate. -/
theorem dry_run_shows_request (settings : Settings) {config : Config} (w : World) (hcommand : config.command ≠ []) :
    ∃ dry real : Compiler,
      (Compiler.ofConfig settings config true).runFrom w = (.ok dry, w) ∧ dry.engine = .dry ∧
      (Compiler.ofConfig settings config false).runFrom w = (.ok real, w) ∧
      real.engine = .command (commandOf settings config) ∧
      ((∃ e b₁ b₂, FailsBefore settings config ⟨w, dry, Project.host settings config⟩ e b₁ ∧
          FailsBefore settings config ⟨w, real, Project.host settings config⟩ e b₂ ∧
          b₁.world = b₂.world ∧ b₁.host = b₂.host) ∨
        ∃ r m₁ m₂, Generates settings config ⟨w, dry, Project.host settings config⟩ r m₁ ∧
          Generates settings config ⟨w, real, Project.host settings config⟩ r m₂ ∧
          ((generate settings config).runFrom ⟨w, dry, Project.host settings config⟩).2.compiler.noted? = some r ∧
          m₂.compiler.engine = .command (commandOf settings config) ∧ m₁.world = m₂.world ∧ m₁.host = m₂.host) := by
  have hreal : (Compiler.ofConfig settings config false).runFrom w =
      (.ok { engine := .command (commandOf settings config) }, w) := by
    have hsome : config.command.isEmpty = false := by simpa using hcommand
    simp only [Compiler.ofConfig, hsome, Compiler.ofCommand]
    rfl
  refine ⟨{ engine := .dry }, { engine := .command (commandOf settings config) }, rfl, rfl, hreal, rfl, ?_⟩
  have hblind := blind_prepare settings config ⟨w, { engine := .dry }, Project.host settings config⟩
    (.command (commandOf settings config))
  have hengine := (blind_prepare settings config).engine ⟨w, { engine := .dry }, Project.host settings config⟩
  have hran := @ran_of_prepare settings config ⟨w, { engine := .dry }, Project.host settings config⟩ rfl
  rcases hprepare : (prepare settings config).runFrom ⟨w, { engine := .dry }, Project.host settings config⟩ with
    ⟨e | x, handed⟩
  · rw [hprepare] at hblind
    exact .inl ⟨e, handed, _, failsBefore_of_prepare rfl hprepare, failsBefore_of_prepare rfl hblind, rfl, rfl⟩
  · obtain ⟨r, hrequest⟩ := request_of_prepare hprepare
    rw [hprepare] at hblind hengine hran
    have hdry := generates_of_prepare hprepare hran hrequest
    have hcommand := generates_of_prepare hblind hran hrequest
    refine .inr ⟨r, _, _, hdry, hcommand, hdry.noted? ?_, rfl, rfl, rfl⟩
    dsimp only
    rw [hengine]
    rfl

def commandedSample : World where
  disk :=
    { tree :=
        { entries := [([], .dir .now), (["p"], .dir .now), (["src", "p"], .dir .now),
            (["a.groovy", "src", "p"], .file [35, 10] .now .now)]
          nodup := by decide }
      cwd := ⟨.slash, ["p"]⟩ }
  moment := ⟨2024, 1, 2, 3, 4, 5, 0⟩

def commandedConfig : Config :=
  { command := ["stubs"], classPath := ["lib.jar"], sourceEncoding := some "latin-1", outputDirectory := some "out",
    sources := some [⟨⟨.slash, ["p", "src"]⟩, ["**"], [], none, none, .plain⟩] }

def commandedRequest : Request :=
  ⟨⟨.slash, ["p", "out"]⟩, ["/p/lib.jar"], [(sourceEncodingKey, "latin-1")], [⟨.slash, ["p", "src", "a.groovy"]⟩]⟩

/-- The command of the sample gets the request that a dry run has noted. -/
theorem request_of_commandedSample :
    commandedConfig.command ≠ [] ∧
      ∃ real moment, (Compiler.ofConfig nestedSettings commandedConfig false).runFrom commandedSample =
          (.ok real, commandedSample) ∧ real.engine = .command (commandOf nestedSettings commandedConfig) ∧
        Generates nestedSettings commandedConfig ⟨commandedSample, real, Project.host nestedSettings commandedConfig⟩
          commandedRequest moment := by
  have hcommand : commandedConfig.command ≠ [] := by decide
  have hnoted : ((generate nestedSettings commandedConfig).runFrom
      ⟨commandedSample, { engine := .dry }, Project.host nestedSettings commandedConfig⟩).2.compiler.noted? =
      some commandedRequest := by
    decide +kernel
  have hok : ((generate nestedSettings commandedConfig).runFrom
      ⟨commandedSample, { engine := .dry }, Project.host nestedSettings commandedConfig⟩).1.isOk = true := by
    decide +kernel
  refine ⟨hcommand, ?_⟩
  obtain ⟨dry, real, hdry, -, hreal, hengine, halike⟩ := dry_run_shows_request nestedSettings commandedSample hcommand
  cases hdry
  rcases halike with ⟨e, b₁, b₂, ⟨hfails, -⟩, -⟩ | ⟨r, m₁, m₂, -, hgenerates, hnoted', -⟩
  · rw [hfails] at hok
    cases hok
  · cases hnoted.symm.trans hnoted'
    exact ⟨real, m₂, hreal, hengine, hgenerates⟩

end BuildAction

end JavaStubs
