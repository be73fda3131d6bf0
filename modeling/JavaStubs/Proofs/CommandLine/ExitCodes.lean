import JavaStubs.CommandLine.Program
import JavaStubs.Proofs.Build.Refusals

/-! The exit codes of runs. A failure that has no class is reported as an internal error, and it is known where such a
failure comes from. -/
namespace JavaStubs

theorem CommandLine.runFrom_building {compiler : Compiler} {host : Host} {act : BuildAction α} {w : World}
    {r : Except Failure α} {b : Build} (h : act.runFrom ⟨w, compiler, host⟩ = (r, b)) :
    (building compiler host act).runFrom w = (r.map (·, b), b.world) := by
  change (((act.runFrom ⟨w, compiler, host⟩).1.map (·, (act.runFrom ⟨w, compiler, host⟩).2),
    (act.runFrom ⟨w, compiler, host⟩).2.world) : Except Failure _ × World) = _
  rw [h]

theorem CommandLine.failsBy_building {P : World → Failure → Prop} {compiler : Compiler} {host : Host}
    {act : BuildAction α} {w : World} (h : act.FailsBy (fun b => P b.world) ⟨w, compiler, host⟩) :
    (building compiler host act).FailsBy P w := by
  intro e w' hrun
  rcases hact : act.runFrom ⟨w, compiler, host⟩ with ⟨r, b⟩
  rw [runFrom_building hact] at hrun
  cases r with
  | ok a => cases hrun
  | error f =>
    cases hrun
    exact h _ b hact

namespace CommandLine

section

variable {P : Disk → Failure → Prop} [hP : CommonFailures P] {w : World} {s : Settings} {a : Arguments}

omit hP in
theorem failsBy_printReport {P : World → Failure → Prop} (layout : Json.Layout) (fields : List (String × Value)) :
    (printReport s layout fields).FailsBy P w :=
  .of_ok (Acting.runFrom_modify _ _)

omit hP in
theorem failsBy_printLines {P : World → Failure → Prop} (lines : List String) : (printLines s lines).FailsBy P w := by
  unfold printLines
  split
  · exact .pure _
  · exact .of_ok (Acting.runFrom_modify _ _)

def ConfigFailures (P : Disk → Failure → Prop) (d : Disk) (root : FilePath) (explicit : Option String) : Prop :=
  ∀ f, Config.Stray d root explicit f → P d f

theorem failsBy_loadConfig (h : ConfigFailures P w.disk s.root (a.value? .configFile)) :
    (loadConfig s a).FailsBy (fun w => P w.disk) w :=
  Action.failsBy_look (Config.errsBy_load h)

theorem load_of_loadConfig {config : Config} {w' : World} (h : (loadConfig s a).runFrom w = (.ok config, w')) :
    Config.load w.disk s.root (a.value? .configFile) = .ok config ∧ w' = w := by
  obtain ⟨hload, rfl⟩ := Prod.mk.inj h
  exact ⟨hload, rfl⟩

/-- The configuration of a build, with what the command line puts in place of it. -/
def overridden (s : Settings) (a : Arguments) (config : Config) : Config :=
  config.override
    { sourceEncoding := a.value? .sourceEncoding, outputDirectory := a.value? .outputDir, scope := s.scope }

theorem command_override (config : Config) (o : Config.Override) : (config.override o).command = config.command := by
  unfold Config.override
  dsimp only
  split <;> split <;> rfl

theorem ofConfig_dry {config : Config} (hdry : a.has .dryRun = true ∨ config.command = []) :
    ∃ text, (Compiler.ofConfig s config (a.has .dryRun)).runFrom w = (.ok { engine := .dry }, { w with stderr := text }) := by
  unfold Compiler.ofConfig
  by_cases hdryRun : a.has .dryRun = true
  · rw [if_pos hdryRun]
    exact ⟨w.stderr, rfl⟩
  · rw [if_neg hdryRun, hdry.resolve_left hdryRun]
    obtain ⟨text, hlog⟩ := Log.runFrom_write s ⟨Log.warn, "stubs", "no-compiler",
      [("message", .text "no stub compiler command configured; running dry")]⟩ w
    refine ⟨text, ?_⟩
    rw [if_pos (by rfl), Acting.runFrom_bind_of_ok hlog]
    rfl

theorem failsBy_generate (hwell : w.disk.tree.WellFormed) (hroot : s.root.NulFree)
    (hconfig : ConfigFailures P w.disk s.root (a.value? .configFile))
    (hdry : ∀ config, Config.load w.disk s.root (a.value? .configFile) = .ok config →
      a.has .dryRun = true ∨ config.command = [])
    (houtput : ∀ config, Config.load w.disk s.root (a.value? .configFile) = .ok config →
      ¬((overridden s a config).outputFor s.scope s.root).NulFree → ∀ d, P d (.access .nul))
    (hencoding : ∀ config, Config.load w.disk s.root (a.value? .configFile) = .ok config →
      holdsNul (overridden s a config).readEncoding = true → ∀ d, P d (.charset .nulInName)) :
    (generate s a).FailsBy (fun w => P w.disk) w := by
  refine .bind (failsBy_loadConfig hconfig) fun config w₁ hloaded => ?_
  obtain ⟨hload, rfl⟩ := load_of_loadConfig hloaded
  obtain ⟨text, hcompiler⟩ := @ofConfig_dry w₁ s a (overridden s a config)
    ((hdry config hload).imp_right (command_override _ _).trans)
  refine .bind (.of_ok hcompiler) fun compiler w₂ hmade => ?_
  cases hcompiler.symm.trans hmade
  refine .bind (failsBy_building (BuildAction.failsBy_generate hwell hroot rfl rfl (houtput config hload)
    (hencoding config hload))) fun result _ _ => ?_
  have hstate : (Project.statePath s).NulFree := by
    refine ((hroot.child (by decide)).child (by decide)).child ?_
    cases s.scope <;> decide
  refine .bind (.bind (Action.failsBy_writeText hstate fun hnul => absurd hnul (by decide)) fun _ _ _ => .pure _) fun _ _ _ => ?_
  split
  · exact failsBy_printReport _ _
  · exact failsBy_printLines _

theorem failsBy_scan (hconfig : ConfigFailures P w.disk s.root (a.value? .configFile)) :
    (scan s a).FailsBy (fun w => P w.disk) w := by
  have hscan : ∀ (d : Disk) (sets : List SourceSet), ErrsBy (P d) (scanAll d sets) := by
    intro d sets
    induction sets with
    | nil => exact .ok _
    | cons set sets ih => exact .bind (Disk.errsBy_scan _ _) fun _ _ => .bind ih fun _ _ => .ok _
  refine .bind (failsBy_loadConfig hconfig) fun config _ _ => ?_
  refine .bind (Action.failsBy_look (.bind (Project.errsBy_sources _ _) fun sets _ => hscan _ sets)) fun listing _ _ => ?_
  dsimp only
  split
  · exact failsBy_printReport _ _
  · split <;> exact .of_ok (Acting.runFrom_modify _ _)

theorem failsBy_normalize (hconfig : ConfigFailures P w.disk s.root (a.value? .configFile)) :
    (normalize s a).FailsBy (fun w => P w.disk) w := by
  have htarget : (stubDirectory s a).FailsBy (fun w => P w.disk) w := by
    unfold stubDirectory
    split
    · exact .pure _
    · exact .bind (failsBy_loadConfig hconfig) fun _ _ _ => .pure _
  refine .bind htarget fun target _ _ => .bind (Action.failsBy_resetTimes _) fun count _ _ => ?_
  split
  · exact failsBy_printReport _ _
  · exact failsBy_printLines _

end

/-- Failures of a run without a class, by what brings them about: a path of which the system does not tell what it leads
to, a NUL in the project directory as it is named or in the output directory, one in the name of the encoding, a project
directory that is a loop of links, a fault of the configuration that is not reported as one, and a time limit with too many
digits in a configuration that is to be printed. -/
inductive Unexpected (w : World) (a : Arguments) (r : Settings.Request) (d : Disk) : Failure → Prop
  | untold {p errno} : d.Refuses p errno → Unexpected w a r d (.access (.os (.at errno p)))
  | nulInRoot : ¬(Settings.namedRoot w r.root).NulFree → Unexpected w a r d (.access .nul)
  | nulInOutput {s config} : Settings.ofRequest w r = .ok s → a.commands = [.generate] →
      Config.load w.disk s.root (a.value? .configFile) = .ok config →
      ¬((overridden s a config).outputFor s.scope s.root).NulFree → Unexpected w a r d (.access .nul)
  | nulInEncoding {s config} : Settings.ofRequest w r = .ok s → a.commands = [.generate] →
      Config.load w.disk s.root (a.value? .configFile) = .ok config →
      holdsNul (overridden s a config).readEncoding = true → Unexpected w a r d (.charset .nulInName)
  | rootLoops {e} : w.disk.stat (w.disk.canonical (Settings.namedRoot w r.root)) = .error (.os e) → e.errno = .ELOOP →
      Unexpected w a r d (.linkLoop (w.disk.canonical (Settings.namedRoot w r.root)))
  | strayConfig {s f} : Settings.ofRequest w r = .ok s → Config.Stray w.disk s.root (a.value? .configFile) f →
      Unexpected w a r d f
  | unprintable {s config} : Settings.ofRequest w r = .ok s → a.commands = [.config, .dump] →
      Config.load w.disk s.root (a.value? .configFile) = .ok config → config.toValue.showable = false →
      Unexpected w a r d (.badValue (Value.overlong none))

/-- A failure has a class, or it is one of those without. -/
def Explained (w : World) (a : Arguments) (r : Settings.Request) (d : Disk) (f : Failure) : Prop :=
  f.Classed ∨ Unexpected w a r d f

instance (w : World) (a : Arguments) (r : Settings.Request) : CommonFailures (Explained w a r) where
  classed := .inl
  untold h := .inr (.untold h)

section

variable {w : World} {a : Arguments} {r : Settings.Request} {s : Settings}

theorem configFailures_explained (hs : Settings.ofRequest w r = .ok s) :
    ConfigFailures (Explained w a r) w.disk s.root (a.value? .configFile) :=
  fun _ hstray => .inr (.strayConfig hs hstray)

theorem failsBy_perform {w₁ : World} (hs : Settings.ofRequest w r = .ok s) (hdisk : w₁.disk = w.disk)
    (hwell : w.disk.tree.WellFormed)
    (hdry : ∀ config, a.commands = [.generate] → Config.load w.disk s.root (a.value? .configFile) = .ok config →
      a.has .dryRun = true ∨ config.command = []) :
    (perform s a).FailsBy (fun w' => Explained w a r w'.disk) w₁ := by
  have hconfig : ConfigFailures (Explained w a r) w₁.disk s.root (a.value? .configFile) := by
    rw [hdisk]
    exact configFailures_explained hs
  obtain ⟨l, m, hstat⟩ := Disk.stat_of_isDir? (Settings.isDir?_of_ofRequest hs)
  have hroot := Disk.nulFree_of_stat hstat
  unfold perform
  split
  · next hcommand =>
    rw [← hdisk] at hwell hdry
    refine failsBy_generate hwell hroot hconfig (hdry · hcommand) ?_ ?_
    · exact fun config hload hnot _ => .inr (.nulInOutput hs hcommand (hdisk ▸ hload) hnot)
    · exact fun config hload hnul _ => .inr (.nulInEncoding hs hcommand (hdisk ▸ hload) hnul)
  · exact failsBy_scan hconfig
  · exact failsBy_normalize hconfig
  · next hcommand =>
    refine .bind (failsBy_loadConfig hconfig) fun config _ hloaded => ?_
    obtain ⟨hload, rfl⟩ := load_of_loadConfig hloaded
    split
    · exact failsBy_printReport _ _
    · next hshown => exact .throw (.inr (.unprintable hs hcommand (hdisk ▸ hload) (by simpa using hshown)))
  · refine .bind (failsBy_loadConfig hconfig) fun _ _ _ => ?_
    split
    · exact failsBy_printReport _ _
    · exact failsBy_printLines _
  · exact .pure _

theorem failsBy_performLogged (hs : Settings.ofRequest w r = .ok s) (hwell : w.disk.tree.WellFormed)
    (hdry : ∀ config, a.commands = [.generate] → Config.load w.disk s.root (a.value? .configFile) = .ok config →
      a.has .dryRun = true ∨ config.command = []) :
    (performLogged s a).FailsBy (fun w' => Explained w a r w'.disk) w := by
  obtain ⟨text, hlog⟩ := Log.runFrom_write s ⟨.debug, "cli", "start", [("cmd", .text (commandName a)),
    ("scope", .text s.scope.word), ("project_root", .text s.root.text)]⟩ w
  refine .bind (Action.failsBy_log _ _) fun _ w₁ hw₁ => ?_
  cases hlog.symm.trans hw₁
  exact .bind (failsBy_perform hs rfl hwell hdry) fun _ _ _ => Action.failsBy_log _ _

theorem runFrom_run {args : List String} (h : parseAll args = .ok a) (hversion : a.commands ≠ [.version]) {asJson : Bool}
    (hjson : asJson = (a.has .json || args.contains "--json")) (w : World) :
    (run args).runFrom w =
      match Settings.ofRequest w (request a asJson) with
      | .error f => (report asJson "" f).runFrom w
      | .ok s =>
        match (performLogged s a).runFrom w with
        | (.ok _, w') => (.ok ⟨0, false⟩, w')
        | (.error f, w') => (report asJson s.runId f).runFrom w' := by
  subst hjson
  unfold run
  rw [h]
  dsimp only
  rw [if_neg hversion, Acting.runFrom_bind, Acting.runFrom_get]
  dsimp only
  cases Settings.ofRequest w (request a (a.has .json || args.contains "--json")) with
  | error f => rfl
  | ok s =>
    dsimp only
    rw [Acting.runFrom_bind, Acting.runFrom_tryCatch, Acting.runFrom_bind]
    rcases (performLogged s a).runFrom w with ⟨r, w'⟩
    cases r with
    | ok _ => rfl
    | error f =>
      dsimp only
      rw [Acting.runFrom_bind]
      rcases (report (a.has .json || args.contains "--json") s.runId f).runFrom w' with ⟨r, w''⟩
      cases r <;> rfl

/-- A run ended with the code and the error line of a failure. -/
def Reports (asJson : Bool) (message : String) (cls : ErrorClass) (exit : Exit) (w' : World) : Prop :=
  exit = ⟨cls.exitCode, false⟩ ∧
    ∃ before runId, w'.stderr = before ++ (errorText asJson message cls.exitCode cls.kind runId ++ "\n")

def withError (asJson : Bool) (runId message : String) (cls : ErrorClass) (w : World) : World :=
  { w with stderr := w.stderr ++ (errorText asJson message cls.exitCode cls.kind runId ++ "\n") }

theorem reports_withError (asJson : Bool) (runId message : String) (cls : ErrorClass) (w : World) :
    Reports asJson message cls ⟨cls.exitCode, false⟩ (withError asJson runId message cls w) :=
  ⟨rfl, w.stderr, runId, rfl⟩

theorem runFrom_report_stub (asJson : Bool) (runId : String) (e : StubError) (w : World) :
    (report asJson runId (.stub e)).runFrom w =
      (.ok ⟨e.errorClass.exitCode, false⟩, withError asJson runId e.message e.errorClass w) := rfl

theorem runFrom_report_unexpected (asJson : Bool) (runId : String) {f : Failure} (hf : ∀ e, f ≠ .stub e) (w : World) :
    (report asJson runId f).runFrom w =
      (.ok ⟨ErrorClass.general.exitCode, false⟩, withError asJson runId ("internal error: " ++ f.message) .general w) := by
  cases f with
  | stub e => exact absurd rfl (hf e)
  | _ => rfl

/-- A failure is reported with the code of its class, or as an internal error. -/
theorem exit_of_report {asJson : Bool} {runId : String} {f : Failure} {w₁ : World}
    (h : Explained w a r w₁.disk f) :
    ∃ exit w', (report asJson runId f).runFrom w₁ = (.ok exit, w') ∧ exit.isUsage = false ∧
      (exit.code ∈ [0, 3, 4, 5] ∨ ∃ f, Unexpected w a r w'.disk f ∧
        Reports asJson ("internal error: " ++ f.message) .general exit w') := by
  rcases h with ⟨e, rfl, hclass⟩ | hun
  · refine ⟨_, _, runFrom_report_stub asJson runId e w₁, rfl, .inl ?_⟩
    cases hcls : e.errorClass with
    | general => exact absurd hcls hclass
    | _ => decide
  · have hstub : ∀ e, f ≠ .stub e := by
      rintro e rfl
      cases hun with
      | strayConfig _ hstray => cases hstray
    exact ⟨_, _, runFrom_report_unexpected asJson runId hstub w₁, rfl, .inr ⟨f, hun, reports_withError ..⟩⟩

end

/-- Whatever the arguments, the environment and the project are, a run has an exit code of success or of the tool's own
errors. -/
def ExitsClosed : Prop :=
  ∀ args a w, parseAll args = .ok a → w.disk.tree.WellFormed → a.has .dryRun = true ∨ a.commands ≠ [.generate] →
    ∃ exit w', (run args).runFrom w = (.ok exit, w') ∧ exit.code ∈ [0, 3, 4, 5]

/-- A project whose configuration file is no UTF-8. -/
def undecodableSample : World where
  disk :=
    { tree :=
        { entries := [([], .dir .now), (["p"], .dir .now), (["stubgen.toml", "p"], .file [0xff] .now .now)]
          nodup := by decide }
      cwd := ⟨.slash, ["p"]⟩ }
  moment := ⟨2024, 1, 2, 3, 4, 5, 0⟩

/-- Arguments that ask to validate the configuration that is found, and that leave the project and its scope open. -/
structure AsksToValidate (a : Arguments) : Prop where
  commands : a.commands = [.config, .validate]
  root : a.value? .projectRoot = none
  scope : a.value? .scope = none
  file : a.value? .configFile = none

section

variable {a : Arguments}

theorem settings_of_undecodableSample (h : AsksToValidate a) (asJson : Bool) :
    ∃ s, Settings.ofRequest undecodableSample (request a asJson) = .ok s ∧ s.root = ⟨.slash, ["p"]⟩ := by
  have hroot : (request a asJson).root = none := h.root
  have hscope : Scope.ofWord? (request a asJson).scope = some .main := by
    have hword : (request a asJson).scope = Scope.main.word := by
      rw [request, h.scope]
      rfl
    rw [hword]
    decide
  have hnamed : holdsNul (Settings.namedRoot undecodableSample none).text = false := by decide +kernel
  have hplace : FilePath.ofLoc (undecodableSample.disk.place (Settings.namedRoot undecodableSample none)) =
      ⟨.slash, ["p"]⟩ := by decide +kernel
  have hdir : undecodableSample.disk.isDir? ⟨.slash, ["p"]⟩ = .ok true := ok_of_toOption (by decide +kernel)
  rw [← hroot] at hnamed hplace
  rw [← hplace] at hdir
  exact ⟨_, Settings.ofRequest_of_linkFree (by decide) hnamed hscope hdir, hplace⟩

theorem performed_of_undecodableSample {s : Settings} (hroot : s.root = ⟨.slash, ["p"]⟩) (h : AsksToValidate a) :
    ∃ e w', (performLogged s a).runFrom undecodableSample = (.error (.charset e), w') := by
  have hload : ∃ e, Config.load undecodableSample.disk s.root (a.value? .configFile) = .error (.charset e) := by
    rw [hroot, h.file]
    have hfile : Config.FileHolds undecodableSample.disk ⟨.slash, ["p"]⟩ none ⟨.slash, ["p", "stubgen.toml"]⟩ [0xff] :=
      ⟨ok_of_toOption (by decide +kernel), ok_of_toOption (by decide +kernel)⟩
    have hbytes : (Charset.utf8.decodeAll [0xff]).toOption = none := by decide +kernel
    cases hdecode : Charset.utf8.decodeAll [0xff] with
    | error e => exact ⟨e, Config.load_of_undecodable hfile hdecode⟩
    | ok cs =>
      rw [hdecode] at hbytes
      cases hbytes
  obtain ⟨e, hload⟩ := hload
  obtain ⟨text, hlog⟩ := Log.runFrom_write s ⟨.debug, "cli", "start", [("cmd", .text (commandName a)),
    ("scope", .text s.scope.word), ("project_root", .text s.root.text)]⟩ undecodableSample
  have hconfig : (loadConfig s a).runFrom { undecodableSample with stderr := text } =
      (.error (.charset e), { undecodableSample with stderr := text }) :=
    Prod.ext hload rfl
  have hperform : (perform s a).runFrom { undecodableSample with stderr := text } =
      (.error (.charset e), { undecodableSample with stderr := text }) := by
    rw [perform, h.commands]
    exact Acting.runFrom_bind_of_error hconfig
  exact ⟨e, _, (Acting.runFrom_bind_of_ok hlog).trans (Acting.runFrom_bind_of_error hperform)⟩

theorem exit_of_asksToValidate {args : List String} (hargs : parseAll args = .ok a) (h : AsksToValidate a) :
    ∃ w', (run args).runFrom undecodableSample = (.ok ⟨99, false⟩, w') := by
  obtain ⟨s, hs, hroot⟩ := settings_of_undecodableSample h (a.has .json || args.contains "--json")
  obtain ⟨e, w', hperformed⟩ := performed_of_undecodableSample hroot h
  have hversion : a.commands ≠ [.version] := by
    rw [h.commands]
    decide
  rw [runFrom_run hargs hversion rfl, hs]
  dsimp only
  rw [hperformed]
  exact ⟨_, runFrom_report_unexpected _ s.runId (by simp) w'⟩

end

def validateArguments : Arguments :=
  { commands := [.config, .validate] }

theorem parseAll_validate : parseAll ["config", "validate"] = .ok validateArguments :=
  ok_of_toOption (by decide +kernel)

theorem exit_of_undecodableSample :
    ∃ w', (run ["config", "validate"]).runFrom undecodableSample = (.ok ⟨99, false⟩, w') :=
  exit_of_asksToValidate parseAll_validate ⟨rfl, rfl, rfl, rfl⟩

end CommandLine

end JavaStubs
