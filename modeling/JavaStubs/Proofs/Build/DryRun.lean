import JavaStubs.Proofs.Build.Listed
import JavaStubs.Proofs.Build.Refusals
import JavaStubs.Proofs.Build.Resetting
import JavaStubs.Proofs.Build.Within

/-! Dry builds, whose compiler only notes what it is given. Such a build is its turns, between making the output
directory and setting times back. -/
namespace JavaStubs

namespace Turn

def lastPublished (before? : Option Library.Published) (ts : List Turn) : Option Library.Published :=
  ts.foldl (fun last? t => t.published?.orElse fun _ => last?) before?

def variableNames (ts : List Turn) : List String :=
  ((lastPublished none ts).map fun p => p.wrappers.map (·.name)).getD []

end Turn

namespace BuildAction

variable {settings : Settings} {config : Config} {intermediate : FilePath} {encoding : String} {b b' : Build}

theorem library?_of_addSets {b₀ : Build} {g : Gathered} {paths roots : List FilePath} {sets : List SourceSet}
    {ts : List Turn} {w : World} (hmodes : ∀ s ∈ sets, s.mode ≠ .auto) (h : Booked b₀ b paths roots)
    (hg : g.files = paths.eraseDups) (hran : b₀.compiler.ran = false)
    (hturns : (Turn.takeAll settings intermediate encoding sets).runFrom b.world = (.ok ts, w)) :
    ∃ g' b', (addSets settings intermediate encoding g sets).runFrom b = (.ok g', b') ∧
      g'.library? = Turn.lastPublished g.library? ts := by
  induction sets generalizing b g paths roots ts w with
  | nil =>
    cases hturns
    exact ⟨g, b, rfl, rfl⟩
  | cons s ss ih =>
    obtain ⟨t, ts', w₁, ht, hts, rfl⟩ := Turn.takeAll_cons_ok hturns
    rcases addSets_cons ss (hmodes s List.mem_cons_self) h hg ht with
      ⟨g₁, b₁, text, hrun, hbooked, hfiles, -, hlibrary, hworld⟩ | ⟨hran', -⟩
    · -- what was logged in the turn does not change the turns to come
      have hsteady : (Turn.takeAll settings intermediate encoding ss).Steady := Turn.steady_takeAll ss
      obtain ⟨text', hsteady⟩ := hsteady w₁ text
      rw [hts, ← hworld] at hsteady
      obtain ⟨g', b', hrest, hlast⟩ := ih (fun x hx => hmodes x (List.mem_cons_of_mem _ hx)) hbooked hfiles hsteady
      refine ⟨g', b', hrun.trans hrest, ?_⟩
      rw [hlast, hlibrary]
      rfl
    · cases hran.symm.trans hran'

theorem compile_dry {target : FilePath} (hran : b.compiler.ran = false) (hdry : b.compiler.engine = .dry)
    (htarget : b.compiler.target? = some target) :
    ∃ b', compile.runFrom b = (.ok 0, b') ∧ b'.world = b.world ∧ b'.compiler.files = b.compiler.files := by
  have hfiles := (files_of_compile b).1
  unfold compile at hfiles ⊢
  rw [Acting.runFrom_bind, Acting.runFrom_get] at hfiles ⊢
  dsimp only at hfiles ⊢
  have hrequest : b.compiler.request = .ok ⟨target, b.compiler.classPath, b.compiler.options, b.compiler.files⟩ := by
    rw [Compiler.request, htarget]
  rw [hran, if_neg Bool.false_ne_true, hrequest] at hfiles ⊢
  dsimp only at hfiles ⊢
  rw [Acting.runFrom_bind, Acting.runFrom_set] at hfiles ⊢
  dsimp only at hfiles ⊢
  rw [runFrom_onWorld, hdry] at hfiles ⊢
  exact ⟨_, rfl, rfl, hfiles⟩

/-- Where the turns of the sets succeed, a dry build hands over what they list, and reports it. -/
theorem compileSources_of_takeAll {sets : List SourceSet} {target : FilePath} {ts : List Turn} {w : World}
    (hmodes : ∀ s ∈ sets, s.mode ≠ .auto) (hran : b.compiler.ran = false) (hdry : b.compiler.engine = .dry)
    (htarget : b.compiler.target? = some target)
    (h : (Turn.takeAll settings intermediate encoding sets).runFrom b.world = (.ok ts, w)) :
    ∃ outcome b' text, (compileSources settings sets intermediate encoding).runFrom b = (.ok outcome, b') ∧
      outcome.files = (Turn.paths ts).eraseDups ∧ outcome.library? = Turn.lastPublished none ts ∧
      b'.compiler.files = b.compiler.files ++ (Turn.paths ts).eraseDups ∧ b'.world = { w with stderr := text } := by
  rcases handOver_spec settings intermediate encoding b hmodes with
    ⟨ts', w', g, handed, text, hturns, hhanded, hbooked, hfiles, -, hworld⟩ | ⟨e, w', b', _, _, hturns, -⟩ | ⟨hran', -⟩
  · cases h.symm.trans hturns
    have hbegun := (Booked.begin b).addRoot b.world.disk.cwd b.host.output b.world
    obtain ⟨g', b₁, hadded, hlibrary⟩ := library?_of_addSets (g := {}) hmodes hbegun rfl hran h
    have hhanded' : (handOver settings sets intermediate encoding).runFrom b = (.ok g', b₁) := hadded
    cases hhanded.symm.trans hhanded'
    obtain ⟨compiled, hcompiled, hworld', hfiles'⟩ := @compile_dry handed target
      (by rw [hbooked.compiler]; exact hran) (by rw [hbooked.compiler]; exact hdry) (by rw [hbooked.compiler]; exact htarget)
    have hcompiled' : (Acting.mapFailure compilerFailure compile).runFrom handed = (.ok 0, compiled) := by
      rw [Acting.runFrom_mapFailure, hcompiled]
      rfl
    obtain ⟨text', hlog⟩ := Log.runFrom_write settings ⟨.info, "stubs", "compile", [("generated", .int 0),
      ("files", .int g.files.length), ("message", .text (summary 0))]⟩ compiled.world
    refine ⟨⟨0, g.files, g.sourceSets, g.library?⟩, { compiled with world := { compiled.world with stderr := text' } },
      text', ?_, hfiles, hlibrary, ?_, ?_⟩
    · have hlogged := runFrom_onWorld (Log.write settings ⟨.info, "stubs", "compile", [("generated", .int 0),
        ("files", .int g.files.length), ("message", .text (summary 0))]⟩) compiled
      rw [hlog] at hlogged
      rw [compileSources, Acting.runFrom_bind_of_ok hhanded, Acting.runFrom_bind_of_ok hcompiled',
        Acting.runFrom_bind_of_ok hlogged]
      rfl
    · show compiled.compiler.files = _
      rw [hfiles', hbooked.compiler]
    · show { compiled.world with stderr := text' } = _
      rw [hworld', hworld]
  · cases h.symm.trans hturns
  · cases hran.symm.trans hran'

theorem takeAll_of_compileSources {sets : List SourceSet} {outcome : Outcome} (hmodes : ∀ s ∈ sets, s.mode ≠ .auto)
    (hran : b.compiler.ran = false)
    (h : (compileSources settings sets intermediate encoding).runFrom b = (.ok outcome, b')) :
    ∃ ts w, (Turn.takeAll settings intermediate encoding sets).runFrom b.world = (.ok ts, w) := by
  rcases handOver_spec settings intermediate encoding b hmodes with
    ⟨ts, w, _, _, _, hturns, -⟩ | ⟨e, w, b₁, _, _, -, hhanded, -⟩ | ⟨hran', -⟩
  · exact ⟨ts, w, hturns⟩
  · cases (Acting.runFrom_bind_of_error hhanded).symm.trans h
  · cases hran.symm.trans hran'

/-- A dry build that is about to begin: its compiler has no files yet, and its host has learned nothing. -/
structure Begun (settings : Settings) (config : Config) (b : Build) : Prop where
  dry : b.compiler.engine = .dry
  ran : b.compiler.ran = false
  files : b.compiler.files = []
  host : b.host = Project.host settings config

theorem target?_of_configure (c : Compiler) (target : FilePath) (classPath : List String) (encoding : Option String) :
    (c.configure target classPath encoding).target? = some target := by
  unfold Compiler.configure
  split
  · rfl
  · simp [Compiler.setOption]

/-- A dry build succeeds if its sets can be settled, its output directory can be made, the turns of the sets succeed and the
times can be set back. Then it has what the turns list, and after the turns it changes nothing but times. -/
theorem generate_of_takeAll {sets : List SourceSet} {ts : List Turn} {w₁ w₂ : World} (hb : Begun settings config b)
    (hsources : Project.sources b.world.disk settings config = .ok sets)
    (hmade : (Action.ensureDir b.host.output).runFrom b.world = (.ok b.host.output, w₁))
    (hturns : (Turn.takeAll settings (Config.intermediateFor settings.scope settings.root) config.readEncoding
      sets).runFrom w₁ = (.ok ts, w₂))
    (hreset : ∀ text, ∃ n w₃, (Action.resetTimes b.host.output).runFrom { w₂ with stderr := text } = (.ok n, w₃)) :
    ∃ r b', (generate settings config).runFrom b = (.ok r, b') ∧ r.files = (Turn.paths ts).eraseDups ∧
      r.names = Turn.variableNames ts ∧ b'.compiler.files = (Turn.paths ts).eraseDups ∧
      w₂.disk.SameContents b'.world.disk := by
  obtain ⟨ds, hsets⟩ := sets_of_sources hsources
  obtain ⟨hengine, hfresh, hfiles⟩ := configure_keeps b.compiler b.host.output (config.classPathFor settings.root)
    config.effectiveEncoding
  have hlooked : (look fun d => Project.sources d settings config).runFrom b = (.ok sets, b) := by
    rw [runFrom_look, hsources]
  have houtput : (onWorld (Action.ensureDir b.host.output)).runFrom b = (.ok b.host.output, { b with world := w₁ }) := by
    rw [runFrom_onWorld, hmade]
  obtain ⟨outcome, b₁, text, hcompiled, hfiles₁, hlibrary, hgiven, hworld⟩ :=
    @compileSources_of_takeAll settings (Config.intermediateFor settings.scope settings.root) config.readEncoding
      ⟨w₁, b.compiler.configure b.host.output (config.classPathFor settings.root) config.effectiveEncoding, b.host⟩
      sets b.host.output ts w₂ (SourceSet.normalize_modes hsets) (hfresh.trans hb.ran) (hengine.trans hb.dry)
      (target?_of_configure _ _ _ _) hturns
  obtain ⟨n, w₃, hreset⟩ := hreset text
  have hsame := (Action.within_resetTimes b.host.output { w₂ with stderr := text }).disk
  rw [hreset] at hsame
  rw [← hworld] at hreset
  have htimes : (onWorld (Action.resetTimes b.host.output)).runFrom b₁ = (.ok n, { b₁ with world := w₃ }) := by
    rw [runFrom_onWorld, hreset]
  obtain ⟨text', hlog⟩ := Log.runFrom_write settings ⟨.debug, "stubs", "reset-timestamps",
    [("directory", .text b.host.output.text), ("files", .int n)]⟩ w₃
  have hlogged := runFrom_onWorld (Log.write settings ⟨.debug, "stubs", "reset-timestamps",
    [("directory", .text b.host.output.text), ("files", .int n)]⟩) { b₁ with world := w₃ }
  rw [hlog] at hlogged
  refine ⟨⟨settings.scope, b.host.output, outcome.count, outcome.files, b₁.host.roots,
    (outcome.library?.map fun l => l.wrappers.map (·.name)).getD [], n, b₁.compiler.engine.isDry⟩,
    { b₁ with world := { w₃ with stderr := text' } }, ?_, hfiles₁, ?_, ?_, hsame⟩
  · rw [generate, Acting.runFrom_bind_of_ok hlooked, Acting.runFrom_bind_of_ok (Acting.runFrom_get b),
      Acting.runFrom_bind_of_ok houtput, Acting.runFrom_bind_of_ok (Acting.runFrom_modify _ _),
      Acting.runFrom_bind_of_ok hcompiled, Acting.runFrom_bind_of_ok htimes, Acting.runFrom_bind_of_ok hlogged]
    rfl
  · show (outcome.library?.map fun l => l.wrappers.map (·.name)).getD [] = _
    rw [hlibrary]
    rfl
  · show b₁.compiler.files = _
    rw [hgiven, hfiles, hb.files, List.nil_append]

/-- A dry build that succeeded went through all of its turns. -/
theorem generate_ok {r : Report} (hb : Begun settings config b) (h : (generate settings config).runFrom b = (.ok r, b')) :
    ∃ sets ts w₁ w₂ w₃ n, Project.sources b.world.disk settings config = .ok sets ∧
      (Action.ensureDir b.host.output).runFrom b.world = (.ok b.host.output, w₁) ∧
      (Turn.takeAll settings (Config.intermediateFor settings.scope settings.root) config.readEncoding sets).runFrom w₁ =
        (.ok ts, w₂) ∧
      (Action.resetTimes b.host.output).runFrom w₂ = (.ok n, w₃) ∧ r.files = (Turn.paths ts).eraseDups ∧
      r.names = Turn.variableNames ts ∧ b'.compiler.files = (Turn.paths ts).eraseDups ∧
      w₂.disk.SameContents b'.world.disk := by
  obtain ⟨sets, b₁, hlooked, hrest⟩ := Acting.bind_ok h
  obtain ⟨hsources, rfl⟩ := Prod.mk.inj hlooked
  obtain ⟨ds, hsets⟩ := sets_of_sources hsources
  rw [Acting.runFrom_bind_of_ok (Acting.runFrom_get b)] at hrest
  obtain ⟨output, b₂, hmade, hrest⟩ := Acting.bind_ok hrest
  rw [runFrom_onWorld] at hmade
  rcases hensured : (Action.ensureDir b.host.output).runFrom b.world with ⟨_ | output', w₁⟩
  · rw [hensured] at hmade
    cases hmade
  rw [hensured] at hmade
  cases hmade
  obtain rfl := Action.ensureDir_ok hensured
  rw [Acting.runFrom_bind_of_ok (Acting.runFrom_modify _ _)] at hrest
  obtain ⟨hengine, hfresh, -⟩ := configure_keeps b.compiler b.host.output (config.classPathFor settings.root)
    config.effectiveEncoding
  obtain ⟨outcome, b₃, hcompiled, hrest⟩ := Acting.bind_ok hrest
  have hmodes := SourceSet.normalize_modes hsets
  obtain ⟨ts, w₂, hturns⟩ := takeAll_of_compileSources hmodes (hfresh.trans hb.ran) hcompiled
  obtain ⟨outcome', b₄, text, hcompiled', -, -, -, hworld⟩ :=
    compileSources_of_takeAll hmodes (hfresh.trans hb.ran) (hengine.trans hb.dry) (target?_of_configure _ _ _ _) hturns
  cases hcompiled'.symm.trans hcompiled
  obtain ⟨n, b₅, hreset, -⟩ := Acting.bind_ok hrest
  rw [runFrom_onWorld, hworld] at hreset
  -- what was logged does not matter for setting times back
  have hsteady : ∀ text', ∃ w₃, (Action.resetTimes b.host.output).runFrom { w₂ with stderr := text' } = (.ok n, w₃) := by
    intro text'
    obtain ⟨text'', hsteady⟩ := Action.steady_resetTimes b.host.output { w₂ with stderr := text } text'
    exact ⟨_, hsteady.trans (Prod.ext (Prod.mk.inj hreset).1 rfl)⟩
  obtain ⟨w₃, hw₃⟩ := hsteady w₂.stderr
  obtain ⟨r', b₆, hrun, hfiles, hnames, hgiven, hsame⟩ :=
    generate_of_takeAll hb hsources hensured hturns fun text' => ⟨n, hsteady text'⟩
  cases hrun.symm.trans h
  exact ⟨sets, ts, w₁, w₂, w₃, n, hsources, rfl, hturns, hw₃, hfiles, hnames, hgiven, hsame⟩

theorem world_of_compile_dry (hdry : b.compiler.engine = .dry) : (compile.runFrom b).2.world = b.world := by
  unfold compile
  rw [Acting.runFrom_bind, Acting.runFrom_get]
  dsimp only
  split
  · rfl
  cases b.compiler.request with
  | error e => rfl
  | ok r =>
    dsimp only
    rw [Acting.runFrom_bind, Acting.runFrom_set]
    dsimp only
    rw [runFrom_onWorld, hdry]
    rfl

theorem differs_of_generate_dry {r : Report} (hdry : b.compiler.engine = .dry)
    (h : (generate settings config).runFrom b = (.ok r, b')) :
    World.Differs (fun d d' => d.Changes (FileTree.Alters fun _ => True) d') b.world b'.world := by
  cases ends_generate h with
  | @done x handed count compiled text normalized w text' hprepare hcompile hreset =>
    obtain ⟨hprepared, hengine⟩ := @prepare_differs (fun d d' => d.Changes (FileTree.Alters fun _ => True) d') _
      settings config b (fun d => d.ensureDirs_alters _ fun _ _ _ _ _ _ => trivial)
      fun s => Library.within_publish_alters settings s _ _
    rw [hprepare] at hprepared hengine
    have hworld := world_of_compile_dry (hengine.trans hdry)
    rw [hcompile] at hworld
    have htimes : World.Differs (fun d d' => d.Changes (FileTree.Alters fun _ => True) d') _ _ :=
      (Action.within_resetTimes x.1).mono (fun _ _ hsame => hsame.imp fun _ _ => FileTree.SameContents.alters)
        { compiled.world with stderr := text }
    rw [hreset, hworld] at htimes
    exact ((hprepared.trans (.log _ text)).trans htimes).trans (.log _ text')

end BuildAction

end JavaStubs
