import JavaStubs.Proofs.Build.Again
import JavaStubs.Proofs.Build.DefaultSources
import JavaStubs.Proofs.Build.DryRun
import JavaStubs.Proofs.Build.HandedOver
import JavaStubs.Proofs.Build.Present

/-! Building a project again. A dry build that ended well comes to the same again on the disk that it left, if the
sets that are scanned before the generated files are there do not pick any of them. -/
namespace JavaStubs

open FileTree

namespace Turn

theorem lastPublished_essence (before? : Option Library.Published) (ts : List Turn) :
    lastPublished (before?.map fun p => { p with rewritten := 0 }) (ts.map essence) =
      (lastPublished before? ts).map fun p => { p with rewritten := 0 } := by
  induction ts generalizing before? with
  | nil => rfl
  | cons t ts ih =>
    have hone : (t.essence.published?.orElse fun _ => before?.map fun p => { p with rewritten := 0 }) =
        (t.published?.orElse fun _ => before?).map fun p => { p with rewritten := 0 } := by
      rw [essence]
      cases t.published? <;> rfl
    rw [List.map_cons, lastPublished, List.foldl_cons, hone]
    exact ih _

theorem variableNames_essence (ts : List Turn) : variableNames (ts.map essence) = variableNames ts := by
  have hlast : lastPublished none (ts.map essence) = _ := lastPublished_essence none ts
  rw [variableNames, variableNames, hlast, Option.map_map]
  rfl

end Turn

namespace BuildAction

variable {settings : Settings} {config : Config} {b b' : Build}

/-- Neither the library of a project nor a set before it picks files that publishing may write or clear. -/
def KeepsApart (settings : Settings) (config : Config) (d : Disk) : Prop :=
  ∀ pre lib post, Project.sources d settings config = .ok (pre ++ lib :: post) → lib.isLibrary = true →
    ∀ s ∈ pre ++ [lib],
      Library.Unseen (d.place (Config.intermediateFor settings.scope settings.root)) (d.place s.directory) s

/-- The directories below the source sets of a project that have come in since may be listed. -/
def ListsAgain (settings : Settings) (config : Config) (d d' : Disk) : Prop :=
  ∀ sets, Project.sources d' settings config = .ok sets → ∀ s ∈ sets, d.ListsNew d' s.directory

/-- A build succeeds with the files and the variables of an earlier one, gives the compiler the same files in the same
order, and leaves the contents of the disk as the earlier one did. -/
def RunsAgain (settings : Settings) (config : Config) (r : Report) (b₁ b' : Build) : Prop :=
  ∃ r' b₂, (generate settings config).runFrom b' = (.ok r', b₂) ∧ r'.files = r.files ∧ r'.names = r.names ∧
    b₂.compiler.files = b₁.compiler.files ∧ ∀ l, b₂.world.disk.tree.content? l = b₁.world.disk.tree.content? l

/-- The sets of a project and what their turns list are the same on the disk that a run left. -/
theorem turns_again {d₀ : Disk} {w w' v : World} {sets : List SourceSet} {ts : List Turn}
    (habs : settings.root.isAbsolute = true) (hroot : d₀.isDir? settings.root = .ok true) (hfree : d₀.tree.LinkFree)
    (hwell : d₀.tree.WellFormed) (hapart : KeepsApart settings config d₀) (hlists : ListsAgain settings config d₀ v.disk)
    (hmore : d₀.Changes MoreDirs w.disk) (hnamed : w.disk.tree.Named) (hsame : w'.disk.SameContents v.disk)
    (hsources : Project.sources d₀ settings config = .ok sets)
    (hturns : (Turn.takeAll settings (Config.intermediateFor settings.scope settings.root) config.readEncoding
      sets).runFrom w = (.ok ts, w')) :
    ∃ sets' ts' text, Project.sources v.disk settings config = .ok sets' ∧
      (Turn.takeAll settings (Config.intermediateFor settings.scope settings.root) config.readEncoding sets').runFrom v =
        (.ok ts', { v with stderr := text }) ∧
      Turn.paths ts' = Turn.paths ts ∧ Turn.variableNames ts' = Turn.variableNames ts := by
  obtain ⟨hkept, hfree'⟩ := Turn.takeAll_kept (hmore.tree.linkFree hfree) hturns
  have hkept' : d₀.Changes Kept v.disk :=
    (hmore.imp fun _ _ => MoreDirs.kept).comp (hkept.comp hsame.kept .trans) .trans
  rcases Project.sources_again habs hroot hfree hwell hkept' (hsame.tree.linkFree hfree') hsources with
    hsources' | ⟨s, l, m, rfl, hsources', hplain, habs', hs, hnew⟩
  · obtain ⟨ds, hsets⟩ := sets_of_sources hsources
    obtain ⟨ts', text, hturns', hessence⟩ := Turn.takeAll_again hfree hwell hmore hnamed hsame
      (hlists sets hsources') (SourceSet.normalize_libraries hsets) (fun pre lib post hsplit => hapart pre lib post (hsplit ▸ hsources)) hturns
    refine ⟨sets, ts', text, hsources', hturns', ?_, ?_⟩
    · rw [← Turn.paths_essence ts', hessence, Turn.paths_essence]
    · rw [← Turn.variableNames_essence ts', hessence, Turn.variableNames_essence]
  · -- there was no set, and the usual directory that came in holds no file
    cases hturns
    have hscan : v.disk.scan s = .ok [] :=
      Disk.scan_of_new hwell (hsame.tree.linkFree hfree') (hsame.cwd.trans hmore.cwd)
        (hsame.rules.trans hmore.rules) (hlists _ hsources' s List.mem_cons_self) (fun l => (hsame.tree.data? l).trans (hmore.tree.data? l)) habs' hs hnew
    have hlib : s.isLibrary = false := by simp [SourceSet.isLibrary, hplain]
    refine ⟨[s], [⟨s, none, []⟩], v.stderr, hsources', ?_, rfl, rfl⟩
    rw [Turn.takeAll, Acting.runFrom_bind_of_ok (Turn.take_of_scan hlib hscan)]
    rfl

/-- If a dry build succeeded, the next one on the disk that it left comes to the same and changes no file, if neither the
library nor a set before it picks generated files. -/
theorem generate_again {r : Report} {b₁ : Build} (habs : settings.root.isAbsolute = true)
    (hroot : b.world.disk.isDir? settings.root = .ok true) (hfree : b.world.disk.tree.LinkFree)
    (hwell : b.world.disk.tree.WellFormed) (hlists : ListsAgain settings config b.world.disk b₁.world.disk)
    (hapart : KeepsApart settings config b.world.disk) (hb : Begun settings config b)
    (hb' : Begun settings config b') (hdisk : b'.world.disk = b₁.world.disk)
    (h : (generate settings config).runFrom b = (.ok r, b₁)) : RunsAgain settings config r b₁ b' := by
  obtain ⟨sets, ts, w₁, w₂, w₃, n, hsources, hmade, hturns, hreset, hfiles, hnames, hgiven, hsame⟩ := generate_ok hb h
  rw [← hdisk] at hlists hsame
  have houtput : b'.host.output = b.host.output := by rw [hb'.host, hb.host]
  obtain ⟨d, _, hensured, hmore, hthere⟩ := Action.runFrom_ensureDir b.host.output b.world
  obtain ⟨hok, rfl⟩ := Prod.mk.inj (hmade.symm.trans hensured)
  obtain ⟨l, m, hstat⟩ := hthere _ hok.symm
  have hnamed : d.tree.Named := by
    have halters := Action.ensureDir_alters b.host.output b.world
    rw [hensured] at halters
    exact halters.tree.named hwell.allNamed
  obtain ⟨sets', ts', text, hsources', hturns', hpaths, hvariables⟩ :=
    turns_again habs hroot hfree hwell hapart hlists hmore hnamed hsame hsources hturns
  -- the output directory is there, and the times of the same stubs can be set back
  have hmade' : (Action.ensureDir b'.host.output).runFrom b'.world = (.ok b'.host.output, b'.world) := by
    obtain ⟨hkept, -⟩ := Turn.takeAll_kept (hmore.tree.linkFree hfree) hturns
    obtain ⟨m', hstat'⟩ := Disk.stat_dir_of_kept hstat (hkept.comp hsame.kept .trans)
    rw [houtput]
    exact Action.ensureDir_of_stat hstat'
  have hreset' : ∀ text, ∃ n w₃, (Action.resetTimes b'.host.output).runFrom { b'.world with stderr := text } =
      (.ok n, w₃) := by
    intro text
    rw [houtput]
    obtain ⟨w₄, hagain, -⟩ := @Action.resetTimes_again w₂ w₃ { b'.world with stderr := text } _ n hreset hsame
    exact ⟨n, w₄, hagain⟩
  obtain ⟨r', b₂, hrun, hfiles', hnames', hgiven', hsame'⟩ :=
    generate_of_takeAll hb' hsources' hmade' hturns' hreset'
  refine ⟨r', b₂, hrun, ?_, ?_, ?_, fun l => ?_⟩
  · rw [hfiles', hpaths, hfiles]
  · rw [hnames', hvariables, hnames]
  · rw [hgiven', hpaths, hgiven]
  · rw [← hdisk]
    exact hsame'.tree l

/-- The world of a sample once its output directory is made and its library is published. -/
def afterLibrary (b : Build) (lib : SourceSet) (encoding : String) : World :=
  ((Library.publish nestedSettings lib staleIntermediate encoding).runFrom
    ((Action.ensureDir b.host.output).runFrom b.world).2).2

theorem afterLibrary_alters (b : Build) (lib : SourceSet) (encoding : String) :
    b.world.disk.Changes (Alters fun _ => True) (afterLibrary b lib encoding).disk :=
  (Action.ensureDir_alters b.host.output b.world).comp (Library.publish_alters nestedSettings lib staleIntermediate encoding _)
    .trans

def libraryReady (b : Build) (lib : SourceSet) (encoding : String) : Bool :=
  let (made, w) := (Action.ensureDir b.host.output).runFrom b.world
  let (published, w) := (Library.publish nestedSettings lib staleIntermediate encoding).runFrom w
  made.isOk && published.isOk && w.disk.Scannable (Library.publishedSet lib staleIntermediate) &&
    ((Action.resetTimes b.host.output).runFrom w).1.isOk

theorem generate_of_libraryReady {pre : List SourceSet} {lib : SourceSet} {ts : List Turn} {encoding : String}
    (hb : Begun nestedSettings config b) (hencoding : config.readEncoding = encoding)
    (hsources : Project.sources b.world.disk nestedSettings config = .ok (pre ++ [lib])) (hlib : lib.isLibrary = true)
    (hpre : (Turn.takeAll nestedSettings staleIntermediate encoding pre).runFrom
        ((Action.ensureDir b.host.output).runFrom b.world).2 =
      (.ok ts, ((Action.ensureDir b.host.output).runFrom b.world).2))
    (hready : libraryReady b lib encoding = true) :
    ∃ r b₁, (generate nestedSettings config).runFrom b = (.ok r, b₁) ∧ (∀ p ∈ Turn.paths ts, p ∈ r.files) ∧
      (afterLibrary b lib encoding).disk.SameContents b₁.world.disk := by
  unfold libraryReady at hready
  unfold afterLibrary
  rcases hmade : (Action.ensureDir b.host.output).runFrom b.world with ⟨_ | output, w₁⟩
  · simp [hmade, Except.isOk, Except.toBool] at hready
  obtain rfl := Action.ensureDir_ok hmade
  rw [hmade] at hready hpre
  dsimp only at hready hpre ⊢
  rcases hpublish : (Library.publish nestedSettings lib staleIntermediate encoding).runFrom w₁ with ⟨_ | p, w₂⟩
  · simp [hpublish, Except.isOk, Except.toBool] at hready
  rw [hpublish] at hready
  dsimp only at hready ⊢
  simp only [Bool.and_eq_true, decide_eq_true_eq] at hready
  obtain ⟨⟨-, hscannable⟩, hreset⟩ := hready
  have hset : p.sourceSet = Library.publishedSet lib staleIntermediate := (Library.publish_sourceSet hpublish).1
  obtain ⟨found, hfound⟩ := hscannable.scan SuffixMapping.standard
  have htake := Turn.take_of_publish hlib hpublish (hset ▸ hfound)
  have hlast : (Turn.takeAll nestedSettings staleIntermediate encoding [lib]).runFrom w₁ =
      (.ok [⟨p.sourceSet, some p, found⟩], w₂) := by
    rw [Turn.takeAll, Acting.runFrom_bind_of_ok htake]
    rfl
  have hturns := Turn.takeAll_append hpre hlast
  rw [← hencoding] at hturns
  have hall : ∀ text, ∃ n w₃, (Action.resetTimes b.host.output).runFrom { w₂ with stderr := text } = (.ok n, w₃) := by
    intro text
    obtain ⟨text', hsteady⟩ := Action.steady_resetTimes b.host.output w₂ text
    rcases hrun : (Action.resetTimes b.host.output).runFrom w₂ with ⟨_ | n, w₃⟩
    · rw [hrun] at hreset
      cases hreset
    · rw [hrun] at hsteady
      exact ⟨n, _, hsteady⟩
  obtain ⟨r, b₁, hrun, hfiles, -, -, hsame⟩ := generate_of_takeAll hb hsources hmade hturns hall
  refine ⟨r, b₁, hrun, fun q hq => ?_, hsame⟩
  rw [hfiles, List.mem_eraseDups, Turn.paths, List.flatMap_append]
  exact List.mem_append_left _ hq

theorem listsAgain_of_afterLibrary {lib : SourceSet} {encoding : String} {d : Disk} {sets : List SourceSet}
    (hsame : (afterLibrary b lib encoding).disk.SameContents d)
    (hsources : Project.sources d nestedSettings config = .ok sets)
    (hlist : ∀ s ∈ sets, (afterLibrary b lib encoding).disk.ListsBelow s.directory (b.world.disk.place s.directory)) :
    ListsAgain nestedSettings config b.world.disk d := by
  intro sets' hsources' s hs
  cases hsources.symm.trans hsources'
  exact (hlist s hs).listsNew (afterLibrary_alters b lib encoding).rules hsame.tree

def fooConfig : Config :=
  { outputDirectory := some "stubs", sources := some [fooLibrary SourceSet.defaultIncludes] }

def fooProject : Build :=
  { fooSample [] with compiler := { engine := .dry }, host := Project.host nestedSettings fooConfig }

theorem sources_fooConfig {d : Disk} (hcwd : d.cwd = ⟨.slash, ["p"]⟩) :
    Project.sources d nestedSettings fooConfig = .ok [fooLibrary SourceSet.defaultIncludes] := by
  rw [Project.sources, hcwd]
  rfl

theorem keepsApart_fooProject : KeepsApart nestedSettings fooConfig fooProject.world.disk := by
  intro pre lib post hsources hlib s hs
  have hsplit : pre ++ lib :: post = [fooLibrary SourceSet.defaultIncludes] :=
    Except.ok.inj (hsources.symm.trans (sources_fooConfig rfl))
  obtain ⟨rfl, hsplit⟩ | ⟨_, rfl, hsplit⟩ := List.append_eq_cons_iff.1 hsplit
  · obtain ⟨rfl, -⟩ := List.cons.inj hsplit
    rw [List.nil_append, List.mem_singleton] at hs
    subst hs
    exact Library.unseen_of_not_below (by decide) _
  · simp at hsplit

/-- The library of the sample is built twice with the same result. -/
theorem fooProject_runs_again :
    nestedSettings.root.isAbsolute = true ∧ fooProject.world.disk.isDir? nestedSettings.root = .ok true ∧
      fooProject.world.disk.tree.LinkFree ∧ fooProject.world.disk.tree.WellFormed ∧
      KeepsApart nestedSettings fooConfig fooProject.world.disk ∧ Begun nestedSettings fooConfig fooProject ∧
      ∃ r b₁ b', (generate nestedSettings fooConfig).runFrom fooProject = (.ok r, b₁) ∧
        ListsAgain nestedSettings fooConfig fooProject.world.disk b₁.world.disk ∧ Begun nestedSettings fooConfig b' ∧
        b'.world.disk = b₁.world.disk ∧ RunsAgain nestedSettings fooConfig r b₁ b' := by
  have hroot : fooProject.world.disk.isDir? nestedSettings.root = .ok true := ok_of_toOption (by decide +kernel)
  have hfree : fooProject.world.disk.tree.LinkFree := by decide +kernel
  have hwell : fooProject.world.disk.tree.WellFormed := by decide +kernel
  have hb : Begun nestedSettings fooConfig fooProject := ⟨rfl, rfl, rfl, rfl⟩
  refine ⟨by decide, hroot, hfree, hwell, keepsApart_fooProject, hb, ?_⟩
  obtain ⟨r, b₁, hrun, -, hsame⟩ := @generate_of_libraryReady fooConfig fooProject [] _ _ _ hb rfl
    (sources_fooConfig rfl) rfl rfl (by decide +kernel)
  have hcwd : b₁.world.disk.cwd = ⟨.slash, ["p"]⟩ := hsame.cwd.trans (afterLibrary_alters _ _ _).cwd
  have hlists : ListsAgain nestedSettings fooConfig fooProject.world.disk b₁.world.disk :=
    listsAgain_of_afterLibrary hsame (sources_fooConfig hcwd) (by decide +kernel)
  have hb' : Begun nestedSettings fooConfig { fooProject with world := b₁.world } := ⟨rfl, rfl, rfl, rfl⟩
  exact ⟨r, b₁, _, hrun, hlists, hb', rfl,
    generate_again (by decide) hroot hfree hwell hlists keepsApart_fooProject hb hb' rfl hrun⟩

/-- If a dry build succeeded, the next one on the disk that it left comes to the same and changes no file. -/
def RerunsAlike : Prop :=
  ∀ settings config b b' b₁ r, settings.root.isAbsolute = true → b.world.disk.isDir? settings.root = .ok true →
    b.world.disk.tree.LinkFree → b.world.disk.tree.WellFormed → ListsAgain settings config b.world.disk b₁.world.disk →
    Begun settings config b → Begun settings config b' → b'.world.disk = b₁.world.disk →
    (generate settings config).runFrom b = (.ok r, b₁) → RunsAgain settings config r b₁ b'

def vanishingConfig : Config :=
  { outputDirectory := some "stubs", sources := some [targetSet, emptyLibrary] }

def vanishingSample : Build :=
  { staleSample with compiler := { engine := .dry }, host := Project.host nestedSettings vanishingConfig }

theorem sources_vanishing {d : Disk} (hcwd : d.cwd = ⟨.slash, ["p"]⟩) :
    Project.sources d nestedSettings vanishingConfig = .ok [targetSet, emptyLibrary] := by
  rw [Project.sources, hcwd]
  rfl

theorem generate_vanishing : ∃ r b₁, (generate nestedSettings vanishingConfig).runFrom vanishingSample = (.ok r, b₁) ∧
    staleWrapper ∈ r.files ∧ (afterLibrary vanishingSample emptyLibrary "utf-8").disk.SameContents b₁.world.disk := by
  have hscan : ((Action.ensureDir vanishingSample.host.output).runFrom vanishingSample.world).2.disk.scan targetSet =
      .ok [⟨staleWrapper, "VarOLD.groovy"⟩] := ok_of_toOption (by decide +kernel)
  have htarget : (Turn.takeAll nestedSettings staleIntermediate "utf-8" [targetSet]).runFrom
      ((Action.ensureDir vanishingSample.host.output).runFrom vanishingSample.world).2 =
        (.ok [⟨targetSet, none, [⟨staleWrapper, "VarOLD.groovy"⟩]⟩],
          ((Action.ensureDir vanishingSample.host.output).runFrom vanishingSample.world).2) := by
    rw [Turn.takeAll, Acting.runFrom_bind_of_ok (Turn.take_of_scan rfl hscan)]
    rfl
  obtain ⟨r, b₁, hrun, hfiles, hsame⟩ := generate_of_libraryReady (b := vanishingSample) ⟨rfl, rfl, rfl, rfl⟩ rfl
    (sources_vanishing rfl) rfl htarget (by decide +kernel)
  exact ⟨r, b₁, hrun, hfiles _ (by simp [Turn.paths]), hsame⟩

/-- A build may hand over less when it is run again: a wrapper that the first run listed was removed by it. -/
theorem rerun_may_differ : ¬RerunsAlike := by
  intro h
  obtain ⟨r, b₁, hrun, hlisted, hsame⟩ := generate_vanishing
  have halters : vanishingSample.world.disk.Changes (Alters fun _ => True) b₁.world.disk :=
    (afterLibrary_alters vanishingSample emptyLibrary "utf-8").comp (hsame.imp fun _ _ => SameContents.alters) .trans
  have hcwd : b₁.world.disk.cwd = ⟨.slash, ["p"]⟩ := halters.cwd
  have hlists : ListsAgain nestedSettings vanishingConfig vanishingSample.world.disk b₁.world.disk :=
    listsAgain_of_afterLibrary hsame (sources_vanishing hcwd) (by decide +kernel)
  have hwell : vanishingSample.world.disk.tree.WellFormed := by decide +kernel
  have hfree : vanishingSample.world.disk.tree.LinkFree := by decide +kernel
  have hfree₁ : b₁.world.disk.tree.LinkFree := halters.tree.linkFree hfree
  have hnamed : b₁.world.disk.tree.Named := halters.tree.named hwell.allNamed
  have hleft : (afterLibrary vanishingSample emptyLibrary "utf-8").disk.tree.data?
        (vanishingSample.world.disk.place staleWrapper) = none ∧
      ((afterLibrary vanishingSample emptyLibrary "utf-8").disk.scan emptyLibrary).toOption = some [] ∧
      ((afterLibrary vanishingSample emptyLibrary "utf-8").disk.stat vanishingSample.host.output).toOption =
        some (["stubs", "p"], .dir .now) := by
    decide +kernel
  obtain ⟨hgone, hempty, hdir⟩ := hleft
  replace hgone : b₁.world.disk.tree.data? (b₁.world.disk.place staleWrapper) = none := (hsame.tree.data? _).trans hgone
  replace hempty : b₁.world.disk.scan emptyLibrary = .ok [] :=
    hsame.scan ((afterLibrary_alters _ _ _).tree.linkFree hfree) (ok_of_toOption hempty)
  obtain ⟨m, hdir⟩ := hsame.stat_dir (ok_of_toOption hdir)
  have hb' : Begun nestedSettings vanishingConfig { vanishingSample with world := b₁.world } := ⟨rfl, rfl, rfl, rfl⟩
  obtain ⟨r', b₂, hrun', hfiles, -⟩ := h nestedSettings vanishingConfig vanishingSample _ b₁ r (by decide)
    (ok_of_toOption (by decide +kernel)) hfree hwell hlists ⟨rfl, rfl, rfl, rfl⟩ hb' rfl hrun
  obtain ⟨sets, ts, w₁, w₂, -, -, hsources, hmade, hturns, -, hfiles', -⟩ := generate_ok hb' hrun'
  cases hsources.symm.trans (sources_vanishing hcwd)
  cases (Action.ensureDir_of_stat hdir).symm.trans hmade
  rw [← hfiles, hfiles', List.mem_eraseDups] at hlisted
  obtain ⟨t, ts', w₁, ht, hts, rfl⟩ := Turn.takeAll_cons_ok hturns
  obtain ⟨t', ts', w₂, ht', hts', rfl⟩ := Turn.takeAll_cons_ok hts
  cases hts'
  obtain rfl := Turn.take_plain (by decide) ht
  obtain ⟨p, hpublish, hfound, -⟩ := Turn.publish_of_take rfl ht'
  have halters₂ := Library.publish_alters nestedSettings emptyLibrary
    (Config.intermediateFor nestedSettings.scope nestedSettings.root) vanishingConfig.readEncoding b₁.world
  rw [hpublish] at halters₂
  obtain ⟨x, hx, hpath⟩ : ∃ x, (x ∈ t.scripts ∨ x ∈ t'.scripts) ∧ x.path = staleWrapper := by
    simpa [Turn.paths, or_and_right, exists_or] using hlisted
  rcases hx with hx | hx
  · -- the set before the library does not find it any more
    have hleads := Disk.leadsToFile_of_mem_scan hfree₁ hnamed (Turn.scan_of_take (by decide) ht).2 hx
    have hsome := hleads.data?
    rw [hpath, hgone] at hsome
    cases hsome
  · -- and the library does not write it
    obtain ⟨scripts, hscripts, -, -, -, -, hstale⟩ := Library.publish_succeeded hfree₁ hpublish
    cases hempty.symm.trans hscripts
    have hnone := hstale (by rw [Disk.unlisted?_eq halters.rules]; decide +kernel) "VarOLD.groovy" ⟨_, by decide, by simp, rfl⟩ fun _ => by decide
    have hleads := Disk.leadsToFile_of_mem_scan (halters₂.tree.linkFree hfree₁) (halters₂.tree.named hnamed) hfound hx
    have hsome := hleads.data?
    rw [hpath, Disk.place_eq halters₂.cwd] at hsome
    cases hsome.symm.trans (congrArg Option.isSome hnone)

end BuildAction

end JavaStubs
