import JavaStubs.Proofs.Build.Rerun
import JavaStubs.Proofs.Build.Spared
import JavaStubs.Proofs.CommandLine.Succeeding

/-! What a listing of the source sets tells about the build that comes after it. -/
namespace JavaStubs

open FileTree BuildAction

namespace CommandLine

namespace Listing

def plainPaths (listing : Listing) : List FilePath :=
  listing.flatMap fun (set, scripts) => if set.isLibrary then [] else scripts.map (·.path)

def variableNames (listing : Listing) : List String :=
  listing.flatMap fun (set, scripts) =>
    if set.isLibrary then scripts.map fun x => Library.variableName x.baseName else []

variable (set : SourceSet) (scripts : List Script) (rest : Listing)

theorem plainPaths_cons :
    plainPaths ((set, scripts) :: rest) = (if set.isLibrary then [] else scripts.map (·.path)) ++ rest.plainPaths := by
  rw [plainPaths, List.flatMap_cons]
  rfl

theorem variableNames_cons :
    variableNames ((set, scripts) :: rest) =
      (if set.isLibrary then scripts.map fun x => Library.variableName x.baseName else []) ++ rest.variableNames := by
  rw [variableNames, List.flatMap_cons]
  rfl

end Listing

variable {d : Disk} {settings : Settings} {intermediate : FilePath} {encoding : String} {w w' : World}
variable {sets : List SourceSet} {listing : Listing} {ts : List Turn}

theorem scanAll_cons_ok {set : SourceSet} (h : scanAll d (set :: sets) = .ok listing) :
    ∃ scripts rest, d.scan set = .ok scripts ∧ scanAll d sets = .ok rest ∧ listing = (set, scripts) :: rest := by
  obtain ⟨scripts, hscan, h⟩ := ok_of_bind h
  obtain ⟨rest, hrest, h⟩ := ok_of_bind h
  exact ⟨scripts, rest, hscan, hrest, (Except.ok.inj h).symm⟩

def ApartFrom (d : Disk) (root : FilePath) (sets : List SourceSet) : Prop :=
  ∀ s ∈ sets, ¬Below (d.place s.directory) (d.place root) ∧ ¬Below (d.place root) (d.place s.directory)

theorem filter_paths_of_takeAll (hfree : d.tree.LinkFree) (hwell : d.tree.WellFormed)
    (hspares : d.Changes (Spares (d.place intermediate)) w.disk) (hapart : ApartFrom d intermediate sets)
    (hlisting : scanAll d sets = .ok listing)
    (h : (Turn.takeAll settings intermediate encoding sets).runFrom w = (.ok ts, w')) :
    (Turn.paths ts).filter (fun p => ¬Below (d.place intermediate) (d.place p)) = listing.plainPaths := by
  induction sets generalizing w listing ts with
  | nil =>
    cases h
    cases hlisting
    rfl
  | cons s ss ih =>
    obtain ⟨scripts, rest, hscan, hrest, rfl⟩ := scanAll_cons_ok hlisting
    obtain ⟨t, ts', w₁, ht, hts, rfl⟩ := Turn.takeAll_cons_ok h
    obtain ⟨hs, hs'⟩ := hapart s List.mem_cons_self
    have hplace := Disk.place_eq hspares.cwd
    have hturn := Turn.spares_of_take hspares.tree.linkFree ht
    rw [hplace] at hturn
    have htail := ih (hspares.comp hturn Spares.trans) (fun x hx => hapart x (List.mem_cons_of_mem _ hx)) hrest hts
    rw [Turn.paths, List.flatMap_cons, List.filter_append, ← Turn.paths, htail]
    by_cases hlib : s.isLibrary = true
    · have hnone : (t.scripts.map (·.path)).filter (fun p => ¬Below (d.place intermediate) (d.place p)) = [] := by
        rw [List.filter_eq_nil_iff]
        intro p hp
        obtain ⟨x, hx, rfl⟩ := List.mem_map.1 hp
        have hbelow := Turn.below_of_take_library (hspares.tree.named hwell.allNamed) hlib ht hx
        rw [hplace, hplace] at hbelow
        simpa using hbelow
      rw [hnone, Listing.plainPaths_cons, if_pos hlib]
    · have hsame := Disk.scan_spared hfree hwell hspares hs hs' hscan (Turn.scan_of_take hlib ht).2
      have hall : (scripts.map (·.path)).filter (fun p => ¬Below (d.place intermediate) (d.place p)) =
          scripts.map (·.path) := by
        rw [List.filter_eq_self]
        intro p hp
        obtain ⟨x, hx, rfl⟩ := List.mem_map.1 hp
        simpa using Disk.not_below_of_mem_scan hfree hwell hscan hs hs' hx
      rw [hsame, hall, Listing.plainPaths_cons, if_neg hlib]

theorem lastPublished_of_plain (hplain : ∀ s ∈ sets, ¬s.isLibrary = true)
    (h : (Turn.takeAll settings intermediate encoding sets).runFrom w = (.ok ts, w')) :
    ∀ before?, Turn.lastPublished before? ts = before? := by
  induction sets generalizing w ts with
  | nil =>
    cases h
    exact fun _ => rfl
  | cons s ss ih =>
    obtain ⟨t, ts', w₁, ht, hts, rfl⟩ := Turn.takeAll_cons_ok h
    intro before?
    rw [Turn.lastPublished, List.foldl_cons, Turn.published?_of_plain (hplain s List.mem_cons_self) ht]
    exact ih (fun x hx => hplain x (List.mem_cons_of_mem _ hx)) hts before?

theorem variableNames_of_plain (hplain : ∀ s ∈ sets, ¬s.isLibrary = true) (hlisting : scanAll d sets = .ok listing) :
    listing.variableNames = [] := by
  induction sets generalizing listing with
  | nil =>
    cases hlisting
    rfl
  | cons s ss ih =>
    obtain ⟨scripts, rest, -, hrest, rfl⟩ := scanAll_cons_ok hlisting
    rw [Listing.variableNames_cons, if_neg (hplain s List.mem_cons_self), List.nil_append]
    exact ih (fun x hx => hplain x (List.mem_cons_of_mem _ hx)) hrest

/-- The variables that are published for the only library are those of the scripts that were listed for it before. -/
theorem variableNames_of_takeAll (hfree : d.tree.LinkFree) (hwell : d.tree.WellFormed)
    (hspares : d.Changes (Spares (d.place intermediate)) w.disk) (hapart : ApartFrom d intermediate sets)
    (hone : sets.Pairwise fun a b => a.isLibrary = true → ¬b.isLibrary = true) (hlisting : scanAll d sets = .ok listing)
    (h : (Turn.takeAll settings intermediate encoding sets).runFrom w = (.ok ts, w')) :
    Turn.variableNames ts = listing.variableNames := by
  induction sets generalizing w listing ts with
  | nil =>
    cases h
    cases hlisting
    rfl
  | cons s ss ih =>
    obtain ⟨scripts, rest, hscan, hrest, rfl⟩ := scanAll_cons_ok hlisting
    obtain ⟨t, ts', w₁, ht, hts, rfl⟩ := Turn.takeAll_cons_ok h
    obtain ⟨hs, hone⟩ := List.pairwise_cons.1 hone
    by_cases hlib : s.isLibrary = true
    · have hplain : ∀ x ∈ ss, ¬x.isLibrary = true := fun x hx => hs x hx hlib
      obtain ⟨p, hpublish, -, heq⟩ := Turn.publish_of_take hlib ht
      obtain ⟨-, scripts', hscan'⟩ := Library.publish_sourceSet hpublish
      have hsame := Disk.scan_spared hfree hwell hspares (hapart s List.mem_cons_self).1 (hapart s List.mem_cons_self).2
        hscan hscan'
      have hwrappers := congrArg Library.Published.wrappers (Library.published_eq hscan' hpublish)
      have hlast : Turn.lastPublished none (t :: ts') = some p := by
        rw [Turn.lastPublished, List.foldl_cons, heq]
        exact lastPublished_of_plain hplain hts _
      rw [Turn.variableNames, hlast, Listing.variableNames_cons, if_pos hlib, variableNames_of_plain hplain hrest,
        List.append_nil]
      show p.wrappers.map (·.name) = _
      rw [show p.wrappers = _ from hwrappers, hsame, List.map_map]
      rfl
    · obtain rfl := Turn.take_plain hlib ht
      have hlast : Turn.variableNames (t :: ts') = Turn.variableNames ts' := by
        rw [Turn.variableNames, Turn.lastPublished, List.foldl_cons, Turn.published?_of_plain hlib ht]
        rfl
      rw [hlast, Listing.variableNames_cons, if_neg hlib, List.nil_append]
      exact ih hspares (fun x hx => hapart x (List.mem_cons_of_mem _ hx)) hone hrest hts

/-- The source sets of a project do not depend on how output is given, nor on what the command line puts in place. -/
theorem sources_eq {s s' : Settings} {config config' : Config} (hroot : s'.root = s.root) (hscope : s'.scope = s.scope)
    (hdeclared : config'.sourcesFor s.scope = config.sourcesFor s.scope) (d : Disk) :
    Project.sources d s' config' = Project.sources d s config := by
  unfold Project.sources Project.defaultSources
  rw [hroot, hscope, hdeclared]

theorem sourcesFor_override (config : Config) (o : Config.Override) (scope : Scope) :
    (config.override o).sourcesFor scope = config.sourcesFor scope := by
  unfold Config.override
  dsimp only
  split <;> split <;> cases scope <;> rfl

/-- A dry build that succeeds comes to what was listed for its project before. -/
theorem generate_of_listing {config : Config} {b b' : Build} {r : Report} (hfree : b.world.disk.tree.LinkFree)
    (hwell : b.world.disk.tree.WellFormed) (hsources : Project.sources b.world.disk settings config = .ok sets)
    (hapart : ApartFrom b.world.disk (Config.intermediateFor settings.scope settings.root) sets)
    (hlisting : scanAll b.world.disk sets = .ok listing) (hb : BuildAction.Begun settings config b)
    (h : (BuildAction.generate settings config).runFrom b = (.ok r, b')) :
    (r.files.filter fun p => ¬Below (b.world.disk.place (Config.intermediateFor settings.scope settings.root))
        (b.world.disk.place p)) = listing.plainPaths.eraseDups ∧ r.names = listing.variableNames := by
  obtain ⟨sets', ts, w₁, w₂, -, -, hsources', hmade, hturns, -, hfiles, hnames, -⟩ := BuildAction.generate_ok hb h
  cases hsources.symm.trans hsources'
  obtain ⟨ds, hsets⟩ := BuildAction.sets_of_sources hsources
  have halters := Action.ensureDir_alters b.host.output b.world
  obtain ⟨d, _, hdirs, hmore, -⟩ := Action.runFrom_ensureDir b.host.output b.world
  rw [hmade] at halters hdirs
  obtain ⟨-, rfl⟩ := Prod.mk.inj hdirs
  have hspares : b.world.disk.Changes
      (Spares (b.world.disk.place (Config.intermediateFor settings.scope settings.root))) d :=
    ⟨.of_alters hfree halters.tree fun l _ => hmore.tree.data? l, hmore.cwd, hmore.rules⟩
  rw [hfiles, hnames, filter_eraseDups]
  exact ⟨congrArg _ (filter_paths_of_takeAll hfree hwell hspares hapart hlisting hturns),
    variableNames_of_takeAll hfree hwell hspares hapart (SourceSet.normalize_libraries hsets) hlisting hturns⟩

/-- If a run lists the source sets of a project without links, none of which contains the intermediate root, is it or
lies below it, and then a dry build of the project succeeds, the build reports what was listed: outside of the
intermediate root the files of the sets that are no libraries, each once, and the variables of the library's files in
their order. -/
theorem generated_as_listed {args args' : List String} {a a' : Arguments} {w w₁ w₂ : World} {exit exit' : Exit}
    (hargs : parseAll args = .ok a) (hcommand : a.commands = [.scan]) (hargs' : parseAll args' = .ok a')
    (hcommand' : a'.commands = [.generate]) (hdry : a'.has .dryRun = true)
    (hproject : ∀ f ∈ [Field.projectRoot, .scope, .configFile], a'.value? f = a.value? f)
    (hfree : w.disk.tree.LinkFree) (hwell : w.disk.tree.WellFormed)
    (hapart : ∀ s config sets, Settings.ofRequest w (request a (a.has .json || args.contains "--json")) = .ok s →
      Config.load w.disk s.root (a.value? .configFile) = .ok config → Project.sources w.disk s config = .ok sets →
      ApartFrom w.disk (Config.intermediateFor s.scope s.root) sets)
    (hscan : (run args).runFrom w = (.ok exit, w₁)) (hcode : exit.code = 0)
    (hgenerate : (run args').runFrom w₁ = (.ok exit', w₂)) (hcode' : exit'.code = 0) :
    ∃ s listing s' config text r b state,
      Settings.ofRequest w (request a (a.has .json || args.contains "--json")) = .ok s ∧
      listingOf w.disk s (a.value? .configFile) = .ok listing ∧ w₁.stdout = w.stdout ++ listingText s listing ∧
      Settings.ofRequest w₁ (request a' (a'.has .json || args'.contains "--json")) = .ok s' ∧
      Config.load w₁.disk s'.root (a'.value? .configFile) = .ok config ∧
      (BuildAction.generate s' (overridden s' a' config)).runFrom
        ⟨{ w₁ with stderr := text }, { engine := .dry }, Project.host s' (overridden s' a' config)⟩ = (.ok r, b) ∧
      w₂.stdout = w₁.stdout ++ buildText s' r b state ∧
      (r.files.filter fun p => ¬Below (w.disk.place (Config.intermediateFor s.scope s.root)) (w.disk.place p)) =
        listing.plainPaths.eraseDups ∧
      r.names = listing.variableNames := by
  obtain ⟨s, text, v, text', hs, hperform, rfl⟩ := performed_of_run hargs (by simp [hcommand]) hscan hcode
  simp only [perform, hcommand] at hperform
  obtain ⟨listing, hlisting, rfl⟩ := scan_ok hperform
  obtain ⟨s', text₁, v', text₁', hs', hperform', rfl⟩ :=
    performed_of_run hargs' (by simp [hcommand']) hgenerate hcode'
  simp only [perform, hcommand'] at hperform'
  obtain ⟨config, r, b, state, hload, hbuilt, hprinted⟩ := generate_dry_ok hdry hperform'
  have hroot := hproject .projectRoot (by simp)
  have hscope := hproject .scope (by simp)
  have hfile := hproject .configFile (by simp)
  obtain ⟨hroot, hscope⟩ := Settings.project_of_ofRequest hs hs' rfl rfl hroot
    (congrArg (fun word : Option String => word.getD Scope.main.word) hscope)
  obtain ⟨config₀, sets, hload₀, hsources, hlisted⟩ := listingOf_ok hlisting
  refine ⟨s, listing, s', config, text₁, r, b, state, hs, hlisting, rfl, hs', hload, hbuilt, hprinted, ?_⟩
  -- both runs have read one configuration
  have hload' : Config.load w.disk s.root (a.value? .configFile) = .ok config := by
    rw [← hroot, ← hfile]
    exact hload
  cases hload₀.symm.trans hload'
  have hsources' : Project.sources w.disk s' (overridden s' a' config) = .ok sets :=
    (sources_eq hroot hscope (sourcesFor_override config _ _) w.disk).trans hsources
  have hpredicted := generate_of_listing hfree hwell hsources'
    (by rw [hroot, hscope]; exact hapart s config sets hs hload' hsources) hlisted ⟨rfl, rfl, rfl, rfl⟩ hbuilt
  rw [hroot, hscope] at hpredicted
  exact hpredicted

/-- The configuration of a sample with a directory of scripts and a library. -/
def foretoldToml : String :=
  "[[sources]]\ndirectory = 'src'\n[[sources]]\ndirectory = 'lib'\nmode = 'global-vars'\n"

/-- A project with one script in each of its directories, in which a build has noted its state before. -/
def foretoldSample : World where
  disk :=
    { tree :=
        { entries := [([], .dir .now), (["p"], .dir .now),
            (["stubgen.toml", "p"], .file foretoldToml.toUTF8.data.toList .now .now), (["src", "p"], .dir .now),
            (["a.groovy", "src", "p"], .file [] .now .now), (["lib", "p"], .dir .now),
            (["foo.groovy", "lib", "p"], .file [35, 10] .now .now), (["target", "p"], .dir .now),
            (["stubgen", "target", "p"], .dir .now),
            (["main-build-state.json", "stubgen", "target", "p"], .file [] .now .now)]
          nodup := by decide }
      cwd := ⟨.slash, ["p"]⟩ }
  moment := ⟨2024, 1, 2, 3, 4, 5, 0⟩

def foretoldConfig : Config where
  sources := some [⟨⟨.none, ["src"]⟩, SourceSet.defaultIncludes, [], none, none, .auto⟩,
    ⟨⟨.none, ["lib"]⟩, SourceSet.defaultIncludes, [], none, none, .globalVars⟩]
  origin := "/p/stubgen.toml"

def foretoldSet : SourceSet :=
  ⟨⟨.slash, ["p", "src"]⟩, SourceSet.defaultIncludes, [], none, none, .plain⟩

def foretoldScript : Script :=
  ⟨⟨.slash, ["p", "src", "a.groovy"]⟩, "a.groovy"⟩

def scanWords : List String :=
  ["--run-id", "r", "--quiet", "scan"]

def dryWords : List String :=
  ["--run-id", "r", "--quiet", "generate", "--dry-run"]

def scanArguments : Arguments :=
  { given := [(.runId, "r"), (.quiet, "")], commands := [.scan] }

def dryArguments : Arguments :=
  { given := [(.runId, "r"), (.quiet, ""), (.dryRun, "")], commands := [.generate] }

def foretoldListing : Listing :=
  [(foretoldSet, [foretoldScript]), (defaultLibrary, [fooScript])]

def listedSample : World :=
  { foretoldSample with stdout := listingText nestedSettings foretoldListing }

theorem parseAll_scan : parseAll scanWords = .ok scanArguments :=
  ok_of_toOption (by decide +kernel)

theorem parseAll_dry : parseAll dryWords = .ok dryArguments :=
  ok_of_toOption (by decide +kernel)

theorem settings_of_foretoldSample :
    Settings.ofRequest foretoldSample (request scanArguments false) = .ok nestedSettings := by
  have hscope : Scope.ofWord? (request scanArguments false).scope = some .main := by decide +kernel
  have hdir : foretoldSample.disk.isDir? ⟨.slash, ["p"]⟩ = .ok true := ok_of_toOption (by decide +kernel)
  rw [Settings.ofRequest_of_linkFree (by decide +kernel) (by decide +kernel) hscope hdir]
  exact congrArg Except.ok (by decide +kernel)

theorem settings_of_listedSample :
    Settings.ofRequest listedSample (request dryArguments false) = .ok nestedSettings :=
  settings_of_foretoldSample

theorem load_foretold : Config.load foretoldSample.disk nestedSettings.root none = .ok foretoldConfig :=
  ok_of_toOption (by decide +kernel)

theorem sources_foretold :
    Project.sources foretoldSample.disk nestedSettings foretoldConfig = .ok [foretoldSet, defaultLibrary] :=
  rfl

theorem listingOf_foretold : listingOf foretoldSample.disk nestedSettings none = .ok foretoldListing := by
  have hscanned : scanAll foretoldSample.disk [foretoldSet, defaultLibrary] = .ok foretoldListing :=
    ok_of_toOption (by decide +kernel)
  rw [listingOf, load_foretold]
  exact hscanned

theorem run_scan_foretold :
    (run scanWords).runFrom foretoldSample = (.ok ⟨0, false⟩, listedSample) := by
  have hjson : (scanArguments.has .json || scanWords.contains "--json") = false := by decide +kernel
  refine run_of_perform parseAll_scan (by decide) (hjson ▸ settings_of_foretoldSample) rfl ?_
  refine (runFrom_scan nestedSettings scanArguments foretoldSample).trans ?_
  rw [show scanArguments.value? .configFile = none by decide, listingOf_foretold]
  rfl

theorem run_dry_foretold : ∃ w, (run dryWords).runFrom listedSample = (.ok ⟨0, false⟩, w) := by
  have hjson : (dryArguments.has .json || dryWords.contains "--json") = false := by decide +kernel
  have hscan : ((Action.ensureDir (Project.host nestedSettings foretoldConfig).output).runFrom
      listedSample).2.disk.scan foretoldSet = .ok [foretoldScript] := ok_of_toOption (by decide +kernel)
  have hturns : (Turn.takeAll nestedSettings staleIntermediate "utf-8" [foretoldSet]).runFrom
      ((Action.ensureDir (Project.host nestedSettings foretoldConfig).output).runFrom listedSample).2 =
        (.ok [⟨foretoldSet, none, [foretoldScript]⟩],
          ((Action.ensureDir (Project.host nestedSettings foretoldConfig).output).runFrom listedSample).2) := by
    rw [Turn.takeAll, Acting.runFrom_bind_of_ok (Turn.take_of_scan rfl hscan)]
    rfl
  obtain ⟨r, b, hbuilt, -, hsame⟩ := @generate_of_libraryReady foretoldConfig
    ⟨listedSample, { engine := .dry }, Project.host nestedSettings foretoldConfig⟩ [foretoldSet] defaultLibrary _ _
    ⟨rfl, rfl, rfl, rfl⟩ rfl sources_foretold rfl hturns (by decide +kernel)
  -- the build has done nothing to the state that was there before
  have hleft : ((afterLibrary ⟨listedSample, { engine := .dry }, Project.host nestedSettings foretoldConfig⟩
        defaultLibrary "utf-8").disk.stat (Project.statePath nestedSettings)).toOption =
        some (["main-build-state.json", "stubgen", "target", "p"], .file [] .now .now) ∧
      ((afterLibrary ⟨listedSample, { engine := .dry }, Project.host nestedSettings foretoldConfig⟩
        defaultLibrary "utf-8").disk.stat (Project.statePath nestedSettings).parent).toOption =
        some (["stubgen", "target", "p"], .dir .now) := by
    decide +kernel
  obtain ⟨hfile, hdir⟩ := hleft
  obtain ⟨m, hdir⟩ := hsame.stat_dir (ok_of_toOption hdir)
  have hdata := Disk.data?_of_stat (ok_of_toOption hfile)
  obtain ⟨m', a, hfile⟩ := Disk.stat_file_of_kept (ok_of_toOption hfile) hsame.kept ((hsame.tree.data? _).trans hdata)
  have hopen : b.world.disk.obstacles = listedSample.disk.obstacles :=
    Disk.obstacles_eq (hsame.rules.trans (afterLibrary_alters _ _ _).rules)
  obtain ⟨state, w, hstate⟩ := writeState_over (h := b.host) hfile hdir (by rw [hopen]; rfl)
  exact ⟨_, run_of_perform parseAll_dry (by decide) (hjson ▸ settings_of_listedSample) rfl
    (runFrom_generate_dry rfl load_foretold hbuilt hstate)⟩

/-- In the sample, the build reports the one script of the set and the variable of the library. -/
theorem foretold_of_foretoldSample :
    parseAll scanWords = .ok scanArguments ∧ parseAll dryWords = .ok dryArguments ∧
      foretoldSample.disk.tree.LinkFree ∧ foretoldSample.disk.tree.WellFormed ∧
      ∃ w r b state, (run scanWords).runFrom foretoldSample = (.ok ⟨0, false⟩, listedSample) ∧
        (run dryWords).runFrom listedSample = (.ok ⟨0, false⟩, w) ∧
        w.stdout = listedSample.stdout ++ buildText nestedSettings r b state ∧
        (r.files.filter fun p => ¬Below (foretoldSample.disk.place staleIntermediate) (foretoldSample.disk.place p)) =
          [foretoldScript.path] ∧
        r.names = ["foo"] := by
  have hfree : foretoldSample.disk.tree.LinkFree := by decide +kernel
  have hwell : foretoldSample.disk.tree.WellFormed := by decide +kernel
  have hjson : (scanArguments.has .json || scanWords.contains "--json") = false := by decide +kernel
  have hjson' : (dryArguments.has .json || dryWords.contains "--json") = false := by decide +kernel
  obtain ⟨w, hrun⟩ := run_dry_foretold
  have hapart : ApartFrom foretoldSample.disk staleIntermediate [foretoldSet, defaultLibrary] := by
    unfold ApartFrom
    decide +kernel
  obtain ⟨s, listing, s', config, text, r, b, state, hs, hlisting, -, hs', -, -, hprinted, hfiles, hnames⟩ :=
    generated_as_listed parseAll_scan rfl parseAll_dry rfl (by decide) (by decide) hfree hwell
      (fun s config sets hs hload hsources => by
        rw [hjson] at hs
        cases settings_of_foretoldSample.symm.trans hs
        cases load_foretold.symm.trans hload
        cases sources_foretold.symm.trans hsources
        exact hapart)
      run_scan_foretold rfl hrun rfl
  rw [hjson] at hs
  rw [hjson'] at hs'
  cases settings_of_foretoldSample.symm.trans hs
  cases settings_of_listedSample.symm.trans hs'
  cases listingOf_foretold.symm.trans hlisting
  exact ⟨parseAll_scan, parseAll_dry, hfree, hwell, w, r, b, state, run_scan_foretold, hrun, hprinted,
    hfiles.trans (by decide +kernel), hnames.trans (by decide +kernel)⟩

end CommandLine

end JavaStubs
