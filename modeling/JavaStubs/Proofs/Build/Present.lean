import JavaStubs.Proofs.Build.Listed
import JavaStubs.Proofs.Library.Publishing

/-! Which of the files handed to the compiler are there when it is called. Source sets are scanned in turn, so what
was listed in one turn may be gone after a later one. -/
namespace JavaStubs

open FileTree

namespace Turn

variable {settings : Settings} {intermediate : FilePath} {encoding : String} {w w' : World}

theorem leadsToFile_of_publish {s : SourceSet} {p : FilePath} {q : Library.Published} (hfree : w.disk.tree.LinkFree)
    (h : (Library.publish settings s intermediate encoding).runFrom w = (.ok q, w')) (hp : w.disk.LeadsToFile p) :
    w'.disk.LeadsToFile p ∨ (w'.disk.tree.data? (w.disk.place p) = none ∧
      ∃ scripts, w.disk.scan s = .ok scripts ∧
        Library.Stale (Library.package :: w.disk.place intermediate) scripts (w.disk.place p)) := by
  have halters := Library.publish_alters settings s intermediate encoding w
  rw [h] at halters
  have hkept : w.disk.Changes Kept w'.disk := ⟨halters.tree.kept hfree, halters.cwd, halters.rules⟩
  cases hdata : w'.disk.tree.data? (w.disk.place p) with
  | some data => exact .inl (hp.of_kept hkept (by rw [Disk.place_eq halters.cwd, hdata]; rfl))
  | none =>
    obtain ⟨scripts, hscan, -, -, ⟨registry, -, hregistry⟩, hclasses, -⟩ := Library.publish_succeeded hfree h
    refine .inr ⟨rfl, scripts, hscan, ?_⟩
    have hgenerated : Library.Generated (w.disk.place intermediate) (w.disk.place p) := by
      refine Classical.byContradiction fun hnot => ?_
      have hsome := hp.data?
      rw [← (Library.publish_touches hfree h).2 _ hnot, hdata] at hsome
      cases hsome
    rcases hgenerated with hl | ⟨n, hn, hl⟩
    · rw [hl, hregistry] at hdata
      cases hdata
    · refine ⟨n, hn, fun x hx heq => ?_, hl⟩
      obtain ⟨data, -, hthere⟩ := hclasses x hx
      rw [hl, heq] at hdata
      cases hthere.symm.trans hdata

theorem leadsToFile_of_mem_paths {sets : List SourceSet} {ts : List Turn}
    (hone : sets.Pairwise fun a b => a.isLibrary = true → ¬b.isLibrary = true) (hfree : w.disk.tree.LinkFree)
    (hnamed : w.disk.tree.Named) (h : (takeAll settings intermediate encoding sets).runFrom w = (.ok ts, w'))
    {p : FilePath} (hp : p ∈ paths ts) :
    w'.disk.LeadsToFile p ∨ ∃ pre lib post scripts, sets = pre ++ lib :: post ∧ lib.isLibrary = true ∧
      w.disk.scan lib = .ok scripts ∧
      Library.Stale (Library.package :: w.disk.place intermediate) scripts (w.disk.place p) ∧
      w'.disk.tree.data? (w.disk.place p) = none ∧ ∃ s ∈ pre, ∃ names, p = s.directory.descend names := by
  obtain ⟨t, ht, x, hx, rfl⟩ := mem_paths.1 hp
  obtain ⟨pre, s, post, before, after, w₁, w₂, rfl, hbefore, htake, hafter⟩ := split_of_mem_takeAll h ht
  have halters := takeAll_alters settings intermediate encoding pre w
  rw [hbefore] at halters
  have halters₂ := take_alters settings intermediate encoding s w₁
  rw [htake] at halters₂
  have hlisted : w₂.disk.LeadsToFile x.path :=
    Disk.leadsToFile_of_mem_scan (halters₂.tree.linkFree (halters.tree.linkFree hfree))
      (halters₂.tree.named (halters.tree.named hnamed)) (take_ok htake).2.1 hx
  by_cases hlib : ∃ lib ∈ post, lib.isLibrary = true
  · -- the library comes later, so nothing has changed yet
    obtain ⟨lib, hmem, hlib⟩ := hlib
    rw [List.append_cons, List.pairwise_append] at hone
    obtain ⟨-, hpost, hplain⟩ := hone
    have hnotlib : ∀ y ∈ pre ++ [s], ¬y.isLibrary = true := fun y hy hylib => hplain y hy lib hmem hylib hlib
    have hs : ¬s.isLibrary = true := hnotlib s (by simp)
    obtain rfl := takeAll_plain (fun y hy => hnotlib y (List.mem_append_left _ hy)) hbefore
    obtain rfl := take_plain hs htake
    obtain ⟨t', -, htake'⟩ := take_of_takeAll hpost hafter hmem hlib
    obtain ⟨q, hpublish, -⟩ := publish_of_standIn hlib (take_ok htake').1
    refine (leadsToFile_of_publish hfree hpublish hlisted).imp_right ?_
    rintro ⟨hgone, scripts, hscan, hstale⟩
    obtain ⟨between, rest, rfl⟩ := List.append_of_mem hmem
    refine ⟨pre ++ s :: between, lib, rest, scripts, by simp, hlib, hscan, hstale, hgone, s, by simp, ?_⟩
    obtain ⟨habs, l, m, -, hfound⟩ := Disk.scan_ok (take_ok htake).2.1
    obtain ⟨names, -, -, rfl⟩ := (hfound x).1 hx
    refine ⟨names, ?_⟩
    rw [Disk.ofPath_descend habs, directory_of_take htake, scanned, if_neg hs]
  · rw [takeAll_plain (fun y hy hylib => hlib ⟨y, hy, hylib⟩) hafter]
    exact .inl hlisted

end Turn

namespace BuildAction

/-- When handing over settled sets comes to its end, and the compiler is about to be called, each of its files is a
regular file. The exception are files that look like wrappers of the library but belong to no script of it: they are
removed in the turn of the library, and a set before the library may have listed them. -/
theorem handOver_present {settings : Settings} {intermediate : FilePath} {encoding : String} {root cwd : FilePath}
    {ds : List Declaration} {sets : List SourceSet} {b handed : Build} {g : Gathered}
    (hsets : SourceSet.normalize root cwd ds = .ok sets) (hran : b.compiler.ran = false)
    (hfiles : b.compiler.files = []) (hfree : b.world.disk.tree.LinkFree) (hwell : b.world.disk.tree.WellFormed)
    (h : (handOver settings sets intermediate encoding).runFrom b = (.ok g, handed)) :
    ∀ p ∈ handed.compiler.files, handed.world.disk.LeadsToFile p ∨
      ∃ pre lib post scripts, sets = pre ++ lib :: post ∧ lib.isLibrary = true ∧
        b.world.disk.scan lib = .ok scripts ∧
        Library.Stale (Library.package :: b.world.disk.place intermediate) scripts (b.world.disk.place p) ∧
        handed.world.disk.tree.data? (b.world.disk.place p) = none ∧
        ∃ s ∈ pre, ∃ names, p = s.directory.descend names := by
  intro p hp
  rcases handOver_spec settings intermediate encoding b (SourceSet.normalize_modes hsets) with
    ⟨ts, w, g', handed', text, hturns, hhanded, hbooked, -, -, hworld⟩ | ⟨e, w, b', _, _, -, hhanded, -⟩ | ⟨hran', -⟩
  · cases hhanded.symm.trans h
    rw [hbooked.compiler, hfiles, List.nil_append, List.mem_eraseDups] at hp
    have hdisk : handed.world.disk = w.disk := by rw [hworld]
    rw [hdisk]
    exact Turn.leadsToFile_of_mem_paths (SourceSet.normalize_libraries hsets) hfree hwell.allNamed hturns hp
  · cases hhanded.symm.trans h
  · cases hran.symm.trans hran'

/-- Whatever source sets are settled for a tree without links, all files handed over are there when the compiler is
called. -/
def HandsOverPresent : Prop :=
  ∀ settings encoding root cwd ds sets b g handed, SourceSet.normalize root cwd ds = .ok sets →
    b.compiler.ran = false → b.compiler.files = [] → b.world.disk.tree.LinkFree → b.world.disk.tree.WellFormed →
    (handOver settings sets (Config.intermediateFor settings.scope settings.root) encoding).runFrom b =
      (.ok g, handed) →
    ∀ p ∈ handed.compiler.files, handed.world.disk.LeadsToFile p

/-- A project with a library without scripts, and with the wrapper of a script that is gone. -/
def staleSample : Build where
  world :=
    { disk :=
        { tree :=
            { entries := [([], .dir .now), (["p"], .dir .now), (["vars", "p"], .dir .now), (["target", "p"], .dir .now),
                (["generated-sources", "target", "p"], .dir .now),
                (["globalVarsTmp", "generated-sources", "target", "p"], .dir .now),
                (["globalvars", "globalVarsTmp", "generated-sources", "target", "p"], .dir .now),
                (["VarOLD.groovy", "globalvars", "globalVarsTmp", "generated-sources", "target", "p"],
                  .file [35, 10] .now .now)]
              nodup := by decide }
          cwd := ⟨.slash, ["p"]⟩ }
      moment := ⟨2024, 1, 2, 3, 4, 5, 0⟩ }
  compiler := { engine := .dry, target? := some ⟨.slash, ["p", "stubs"]⟩ }
  host := Project.host nestedSettings {}

def targetSet : SourceSet :=
  ⟨⟨.slash, ["p", "target"]⟩, ["**"], [], none, none, .plain⟩

def emptyLibrary : SourceSet :=
  ⟨⟨.slash, ["p", "vars"]⟩, ["**"], [], none, none, .globalVars⟩

def staleIntermediate : FilePath :=
  Config.intermediateFor nestedSettings.scope nestedSettings.root

def staleWrapper : FilePath :=
  ⟨.slash, ["p", "target", "generated-sources", "globalVarsTmp", "globalvars", "VarOLD.groovy"]⟩

theorem handOver_staleSample :
    ∃ g handed, (handOver nestedSettings [targetSet, emptyLibrary] staleIntermediate "utf-8").runFrom staleSample =
        (.ok g, handed) ∧
      staleWrapper ∈ handed.compiler.files ∧ ¬handed.world.disk.LeadsToFile staleWrapper := by
  have hscan : staleSample.world.disk.scan targetSet = .ok [⟨staleWrapper, "VarOLD.groovy"⟩] :=
    ok_of_toOption (by decide +kernel)
  have hready : let (result, w) :=
      (Library.publish nestedSettings emptyLibrary staleIntermediate "utf-8").runFrom staleSample.world
      result.isOk = true ∧ w.disk.Scannable (Library.publishedSet emptyLibrary staleIntermediate) ∧
        w.disk.tree.data? (w.disk.place staleWrapper) = none := by
    decide +kernel
  rcases hpublish : (Library.publish nestedSettings emptyLibrary staleIntermediate "utf-8").runFrom staleSample.world with
    ⟨r, w⟩
  rw [hpublish] at hready
  obtain ⟨hok, hscannable, hgone⟩ := hready
  cases r with
  | error e => cases hok
  | ok q =>
    obtain ⟨found, hfound⟩ := hscannable.scan SuffixMapping.standard
    have hset : q.sourceSet = Library.publishedSet emptyLibrary staleIntermediate :=
      (Library.publish_sourceSet hpublish).1
    have hall : (Turn.takeAll nestedSettings staleIntermediate "utf-8" [targetSet, emptyLibrary]).runFrom
        staleSample.world = (.ok [⟨targetSet, none, [⟨staleWrapper, "VarOLD.groovy"⟩]⟩,
          ⟨q.sourceSet, some q, found⟩], w) := by
      rw [Turn.takeAll, Acting.runFrom_bind_of_ok (Turn.take_of_scan rfl hscan), Turn.takeAll, Acting.runFrom_bind,
        Acting.runFrom_bind_of_ok (Turn.take_of_publish rfl hpublish (hset ▸ hfound))]
      rfl
    obtain ⟨g, handed, hhanded, hfiles, hdisk⟩ := handOver_of_takeAll (by decide) rfl hall
    refine ⟨g, handed, hhanded, ?_, fun hleads => ?_⟩
    · rw [hfiles]
      simp [staleSample, Turn.paths]
    · have hsome := hleads.data?
      rw [hdisk, hgone] at hsome
      cases hsome

/-- In the sample the wrapper that was listed and removed is stale for the library. -/
theorem stale_of_staleSample :
    SourceSet.normalize ⟨.slash, ["p"]⟩ ⟨.slash, ["p"]⟩ ([targetSet, emptyLibrary].map SourceSet.declaration) =
        .ok [targetSet, emptyLibrary] ∧
      staleSample.compiler.ran = false ∧ staleSample.compiler.files = [] ∧
      staleSample.world.disk.tree.LinkFree ∧ staleSample.world.disk.tree.WellFormed ∧
      ∃ g handed lib scripts, (handOver nestedSettings [targetSet, emptyLibrary] staleIntermediate "utf-8").runFrom
          staleSample = (.ok g, handed) ∧
        staleWrapper ∈ handed.compiler.files ∧ lib ∈ [targetSet, emptyLibrary] ∧ lib.isLibrary = true ∧
        staleSample.world.disk.scan lib = .ok scripts ∧
        Library.Stale ["globalvars", "globalVarsTmp", "generated-sources", "target", "p"] scripts
          (staleSample.world.disk.place staleWrapper) := by
  have hsets : SourceSet.normalize ⟨.slash, ["p"]⟩ ⟨.slash, ["p"]⟩ ([targetSet, emptyLibrary].map SourceSet.declaration) =
    .ok [targetSet, emptyLibrary] := rfl
  have hfree : staleSample.world.disk.tree.LinkFree := by decide +kernel
  have hwell : staleSample.world.disk.tree.WellFormed := by decide +kernel
  refine ⟨hsets, rfl, rfl, hfree, hwell, ?_⟩
  obtain ⟨g, handed, hrun, hmem, hgone⟩ := handOver_staleSample
  rcases handOver_present hsets rfl rfl hfree hwell hrun staleWrapper hmem with
    hleads | ⟨pre, lib, post, scripts, hsplit, hlib, hscan, hstale, -⟩
  · exact absurd hleads hgone
  · exact ⟨g, handed, lib, scripts, hrun, hmem, by simp [hsplit], hlib, hscan, hstale⟩

/-- A file handed over may be gone when the compiler is called. -/
theorem handed_over_file_may_be_gone : ¬HandsOverPresent := by
  intro h
  obtain ⟨g, handed, hrun, hmem, hgone⟩ := handOver_staleSample
  exact hgone (h nestedSettings _ ⟨.slash, ["p"]⟩ ⟨.slash, ["p"]⟩ ([targetSet, emptyLibrary].map SourceSet.declaration) _ _ _ _
    rfl rfl rfl (by decide +kernel) (by decide +kernel) hrun _ hmem)

end BuildAction

end JavaStubs
