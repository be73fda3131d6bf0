import JavaStubs.Proofs.Build.Books
import JavaStubs.Proofs.Library.Found

/-! Which generated files reach the compiler. The includes of a library are asked twice, for its scripts and for the
files made of them, so that a file is handed over if they pick it at its new place. -/
namespace JavaStubs.BuildAction

open Library

variable {settings : Settings} {intermediate : FilePath} {encoding : String}

def HandedOver (b : Build) (p : FilePath) : Prop :=
  p ∈ b.compiler.files ∧ p ∈ b.host.forced

theorem Booked.handedOver {b₀ b : Build} {paths roots : List FilePath} (h : Booked b₀ b paths roots) {p : FilePath}
    (hp : p ∈ paths) : HandedOver b p := by
  constructor
  · rw [h.compiler]
    exact List.mem_append_right _ (List.mem_eraseDups.2 hp)
  · rw [h.forced]
    exact mem_foldl_addNew.2 (.inr hp)

/-- If handing over settled sets comes to its end, then the wrappers of the library's scripts and the registry have
been handed over, as far as the includes of the library pick them where they are generated. Its excludes and the
standard ones leave none of them out. -/
theorem handOver_generated {root cwd : FilePath} {ds : List Declaration} {sets : List SourceSet} {b handed : Build}
    {g : Gathered} {s : SourceSet} (hsets : SourceSet.normalize root cwd ds = .ok sets) (hs : s ∈ sets)
    (hlib : s.isLibrary = true) (hwell : b.world.disk.tree.WellFormed)
    (h : (handOver settings sets intermediate encoding).runFrom b = (.ok g, handed))
    (hlinked : ¬PackageLinked handed.world.disk intermediate) :
    ∃ scripts, b.world.disk.scan s = .ok scripts ∧
      (∀ x ∈ scripts,
        Pattern.anyPicks s.effectiveIncludes (Text.join "/" [package, classOf x ++ scriptSuffix]) = true →
          HandedOver handed ((wrapperOf intermediate x).generated.absolute b.world.disk.cwd)) ∧
      (Pattern.anyPicks s.effectiveIncludes (registryStem ++ scriptSuffix) = true →
        HandedOver handed ((registryPath intermediate).absolute b.world.disk.cwd)) := by
  rcases handOver_spec settings intermediate encoding b (SourceSet.normalize_modes hsets) with
    ⟨ts, w, g', handed', text, hturns, hhanded, hbooked, -, -, hworld⟩ | ⟨e, w, b', _, _, -, hhanded, -⟩ |
    ⟨-, e, b', hhanded⟩
  · cases hhanded.symm.trans h
    -- no other set changes anything, so that the library is published in the first world
    obtain ⟨t, ht, htake⟩ := Turn.take_of_takeAll (SourceSet.normalize_libraries hsets) hturns hs hlib
    obtain ⟨hstand, hscan, -⟩ := Turn.take_ok htake
    obtain ⟨p, hpublish, hset⟩ := Turn.publish_of_standIn hlib hstand
    rw [hworld] at hlinked
    rw [show t.effective = p.sourceSet from hset] at hscan
    obtain ⟨scripts, hscripts, hclasses, hregistry⟩ := found_of_publish hwell hpublish hlinked hscan
    have hpaths : ∀ {q}, q ∈ t.scripts.map (·.path) → HandedOver handed q := fun hq =>
      hbooked.handedOver (List.mem_flatMap.2 ⟨t, ht, hq⟩)
    exact ⟨scripts, hscripts, fun x hx hpicked => hpaths (hclasses x hx hpicked), fun hpicked => hpaths (hregistry hpicked)⟩
  · cases hhanded.symm.trans h
  · cases hhanded.symm.trans h

theorem handOver_library {b : Build} {s : SourceSet} {p : Published} {w : World} {found : List Script}
    (hran : b.compiler.ran = false) (hlib : s.isLibrary = true)
    (hpublish : (publish settings s intermediate encoding).runFrom b.world = (.ok p, w))
    (hscan : w.disk.scan p.sourceSet = .ok found) :
    ∃ g handed, (handOver settings [s] intermediate encoding).runFrom b = (.ok g, handed) ∧
      handed.compiler.files = b.compiler.files ++ (found.map (·.path)).eraseDups ∧ handed.world.disk = w.disk := by
  have htake := Turn.take_of_publish hlib hpublish hscan
  have hall : (Turn.takeAll settings intermediate encoding [s]).runFrom b.world = (.ok [⟨p.sourceSet, some p, found⟩], w) := by
    rw [Turn.takeAll, Acting.runFrom_bind_of_ok htake]
    rfl
  have hmodes : ∀ x ∈ [s], x.mode ≠ .auto := by
    intro x hx hauto
    rw [List.mem_singleton.1 hx] at hauto
    rw [SourceSet.isLibrary, hauto] at hlib
    cases hlib
  have hhanded := handOver_of_takeAll hmodes hran hall
  simpa only [Turn.paths, List.flatMap_cons, List.flatMap_nil, List.append_nil] using hhanded

def fooSample (entries : List (Loc × Entry))
    (nodup : (([], Entry.dir .now) :: (["p"], .dir .now) :: (["lib", "p"], .dir .now) ::
      (["foo.groovy", "lib", "p"], .file [35, 10] .now .now) :: entries |>.map (·.1)).Nodup := by decide) : Build where
  world :=
    { disk := { tree := ⟨_, nodup⟩, cwd := ⟨.slash, ["p"]⟩ }
      moment := ⟨2024, 1, 2, 3, 4, 5, 0⟩ }
  compiler := { engine := .dry, target? := some ⟨.slash, ["p", "stubs"]⟩ }
  host := Project.host nestedSettings {}

def fooLibrary (includes : List String) : SourceSet :=
  ⟨⟨.slash, ["p", "lib"]⟩, includes, [], none, none, .globalVars⟩

def fooOut : FilePath := ⟨.slash, ["p", "out"]⟩

def fooScript : Script := ⟨⟨.slash, ["p", "lib", "foo.groovy"]⟩, "foo.groovy"⟩

/-- Whether the library of a sample can be published and then scanned, with no listing refused. -/
def fooReady (b : Build) (includes : List String) : Bool :=
  let (result, w) := (publish nestedSettings (fooLibrary includes) fooOut "utf-8").runFrom b.world
  result.isOk && w.disk.Scannable (publishedSet (fooLibrary includes) fooOut)

theorem handOver_of_fooReady {b : Build} {includes : List String} (hran : b.compiler.ran = false)
    (hnone : b.compiler.files = []) (hready : fooReady b includes = true) :
    ∃ p w found g handed,
      (publish nestedSettings (fooLibrary includes) fooOut "utf-8").runFrom b.world = (.ok p, w) ∧
      w.disk.scan (publishedSet (fooLibrary includes) fooOut) = .ok found ∧
      (handOver nestedSettings [fooLibrary includes] fooOut "utf-8").runFrom b = (.ok g, handed) ∧
      handed.compiler.files = (found.map (·.path)).eraseDups ∧ handed.world.disk = w.disk := by
  unfold fooReady at hready
  rcases hrun : (publish nestedSettings (fooLibrary includes) fooOut "utf-8").runFrom b.world with ⟨r, w⟩
  rw [hrun] at hready
  rw [Bool.and_eq_true, decide_eq_true_eq] at hready
  obtain ⟨hok, hscannable⟩ := hready
  cases r with
  | error e => cases hok
  | ok p =>
    obtain ⟨found, hscan⟩ := hscannable.scan SuffixMapping.standard
    have hset : p.sourceSet = publishedSet (fooLibrary includes) fooOut := (publish_sourceSet hrun).1
    have hscan' : w.disk.scan p.sourceSet = .ok found := hset ▸ hscan
    obtain ⟨g, handed, hhanded, hfiles, hdisk⟩ := handOver_library hran rfl hrun hscan'
    rw [hnone, List.nil_append] at hfiles
    exact ⟨p, w, found, g, handed, rfl, hscan, hhanded, hfiles, hdisk⟩

theorem normalize_fooLibrary :
    SourceSet.normalize ⟨.slash, ["p"]⟩ ⟨.slash, ["p"]⟩ [(fooLibrary SourceSet.defaultIncludes).declaration] =
      .ok [fooLibrary SourceSet.defaultIncludes] :=
  rfl

theorem scan_fooSample : (fooSample []).world.disk.scan (fooLibrary SourceSet.defaultIncludes) = .ok [fooScript] :=
  ok_of_toOption (by decide +kernel)

/-- In the sample, the default pattern picks all that is generated. -/
theorem handedOver_fooSample :
    ∃ g handed, (handOver nestedSettings [fooLibrary SourceSet.defaultIncludes] fooOut "utf-8").runFrom (fooSample []) =
        (.ok g, handed) ∧
      (fooSample []).world.disk.tree.WellFormed ∧ ¬PackageLinked handed.world.disk fooOut ∧
      HandedOver handed ⟨.slash, ["p", "out", "globalvars", "VarFOO.groovy"]⟩ ∧
      HandedOver handed ⟨.slash, ["p", "out", "Vars.groovy"]⟩ := by
  have hready : fooReady (fooSample []) SourceSet.defaultIncludes = true := by decide +kernel
  obtain ⟨p, w, found, g, handed, hpublish, -, hhanded, -, hdisk⟩ := handOver_of_fooReady rfl rfl hready
  have hwell : (fooSample []).world.disk.tree.WellFormed := by decide +kernel
  have hlinked : ¬PackageLinked handed.world.disk fooOut := by
    rw [hdisk]
    exact not_packageLinked (publish_touches (by decide +kernel) hpublish).1
  obtain ⟨scripts, hscripts, hclasses, hregistry⟩ :=
    handOver_generated (s := fooLibrary SourceSet.defaultIncludes) (normalize_fooLibrary) List.mem_cons_self rfl
      hwell hhanded hlinked
  cases hscripts.symm.trans scan_fooSample
  refine ⟨g, handed, hhanded, hwell, hlinked, ?_, hregistry default_picks_registry⟩
  exact hclasses fooScript List.mem_cons_self (default_picks_class (by decide))

/-- The sample with a link to another directory where the package directory would be. -/
def fooLinked : Build :=
  fooSample [(["out", "p"], .dir .now), (["elsewhere", "p"], .dir .now),
    (["globalvars", "out", "p"], .link "../elsewhere")]

/-- If handing over settled sets comes to its end, then the host and the compiler have every wrapper of the library, for
states and libraries of some kind. -/
def KeepsWrappers (kind : Build → SourceSet → Prop) : Prop :=
  ∀ settings intermediate encoding root cwd ds sets b g handed s scripts, kind b s →
    SourceSet.normalize root cwd ds = .ok sets → s ∈ sets → s.isLibrary = true →
    (handOver settings sets intermediate encoding).runFrom b = (.ok g, handed) → b.world.disk.scan s = .ok scripts →
    ∀ x ∈ scripts, HandedOver handed ((wrapperOf intermediate x).generated.absolute b.world.disk.cwd)

/-- A wrapper may be lost even without links, by includes that pick a script and not its wrapper. With the default
includes it may be lost too, by a link that stands for the package directory. -/
theorem wrapper_may_be_lost : ¬KeepsWrappers (fun b _ => b.world.disk.tree.LinkFree) ∧
    ¬KeepsWrappers fun _ s => s.includes = SourceSet.defaultIncludes := by
  constructor
  · intro h
    have hready : fooReady (fooSample []) ["*.groovy"] = true := by decide +kernel
    obtain ⟨p, w, found, g, handed, -, hscan, hhanded, hfiles, -⟩ := handOver_of_fooReady rfl rfl hready
    have hscripts : (fooSample []).world.disk.scan (fooLibrary ["*.groovy"]) = .ok [fooScript] :=
      ok_of_toOption (by decide +kernel)
    have hkept := (h _ _ _ ⟨.slash, ["p"]⟩ ⟨.slash, ["p"]⟩ [(fooLibrary ["*.groovy"]).declaration] _ _ _ _ _ _
      (by decide +kernel) rfl List.mem_cons_self rfl hhanded hscripts fooScript List.mem_cons_self).1
    rw [hfiles, List.mem_eraseDups] at hkept
    obtain ⟨-, -, -, -, hselects⟩ :=
      (Disk.descend_mem_scan hscan ["globalvars", "VarFOO.groovy"]).1 hkept
    revert hselects
    decide +kernel
  · intro h
    have hready : fooReady fooLinked SourceSet.defaultIncludes = true := by decide +kernel
    obtain ⟨p, w, found, g, handed, hpublish, hscan, hhanded, hfiles, -⟩ := handOver_of_fooReady rfl rfl hready
    have hscripts : fooLinked.world.disk.scan (fooLibrary SourceSet.defaultIncludes) = .ok [fooScript] :=
      ok_of_toOption (by decide +kernel)
    have hkept := (h _ _ _ _ _ _ _ _ _ _ _ _ rfl normalize_fooLibrary List.mem_cons_self rfl hhanded hscripts fooScript
      List.mem_cons_self).1
    rw [hfiles, List.mem_eraseDups] at hkept
    obtain ⟨l, m, hstat, hleaf, -⟩ :=
      (Disk.descend_mem_scan hscan ["globalvars", "VarFOO.groovy"]).1 hkept
    obtain ⟨hdir, -⟩ := (Disk.isLeaf_cons (List.cons_ne_nil _ _)).1 hleaf
    have hw : w = _ := (congrArg Prod.snd hpublish).symm
    have hl : (w.disk.stat fooOut).toOption.map (·.1) = some ["out", "p"] := by
      rw [hw]
      decide +kernel
    have hnone : w.disk.tree.isDir ["globalvars", "out", "p"] = false := by
      rw [hw]
      decide +kernel
    rw [show w.disk.stat fooOut = .ok (l, .dir m) from hstat] at hl
    cases hl
    cases hdir.symm.trans hnone

end JavaStubs.BuildAction
