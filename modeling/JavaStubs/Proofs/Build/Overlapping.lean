import JavaStubs.Proofs.Build.Again
import JavaStubs.Proofs.Build.DryRun
import JavaStubs.Proofs.Build.HandedOver

/-! Files that lie under the directory of a library. The library's own turn hands over what was generated from them;
they themselves are handed over only where a plain set lists them too. -/
namespace JavaStubs

open FileTree

namespace Turn

variable {settings : Settings} {intermediate : FilePath} {encoding : String} {w w' : World} {p : FilePath}

variable (settings intermediate encoding) in
def ListedPlainly (sets : List SourceSet) (w : World) (p : FilePath) : Prop :=
  ∃ before s after us w₁ scripts, sets = before ++ s :: after ∧ ¬s.isLibrary = true ∧
    (takeAll settings intermediate encoding before).runFrom w = (.ok us, w₁) ∧
    w₁.disk.scan s = .ok scripts ∧ p ∈ scripts.map (·.path)

theorem takeAll_append_ok {pre post : List SourceSet} {ts : List Turn}
    (h : (takeAll settings intermediate encoding (pre ++ post)).runFrom w = (.ok ts, w')) :
    ∃ us vs w₁, (takeAll settings intermediate encoding pre).runFrom w = (.ok us, w₁) ∧
      (takeAll settings intermediate encoding post).runFrom w₁ = (.ok vs, w') ∧ ts = us ++ vs := by
  induction pre generalizing w ts with
  | nil => exact ⟨[], ts, w, rfl, h, rfl⟩
  | cons s ss ih =>
    obtain ⟨t, ts', w₁, ht, hts, rfl⟩ := takeAll_cons_ok h
    obtain ⟨us, vs, w₂, hus, hvs, rfl⟩ := ih hts
    refine ⟨t :: us, vs, w₂, ?_, hvs, rfl⟩
    rw [takeAll, Acting.runFrom_bind_of_ok ht, Acting.runFrom_bind_of_ok hus]
    rfl

theorem mem_paths_of_listedPlainly {sets : List SourceSet} {ts : List Turn}
    (h : (takeAll settings intermediate encoding sets).runFrom w = (.ok ts, w'))
    (hp : ListedPlainly settings intermediate encoding sets w p) : p ∈ paths ts := by
  obtain ⟨before, s, after, us, w₁, scripts, rfl, hplain, hbefore, hscan, hp⟩ := hp
  obtain ⟨us', vs, w₂, hbefore', hrest, rfl⟩ := takeAll_append_ok h
  cases hbefore.symm.trans hbefore'
  obtain ⟨t, vs', w₃, htake, -, rfl⟩ := takeAll_cons_ok hrest
  cases hscan.symm.trans (scan_of_take hplain htake).2
  obtain ⟨x, hx, rfl⟩ := List.mem_map.1 hp
  exact mem_paths.2 ⟨t, by simp, x, hx, rfl⟩

theorem below_of_take_library {s : SourceSet} {t : Turn} (hnamed : w.disk.tree.Named) (hlib : s.isLibrary = true)
    (h : (take settings intermediate encoding s).runFrom w = (.ok t, w')) {x : Script} (hx : x ∈ t.scripts) :
    Below (w.disk.place intermediate) (w.disk.place x.path) := by
  have halters := take_alters settings intermediate encoding s w
  rw [h] at halters
  obtain ⟨-, hscan, -⟩ := take_ok h
  obtain ⟨habs, l, m, -, hmem⟩ := Disk.scan_ok hscan
  obtain ⟨names, hleaf, -, rfl⟩ := (hmem x).1 hx
  have hdir : t.effective.directory = intermediate.absolute w.disk.cwd := by
    rw [directory_of_take h, scanned, if_pos hlib]
  rw [Disk.ofPath_descend habs, hdir, w.disk.place_descend _ (hleaf.entryName (halters.tree.named hnamed))]
  rw [hdir] at habs
  have hplace : w.disk.place (intermediate.absolute w.disk.cwd) = w.disk.place intermediate := by
    rw [Disk.place, FilePath.absolute_of_isAbsolute habs, Disk.place]
  rw [hplace]
  exact List.suffix_append _ _

theorem mem_paths_iff_listedPlainly {sets : List SourceSet} {ts : List Turn} {dir : FilePath}
    (hnamed : w.disk.tree.Named) (hapart : ¬Below (w.disk.place dir) (w.disk.place intermediate))
    (hapart' : ¬Below (w.disk.place intermediate) (w.disk.place dir))
    (h : (takeAll settings intermediate encoding sets).runFrom w = (.ok ts, w'))
    (hp : Below (w.disk.place dir) (w.disk.place p)) :
    p ∈ paths ts ↔ ListedPlainly settings intermediate encoding sets w p := by
  refine ⟨fun hmem => ?_, mem_paths_of_listedPlainly h⟩
  obtain ⟨t, ht, x, hx, rfl⟩ := mem_paths.1 hmem
  obtain ⟨pre, s, post, before, after, w₁, w₂, rfl, hbefore, htake, -⟩ := split_of_mem_takeAll h ht
  by_cases hlib : s.isLibrary = true
  · have halters := takeAll_alters settings intermediate encoding pre w
    rw [hbefore] at halters
    have hbelow := below_of_take_library (halters.tree.named hnamed) hlib htake hx
    rw [Disk.place_eq halters.cwd, Disk.place_eq halters.cwd] at hbelow
    exact absurd hbelow (not_below_of_apart hapart hapart' hp)
  · exact ⟨pre, s, post, before, w₁, t.scripts, rfl, hlib, hbefore, (scan_of_take hlib htake).2, List.mem_map_of_mem hx⟩

end Turn

namespace BuildAction

open Library

variable {settings : Settings} {intermediate root cwd : FilePath} {encoding : String} {ds : List Declaration}
variable {sets : List SourceSet} {b b' : Build} {r : Except Failure Outcome}

/-- However a build of settled sets with a fresh compiler ends: the sets at the beginning of the list have had their
turns, and a file below the directory of a library that is apart from the intermediate root went to the compiler and to
the host if and only if a plain set listed it in its turn. -/
theorem handed_iff_listedPlainly (hsets : SourceSet.normalize root cwd ds = .ok sets) (hran : b.compiler.ran = false)
    (hfiles : b.compiler.files = []) (hforced : b.host.forced = []) (hwell : b.world.disk.tree.WellFormed)
    (h : (compileSources settings sets intermediate encoding).runFrom b = (r, b')) :
    ∃ pre, pre <+: sets ∧ ∀ lib ∈ sets, lib.isLibrary = true →
      ¬Below (b.world.disk.place lib.directory) (b.world.disk.place intermediate) →
      ¬Below (b.world.disk.place intermediate) (b.world.disk.place lib.directory) →
      ∀ p, Below (b.world.disk.place lib.directory) (b.world.disk.place p) →
        (p ∈ b'.compiler.files ↔ Turn.ListedPlainly settings intermediate encoding pre b.world p) ∧
        (p ∈ b'.host.forced ↔ Turn.ListedPlainly settings intermediate encoding pre b.world p) := by
  obtain ⟨pre, ts, w, hpre, hturns, hcompiler, hhost⟩ :=
    files_of_compileSources (SourceSet.normalize_modes hsets) hran hfiles h
  refine ⟨pre, hpre, fun lib _ _ hapart hapart' p hp => ?_⟩
  have hlisted := Turn.mem_paths_iff_listedPlainly hwell.allNamed hapart hapart' hturns hp
  rw [hcompiler, hhost, List.mem_eraseDups, mem_foldl_addNew, hforced]
  exact ⟨hlisted, by simpa using hlisted⟩

/-- Whatever source sets are settled for a tree without links, a library of them that does not contain the intermediate
root keeps its files from the compiler and the host, for locations of the two and lists of sets of some kind. -/
def KeepsScriptsBack (kind : Loc → Loc → List SourceSet → Prop) : Prop :=
  ∀ settings intermediate encoding root cwd ds sets b b' r lib p, SourceSet.normalize root cwd ds = .ok sets →
    lib ∈ sets → lib.isLibrary = true → b.compiler.ran = false → b.compiler.files = [] → b.host.forced = [] →
    b.world.disk.tree.LinkFree → b.world.disk.tree.WellFormed →
    ¬Below (b.world.disk.place lib.directory) (b.world.disk.place intermediate) →
    kind (b.world.disk.place lib.directory) (b.world.disk.place intermediate) sets →
    (compileSources settings sets intermediate encoding).runFrom b = (r, b') →
    Below (b.world.disk.place lib.directory) (b.world.disk.place p) → p ∉ b'.compiler.files ∧ p ∉ b'.host.forced

def wholeRoot : FilePath :=
  ⟨.slash, ["p"]⟩

def wholeSet : SourceSet :=
  ⟨wholeRoot, SourceSet.defaultIncludes, [], none, none, .plain⟩

def defaultLibrary : SourceSet :=
  fooLibrary SourceSet.defaultIncludes

theorem normalize_wholeSet :
    SourceSet.normalize wholeRoot wholeRoot ([wholeSet, defaultLibrary].map SourceSet.declaration) =
      .ok [wholeSet, defaultLibrary] :=
  rfl

theorem script_of_wholeSet :
    ∃ r b', (compileSources nestedSettings [wholeSet, defaultLibrary] fooOut "utf-8").runFrom (fooSample []) = (r, b') ∧
      fooScript.path ∈ b'.compiler.files := by
  have hscan : (fooSample []).world.disk.scan wholeSet = .ok [fooScript] := ok_of_toOption (by decide +kernel)
  have hready : fooReady (fooSample []) SourceSet.defaultIncludes = true := by decide +kernel
  obtain ⟨p, w, found, -, -, hpublish, hfound, -, -, -⟩ := handOver_of_fooReady rfl rfl hready
  have hset : p.sourceSet = publishedSet defaultLibrary fooOut := (publish_sourceSet hpublish).1
  have hlibrary := Turn.take_of_publish (s := defaultLibrary) rfl hpublish (hset ▸ hfound)
  have hturns : (Turn.takeAll nestedSettings fooOut "utf-8" [wholeSet, defaultLibrary]).runFrom (fooSample []).world =
      (.ok [⟨wholeSet, none, [fooScript]⟩, ⟨p.sourceSet, some p, found⟩], w) := by
    rw [Turn.takeAll, Acting.runFrom_bind_of_ok (Turn.take_of_scan rfl hscan), Turn.takeAll, Acting.runFrom_bind,
      Acting.runFrom_bind_of_ok hlibrary]
    rfl
  obtain ⟨outcome, b', text, hrun, -, -, hfiles, -⟩ :=
    compileSources_of_takeAll (b := fooSample []) (SourceSet.normalize_modes normalize_wholeSet) rfl rfl rfl hturns
  refine ⟨_, b', hrun, ?_⟩
  rw [hfiles]
  simp [fooSample, Turn.paths]

/-- In the sample, the script is listed by a plain set in its turn. -/
theorem listedPlainly_of_wholeSet :
    SourceSet.normalize wholeRoot wholeRoot ([wholeSet, defaultLibrary].map SourceSet.declaration) =
        .ok [wholeSet, defaultLibrary] ∧
      (fooSample []).compiler.ran = false ∧ (fooSample []).compiler.files = [] ∧ (fooSample []).host.forced = [] ∧
      (fooSample []).world.disk.tree.WellFormed ∧
      ∃ r b' pre, (compileSources nestedSettings [wholeSet, defaultLibrary] fooOut "utf-8").runFrom (fooSample []) =
          (r, b') ∧
        fooScript.path ∈ b'.compiler.files ∧ fooScript.path ∈ b'.host.forced ∧ pre <+: [wholeSet, defaultLibrary] ∧
        Turn.ListedPlainly nestedSettings fooOut "utf-8" pre (fooSample []).world fooScript.path := by
  have hwell : (fooSample []).world.disk.tree.WellFormed := by decide +kernel
  obtain ⟨r, b', hrun, hmem⟩ := script_of_wholeSet
  obtain ⟨pre, hpre, hiff⟩ := handed_iff_listedPlainly normalize_wholeSet rfl rfl rfl hwell hrun
  obtain ⟨hcompiler, hhost⟩ := hiff defaultLibrary (List.mem_cons_of_mem _ List.mem_cons_self) rfl (by decide +kernel)
    (by decide +kernel) fooScript.path (by decide +kernel)
  have hlisted := hcompiler.1 hmem
  exact ⟨normalize_wholeSet, rfl, rfl, rfl, hwell, r, b', pre, hrun, hmem, hhost.2 hlisted, hpre, hlisted⟩

def rootReady (b : Build) : Bool :=
  let (result, w) := (publish nestedSettings defaultLibrary wholeRoot "utf-8").runFrom b.world
  result.isOk && w.disk.Scannable (publishedSet defaultLibrary wholeRoot) && w.disk.cwd = wholeRoot &&
    w.disk.tree.LinkFree && w.disk.tree.WellFormed && (w.disk.tree.data? ["foo.groovy", "lib", "p"]).isSome

/-- In the sample with the project as the intermediate root, the library's own turn hands over its script. -/
theorem script_of_wholeRoot :
    ∃ r b', (compileSources nestedSettings [defaultLibrary] wholeRoot "utf-8").runFrom (fooSample []) = (r, b') ∧
      fooScript.path ∈ b'.compiler.files := by
  have hready : rootReady (fooSample []) = true := by decide +kernel
  unfold rootReady at hready
  rcases hpublish : (publish nestedSettings defaultLibrary wholeRoot "utf-8").runFrom (fooSample []).world with ⟨r, w⟩
  rw [hpublish] at hready
  simp only [Bool.and_eq_true, decide_eq_true_eq] at hready
  obtain ⟨⟨⟨⟨⟨hok, hscannable⟩, hcwd⟩, hfree⟩, hwell⟩, hdata⟩ := hready
  cases r with
  | error e => cases hok
  | ok p =>
    obtain ⟨found, hfound⟩ := hscannable.scan SuffixMapping.standard
    have hset : p.sourceSet = publishedSet defaultLibrary wholeRoot := (publish_sourceSet hpublish).1
    have hturns : (Turn.takeAll nestedSettings wholeRoot "utf-8" [defaultLibrary]).runFrom (fooSample []).world =
        (.ok [⟨p.sourceSet, some p, found⟩], w) := by
      rw [Turn.takeAll, Acting.runFrom_bind_of_ok (Turn.take_of_publish rfl hpublish (hset ▸ hfound))]
      rfl
    obtain ⟨outcome, b', text, hrun, -, -, hfiles, -⟩ :=
      compileSources_of_takeAll (b := fooSample []) (by decide) rfl rfl rfl hturns
    have hscript : fooScript ∈ found := by
      refine (Disk.mem_scan hfree hwell hfound).2 ⟨["lib", "foo.groovy"], List.cons_ne_nil _ _, hdata, ?_, ?_⟩
      · decide +kernel
      · rw [hcwd]
        rfl
    refine ⟨_, b', hrun, ?_⟩
    rw [hfiles]
    simpa [fooSample, Turn.paths] using ⟨fooScript, hscript, rfl⟩

/-- A script of a library may reach the compiler itself: by a plain set around the library, even if the library is apart
from the intermediate root, and by its own turn, if it is below that root. -/
theorem script_may_be_handed_over : ¬KeepsScriptsBack (fun dir root _ => ¬Below root dir) ∧
    ¬KeepsScriptsBack fun _ _ sets => ∀ s ∈ sets, s.isLibrary = true := by
  constructor
  · intro h
    obtain ⟨r, b', hrun, hmem⟩ := script_of_wholeSet
    have hkept := h nestedSettings fooOut "utf-8" _ _ _ _ _ _ _ defaultLibrary fooScript.path normalize_wholeSet
      (List.mem_cons_of_mem _ List.mem_cons_self) rfl rfl rfl rfl (by decide +kernel) (by decide +kernel)
      (by decide +kernel) (by decide +kernel) hrun (by decide +kernel)
    exact hkept.1 hmem
  · intro h
    obtain ⟨r, b', hrun, hmem⟩ := script_of_wholeRoot
    have hkept := h nestedSettings wholeRoot "utf-8" wholeRoot wholeRoot [defaultLibrary.declaration] _ _ _ _
      defaultLibrary fooScript.path normalize_fooLibrary List.mem_cons_self rfl rfl rfl rfl (by decide +kernel)
      (by decide +kernel) (by decide +kernel) (by simp; rfl) hrun (by decide +kernel)
    exact hkept.1 hmem

end BuildAction
end JavaStubs
