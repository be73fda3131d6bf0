import JavaStubs.Proofs.Build.Requests
import JavaStubs.Proofs.Build.Rerun
import JavaStubs.Proofs.Config.Encoding
import JavaStubs.Proofs.Library.Encoded

/-! A build tells its compiler the encoding in which it has read and written the scripts of its library. -/
namespace JavaStubs

open FileTree

theorem Disk.not_linked {d : Disk} (h : d.tree.LinkFree) (p : FilePath) : ¬d.Linked p := by
  rintro ⟨l, e, target, -, hlink⟩
  exact h _ _ (content?_of_get? hlink)

namespace Compiler

theorem lookup_configure (c : Compiler) (target : FilePath) (classPath : List String) (encoding : Option String) :
    (c.configure target classPath encoding).options.lookup sourceEncodingKey =
      encoding.orElse fun _ => c.options.lookup sourceEncodingKey := by
  cases encoding with
  | none => rfl
  | some e =>
    have hnone : (c.options.filter (·.1 ≠ sourceEncodingKey)).lookup sourceEncodingKey = none := by
      rw [List.lookup_eq_none_iff]
      intro x hx
      have hne : x.1 ≠ sourceEncodingKey := by simpa only [decide_eq_true_eq] using (List.mem_filter.1 hx).2
      exact bne_iff_ne.2 hne.symm
    simp only [configure, setOption, if_true]
    rw [List.lookup_append, hnone]
    rfl

end Compiler

namespace BuildAction

open Library

variable {settings : Settings} {config : Config} {b b' handed moment : Build} {r : Request}

/-- A build has published a library at the moment at which its compiler starts to generate. The disk before had nothing
new but the output directory. -/
def Publishes (settings : Settings) (config : Config) (b : Build) (s : SourceSet) (before : Disk) (p : Published)
    (moment : Build) : Prop :=
  ∃ w w', (Action.ensureDir b.host.output).runFrom b.world = (.ok b.host.output, w) ∧ w.disk = before ∧
    (publish settings s (Config.intermediateFor settings.scope settings.root) config.readEncoding).runFrom w =
      (.ok p, w') ∧ w'.disk = moment.world.disk

def NoneLinked (d : Disk) (p : Published) : Prop :=
  ¬d.Linked p.registry.path ∧ ∀ x ∈ p.wrappers, ¬d.Linked x.generated

def InEncoding (encoding : String) (intermediate : FilePath) (s : SourceSet) (before after : Disk) (p : Published) : Prop :=
  (∃ scripts, before.scan s = .ok scripts ∧ p.wrappers = scripts.map (wrapperOf intermediate)) ∧
    p.registry = registryOf intermediate p.wrappers ∧ Encoded encoding before after p

/-- A build that succeeds comes to the generation, and there each of its libraries has been published. -/
theorem published_of_generate {report : Report} (h : (generate settings config).runFrom b = (.ok report, b')) :
    ∃ sets r moment, Project.sources b.world.disk settings config = .ok sets ∧ Generates settings config b r moment ∧
      (r.options.lookup sourceEncodingKey =
        config.effectiveEncoding.orElse fun _ => b.compiler.options.lookup sourceEncodingKey) ∧
      (∀ s ∈ sets, s.isLibrary = true → ∃ before p, Publishes settings config b s before p moment) ∧
      ((moment.compiler.engine.generate r).runFrom moment.world).2.disk.SameContents b'.world.disk := by
  cases ends_generate h with
  | @done x handed count compiled text normalized w text' hprepare hcompile hreset =>
  obtain ⟨hran, r, hrequest, -, -, hrun⟩ := compile_ok hcompile
  obtain ⟨sets, ts, w₀, w₁, files, hsources, hmade, hturns, hdisk, hcompiler⟩ := handed_of_prepare hprepare
  refine ⟨sets, r, _, hsources, generates_of_prepare hprepare hran hrequest, ?_, fun s hs hlib => ?_, ?_⟩
  · rw [Compiler.options_of_request hrequest, hcompiler]
    exact Compiler.lookup_configure _ _ _ _
  · obtain ⟨ds, hsets⟩ := sets_of_sources hsources
    obtain ⟨t, -, htake⟩ := Turn.take_of_takeAll (SourceSet.normalize_libraries hsets) hturns hs hlib
    obtain ⟨p, hpublish, -⟩ := Turn.publish_of_standIn hlib (Turn.take_ok htake).1
    exact ⟨_, p, w₀, w₁, hmade, rfl, hpublish, hdisk.symm⟩
  · dsimp only
    rw [hrun]
    have hsame := Action.within_resetTimes x.1 { compiled.world with stderr := text }
    rw [hreset] at hsame
    exact hsame.disk

theorem inEncoding_of_publishes {s : SourceSet} {before : Disk} {p : Published}
    (h : Publishes settings config b s before p moment) (hfree : NoneLinked moment.world.disk p) :
    InEncoding config.readEncoding (Config.intermediateFor settings.scope settings.root) s before moment.world.disk p := by
  obtain ⟨w, w', -, rfl, hpublish, hdisk⟩ := h
  rw [← hdisk] at hfree ⊢
  exact encoded_of_publish hpublish hfree.1 hfree.2

theorem noneLinked_of_publishes {s : SourceSet} {before : Disk} {p : Published}
    (h : Publishes settings config b s before p moment) (hfree : b.world.disk.tree.LinkFree) :
    NoneLinked moment.world.disk p := by
  obtain ⟨w, w', hmade, rfl, hpublish, hdisk⟩ := h
  obtain ⟨d, r, hrun, hmore, -⟩ := Action.runFrom_ensureDir b.host.output b.world
  obtain rfl := (Prod.mk.inj (hrun.symm.trans hmade)).2
  have halters := publish_alters settings s (Config.intermediateFor settings.scope settings.root) config.readEncoding
    { b.world with disk := d }
  rw [hpublish, hdisk] at halters
  have hnone := halters.tree.linkFree (hmore.tree.linkFree hfree)
  exact ⟨Disk.not_linked hnone _, fun x _ => Disk.not_linked hnone _⟩

/-- A build that succeeds tells its compiler the encoding that is asked for, if one is, and when the compiler starts its
library is in this encoding, else in UTF-8. Its scripts were read and its wrappers and its registry were written so,
provided that none of what is generated is a link. After the compiler nothing changes but times. -/
theorem library_in_told_encoding {v : Value} {origin : String} (hparse : Config.parse v origin = .ok config)
    (os : List Config.Override) {report : Report}
    (h : (generate settings (os.foldl Config.override config)).runFrom b = (.ok report, b')) :
    ∃ sets r moment, Project.sources b.world.disk settings (os.foldl Config.override config) = .ok sets ∧
      Generates settings (os.foldl Config.override config) b r moment ∧
      (r.options.lookup sourceEncodingKey =
        (Config.askedEncoding? v os).orElse fun _ => b.compiler.options.lookup sourceEncodingKey) ∧
      (∀ s ∈ sets, s.isLibrary = true → ∃ before p,
        Publishes settings (os.foldl Config.override config) b s before p moment ∧
        (NoneLinked moment.world.disk p → InEncoding ((Config.askedEncoding? v os).getD "utf-8")
          (Config.intermediateFor settings.scope settings.root) s before moment.world.disk p)) ∧
      ∀ p data, ((moment.compiler.engine.generate r).runFrom moment.world).2.disk.read p = .ok data →
        b'.world.disk.read p = .ok data := by
  obtain ⟨htold, hread⟩ := Config.encoding_of_parse hparse os
  obtain ⟨sets, r, moment, hsources, hgenerates, hoption, hpublished, hsame⟩ := published_of_generate h
  rw [htold] at hoption
  refine ⟨sets, r, moment, hsources, hgenerates, hoption, fun s hs hlib => ?_, fun p data hdata => ?_⟩
  · obtain ⟨before, p, hpublishes⟩ := hpublished s hs hlib
    exact ⟨before, p, hpublishes, fun hfree => hread ▸ inEncoding_of_publishes hpublishes hfree⟩
  · obtain ⟨l, m, a, hstat⟩ := Disk.stat_of_read hdata
    have hkept := (hsame.tree.data? l).trans (Disk.data?_of_stat hstat)
    obtain ⟨m', a', hstat'⟩ := Disk.stat_file_of_kept hstat hsame.kept hkept
    exact Disk.read_of_stat hstat'

def varsSample (script : List UInt8) (entries : List (Loc × Entry))
    (nodup : (([], Entry.dir .now) :: (["p"], .dir .now) :: (["vars", "p"], .dir .now) ::
      (["foo.groovy", "vars", "p"], .file script .now .now) :: entries |>.map (·.1)).Nodup := by decide) : Build where
  world :=
    { disk := { tree := ⟨_, nodup⟩, cwd := ⟨.slash, ["p"]⟩ }
      moment := ⟨2024, 1, 2, 3, 4, 5, 0⟩ }
  compiler := { engine := .dry }
  host := { output := ⟨.slash, ["p", "out"]⟩ }

def varsValue : Value :=
  .table [("sources", .array [.table [("directory", .text "vars")]]), ("output-directory", .text "out")]

def varsConfig : Config :=
  .ofValue varsValue "sample"

def varsLibrary : SourceSet :=
  ⟨⟨.slash, ["p", "vars"]⟩, SourceSet.defaultIncludes, [], none, none, .globalVars⟩

theorem parse_varsValue : Config.parse varsValue "sample" = .ok varsConfig :=
  ok_of_toOption (by decide +kernel)

def latinSample : Build :=
  varsSample [35, 233, 10] []

def latinOverrides : List Config.Override :=
  [{ sourceEncoding := some "latin-1" }, { sourceEncoding := some "" }]

/-- The library of the sample is in the encoding that is asked for, and the compiler is told. -/
theorem encoding_of_latinSample :
    Config.parse varsValue "sample" = .ok varsConfig ∧
      ∃ (report : Report) (b' moment : Build) (r : Request) (before : Disk) (p : Published),
        (generate nestedSettings (latinOverrides.foldl Config.override varsConfig)).runFrom latinSample =
          (.ok report, b') ∧
        r.options.lookup sourceEncodingKey = some "latin-1" ∧
        Publishes nestedSettings (latinOverrides.foldl Config.override varsConfig) latinSample varsLibrary before p moment ∧
        InEncoding "latin-1" (Config.intermediateFor nestedSettings.scope nestedSettings.root) varsLibrary before
          moment.world.disk p := by
  refine ⟨parse_varsValue, ?_⟩
  have hsources : Project.sources latinSample.world.disk nestedSettings
      (latinOverrides.foldl Config.override varsConfig) = .ok [varsLibrary] :=
    ok_of_toOption (by decide +kernel)
  obtain ⟨report, b', hrun, -⟩ := @generate_of_libraryReady (latinOverrides.foldl Config.override varsConfig) latinSample
    [] varsLibrary _ _ ⟨rfl, rfl, rfl, rfl⟩ rfl hsources rfl rfl (by decide +kernel)
  obtain ⟨sets, r, moment, hsources', -, hoption, hlibrary, -⟩ :=
    library_in_told_encoding parse_varsValue latinOverrides hrun
  cases hsources.symm.trans hsources'
  obtain ⟨before, p, hpublishes, hencoded⟩ := hlibrary varsLibrary List.mem_cons_self rfl
  have hfree : latinSample.world.disk.tree.LinkFree := by decide +kernel
  exact ⟨report, b', moment, r, before, p, hrun, hoption, hpublishes,
    hencoded (noneLinked_of_publishes hpublishes hfree)⟩

def relinkedSample : Build :=
  varsSample [35, 10] [(["target", "p"], .dir .now), (["generated-sources", "target", "p"], .dir .now),
    (["globalVarsTmp", "generated-sources", "target", "p"], .dir .now),
    (["globalvars", "globalVarsTmp", "generated-sources", "target", "p"], .dir .now),
    (["VarFOO.groovy", "globalvars", "globalVarsTmp", "generated-sources", "target", "p"], .link "../Vars.groovy")]

def varsScript : Script :=
  ⟨⟨.slash, ["p", "vars", "foo.groovy"]⟩, "foo.groovy"⟩

/-- If a build succeeds, its library is in the encoding that its compiler is told, whatever stands where it is generated. -/
def EncodesLibraries : Prop :=
  ∀ v origin config os settings b b' report, Config.parse v origin = .ok config →
    (generate settings (os.foldl Config.override config)).runFrom b = (.ok report, b') →
    ∃ sets r moment, Project.sources b.world.disk settings (os.foldl Config.override config) = .ok sets ∧
      Generates settings (os.foldl Config.override config) b r moment ∧
      (r.options.lookup sourceEncodingKey =
        (Config.askedEncoding? v os).orElse fun _ => b.compiler.options.lookup sourceEncodingKey) ∧
      ∀ s ∈ sets, s.isLibrary = true → ∃ before p,
        Publishes settings (os.foldl Config.override config) b s before p moment ∧
        InEncoding ((Config.askedEncoding? v os).getD "utf-8") (Config.intermediateFor settings.scope settings.root) s before
          moment.world.disk p

/-- Where a link takes the place of a wrapper, the wrapper is in no encoding in the end: it has the text of the registry. -/
theorem library_may_be_garbled : ¬EncodesLibraries := by
  intro h
  have hsources : Project.sources relinkedSample.world.disk nestedSettings varsConfig = .ok [varsLibrary] :=
    ok_of_toOption (by decide +kernel)
  obtain ⟨report, b', hrun, -⟩ := @generate_of_libraryReady varsConfig relinkedSample [] varsLibrary _ _
    ⟨rfl, rfl, rfl, rfl⟩ rfl hsources rfl rfl (by decide +kernel)
  obtain ⟨sets, r, moment, hsources', -, -, hlibrary⟩ := h _ _ _ [] _ _ _ _ parse_varsValue hrun
  cases hsources.symm.trans hsources'
  obtain ⟨before, p, ⟨w, w', hmade, rfl, hpublish, hdisk⟩, ⟨scripts, hscan, hwrappers⟩, -, hencoded⟩ :=
    hlibrary varsLibrary List.mem_cons_self rfl
  obtain rfl : ((Action.ensureDir relinkedSample.host.output).runFrom relinkedSample.world).2 = w :=
    congrArg Prod.snd hmade
  have hpublished : afterLibrary relinkedSample varsLibrary "utf-8" = w' := congrArg Prod.snd hpublish
  have hfound : ((Action.ensureDir relinkedSample.host.output).runFrom relinkedSample.world).2.disk.scan varsLibrary =
      .ok [varsScript] := ok_of_toOption (by decide +kernel)
  cases hscan.symm.trans hfound
  have hmem : wrapperOf staleIntermediate varsScript ∈ p.wrappers := by
    rw [hwrappers]
    exact List.mem_cons_self
  obtain ⟨_, _, _, data, -, -, -, htext, hread⟩ := hencoded.wrapper _ hmem
  have hhead : ((afterLibrary relinkedSample varsLibrary "utf-8").disk.read
      (wrapperOf staleIntermediate varsScript).generated).toOption.bind List.head? = some 99 := by
    decide +kernel
  rw [← hdisk, ← hpublished] at hread
  rw [hread] at hhead
  cases (head?_of_wrapperText htext).symm.trans hhead

end BuildAction

end JavaStubs
