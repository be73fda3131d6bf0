import JavaStubs.Proofs.Disk.Refused
import JavaStubs.Proofs.Library.Found
import JavaStubs.Proofs.Library.Located
import JavaStubs.Proofs.Library.Publishing
import JavaStubs.Proofs.Source.Rescan

/-! Publishing a library again. Where all is as a run left it, the next run finds nothing to do. -/
namespace JavaStubs.Library

open FileTree

/-- All that publishing the scripts of a library is to bring about is there already. -/
structure UpToDate (d : Disk) (s : SourceSet) (intermediate : FilePath) (encoding : String) (scripts : List Script) :
    Prop where
  scan : d.scan s = .ok scripts
  nodup : (scripts.map classOf).Nodup
  directory : ∃ l m, d.stat (packageDir intermediate) = .ok (l, .dir m)
  classes : ∀ x ∈ scripts, ∃ body data l m a, readBody d x.path encoding = .ok body ∧
    Charset.encodeAs encoding (wrapperText (classOf x) body) = .ok data ∧
    d.stat (classPath intermediate (classOf x)) = .ok (l, .file data m a)
  pruned : ∃ files, wrapperFiles d (packageDir intermediate) = .ok files ∧ ∀ p ∈ files, ∃ isFile,
    d.isFile? p = .ok isFile ∧ (isFile = true → p ∈ (scripts.map (wrapperOf intermediate)).map (·.generated))
  registry : ∃ data l m a, Charset.encodeAs encoding
      (registryText (registryOf intermediate (scripts.map (wrapperOf intermediate))).entries) = .ok data ∧
    d.stat (registryPath intermediate) = .ok (l, .file data m a)

section

variable {settings : Settings} {s : SourceSet} {intermediate : FilePath} {encoding : String} {scripts : List Script}
  {w : World}

theorem publishWrappers_unchanged
    (h : ∀ x ∈ scripts, ∃ body data l m a, readBody w.disk x.path encoding = .ok body ∧
      Charset.encodeAs encoding (wrapperText (classOf x) body) = .ok data ∧
      w.disk.stat (classPath intermediate (classOf x)) = .ok (l, .file data m a)) :
    ∃ text, (publishWrappers settings encoding (scripts.map (wrapperOf intermediate))).runFrom w =
      (.ok 0, { w with stderr := text }) := by
  induction scripts generalizing w with
  | nil => exact ⟨w.stderr, rfl⟩
  | cons x xs ih =>
    obtain ⟨body, data, l, m, a, hbody, hdata, hstat⟩ := h x List.mem_cons_self
    have hlook : (Action.look fun d => readBody d (wrapperOf intermediate x).source encoding).runFrom w = (.ok body, w) := by
      rw [Action.runFrom_look]
      exact Prod.ext hbody rfl
    have hwrite : (Action.writeText (wrapperOf intermediate x).generated
        (wrapperText (wrapperOf intermediate x).className body) encoding).runFrom w = (.ok false, w) :=
      Action.writeText_of_stat hdata hstat
    obtain ⟨text, hlog⟩ := Log.runFrom_write settings ⟨.debug, "globalvars", "wrapper",
      [("variable", .text (wrapperOf intermediate x).name), ("path", .text (wrapperOf intermediate x).generated.text)]⟩ w
    have hone : (publishWrapper settings encoding (wrapperOf intermediate x)).runFrom w =
        (.ok false, { w with stderr := text }) := by
      rw [publishWrapper, Acting.runFrom_bind_of_ok hlook, Acting.runFrom_bind_of_ok hwrite,
        Acting.runFrom_bind_of_ok hlog]
      rfl
    obtain ⟨text', hrest⟩ := @ih { w with stderr := text } fun y hy => h y (List.mem_cons_of_mem _ hy)
    refine ⟨text', ?_⟩
    rw [List.map_cons, publishWrappers, Acting.runFrom_bind_of_ok hone, Acting.runFrom_bind_of_ok hrest]
    rfl

theorem removeStale_unchanged {keep files : List FilePath}
    (h : ∀ p ∈ files, ∃ isFile, w.disk.isFile? p = .ok isFile ∧ (isFile = true → p ∈ keep)) :
    (removeStale keep files).runFrom w = (.ok [], w) := by
  induction files with
  | nil => rfl
  | cons p ps ih =>
    obtain ⟨isFile, hfile, hkeep⟩ := h p List.mem_cons_self
    have hlook : (Action.look fun d => (d.isFile? p).mapError .access).runFrom w = (.ok isFile, w) := by
      rw [Action.runFrom_look, hfile]
      rfl
    rw [removeStale, Acting.runFrom_bind_of_ok hlook, if_neg (by simpa using hkeep)]
    exact ih fun q hq => h q (List.mem_cons_of_mem _ hq)

theorem UpToDate.publish (h : UpToDate w.disk s intermediate encoding scripts) :
    ∃ text, (publish settings s intermediate encoding).runFrom w =
      (.ok ⟨publishedSet s (intermediate.absolute w.disk.cwd), scripts.map (wrapperOf intermediate),
        registryOf intermediate (scripts.map (wrapperOf intermediate)), 0⟩, { w with stderr := text }) := by
  obtain ⟨text₁, hdiscovered⟩ := Log.runFrom_write settings ⟨.info, "globalvars", "discovered",
    [("directory", .text s.directory.text),
      ("message", .text "Discovered Pipeline Library global Vars, will handle in a custom way")]⟩ w
  obtain ⟨l, m, hdir⟩ := h.directory
  obtain ⟨text₂, hwrappers⟩ := @publishWrappers_unchanged settings intermediate encoding scripts
    { w with stderr := text₁ } h.classes
  have hscan : (Action.look fun d => d.scan s).runFrom { w with stderr := text₁ } =
      (.ok scripts, { w with stderr := text₁ }) := Prod.ext h.scan rfl
  have hplan : (Acting.ofExcept ((plan intermediate scripts).mapError .stub)).runFrom { w with stderr := text₁ } =
      (.ok (scripts.map (wrapperOf intermediate)), { w with stderr := text₁ }) := by
    rw [Acting.runFrom_ofExcept, plan_ok.2 ⟨h.nodup, rfl⟩]
    rfl
  have hmade : (Action.ensureDir (packageDir intermediate)).runFrom { w with stderr := text₁ } =
      (.ok (packageDir intermediate), { w with stderr := text₁ }) := Action.ensureDir_of_stat hdir
  have hclasses : (publishClasses settings s intermediate encoding).runFrom w =
      (.ok (scripts.map (wrapperOf intermediate), 0), { w with stderr := text₂ }) := by
    rw [publishClasses, Acting.runFrom_bind_of_ok hdiscovered, Acting.runFrom_bind_of_ok hscan,
      Acting.runFrom_bind_of_ok hplan, Acting.runFrom_bind_of_ok hmade, Acting.runFrom_bind_of_ok hwrappers]
    rfl
  obtain ⟨files, hfiles, hpruned⟩ := h.pruned
  obtain ⟨data, l', m', a, hdata, hregistry⟩ := h.registry
  have hprune : (prune (packageDir intermediate) ((scripts.map (wrapperOf intermediate)).map (·.generated))).runFrom
      { w with stderr := text₂ } = (.ok [], { w with stderr := text₂ }) := by
    have hlook : (Action.look fun d => (wrapperFiles d (packageDir intermediate)).mapError .access).runFrom
        { w with stderr := text₂ } = (.ok files, { w with stderr := text₂ }) := by
      rw [Action.runFrom_look, hfiles]
      rfl
    have hnone := @removeStale_unchanged { w with stderr := text₂ }
      ((scripts.map (wrapperOf intermediate)).map (·.generated)) files hpruned
    unfold prune
    rw [Acting.runFrom_mapFailure, Acting.runFrom_bind_of_ok hlook, hnone]
    rfl
  have hlast : (publishRegistry settings intermediate encoding (scripts.map (wrapperOf intermediate))).runFrom
      { w with stderr := text₂ } = (.ok false, { w with stderr := text₂ }) := by
    have hlogged : (logRemoved settings []).runFrom { w with stderr := text₂ } = (.ok (), { w with stderr := text₂ }) := rfl
    rw [publishRegistry, Acting.runFrom_bind_of_ok hprune, Acting.runFrom_bind_of_ok hlogged]
    exact Action.writeText_of_stat hdata hregistry
  obtain ⟨text₃, htransformed⟩ := Log.runFrom_write settings ⟨.info, "globalvars", "transformed",
    [("variables", .int (scripts.map (wrapperOf intermediate)).length), ("rewritten", .int (0 : Nat))]⟩ { w with stderr := text₂ }
  refine ⟨text₃, ?_⟩
  rw [Library.publish, Acting.runFrom_bind_of_ok hclasses, Acting.runFrom_bind_of_ok hlast,
    Acting.runFrom_bind_of_ok (Action.runFrom_disk _)]
  exact Acting.runFrom_bind_of_ok htransformed

end

/-- The files of the package directory that look like wrappers depend on what is there, times apart. -/
theorem wrapperFiles_eq {d : Disk} {dir : FilePath} {P : Loc} {m : Stamp} (hdir : d.stat dir = .ok (P, .dir m)) :
    wrapperFiles d dir =
      match d.unlisted? dir with
      | some errno => if errno.isPermission then .ok [] else .error (.os (.at errno dir))
      | none => .ok (((d.tree.contents P).filter fun e => Text.endsWith e.1 scriptSuffix).map fun e => dir.child e.1) := by
  unfold wrapperFiles
  rw [show d.isDir? dir = .ok true from Disk.test_of_stat _ hdir, hdir]
  dsimp only
  rw [Disk.list]
  cases d.unlisted? dir with
  | some errno => rfl
  | none =>
    dsimp only
    rw [FileTree.contents, List.filter_map, List.map_map]
    rfl

theorem isFile?_of_removeStale {w w' : World} {keep files removed : List FilePath}
    (h : (removeStale keep files).runFrom w = (.ok removed, w')) {p : FilePath} (hp : p ∈ files) :
    ∃ (d : Disk) (isFile : Bool), d.rules = w.disk.rules ∧ d.isFile? p = .ok isFile := by
  induction files generalizing w removed with
  | nil => cases hp
  | cons q qs ih =>
    rcases removeStale_cons keep q qs w with ⟨e, hr⟩ | ⟨b, hf, -, hr⟩ | ⟨d, hf, -, hunlink, hr⟩
    · cases hr.symm.trans h
    · rcases List.mem_cons.1 hp with rfl | hp
      · exact ⟨w.disk, b, rfl, hf⟩
      · exact ih (hr.symm.trans h) hp
    · rcases List.mem_cons.1 hp with rfl | hp
      · exact ⟨w.disk, true, rfl, hf⟩
      · obtain ⟨l, e, -, -, rfl⟩ := Disk.unlink_found hunlink
        obtain ⟨removed', w₁, hrest, hpure⟩ := Acting.bind_ok (hr.symm.trans h)
        cases hpure
        obtain ⟨d, isFile, hrules, hasked⟩ := ih hrest hp
        exact ⟨d, isFile, hrules, hasked⟩

/-- An entry of a directory can be asked for its kind if its path could be asked about on some disk. -/
theorem isFile?_listed {d d' : Disk} {dir : FilePath} {P : Loc} {m : Stamp} {n : String} {e : Entry} {b : Bool}
    (hdir : d.stat dir = .ok (P, .dir m)) (hn : EntryName n) (he : d.tree.get? (n :: P) = some e)
    (hlink : e.isLink = false) (hrules : d.rules = d'.rules) (h : d'.isFile? (dir.child n) = .ok b) :
    ∃ isFile, d.isFile? (dir.child n) = .ok isFile ∧ (isFile = true → (d.tree.data? (n :: P)).isSome = true) := by
  by_cases hnul : holdsNul (dir.child n).text = true
  · have hs : d.stat (dir.child n) = .error .nul := by
      rw [Disk.stat, Disk.locate, if_pos hnul]
    refine ⟨false, by rw [Disk.isFile?, Disk.test, hs], fun hfile => ?_⟩
    cases hfile
  · have hnul : holdsNul (dir.child n).text = false := by simpa using hnul
    have hopen : d.barred? (dir.child n) = none := by
      rw [Disk.barred?_eq hrules]
      refine Option.eq_none_iff_forall_not_mem.2 fun errno hbarred => ?_
      cases (Disk.test_of_refuses (Disk.refuses_of_barred hnul hbarred)).symm.trans h
    have hs := Disk.stat_child hdir ⟨hnul, hopen⟩ hn he hlink
    refine ⟨e.isFile, Disk.test_of_stat _ hs, fun hfile => ?_⟩
    cases e with
    | file data m a =>
      rw [data?_eq_some.2 (content?_of_get? he)]
      rfl
    | dir => cases hfile
    | link => cases hfile

section

variable {settings : Settings} {s : SourceSet} {intermediate : FilePath} {encoding : String} {scripts : List Script}
  {w w' : World} {P : Loc} {m : Stamp}

theorem usable_of_publishWrappers {count : Nat}
    (h : (publishWrappers settings encoding (scripts.map (wrapperOf intermediate))).runFrom w = (.ok count, w')) :
    ∀ x ∈ scripts, w'.disk.Usable x.path := by
  induction scripts generalizing w count with
  | nil => simp
  | cons x xs ih =>
    obtain ⟨w₁, count₁, l, data, hw, -, ⟨l₀, source, m₀, a₀, hs, -⟩, hrest⟩ := publishWrappers_cons_ok _ _ _ h
    have hgains := publishWrappers_gains settings encoding intermediate xs w₁
    rw [hrest] at hgains
    intro y hy
    rcases List.mem_cons.1 hy with rfl | hy
    · exact (Disk.usable_iff (hgains.rules.trans hw.rules) _).2 (Disk.locate_eq_ok_iff.1 (Disk.stat_eq_ok_iff.1 hs)).1
    · exact ih hrest y hy

/-- The registry's step asks about each file of the package directory that looks like a wrapper. -/
theorem asked_of_publishRegistry {changed : Bool}
    (h : (publishRegistry settings intermediate encoding (scripts.map (wrapperOf intermediate))).runFrom w =
      (.ok changed, w')) :
    ∃ files, wrapperFiles w.disk (packageDir intermediate) = .ok files ∧
      ∀ p ∈ files, ∃ (d : Disk) (isFile : Bool), d.rules = w.disk.rules ∧ d.isFile? p = .ok isFile := by
  obtain ⟨removed, w₁, hprune, -⟩ := Acting.bind_ok h
  unfold prune at hprune
  rw [Acting.runFrom_mapFailure, Acting.runFrom_bind, Action.runFrom_look] at hprune
  rcases hfiles : wrapperFiles w.disk (packageDir intermediate) with e | files
  · rw [hfiles] at hprune
    cases hprune
  refine ⟨files, rfl, fun p hp => ?_⟩
  rw [hfiles, mapError_ok] at hprune
  dsimp only at hprune
  rcases hremoved : (removeStale ((scripts.map (wrapperOf intermediate)).map (·.generated)) files).runFrom w with ⟨r, w₂⟩
  rw [hremoved] at hprune
  cases r with
  | error e => cases hprune
  | ok removed' => exact isFile?_of_removeStale hremoved hp

/-- What is in the package directory after the registry's step was there before. -/
theorem content?_of_publishRegistry {changed : Bool} {n : String} {x : Content} (hfree : w.disk.tree.LinkFree)
    (hdir : w.disk.stat (packageDir intermediate) = .ok (package :: w.disk.place intermediate, .dir m))
    (h : (publishRegistry settings intermediate encoding (scripts.map (wrapperOf intermediate))).runFrom w =
      (.ok changed, w')) (hx : w'.disk.tree.content? (n :: package :: w.disk.place intermediate) = some x) :
    ∃ y, w.disk.tree.content? (n :: package :: w.disk.place intermediate) = some y := by
  cases hfile : x.isFile with
  | false => exact ⟨x, publishRegistry_kept hdir h _ _ hx hfile⟩
  | true =>
    obtain ⟨-, -, -, d, hloses, ⟨_, data, -, -, hw, -⟩ | ⟨e, hr, -⟩⟩ := publishRegistry_linkFree hfree ⟨_, _, hdir⟩ h
    · have hne : n :: package :: w.disk.place intermediate ≠ registryLoc (w.disk.place intermediate) := by
        intro heq
        have := congrArg List.length heq
        simp [registryLoc] at this
      rcases hw.tree.elsewhere _ hne with he | ⟨-, hdir'⟩
      · rcases hloses.content? (n :: package :: w.disk.place intermediate) with he' | ⟨-, hnone⟩
        · exact ⟨x, by rw [← he', ← he, hx]⟩
        · rw [he, hnone] at hx
          cases hx
      · cases hx.symm.trans hdir'
        cases hfile
    · cases hr

theorem pruned_of_publishRegistry {changed : Bool} {d : Disk} {m' : Stamp} (hfree : w.disk.tree.LinkFree)
    (hdir : w.disk.stat (packageDir intermediate) = .ok (package :: w.disk.place intermediate, .dir m))
    (h : (publishRegistry settings intermediate encoding (scripts.map (wrapperOf intermediate))).runFrom w =
      (.ok changed, w'))
    (hdir' : d.stat (packageDir intermediate) = .ok (package :: w.disk.place intermediate, .dir m'))
    (hrules : d.rules = w.disk.rules) (hsame : SameContents w'.disk.tree d.tree) (hfree' : d.tree.LinkFree)
    (hnamed : d.tree.Named)
    (hstale : w.disk.unlisted? (packageDir intermediate) = none → ∀ n,
      Stale (package :: w.disk.place intermediate) scripts (n :: package :: w.disk.place intermediate) →
        w'.disk.tree.data? (n :: package :: w.disk.place intermediate) = none) :
    ∃ files, wrapperFiles d (packageDir intermediate) = .ok files ∧ ∀ p ∈ files, ∃ isFile,
      d.isFile? p = .ok isFile ∧ (isFile = true → p ∈ (scripts.map (wrapperOf intermediate)).map (·.generated)) := by
  obtain ⟨files, hfiles, hasked⟩ := asked_of_publishRegistry h
  rw [wrapperFiles_eq hdir] at hfiles
  rw [wrapperFiles_eq hdir', Disk.unlisted?_eq hrules]
  cases hlist : w.disk.unlisted? (packageDir intermediate) with
  | some errno =>
    rw [hlist] at hfiles
    dsimp only at hfiles ⊢
    split at hfiles
    · next hperm =>
      rw [if_pos hperm]
      exact ⟨[], rfl, by simp⟩
    · cases hfiles
  | none =>
    rw [hlist] at hfiles
    cases hfiles
    refine ⟨_, rfl, fun q hq => ?_⟩
    obtain ⟨⟨n, x⟩, hmem, rfl⟩ := List.mem_map.1 hq
    obtain ⟨hmem, hends⟩ := List.mem_filter.1 hmem
    have hx := mem_contents.1 hmem
    -- it was there when stale wrappers were looked for
    obtain ⟨y, hy⟩ := content?_of_publishRegistry hfree hdir h ((hsame _).symm.trans hx)
    obtain ⟨d₂, b, hrules₂, hb⟩ := hasked ((packageDir intermediate).child n)
      (List.mem_map.2 ⟨(n, y), List.mem_filter.2 ⟨mem_contents.2 hy, hends⟩, rfl⟩)
    obtain ⟨e, he, -⟩ := get?_of_content? hx
    obtain ⟨isFile, hfile, hsome⟩ := isFile?_listed hdir' (hnamed _ _ _ hx) he (hfree'.isLink he)
      (hrules.trans hrules₂.symm) hb
    refine ⟨isFile, hfile, fun htrue => Classical.byContradiction fun hkeep => ?_⟩
    have hnone := hstale hlist n ⟨n, hends, child_not_kept.1 hkeep, rfl⟩
    have hthere := hsome htrue
    rw [hsame.data?, hnone] at hthere
    cases hthere

end

section

variable {settings : Settings} {s : SourceSet} {intermediate : FilePath} {encoding : String} {scripts : List Script}
  {w w' : World} {p : Published} {d : Disk}

/-- What is published depends on the scripts, but for the number of files that were written for it. -/
theorem published_eq (hscan : w.disk.scan s = .ok scripts)
    (h : (publish settings s intermediate encoding).runFrom w = (.ok p, w')) :
    { p with rewritten := 0 } = (⟨publishedSet s (intermediate.absolute w.disk.cwd), scripts.map (wrapperOf intermediate),
      registryOf intermediate (scripts.map (wrapperOf intermediate)), 0⟩ : Published) := by
  obtain ⟨hset, -⟩ := publish_sourceSet h
  obtain ⟨scripts', count, w₁, changed, w₂, text, hscan', -, -, -, -, rfl, rfl⟩ := publish_ok h
  cases hscan.symm.trans hscan'
  rw [← hset]

/-- What a run has published is up to date, times apart, if the scripts of the library are none of the generated files
and a scan finds them again. -/
theorem upToDate_of_publish (hfree : w.disk.tree.LinkFree) (hscan : w.disk.scan s = .ok scripts)
    (hnames : ∀ n, (w.disk.tree.data? (n :: package :: w.disk.place intermediate)).isSome = true → FileName n)
    (hsources : ∀ x ∈ scripts, ¬Generated (w.disk.place intermediate) (w.disk.place x.path))
    (h : (publish settings s intermediate encoding).runFrom w = (.ok p, w')) (hsame : w'.disk.SameContents d)
    (hnamed : d.tree.Named) (hrescan : d.scan s = .ok scripts) : UpToDate d s intermediate encoding scripts := by
  obtain ⟨hfree', htouches⟩ := publish_touches hfree h
  obtain ⟨scripts', hscan', hnodup, -, -, hclasses, hstale⟩ := publish_succeeded hfree h
  cases hscan.symm.trans hscan'
  obtain ⟨scripts', count, w₁, changed, w₂, text, hscan', -, hc, ⟨P, m, hdir⟩, hr, rfl, rfl⟩ := publish_ok h
  cases hscan.symm.trans hscan'
  obtain ⟨hg, hfree₁⟩ := publishClasses_linkFree hfree hc
  obtain ⟨scripts', w₀, hscan', -, -, -, -, hwritten⟩ := publishClasses_ok hc
  cases hscan.symm.trans hscan'
  have hplace : w₁.disk.place intermediate = w.disk.place intermediate := Disk.place_eq hg.cwd intermediate
  obtain rfl : P = package :: w.disk.place intermediate := by
    rw [Disk.loc_of_stat hdir hfree₁, place_packageDir, hplace]
  obtain ⟨d₁, lr, data, hloses, hdata, hw, ⟨mr, ar, hreg⟩, -⟩ := publishRegistry_ok hdir hr
  have hcwd : d.cwd = w.disk.cwd := hsame.cwd.trans (hw.cwd.trans (hloses.cwd.trans hg.cwd))
  have hrules : d.rules = w.disk.rules := hsame.rules.trans (hw.rules.trans (hloses.rules.trans hg.rules))
  have hdfree : d.tree.LinkFree := hsame.tree.linkFree hfree'
  obtain ⟨m₁, hdir₁⟩ := hloses.stat_dir hdir
  obtain ⟨m₂, hdir₂⟩ := Disk.stat_dir_of_kept hdir₁ (hw.imp fun _ _ h => h.kept)
  obtain ⟨m₃, hdir₃⟩ := Disk.SameContents.stat_dir hsame hdir₂
  have husable : ∀ {q}, w₁.disk.Usable q → d.Usable q := (Disk.usable_iff (hrules.trans hg.rules.symm) _).2
  refine ⟨hrescan, hnodup, ⟨_, m₃, hdir₃⟩, fun x hx => ?_, ?_, ?_⟩
  · obtain ⟨data', ⟨t, source, ht, hsource, hwrapper⟩, hthere⟩ := hclasses x hx
    have hsource' : d.tree.data? (d.place x.path) = some source := by
      rw [Disk.place_eq hcwd, hsame.tree.data?, htouches _ (hsources x hx), ← hsource]
      refine ((ht.data? _).resolve_right fun hmem => hsources x hx ?_).symm
      obtain ⟨y, -, hy⟩ := List.mem_map.1 hmem.1
      exact hy ▸ generated_wrapperLoc _ _
    obtain ⟨m, a, hs⟩ := (Disk.leadsToFile_of_mem_scan hdfree hnamed hrescan hx).stat
      (husable (usable_of_publishWrappers hwritten x hx)) hsource'
    obtain ⟨body, hbody, hencoded⟩ := wrapperData_ok hwrapper
    obtain ⟨lx, _, _, _, hsx⟩ := stat_of_publishWrappers hwritten x hx
    have hclass : d.tree.data? ((classOf x ++ scriptSuffix) :: package :: w.disk.place intermediate) = some data' :=
      (hsame.tree.data? _).trans hthere
    have hname : EntryName (classOf x ++ scriptSuffix) := hnamed _ _ _ (data?_eq_some.1 hclass)
    obtain ⟨m', a', hthere'⟩ := Disk.stat_child_of_data? hdir₃
      (husable (Disk.locate_eq_ok_iff.1 (Disk.stat_eq_ok_iff.1 hsx)).1) hname hclass
    exact ⟨body, data', _, m', a', readBody_of_stat hs hbody, hencoded, hthere'⟩
  · rw [← hplace] at hdir hdir₃ hnames hstale
    rw [← Disk.unlisted?_eq hg.rules] at hstale
    exact pruned_of_publishRegistry hfree₁ hdir hr hdir₃ (hrules.trans hg.rules.symm) hsame.tree hdfree hnamed
      fun hlist n hn => hstale hlist n hn (hnames n)
  · obtain ⟨m, a, hs⟩ := Disk.stat_file_of_kept hreg (Disk.SameContents.kept hsame)
      ((hsame.tree.data? _).trans (Disk.data?_of_stat hreg))
    exact ⟨data, lr, m, a, hdata, hs⟩

end

end JavaStubs.Library
