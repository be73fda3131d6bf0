import JavaStubs.Proofs.Library.Republished

/-! What a run that fails may leave behind: library and registry as they were, wrappers with their old bytes or the
new ones, no file removed before all wrappers are up to date, and a beginning of the file whose writing was broken
off. -/
namespace JavaStubs.Library

open FileTree JavaStubs.Action

namespace Attempt

variable {a : Attempt} {e : Failure} {l : Loc}

/-- What a run has to leave alone unless it succeeds: the library, and the place of the registry. -/
def Spared (a : Attempt) (l : Loc) : Prop :=
  l = registryLoc a.root ∨ Below a.libraryLoc l

/-- The run failed as the system broke off the writing of the registry, of which a beginning is there. -/
def RegistryBroken (a : Attempt) : Prop :=
  ∃ scripts e, a.world.disk.scan a.library = .ok scripts ∧ a.result = .error e ∧
    RegistryBegun a.encoding a.intermediate scripts a.root a.after e

/-- The run failed as the system broke off the writing of the wrapper of a script, of which a beginning is there. -/
def WrapperBroken (a : Attempt) (x : Script) : Prop :=
  ∃ source data arrived errno, a.before.data? (a.world.disk.place x.path) = some source ∧
    wrapperData a.encoding (classOf x) source = .ok data ∧
    a.result = .error (.stub (.cannotWrite (classPath a.intermediate (classOf x)) ⟨errno, none⟩)) ∧
    a.after.data? (wrapperLoc a.root (classOf x)) = some (data.take arrived)

/-- Neither the package directory nor anything above or below it is to be left alone. -/
theorem not_spared (hapart : a.Apart) (hl : Below l (package :: a.root) ∨ Below (package :: a.root) l) : ¬a.Spared l := by
  have hroot : Below a.root (package :: a.root) := List.suffix_cons _ _
  intro hspared
  cases hspared with
  | inl hregistry =>
    have hlength : l.length = (package :: a.root).length := by rw [hregistry]; rfl
    have hsame : l = package :: a.root :=
      hl.elim (·.eq_of_length hlength) fun hbelow => (hbelow.eq_of_length hlength.symm).symm
    have hname := (List.cons.inj (hregistry.symm.trans hsame)).1
    exact absurd hname (by decide)
  | inr hlibrary =>
    cases hl with
    | inl habove => exact not_below_of_apart hapart.1 hapart.2 (hlibrary.trans habove) hroot
    | inr hbelow => exact not_below_of_apart hapart.1 hapart.2 hlibrary (hroot.trans hbelow)

/-- A failing run changes the disk by making the package directory, by writing class files, by removing files that look
like wrappers and by a writing of the registry that was broken off, and in no other way. -/
theorem passage_of_failed {R : Disk → Disk → Prop} [hR : Disk.Passage R] (hfree : a.before.LinkFree)
    (hdir : ∀ d, R d (d.ensureDirs (packageDir a.intermediate)).1)
    (hclass : ∀ c d data, R d (d.update (classPath a.intermediate c) data).1)
    (hunlink : ∀ n d d', Text.endsWith n scriptSuffix = true →
      d.unlink ((packageDir a.intermediate).child n) = .ok d' → R d d')
    (hregistry : a.RegistryBroken → ∀ d data, R d (d.update (registryPath a.intermediate) data).1)
    (hfail : a.result = .error e) : R a.world.disk a.outcome.2.disk := by
  have hclasses : Within R (publishClasses a.settings a.library a.intermediate a.encoding) :=
    within_publishClasses hdir hclass
  have hfirst := (hclasses a.world).disk
  cases publish_error (run_eq hfail) with
  | inl hc =>
    rw [hc] at hfirst
    exact hfirst
  | inr hwritten =>
    have ⟨scripts, count, w, hscan, _, hc, ⟨P, m, hpackage⟩, hr⟩ := hwritten
    have ⟨hgains, hfree₁⟩ := publishClasses_linkFree hfree hc
    rw [hc] at hfirst
    have ⟨r, w₁, hprune, hloses, hend⟩ := publishRegistry_error hpackage hr
    have hpruned := (within_prune ((scripts.map (wrapperOf a.intermediate)).map (·.generated)) hunlink w).disk
    rw [hprune] at hpruned
    have hsofar : R a.world.disk w₁.disk := hR.trans hfirst hpruned
    cases hend with
    | inl hsame => rwa [hsame]
    | inr hbroken =>
      have ⟨hbegun, _⟩ := registryBegun_of_brokenOff (hloses.linkFree hfree₁) hbroken
      rw [Disk.place_eq (hloses.cwd.trans hgains.cwd)] at hbegun
      have ⟨data, _, _, _, hupdate, _⟩ := hbroken
      rw [hupdate]
      exact hR.trans hsofar (hregistry ⟨scripts, e, hscan, hfail, hbegun⟩ w₁.disk data)

/-- The locations that a failing run may change. -/
def Touched (a : Attempt) (l : Loc) : Prop :=
  Below (package :: a.root) l ∨ l = registryLoc a.root ∧ a.RegistryBroken

theorem onWay_packageDir {d : Disk} (h : d.OnWay a.intermediate l) : d.OnWay (packageDir a.intermediate) l := by
  have ⟨q, hq, hl⟩ := h
  refine ⟨q, Disk.FirstParts.of_parent ?_, hl⟩
  rwa [packageDir, FilePath.parent_child]

/-- A failing run is confined to the package directory and a registry that was broken off, but for directories on the way. -/
theorem confined_of_failed (hfree : a.before.LinkFree) (hfail : a.result = .error e) :
    Confined a.Touched (a.world.disk.OnWay (packageDir a.intermediate)) a.before a.after := by
  have hkeeping : a.world.disk.Keeping a.Touched (a.world.disk.OnWay (packageDir a.intermediate))
      a.world.disk a.outcome.2.disk := by
    apply passage_of_failed hfree ?_ ?_ ?_ ?_ hfail
    · exact Disk.ensureDirs_keeping fun _ hway => .inr hway
    · intro c d data
      apply Disk.update_keeping
      · rw [place_classPath]
        exact .inl (List.suffix_cons _ _)
      · rw [classPath, FilePath.parent_child]
        exact fun _ hway => .inr hway
    · intro n d d' hn h
      refine Disk.unlink_keeping ?_ h
      rw [place_packageEntry _ _ hn]
      exact .inl (List.suffix_cons _ _)
    · intro hbroken d data
      apply Disk.update_keeping
      · rw [place_registryPath]
        exact .inr ⟨rfl, hbroken⟩
      · rw [registryPath, FilePath.parent_child]
        exact fun _ hway => .inr (onWay_packageDir hway)
  exact (hkeeping ⟨rfl, hfree⟩).2

/-- Where the way to the root does not go up again, a failing run leaves library and registry as they are, times
included, but for a registry that was broken off. -/
theorem spared_of_failed (hfree : a.before.LinkFree) (hapart : a.Apart) (hup : ".." ∉ a.intermediate.parts)
    (hfail : a.result = .error e) (hl : a.Spared l) :
    a.after.get? l = a.before.get? l ∨ l = registryLoc a.root ∧ a.RegistryBroken := by
  have houtside : ∀ {l}, ¬a.Spared l → ¬a.Spared l.tail →
      Disk.Outside (fun l => a.Spared l ∧ ¬(l = registryLoc a.root ∧ a.RegistryBroken)) l :=
    fun hl htail => ⟨fun h => hl h.1, fun h => htail h.1⟩
  have hentry : ∀ n, Disk.Outside (fun l => a.Spared l ∧ ¬(l = registryLoc a.root ∧ a.RegistryBroken))
      (n :: package :: a.root) :=
    fun n => houtside (not_spared hapart (.inr (List.suffix_cons _ _))) (not_spared hapart (.inr (List.suffix_refl _)))
  have hway : ∀ l, a.world.disk.OnWay (packageDir a.intermediate) l →
      Disk.Outside (fun l => a.Spared l ∧ ¬(l = registryLoc a.root ∧ a.RegistryBroken)) l := by
    intro l hway
    have hstraight : ".." ∉ (packageDir a.intermediate).parts := by
      rw [packageDir, FilePath.child, List.mem_append, List.mem_singleton]
      exact fun hmem => hmem.elim hup (by decide)
    have hbelow := hway.below hstraight
    rw [place_packageDir] at hbelow
    exact houtside (not_spared hapart (.inl hbelow)) (not_spared hapart (.inl ((List.tail_suffix l).trans hbelow)))
  have hsparing : a.world.disk.Sparing (fun l => a.Spared l ∧ ¬(l = registryLoc a.root ∧ a.RegistryBroken))
      a.world.disk a.outcome.2.disk := by
    apply passage_of_failed hfree ?_ ?_ ?_ ?_ hfail
    · exact Disk.ensureDirs_sparing hway
    · intro c d data
      apply Disk.update_sparing
      · rw [place_classPath]
        exact hentry _
      · rw [classPath, FilePath.parent_child]
        exact hway
    · intro n d d' hn h
      refine Disk.unlink_sparing ?_ h
      rw [place_packageEntry _ _ hn]
      exact hentry n
    · intro hbroken d data
      apply Disk.update_sparing
      · rw [place_registryPath]
        exact ⟨fun h => h.2 ⟨rfl, hbroken⟩, fun h => not_spared hapart (.inl (List.suffix_cons _ _)) h.1⟩
      · rw [registryPath, FilePath.parent_child]
        exact fun l hl => hway l (onWay_packageDir hl)
  by_cases hbroken : l = registryLoc a.root ∧ a.RegistryBroken
  · exact .inr hbroken
  · exact .inl ((hsparing ⟨rfl, hfree⟩).2 l ⟨hl, hbroken⟩)

theorem stages_of_failed (hfree : a.before.LinkFree) (hfail : a.result = .error e) :
    (∃ w, (publishClasses a.settings a.library a.intermediate a.encoding).runFrom a.world = (.error e, w) ∧
        a.after = w.disk.tree) ∨
      ∃ scripts made w, a.world.disk.scan a.library = .ok scripts ∧
        (publishClasses a.settings a.library a.intermediate a.encoding).runFrom a.world = (.ok made, w) ∧
        ∀ l, a.after.data? l = w.disk.tree.data? l ∨ Stale (package :: a.root) scripts l ∧ a.after.data? l = none ∨
          l = registryLoc a.root ∧ a.RegistryBroken := by
  cases publish_error (run_eq hfail) with
  | inl hc => exact .inl ⟨a.outcome.2, hc, rfl⟩
  | inr hwritten =>
    have ⟨scripts, count, w, hscan, _, hc, hdir, hr⟩ := hwritten
    have ⟨hgains, hfree₁⟩ := publishClasses_linkFree hfree hc
    have hlost := publishRegistry_failed hfree₁ hdir hr
    rw [Disk.place_eq hgains.cwd] at hlost
    refine .inr ⟨scripts, _, w, hscan, hc, fun l => ?_⟩
    have hend := hlost l
    exact hend.imp_right fun h => h.imp_right fun hbegun => ⟨hbegun.1, scripts, e, hscan, hfail, hbegun.2⟩

/-- All wrappers were up to date at a time when no file had been removed, and they still are. -/
def WroteAll (a : Attempt) (scripts : List Script) : Prop :=
  ∃ made w, (publishClasses a.settings a.library a.intermediate a.encoding).runFrom a.world = (.ok made, w) ∧
    (∀ l, (a.before.data? l).isSome = true → (w.disk.tree.data? l).isSome = true) ∧
    ∀ x ∈ scripts, a.Current w.disk.tree x ∧ a.Current a.after x

/-- What a run that failed has left. -/
structure Aborted (a : Attempt) : Prop where
  /-- The files of the library and the registry have their bytes and their times, or are still absent. -/
  files : ∀ l, a.Spared l → a.after.file? l = a.before.file? l ∨ l = registryLoc a.root ∧ a.RegistryBroken
  /-- Nothing comes to be in the library or in place of the registry but directories on the way to the package directory. -/
  contents : ∀ l, a.Spared l → a.after.content? l = a.before.content? l ∨
    (a.world.disk.OnWay (packageDir a.intermediate) l ∧ a.before.content? l = none ∧ a.after.content? l = some .dir) ∨
    l = registryLoc a.root ∧ a.RegistryBroken
  /-- Where the way does not go up again, nothing changes there at all. -/
  spared : ".." ∉ a.intermediate.parts → ∀ l, a.Spared l →
    a.after.get? l = a.before.get? l ∨ l = registryLoc a.root ∧ a.RegistryBroken
  /-- A wrapper of a current script has its old bytes or those that come of the script. -/
  wrappers : ∀ scripts, a.world.disk.scan a.library = .ok scripts → ∀ x ∈ scripts,
    a.after.data? (wrapperLoc a.root (classOf x)) = a.before.data? (wrapperLoc a.root (classOf x)) ∨
      a.Current a.after x ∨ a.WrapperBroken x
  /-- Any other file is as it was or is gone. -/
  others : ∀ l, (∀ scripts, a.world.disk.scan a.library = .ok scripts → l ∉ wrapperLocs a.root scripts) →
    a.after.data? l = a.before.data? l ∨ a.after.data? l = none ∨ l = registryLoc a.root ∧ a.RegistryBroken
  /-- Files are removed only after all wrappers were brought up to date. -/
  removals : ∀ l, (a.before.data? l).isSome = true → a.after.data? l = none →
    ∃ scripts, a.world.disk.scan a.library = .ok scripts ∧ a.WroteAll scripts

section

variable {scripts : List Script} {x : Script} {w : World}

theorem gains_of_classes {r : Except Failure (List Wrapper × Nat)} (hfree : a.before.LinkFree)
    (h : (publishClasses a.settings a.library a.intermediate a.encoding).runFrom a.world = (r, w)) :
    Gains (fun l => ∃ scripts, a.world.disk.scan a.library = .ok scripts ∧ l ∈ wrapperLocs a.root scripts)
      a.before w.disk.tree := by
  have hgains := publishClasses_gains_scripts a.settings a.library a.intermediate a.encoding a.world
  rw [h] at hgains
  exact hgains.tree.mono fun l hl => hl hfree

/-- Once all classes are written, each wrapper is up to date and stays so, since it is not stale. -/
theorem current_of_stages (hfree : a.before.LinkFree) (hwell : a.before.WellFormed) (hapart : a.Apart)
    (hscan : a.world.disk.scan a.library = .ok scripts) {made : List Wrapper × Nat}
    (hc : (publishClasses a.settings a.library a.intermediate a.encoding).runFrom a.world = (.ok made, w))
    (hlater : ∀ l, a.after.data? l = w.disk.tree.data? l ∨ Stale (package :: a.root) scripts l ∧ a.after.data? l = none ∨
      l = registryLoc a.root ∧ a.RegistryBroken)
    (hx : x ∈ scripts) : a.Current w.disk.tree x ∧ a.Current a.after x := by
  have hwritten := publishClasses_each hfree hscan hc x hx
  have ⟨data, hcomes, hthere⟩ := hwritten.data? (by simp)
  have hsame : a.after.data? (wrapperLoc a.root (classOf x)) = w.disk.tree.data? (wrapperLoc a.root (classOf x)) := by
    rcases hlater (wrapperLoc a.root (classOf x)) with hsame | ⟨hstale, _⟩ | ⟨hregistry, _⟩
    · exact hsame
    · exact absurd rfl (stale_wrapperLoc.mp hstale x hx)
    · exact absurd hregistry wrapperLoc_ne_registryLoc
  exact ⟨current_of_written hfree hwell hapart hscan hx hcomes hthere,
    current_of_written hfree hwell hapart hscan hx hcomes (hsame.trans hthere)⟩

theorem wrapper_of_failed (hfree : a.before.LinkFree) (hwell : a.before.WellFormed) (hapart : a.Apart)
    (hfail : a.result = .error e) (hscan : a.world.disk.scan a.library = .ok scripts) (hx : x ∈ scripts) :
    a.after.data? (wrapperLoc a.root (classOf x)) = a.before.data? (wrapperLoc a.root (classOf x)) ∨
      a.Current a.after x ∨ a.WrapperBroken x := by
  cases stages_of_failed hfree hfail with
  | inl hfailed =>
    have ⟨w, hc, hafter⟩ := hfailed
    cases publishClasses_each hfree hscan hc x hx with
    | written comes there =>
      rw [← hafter] at there
      exact .inr (.inl (current_of_written hfree hwell hapart hscan hx comes there))
    | untouched _ same =>
      rw [← hafter] at same
      exact .inl same
    | broken failed comes there =>
      rw [← hafter] at there
      have ⟨source, hsource, hdata⟩ := source_of_comes hfree hwell hapart hscan hx comes
      cases failed
      exact .inr (.inr ⟨source, _, _, _, hsource, hdata, hfail, there⟩)
  | inr hlater =>
    have ⟨scripts', made, w, hscan', hc, hlater⟩ := hlater
    cases hscan.symm.trans hscan'
    exact .inr (.inl (current_of_stages hfree hwell hapart hscan hc hlater hx).2)

theorem other_of_failed (hfree : a.before.LinkFree) (hfail : a.result = .error e)
    (hl : ∀ scripts, a.world.disk.scan a.library = .ok scripts → l ∉ wrapperLocs a.root scripts) :
    a.after.data? l = a.before.data? l ∨ a.after.data? l = none ∨ l = registryLoc a.root ∧ a.RegistryBroken := by
  have hkept : ∀ {r w}, (publishClasses a.settings a.library a.intermediate a.encoding).runFrom a.world = (r, w) →
      w.disk.tree.data? l = a.before.data? l := by
    intro r w hc
    refine ((gains_of_classes hfree hc).data? l).resolve_right fun hgained => ?_
    have ⟨scripts, hscan, hmem⟩ := hgained.1
    exact hl scripts hscan hmem
  cases stages_of_failed hfree hfail with
  | inl hfailed =>
    have ⟨w, hc, hafter⟩ := hfailed
    rw [hafter]
    exact .inl (hkept hc)
  | inr hlater =>
    have ⟨scripts, made, w, _, hc, hlater⟩ := hlater
    rw [← hkept hc]
    exact (hlater l).imp_right fun h => h.imp_left fun hgone => hgone.2

theorem wroteAll_of_failed (hfree : a.before.LinkFree) (hwell : a.before.WellFormed) (hapart : a.Apart)
    (hfail : a.result = .error e) (hbefore : (a.before.data? l).isSome = true) (hgone : a.after.data? l = none) :
    ∃ scripts, a.world.disk.scan a.library = .ok scripts ∧ a.WroteAll scripts := by
  cases stages_of_failed hfree hfail with
  | inl hfailed =>
    -- writing classes removes nothing
    have ⟨w, hc, hafter⟩ := hfailed
    have hthere := (gains_of_classes hfree hc).isSome hbefore
    rw [← hafter, hgone] at hthere
    cases hthere
  | inr hlater =>
    have ⟨scripts, made, w, hscan, hc, hlater⟩ := hlater
    refine ⟨scripts, hscan, made, w, hc, fun l hl => (gains_of_classes hfree hc).isSome hl, fun x hx => ?_⟩
    exact current_of_stages hfree hwell hapart hscan hc hlater hx

end

/-- Wherever a run fails, it has left the library and the registry alone, has written no wrapper in part, and has removed
nothing before all wrappers were up to date, but for the file whose writing the system broke off. -/
theorem aborted_of_failed (hfree : a.before.LinkFree) (hwell : a.before.WellFormed) (hapart : a.Apart)
    (hfail : a.result = .error e) : a.Aborted := by
  have hconfined := confined_of_failed hfree hfail
  have houtside : ∀ l, a.Spared l → a.Touched l → l = registryLoc a.root ∧ a.RegistryBroken :=
    fun l hl htouched => htouched.resolve_left fun hbelow => not_spared hapart (.inr hbelow) hl
  constructor
  · intro l hl
    by_cases htouched : a.Touched l
    · exact .inr (houtside l hl htouched)
    · exact .inl (hconfined.file? l htouched)
  · intro l hl
    by_cases htouched : a.Touched l
    · exact .inr (.inr (houtside l hl htouched))
    · exact (hconfined.content? l htouched).imp_right .inl
  · exact fun hup l hl => spared_of_failed hfree hapart hup hfail hl
  · exact fun scripts hscan x hx => wrapper_of_failed hfree hwell hapart hfail hscan hx
  · exact fun l hl => other_of_failed hfree hfail hl
  · exact fun l hbefore hgone => wroteAll_of_failed hfree hwell hapart hfail hbefore hgone

end Attempt

/-- In the sample the second run removes the wrapper of the deleted script, and then it fails. -/
theorem aborted_of_sampleDeleted : (∃ e, (sampleRun sampleDeleted "none").result = .error e) ∧
    (sampleRun sampleDeleted "none").Aborted ∧
    ((sampleRun sampleDeleted "none").before.data? (wrapperLoc sampleRoot "VarA")).isSome = true ∧
    (sampleRun sampleDeleted "none").after.data? (wrapperLoc sampleRoot "VarA") = none := by
  have hfree : (sampleRun sampleDeleted "none").before.LinkFree := linkFree_sampleDeleted
  have hwell : (sampleRun sampleDeleted "none").before.WellFormed := show sampleDeleted.WellFormed by decide +kernel
  have ⟨e, hfail⟩ : ∃ e, (sampleRun sampleDeleted "none").result = .error e := error_of_toOption (by decide +kernel)
  have haborted := Attempt.aborted_of_failed hfree hwell (apart_sampleRun _ _) hfail
  exact ⟨⟨e, hfail⟩, haborted, by decide +kernel, by decide +kernel⟩

/-- A run in the project of the sample, in an encoding that does not exist, to whose root a way through the library leads. -/
def throughLibrary : Attempt :=
  { sampleRun sampleTree "none" with intermediate := ⟨.slash, ["p", "out", "..", "vars", "new", "..", "..", "out"]⟩ }

/-- The same run, where the way to the root leads through the place of the registry. -/
def throughRegistry : Attempt :=
  { sampleRun sampleTree "none" with intermediate := ⟨.slash, ["p", "out", "Vars.groovy", ".."]⟩ }

/-- A run in the project of the sample with no room on the disk for more than three bytes of a file. -/
def brokenRun (file : String) : Attempt :=
  let run := sampleRun sampleTree "utf-8"
  { run with world := { run.world with disk := { run.world.disk with
      obstacles := { writing := [(file, ⟨.ENOSPC, some 3⟩)] } } } }

/-- A run that fails may leave a directory in the library, or one in place of the registry, if the way to its root goes
through it and up again. It may leave a beginning of the registry or of a wrapper. -/
theorem failed_run_may_leave :
    (throughLibrary.before.LinkFree ∧ throughLibrary.before.WellFormed ∧ throughLibrary.Apart ∧
      (∃ e, throughLibrary.result = .error e) ∧
      ∃ l, Below throughLibrary.libraryLoc l ∧ throughLibrary.before.get? l = none ∧
        throughLibrary.after.get? l = some (.dir .now)) ∧
    (throughRegistry.before.LinkFree ∧ throughRegistry.before.WellFormed ∧ throughRegistry.Apart ∧
      (∃ e, throughRegistry.result = .error e) ∧
      throughRegistry.before.get? (registryLoc throughRegistry.root) = none ∧
      throughRegistry.after.get? (registryLoc throughRegistry.root) = some (.dir .now)) ∧
    ∀ file ∈ [("/p/out/Vars.groovy", registryLoc sampleRoot, "cla"),
        ("/p/out/globalvars/VarA.groovy", wrapperLoc sampleRoot "VarA", "pac")],
      (brokenRun file.1).before.LinkFree ∧ (brokenRun file.1).before.WellFormed ∧ (brokenRun file.1).Apart ∧
        (∃ e, (brokenRun file.1).result = .error e) ∧ (brokenRun file.1).before.get? file.2.1 = none ∧
        (brokenRun file.1).after.data? file.2.1 = some (file.2.2.toList.flatMap Charset.utf8Bytes) := by
  have hfree : sampleTree.LinkFree := by decide
  have hwell : sampleTree.WellFormed := by decide
  have hlibrary : Below ["vars", "p"] ["new", "vars", "p"] := by decide
  refine ⟨?_, ?_, fun file hfile => ?_⟩
  · refine ⟨hfree, hwell, apart_sampleRun sampleTree "none", error_of_toOption (by decide +kernel), ?_⟩
    exact ⟨["new", "vars", "p"], hlibrary, by decide +kernel, by decide +kernel⟩
  · refine ⟨hfree, hwell, apart_sampleRun sampleTree "none", error_of_toOption (by decide +kernel), ?_⟩
    exact ⟨by decide +kernel, by decide +kernel⟩
  · refine ⟨hfree, hwell, apart_sampleRun sampleTree "utf-8", error_of_toOption ?_, ?_, ?_⟩
    all_goals
      revert file
      decide +kernel

end JavaStubs.Library
