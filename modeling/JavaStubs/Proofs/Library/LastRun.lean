import JavaStubs.Proofs.Library.History
import JavaStubs.Proofs.Source.Leaves

/-! What the files below a root are after a run that succeeded: they come from the library, the patterns and the
encoding of that run, whatever earlier runs left behind. -/
namespace JavaStubs.Library

open FileTree

theorem entryLess_iff {a b : String × String} :
    entryLess a b = true ↔ a.1 < b.1 ∨ (a.1 = b.1 ∧ a.2 ≤ b.2) := by
  simp [entryLess]

theorem entryLess_trans {a b c : String × String} (h : entryLess a b = true) (h' : entryLess b c = true) :
    entryLess a c = true := by
  rw [entryLess_iff] at *
  rcases h with h | ⟨h, hle⟩
  · rcases h' with h' | ⟨h', -⟩
    · exact .inl (String.lt_trans h h')
    · exact .inl (h' ▸ h)
  · rw [h]
    exact h'.imp_right fun hl => ⟨hl.1, String.le_trans hle hl.2⟩

theorem entryLess_total (a b : String × String) : (entryLess a b || entryLess b a) = true := by
  rw [Bool.or_eq_true, entryLess_iff, entryLess_iff]
  by_cases h : a.1 = b.1
  · exact (String.le_total a.2 b.2).imp (fun hle => .inr ⟨h, hle⟩) fun hle => .inr ⟨h.symm, hle⟩
  · exact (String.le_total a.1 b.1).imp (fun hle => .inl (Std.lt_of_le_of_ne hle h))
      fun hle => .inl (Std.lt_of_le_of_ne hle (Ne.symm h))

theorem entryLess_antisymm {a b : String × String} (h : entryLess a b = true) (h' : entryLess b a = true) : a = b := by
  rw [entryLess_iff] at *
  rcases h with h | ⟨h, hle⟩
  · rcases h' with h' | ⟨h', -⟩
    · exact absurd (String.lt_trans h h') (String.lt_irrefl _)
    · exact absurd (h' ▸ h) (String.lt_irrefl _)
  · rcases h' with h' | ⟨-, hle'⟩
    · exact absurd (h ▸ h') (String.lt_irrefl _)
    · exact Prod.ext h (String.le_antisymm hle hle')

theorem mergeSort_entryLess_eq {xs ys : List (String × String)} (h : xs.Perm ys) :
    xs.mergeSort entryLess = ys.mergeSort entryLess := by
  have hsorted : ∀ zs : List (String × String), (zs.mergeSort entryLess).Pairwise (entryLess · ·) :=
    List.pairwise_mergeSort (fun _ _ _ => entryLess_trans) entryLess_total
  exact List.Perm.eq_of_pairwise (fun _ _ _ _ => entryLess_antisymm) (hsorted xs) (hsorted ys)
    ((List.mergeSort_perm xs _).trans (h.trans (List.mergeSort_perm ys _).symm))

theorem Reached.linkFree {root : Loc} {as : List Attempt} {a : Attempt} {t : FileTree}
    (h : Reached root (a :: as) t) : t.LinkFree := by
  rcases h with _ | ⟨_, hfree, _, _⟩
  exact (publish_touches hfree a.outcome_eq).1

theorem Reached.generated {root : Loc} {as : List Attempt} {t : FileTree} (h : Reached root as t) {l : Loc}
    (hl : Below root l) (hsome : (t.data? l).isSome = true) : Generated root l := by
  induction h with
  | absent hnone =>
    rw [FileTree.data?, content?_eq_none.2 (hnone l hl)] at hsome
    cases hsome
  | @attempt as t a _ hfree hroot hsame ih =>
    subst hroot
    by_cases hg : Generated a.root l
    · exact hg
    · refine ih ?_
      rw [← data?_of_get?_eq (hsame l hl)]
      rwa [show a.after.data? l = a.before.data? l from (publish_touches hfree a.outcome_eq).2 l hg] at hsome

namespace Attempt

/-- A run that succeeds, and may list the package directory, on a tree that a file system can hold, with library and
root apart. -/
structure Succeeds (a : Attempt) : Prop where
  result : ∃ p, a.result = .ok p
  wellFormed : a.before.WellFormed
  apart : a.Apart
  listed : a.world.disk.unlisted? (packageDir a.intermediate) = none

/-- The files below a root are the registry and one wrapper for each script that the run scanned, with the bytes that
the run makes of its scripts. -/
structure HasLeft (a : Attempt) (root : Loc) (t : FileTree) (scripts : List Script) : Prop where
  scan : a.world.disk.scan a.library = .ok scripts
  nodup : (scripts.map classOf).Nodup
  files : ∀ names, (t.data? (names ++ root)).isSome = true ↔
    names = [registryStem ++ scriptSuffix] ∨ ∃ x ∈ scripts, names = [classOf x ++ scriptSuffix, package]
  registry : ∃ data, Charset.encodeAs a.encoding
      (registryText (registryOf a.intermediate (scripts.map (wrapperOf a.intermediate))).entries) = .ok data ∧
    t.data? (registryLoc root) = some data
  wrappers : ∀ x ∈ scripts, ∃ source data, a.before.data? (a.world.disk.place x.path) = some source ∧
    wrapperData a.encoding (classOf x) source = .ok data ∧ t.data? (wrapperLoc root (classOf x)) = some data

/-- The library of a run, its patterns and the encoding are those of another run, wherever its directory is. -/
structure SameInput (a b : Attempt) : Prop where
  files : ∀ names, b.before.data? (names ++ b.libraryLoc) = a.before.data? (names ++ a.libraryLoc)
  includes : b.library.includes = a.library.includes
  excludes : b.library.excludes = a.library.excludes
  encoding : b.encoding = a.encoding

theorem SameInput.symm {a b : Attempt} (h : a.SameInput b) : b.SameInput a :=
  ⟨fun names => (h.files names).symm, h.includes.symm, h.excludes.symm, h.encoding.symm⟩

theorem not_below_of_mem_scan {a : Attempt} (ha : a.Succeeds) (hfree : a.before.LinkFree) {scripts : List Script}
    (hscan : a.world.disk.scan a.library = .ok scripts) {x : Script} (hx : x ∈ scripts) :
    ¬Below a.root (a.world.disk.place x.path) :=
  Disk.not_below_of_mem_scan hfree ha.wellFormed hscan ha.apart.1 ha.apart.2 hx

end Attempt

theorem Reached.hasLeft {root : Loc} {as : List Attempt} {a : Attempt} {t : FileTree}
    (h : Reached root (a :: as) t) (ha : a.Succeeds) : ∃ scripts, a.HasLeft root t scripts := by
  have hgenerated : ∀ l, Below root l → (t.data? l).isSome = true → Generated root l := fun _ => h.generated
  rcases h with _ | ⟨_, hfree, rfl, _⟩
  obtain ⟨p, hp⟩ := ha.result
  have hrun := a.outcome_eq
  rw [hp] at hrun
  obtain ⟨scripts, hscan, hn, hreg, hregistry, hwrappers, hstale⟩ := publish_succeeded hfree hrun
  rw [hreg] at hregistry
  refine ⟨scripts, hscan, hn, fun names => ?_, hregistry, fun x hx => ?_⟩
  · constructor
    · intro hsome
      rcases hgenerated _ (List.suffix_append _ _) hsome with heq | ⟨n, hends, heq⟩
      · exact .inl (List.append_cancel_right (heq : _ = [registryStem ++ scriptSuffix] ++ a.root))
      · obtain rfl : names = [n, package] := List.append_cancel_right (heq : _ = [n, package] ++ a.root)
        by_cases hx : ∃ x ∈ scripts, n = classOf x ++ scriptSuffix
        · obtain ⟨x, hx, rfl⟩ := hx
          exact .inr ⟨x, hx, rfl⟩
        · -- a file of no script of the run is stale, and it may be listed, so it is gone
          have hnone := hstale ha.listed n ⟨n, hends, fun x hmem heq => hx ⟨x, hmem, heq⟩, rfl⟩ fun hold => by
            obtain ⟨data, hdata⟩ := Option.isSome_iff_exists.1 hold
            obtain ⟨e, he, -⟩ := get?_of_content? (data?_eq_some.1 hdata)
            exact ha.wellFormed.named he
          rw [show a.after.data? ([n, package] ++ a.root) = none from hnone] at hsome
          cases hsome
    · rintro (rfl | ⟨x, hx, rfl⟩)
      · obtain ⟨data, -, hthere⟩ := hregistry
        exact Option.isSome_iff_exists.2 ⟨data, hthere⟩
      · obtain ⟨data, -, hthere⟩ := hwrappers x hx
        exact Option.isSome_iff_exists.2 ⟨data, hthere⟩
  · obtain ⟨data, ⟨t, source, ht, hsource, hdata⟩, hthere⟩ := hwrappers x hx
    refine ⟨source, data, ?_, hdata, hthere⟩
    rw [← hsource]
    refine ((ht.data? _).resolve_right fun hg => ?_).symm
    obtain ⟨y, -, heq⟩ := List.mem_map.1 hg.1
    exact Attempt.not_below_of_mem_scan ha hfree hscan hx (heq ▸ below_wrapperLoc _ _)

namespace Attempt

variable {a b : Attempt} {xs ys : List Script}

theorem SameInput.exists_script (h : a.SameInput b) (ha : a.before.LinkFree) (hb : b.before.LinkFree)
    (hwa : a.before.WellFormed) (hwb : b.before.WellFormed) (hxs : a.world.disk.scan a.library = .ok xs)
    (hys : b.world.disk.scan b.library = .ok ys) {x : Script} (hx : x ∈ xs) :
    ∃ y ∈ ys, y.baseName = x.baseName ∧
      b.before.data? (b.world.disk.place y.path) = a.before.data? (a.world.disk.place x.path) := by
  obtain ⟨names, hn, hdata, hsel, rfl⟩ := (Disk.mem_scan ha hwa hxs).1 hx
  have hfile : b.before.data? (names.reverse ++ b.world.disk.place b.library.directory) =
      a.before.data? (names.reverse ++ a.world.disk.place a.library.directory) := h.files names.reverse
  have hdata' : (b.before.data? (names.reverse ++ b.world.disk.place b.library.directory)).isSome = true := by
    rw [hfile]
    exact hdata
  have hsel' : b.library.selects SuffixMapping.standard names = true := by
    rw [← hsel]
    simp only [SourceSet.selects, SourceSet.effectiveIncludes, SourceSet.effectiveExcludes, h.includes, h.excludes]
  refine ⟨_, (Disk.mem_scan hb hwb hys).2 ⟨names, hn, hdata', hsel', rfl⟩, ?_, ?_⟩
  · rw [Disk.ofPath_descend (Disk.scan_ok hxs).1, Disk.ofPath_descend (Disk.scan_ok hys).1]
    exact (FilePath.name_descend _ hn).trans (FilePath.name_descend _ hn).symm
  · rw [Disk.place_of_mem_scan hwb hys hdata', Disk.place_of_mem_scan hwa hxs hdata, hfile]

theorem registryOf_entries (intermediate : FilePath) (xs : List Script) :
    (registryOf intermediate (xs.map (wrapperOf intermediate))).entries =
      (xs.map fun x => (variableName x.baseName, classOf x)).mergeSort entryLess := by
  simp [registryOf, wrapperOf, Function.comp_def]

theorem classOf_eq {x y : Script} (h : y.baseName = x.baseName) : classOf y = classOf x := by
  rw [classOf, classOf, h]

/-- The registry depends on the names of the scripts alone, not on the order in which they were found. -/
theorem entries_eq {intermediate intermediate' : FilePath} (hx : (xs.map classOf).Nodup) (hy : (ys.map classOf).Nodup)
    (hxy : ∀ x ∈ xs, ∃ y ∈ ys, y.baseName = x.baseName) (hyx : ∀ y ∈ ys, ∃ x ∈ xs, x.baseName = y.baseName) :
    (registryOf intermediate' (ys.map (wrapperOf intermediate'))).entries =
      (registryOf intermediate (xs.map (wrapperOf intermediate))).entries := by
  have hnodup : ∀ {zs : List Script}, (zs.map classOf).Nodup →
      (zs.map fun z => (variableName z.baseName, classOf z)).Nodup := by
    intro zs hz
    have hsnd : ((zs.map fun z => (variableName z.baseName, classOf z)).map Prod.snd).Nodup := by
      rw [List.map_map]
      exact hz
    exact List.Pairwise.of_map Prod.snd (fun _ _ hne heq => hne (congrArg _ heq)) hsnd
  have hsub : ∀ {us vs : List Script}, (∀ u ∈ us, ∃ v ∈ vs, v.baseName = u.baseName) → ∀ e,
      e ∈ us.map (fun z => (variableName z.baseName, classOf z)) →
      e ∈ vs.map fun z => (variableName z.baseName, classOf z) := by
    intro us vs h e he
    obtain ⟨u, hu, rfl⟩ := List.mem_map.1 he
    obtain ⟨v, hv, hvu⟩ := h u hu
    exact List.mem_map.2 ⟨v, hv, by rw [classOf_eq hvu, hvu]⟩
  rw [registryOf_entries, registryOf_entries]
  exact mergeSort_entryLess_eq ((List.perm_ext_iff_of_nodup (hnodup hy) (hnodup hx)).2 fun e =>
    ⟨hsub hyx e, hsub hxy e⟩)

end Attempt

theorem Attempt.HasLeft.data?_eq {a b : Attempt} {root root' : Loc} {t t' : FileTree} {xs ys : List Script}
    (ha : a.HasLeft root t xs) (hb : b.HasLeft root' t' ys) (h : a.SameInput b)
    (hxy : ∀ x ∈ xs, ∃ y ∈ ys, y.baseName = x.baseName ∧
      b.before.data? (b.world.disk.place y.path) = a.before.data? (a.world.disk.place x.path))
    (hyx : ∀ y ∈ ys, ∃ x ∈ xs, x.baseName = y.baseName)
    (names : List String) : t'.data? (names ++ root') = t.data? (names ++ root) := by
  by_cases hreg : names = [registryStem ++ scriptSuffix]
  · subst hreg
    obtain ⟨data, hdata, hthere⟩ := ha.registry
    obtain ⟨data', hdata', hthere'⟩ := hb.registry
    rw [entries_eq ha.nodup hb.nodup (fun x hx => (hxy x hx).imp fun _ hy => ⟨hy.1, hy.2.1⟩) hyx, h.encoding,
      hdata, Except.ok.injEq] at hdata'
    exact hthere'.trans (hdata' ▸ hthere.symm)
  by_cases hclass : ∃ x ∈ xs, names = [classOf x ++ scriptSuffix, package]
  · obtain ⟨x, hx, rfl⟩ := hclass
    obtain ⟨y, hy, hname, hfile⟩ := hxy x hx
    obtain ⟨source, data, hsource, hdata, hthere⟩ := ha.wrappers x hx
    obtain ⟨source', data', hsource', hdata', hthere'⟩ := hb.wrappers y hy
    rw [hfile, hsource, Option.some.injEq] at hsource'
    rw [h.encoding, ← hsource', classOf_eq hname, hdata, Except.ok.injEq] at hdata'
    rw [classOf_eq hname] at hthere'
    exact hthere'.trans (hdata' ▸ hthere.symm)
  · have hnone : t.data? (names ++ root) = none := by
      rw [← Option.not_isSome_iff_eq_none, ha.files]
      exact fun h => h.elim hreg hclass
    have hnone' : t'.data? (names ++ root') = none := by
      rw [← Option.not_isSome_iff_eq_none, hb.files]
      rintro (heq | ⟨y, hy, rfl⟩)
      · exact hreg heq
      · obtain ⟨x, hx, hname⟩ := hyx y hy
        exact hclass ⟨x, hx, by rw [classOf_eq hname]⟩
    rw [hnone, hnone']

/-- After a run that succeeds, the regular files below the root are the registry and one wrapper for each script of that
run, whatever runs came before; and runs with other histories leave the same bytes if their last run has the same
library, patterns and encoding. -/
theorem Reached.files_of_last_run {root : Loc} {as : List Attempt} {a : Attempt} {t : FileTree}
    (h : Reached root (a :: as) t) (ha : a.Succeeds) :
    (∃ scripts, a.HasLeft root t scripts) ∧
      ∀ {root' as' b t'}, Reached root' (b :: as') t' → b.Succeeds → a.SameInput b →
        ∀ names, t'.data? (names ++ root') = t.data? (names ++ root) := by
  obtain ⟨xs, hxs⟩ := h.hasLeft ha
  refine ⟨⟨xs, hxs⟩, fun {root' as' b t'} h' hb hab names => ?_⟩
  obtain ⟨ys, hys⟩ := h'.hasLeft hb
  have hfree : a.before.LinkFree := by
    rcases h with _ | ⟨_, hfree, _, _⟩
    exact hfree
  have hfree' : b.before.LinkFree := by
    rcases h' with _ | ⟨_, hfree', _, _⟩
    exact hfree'
  refine hxs.data?_eq hys hab (fun x hx => ?_) (fun y hy => ?_) names
  · exact hab.exists_script hfree hfree' ha.wellFormed hb.wellFormed hxs.scan hys.scan hx
  · obtain ⟨x, hx, hname, -⟩ :=
      hab.symm.exists_script hfree' hfree hb.wellFormed ha.wellFormed hys.scan hxs.scan hy
    exact ⟨x, hx, hname⟩

/-- The library of the sample without its script, in a project without any run. -/
def sampleEmpty : FileTree :=
  sampleTree.erase ["a.groovy", "vars", "p"]

theorem sameInput_sample :
    (sampleRun sampleDeleted "utf-8").SameInput (sampleRun sampleEmpty "utf-8") where
  files names := by
    have hnot : ¬Generated sampleRoot (names ++ ["vars", "p"]) := fun hg => by
      rcases List.suffix_or_suffix_of_suffix hg.below (List.suffix_append names ["vars", "p"]) with h | h
      · exact absurd h (by decide)
      · exact absurd h (by decide)
    have hsame : (sampleRun sampleTree "utf-8").after.data? (names ++ ["vars", "p"]) =
        sampleTree.data? (names ++ ["vars", "p"]) :=
      (publish_touches (by decide) (sampleRun sampleTree "utf-8").outcome_eq).2 _ hnot
    change sampleEmpty.data? (names ++ ["vars", "p"]) = sampleDeleted.data? (names ++ ["vars", "p"])
    rw [sampleEmpty, sampleDeleted, data?_erase, data?_erase, hsame]
  includes := rfl
  excludes := rfl
  encoding := rfl

theorem succeeds_sample {tree : FileTree} (hok : (sampleRun tree "utf-8").result.isOk = true)
    (hwell : tree.WellFormed) : (sampleRun tree "utf-8").Succeeds where
  result := by
    cases hr : (sampleRun tree "utf-8").result with
    | ok p => exact ⟨p, rfl⟩
    | error e =>
      rw [hr] at hok
      cases hok
  wellFormed := hwell
  apart := apart_sampleRun tree "utf-8"
  listed := rfl

/-- After the script was deleted, a second run leaves what a first run would. -/
theorem files_of_sampleDeleted :
    Reached sampleRoot [sampleRun sampleDeleted "utf-8", sampleRun sampleTree "utf-8"]
        (sampleRun sampleDeleted "utf-8").after ∧ (sampleRun sampleDeleted "utf-8").Succeeds ∧
      ((∃ scripts, (sampleRun sampleDeleted "utf-8").HasLeft sampleRoot (sampleRun sampleDeleted "utf-8").after scripts) ∧
        ∀ names, (sampleRun sampleEmpty "utf-8").after.data? (names ++ sampleRoot) =
          (sampleRun sampleDeleted "utf-8").after.data? (names ++ sampleRoot)) := by
  have hreached := reached_sampleDeleted "utf-8"
  have hdeleted : (sampleRun sampleDeleted "utf-8").Succeeds := succeeds_sample (by decide +kernel) (by decide +kernel)
  have hempty : (sampleRun sampleEmpty "utf-8").Succeeds := succeeds_sample (by decide +kernel) (by decide +kernel)
  have hreached' : Reached sampleRoot [sampleRun sampleEmpty "utf-8"] (sampleRun sampleEmpty "utf-8").after :=
    .attempt (.absent fun _ => get?_below_eq_none (by decide +kernel)) (by decide +kernel) rfl fun _ _ => rfl
  obtain ⟨hleft, hsame⟩ := hreached.files_of_last_run hdeleted
  exact ⟨hreached, hdeleted, hleft, hsame hreached' hempty sameInput_sample⟩

end JavaStubs.Library
