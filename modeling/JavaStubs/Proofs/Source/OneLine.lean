import JavaStubs.Proofs.Source.Segments
import JavaStubs.Proofs.Source.Selection
import JavaStubs.Proofs.Text.Lines

/-! What a source set without includes finds. A final `**` takes the rest of a path only if that is on one line, while
`**/*` takes every path. -/
namespace JavaStubs

namespace Text

theorem toList_join_cons {name : String} {names : List String} (h : names ≠ []) :
    (join "/" (name :: names)).toList = name.toList ++ '/' :: (join "/" names).toList := by
  cases names with
  | nil => contradiction
  | cons next rest => simp [join, String.intercalate_cons_cons]

theorem toList_join_append (above : List String) {below : List String} (h : below ≠ []) :
    (join "/" (above ++ below)).toList =
      above.flatMap (fun name => name.toList ++ ['/']) ++ (join "/" below).toList := by
  induction above with
  | nil => rfl
  | cons name above ih =>
    rw [List.cons_append, toList_join_cons (List.append_ne_nil_of_right_ne_nil _ h), ih]
    simp

end Text

def FileTree.NoEmptyName (t : FileTree) : Prop :=
  ∀ e ∈ t.entries, "" ∉ e.1

instance (t : FileTree) : Decidable t.NoEmptyName :=
  inferInstanceAs (Decidable (∀ e ∈ t.entries, "" ∉ e.1))

theorem Disk.IsLeaf.noEmptyName {d : Disk} {l : Loc} {names : List String} (h : d.IsLeaf l names)
    (hnames : d.tree.NoEmptyName) : "" ∉ names := by
  obtain ⟨e, he, -⟩ := h.get?
  have hway := hnames _ (FileTree.get?_eq_some_iff.1 he)
  rw [List.mem_append, List.mem_reverse, not_or] at hway
  exact hway.1

def OneLine (names : List String) : Prop :=
  ∀ name ∈ names, '\n' ∉ name.toList

instance (names : List String) : Decidable (OneLine names) :=
  inferInstanceAs (Decidable (∀ name ∈ names, '\n' ∉ name.toList))

theorem oneLine_iff {names : List String} : OneLine names ↔ '\n' ∉ (Text.join "/" names).toList :=
  (Text.onOneLine_intercalate (by decide)).symm

namespace Pattern

variable {path : List Char} {names : List String}

theorem accepts_all_iff : accepts [.all] path = true ↔ '\n' ∉ path := by
  refine ⟨fun h => ?_, accepts_all⟩
  induction path with
  | nil => exact List.not_mem_nil
  | cons d ds ih =>
    rw [accepts, Bool.or_eq_true, Bool.and_eq_true, bne_iff_ne] at h
    rcases h with h | ⟨hd, h⟩
    · cases accepts_nil_iff.1 h
    · exact List.not_mem_cons_of_ne_of_not_mem (Ne.symm hd) (ih h)

theorem picks_doubleStar_iff : picks "**" (Text.join "/" names) = true ↔ OneLine names := by
  have hatoms : atoms "**" = [.all] := by decide
  rw [picks, hatoms, accepts_all_iff, oneLine_iff]

/-- Whatever is accepted is accepted behind whole directories too. -/
theorem accepts_dirs_join {as : List Atom} {rest : List Char} (h : accepts as rest = true) {above : List String}
    (hempty : "" ∉ above) (hslash : ∀ name ∈ above, '/' ∉ name.toList) :
    accepts (.dirs :: as) (above.flatMap (fun name => name.toList ++ ['/']) ++ rest) = true := by
  induction above with
  | nil => exact accepts_dirs_iff.2 (.inl h)
  | cons name above ih =>
    obtain ⟨hname, hempty⟩ := List.ne_and_not_mem_of_not_mem_cons hempty
    obtain ⟨hnot, hslash⟩ := List.forall_mem_cons.1 hslash
    have hfilled : name.toList ≠ [] := fun hnil => hname (String.toList_eq_nil_iff.1 hnil).symm
    refine accepts_dirs_iff.2 (.inr ⟨name.toList, _, ?_, hfilled, hnot, ih hempty hslash⟩)
    simp

theorem picks_anyName (hn : names ≠ []) (hempty : "" ∉ names) (hslash : ∀ name ∈ names, '/' ∉ name.toList) :
    picks "**/*" (Text.join "/" names) = true := by
  have hatoms : atoms "**/*" = [.dirs, .run] := by decide
  obtain ⟨above, last, rfl⟩ : ∃ above last, names = above ++ [last] := ⟨_, _, (List.dropLast_concat_getLast hn).symm⟩
  rw [List.mem_append, not_or] at hempty
  rw [List.forall_mem_append] at hslash
  have hlast : accepts [.run] last.toList = true := by
    have hrun := accepts_run_append (accepts_nil_iff.2 rfl) (hslash.2 last List.mem_cons_self)
    rwa [List.append_nil] at hrun
  rw [picks, hatoms, Text.toList_join_append above (List.cons_ne_nil _ _)]
  simpa [Text.join] using accepts_dirs_join hlast hempty.1 hslash.1

end Pattern

namespace SourceSet

variable {s : SourceSet} {mappings : List SuffixMapping} {names : List String}

def namesTo (s : SourceSet) (x : Script) : List String :=
  x.path.parts.drop s.directory.parts.length

theorem namesTo_scriptAt : s.namesTo (s.scriptAt names) = names :=
  List.drop_left

theorem selects_without_includes (hn : names ≠ []) (hempty : "" ∉ names) (hslash : ∀ name ∈ names, '/' ∉ name.toList) :
    selects { s with includes := [] } mappings names =
      (selects { s with includes := ["**/*"] } mappings names && decide (OneLine names)) := by
  have hall : Pattern.picks "**" (Text.join "/" names) = decide (OneLine names) := by
    rw [Bool.eq_iff_iff, Pattern.picks_doubleStar_iff, decide_eq_true_iff]
  simp only [selects, effectiveIncludes, effectiveExcludes, Pattern.anyPicks, List.isEmpty_nil, List.isEmpty_cons,
    if_true, Bool.false_eq_true, if_false, List.any_cons, List.any_nil, Bool.or_false, hall,
    Pattern.picks_anyName hn hempty hslash, Bool.and_true]
  ac_rfl

end SourceSet

namespace Disk

variable {d : Disk} {s : SourceSet} {mappings : List SuffixMapping} {scripts : List Script}

theorem ofPath_eq_scriptAt (habs : s.directory.isAbsolute = true) {names : List String} (hn : names ≠ []) :
    Script.ofPath d.cwd (s.directory.descend names) = s.scriptAt names := by
  rw [ofPath_descend habs, FilePath.name_descend _ hn]
  rfl

theorem mem_scan_iff (h : d.scan s mappings = .ok scripts) : ∃ l m, d.stat s.directory = .ok (l, .dir m) ∧
    ∀ x, x ∈ scripts ↔ ∃ names, x = s.scriptAt names ∧ d.IsLeaf l names ∧ s.Wants mappings names := by
  obtain ⟨habs, l, m, hstat, hmem⟩ := scan_ok h
  refine ⟨l, m, hstat, fun x => (hmem x).trans (exists_congr fun names => ?_)⟩
  rw [SourceSet.selects_iff]
  constructor
  · rintro ⟨hleaf, hwants, rfl⟩
    exact ⟨ofPath_eq_scriptAt habs hleaf.ne_nil, hleaf, hwants⟩
  · rintro ⟨rfl, hleaf, hwants⟩
    exact ⟨hleaf, hwants, (ofPath_eq_scriptAt habs hleaf.ne_nil).symm⟩

theorem scriptAt_mem_scan (h : d.scan s mappings = .ok scripts) : ∃ l m, d.stat s.directory = .ok (l, .dir m) ∧
    ∀ names, s.scriptAt names ∈ scripts ↔ d.IsLeaf l names ∧ s.Wants mappings names := by
  obtain ⟨l, m, hstat, hmem⟩ := mem_scan_iff h
  refine ⟨l, m, hstat, fun names => (hmem _).trans ?_⟩
  constructor
  · rintro ⟨names', hsame, hfound⟩
    rwa [SourceSet.scriptAt_inj hsame]
  · exact fun hfound => ⟨names, rfl, hfound⟩

theorem found_of_selects (habs : s.directory.isAbsolute = true) {l : Loc} {m : Stamp}
    (hstat : d.stat s.directory = .ok (l, .dir m)) (hlist : d.ListsBelow s.directory l) {names : List String} (hleaf : d.IsLeaf l names)
    (hselects : s.selects mappings names = true) :
    ∃ scripts, d.scan s mappings = .ok scripts ∧ s.scriptAt names ∈ scripts := by
  obtain ⟨scripts, hscan⟩ := scan_of_listed (sourceDirectory_of_stat habs hstat) hlist mappings
  obtain ⟨l', m', hstat', hmem⟩ := scriptAt_mem_scan hscan
  cases hstat.symm.trans hstat'
  exact ⟨scripts, hscan, (hmem names).2 ⟨hleaf, SourceSet.selects_iff.1 hselects⟩⟩

theorem scan_including (includes : List String) : d.scan { s with includes } mappings =
    match d.sourceDirectory s with
    | .error e => .error e
    | .ok l =>
      match d.leaves s.directory l [] with
      | .error e => .error (.stub (.cannotScan s.directory e))
      | .ok leaves =>
        .ok (((sortByText leaves).filter (SourceSet.selects { s with includes } mappings)).map fun names =>
          .ofPath d.cwd (s.directory.descend names)) := by
  have hdirectory : d.sourceDirectory { s with includes } = d.sourceDirectory s := rfl
  unfold scan
  rw [hdirectory]
  cases d.sourceDirectory s <;> rfl

/-- Without includes a scan finds what it finds with `**/*`, as far as the way to it has no line break. Nothing else is
left out: every leaf is found that has a suffix, matches no exclude and lies on such a way. -/
theorem scan_without_includes (hwell : d.tree.WellFormed) (hnames : d.tree.NoEmptyName) :
    d.scan { s with includes := [] } mappings = (d.scan { s with includes := ["**/*"] } mappings).map
        (List.filter fun x => decide (OneLine (s.namesTo x))) ∧
      ∀ scripts, d.scan { s with includes := [] } mappings = .ok scripts →
        ∃ l m, d.stat s.directory = .ok (l, .dir m) ∧ ∀ names, s.scriptAt names ∈ scripts ↔
          d.IsLeaf l names ∧ (∃ m ∈ mappings, ∃ stem, stem ≠ "" ∧ names.getLast? = some (stem ++ m.source)) ∧
            (∀ p ∈ s.excludes ++ Pattern.standardExcludes, ¬Pattern.picks p (Text.join "/" names) = true) ∧
            OneLine names := by
  constructor
  · rw [scan_including, scan_including]
    rcases hs : d.sourceDirectory s with e | l
    · rfl
    dsimp only
    rcases hfound : d.leaves s.directory l [] with e | found
    · rfl
    have habs := (sourceDirectory_ok hs).1
    have hleaf : ∀ names ∈ sortByText found, d.IsLeaf l names := by
      simp [sortByText, leaves_ok hfound]
    refine congrArg Except.ok ?_
    rw [List.filter_map, List.filter_filter]
    refine congrArg _ (List.filter_congr fun names hmem => ?_)
    have hthere := hleaf names hmem
    rw [SourceSet.selects_without_includes hthere.ne_nil (hthere.noEmptyName hnames) (hthere.noSlash hwell),
      Function.comp_apply, ofPath_eq_scriptAt habs hthere.ne_nil, SourceSet.namesTo_scriptAt, Bool.and_comm]
  · intro scripts hscan
    obtain ⟨l, m, hstat, hmem⟩ := scriptAt_mem_scan hscan
    refine ⟨l, m, hstat, fun names => (hmem names).trans (and_congr_right fun _ => ?_)⟩
    constructor
    · intro hwants
      have hall : Pattern.picks "**" (Text.join "/" names) = true := by
        simpa using hwants.included
      exact ⟨hwants.mapped, List.forall_mem_append.2 ⟨hwants.notExcluded, hwants.notStandard⟩,
        Pattern.picks_doubleStar_iff.1 hall⟩
    · rintro ⟨hmapped, hexcluded, hline⟩
      obtain ⟨hdeclared, hstandard⟩ := List.forall_mem_append.1 hexcluded
      exact ⟨hmapped, .inl ⟨rfl, Pattern.picks_doubleStar_iff.2 hline⟩, hdeclared, hstandard⟩

/-- Two scripts, one of them with a line break in its name. -/
def brokenDisk : Disk where
  tree := {
    entries := [([], .dir .now), (["p"], .dir .now), (["a.groovy", "p"], .file [] .now .now),
      (["b\nc.groovy", "p"], .file [] .now .now)]
    nodup := by decide }
  cwd := ⟨.slash, []⟩

theorem found_brokenDisk (includes names : List String) (hleaf : brokenDisk.IsLeaf ["p"] names)
    (hselects : SourceSet.selects { crowdedSet with includes } SuffixMapping.standard names = true) :
    ∃ scripts, brokenDisk.scan { crowdedSet with includes } = .ok scripts ∧ crowdedSet.scriptAt names ∈ scripts :=
  found_of_selects (s := { crowdedSet with includes }) rfl
    (ok_of_toOption (by decide +kernel : (brokenDisk.stat ⟨.slash, ["p"]⟩).toOption = some (["p"], .dir .now)))
    (by decide +kernel : brokenDisk.ListsBelow ⟨.slash, ["p"]⟩ ["p"]) hleaf hselects

theorem scan_brokenDisk : brokenDisk.tree.WellFormed ∧ brokenDisk.tree.NoEmptyName ∧
    brokenDisk.scan { crowdedSet with includes := [] } = (brokenDisk.scan { crowdedSet with includes := ["**/*"] }).map
      (List.filter fun x => decide (OneLine (crowdedSet.namesTo x))) ∧
    ∃ scripts, brokenDisk.scan { crowdedSet with includes := [] } = .ok scripts ∧
      crowdedSet.scriptAt ["a.groovy"] ∈ scripts ∧
      ∃ l m, brokenDisk.stat crowdedSet.directory = .ok (l, .dir m) ∧
        ∀ names, crowdedSet.scriptAt names ∈ scripts ↔ brokenDisk.IsLeaf l names ∧
          (∃ m ∈ SuffixMapping.standard, ∃ stem, stem ≠ "" ∧ names.getLast? = some (stem ++ m.source)) ∧
          (∀ p ∈ crowdedSet.excludes ++ Pattern.standardExcludes, ¬Pattern.picks p (Text.join "/" names) = true) ∧
          OneLine names := by
  have hwell : brokenDisk.tree.WellFormed := by decide +kernel
  have hnames : brokenDisk.tree.NoEmptyName := by decide
  obtain ⟨hsame, hall⟩ := @scan_without_includes brokenDisk crowdedSet SuffixMapping.standard hwell hnames
  obtain ⟨scripts, hscan, hfound⟩ := found_brokenDisk [] ["a.groovy"]
    ⟨.file [] .now .now, by decide +kernel, rfl⟩ (by decide +kernel)
  exact ⟨hwell, hnames, hsame, scripts, hscan, hfound, hall scripts hscan⟩

/-- A script with a line break in its name is found with `**/*` and not without includes. -/
theorem script_may_be_left_out : ¬∀ (d : Disk) (s : SourceSet) (mappings : List SuffixMapping),
    d.tree.WellFormed → d.tree.NoEmptyName →
      d.scan { s with includes := [] } mappings = d.scan { s with includes := ["**/*"] } mappings := by
  intro h
  have hsame := h brokenDisk crowdedSet SuffixMapping.standard (by decide +kernel) (by decide)
  obtain ⟨scripts, hscan, hfound⟩ := found_brokenDisk ["**/*"] ["b\nc.groovy"]
    ⟨.file [] .now .now, by decide +kernel, rfl⟩ (by decide +kernel)
  obtain ⟨l, m, -, hmem⟩ := scriptAt_mem_scan (hsame.trans hscan)
  have hselects := SourceSet.selects_iff.2 ((hmem _).1 hfound).2
  revert hselects
  decide +kernel

end Disk

end JavaStubs
