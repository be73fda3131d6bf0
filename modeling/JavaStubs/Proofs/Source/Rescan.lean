import JavaStubs.Proofs.Disk.SameContents

/-! When a scan finds the same scripts again. It depends on the leaves that the set selects, and on the listings that
it needs. -/
namespace JavaStubs

theorem pairwise_sortByText (paths : List (List String)) :
    (sortByText paths).Pairwise fun a b => Text.join "/" a ≤ Text.join "/" b := by
  have hsorted : (sortByText paths).Pairwise fun a b => decide (Text.join "/" a ≤ Text.join "/" b) = true :=
    List.pairwise_mergeSort (by simpa using fun _ _ _ => String.le_trans) (by simpa using fun _ _ => String.le_total _ _) _
  exact hsorted.imp fun h => of_decide_eq_true h

namespace Disk

open FileTree

variable {d d' : Disk} {s : SourceSet} {mappings : List SuffixMapping} {scripts : List Script} {l : Loc} {m m' : Stamp}

theorem sourceDirectory_of_stat (habs : s.directory.isAbsolute = true) (hs : d.stat s.directory = .ok (l, .dir m)) :
    d.sourceDirectory s = .ok l := by
  have hthere : d.exists? s.directory = .ok true := test_of_stat _ hs
  have hdir : d.isDir? s.directory = .ok true := test_of_stat _ hs
  unfold sourceDirectory
  simp only [habs, hthere, hdir, hs, mapError_ok, bind, Except.bind, Bool.not_true, Bool.false_eq_true, if_false]
  rfl

/-- Two walks that come to the same leaves, as far as a set selects them, come to one list of them. -/
theorem selected_eq {found found' : List (List String)} (h : d.leaves s.directory l [] = .ok found)
    (h' : d'.leaves s.directory l [] = .ok found')
    (hleaf : ∀ names, s.selects mappings names = true → (d'.IsLeaf l names ↔ d.IsLeaf l names))
    (hnames : ∀ names, d.IsLeaf l names → ∀ c ∈ names, '/' ∉ c.toList) :
    (sortByText found').filter (s.selects mappings) = (sortByText found).filter (s.selects mappings) := by
  have hmem : ∀ names, names ∈ (sortByText found).filter (s.selects mappings) ↔
      d.IsLeaf l names ∧ s.selects mappings names = true := by
    simp [sortByText, leaves_ok h]
  have hmem' : ∀ names, names ∈ (sortByText found').filter (s.selects mappings) ↔
      d.IsLeaf l names ∧ s.selects mappings names = true := by
    intro names
    have hsame := hleaf names
    simp only [sortByText, List.mem_filter, List.mem_mergeSort, leaves_ok h', List.nil_append, exists_eq_left']
    exact and_congr_left hsame
  -- both lists are in the order of the texts, and paths with one text are one path
  have hperm : ((sortByText found').filter (s.selects mappings)).Perm ((sortByText found).filter (s.selects mappings)) := by
    have hnodup : ∀ {d : Disk} {found : List (List String)}, d.leaves s.directory l [] = .ok found →
        ((sortByText found).filter (s.selects mappings)).Nodup := by
      intro d found hfound
      have hsorted : (sortByText found).Nodup := (List.mergeSort_perm _ _).nodup_iff.2 (nodup_of_leaves hfound)
      exact hsorted.sublist List.filter_sublist
    exact (List.perm_ext_iff_of_nodup (hnodup h') (hnodup h)).2 fun names => (hmem' names).trans (hmem names).symm
  refine List.Perm.eq_of_pairwise ?_ ((pairwise_sortByText found').sublist List.filter_sublist)
    ((pairwise_sortByText found).sublist List.filter_sublist) hperm
  intro a b ha hb hle hle'
  obtain ⟨ha, -⟩ := (hmem' a).1 ha
  obtain ⟨hb, -⟩ := (hmem b).1 hb
  exact Text.join_inj ha.ne_nil hb.ne_nil (hnames a ha) (hnames b hb) (String.le_antisymm hle hle')

/-- A scan that succeeds makes scripts of the leaves that a walk came to, as far as the set selects them. -/
theorem scripts_of_scan (h : d.scan s mappings = .ok scripts) (hs : d.stat s.directory = .ok (l, .dir m)) :
    ∃ found, d.leaves s.directory l [] = .ok found ∧
      scripts = ((sortByText found).filter (s.selects mappings)).map fun names =>
        .ofPath d.cwd (s.directory.descend names) := by
  obtain ⟨habs, -⟩ := scan_ok h
  unfold scan at h
  obtain ⟨l', hs', h⟩ := ok_of_bind h
  cases (sourceDirectory_of_stat habs hs).symm.trans hs'
  rcases hf : d.leaves s.directory l [] with e | found
  · rw [hf] at h
    cases h
  · rw [hf] at h
    exact ⟨found, rfl, (Except.ok.inj h).symm⟩

theorem scan_unique {scripts' : List Script} (h : d.scan s mappings = .ok scripts)
    (h' : d'.scan s mappings = .ok scripts') (hcwd : d'.cwd = d.cwd) (hs : d.stat s.directory = .ok (l, .dir m))
    (hs' : d'.stat s.directory = .ok (l, .dir m'))
    (hleaf : ∀ names, s.selects mappings names = true → (d'.IsLeaf l names ↔ d.IsLeaf l names))
    (hnames : ∀ names, d.IsLeaf l names → ∀ c ∈ names, '/' ∉ c.toList) : scripts' = scripts := by
  obtain ⟨found, hfound, rfl⟩ := scripts_of_scan h hs
  obtain ⟨found', hfound', rfl⟩ := scripts_of_scan h' hs'
  rw [selected_eq hfound hfound' hleaf hnames, hcwd]

/-- A scan finds the same scripts again if the directory is where it was, the leaves that the set selects are the same,
and each directory that has come in may be listed. -/
theorem scan_again (h : d.scan s mappings = .ok scripts) (hcwd : d'.cwd = d.cwd) (hrules : d'.rules = d.rules)
    (hs : d.stat s.directory = .ok (l, .dir m)) (hs' : d'.stat s.directory = .ok (l, .dir m'))
    (hlist : ∀ names, d'.IsDirPath l names →
      d.IsDirPath l names ∨ d.unlisted? (s.directory.descend names) = none)
    (hleaf : ∀ names, s.selects mappings names = true → (d'.IsLeaf l names ↔ d.IsLeaf l names))
    (hnames : ∀ names, d.IsLeaf l names → ∀ c ∈ names, '/' ∉ c.toList) : d'.scan s mappings = .ok scripts := by
  obtain ⟨habs, -⟩ := scan_ok h
  obtain ⟨found, hfound, rfl⟩ := scripts_of_scan h hs
  obtain ⟨found', hfound'⟩ : ∃ found', d'.leaves s.directory l [] = .ok found' := by
    refine leaves_of_lists (isDir_iff.2 ⟨m', get?_of_stat hs'⟩) (fun names hpath => ?_) []
    rw [unlisted?_eq hrules]
    exact (hlist names hpath).elim (fun hold => listed_of_leaves hfound hold) id
  unfold scan
  rw [sourceDirectory_of_stat habs hs']
  simp only [bind, Except.bind, hfound', selected_eq hfound hfound' hleaf hnames, hcwd]
  rfl

/-- The way to a leaf leads to one again if directories are kept and there is a file at its end. -/
theorem IsLeaf.of_data? {names : List String} (h : d.IsLeaf l names) (hk : Kept d.tree d'.tree)
    (hdata : (d'.tree.data? (names.reverse ++ l)).isSome = true) : d'.IsLeaf l names := by
  induction names generalizing l with
  | nil => exact h
  | cons c rest ih =>
    rw [List.reverse_cons, List.append_assoc, List.singleton_append] at hdata
    by_cases hn : rest = []
    · subst hn
      obtain ⟨data, hdata⟩ := Option.isSome_iff_exists.1 hdata
      obtain ⟨m, a, he⟩ := get?_of_data? hdata
      exact ⟨_, he, rfl⟩
    · obtain ⟨hdir, hrest⟩ := (isLeaf_cons hn).1 h
      exact (isLeaf_cons hn).2 ⟨hk.isDir hdir, ih hrest hdata⟩

theorem IsLeaf.data? {names : List String} (h : d.IsLeaf l names) (hfree : d.tree.LinkFree) :
    (d.tree.data? (names.reverse ++ l)).isSome = true := by
  obtain ⟨e, he, hfile⟩ := h.get?
  exact hfree.data?_isSome he hfile

/-- Where directories are kept and the regular files are those of a well-formed tree without links, so are the leaves. -/
theorem isLeaf_iff_of_kept {names : List String} (hfree : d.tree.LinkFree) (hwell : d.tree.WellFormed)
    (hk : Kept d.tree d'.tree) (hfree' : d'.tree.LinkFree)
    (hdata : (d'.tree.data? (names.reverse ++ l)).isSome = (d.tree.data? (names.reverse ++ l)).isSome) :
    d'.IsLeaf l names ↔ d.IsLeaf l names := by
  constructor
  · intro hleaf
    exact (isLeaf_iff_data? hfree hwell).2 ⟨hleaf.ne_nil, hdata ▸ hleaf.data? hfree'⟩
  · intro hleaf
    exact hleaf.of_data? hk (hdata.trans (hleaf.data? hfree))

theorem IsLeaf.noSlash {names : List String} (h : d.IsLeaf l names) (hwell : d.tree.WellFormed) :
    ∀ c ∈ names, '/' ∉ c.toList := by
  intro c hc
  obtain ⟨e, he, -⟩ := h.get?
  exact (hwell.named_of_mem he (List.mem_reverse.2 hc)).noSlash

theorem IsDirPath.isDir_last {names : List String} (h : d.IsDirPath l names) : d.tree.isDir (names.reverse ++ l) = true := by
  induction names generalizing l with
  | nil => exact h
  | cons c rest ih =>
    rw [List.reverse_cons, List.append_assoc, List.singleton_append]
    exact ih h.2

theorem IsDirPath.entryName {names : List String} (h : d.IsDirPath l names) (hnamed : d.tree.Named) :
    ∀ c ∈ names, EntryName c := by
  induction names generalizing l with
  | nil => simp
  | cons c rest ih =>
    intro c' hc'
    rcases List.mem_cons.1 hc' with rfl | hc'
    · exact hnamed _ l _ (isDir_iff_content?.1 h.2.isDir)
    · exact ih h.2 c' hc'

theorem isDirPath_of_wellFormed (hwell : d.tree.WellFormed) {names : List String}
    (h : d.tree.isDir (names.reverse ++ l) = true) : d.IsDirPath l names := by
  induction names generalizing l with
  | nil => exact h
  | cons c rest ih =>
    rw [List.reverse_cons, List.append_assoc, List.singleton_append] at h
    have hrest := ih h
    obtain ⟨m, hm⟩ := isDir_iff.1 hrest.isDir
    exact ⟨hwell.inDir hm, hrest⟩

theorem IsDirPath.of_kept {names : List String} (h : d.IsDirPath l names) (hk : Kept d.tree d'.tree) :
    d'.IsDirPath l names := by
  induction names generalizing l with
  | nil => exact hk.isDir h
  | cons c rest ih => exact ⟨hk.isDir h.1, ih h.2⟩

/-- Where a walk below a path comes to a directory that the first disk has not, it may be listed. -/
def ListsNew (d d' : Disk) (p : FilePath) : Prop :=
  ∀ names, d'.IsDirPath (d.place p) names → d.tree.isDir (names.reverse ++ d.place p) = false →
    d.unlisted? (p.descend names) = none

theorem ListsBelow.listsNew {p : FilePath} {d₂ : Disk} (h : d'.ListsBelow p (d.place p)) (hrules : d'.rules = d.rules)
    (hsame : d'.tree.SameContents d₂.tree) : d.ListsNew d₂ p := by
  intro names hpath _
  rw [← unlisted?_eq hrules]
  exact h.unlisted? (hpath.of_kept hsame.symm.kept)

/-- A scan finds the same scripts again if no file that the set selects has come or gone since, on a disk that is a
well-formed one but for more directories, and directories that came in below that of the set may be listed. -/
theorem scan_unaltered {d₀ : Disk} (hfree : d₀.tree.LinkFree) (hwell : d₀.tree.WellFormed)
    (hmore : d₀.Changes MoreDirs d) (halters : d.Changes (Alters fun _ => True) d')
    (hlists : d₀.ListsNew d' s.directory)
    (hdata : ∀ names, s.selects mappings names = true →
      (d'.tree.data? (names.reverse ++ d.place s.directory)).isSome =
        (d.tree.data? (names.reverse ++ d.place s.directory)).isSome)
    (h : d.scan s mappings = .ok scripts) : d'.scan s mappings = .ok scripts := by
  obtain ⟨-, l, m, hs, -⟩ := scan_ok h
  have hfree₁ := hmore.tree.linkFree hfree
  have hkept : Kept d.tree d'.tree := halters.tree.kept hfree₁
  obtain ⟨m', hs'⟩ := stat_dir_of_kept hs ⟨hkept, halters.cwd, halters.rules⟩
  obtain rfl := loc_of_stat hs hfree₁
  have hplace : d₀.place s.directory = d.place s.directory := (place_eq hmore.cwd _).symm
  have hbefore : ∀ names, d.IsLeaf (d.place s.directory) names ↔ d₀.IsLeaf (d.place s.directory) names := fun names =>
    isLeaf_iff_of_kept hfree hwell hmore.tree.kept hfree₁ (by rw [hmore.tree.data?])
  refine scan_again h halters.cwd halters.rules hs hs' (fun names hpath => ?_) (fun names hselects => ?_)
    fun names hleaf => ((hbefore names).1 hleaf).noSlash hwell
  · by_cases hold : d₀.tree.isDir (names.reverse ++ d.place s.directory) = true
    · exact .inl ((isDirPath_of_wellFormed hwell hold).of_kept hmore.tree.kept)
    · refine .inr ?_
      rw [unlisted?_eq hmore.rules]
      rw [← hplace] at hpath hold
      exact hlists names hpath (by simpa using hold)
  · refine (isLeaf_iff_of_kept hfree hwell (hmore.tree.kept.trans hkept) (halters.tree.linkFree hfree₁) ?_).trans
      (hbefore names).symm
    rw [hdata names hselects, hmore.tree.data?]

namespace SameContents

theorem scan (h : d.SameContents d') (hfree : d.tree.LinkFree) (hscan : d.scan s mappings = .ok scripts) :
    d'.scan s mappings = .ok scripts := by
  obtain ⟨habs, l, m, hs, -⟩ := scan_ok hscan
  obtain ⟨m', hs'⟩ := h.stat_dir hs
  unfold Disk.scan at hscan ⊢
  rw [sourceDirectory_of_stat habs hs] at hscan
  rw [sourceDirectory_of_stat habs hs']
  simp only [bind, Except.bind] at hscan ⊢
  rw [h.leaves_eq hfree, h.cwd]
  exact hscan

end SameContents

end Disk

end JavaStubs
