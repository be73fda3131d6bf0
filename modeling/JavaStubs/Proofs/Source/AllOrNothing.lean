import JavaStubs.Proofs.Source.OneLine

/-! When a scan is refused. It wants every listing to succeed, whether its set would take anything from there or not,
and it gives the whole list or none. -/
namespace JavaStubs.Disk

open FileTree

variable {d : Disk} {p : FilePath} {here l : Loc} {m : Stamp} {s : SourceSet} {mappings : List SuffixMapping}

/-- The listing of a directory to which real directories lead from `here`, which is asked for as `p`, is refused. The
directory may be `here` itself. -/
def RefusedBelow (d : Disk) (p : FilePath) (here : Loc) : Prop :=
  ∃ names, d.IsDirPath here names ∧ ∃ e, d.list (p.descend names) (names.reverse ++ here) = .error e

theorem refusedBelow_iff : d.RefusedBelow p here ↔
    ∃ names errno, d.IsDirPath here names ∧ d.unlisted? (p.descend names) = some errno := by
  constructor
  · rintro ⟨names, hpath, e, he⟩
    obtain ⟨errno, hrefused, -⟩ := list_error_iff.1 he
    exact ⟨names, errno, hpath, hrefused⟩
  · rintro ⟨names, errno, hpath, hrefused⟩
    exact ⟨names, hpath, _, list_error_iff.2 ⟨errno, hrefused, rfl⟩⟩

/-- A walk from a directory comes to its end unless a listing is refused below it. -/
theorem leaves_ok_iff (hdir : d.tree.isDir here = true) {sofar : List String} :
    (∃ found, d.leaves p here sofar = .ok found) ↔ ¬d.RefusedBelow p here := by
  rw [refusedBelow_iff]
  constructor
  · rintro ⟨found, hfound⟩ ⟨names, errno, hpath, hrefused⟩
    rw [listed_of_leaves hfound hpath] at hrefused
    cases hrefused
  · intro hnone
    refine leaves_of_lists hdir (fun names hpath => ?_) sofar
    exact Option.eq_none_iff_forall_ne_some.2 fun errno hrefused => hnone ⟨names, errno, hpath, hrefused⟩

section

variable {d' : Disk}

theorem stat_eq_of_tree_eq {q : FilePath} {l' : Loc} {e e' : Entry} (htree : d'.tree = d.tree) (hcwd : d'.cwd = d.cwd)
    (h : d.stat q = .ok (l, e)) (h' : d'.stat q = .ok (l', e')) : l' = l := by
  have ⟨_, hleads⟩ := locate_eq_ok_iff.mp (stat_eq_ok_iff.mp h)
  have ⟨_, hleads'⟩ := locate_eq_ok_iff.mp (stat_eq_ok_iff.mp h')
  rw [htree, hcwd] at hleads'
  cases hleads'.unique hleads
  rfl

/-- What a walk finds does not depend on what the system refuses, if it comes to its end. -/
theorem leaves_eq_of_tree_eq (htree : d'.tree = d.tree) {sofar : List String} {found found' : List (List String)}
    (h : d.leaves p here sofar = .ok found) (h' : d'.leaves p here sofar = .ok found') : found' = found := by
  fun_induction leaves d p here sofar generalizing found found'
  case case1 p here sofar hd ih =>
    obtain ⟨entries, hl, h⟩ := ok_of_bind h
    obtain ⟨nested, hm, h⟩ := ok_of_bind h
    rw [leaves, dif_pos (htree ▸ hd)] at h'
    obtain ⟨entries', hl', h'⟩ := ok_of_bind h'
    obtain ⟨nested', hm', h'⟩ := ok_of_bind h'
    have hleaf : ∀ es, d'.leafNames here es = d.leafNames here es := by
      intro es
      simp only [leafNames, leadsToDir, htree]
    rw [list_ok hl] at hm h
    rw [list_ok hl', htree] at hm' h'
    have hnested := mapM_unique hm hm' fun c below below' => ih c
    cases h
    cases h'
    rw [hnested, hleaf]
  case case2 => cases h

theorem scan_eq_of_tree_eq (htree : d'.tree = d.tree) (hcwd : d'.cwd = d.cwd) {scripts scripts' : List Script}
    (h : d.scan s mappings = .ok scripts) (h' : d'.scan s mappings = .ok scripts') : scripts' = scripts := by
  have ⟨_, l, m, hs, _⟩ := scan_ok h
  have ⟨_, l', m', hs', _⟩ := scan_ok h'
  have hl : l' = l := stat_eq_of_tree_eq htree hcwd hs hs'
  subst hl
  have ⟨found, hfound, hscripts⟩ := scripts_of_scan h hs
  have ⟨found', hfound', hscripts'⟩ := scripts_of_scan h' hs'
  rw [hscripts, hscripts', leaves_eq_of_tree_eq htree hfound hfound', hcwd]

end

theorem scan_refused (mappings : List SuffixMapping) (habs : s.directory.isAbsolute = true)
    (hs : d.stat s.directory = .ok (l, .dir m)) (h : d.RefusedBelow s.directory l) : ∃ names errno, d.IsDirPath l names ∧
      d.unlisted? (s.directory.descend names) = some errno ∧
      d.scan s mappings = .error (.stub (.cannotScan s.directory (.at errno (s.directory.descend names)))) := by
  have hdir : d.tree.isDir l = true := isDir_iff.2 ⟨m, get?_of_stat hs⟩
  cases hwalk : d.leaves s.directory l [] with
  | ok found => exact absurd h ((leaves_ok_iff hdir).1 ⟨found, hwalk⟩)
  | error e =>
    obtain ⟨names, errno, hpath, hrefused, rfl⟩ := refused_of_leaves hdir hwalk
    refine ⟨names, errno, hpath, hrefused, ?_⟩
    unfold scan
    rw [sourceDirectory_of_stat habs hs]
    simp only [bind, Except.bind, hwalk]
    rfl

theorem scan_of_not_refused (mappings : List SuffixMapping) (habs : s.directory.isAbsolute = true)
    (hs : d.stat s.directory = .ok (l, .dir m)) (h : ¬d.RefusedBelow s.directory l) : ∃ scripts, d.scan s mappings = .ok scripts := by
  have hdir : d.tree.isDir l = true := isDir_iff.2 ⟨m, get?_of_stat hs⟩
  obtain ⟨found, hfound⟩ : ∃ found, d.leaves s.directory l [] = .ok found := (leaves_ok_iff hdir).2 h
  unfold scan
  rw [sourceDirectory_of_stat habs hs]
  simp only [bind, Except.bind, hfound]
  exact ⟨_, rfl⟩

/-- A relative path is refused before anything is looked at. -/
theorem scan_of_relative (d : Disk) (mappings : List SuffixMapping) (hrel : s.directory.isAbsolute = false) :
    d.scan s mappings = .error (.stub (.relativeDirectory s.directory)) := by
  simp [scan, sourceDirectory, hrel, bind, Except.bind, throw, throwThe, MonadExceptOf.throw]

/-- A scan of an absolute path to a directory fails with an error of the file system exactly if a listing is refused there
or below, at whatever directory real directories lead to. Otherwise it gives the list that it gives of the same files where
no listing is refused, and it never gives another one. A relative path is at fault whatever there is on the disk. -/
theorem scan_all_or_nothing (mappings : List SuffixMapping) (hs : d.stat s.directory = .ok (l, .dir m)) :
    (s.directory.isAbsolute = false →
      ∃ e : StubError, e.errorClass = .configuration ∧ ∀ d' : Disk, d'.scan s mappings = .error (.stub e)) ∧
    (s.directory.isAbsolute = true →
      ((∃ e, d.scan s mappings = .error (.stub e) ∧ e.errorClass = .fileSystem) ↔ d.RefusedBelow s.directory l) ∧
      ∀ d' : Disk, d'.tree = d.tree → d'.cwd = d.cwd → d'.stat s.directory = .ok (l, .dir m) →
        ¬d'.RefusedBelow s.directory l → ∃ whole, d'.scan s mappings = .ok whole ∧
          (¬d.RefusedBelow s.directory l → d.scan s mappings = .ok whole) ∧
          ∀ scripts, d.scan s mappings = .ok scripts → scripts = whole) := by
  refine ⟨fun hrel => ⟨_, rfl, fun d' => scan_of_relative d' mappings hrel⟩, fun habs => ⟨⟨?_, ?_⟩, ?_⟩⟩
  · intro ⟨e, hfailed, _⟩
    refine Classical.byContradiction fun h => ?_
    have ⟨scripts, hscan⟩ := scan_of_not_refused mappings habs hs h
    cases hscan.symm.trans hfailed
  · intro h
    have ⟨names, errno, _, _, hfailed⟩ := scan_refused mappings habs hs h
    exact ⟨_, hfailed, rfl⟩
  · intro d' htree hcwd hs' hopen
    have ⟨whole, hwhole⟩ := scan_of_not_refused mappings habs hs' hopen
    have hsame : ∀ scripts, d.scan s mappings = .ok scripts → scripts = whole :=
      fun scripts hscan => (scan_eq_of_tree_eq htree hcwd hscan hwhole).symm
    refine ⟨whole, hwhole, fun h => ?_, hsame⟩
    have ⟨scripts, hscan⟩ := scan_of_not_refused mappings habs hs h
    rw [hscan, hsame scripts hscan]

/-- A script, and a directory of version control below one that no pattern picks, where listing is refused. -/
def lockedDisk : Disk where
  tree := {
    entries := [([], .dir .now), (["p"], .dir .now), (["a.groovy", "p"], .file [] .now .now), (["docs", "p"], .dir .now),
      ([".git", "docs", "p"], .dir .now)]
    nodup := by decide }
  cwd := ⟨.slash, []⟩
  denied := { listing := [("/p/docs/.git", .EACCES), ("p", .EACCES)] }

theorem stat_lockedDisk (anchor : Anchor) : lockedDisk.stat ⟨anchor, ["p"]⟩ = .ok (["p"], .dir .now) := by
  cases anchor <;> exact ok_of_toOption (by decide +kernel)

/-- The script would be found, were it not for the directory that nothing is taken from. -/
theorem refused_lockedDisk : crowdedSet.directory.isAbsolute = true ∧
    lockedDisk.stat crowdedSet.directory = .ok (["p"], .dir .now) ∧ lockedDisk.RefusedBelow crowdedSet.directory ["p"] ∧
    (∃ e, lockedDisk.scan crowdedSet = .error (.stub e) ∧ e.errorClass = .fileSystem) ∧
    ∃ whole, { lockedDisk with denied := {} }.scan crowdedSet = .ok whole ∧ crowdedSet.scriptAt ["a.groovy"] ∈ whole := by
  have hs := stat_lockedDisk .slash
  have hlast : lockedDisk.tree.isDir [".git", "docs", "p"] = true := by decide
  have hrefused : lockedDisk.RefusedBelow crowdedSet.directory ["p"] :=
    refusedBelow_iff.mpr ⟨["docs", ".git"], .EACCES, ⟨by decide, by decide, hlast⟩, by decide⟩
  have ⟨hiff, hwhole⟩ := (scan_all_or_nothing (s := crowdedSet) SuffixMapping.standard hs).2 rfl
  have hlists : ListsBelow { lockedDisk with denied := {} } crowdedSet.directory ["p"] := by decide +kernel
  have hopen : ¬RefusedBelow { lockedDisk with denied := {} } crowdedSet.directory ["p"] := by
    rw [refusedBelow_iff]
    intro ⟨names, errno, hpath, hunlisted⟩
    cases (hlists.unlisted? hpath).symm.trans hunlisted
  have ⟨whole, hscan, _⟩ := hwhole { lockedDisk with denied := {} } rfl rfl hs hopen
  have hleaf : IsLeaf { lockedDisk with denied := {} } ["p"] ["a.groovy"] := ⟨.file [] .now .now, by decide +kernel, rfl⟩
  have hselects : crowdedSet.selects SuffixMapping.standard ["a.groovy"] = true := by decide +kernel
  have ⟨scripts, hscripts, hmem⟩ := found_of_selects rfl hs hlists hleaf hselects
  cases hscripts.symm.trans hscan
  exact ⟨rfl, hs, hrefused, hiff.mpr hrefused, _, hscan, hmem⟩

/-- A scan of a relative path is refused before anything is listed, and then it is the declaration that is at fault. -/
theorem scan_refused_as_relative : ¬∀ (d : Disk) (s : SourceSet) (mappings : List SuffixMapping) (l : Loc) (m : Stamp),
    d.stat s.directory = .ok (l, .dir m) →
      ((∃ e, d.scan s mappings = .error (.stub e) ∧ e.errorClass = .fileSystem) ↔ d.RefusedBelow s.directory l) := by
  intro h
  let s : SourceSet := { crowdedSet with directory := ⟨.none, ["p"]⟩ }
  have hroot : lockedDisk.tree.isDir ["p"] = true := by decide
  have hrefused : lockedDisk.RefusedBelow s.directory ["p"] := refusedBelow_iff.2 ⟨[], .EACCES, hroot, by decide⟩
  obtain ⟨e, he, hclass⟩ := (h lockedDisk s SuffixMapping.standard ["p"] .now (stat_lockedDisk .none)).2 hrefused
  have hrelative := scan_of_relative (s := s) lockedDisk SuffixMapping.standard rfl
  cases hrelative.symm.trans he
  cases hclass

end JavaStubs.Disk
