import JavaStubs.Proofs.Source.Leaves

/-! Which files the stub walk meets. A walk that is not stopped meets each regular file that real directories lead to,
and meets it once. -/
namespace JavaStubs

namespace FileTree

/-- A directory that is the root, or lies in one that can be reached from the root without following a link. -/
inductive RealDir (t : FileTree) (root : Loc) : Loc → Prop
  | top : t.isDir root = true → RealDir t root root
  | inside {c l} : RealDir t root l → t.isDir (c :: l) = true → RealDir t root (c :: l)

/-- A regular file in a directory that can be reached from the root without following a link. -/
inductive RealFile (t : FileTree) (root : Loc) : Loc → Prop
  | intro {c l data m a} : RealDir t root l → t.get? (c :: l) = some (.file data m a) → RealFile t root (c :: l)

variable {t : FileTree} {root l : Loc}

theorem RealDir.suffix (h : RealDir t root l) : Below root l := by
  induction h with
  | top => exact List.suffix_refl root
  | inside _ _ ih => exact ih.trans (List.suffix_cons _ _)

theorem RealDir.isDir_root (h : RealDir t root l) : t.isDir root = true := by
  induction h with
  | top hd => exact hd
  | inside _ _ ih => exact ih

theorem RealDir.of_child (hroot : t.isDir root = true) (h : RealDir t (c :: root) l) : RealDir t root l := by
  induction h with
  | top hd => exact .inside (.top hroot) hd
  | inside _ hd ih => exact .inside ih hd

theorem RealDir.cases_root (h : RealDir t root l) : l = root ∨ ∃ c, RealDir t (c :: root) l := by
  induction h with
  | top => exact .inl rfl
  | @inside c l _ hd ih =>
    right
    rcases ih with rfl | ⟨c', hc'⟩
    · exact ⟨c, .top hd⟩
    · exact ⟨c', .inside hc' hd⟩

theorem RealFile.suffix (h : RealFile t root l) : Below root l := by
  obtain ⟨hd, -⟩ := h
  exact hd.suffix.trans (List.suffix_cons _ _)

theorem RealFile.file (h : RealFile t root l) : ∃ data m a, t.get? l = some (.file data m a) := by
  obtain ⟨-, hl⟩ := h
  exact ⟨_, _, _, hl⟩

theorem RealFile.isDir_root (h : RealFile t root l) : t.isDir root = true := by
  obtain ⟨hd, -⟩ := h
  exact hd.isDir_root

theorem RealFile.isDir_eq_false (h : RealFile t root l) : t.isDir l = false := by
  obtain ⟨data, m, a, hl⟩ := h.file
  rw [isDir, hl]
  rfl

theorem realFile_iff (hroot : t.isDir root = true) :
    RealFile t root l ↔
      (∃ c e, l = c :: root ∧ t.get? l = some e ∧ e.isFile = true) ∨ ∃ c, RealFile t (c :: root) l := by
  constructor
  · rintro ⟨hd, hl⟩
    rcases hd.cases_root with rfl | ⟨c, hc⟩
    · exact .inl ⟨_, _, rfl, hl, rfl⟩
    · exact .inr ⟨c, .intro hc hl⟩
  · rintro (⟨c, e, rfl, hl, hfile⟩ | ⟨c, hd, hl⟩)
    · cases e with
      | file data m a => exact .intro (.top hroot) hl
      | dir => cases hfile
      | link => cases hfile
    · exact .intro (hd.of_child hroot) hl

end FileTree

namespace Disk

open FileTree

variable {d : Disk} {m : Met} {stack : List Met}

theorem mem_fileNames {here : Loc} {c : String} :
    c ∈ fileNames (d.tree.listing here) ↔ ∃ e, d.tree.get? (c :: here) = some e ∧ e.isFile = true := by
  simp only [fileNames, List.mem_map, List.mem_filter, Prod.exists, exists_and_right, exists_eq_right, mem_listing]

theorem mem_filesIn {l : Loc} :
    l ∈ ((fileNames (d.tree.listing m.loc)).map m.child).map (·.loc) ↔
      ∃ c e, l = c :: m.loc ∧ d.tree.get? l = some e ∧ e.isFile = true := by
  simp only [List.map_map, List.mem_map, Function.comp_apply, Met.child, mem_fileNames]
  constructor
  · rintro ⟨c, ⟨e, he, hfile⟩, rfl⟩
    exact ⟨c, e, rfl, he, hfile⟩
  · rintro ⟨c, e, rfl, he, hfile⟩
    exact ⟨c, ⟨e, he, hfile⟩, rfl⟩

/-- Whatever a walk meets is reached from one of its directories, also if the walk is stopped later. -/
theorem realFile_of_met {l : Loc} (h : l ∈ (d.stubFilesFrom stack).items.map (·.loc)) :
    ∃ m ∈ stack, RealFile d.tree m.loc l := by
  fun_induction stubFilesFrom d stack
  case case1 => cases h
  case case2 => cases h
  case case3 m stack hd entries hlist ih =>
    obtain rfl := list_ok hlist
    rw [Trace.after, List.map_append, List.mem_append, mem_filesIn] at h
    rcases h with hfile | hmet
    · exact ⟨m, List.mem_cons_self, (realFile_iff hd).2 (.inl hfile)⟩
    · obtain ⟨m', hm', hreal⟩ := ih hmet
      rcases List.mem_append.1 hm' with hm' | hm'
      · obtain ⟨c, -, rfl⟩ := List.mem_map.1 hm'
        exact ⟨m, List.mem_cons_self, (realFile_iff hd).2 (.inr ⟨c, hreal⟩)⟩
      · exact ⟨m', List.mem_cons_of_mem _ hm', hreal⟩
  case case4 => cases h

/-- A walk that is not stopped meets all that is reached from its directories. -/
theorem met_of_realFile {l : Loc} (hstop : (d.stubFilesFrom stack).stop? = none) (hm : m ∈ stack)
    (h : RealFile d.tree m.loc l) : l ∈ (d.stubFilesFrom stack).items.map (·.loc) := by
  fun_induction stubFilesFrom d stack generalizing m
  case case1 => cases hm
  case case2 => cases hstop
  case case3 m₀ stack hd entries hlist ih =>
    obtain rfl := list_ok hlist
    rw [Trace.after, List.map_append, List.mem_append, mem_filesIn]
    rcases List.mem_cons.1 hm with rfl | hm
    · rcases (realFile_iff hd).1 h with hfile | ⟨c, hc⟩
      · exact .inl hfile
      · have hdir : c ∈ dirNames (d.tree.listing m.loc) := mem_dirNames.2 hc.isDir_root
        have hentered : m.child c ∈ (dirNames (d.tree.listing m.loc)).map m.child := List.mem_map.2 ⟨c, hdir, rfl⟩
        exact .inr (ih hstop (List.mem_append_left _ hentered) hc)
    · exact .inr (ih hstop (List.mem_append_right _ hm) h)
  case case4 => cases hstop

/-- Directories of which none lies below another one. -/
def Apart (stack : List Met) : Prop :=
  stack.Pairwise fun a b => ∀ l, Below a.loc l → ¬Below b.loc l

/-- Going on with the directories in the first one keeps the directories apart. -/
theorem Apart.enter (h : Apart (m :: stack)) : Apart ((dirNames (d.tree.listing m.loc)).map m.child ++ stack) := by
  obtain ⟨hfirst, hrest⟩ := List.pairwise_cons.1 h
  have hnames : (dirNames (d.tree.listing m.loc)).Nodup :=
    (d.tree.listing_nodup m.loc).sublist (List.filter_sublist.map _)
  refine List.pairwise_append.2 ⟨List.pairwise_map.2 ?_, hrest, ?_⟩
  · refine hnames.imp fun hne l hl hl' => hne ?_
    exact eq_of_suffixes hl hl'
  · intro x hx b hb l hl
    obtain ⟨c, -, rfl⟩ := List.mem_map.1 hx
    exact hfirst b hb l ((List.suffix_cons c m.loc).trans hl)

/-- A walk that begins with directories apart meets no file twice. -/
theorem nodup_stubFilesFrom (hapart : Apart stack) (hstop : (d.stubFilesFrom stack).stop? = none) :
    ((d.stubFilesFrom stack).items.map (·.loc)).Nodup := by
  fun_induction stubFilesFrom d stack
  case case1 => exact .nil
  case case2 => cases hstop
  case case3 m stack hd entries hlist ih =>
    obtain rfl := list_ok hlist
    rw [Trace.after, List.map_append]
    refine List.nodup_append.2 ⟨?_, ih hapart.enter hstop, ?_⟩
    · have hnames : (fileNames (d.tree.listing m.loc)).Nodup :=
        (d.tree.listing_nodup m.loc).sublist (List.filter_sublist.map _)
      rw [List.map_map]
      exact List.pairwise_map.2 (hnames.imp fun hne heq => hne (List.cons.inj heq).1)
    · rintro l hl _ hl' rfl
      obtain ⟨c, e, rfl, he, hfile⟩ := mem_filesIn.1 hl
      obtain ⟨x, hx, hreal⟩ := realFile_of_met hl'
      rcases List.mem_append.1 hx with hx | hx
      · -- a file in the directory is no directory, so it does not lie below one in it
        obtain ⟨c', hc', rfl⟩ := List.mem_map.1 hx
        obtain rfl : c' = c := eq_of_suffixes hreal.suffix (List.suffix_refl _)
        have hnot := hreal.isDir_eq_false
        rw [mem_dirNames.1 hc'] at hnot
        cases hnot
      · exact (List.pairwise_cons.1 hapart).1 x hx _ (List.suffix_cons c m.loc) hreal.suffix
  case case4 => cases hstop

section

variable {p : FilePath} {root : Loc} {e : Entry}

theorem realFile_of_mem_stubFiles {l : Loc} (hs : d.stat p = .ok (root, e))
    (h : l ∈ (d.stubFiles p).items.map (·.loc)) : RealFile d.tree root l := by
  unfold stubFiles at h
  rw [hs] at h
  split at h
  · cases h
  · obtain ⟨m, hm, hreal⟩ := realFile_of_met h
    rwa [List.mem_singleton.1 hm] at hreal

theorem stubFiles_of_stat (hs : d.stat p = .ok (root, e)) (hstop : (d.stubFiles p).stop? = none) :
    d.stubFiles p = d.stubFilesFrom [⟨p, root⟩] := by
  unfold stubFiles at hstop ⊢
  split at hstop
  · cases hstop
  · rw [hs]

/-- A walk below a path that is not stopped meets each file that real directories lead to, and meets it once. -/
theorem stubFiles_complete (hs : d.stat p = .ok (root, e)) (hstop : (d.stubFiles p).stop? = none) :
    ((d.stubFiles p).items.map (·.loc)).Nodup ∧
      ∀ l, l ∈ (d.stubFiles p).items.map (·.loc) ↔ RealFile d.tree root l := by
  have heq := stubFiles_of_stat hs hstop
  have hwalk : (d.stubFilesFrom [⟨p, root⟩]).stop? = none := heq ▸ hstop
  constructor
  · rw [heq]
    exact nodup_stubFilesFrom (List.pairwise_singleton _ _) hwalk
  · refine fun l => ⟨realFile_of_mem_stubFiles hs, fun hreal => ?_⟩
    rw [heq]
    exact met_of_realFile hwalk (List.mem_singleton.2 rfl) hreal

end

end Disk

end JavaStubs
