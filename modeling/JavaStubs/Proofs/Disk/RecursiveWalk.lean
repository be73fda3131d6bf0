import JavaStubs.Proofs.Disk.StubWalk

/-! The stub walk as a recursion over the tree. The loop over a stack of directories hands out what the recursive
walks of the directories on it do, one after the other. -/
namespace JavaStubs

namespace Trace

variable {α : Type} {items : List α} {t u v : Trace α}

theorem done_append : (done : Trace α).append t = t := rfl

theorem append_done : t.append done = t := by
  obtain ⟨items, stop?⟩ := t
  cases stop? <;> simp [append, done]

theorem append_assoc : (t.append u).append v = t.append (u.append v) := by
  obtain ⟨_, stop?⟩ := t
  obtain ⟨_, stop'?⟩ := u
  cases stop? <;> cases stop'? <;> simp [append]

theorem after_append : (after items t).append u = after items (t.append u) := by
  obtain ⟨_, stop?⟩ := t
  cases stop? <;> simp [append, after]

theorem join_append (ts us : List (Trace α)) : join (ts ++ us) = (join ts).append (join us) := by
  induction ts with
  | nil => exact done_append.symm
  | cons t ts ih => rw [List.cons_append, join, join, ih, append_assoc]

/-- Walks that all come to their ends are put together like lists. -/
theorem join_of_unstopped {β : Type} (f : β → List α) (xs : List β) :
    join (xs.map fun x => ⟨f x, none⟩) = ⟨xs.flatMap f, none⟩ := by
  induction xs with
  | nil => rfl
  | cons x xs ih => rw [List.map_cons, join, ih, List.flatMap_cons, append]

end Trace

namespace FileTree

def filesIn (t : FileTree) (l : Loc) : List String :=
  Disk.fileNames (t.listing l)

/-- The names of the real directories in a directory, in order. -/
def dirsIn (t : FileTree) (l : Loc) : List String :=
  Disk.dirNames (t.listing l)

/-- The recursive walk: the regular files of a directory, then the walk of each real directory in it. -/
def filesBelow (t : FileTree) (m : Disk.Met) : List Disk.Met :=
  if _h : t.isDir m.loc then
    (t.filesIn m.loc).map m.child ++ (t.dirsIn m.loc).flatMap fun c => filesBelow t (m.child c)
  else []
  termination_by t.size m.loc
  decreasing_by exact size_child_lt _h c

/-- Names in order, each once, of all entries in a directory of which something holds. -/
def NamesInOrder (t : FileTree) (l : Loc) (P : Entry → Prop) (names : List String) : Prop :=
  names.Pairwise (· < ·) ∧ ∀ c, c ∈ names ↔ ∃ e, t.get? (c :: l) = some e ∧ P e

theorem pairwise_names (t : FileTree) (l : Loc) (keep : String × Entry → Bool) :
    (((t.listing l).filter keep).map (·.1)).Pairwise (· < ·) := by
  have hsorted : (t.listing l).Pairwise fun a b => decide (a.1 ≤ b.1) = true :=
    List.pairwise_mergeSort (by simpa using fun _ _ _ => String.le_trans) (by simpa using String.le_total) _
  have hnodup : (t.listing l).Pairwise fun a b => a.1 ≠ b.1 := List.pairwise_map.1 (t.listing_nodup l)
  have hless : (t.listing l).Pairwise fun a b => a.1 < b.1 :=
    (hsorted.and hnodup).imp fun ⟨hle, hne⟩ => Std.lt_of_le_of_ne (of_decide_eq_true hle) hne
  exact List.pairwise_map.2 (hless.sublist List.filter_sublist)

theorem namesInOrder_filesIn (t : FileTree) (l : Loc) : t.NamesInOrder l (·.isFile = true) (t.filesIn l) :=
  ⟨t.pairwise_names l _, fun _ => Disk.mem_fileNames (d := { tree := t, cwd := .root })⟩

theorem namesInOrder_dirsIn (t : FileTree) (l : Loc) : t.NamesInOrder l (·.isDir = true) (t.dirsIn l) := by
  refine ⟨t.pairwise_names l _, fun c => ?_⟩
  rw [dirsIn, Disk.mem_dirNames (d := { tree := t, cwd := .root }), isDir]
  cases t.get? (c :: l) <;> simp

end FileTree

namespace Disk

open FileTree

variable {d : Disk} {m : Met} {p : FilePath} {root : Loc}

/-- The recursive walk of a disk that may refuse listings. What follows a refused listing is not met. -/
def walkBelow (d : Disk) (m : Met) : Trace Met :=
  if _h : d.tree.isDir m.loc then
    match d.list m.path m.loc with
    | .error e => .failed (.os e)
    | .ok entries =>
      .after ((fileNames entries).map m.child) (.join ((dirNames entries).map fun c => walkBelow d (m.child c)))
  else .failed (.os (.at .ENOTDIR m.path))
  termination_by d.tree.size m.loc
  decreasing_by exact FileTree.size_child_lt _h c

/-- The loop over a stack comes to the walks of the directories on it, the top one first. -/
theorem stubFilesFrom_eq_join (d : Disk) (stack : List Met) : d.stubFilesFrom stack = .join (stack.map d.walkBelow) := by
  fun_induction stubFilesFrom d stack
  case case1 => rfl
  case case2 m stack hd e hlist =>
    rw [List.map_cons, Trace.join, walkBelow, dif_pos hd, hlist]
    rfl
  case case3 m stack hd entries hlist ih =>
    have hm : d.walkBelow m = .after ((fileNames entries).map m.child)
        (.join ((dirNames entries).map fun c => d.walkBelow (m.child c))) := by
      rw [walkBelow, dif_pos hd, hlist]
    -- the directories just found stand on top of the stack, so their walks come before those of the rest
    rw [ih, List.map_cons, Trace.join, hm, Trace.after_append, List.map_append, Trace.join_append, List.map_map]
    rfl
  case case4 m stack hd =>
    rw [List.map_cons, Trace.join, walkBelow, dif_neg hd]
    rfl

/-- Where no listing is refused, a walk comes to its end, and what it meets is told by the tree alone. -/
theorem walkBelow_of_listed (hdir : d.tree.isDir m.loc = true)
    (hlist : ∀ names, d.IsDirPath m.loc names → d.unlisted? (m.path.descend names) = none) :
    d.walkBelow m = ⟨d.tree.filesBelow m, none⟩ := by
  fun_induction FileTree.filesBelow d.tree m
  case case1 m hd ih =>
    have hhere : d.list m.path m.loc = .ok (d.tree.listing m.loc) := by
      have hself := hlist [] hd
      rw [FilePath.descend_nil] at hself
      rw [list, hself]
    have hnested : ∀ c ∈ d.tree.dirsIn m.loc, d.walkBelow (m.child c) = ⟨d.tree.filesBelow (m.child c), none⟩ := by
      intro c hc
      refine ih c (mem_dirNames.1 hc) fun names hnames => ?_
      have hbelow := hlist (c :: names) ⟨hd, hnames⟩
      rwa [FilePath.descend_cons] at hbelow
    rw [walkBelow, dif_pos hd, hhere]
    change Trace.after _ (.join ((d.tree.dirsIn m.loc).map fun c => d.walkBelow (m.child c))) = _
    rw [List.map_congr_left hnested, Trace.join_of_unstopped]
    rfl
  case case2 hd => exact absurd hdir hd

theorem stubFilesFrom_singleton (d : Disk) (m : Met) : d.stubFilesFrom [m] = d.walkBelow m := by
  rw [stubFilesFrom_eq_join, List.map_singleton, Trace.join, Trace.join, Trace.append_done]

/-- The files of the recursive walk are those that real directories lead to. -/
theorem mem_filesBelow {t : FileTree} {l : Loc} (hdir : t.isDir m.loc = true) :
    l ∈ (t.filesBelow m).map (·.loc) ↔ RealFile t m.loc l := by
  have mem_dirsIn : ∀ {l c}, c ∈ t.dirsIn l ↔ t.isDir (c :: l) = true :=
    mem_dirNames (d := { tree := t, cwd := .root })
  fun_induction FileTree.filesBelow t m
  case case1 m hd ih =>
    have hfiles : l ∈ ((t.filesIn m.loc).map m.child).map (·.loc) ↔
        ∃ c e, l = c :: m.loc ∧ t.get? l = some e ∧ e.isFile = true :=
      mem_filesIn (d := { tree := t, cwd := .root })
    rw [List.map_append, List.mem_append, hfiles, realFile_iff hd]
    refine or_congr_right ⟨fun hl => ?_, fun hreal => ?_⟩
    · obtain ⟨x, hx, rfl⟩ := List.mem_map.1 hl
      obtain ⟨c, hc, hx⟩ := List.mem_flatMap.1 hx
      exact ⟨c, (ih c (mem_dirsIn.1 hc)).1 (List.mem_map_of_mem hx)⟩
    · obtain ⟨c, hc⟩ := hreal
      have hdir : t.isDir (c :: m.loc) = true := hc.isDir_root
      obtain ⟨x, hx, rfl⟩ := List.mem_map.1 ((ih c hdir).2 hc)
      exact List.mem_map_of_mem (List.mem_flatMap.2 ⟨c, mem_dirsIn.2 hdir, hx⟩)
  case case2 hd => exact absurd hdir hd

theorem descend_of_mem_filesBelow {x : Met} (h : x ∈ d.tree.filesBelow m) :
    ∃ names, x.path = m.path.descend names ∧ x.loc = names.reverse ++ m.loc := by
  fun_induction FileTree.filesBelow d.tree m
  case case1 m hd ih =>
    rcases List.mem_append.1 h with hfile | hnested
    · obtain ⟨c, -, rfl⟩ := List.mem_map.1 hfile
      exact ⟨[c], rfl, rfl⟩
    · obtain ⟨c, -, hc⟩ := List.mem_flatMap.1 hnested
      obtain ⟨names, hpath, hloc⟩ := ih c hc
      refine ⟨c :: names, ?_, ?_⟩
      · rw [hpath, FilePath.descend_cons]
        rfl
      · rw [hloc, List.reverse_cons, List.append_assoc]
        rfl
  case case2 => cases h

theorem loc_eq_of_mem_filesBelow {x y : Met} (hx : x ∈ d.tree.filesBelow m) (hy : y ∈ d.tree.filesBelow m)
    (h : x.path = y.path) : x.loc = y.loc := by
  obtain ⟨names, hpath, hloc⟩ := descend_of_mem_filesBelow hx
  obtain ⟨names', hpath', hloc'⟩ := descend_of_mem_filesBelow hy
  have hparts : m.path.parts ++ names = m.path.parts ++ names' :=
    congrArg FilePath.parts (hpath.symm.trans (h.trans hpath'))
  rw [hloc, hloc', List.append_cancel_left hparts]

/-- The stub walk is the recursive walk. Where no listing is refused it comes to its end: it meets the regular files of
each directory in the order of their names, then what is below its real directories in the order of theirs, and so each
regular file that real directories lead to, once, and nothing else. -/
theorem stubFiles_eq_walkBelow {modified : Stamp} (hs : d.stat p = .ok (root, .dir modified)) :
    d.stubFiles p = d.walkBelow ⟨p, root⟩ ∧
      ((∀ names, d.IsDirPath root names → d.unlisted? (p.descend names) = none) →
        d.stubFiles p = ⟨d.tree.filesBelow ⟨p, root⟩, none⟩ ∧
          (∀ l, d.tree.NamesInOrder l (·.isFile = true) (d.tree.filesIn l) ∧
            d.tree.NamesInOrder l (·.isDir = true) (d.tree.dirsIn l)) ∧
          ((d.tree.filesBelow ⟨p, root⟩).map (·.path)).Nodup ∧
          ∀ q, q ∈ (d.tree.filesBelow ⟨p, root⟩).map (·.path) ↔
            ∃ names, q = p.descend names ∧ RealFile d.tree root (names.reverse ++ root)) := by
  have hdir : d.tree.isDir root = true := isDir_iff.2 ⟨modified, get?_of_stat hs⟩
  have hloop : d.stubFilesFrom [⟨p, root⟩] = d.walkBelow ⟨p, root⟩ := by
    rw [stubFilesFrom_eq_join, List.map_singleton, Trace.join, Trace.join, Trace.append_done]
  have hwalk : d.stubFiles p = d.walkBelow ⟨p, root⟩ := by
    rw [stubFiles, hs]
    cases hdenied : d.unlisted? p with
    | none => exact hloop
    | some errno => rw [walkBelow, dif_pos hdir, list, hdenied]
  refine ⟨hwalk, fun hlist => ?_⟩
  have hall : d.stubFiles p = ⟨d.tree.filesBelow ⟨p, root⟩, none⟩ := hwalk.trans (walkBelow_of_listed hdir hlist)
  obtain ⟨hnodup, hmem⟩ := stubFiles_complete hs (congrArg Trace.stop? hall)
  rw [hall] at hnodup hmem
  refine ⟨hall, fun l => ⟨d.tree.namesInOrder_filesIn l, d.tree.namesInOrder_dirsIn l⟩, ?_, fun q => ?_⟩
  · refine List.pairwise_map.2 ((List.pairwise_map.1 hnodup).imp_of_mem ?_)
    exact fun hx hy hne hpath => hne (loc_eq_of_mem_filesBelow hx hy hpath)
  · rw [List.mem_map]
    constructor
    · rintro ⟨x, hx, rfl⟩
      obtain ⟨names, hpath, hloc⟩ := descend_of_mem_filesBelow hx
      have hreal : RealFile d.tree root x.loc := (hmem x.loc).1 (List.mem_map_of_mem hx)
      exact ⟨names, hpath, hloc ▸ hreal⟩
    · rintro ⟨names, rfl, hreal⟩
      obtain ⟨x, hx, hloc⟩ := List.mem_map.1 ((hmem _).2 hreal)
      obtain ⟨names', hpath, hloc'⟩ := descend_of_mem_filesBelow hx
      have hnames : names'.reverse = names.reverse := List.append_cancel_right (hloc'.symm.trans hloc)
      exact ⟨x, hx, by rw [hpath, List.reverse_inj.1 hnames]⟩

/-- A file two real directories down, and a link that leads back to the top. -/
def branchingDisk : Disk where
  tree :=
    { entries :=
        [([], .dir .now), (["s"], .dir .now), (["C.java", "s"], .file [] .now .now), (["a", "s"], .dir .now),
          (["top", "a", "s"], .link "/s"), (["z", "a", "s"], .dir .now), (["Z.java", "z", "a", "s"], .file [] .now .now)]
      nodup := by decide }
  cwd := .root

/-- The walk of the sample goes down to the deep file, and not through the link. -/
theorem walk_of_branchingDisk :
    branchingDisk.stat ⟨.slash, ["s"]⟩ = .ok (["s"], .dir .now) ∧ branchingDisk.ListsBelow ⟨.slash, ["s"]⟩ ["s"] ∧
      ∃ paths, (branchingDisk.stubFiles ⟨.slash, ["s"]⟩).items.map (·.path) = paths ∧
        (branchingDisk.stubFiles ⟨.slash, ["s"]⟩).stop? = none ∧ paths.Nodup ∧
        ⟨.slash, ["s", "a", "z", "Z.java"]⟩ ∈ paths ∧ ⟨.slash, ["s", "a", "top", "C.java"]⟩ ∉ paths := by
  have hstat : branchingDisk.stat ⟨.slash, ["s"]⟩ = .ok (["s"], .dir .now) := ok_of_toOption (by decide +kernel)
  have hlist : branchingDisk.ListsBelow ⟨.slash, ["s"]⟩ ["s"] := by decide +kernel
  obtain ⟨hwalk, -, hnodup, hmem⟩ := (stubFiles_eq_walkBelow hstat).2 fun _ => hlist.unlisted?
  refine ⟨hstat, hlist, _, rfl, ?_⟩
  rw [hwalk]
  refine ⟨rfl, hnodup, (hmem _).2 ⟨["a", "z", "Z.java"], rfl, ?_⟩, fun h => ?_⟩
  · have hs : RealDir branchingDisk.tree ["s"] ["s"] := .top (by decide +kernel)
    have ha : RealDir branchingDisk.tree ["s"] ["a", "s"] := .inside hs (by decide +kernel)
    have hz : RealDir branchingDisk.tree ["s"] ["z", "a", "s"] := .inside ha (by decide +kernel)
    have hfile : branchingDisk.tree.get? ["Z.java", "z", "a", "s"] = some (.file [] .now .now) := by decide +kernel
    exact .intro hz hfile
  · obtain ⟨names, hpath, hreal⟩ := (hmem _).1 h
    obtain rfl : ["a", "top", "C.java"] = names := (List.cons.inj (congrArg FilePath.parts hpath)).2
    obtain ⟨data, m, a, hfile⟩ := hreal.file
    have hnone : branchingDisk.tree.get? ["C.java", "top", "a", "s"] = none := by decide +kernel
    exact absurd (hnone.symm.trans hfile) nofun

/-- Sixteen directories one in the other, with a file in the last one. -/
def nestedDisk : Disk where
  tree :=
    { entries := ("A.java" :: List.replicate 16 longestName, .file [] .now .now) ::
        (List.range 17).map fun n => (List.replicate n longestName, .dir .now)
      nodup := by decide +kernel }
  cwd := .root

set_option maxRecDepth 100000 in
/-- No listing is denied in the sample, but the path of its deepest directory has 4096 bytes. -/
theorem walk_stops_in_nestedDisk :
    nestedDisk.stat .root = .ok ([], .dir .now) ∧ nestedDisk.denied.listing = [] ∧ nestedDisk.obstacles.search = [] ∧
      RealFile nestedDisk.tree [] ("A.java" :: List.replicate 16 longestName) ∧
      (nestedDisk.stubFiles .root).items = [] ∧
      (nestedDisk.stubFiles .root).stop? =
        some (.os (.at .ENAMETOOLONG (FilePath.root.descend (List.replicate 16 longestName)))) := by
  have hdirs : ∀ n < 17, nestedDisk.tree.isDir (List.replicate n longestName) = true := by decide +kernel
  have hreal : ∀ n < 17, RealDir nestedDisk.tree [] (List.replicate n longestName) := by
    intro n hn
    induction n with
    | zero => exact .top (hdirs 0 hn)
    | succ n ih => exact .inside (ih (by omega)) (hdirs (n + 1) hn)
  have hfile : nestedDisk.tree.get? ("A.java" :: List.replicate 16 longestName) = some (.file [] .now .now) := by
    decide +kernel
  refine ⟨ok_of_toOption (by decide +kernel), rfl, rfl, .intro (hreal 16 (by omega)) hfile, ?_, ?_⟩
  · decide +kernel
  · decide +kernel

end Disk

end JavaStubs
