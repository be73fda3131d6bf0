import JavaStubs.Disk.Stubs
import JavaStubs.Proofs.Disk.RecursiveWalk
import JavaStubs.Proofs.Disk.Refused

/-! What a look at the times of stubs tells: each stub below a directory by its path, once, with its time. Two looks
are compared by path and time. -/
namespace JavaStubs

/-- Where no key occurs twice, looking up is finding among the pairs. -/
theorem lookup_eq_some_iff_mem {α β : Type} [BEq α] [LawfulBEq α] {pairs : List (α × β)}
    (nodup : (pairs.map (·.1)).Nodup) {key : α} {value : β} :
    pairs.lookup key = some value ↔ (key, value) ∈ pairs := by
  rw [List.lookup_eq_some_iff]
  constructor
  · rintro ⟨before, after, rfl, -⟩
    exact List.mem_append_right _ List.mem_cons_self
  · intro h
    obtain ⟨before, after, rfl⟩ := List.append_of_mem h
    refine ⟨before, after, rfl, fun p hp => ?_⟩
    rw [List.map_append, List.map_cons] at nodup
    have hne : p.1 ≠ key := (List.nodup_append.1 nodup).2.2 _ (List.mem_map_of_mem hp) _ List.mem_cons_self
    simpa using hne.symm

theorem countChanged_eq {before : Times} (nodup : (before.map (·.1)).Nodup) (after : Times) :
    countChanged before after = (after.filter fun x => x ∉ before).length := by
  rw [countChanged, List.countP_eq_length_filter]
  congr 1
  refine List.filter_congr fun x _ => ?_
  rw [decide_eq_decide, Ne, lookup_eq_some_iff_mem nodup]

namespace Disk

open FileTree

variable {d : Disk} {p q : FilePath} {time : Stamp}

/-- A regular file that real directories lead to from the directory at `p`, by the path it has there, and its time of
modification. -/
def FileBelow (d : Disk) (p q : FilePath) (time : Stamp) : Prop :=
  ∃ root modified names data accessed, d.stat p = .ok (root, .dir modified) ∧ q = p.descend names ∧
    RealFile d.tree root (names.reverse ++ root) ∧
    d.tree.get? (names.reverse ++ root) = some (.file data time accessed)

/-- No directory that a walk below `p` comes to refuses to be listed. -/
def Listable (d : Disk) (p : FilePath) : Prop :=
  ∀ root modified names, d.stat p = .ok (root, .dir modified) → d.IsDirPath root names →
    d.unlisted? (p.descend names) = none

theorem Listable.of_stat {root : Loc} {modified : Stamp} (hs : d.stat p = .ok (root, .dir modified))
    (hlist : d.ListsBelow p root) : d.Listable p := by
  intro root' modified' names hs' hpath
  cases hs.symm.trans hs'
  exact hlist.unlisted? hpath

theorem Listable.of_not_dir (h : d.isDir? p ≠ .ok true) : d.Listable p :=
  fun _ _ _ hs _ => absurd (test_of_stat _ hs) h

theorem modified?_eq_some_iff {l : Loc} :
    d.modified? l = some time ↔ ∃ data accessed, d.tree.get? l = some (.file data time accessed) := by
  unfold modified?
  cases d.tree.get? l with
  | none => simp
  | some e => cases e <;> simp [eq_comm]

variable {root : Loc} {modified : Stamp}

theorem fileBelow_iff (hs : d.stat p = .ok (root, .dir modified)) :
    d.FileBelow p q time ↔
      ∃ m ∈ d.tree.filesBelow ⟨p, root⟩, m.path = q ∧ d.modified? m.loc = some time := by
  have hdir : d.tree.isDir root = true := isDir_iff.2 ⟨modified, get?_of_stat hs⟩
  constructor
  · rintro ⟨root', modified', names, data, accessed, hs', rfl, hreal, hfile⟩
    obtain rfl : root = root' := congrArg Prod.fst (Except.ok.inj (hs.symm.trans hs'))
    obtain ⟨m, hm, hloc⟩ := List.mem_map.1 ((mem_filesBelow (m := ⟨p, root⟩) hdir).2 hreal)
    obtain ⟨names', hpath, hloc'⟩ := descend_of_mem_filesBelow hm
    have hnames : names'.reverse = names.reverse := List.append_cancel_right (hloc'.symm.trans hloc)
    refine ⟨m, hm, ?_, modified?_eq_some_iff.2 ⟨data, accessed, hloc ▸ hfile⟩⟩
    rw [hpath, List.reverse_inj.1 hnames]
  · rintro ⟨m, hm, rfl, htime⟩
    obtain ⟨names, hpath, hloc⟩ := descend_of_mem_filesBelow hm
    obtain ⟨data, accessed, hfile⟩ := modified?_eq_some_iff.1 htime
    have hreal : RealFile d.tree root m.loc := (mem_filesBelow (m := ⟨p, root⟩) hdir).1 (List.mem_map_of_mem hm)
    dsimp only at hloc
    exact ⟨root, modified, names, data, accessed, hs, hpath, hloc ▸ hreal, hloc ▸ hfile⟩

/-- A walk that nothing stops comes to every file below the directory. -/
theorem stubFiles_of_listable (hs : d.stat p = .ok (root, .dir modified)) (hlist : d.Listable p) :
    d.stubFiles p = ⟨d.tree.filesBelow ⟨p, root⟩, none⟩ := by
  have hdir : d.tree.isDir root = true := isDir_iff.2 ⟨modified, get?_of_stat hs⟩
  have hself := hlist root modified [] hs hdir
  rw [FilePath.descend_nil] at hself
  rw [stubFiles, hself, hs]
  exact (stubFilesFrom_singleton _ _).trans (walkBelow_of_listed hdir fun names => hlist root modified names hs)

theorem nodup_paths_filesBelow (hs : d.stat p = .ok (root, .dir modified)) (hlist : d.Listable p) :
    ((d.tree.filesBelow ⟨p, root⟩).map (·.path)).Nodup := by
  have hwalk := stubFiles_of_listable hs hlist
  obtain ⟨hnodup, -⟩ := stubFiles_complete hs (congrArg Trace.stop? hwalk)
  rw [hwalk] at hnodup
  refine List.pairwise_map.2 ((List.pairwise_map.1 hnodup).imp_of_mem ?_)
  exact fun hx hy hne hpath => hne (loc_eq_of_mem_filesBelow hx hy hpath)

/-- Why a look at the stubs below a directory fails where no listing is refused: the system does not tell what the
directory is, or it does not tell the time of a stub. -/
inductive Unseen (d : Disk) (p : FilePath) (endings : List String) : Failure → Prop
  | kind {errno} : d.Refuses p errno → Unseen d p endings (.access (.os (.at errno p)))
  | time {q time errno} : d.FileBelow p q time → endings.any (Text.endsWith q.name ·) = true →
      d.barred? q = some errno → Unseen d p endings (.stub (.cannotListStubs p (.at errno q)))

/-- The stubs that a look at a directory asks for, those with one of the endings. -/
def wanted (d : Disk) (p : FilePath) (root : Loc) (endings : List String) : List Met :=
  (d.tree.filesBelow ⟨p, root⟩).filter fun m => endings.any fun e => Text.endsWith m.path.name e

theorem mem_wanted {endings : List String} (hs : d.stat p = .ok (root, .dir modified)) :
    d.FileBelow p q time ∧ endings.any (Text.endsWith q.name ·) = true ↔
      ∃ m ∈ d.wanted p root endings, m.path = q ∧ d.modified? m.loc = some time := by
  rw [fileBelow_iff hs]
  constructor
  · rintro ⟨⟨m, hm, rfl, htime⟩, hends⟩
    exact ⟨m, List.mem_filter.2 ⟨hm, hends⟩, rfl, htime⟩
  · rintro ⟨m, hm, rfl, htime⟩
    obtain ⟨hm, hends⟩ := List.mem_filter.1 hm
    exact ⟨⟨m, hm, rfl, htime⟩, hends⟩

theorem modified?_of_mem_wanted {endings : List String} {m : Met} (hs : d.stat p = .ok (root, .dir modified))
    (hm : m ∈ d.wanted p root endings) : ∃ time, d.modified? m.loc = some time := by
  have hdir : d.tree.isDir root = true := isDir_iff.2 ⟨modified, get?_of_stat hs⟩
  have hreal : RealFile d.tree root m.loc :=
    (mem_filesBelow (m := ⟨p, root⟩) hdir).1 (List.mem_map_of_mem (List.mem_filter.1 hm).1)
  obtain ⟨data, time, accessed, hfile⟩ := hreal.file
  exact ⟨time, modified?_eq_some_iff.2 ⟨data, accessed, hfile⟩⟩

/-- A look at a directory asks for the time of each stub below it. -/
theorem times_of_listable (endings : List String) (hs : d.stat p = .ok (root, .dir modified)) (hlist : d.Listable p) :
    d.times p endings =
      match (d.wanted p root endings).findSome? d.unasked? with
      | some e => .error ((Failure.access e).refused (.cannotListStubs p))
      | none => .ok ((d.wanted p root endings).filterMap fun m => (d.modified? m.loc).map fun t => (m.path, t)) := by
  have hasked : d.isDir? p = .ok true := test_of_stat _ hs
  rw [times, hasked, stubFiles_of_listable hs hlist]
  show (match ((d.wanted p root endings).findSome? d.unasked?).or none with | some e => _ | none => _) = _
  rw [Option.or_none]
  cases (d.wanted p root endings).findSome? d.unasked? <;> rfl

/-- A look that is not refused tells the time of each stub below a directory. -/
theorem times_ok {endings : List String} (hlist : d.Listable p) (hseen : ∀ f, ¬d.Unseen p endings f) :
    ∃ ts, d.times p endings = .ok ts ∧ (ts.map (·.1)).Nodup ∧
      ∀ q time, (q, time) ∈ ts ↔ d.FileBelow p q time ∧ endings.any (Text.endsWith q.name ·) = true := by
  have htold : ¬∃ errno, d.Refuses p errno := fun ⟨errno, hrefuses⟩ => hseen _ (.kind hrefuses)
  obtain ⟨isDir, hasked⟩ := (not_refuses_iff Entry.isDir).1 htold
  cases isDir with
  | false =>
    have hnone : d.times p endings = .ok [] := by
      rw [times, isDir?, hasked]
      rfl
    refine ⟨[], hnone, .nil, fun q time => ⟨nofun, ?_⟩⟩
    rintro ⟨⟨root, modified, -, -, -, hs, -⟩, -⟩
    cases hasked.symm.trans (test_of_stat _ hs)
  | true =>
    obtain ⟨root, modified, hs⟩ := stat_of_isDir? hasked
    have hall : (d.wanted p root endings).findSome? d.unasked? = none := by
      refine List.findSome?_eq_none_iff.2 fun m hm => Option.map_eq_none_iff.2 ?_
      obtain ⟨time, htime⟩ := modified?_of_mem_wanted hs hm
      obtain ⟨hbelow, hends⟩ := (mem_wanted hs).2 ⟨m, hm, rfl, htime⟩
      cases hbarred : d.barred? m.path with
      | none => rfl
      | some errno => exact absurd (.time hbelow hends hbarred) (hseen _)
    rw [times_of_listable endings hs hlist, hall]
    refine ⟨_, rfl, ?_, fun q time => ?_⟩
    · have hpaths := (List.pairwise_map.1 (nodup_paths_filesBelow hs hlist)).filter
        fun m => endings.any fun e => Text.endsWith m.path.name e
      refine List.pairwise_map.2 (List.Pairwise.filterMap _ ?_ hpaths)
      intro m m' hne x hx x' hx'
      obtain ⟨t, -, rfl⟩ := Option.map_eq_some_iff.1 hx
      obtain ⟨t', -, rfl⟩ := Option.map_eq_some_iff.1 hx'
      exact hne
    · rw [mem_wanted hs, List.mem_filterMap]
      simp only [Option.map_eq_some_iff, Prod.mk.injEq]
      constructor
      · rintro ⟨m, hm, t, ht, rfl, rfl⟩
        exact ⟨m, hm, rfl, ht⟩
      · rintro ⟨m, hm, rfl, ht⟩
        exact ⟨m, hm, time, ht, rfl, rfl⟩

theorem times_of_unseen {endings : List String} (hlist : d.Listable p) (hunseen : ∃ f, d.Unseen p endings f) :
    ∃ f, d.times p endings = .error f ∧ d.Unseen p endings f := by
  by_cases hrefuses : ∃ errno, d.Refuses p errno
  · obtain ⟨errno, hrefuses⟩ := hrefuses
    refine ⟨_, ?_, .kind hrefuses⟩
    rw [times, isDir?, test_of_refuses hrefuses]
    rfl
  · obtain ⟨f, hf⟩ := hunseen
    cases hf with
    | kind hkind => exact absurd ⟨_, hkind⟩ hrefuses
    | @time q time errno hbelow hends hbarred =>
      obtain ⟨root, modified, _, _, _, hs, -⟩ := id hbelow
      obtain ⟨m, hm, rfl, htime⟩ := (mem_wanted hs).1 ⟨hbelow, hends⟩
      rw [times_of_listable endings hs hlist]
      cases hfound : (d.wanted p root endings).findSome? d.unasked? with
      | none =>
        have hnone := List.findSome?_eq_none_iff.1 hfound m hm
        rw [unasked?, hbarred] at hnone
        cases hnone
      | some e =>
        obtain ⟨m', hm', he⟩ := List.exists_of_findSome?_eq_some hfound
        obtain ⟨errno', hbarred', rfl⟩ := Option.map_eq_some_iff.1 he
        obtain ⟨time', htime'⟩ := modified?_of_mem_wanted hs hm'
        obtain ⟨hbelow', hends'⟩ := (mem_wanted hs).2 ⟨m', hm', rfl, htime'⟩
        exact ⟨_, rfl, .time hbelow' hends' hbarred'⟩

end Disk

end JavaStubs
