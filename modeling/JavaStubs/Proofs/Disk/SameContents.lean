import JavaStubs.Proofs.Disk.Alters
import JavaStubs.Proofs.Disk.Lasting
import JavaStubs.Proofs.Source.Leaves

/-! Trees that differ in times at most. Paths lead to the same, and walks meet the same in the same order. -/
namespace JavaStubs

def Stamp.aged (time : Int) : Stamp → Stamp
  | .now => .known time
  | .known ns => .known ns

def Entry.aged (time : Int) : Entry → Entry
  | .file data modified accessed => .file data (modified.aged time) (accessed.aged time)
  | .dir modified => .dir (modified.aged time)
  | .link target => .link target

theorem Entry.content_aged (e : Entry) (time : Int) : (e.aged time).content = e.content := by
  cases e <;> rfl

namespace FileTree

def SameContents (t t' : FileTree) : Prop :=
  ∀ l, t'.content? l = t.content? l

namespace SameContents

variable {t t₁ t₂ t₃ t' : FileTree}

theorem refl (t : FileTree) : SameContents t t :=
  fun _ => rfl

theorem symm (h : SameContents t t') : SameContents t' t :=
  fun l => (h l).symm

theorem trans (h : SameContents t₁ t₂) (h' : SameContents t₂ t₃) : SameContents t₁ t₃ :=
  fun l => (h' l).trans (h l)

theorem kept (h : SameContents t t') : Kept t t' :=
  fun l _ hc _ => (h l).trans hc

theorem linkFree (h : SameContents t t') (ht : t.LinkFree) : t'.LinkFree :=
  fun l target hl => ht l target ((h l).symm.trans hl)

theorem named (h : SameContents t t') (ht : t.Named) : t'.Named :=
  fun c l x hx => ht c l x ((h (c :: l)).symm.trans hx)

theorem alters {may : Loc → Prop} (h : SameContents t t') : Alters may t t' :=
  ⟨fun l => .inl (h l), fun l _ hl => (h l).symm.trans hl, h.named⟩

theorem isDir (h : SameContents t t') (l : Loc) : t'.isDir l = t.isDir l := by
  rw [Bool.eq_iff_iff, isDir_iff_content?, isDir_iff_content?, h l]

theorem data? (h : SameContents t t') (l : Loc) : t'.data? l = t.data? l :=
  data?_of_content?_eq (h l)

end SameContents

def aged (t : FileTree) (time : Int) : FileTree where
  entries := t.entries.map fun e => (e.1, e.2.aged time)
  nodup := by simpa [Function.comp_def] using t.nodup

theorem sameContents_aged (t : FileTree) (time : Int) : t.SameContents (t.aged time) := by
  intro l
  have hfind : (t.aged time).get? l = (t.get? l).map (Entry.aged time) := by
    rw [get?, get?, aged, List.find?_map, Option.map_map, Option.map_map]
    rfl
  rw [content?, content?, hfind, Option.map_map]
  congr 1
  exact funext fun e => e.content_aged time

/-- The names in a directory with what they stand for, in order. -/
def contents (t : FileTree) (l : Loc) : List (String × Content) :=
  (t.listing l).map fun e => (e.1, e.2.content)

theorem mem_contents {t : FileTree} {l : Loc} {c : String} {x : Content} :
    (c, x) ∈ t.contents l ↔ t.content? (c :: l) = some x := by
  rw [contents, List.mem_map]
  constructor
  · rintro ⟨⟨c', e⟩, he, heq⟩
    cases heq
    exact content?_of_get? (mem_listing.1 he)
  · intro h
    obtain ⟨e, he, rfl⟩ := get?_of_content? h
    exact ⟨(c, e), mem_listing.2 he, rfl⟩

theorem nodup_contents (t : FileTree) (l : Loc) : (t.contents l).Nodup := by
  have hnames := t.listing_nodup l
  refine List.pairwise_map.2 ((List.pairwise_map.1 hnames).imp ?_)
  exact fun hne heq => hne (Prod.mk.inj heq).1

theorem pairwise_contents (t : FileTree) (l : Loc) : (t.contents l).Pairwise fun a b => a.1 ≤ b.1 := by
  have hsorted : (t.listing l).Pairwise fun a b => decide (a.1 ≤ b.1) = true :=
    List.pairwise_mergeSort (by simpa using fun _ _ _ => String.le_trans) (by simpa using String.le_total) _
  exact List.pairwise_map.2 (hsorted.imp fun h => of_decide_eq_true h)

/-- What a directory holds tells its listing, times apart. -/
theorem contents_eq {t t' : FileTree} {l : Loc} (h : ∀ c, t'.content? (c :: l) = t.content? (c :: l)) :
    t'.contents l = t.contents l := by
  have hmem : ∀ e, e ∈ t'.contents l ↔ e ∈ t.contents l := by
    rintro ⟨c, x⟩
    rw [mem_contents, mem_contents, h]
  refine List.Perm.eq_of_pairwise ?_ (t'.pairwise_contents l) (t.pairwise_contents l)
    ((List.perm_ext_iff_of_nodup (t'.nodup_contents l) (t.nodup_contents l)).2 hmem)
  rintro ⟨c, x⟩ ⟨c', x'⟩ hx hx' hle hle'
  obtain rfl : c = c' := String.le_antisymm hle hle'
  rw [hmem, mem_contents] at hx
  rw [mem_contents, hx] at hx'
  cases hx'
  rfl

end FileTree

namespace Disk

open FileTree

variable {d d' : Disk} {p : FilePath}

/-- Disks that differ in times at most. -/
abbrev SameContents (d d' : Disk) : Prop :=
  d.Changes FileTree.SameContents d'

def aged (d : Disk) (time : Int) : Disk :=
  { d with tree := d.tree.aged time }

theorem sameContents_aged (d : Disk) (time : Int) : d.SameContents (d.aged time) :=
  ⟨d.tree.sameContents_aged time, rfl, rfl⟩

namespace SameContents

theorem symm (h : d.SameContents d') : d'.SameContents d :=
  ⟨h.tree.symm, h.cwd.symm, h.rules.symm⟩

instance : Passage fun d d' => d.SameContents d' where
  refl _ := ⟨.refl _, rfl, rfl⟩
  trans h h' := h.comp h' .trans

theorem kept (h : d.SameContents d') : d.Changes Kept d' :=
  h.imp fun _ _ => FileTree.SameContents.kept

theorem stat_dir (h : d.SameContents d') {l : Loc} {m : Stamp} (hs : d.stat p = .ok (l, .dir m)) :
    ∃ m', d'.stat p = .ok (l, .dir m') :=
  stat_dir_of_kept hs h.kept

theorem isDir? (h : d.SameContents d') (hd : d.isDir? p = .ok true) : d'.isDir? p = .ok true := by
  obtain ⟨l, m, hs⟩ := stat_of_isDir? hd
  obtain ⟨m', hs'⟩ := h.stat_dir hs
  exact test_of_stat _ hs'

end SameContents

theorem stat_file_of_kept {l : Loc} {data data' : List UInt8} {m a : Stamp} (hs : d.stat p = .ok (l, .file data m a))
    (hk : d.Changes Kept d') (hdata : d'.tree.data? l = some data') :
    ∃ m' a', d'.stat p = .ok (l, .file data' m' a') := by
  obtain ⟨m', a', he⟩ := get?_of_data? hdata
  exact ⟨m', a', stat_eq_ok_iff.2 (locate_of_kept (stat_eq_ok_iff.1 hs) hk he rfl id)⟩

section

variable (t : FileTree) (l : Loc)

theorem dirNames_listing : dirNames (t.listing l) = ((t.contents l).filter (·.2 = .dir)).map (·.1) := by
  rw [contents, List.filter_map, List.map_map, dirNames]
  congr 1
  refine List.filter_congr fun e _ => ?_
  rw [Bool.eq_iff_iff]
  simp [Entry.content_eq_dir]

theorem fileNames_listing : fileNames (t.listing l) = ((t.contents l).filter (·.2.isFile)).map (·.1) := by
  rw [contents, List.filter_map, List.map_map, fileNames]
  congr 1
  refine List.filter_congr fun e _ => ?_
  cases e with
  | mk c e => cases e <;> rfl

theorem leafNames_listing {d : Disk} (hfree : d.tree.LinkFree) :
    d.leafNames l (d.tree.listing l) = ((d.tree.contents l).filter (·.2 ≠ .dir)).map (·.1) := by
  rw [contents, List.filter_map, List.map_map, leafNames]
  congr 1
  refine List.filter_congr fun x he => ?_
  obtain ⟨c, e⟩ := x
  cases e with
  | file => rfl
  | dir => rfl
  | link target => exact absurd (content?_of_get? (mem_listing.1 he)) (hfree _ _)

end

namespace SameContents

theorem contents_eq (h : d.SameContents d') (l : Loc) : d'.tree.contents l = d.tree.contents l :=
  FileTree.contents_eq fun _ => h.tree _

theorem dirNames_eq (h : d.SameContents d') (l : Loc) :
    dirNames (d'.tree.listing l) = dirNames (d.tree.listing l) := by
  rw [dirNames_listing, dirNames_listing, h.contents_eq]

theorem list_eq (h : d.SameContents d') (p : FilePath) (l : Loc) :
    d'.list p l = (d.list p l).map fun _ => d'.tree.listing l := by
  unfold list
  rw [unlisted?_eq h.rules]
  cases d.unlisted? p <;> rfl

theorem leaves_eq (h : d.SameContents d') (hfree : d.tree.LinkFree) (p : FilePath) (here : Loc) (sofar : List String) :
    d'.leaves p here sofar = d.leaves p here sofar := by
  fun_induction leaves d p here sofar
  case case1 p here sofar hd ih =>
    have hd' : d'.tree.isDir here = true := (h.tree.isDir here).trans hd
    rw [leaves, dif_pos hd', h.list_eq p here]
    cases hlist : d.list p here with
    | error e => rfl
    | ok entries =>
      obtain rfl := list_ok hlist
      simp only [Except.map, bind, Except.bind, ih, h.dirNames_eq here, leafNames_listing here hfree,
        leafNames_listing here (h.tree.linkFree hfree), h.contents_eq here]
  case case2 p here sofar hd =>
    rw [leaves, dif_neg (by rwa [h.tree.isDir here])]

theorem stubFilesFrom_eq (h : d.SameContents d') (stack : List Met) : d'.stubFilesFrom stack = d.stubFilesFrom stack := by
  fun_induction stubFilesFrom d stack
  case case1 => rw [stubFilesFrom]
  case case2 m stack hd e hlist =>
    have hd' : d'.tree.isDir m.loc = true := (h.tree.isDir m.loc).trans hd
    have hlist' : d'.list m.path m.loc = .error e := by
      rw [h.list_eq, hlist]
      rfl
    rw [stubFilesFrom, dif_pos hd']
    split
    · next e' he' =>
      cases hlist'.symm.trans he'
      rfl
    · next he' => cases hlist'.symm.trans he'
  case case3 m stack hd entries hlist ih =>
    have hd' : d'.tree.isDir m.loc = true := (h.tree.isDir m.loc).trans hd
    obtain rfl := list_ok hlist
    have hlist' : d'.list m.path m.loc = .ok (d'.tree.listing m.loc) := by
      rw [h.list_eq, hlist]
      rfl
    rw [stubFilesFrom, dif_pos hd']
    split
    · next he' => cases hlist'.symm.trans he'
    · next he' =>
      cases hlist'.symm.trans he'
      rw [h.dirNames_eq, ih, fileNames_listing, fileNames_listing, h.contents_eq]
  case case4 m stack hd =>
    rw [stubFilesFrom, dif_neg (by rwa [h.tree.isDir m.loc])]

/-- The stubs below a directory are met in the same order, and the walk is stopped at the same point. -/
theorem stubFiles_eq (h : d.SameContents d') (hd : d.isDir? p = .ok true) : d'.stubFiles p = d.stubFiles p := by
  obtain ⟨l, m, hs⟩ := stat_of_isDir? hd
  obtain ⟨m', hs'⟩ := h.stat_dir hs
  unfold stubFiles
  rw [unlisted?_eq h.rules, hs, hs']
  dsimp only
  rw [h.stubFilesFrom_eq]

end SameContents

end Disk

end JavaStubs
