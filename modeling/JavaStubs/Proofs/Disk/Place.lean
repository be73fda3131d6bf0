import JavaStubs.Disk.RealPath
import JavaStubs.Proofs.Disk.Effects

/-! The location that a path names by its text alone. In a tree without links it is the one that the path leads to, if
it leads anywhere. -/
namespace JavaStubs

namespace FilePath

theorem absolute_child (p base : FilePath) (n : String) : (p.child n).absolute base = (p.absolute base).child n := by
  unfold absolute
  cases h : p.isAbsolute with
  | true => rw [append_of_absolute h, append_of_absolute (p := base) (q := p.child n) h]
  | false =>
    rw [append_parts_of_relative h, append_parts_of_relative (p := base) (q := p.child n) h]
    simp [child]

end FilePath

/-- Without links, following parts is applying them by their text. -/
theorem FileTree.canonicalFrom_of_linkFree {t : FileTree} (ht : t.LinkFree) (barred : Loc → Bool) (depth : Nat)
    (known : List (Loc × Option Loc)) (here : Loc) (parts : List String) :
    t.canonicalFrom barred depth known here parts = ⟨descend here parts, true, known⟩ := by
  induction parts generalizing here with
  | nil => simp [canonicalFrom, descend]
  | cons c rest ih =>
    have hstep : ∀ target, (if barred (c :: here) then none else t.get? (c :: here)) ≠ some (.link target) := by
      intro target hlink
      split at hlink
      · cases hlink
      · have hnone := ht.isLink hlink
        cases hnone
    rw [canonicalFrom]
    simp only [descend, List.foldl_cons]
    split
    · exact ih here
    split
    · exact ih here.tail
    · exact ih (c :: here)

namespace Disk

def place (d : Disk) (p : FilePath) : Loc :=
  FileTree.descend [] (p.absolute d.cwd).parts

theorem place_child (d : Disk) (p : FilePath) {n : String} (h₁ : n ≠ ".") (h₂ : n ≠ "..") :
    d.place (p.child n) = n :: d.place p := by
  unfold place
  rw [FilePath.absolute_child, FilePath.child, FileTree.descend_append]
  simp [FileTree.descend, h₁, h₂]

theorem place_eq {d d' : Disk} (h : d'.cwd = d.cwd) (p : FilePath) : d'.place p = d.place p := by
  rw [place, place, h]

theorem loc_of_locate {d : Disk} {p : FilePath} {follow : Bool} {q : Place} (h : d.locate follow p = .ok q)
    (ht : d.tree.LinkFree) : q.loc = d.place p :=
  (locate_eq_ok_iff.1 h).2.loc_eq_descend ht

theorem loc_of_stat {d : Disk} {p : FilePath} {l : Loc} {e : Entry} (h : d.stat p = .ok (l, e))
    (ht : d.tree.LinkFree) : l = d.place p :=
  loc_of_locate (stat_eq_ok_iff.1 h) ht

theorem Broken.writes {d d' : Disk} {p : FilePath} {data : List UInt8} {errno : Errno} (h : d.Broken d' p data errno)
    (ht : d.tree.LinkFree) : ∃ arrived, d.Changes (FileTree.Writes (d.place p) (data.take arrived)) d' := by
  obtain ⟨l, arrived, -, hwrites, m, a, hstat⟩ := h
  have hl : l = d.place p := by
    rw [loc_of_stat hstat (hwrites.tree.linkFree ht), place_eq hwrites.cwd]
  exact ⟨arrived, hl ▸ hwrites⟩

theorem canonical_of_linkFree {d : Disk} (ht : d.tree.LinkFree) (p : FilePath) : d.canonical p = .ofLoc (d.place p) := by
  rw [canonical, FileTree.canonicalFrom_of_linkFree ht]
  rfl

end Disk

end JavaStubs
