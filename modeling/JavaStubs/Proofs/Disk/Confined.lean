import JavaStubs.Proofs.Disk.Alters

/-! Changes that stay inside a part of the tree. Outside of it files keep their bytes and their times, and nothing
comes to be there but directories on the way to that part. -/
namespace JavaStubs

def Entry.file? : Entry → Option (List UInt8 × Stamp × Stamp)
  | file data modified accessed => some (data, modified, accessed)
  | _ => none

namespace FileTree

def file? (t : FileTree) (l : Loc) : Option (List UInt8 × Stamp × Stamp) :=
  (t.get? l).bind Entry.file?

theorem file?_of_get?_eq {t t' : FileTree} {l : Loc} (h : t'.get? l = t.get? l) : t'.file? l = t.file? l := by
  rw [file?, h]
  rfl

theorem file?_insert (t : FileTree) (l l' : Loc) (e : Entry) :
    (t.insert l e).file? l' = if l' = l then e.file? else t.file? l' := by
  rw [file?, get?_insert]
  split <;> rfl

theorem file?_erase (t : FileTree) (l l' : Loc) : (t.erase l).file? l' = if l' = l then none else t.file? l' := by
  rw [file?, get?_erase]
  split <;> rfl

@[simp] theorem file?_touch (t : FileTree) (d l : Loc) : (t.touch d).file? l = t.file? l := by
  unfold touch
  split
  · next m h =>
    rw [file?_insert]
    split
    · next hl =>
      rw [hl, file?, h]
      rfl
    · rfl
  · rfl

theorem file?_create (t : FileTree) (l l' : Loc) (e : Entry) :
    (t.create l e).file? l' = if l' = l then e.file? else t.file? l' := by
  rw [create, file?_touch, file?_insert]

theorem file?_remove (t : FileTree) (l l' : Loc) : (t.remove l).file? l' = if l' = l then none else t.file? l' := by
  rw [remove, file?_touch, file?_erase]

/-- Trees with the same regular files, bytes and times included. -/
def SameFiles (t t' : FileTree) : Prop :=
  ∀ l, t'.file? l = t.file? l

/-- The second tree may be any inside a part; elsewhere it has the contents of the first one, save for new directories
on the way, and the same files with the same times. -/
structure Confined (inside way : Loc → Prop) (t t' : FileTree) : Prop where
  content? : ∀ l, ¬inside l →
    t'.content? l = t.content? l ∨ (way l ∧ t.content? l = none ∧ t'.content? l = some .dir)
  file? : ∀ l, ¬inside l → t'.file? l = t.file? l

namespace Confined

variable {inside way : Loc → Prop} {t t₁ t₂ t₃ t' : FileTree} {l : Loc}

theorem refl (t : FileTree) : Confined inside way t t :=
  ⟨fun _ _ => .inl rfl, fun _ _ => rfl⟩

theorem trans (h : Confined inside way t₁ t₂) (h' : Confined inside way t₂ t₃) : Confined inside way t₁ t₃ where
  content? l hl := by
    rcases h'.content? l hl with he' | ⟨hway, hnone, hdir⟩
    · rw [he']
      exact h.content? l hl
    · rcases h.content? l hl with he | ⟨-, -, hdir'⟩
      · exact .inr ⟨hway, he ▸ hnone, hdir⟩
      · cases hnone.symm.trans hdir'
  file? l hl := (h'.file? l hl).trans (h.file? l hl)

theorem mono {inside' way' : Loc → Prop} (h : Confined inside way t t') (hinside : ∀ l, inside l → inside' l)
    (hway : ∀ l, way l → way' l) : Confined inside' way' t t' where
  content? l hl := (h.content? l fun hin => hl (hinside l hin)).imp_right fun hnew => ⟨hway l hnew.1, hnew.2⟩
  file? l hl := h.file? l fun hin => hl (hinside l hin)

theorem of_one (hl : inside l) (hcontent : ∀ l', l' ≠ l → t'.content? l' = t.content? l')
    (hfile : ∀ l', l' ≠ l → t'.file? l' = t.file? l') : Confined inside way t t' where
  content? l' hl' := .inl (hcontent l' fun heq => hl' (heq ▸ hl))
  file? l' hl' := hfile l' fun heq => hl' (heq ▸ hl)

theorem insert (hl : inside l) (e : Entry) : Confined inside way t (t.insert l e) :=
  of_one hl (fun l' hne => by rw [content?_insert, if_neg hne]) fun l' hne => by rw [file?_insert, if_neg hne]

theorem create (hl : inside l) (e : Entry) : Confined inside way t (t.create l e) :=
  of_one hl (fun l' hne => by rw [content?_create, if_neg hne]) fun l' hne => by rw [file?_create, if_neg hne]

theorem remove (hl : inside l) : Confined inside way t (t.remove l) :=
  of_one hl (fun l' hne => by rw [content?_remove, if_neg hne]) fun l' hne => by rw [file?_remove, if_neg hne]

theorem makeDir (hfree : t.get? l = none) (hl : inside l ∨ way l) : Confined inside way t (t.create l (.dir .now)) := by
  rcases hl with hl | hway
  · exact create hl _
  refine ⟨fun l' _ => ?_, fun l' _ => ?_⟩
  · rw [content?_create]
    split
    · next heq => exact .inr ⟨heq ▸ hway, content?_eq_none.2 (heq ▸ hfree), rfl⟩
    · exact .inl rfl
  · rw [file?_create]
    split
    · next heq =>
      rw [heq, FileTree.file?, hfree]
      rfl
    · rfl

end Confined

theorem get?_touch_of_ne {t : FileTree} {d l : Loc} (h : l ≠ d) : (t.touch d).get? l = t.get? l := by
  unfold touch
  split
  · rw [get?_insert, if_neg h]
  · rfl

theorem get?_create_of_ne {t : FileTree} {l l' : Loc} {e : Entry} (h : l' ≠ l) (htail : l' ≠ l.tail) :
    (t.create l e).get? l' = t.get? l' := by
  rw [create, get?_touch_of_ne htail, get?_insert, if_neg h]

theorem get?_remove_of_ne {t : FileTree} {l l' : Loc} (h : l' ≠ l) (htail : l' ≠ l.tail) :
    (t.remove l).get? l' = t.get? l' := by
  rw [remove, get?_touch_of_ne htail, get?_erase, if_neg h]

end FileTree

namespace Disk

open FileTree

instance : Passage fun d d' => d.tree.SameFiles d'.tree where
  refl _ _ := rfl
  trans h h' l := (h' l).trans (h l)

/-- A disk without links that is seen from the same directory as another one. -/
structure Straight (d₀ d : Disk) : Prop where
  cwd : d.cwd = d₀.cwd
  linkFree : d.tree.LinkFree

variable {d₀ d d' : Disk} {p : FilePath} {inside way : Loc → Prop}

theorem Straight.of_alters (h : d₀.Straight d) (hd : d.Changes (Alters fun _ => True) d') : d₀.Straight d' :=
  ⟨hd.cwd.trans h.cwd, hd.tree.linkFree h.linkFree⟩

theorem Straight.loc_of_locate (h : d₀.Straight d) {follow : Bool} {q : Place} (hq : d.locate follow p = .ok q) :
    q.loc = d₀.place p :=
  (Disk.loc_of_locate hq h.linkFree).trans (place_eq h.cwd p)

theorem Straight.loc_of_stat (h : d₀.Straight d) {l : Loc} {e : Entry} (hs : d.stat p = .ok (l, e)) :
    l = d₀.place p :=
  h.loc_of_locate (stat_eq_ok_iff.1 hs)

/-- A step that takes a disk without links to another one, and is confined to a part of the tree. -/
def Keeping (d₀ : Disk) (inside way : Loc → Prop) (d d' : Disk) : Prop :=
  d₀.Straight d → d₀.Straight d' ∧ Confined inside way d.tree d'.tree

instance : Passage (Keeping d₀ inside way) where
  refl d hd := ⟨hd, .refl d.tree⟩
  trans h h' hd := by
    obtain ⟨hd₂, hconf⟩ := h hd
    obtain ⟨hd₃, hconf'⟩ := h' hd₂
    exact ⟨hd₃, hconf.trans hconf'⟩

theorem Keeping.mono {inside' way' : Loc → Prop} (h : d₀.Keeping inside way d d')
    (hinside : ∀ l, inside l → inside' l) (hway : ∀ l, way l → way' l) : d₀.Keeping inside' way' d d' :=
  fun hd => (h hd).imp_right fun hconf => hconf.mono hinside hway

/-- The places that are tried when a directory is made. -/
def OnWay (d : Disk) (p : FilePath) (l : Loc) : Prop :=
  ∃ q, FirstParts p q ∧ l = d.place q

/-- Without a name that goes up, the way leads down to the place at its end. -/
theorem OnWay.below {l : Loc} (h : d.OnWay p l) (hup : ".." ∉ p.parts) : Below l (d.place p) := by
  obtain ⟨q, ⟨n, rfl⟩, rfl⟩ := h
  have hsame : FilePath.isAbsolute ⟨p.anchor, p.parts.take n⟩ = p.isAbsolute := rfl
  have hparts : (p.absolute d.cwd).parts =
      (FilePath.absolute ⟨p.anchor, p.parts.take n⟩ d.cwd).parts ++ p.parts.drop n := by
    unfold FilePath.absolute
    cases habs : p.isAbsolute with
    | true => simp [FilePath.append_of_absolute habs, FilePath.append_of_absolute (hsame.trans habs)]
    | false =>
      rw [FilePath.append_parts_of_relative habs, FilePath.append_parts_of_relative (hsame.trans habs),
        List.append_assoc, List.take_append_drop]
  rw [place, place, hparts, descend_append]
  exact suffix_descend fun hmem => hup (List.mem_of_mem_drop hmem)

theorem ensureDirs_keeping (hway : ∀ l, d₀.OnWay p l → inside l ∨ way l) (d : Disk) :
    Keeping d₀ inside way d (d.ensureDirs p).1 := by
  refine ensureDirs_passage d p fun d d' q _ hq h hd => ?_
  have hstraight : d₀.Straight d' := hd.of_alters (makeDir_alters h fun _ _ => trivial)
  obtain ⟨l, hl, rfl⟩ := makeDir_vacant h
  have hloc : l = d₀.place q := hd.loc_of_locate hl
  exact ⟨hstraight, .makeDir (locate_eq_ok_iff.1 hl).2.get?_loc (hway l ⟨q, hq, hloc⟩)⟩

theorem update_keeping {data : List UInt8} (hin : inside (d₀.place p))
    (hway : ∀ l, d₀.OnWay p.parent l → inside l ∨ way l) (d : Disk) :
    Keeping d₀ inside way d (d.update p data).1 := by
  refine update_passage d p data (ensureDirs_keeping hway d) fun d d' _ _ h hd => ?_
  have hstraight : d₀.Straight d' := hd.of_alters (write_alters h fun _ _ => trivial)
  rcases write_cases h with ⟨l, old, m, a, hl, rfl⟩ | ⟨l, hl, rfl⟩
  · have hloc : l = d₀.place p := hd.loc_of_locate hl
    exact ⟨hstraight, .insert (hloc ▸ hin) _⟩
  · have hloc : l = d₀.place p := hd.loc_of_locate hl
    exact ⟨hstraight, .create (hloc ▸ hin) _⟩

theorem unlink_keeping (hin : inside (d₀.place p)) (h : d.unlink p = .ok d') : Keeping d₀ inside way d d' := by
  intro hd
  have hstraight : d₀.Straight d' := hd.of_alters (unlink_alters h fun _ _ => trivial)
  obtain ⟨l, e, hl, -, rfl⟩ := unlink_found h
  have hloc : l = d₀.place p := hd.loc_of_locate hl
  exact ⟨hstraight, .remove (hloc ▸ hin)⟩

/-- A step that takes a disk without links to another one and leaves the entries of a part as they are, the times of its
directories included. -/
def Sparing (d₀ : Disk) (spared : Loc → Prop) (d d' : Disk) : Prop :=
  d₀.Straight d → d₀.Straight d' ∧ ∀ l, spared l → d'.tree.get? l = d.tree.get? l

variable {spared : Loc → Prop}

instance : Passage (Sparing d₀ spared) where
  refl _ hd := ⟨hd, fun _ _ => rfl⟩
  trans h h' hd := by
    have ⟨hd₂, hsame⟩ := h hd
    have ⟨hd₃, hsame'⟩ := h' hd₂
    exact ⟨hd₃, fun l hl => (hsame' l hl).trans (hsame l hl)⟩

/-- Neither a location nor the directory that it is in belongs to a part. -/
def Outside (spared : Loc → Prop) (l : Loc) : Prop :=
  ¬spared l ∧ ¬spared l.tail

theorem Outside.ne {l l' : Loc} (h : Outside spared l) (hl' : spared l') : l' ≠ l ∧ l' ≠ l.tail :=
  ⟨fun heq => h.1 (heq ▸ hl'), fun heq => h.2 (heq ▸ hl')⟩

theorem ensureDirs_sparing (hway : ∀ l, d₀.OnWay p l → Outside spared l) (d : Disk) :
    Sparing d₀ spared d (d.ensureDirs p).1 := by
  refine ensureDirs_passage d p fun d d' q _ hq h hd => ?_
  have hstraight : d₀.Straight d' := hd.of_alters (makeDir_alters h fun _ _ => trivial)
  have ⟨l, hl, hmade⟩ := makeDir_vacant h
  have hloc : l = d₀.place q := hd.loc_of_locate hl
  refine ⟨hstraight, fun l' hl' => ?_⟩
  have ⟨hne, htail⟩ := (hway l ⟨q, hq, hloc⟩).ne hl'
  rw [hmade]
  exact get?_create_of_ne hne htail

theorem update_sparing {data : List UInt8} (hout : Outside spared (d₀.place p))
    (hway : ∀ l, d₀.OnWay p.parent l → Outside spared l) (d : Disk) : Sparing d₀ spared d (d.update p data).1 := by
  refine update_passage d p data (ensureDirs_sparing hway d) fun d d' _ _ h hd => ?_
  have hstraight : d₀.Straight d' := hd.of_alters (write_alters h fun _ _ => trivial)
  refine ⟨hstraight, fun l' hl' => ?_⟩
  have ⟨hne, htail⟩ := hout.ne hl'
  cases write_cases h with
  | inl hover =>
    have ⟨l, old, m, a, hl, hd'⟩ := hover
    have hloc : l = d₀.place p := hd.loc_of_locate hl
    rw [hd', hloc]
    exact (get?_insert _ _ _ _).trans (if_neg hne)
  | inr hnew =>
    have ⟨l, hl, hd'⟩ := hnew
    have hloc : l = d₀.place p := hd.loc_of_locate hl
    rw [hd', hloc]
    exact get?_create_of_ne hne htail

theorem unlink_sparing (hout : Outside spared (d₀.place p)) (h : d.unlink p = .ok d') : Sparing d₀ spared d d' := by
  intro hd
  have hstraight : d₀.Straight d' := hd.of_alters (unlink_alters h fun _ _ => trivial)
  refine ⟨hstraight, fun l' hl' => ?_⟩
  have ⟨l, e, hl, _, hd'⟩ := unlink_found h
  have hloc : l = d₀.place p := hd.loc_of_locate hl
  have ⟨hne, htail⟩ := hout.ne hl'
  rw [hd', hloc]
  exact get?_remove_of_ne hne htail

end Disk

end JavaStubs
