import JavaStubs.Disk.Tree

/-! What is where in a tree, apart from times. -/
namespace JavaStubs

/-- An entry without its times. -/
inductive Content where
  | file (data : List UInt8)
  | dir
  | link (target : String)
  deriving Repr, DecidableEq

namespace Content

def isFile : Content → Bool
  | file _ => true
  | _ => false

end Content

def Entry.content : Entry → Content
  | .file data _ _ => .file data
  | .dir _ => .dir
  | .link target => .link target

theorem Entry.content_eq_dir {e : Entry} : e.content = .dir ↔ e.isDir = true := by
  cases e <;> simp [content, isDir]

theorem Entry.content_eq_link {e : Entry} {target : String} : e.content = .link target ↔ e = .link target := by
  cases e <;> simp [content]

namespace FileTree

/-- Locations below two directories, neither of which is below the other one, are different. -/
theorem not_below_of_apart {d d' l : Loc} (h : ¬Below d d') (h' : ¬Below d' d) (hl : Below d l) : ¬Below d' l := by
  intro hl'
  rcases List.suffix_or_suffix_of_suffix hl hl' with hd | hd
  · exact h hd
  · exact h' hd

def content? (t : FileTree) (l : Loc) : Option Content :=
  (t.get? l).map Entry.content

def data? (t : FileTree) (l : Loc) : Option (List UInt8) :=
  match t.content? l with
  | some (.file data) => some data
  | _ => none

/-- A tree without symbolic links. -/
def LinkFree (t : FileTree) : Prop :=
  ∀ l target, t.content? l ≠ some (.link target)

theorem content?_of_get? {t : FileTree} {l : Loc} {e : Entry} (h : t.get? l = some e) :
    t.content? l = some e.content := by
  rw [content?, h]
  rfl

theorem content?_eq_none {t : FileTree} {l : Loc} : t.content? l = none ↔ t.get? l = none :=
  Option.map_eq_none_iff

theorem get?_of_content? {t : FileTree} {l : Loc} {c : Content} (h : t.content? l = some c) :
    ∃ e, t.get? l = some e ∧ e.content = c :=
  Option.map_eq_some_iff.1 h

theorem data?_eq_some {t : FileTree} {l : Loc} {data : List UInt8} :
    t.data? l = some data ↔ t.content? l = some (.file data) := by
  unfold data?
  split
  · next x h => simp [h]
  · next h => simpa using h data

theorem get?_of_data? {t : FileTree} {l : Loc} {data : List UInt8} (h : t.data? l = some data) :
    ∃ m a, t.get? l = some (.file data m a) := by
  obtain ⟨e, he, hc⟩ := get?_of_content? (data?_eq_some.1 h)
  cases e with
  | file data' m a =>
    cases hc
    exact ⟨m, a, he⟩
  | dir => cases hc
  | link => cases hc

theorem data?_of_content?_eq {t t' : FileTree} {l : Loc} (h : t'.content? l = t.content? l) :
    t'.data? l = t.data? l := by
  rw [data?, h]
  rfl

theorem isDir_iff_content? {t : FileTree} {l : Loc} : t.isDir l = true ↔ t.content? l = some .dir := by
  unfold isDir content?
  cases t.get? l with
  | none => simp
  | some e => simp [Entry.content_eq_dir]

theorem LinkFree.data?_isSome {t : FileTree} (ht : t.LinkFree) {l : Loc} {e : Entry} (h : t.get? l = some e)
    (hd : e.isDir = false) : (t.data? l).isSome = true := by
  have hc := content?_of_get? h
  cases e with
  | file data m a => rw [data?_eq_some.2 hc]; rfl
  | dir m => simp [Entry.isDir] at hd
  | link target => exact absurd hc (ht l target)

theorem LinkFree.isLink {t : FileTree} (ht : t.LinkFree) {l : Loc} {e : Entry} (h : t.get? l = some e) :
    e.isLink = false := by
  cases e with
  | link target => exact absurd (content?_of_get? h) (ht l target)
  | file => rfl
  | dir => rfl

theorem linkFree_iff_entries {t : FileTree} : t.LinkFree ↔ ∀ e ∈ t.entries, e.2.isLink = false := by
  constructor
  · rintro h ⟨l, e⟩ hm
    exact h.isLink (get?_eq_some_iff.2 hm)
  · intro h l target hc
    obtain ⟨e, he, htarget⟩ := get?_of_content? hc
    have := h _ (get?_eq_some_iff.1 he)
    rw [Entry.content_eq_link.1 htarget] at this
    simp [Entry.isLink] at this

instance (t : FileTree) : Decidable t.LinkFree :=
  decidable_of_iff _ linkFree_iff_entries.symm

theorem content?_insert (t : FileTree) (l l' : Loc) (e : Entry) :
    (t.insert l e).content? l' = if l' = l then some e.content else t.content? l' := by
  rw [content?, get?_insert]
  split <;> rfl

theorem content?_erase (t : FileTree) (l l' : Loc) :
    (t.erase l).content? l' = if l' = l then none else t.content? l' := by
  rw [content?, get?_erase]
  split <;> rfl

@[simp] theorem content?_touch (t : FileTree) (d l : Loc) : (t.touch d).content? l = t.content? l := by
  unfold touch
  split
  · next m h =>
    rw [content?_insert]
    split
    · next hl => rw [hl, content?_of_get? h]; rfl
    · rfl
  · rfl

theorem content?_create (t : FileTree) (l l' : Loc) (e : Entry) :
    (t.create l e).content? l' = if l' = l then some e.content else t.content? l' := by
  rw [create, content?_touch, content?_insert]

theorem content?_remove (t : FileTree) (l l' : Loc) :
    (t.remove l).content? l' = if l' = l then none else t.content? l' := by
  rw [remove, content?_touch, content?_erase]

theorem data?_erase (t : FileTree) (l l' : Loc) : (t.erase l).data? l' = if l' = l then none else t.data? l' := by
  unfold data?
  rw [content?_erase]
  by_cases h : l' = l <;> simp [h]

def Kept (t t' : FileTree) : Prop :=
  ∀ l c, t.content? l = some c → c.isFile = false → t'.content? l = some c

theorem Kept.refl (t : FileTree) : Kept t t := fun _ _ h _ => h

theorem Kept.trans {t₁ t₂ t₃ : FileTree} (h : Kept t₁ t₂) (h' : Kept t₂ t₃) : Kept t₁ t₃ :=
  fun l c hc hf => h' l c (h l c hc hf) hf

theorem Kept.isDir {t t' : FileTree} (h : Kept t t') {l : Loc} (hd : t.isDir l = true) : t'.isDir l = true :=
  isDir_iff_content?.2 (h l _ (isDir_iff_content?.1 hd) rfl)

/-- The second tree has further directories and is the first one otherwise. -/
def MoreDirs (t t' : FileTree) : Prop :=
  ∀ l, t'.content? l = t.content? l ∨ (t.content? l = none ∧ t'.content? l = some .dir)

theorem MoreDirs.refl (t : FileTree) : MoreDirs t t := fun _ => .inl rfl

theorem MoreDirs.trans {t₁ t₂ t₃ : FileTree} (h : MoreDirs t₁ t₂) (h' : MoreDirs t₂ t₃) : MoreDirs t₁ t₃ := by
  intro l
  rcases h' l with he | ⟨hn, hd⟩
  · rw [he]
    exact h l
  · rcases h l with he' | ⟨-, hd'⟩
    · exact .inr ⟨he' ▸ hn, hd⟩
    · rw [hd'] at hn
      cases hn

theorem MoreDirs.kept {t t' : FileTree} (h : MoreDirs t t') : Kept t t' := by
  intro l c hc _
  rcases h l with he | ⟨hn, -⟩
  · rw [he, hc]
  · rw [hn] at hc
    cases hc

theorem MoreDirs.data? {t t' : FileTree} (h : MoreDirs t t') (l : Loc) : t'.data? l = t.data? l := by
  rcases h l with he | ⟨hn, hd⟩
  · exact data?_of_content?_eq he
  · rw [FileTree.data?, FileTree.data?, hn, hd]

theorem MoreDirs.linkFree {t t' : FileTree} (h : MoreDirs t t') (ht : t.LinkFree) : t'.LinkFree := by
  intro l target hl
  rcases h l with he | ⟨-, hd⟩
  · exact ht l target (he ▸ hl)
  · rw [hd] at hl
    cases hl

theorem moreDirs_create {t : FileTree} {l : Loc} (h : t.get? l = none) (time : Stamp) :
    MoreDirs t (t.create l (.dir time)) := by
  intro l'
  rw [content?_create]
  split
  · next hl => exact .inr ⟨content?_eq_none.2 (hl ▸ h), rfl⟩
  · exact .inl rfl

/-- The second tree has the given bytes at a location, where the first one has nothing or a file, and is the first
one otherwise, save for further directories. -/
structure Writes (l : Loc) (data : List UInt8) (t t' : FileTree) : Prop where
  there : t'.content? l = some (.file data)
  elsewhere : ∀ l', l' ≠ l →
    t'.content? l' = t.content? l' ∨ (t.content? l' = none ∧ t'.content? l' = some .dir)
  before : ∀ c, t.content? l = some c → c.isFile = true

theorem Writes.of_moreDirs {l : Loc} {data : List UInt8} {t t₁ t' : FileTree} (h : MoreDirs t t₁)
    (hw : Writes l data t₁ t') : Writes l data t t' where
  there := hw.there
  elsewhere l' hl := by
    rcases hw.elsewhere l' hl with he | ⟨hn, hd⟩
    · rw [he]
      exact h l'
    · rcases h l' with he' | ⟨-, hd'⟩
      · exact .inr ⟨he' ▸ hn, hd⟩
      · rw [hd'] at hn
        cases hn
  before c hc := by
    rcases h l with he | ⟨hn, -⟩
    · exact hw.before c (he ▸ hc)
    · rw [hn] at hc
      cases hc

theorem Writes.kept {l : Loc} {data : List UInt8} {t t' : FileTree} (h : Writes l data t t') : Kept t t' := by
  intro l' c hc hf
  have hne : l' ≠ l := by
    rintro rfl
    rw [h.before c hc] at hf
    cases hf
  rcases h.elsewhere l' hne with he | ⟨hn, -⟩
  · rw [he, hc]
  · rw [hn] at hc
    cases hc

theorem Writes.data? {l : Loc} {data : List UInt8} {t t' : FileTree} (h : Writes l data t t') (l' : Loc) :
    t'.data? l' = if l' = l then some data else t.data? l' := by
  split
  · next hl => rw [hl, data?_eq_some.2 h.there]
  · next hl =>
    rcases h.elsewhere l' hl with he | ⟨hn, hd⟩
    · exact data?_of_content?_eq he
    · rw [FileTree.data?, FileTree.data?, hn, hd]

theorem Writes.linkFree {l : Loc} {data : List UInt8} {t t' : FileTree} (h : Writes l data t t')
    (ht : t.LinkFree) : t'.LinkFree := by
  intro l' target hl
  by_cases hll : l' = l
  · rw [hll, h.there] at hl
    cases hl
  · rcases h.elsewhere l' hll with he | ⟨-, hd⟩
    · exact ht l' target (he ▸ hl)
    · rw [hd] at hl
      cases hl

/-- The second tree has nothing at a location, where the first one has no directory, and is the first one
otherwise. -/
structure Removes (l : Loc) (t t' : FileTree) : Prop where
  there : t'.content? l = none
  elsewhere : ∀ l', l' ≠ l → t'.content? l' = t.content? l'
  before : t.isDir l = false

theorem Removes.data? {l : Loc} {t t' : FileTree} (h : Removes l t t') (l' : Loc) :
    t'.data? l' = if l' = l then none else t.data? l' := by
  split
  · next hl => rw [hl, FileTree.data?, h.there]
  · next hl => exact data?_of_content?_eq (h.elsewhere l' hl)

theorem Removes.linkFree {l : Loc} {t t' : FileTree} (h : Removes l t t') (ht : t.LinkFree) : t'.LinkFree := by
  intro l' target hl
  by_cases hll : l' = l
  · rw [hll, h.there] at hl
    cases hl
  · exact ht l' target (h.elsewhere l' hll ▸ hl)

end FileTree

end JavaStubs
