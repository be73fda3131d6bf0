import JavaStubs.Proofs.Disk.Place
import JavaStubs.Proofs.Disk.WellFormed
import JavaStubs.Proofs.Run.Within

/-! Where the operations of a disk may change what it holds. None of them ever changes a directory that is there, and
a new entry has a name that an entry can have. -/
namespace JavaStubs

namespace FileTree

variable {t : FileTree}

def Named (t : FileTree) : Prop :=
  ∀ c l x, t.content? (c :: l) = some x → EntryName c

theorem WellFormed.allNamed (h : t.WellFormed) : t.Named := by
  intro c l x hx
  obtain ⟨e, he, -⟩ := get?_of_content? hx
  exact (h.named he).toEntryName

theorem Leads.entryName_of_vacant {follow : Bool} {links : Nat} {here l : Loc} {parts : List String} {c : String}
    (h : Leads t follow links here parts (.vacant (c :: l))) : EntryName c := by
  generalize hp : Place.vacant (c :: l) = p at h
  induction h with
  | arrive => cases hp
  | unfollowed => cases hp
  | free _ hc _ =>
    cases hp
    exact hc
  | stay _ _ ih => exact ih hp
  | up _ _ ih => exact ih hp
  | jump _ _ _ _ _ ih => exact ih hp
  | down _ _ _ _ _ ih => exact ih hp

/-- Trees that differ where `may` holds at most, and in no directory of the first one. No link is new. -/
structure Alters (may : Loc → Prop) (t t' : FileTree) : Prop where
  content? : ∀ l, t'.content? l = t.content? l ∨ (may l ∧ t.isDir l = false)
  links : ∀ l target, t'.content? l = some (.link target) → t.content? l = some (.link target)
  named : t.Named → t'.Named

namespace Alters

variable {may more : Loc → Prop} {t₁ t₂ t₃ t' : FileTree}

theorem refl (t : FileTree) : Alters may t t :=
  ⟨fun _ => .inl rfl, fun _ _ => id, id⟩

theorem linkFree (h : Alters may t t') (hfree : t.LinkFree) : t'.LinkFree :=
  fun l target hl => hfree l target (h.links l target hl)

theorem isDir (h : Alters may t t') {l : Loc} (hd : t.isDir l = true) : t'.isDir l = true := by
  rcases h.content? l with he | ⟨-, hn⟩
  · rwa [isDir_iff_content?, he, ← isDir_iff_content?]
  · cases hd.symm.trans hn

theorem trans (h : Alters may t₁ t₂) (h' : Alters may t₂ t₃) : Alters may t₁ t₃ where
  content? l := by
    rcases h.content? l with he | hm
    · rcases h'.content? l with he' | ⟨hm, hd⟩
      · exact .inl (he'.trans he)
      · refine .inr ⟨hm, ?_⟩
        rw [← Bool.not_eq_true, isDir_iff_content?] at hd ⊢
        rwa [← he]
    · exact .inr hm
  links l target hl := h.links l target (h'.links l target hl)
  named := h'.named ∘ h.named

theorem mono (h : Alters may t t') (hm : ∀ l, may l → more l) : Alters more t t' :=
  ⟨fun l => (h.content? l).imp_right fun hl => ⟨hm l hl.1, hl.2⟩, h.links, h.named⟩

theorem kept (h : Alters may t t') (hfree : t.LinkFree) : Kept t t' := by
  intro l c hc hf
  rcases h.content? l with he | ⟨-, hn⟩
  · rw [he, hc]
  · cases c with
    | file => cases hf
    | link target => exact absurd hc (hfree l target)
    | dir => cases (isDir_iff_content?.2 hc).symm.trans hn

theorem data? (h : Alters may t t') {l : Loc} (hl : ¬may l) : t'.data? l = t.data? l :=
  data?_of_content?_eq ((h.content? l).resolve_right fun hr => hl hr.1)

/-- Setting one entry that is no directory before, or taking it away, alters nothing else. -/
theorem of_set {l : Loc} {x : Option Content} (h : ∀ l', t'.content? l' = if l' = l then x else t.content? l')
    (hmay : may l) (hdir : t.isDir l = false) (hlink : ∀ target, x ≠ some (.link target))
    (hname : ∀ c above, l = c :: above → x ≠ none → t.content? l = none → EntryName c) : Alters may t t' where
  content? l' := by
    rw [h]
    by_cases hl : l' = l
    · subst hl
      exact .inr ⟨hmay, hdir⟩
    · rw [if_neg hl]
      exact .inl rfl
  links l' target hl := by
    rw [h] at hl
    split at hl
    · exact absurd hl (hlink target)
    · exact hl
  named hn c above y hy := by
    rw [h] at hy
    split at hy
    · next hl =>
      cases hold : t.content? l with
      | none => exact hname c above hl.symm (hy ▸ Option.some_ne_none y) hold
      | some z => exact hn c above z (hl ▸ hold)
    · exact hn c above y hy

end Alters

end FileTree

namespace Disk

open FileTree

variable {d d' : Disk} {p : FilePath} {may : Loc → Prop}

theorem isDir_eq_false_of_get?_none {t : FileTree} {l : Loc} (h : t.get? l = none) : t.isDir l = false := by
  rw [isDir, h]

instance : Passage fun d d' => d.Changes (Alters may) d' where
  refl _ := ⟨.refl _, rfl, rfl⟩
  trans h h' := h.comp h' .trans

theorem makeDir_alters (h : d.makeDir p = .ok d') (hmay : ∀ l, d.locate false p = .ok (.vacant l) → may l) :
    d.Changes (Alters may) d' := by
  obtain ⟨l, hl, rfl⟩ := makeDir_vacant h
  have hw := (locate_eq_ok_iff.1 hl).2
  refine ⟨.of_set (content?_create _ l · _) (hmay _ hl) (isDir_eq_false_of_get?_none hw.get?_loc) ?_ ?_, rfl, rfl⟩
  · simp [Entry.content]
  · rintro c above rfl - -
    exact hw.entryName_of_vacant

/-- The paths that are tried when a directory is made: it and those above it. -/
def FirstParts (p q : FilePath) : Prop :=
  ∃ n, q = ⟨p.anchor, p.parts.take n⟩

theorem firstParts_self (p : FilePath) : FirstParts p p :=
  ⟨p.parts.length, by rw [List.take_length]⟩

theorem FirstParts.of_parent {p q : FilePath} (h : FirstParts p.parent q) : FirstParts p q := by
  obtain ⟨n, rfl⟩ := h
  refine ⟨min n (p.parts.length - 1), ?_⟩
  rw [FilePath.parent, List.dropLast_eq_take, List.take_take]

theorem FirstParts.of_child {p q : FilePath} {n : String} (h : FirstParts (p.child n) q) :
    q = p.child n ∨ FirstParts p q := by
  obtain ⟨k, rfl⟩ := h
  by_cases hk : k ≤ p.parts.length
  · right
    refine ⟨k, ?_⟩
    rw [FilePath.child, List.take_append_of_le_length hk]
  · left
    rw [FilePath.child, List.take_of_length_le (by simp; omega)]

/-- What holds of each step that makes one directory holds of making a directory with those above it. -/
theorem ensureDirs_passage {R : Disk → Disk → Prop} [hR : Passage R] (d : Disk) (p : FilePath)
    (hmake : ∀ d' d'' q, R d d' → FirstParts p q → d'.makeDir q = .ok d'' → R d' d'') : R d (d.ensureDirs p).1 := by
  have hone : ∀ d' d'' q, R d d' → FirstParts p q → d'.ensureOne q = .ok d'' → R d' d'' := by
    intro d' d'' q hd' hq h
    unfold ensureOne at h
    split at h
    · split at h
      · cases h
      · split at h
        · cases h
          exact hR.refl d'
        · cases h
        · cases h
    · exact hmake d' d'' q hd' hq h
  clear hmake
  fun_induction ensureDirs d p
  case case1 p d₁ h => exact hone _ d₁ p (hR.refl _) (firstParts_self p) h
  case case2 h d₁ e₁ hp ih =>
    have ih := ih fun d' d'' q hd' hq => hone d' d'' q hd' hq.of_parent
    rwa [hp] at ih
  case case3 p e h he d₁ hp d₂ h₂ ih =>
    have ih := ih fun d' d'' q hd' hq => hone d' d'' q hd' hq.of_parent
    rw [hp] at ih
    exact hR.trans ih (hone d₁ d₂ p ih (firstParts_self p) h₂)
  case case4 h d₁ hp e₂ h₂ ih =>
    have ih := ih fun d' d'' q hd' hq => hone d' d'' q hd' hq.of_parent
    rwa [hp] at ih
  case case5 => exact hR.refl _

/-- What holds of making the directories above a file and of writing it, whatever the bytes, holds of an update. -/
theorem update_passage {R : Disk → Disk → Prop} [hR : Passage R] (d : Disk) (p : FilePath) (data : List UInt8)
    (hdirs : R d (d.ensureDirs p.parent).1)
    (hwrite : ∀ d' d'' arrived, R d d' → d'.write p arrived = .ok d'' → R d' d'') : R d (d.update p data).1 := by
  unfold update
  split
  · exact hR.refl d
  split
  · exact hR.refl d
  split
  · exact hR.refl d
  rcases hmade : d.ensureDirs p.parent with ⟨d₁, made⟩
  rw [hmade] at hdirs
  cases made with
  | error e => exact hdirs
  | ok _ =>
    dsimp only
    rcases put_cases d₁ p data with ⟨e, hput⟩ | ⟨d₂, hwritten, hput⟩ | ⟨d₂, _, arrived, -, hwritten, hput⟩
    · rw [hput]
      exact hdirs
    · rw [hput]
      exact hR.trans hdirs (hwrite d₁ d₂ data hdirs hwritten)
    · rw [hput]
      exact hR.trans hdirs (hwrite d₁ d₂ (data.take arrived) hdirs hwritten)

/-- Making a directory alters free places of paths above it, and no other ones. -/
theorem ensureDirs_alters (d : Disk) (p : FilePath)
    (hmay : ∀ d' q l, d.Changes (Alters may) d' → FirstParts p q → d'.locate false q = .ok (.vacant l) → may l) :
    d.Changes (Alters may) (d.ensureDirs p).1 :=
  ensureDirs_passage d p fun d' _ q hd' hq h => makeDir_alters h fun l => hmay d' q l hd' hq

theorem write_alters {data : List UInt8} (h : d.write p data = .ok d')
    (hmay : ∀ q, d.locate true p = .ok q → may q.loc) : d.Changes (Alters may) d' := by
  rcases write_cases h with ⟨l, old, m, a, hl, rfl⟩ | ⟨l, hl, rfl⟩
  · have hw := (locate_eq_ok_iff.1 hl).2
    refine ⟨.of_set (content?_insert _ l · _) (hmay _ hl) ?_ ?_ ?_, rfl, rfl⟩
    · rw [isDir, hw.get?_found]
      rfl
    · simp [Entry.content]
    · intro c above _ _ hnone
      rw [content?_of_get? hw.get?_found] at hnone
      cases hnone
  · have hw := (locate_eq_ok_iff.1 hl).2
    refine ⟨.of_set (content?_create _ l · _) (hmay _ hl) (isDir_eq_false_of_get?_none hw.get?_loc) ?_ ?_, rfl, rfl⟩
    · simp [Entry.content]
    · rintro c above rfl - -
      exact hw.entryName_of_vacant

theorem update_alters (d : Disk) (p : FilePath) (data : List UInt8)
    (hdirs : d.Changes (Alters may) (d.ensureDirs p.parent).1)
    (hmay : ∀ d' q, d.Changes (Alters may) d' → d'.locate true p = .ok q → may q.loc) :
    d.Changes (Alters may) (d.update p data).1 :=
  update_passage d p data hdirs fun d' _ _ hd' h => write_alters h fun q => hmay d' q hd'

theorem unlink_alters (h : d.unlink p = .ok d') (hmay : ∀ q, d.locate false p = .ok q → may q.loc) :
    d.Changes (Alters may) d' := by
  obtain ⟨l, e, hl, hr⟩ := unlink_ok h
  refine ⟨.of_set (x := none) (fun l' => ?_) (hmay _ hl) hr.tree.before (by simp) ?_, hr.cwd, hr.rules⟩
  · split
    · next hl' =>
      rw [hl']
      exact hr.tree.there
    · next hl' => exact hr.tree.elsewhere l' hl'
  · exact fun _ _ _ hne => absurd rfl hne

end Disk

theorem Action.ensureDir_alters (p : FilePath) (w : World) :
    w.disk.Changes (FileTree.Alters fun _ => True) ((ensureDir p).runFrom w).2.disk :=
  (Within.ensureDir (R := fun d d' => d.Changes (FileTree.Alters fun _ => True) d')
    (fun d => Disk.ensureDirs_alters d _ fun _ _ _ _ _ _ => trivial) w).disk

end JavaStubs
