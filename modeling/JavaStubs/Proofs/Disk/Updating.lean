import JavaStubs.Proofs.Disk.Confined

/-! What an update of a file leaves alone. Besides the file only directories can differ afterwards: some are new, and
some have another time. -/
namespace JavaStubs

namespace FileTree

/-- At a location the trees agree, times included, or the second one has a directory where the first one has one or
nothing. -/
def Undisturbed (t t' : FileTree) (l : Loc) : Prop :=
  t'.get? l = t.get? l ∨ t'.isDir l = true ∧ (t.isDir l = true ∨ t.get? l = none)

namespace Undisturbed

variable {t t₁ t₂ t₃ t' : FileTree} {l : Loc}

theorem refl (t : FileTree) (l : Loc) : Undisturbed t t l :=
  .inl rfl

theorem isDir (h : Undisturbed t t' l) (hd : t.isDir l = true) : t'.isDir l = true := by
  rcases h with hsame | ⟨hdir, -⟩
  · rwa [FileTree.isDir, hsame]
  · exact hdir

theorem trans (h : Undisturbed t₁ t₂ l) (h' : Undisturbed t₂ t₃ l) : Undisturbed t₁ t₃ l := by
  rcases h with hsame | ⟨hdir, hbefore⟩
  · rwa [Undisturbed, FileTree.isDir, FileTree.isDir, ← hsame]
  · exact .inr ⟨h'.isDir hdir, hbefore⟩

/-- Regular files are the same, times included. -/
theorem file?_eq (h : Undisturbed t t' l) : t'.file? l = t.file? l := by
  have hnone : ∀ {t : FileTree}, t.isDir l = true → t.file? l = none := by
    intro t hd
    obtain ⟨m, hm⟩ := isDir_iff.1 hd
    rw [file?, hm]
    rfl
  rcases h with hsame | ⟨hdir, hbefore | hfree⟩
  · exact file?_of_get?_eq hsame
  · rw [hnone hdir, hnone hbefore]
  · rw [hnone hdir, file?, hfree]
    rfl

end Undisturbed

theorem undisturbed_touch (t : FileTree) (d l : Loc) : Undisturbed t (t.touch d) l := by
  unfold touch
  split
  · next m hd =>
    rw [Undisturbed, isDir, isDir, get?_insert]
    split
    · next hl =>
      rw [hl, hd]
      exact .inr ⟨rfl, .inl rfl⟩
    · exact .inl rfl
  · exact .refl t l

/-- A new entry disturbs nothing else, and nothing at all if it is a directory. -/
theorem undisturbed_create {t : FileTree} {l l' : Loc} {e : Entry} (h : l' = l → t.get? l = none ∧ e.isDir = true) :
    Undisturbed t (t.create l e) l' := by
  have htouch : Undisturbed (t.insert l e) (t.create l e) l' := undisturbed_touch _ _ _
  refine .trans ?_ htouch
  rw [Undisturbed, isDir, isDir, get?_insert]
  split
  · next hl =>
    obtain ⟨hfree, hdir⟩ := h hl
    exact .inr ⟨hdir, .inr (hl ▸ hfree)⟩
  · exact .inl rfl

end FileTree

namespace Disk

open FileTree

variable {d d' : Disk} {p : FilePath} {l : Loc}

instance : Passage fun d d' => ∀ l, Undisturbed d.tree d'.tree l where
  refl d l := .refl d.tree l
  trans h h' l := (h l).trans (h' l)

theorem ensureDirs_undisturbed (d : Disk) (p : FilePath) (l : Loc) : Undisturbed d.tree (d.ensureDirs p).1.tree l := by
  revert l
  apply ensureDirs_passage (R := fun d d' => ∀ l, Undisturbed d.tree d'.tree l) d p
  intro d d' q _ _ h l
  obtain ⟨l₁, hl₁, rfl⟩ := makeDir_vacant h
  exact undisturbed_create fun _ => ⟨(locate_eq_ok_iff.1 hl₁).2.get?_loc, rfl⟩

/-- Making directories does nothing to files, wherever links lead. -/
theorem ensureDirs_sameFiles (p : FilePath) (d : Disk) : d.tree.SameFiles (d.ensureDirs p).1.tree :=
  fun l => (ensureDirs_undisturbed d p l).file?_eq

/-- The location to which a path leads: its own, or that to which the link leads which stands there. -/
def Names (d : Disk) (p : FilePath) (l : Loc) : Prop :=
  ∃ e, d.stat p = .ok (l, e) ∧
    (d.locate false p = .ok (.found l e) ∨ ∃ l' target, d.locate false p = .ok (.found l' (.link target)))

theorem names_of_stat {e : Entry} (h : d.stat p = .ok (l, e)) : d.Names p l := by
  obtain ⟨husable, hleads⟩ := locate_eq_ok_iff.1 (stat_eq_ok_iff.1 h)
  obtain ⟨l', e', hown⟩ := hleads.unfollow
  refine ⟨e, h, ?_⟩
  cases hlink : e'.isLink with
  | true =>
    right
    cases e' with
    | link target => exact ⟨l', target, locate_eq_ok_iff.2 ⟨husable, hown⟩⟩
    | file => cases hlink
    | dir => cases hlink
  | false =>
    left
    have hsame := hleads.unique (hown.of_kept (.refl _) hown.get?_found hlink nofun)
    exact hsame ▸ locate_eq_ok_iff.2 ⟨husable, hown⟩

/-- Writing a file disturbs nothing else. -/
theorem write_undisturbed {data : List UInt8} (h : d.write p data = .ok d') :
    ∃ l, d'.Names p l ∧ ∀ l', l' ≠ l → Undisturbed d.tree d'.tree l' := by
  obtain ⟨_, hwrites, -⟩ := write_ok h
  have hkept : d.Changes Kept d' := hwrites.imp fun _ _ hw => hw.kept
  have hnames : ∀ {place e}, d.locate true p = .ok place → d'.tree.get? place.loc = some e → e.isLink = false →
      d'.Names p place.loc := fun hl he hlink =>
    names_of_stat (stat_eq_ok_iff.2 (locate_of_kept hl hkept he hlink id))
  rcases write_cases h with ⟨l, old, m, a, hl, rfl⟩ | ⟨l, hl, rfl⟩
  · refine ⟨l, hnames hl (get?_insert_self _ _ _) rfl, fun l' hne => .inl ?_⟩
    exact (get?_insert _ _ _ _).trans (if_neg hne)
  · obtain ⟨e, he, hfile⟩ := get?_of_content? ((content?_create d.tree l l (.file data .now .now)).trans (if_pos rfl))
    have hlink : e.isLink = false := by
      cases e with
      | link => cases hfile
      | file => rfl
      | dir => rfl
    exact ⟨l, hnames hl he hlink, fun l' hne => undisturbed_create fun heq => absurd heq hne⟩

/-- What an update comes to: the file has the bytes already, or it is refused, or the file is written, or the writing is
broken off. -/
theorem update_cases (d : Disk) (p : FilePath) (data : List UInt8) :
    (d.read p = .ok data ∧ d.update p data = (d, .ok false)) ∨
      d.read p ≠ .ok data ∧ ∃ d₁, (∀ l, Undisturbed d.tree d₁.tree l) ∧
        ((∃ e, d.update p data = (d₁, .error e)) ∨
          (∃ d₂, d₁.write p data = .ok d₂ ∧ d.update p data = (d₂, .ok true)) ∨
          ∃ d₂ errno arrived, d₁.write p (data.take arrived) = .ok d₂ ∧
            d.update p data = (d₂, .error (.os ⟨errno, none⟩))) := by
  by_cases hread : d.read p = .ok data
  · obtain ⟨l, m, a, hs⟩ := stat_of_read hread
    exact .inl ⟨hread, update_of_stat hs⟩
  refine .inr ⟨hread, ?_⟩
  have hsame : ∀ l, Undisturbed d.tree d.tree l := .refl d.tree
  have hdirs := ensureDirs_undisturbed d p.parent
  unfold update
  split
  · exact ⟨d, hsame, .inl ⟨_, rfl⟩⟩
  next isFile _ =>
  split
  · exact ⟨d, hsame, .inl ⟨_, rfl⟩⟩
  next old hold =>
  have hother : (isFile && old == data) = false := by
    rw [Bool.and_eq_false_imp]
    intro hfile
    rw [if_pos hfile] at hold
    exact beq_false_of_ne fun heq => hread (heq ▸ hold)
  rw [hother]
  rcases hmade : d.ensureDirs p.parent with ⟨d₁, made⟩
  rw [hmade] at hdirs
  cases made with
  | error e => exact ⟨d₁, hdirs, .inl ⟨e, rfl⟩⟩
  | ok _ =>
    refine ⟨d₁, hdirs, ?_⟩
    rcases put_cases d₁ p data with ⟨e, hput⟩ | ⟨d₂, hwrite, hput⟩ | ⟨d₂, errno, arrived, -, hwrite, hput⟩
    · exact .inl ⟨e, by simp [hput]⟩
    · exact .inr (.inl ⟨d₂, hwrite, by simp [hput]⟩)
    · exact .inr (.inr ⟨d₂, errno, arrived, hwrite, by simp [hput]⟩)

theorem update_alone (d : Disk) (p : FilePath) (data : List UInt8) :
    (d.update p data).1 = { d with tree := (d.update p data).1.tree } := by
  have heq : ∀ {r} {d' : Disk}, d.Changes r d' → d' = { d with tree := d'.tree } := by
    intro r d' h
    rw [← h.cwd, ← denied_eq h.rules, ← obstacles_eq h.rules]
  rcases update_spec d p data with ⟨_, _, -, hchange, -⟩ | ⟨_, -, hchange⟩ | ⟨_, -, _, _, -, hchange, -⟩
  · exact heq hchange
  · exact heq hchange
  · exact heq hchange

theorem read_of_update {data : List UInt8} (h : (d.update p data).2 = .ok false) : d.read p = .ok data := by
  rcases d.update_cases p data with ⟨hread, -⟩ | ⟨-, d₁, -, ⟨e, hend⟩ | ⟨d₂, -, hend⟩ | ⟨d₂, _, _, -, hend⟩⟩
  · exact hread
  all_goals
    rw [hend] at h
    cases h

end Disk

end JavaStubs
