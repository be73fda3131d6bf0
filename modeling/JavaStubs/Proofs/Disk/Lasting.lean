import JavaStubs.Proofs.Disk.Place

/-! What lasts while files are written, and what lasts while files of one directory are removed. -/
namespace JavaStubs

namespace FileTree

variable {t t₁ t₂ t₃ : FileTree} {gained more : Loc → Prop}

/-- Directories and links stay, and files stay as they are but where `gained` holds: there may be new bytes. -/
structure Gains (gained : Loc → Prop) (t t' : FileTree) : Prop where
  kept : Kept t t'
  linkFree : t.LinkFree → t'.LinkFree
  data? : ∀ l, t'.data? l = t.data? l ∨ (gained l ∧ (t'.data? l).isSome = true)

theorem Gains.refl (t : FileTree) : Gains gained t t :=
  ⟨.refl t, id, fun _ => .inl rfl⟩

theorem Gains.trans (h : Gains gained t₁ t₂) (h' : Gains gained t₂ t₃) : Gains gained t₁ t₃ where
  kept := h.kept.trans h'.kept
  linkFree := h'.linkFree ∘ h.linkFree
  data? l := by
    rcases h'.data? l with he | hg
    · rw [he]
      exact h.data? l
    · exact .inr hg

theorem Gains.mono (h : Gains gained t₁ t₂) (hm : ∀ l, gained l → more l) : Gains more t₁ t₂ :=
  ⟨h.kept, h.linkFree, fun l => (h.data? l).imp_right fun hg => ⟨hm l hg.1, hg.2⟩⟩

theorem Gains.isSome (h : Gains gained t₁ t₂) {l : Loc} (hs : (t₁.data? l).isSome = true) :
    (t₂.data? l).isSome = true := by
  rcases h.data? l with he | hg
  · rwa [he]
  · exact hg.2

theorem MoreDirs.gains (h : MoreDirs t₁ t₂) : Gains gained t₁ t₂ :=
  ⟨h.kept, h.linkFree, fun l => .inl (h.data? l)⟩

theorem Writes.gains {l : Loc} {data : List UInt8} (h : Writes l data t₁ t₂) : Gains (· = l) t₁ t₂ where
  kept := h.kept
  linkFree := h.linkFree
  data? l' := by
    rw [h.data? l']
    split
    · next hl => exact .inr ⟨hl, rfl⟩
    · exact .inl rfl

theorem Leads.snoc {links : Nat} {here l : Loc} {parts : List String} {e e' : Entry} {c : String}
    (h : Leads t true links here parts (.found l e)) (hd : t.isDir l = true) (hc : EntryName c)
    (he : t.get? (c :: l) = some e') (hl : e'.isLink = false) :
    Leads t true links here (parts ++ [c]) (.found (c :: l) e') := by
  generalize hp : Place.found l e = p at h
  induction h with
  | arrive _ =>
    cases hp
    exact .down hd hc he hl (.arrive he)
  | stay hd' _ ih => exact .stay hd' (ih hp)
  | up hd' _ ih => exact .up hd' (ih hp)
  | free => cases hp
  | unfollowed _ _ _ hf => cases hf
  | jump hd' hc' hl' _ _ ih =>
    have hw := ih hp
    rw [List.append_assoc] at hw
    exact .jump hd' hc' hl' (.inr rfl) hw
  | down hd' hc' he' hl' _ ih => exact .down hd' hc' he' hl' (ih hp)

theorem Leads.eq_cons {follow : Bool} {links : Nat} {here l : Loc} {e : Entry} {c : String}
    (h : Leads t follow links here [c] (.found l e)) (h₁ : c ≠ ".") (h₂ : c ≠ "..")
    (hl : ∀ target, t.get? (c :: here) = some (.link target) → follow = false) : l = c :: here := by
  cases h with
  | stay => contradiction
  | up => contradiction
  | unfollowed => rfl
  | jump _ _ htarget hr => simp [hl _ htarget] at hr
  | down _ _ _ _ hw =>
    cases hw
    rfl

theorem Leads.entryName {follow : Bool} {links : Nat} {here : Loc} {q : Place} {c : String}
    (h : Leads t follow links here [c] q) (h₁ : c ≠ ".") (h₂ : c ≠ "..") : EntryName c := by
  cases h with
  | stay => contradiction
  | up => contradiction
  | free _ hc => exact hc
  | unfollowed _ hc => exact hc
  | jump _ hc => exact hc
  | down _ hc => exact hc

end FileTree

namespace FilePath

theorem text_child (p : FilePath) (n : String) : (p.text = "." ∧ (p.child n).text = n) ∨
    ∃ s, (s = "/" ∨ s = "") ∧ (p.child n).text = p.text ++ s ++ n := by
  by_cases hp : p.parts = []
  · by_cases ha : p.anchor = .none
    · left
      simp [text, child, hp, ha, Anchor.text]
    · exact .inr ⟨"", .inr rfl, by simp [text, child, hp, ha]⟩
  · refine .inr ⟨"/", .inl rfl, ?_⟩
    simp [text, child, hp, String.intercalate_append_of_ne_nil, String.append_assoc]

theorem holdsNul_child {p : FilePath} {n : String} (hp : holdsNul p.text = false) (hn : holdsNul n = false) :
    holdsNul (p.child n).text = false := by
  rcases text_child p n with ⟨-, h⟩ | ⟨s, hs, h⟩
  · rwa [h]
  · rw [h]
    have hs' : holdsNul s = false := by rcases hs with rfl | rfl <;> decide
    rw [holdsNul_append, holdsNul_append, hp, hs', hn]
    rfl

theorem utf8ByteSize_le_child (p : FilePath) (n : String) : p.text.utf8ByteSize ≤ max 1 (p.child n).text.utf8ByteSize := by
  rcases text_child p n with ⟨hdot, -⟩ | ⟨s, -, htext⟩
  · rw [hdot]
    exact Nat.le_max_left 1 _
  · rw [htext, String.utf8ByteSize_append, String.utf8ByteSize_append]
    omega

end FilePath

namespace Disk

open FileTree

variable {d d' d₁ d₂ d₃ : Disk} {p dir : FilePath} {P : Loc} {m : Stamp} {n : String}

/-- With a path, the one above it can be looked up. -/
theorem Usable.of_child (h : d.Usable (p.child n)) : d.Usable p := by
  obtain ⟨hnul, hbarred⟩ := h
  obtain ⟨hlong, hsearch⟩ := barred?_eq_none_iff.1 hbarred
  refine ⟨?_, barred?_eq_none_iff.2 ⟨?_, fun q hq => hsearch q ?_⟩⟩
  · rcases FilePath.text_child p n with ⟨hdot, -⟩ | ⟨s, -, htext⟩
    · rw [hdot]
      decide
    · rw [htext, holdsNul_append, holdsNul_append] at hnul
      simp_all
  · have hle := p.utf8ByteSize_le_child n
    unfold pathLimit at hlong ⊢
    omega
  · rw [FilePath.above_child]
    exact List.mem_append_left _ hq

theorem stat_file_of_gains {gained : Loc → Prop} {l : Loc} {data : List UInt8} {a : Stamp}
    (h : d.stat p = .ok (l, .file data m a)) (hg : d.Changes (Gains gained) d') :
    ∃ data' m' a', d'.stat p = .ok (l, .file data' m' a') := by
  have hs : (d.tree.data? l).isSome = true := by
    rw [data?_of_stat h]
    rfl
  obtain ⟨data', hdata⟩ := Option.isSome_iff_exists.1 (hg.tree.isSome hs)
  obtain ⟨m', a', he⟩ := get?_of_data? hdata
  exact ⟨data', m', a', stat_eq_ok_iff.2
    (locate_of_kept (stat_eq_ok_iff.1 h) (hg.imp fun _ _ h => h.kept) he rfl id)⟩

/-- Entries are gone where `lost` holds, and nothing else changed. Paths to directories lead there as before. -/
structure Loses (lost : Loc → Prop) (d d' : Disk) : Prop where
  content? : ∀ l, d'.tree.content? l = d.tree.content? l ∨ (lost l ∧ d'.tree.content? l = none)
  stat_dir : ∀ {p l m}, d.stat p = .ok (l, .dir m) → ∃ m', d'.stat p = .ok (l, .dir m')
  cwd : d'.cwd = d.cwd
  rules : d'.rules = d.rules

namespace Loses

variable {lost more : Loc → Prop}

theorem refl (d : Disk) : Loses lost d d :=
  ⟨fun _ => .inl rfl, fun h => ⟨_, h⟩, rfl, rfl⟩

theorem trans (h : Loses lost d₁ d₂) (h' : Loses lost d₂ d₃) : Loses lost d₁ d₃ where
  content? l := by
    rcases h'.content? l with he | hl
    · rw [he]
      exact h.content? l
    · exact .inr hl
  stat_dir hs := by
    obtain ⟨m₂, hs₂⟩ := h.stat_dir hs
    exact h'.stat_dir hs₂
  cwd := h'.cwd.trans h.cwd
  rules := h'.rules.trans h.rules

theorem mono (h : Loses lost d d') (hm : ∀ l, lost l → more l) : Loses more d d' :=
  ⟨fun l => (h.content? l).imp_right fun hl => ⟨hm l hl.1, hl.2⟩, h.stat_dir, h.cwd, h.rules⟩

theorem data? (h : Loses lost d d') (l : Loc) :
    d'.tree.data? l = d.tree.data? l ∨ (lost l ∧ d'.tree.data? l = none) := by
  rcases h.content? l with he | ⟨hl, hn⟩
  · exact .inl (data?_of_content?_eq he)
  · exact .inr ⟨hl, by rw [FileTree.data?, hn]⟩

theorem linkFree (h : Loses lost d d') (hd : d.tree.LinkFree) : d'.tree.LinkFree := by
  intro l target hl
  rcases h.content? l with he | ⟨-, hn⟩
  · exact hd l target (he ▸ hl)
  · rw [hn] at hl
    cases hl

end Loses

/-- The walk to an entry of a directory goes through the directory. -/
theorem leads_of_child {follow : Bool} {q : Place} (hdir : d.stat dir = .ok (P, .dir m))
    (h : d.locate follow (dir.child n) = .ok q) : ∃ links ≤ maxLinks, Leads d.tree follow links P [n] q := by
  obtain ⟨-, hw⟩ := locate_eq_ok_iff.1 h
  rw [FilePath.absolute_child] at hw
  obtain ⟨links, hle, l, e, hw₁, hw₂⟩ := Leads.append_inv hw (List.cons_ne_nil n [])
  cases hw₁.unique (locate_eq_ok_iff.1 (stat_eq_ok_iff.1 hdir)).2
  exact ⟨links, hle, hw₂⟩

theorem loc_of_stat_child {l : Loc} {e : Entry} (h₁ : n ≠ ".") (h₂ : n ≠ "..") (hdir : d.stat dir = .ok (P, .dir m))
    (h : d.stat (dir.child n) = .ok (l, e)) (hlink : ∀ target, d.tree.content? (n :: P) ≠ some (.link target)) :
    l = n :: P := by
  obtain ⟨links, -, hleads⟩ := leads_of_child hdir (stat_eq_ok_iff.1 h)
  exact hleads.eq_cons h₁ h₂ fun target htarget => absurd (content?_of_get? htarget) (hlink target)

theorem stat_of_child {l : Loc} {e : Entry}
    (h : d.stat (dir.child n) = .ok (l, e)) : ∃ P m, d.stat dir = .ok (P, .dir m) := by
  obtain ⟨hu, hw⟩ := locate_eq_ok_iff.1 (stat_eq_ok_iff.1 h)
  rw [FilePath.absolute_child] at hw
  obtain ⟨links, -, P, e', hw₁, hw₂⟩ := Leads.append_inv hw (List.cons_ne_nil n [])
  obtain ⟨m, hm⟩ := isDir_iff.1 (hw₂.isDir_of_ne_nil (List.cons_ne_nil _ _))
  rw [hw₁.get?_found, Option.some.injEq] at hm
  subst hm
  exact ⟨P, m, stat_eq_ok_iff.2 (locate_eq_ok_iff.2 ⟨hu.of_child, hw₁⟩)⟩

/-- Removing what is a file once links are followed takes away one entry of its directory. -/
theorem loses_of_unlink (h₁ : n ≠ ".") (h₂ : n ≠ "..") (hdir : d.stat dir = .ok (P, .dir m))
    (hf : d.isFile? (dir.child n) = .ok true) (h : d.unlink (dir.child n) = .ok d') :
    d.Loses (· = n :: P) d' ∧ d'.tree.content? (n :: P) = none := by
  obtain ⟨l, e, hl, hr⟩ := unlink_ok h
  obtain ⟨links, -, hw⟩ := leads_of_child hdir hl
  obtain rfl := hw.eq_cons h₁ h₂ fun _ _ => rfl
  obtain ⟨l', data, m', a', hs⟩ := stat_of_isFile? hf
  obtain ⟨links', -, hw'⟩ := leads_of_child hdir (stat_eq_ok_iff.1 hs)
  refine ⟨⟨fun l => ?_, fun {q l₀ m₀} hq => ?_, hr.cwd, hr.rules⟩, hr.tree.there⟩
  · by_cases hl' : l = n :: P
    · exact .inr ⟨hl', hl' ▸ hr.tree.there⟩
    · exact .inl (hr.tree.elsewhere l hl')
  · have hbar : ∀ links l m, ¬Leads d.tree true links P [n] (.found l (.dir m)) := by
      intro k l m hk
      cases (hk.more_links (Nat.le_max_left k links')).unique (hw'.more_links (Nat.le_max_right k links'))
    obtain ⟨hu, hq⟩ := locate_eq_ok_iff.1 (stat_eq_ok_iff.1 hq)
    obtain ⟨m₁, hq'⟩ := hq.of_removes hr.tree hbar
    exact ⟨m₁, stat_eq_ok_iff.2 (locate_eq_ok_iff.2 ⟨(usable_iff hr.rules q).2 hu, hr.cwd ▸ hq'⟩)⟩

/-- An entry of a directory is found, unless its path is refused. -/
theorem stat_child {e : Entry} (hdir : d.stat dir = .ok (P, .dir m)) (hu : d.Usable (dir.child n)) (hn : EntryName n)
    (he : d.tree.get? (n :: P) = some e) (hlink : e.isLink = false) : d.stat (dir.child n) = .ok (n :: P, e) := by
  obtain ⟨-, hw⟩ := locate_eq_ok_iff.1 (stat_eq_ok_iff.1 hdir)
  rw [stat_eq_ok_iff, locate_eq_ok_iff, FilePath.absolute_child]
  exact ⟨hu, hw.snoc (isDir_iff.2 ⟨m, get?_of_stat hdir⟩) hn he hlink⟩

theorem stat_child_of_data? {data : List UInt8} (hdir : d.stat dir = .ok (P, .dir m)) (hu : d.Usable (dir.child n))
    (hn : EntryName n) (hdata : d.tree.data? (n :: P) = some data) :
    ∃ m a, d.stat (dir.child n) = .ok (n :: P, .file data m a) := by
  obtain ⟨m, a, he⟩ := get?_of_data? hdata
  exact ⟨m, a, stat_child hdir hu hn he rfl⟩

/-- A file of a directory is found to be one, unless its path is refused. -/
theorem isFile?_child {b : Bool} (hdir : d.stat dir = .ok (P, .dir m)) (hn : EntryName n)
    (hnul : holdsNul n = false) (hdata : (d.tree.data? (n :: P)).isSome = true)
    (h : d.isFile? (dir.child n) = .ok b) : b = true := by
  obtain ⟨data, hdata⟩ := Option.isSome_iff_exists.1 hdata
  obtain ⟨hu, -⟩ := locate_eq_ok_iff.1 (stat_eq_ok_iff.1 hdir)
  have hnul' := FilePath.holdsNul_child hu.1 hnul
  cases hbarred : d.barred? (dir.child n) with
  | some errno =>
    rw [isFile?, test, stat_of_barred hnul' hbarred] at h
    rcases barred?_eq_some hbarred with rfl | rfl <;> cases h
  | none =>
    obtain ⟨m', a, hs⟩ := stat_child_of_data? hdir ⟨hnul', hbarred⟩ hn hdata
    rw [isFile?, test_of_stat _ hs] at h
    cases h
    rfl

end Disk

end JavaStubs
