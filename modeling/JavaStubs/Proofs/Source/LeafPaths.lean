import JavaStubs.Proofs.Disk.Alters
import JavaStubs.Proofs.Disk.Lasting
import JavaStubs.Proofs.Source.Leaves

/-! Paths to leaves: how to tell from the path to an entry that it is a leaf, when it stays one, and when a path leads
to a file. -/
namespace JavaStubs.Disk

open FileTree

variable {d d' : Disk} {dir p : FilePath} {l P : Loc} {e : Entry} {m : Stamp} {n : String}

theorem isLeaf_of_leads {links : Nat} (h : Leads d.tree true links P [n] (.found l e)) (hle : links ≤ maxLinks)
    (h₁ : n ≠ ".") (h₂ : n ≠ "..") (he : e.isDir = false) : d.IsLeaf P [n] := by
  cases h with
  | stay => contradiction
  | up => contradiction
  | unfollowed _ _ _ hf => cases hf
  | jump hd hc htarget hr hw =>
    refine ⟨_, htarget, ?_⟩
    have hwalk := ((Leads.jump hd hc htarget hr hw).more_links hle).walk
    simp only [leadsToDir, hwalk, he]
  | down hd hc hthere hl hw =>
    cases hw with
    | arrive hthere' =>
      cases hthere.symm.trans hthere'
      refine ⟨_, hthere, ?_⟩
      cases e with
      | file => rfl
      | dir => cases he
      | link => cases hl

/-- The path to an entry of a directory shows whether it is a leaf. -/
theorem isLeaf_of_stat (hdir : d.stat dir = .ok (P, .dir m)) (h : d.stat (dir.child n) = .ok (l, e)) (h₁ : n ≠ ".")
    (h₂ : n ≠ "..") (he : e.isDir = false) : d.IsLeaf P [n] := by
  obtain ⟨links, hle, hw⟩ := leads_of_child hdir (stat_eq_ok_iff.1 h)
  exact isLeaf_of_leads hw hle h₁ h₂ he

/-- A leaf stays one, or becomes a file, while no directory and no link comes in. -/
theorem IsLeaf.of_kept (h : d.IsLeaf P [n]) (hk : Kept d'.tree d.tree)
    (hc : d'.tree.content? (n :: P) = d.tree.content? (n :: P) ∨
      ∃ data, d'.tree.content? (n :: P) = some (.file data)) : d'.IsLeaf P [n] := by
  obtain ⟨e, he, hleaf⟩ := h
  have hfile : ∀ {data}, d'.tree.content? (n :: P) = some (.file data) → d'.IsLeaf P [n] := by
    intro data hdata
    obtain ⟨e', he', hcontent⟩ := get?_of_content? hdata
    refine ⟨e', he', ?_⟩
    cases e' with
    | file => rfl
    | dir => cases hcontent
    | link => cases hcontent
  rcases hc with hc | ⟨data, hdata⟩
  · rw [content?_of_get? he] at hc
    cases e with
    | file => exact hfile hc
    | dir => cases hleaf
    | link target =>
      obtain ⟨e', he', hcontent⟩ := get?_of_content? hc
      rw [Entry.content_eq_link.1 hcontent] at he'
      refine ⟨_, he', ?_⟩
      rw [Bool.eq_false_iff]
      intro hto
      -- what leads to a directory now did so before
      unfold leadsToDir at hto hleaf
      dsimp only at hto hleaf
      split at hto
      · next l e' hwalk =>
        obtain ⟨m, hm⟩ : ∃ m, e' = .dir m := by
          cases e' with
          | dir m => exact ⟨m, rfl⟩
          | file => cases hto
          | link => cases hto
        subst hm
        have hw := leads_of_walk hwalk
        obtain ⟨m', hm'⟩ := isDir_iff.1 (hk.isDir (isDir_iff.2 ⟨m, hw.get?_found⟩))
        have hw' := hw.of_kept hk hm' rfl id
        rw [hw'.walk] at hleaf
        cases hleaf
      · cases hto
  · exact hfile hdata

theorem IsLeaf.entryName {here : Loc} {names : List String} (h : d.IsLeaf here names)
    (hnamed : d.tree.Named) : ∀ c ∈ names, EntryName c := by
  induction names generalizing here with
  | nil => simp
  | cons c rest ih =>
    have hc : EntryName c := by
      obtain ⟨e, he⟩ : ∃ e, d.tree.get? (c :: here) = some e := by
        by_cases hn : rest = []
        · subst hn
          exact h.imp fun _ he => he.1
        · obtain ⟨m, hm⟩ := isDir_iff.1 ((isLeaf_cons hn).1 h).1
          exact ⟨_, hm⟩
      exact hnamed c here _ (content?_of_get? he)
    intro c' hc'
    rcases List.mem_cons.1 hc' with rfl | hc'
    · exact hc
    · by_cases hn : rest = []
      · rw [hn] at hc'
        cases hc'
      · exact ih ((isLeaf_cons hn).1 h).2 c' hc'

def LeadsToFile (d : Disk) (p : FilePath) : Prop :=
  ∃ data m a, d.tree.walk true maxLinks [] (p.absolute d.cwd).parts = .ok (.found (d.place p) (.file data m a))

theorem LeadsToFile.data? (h : d.LeadsToFile p) : (d.tree.data? (d.place p)).isSome = true := by
  obtain ⟨data, m, a, hw⟩ := h
  rw [data?_eq_some.2 (content?_of_get? (leads_of_walk hw).get?_found)]
  rfl

theorem LeadsToFile.stat {data : List UInt8} (h : d.LeadsToFile p) (hu : d.Usable p)
    (hdata : d.tree.data? (d.place p) = some data) : ∃ m a, d.stat p = .ok (d.place p, .file data m a) := by
  obtain ⟨data', m, a, hw⟩ := h
  have hs : d.stat p = .ok (d.place p, .file data' m a) :=
    stat_eq_ok_iff.2 (locate_eq_ok_iff.2 ⟨hu, leads_of_walk hw⟩)
  cases (data?_of_stat hs).symm.trans hdata
  exact ⟨m, a, hs⟩

theorem LeadsToFile.of_kept (h : d.LeadsToFile p) (hk : d.Changes Kept d')
    (hdata : (d'.tree.data? (d'.place p)).isSome = true) : d'.LeadsToFile p := by
  obtain ⟨data, m, a, hw⟩ := h
  obtain ⟨data', hdata⟩ := Option.isSome_iff_exists.1 hdata
  obtain ⟨m', a', he⟩ := get?_of_data? hdata
  rw [place_eq hk.cwd] at he
  refine ⟨data', m', a', ?_⟩
  rw [hk.cwd, place_eq hk.cwd]
  exact ((leads_of_walk hw).of_kept hk.tree he rfl id).walk

theorem IsLeaf.leads (hfree : d.tree.LinkFree) {links : Nat} {start here : Loc} {parts names : List String} {m : Stamp}
    (h : d.IsLeaf here names) (hnames : ∀ c ∈ names, EntryName c)
    (hw : Leads d.tree true links start parts (.found here (.dir m))) :
    ∃ l data m a, Leads d.tree true links start (parts ++ names) (.found l (.file data m a)) := by
  induction names generalizing here parts m with
  | nil => cases h
  | cons c rest ih =>
    have hc : EntryName c := hnames c List.mem_cons_self
    have hdir : d.tree.isDir here = true := isDir_iff.2 ⟨m, hw.get?_found⟩
    by_cases hn : rest = []
    · subst hn
      obtain ⟨e, he, hleads⟩ := h
      cases e with
      | file data m a => exact ⟨_, data, m, a, hw.snoc hdir hc he rfl⟩
      | dir => cases hleads
      | link target => exact absurd (content?_of_get? he) (hfree _ _)
    · obtain ⟨hd, hleaf⟩ := (isLeaf_cons hn).1 h
      obtain ⟨m', hm⟩ := isDir_iff.1 hd
      have hnext := ih hleaf (fun c' hc' => hnames c' (List.mem_cons_of_mem _ hc')) (hw.snoc hdir hc hm rfl)
      rwa [List.append_assoc] at hnext

theorem leadsToFile_of_mem_scan {s : SourceSet} {mappings : List SuffixMapping} {scripts : List Script}
    (hfree : d.tree.LinkFree) (hnamed : d.tree.Named) (h : d.scan s mappings = .ok scripts) {x : Script}
    (hx : x ∈ scripts) : d.LeadsToFile x.path := by
  obtain ⟨habs, l, m, hstat, hmem⟩ := scan_ok h
  obtain ⟨names, hleaf, -, rfl⟩ := (hmem x).1 hx
  obtain ⟨-, hw⟩ := locate_eq_ok_iff.1 (stat_eq_ok_iff.1 hstat)
  obtain ⟨l', data, m', a, hw'⟩ := hleaf.leads hfree (hleaf.entryName hnamed) hw
  refine ⟨data, m', a, ?_⟩
  have hparts : ((s.directory.descend names).absolute d.cwd).parts = (s.directory.absolute d.cwd).parts ++ names := by
    rw [FilePath.absolute_descend, FilePath.descend]
  have hplace : d.place (s.directory.descend names) = l' := by
    rw [place, hparts]
    exact (hw'.loc_eq_descend hfree).symm
  rw [ofPath_descend habs, hplace, hparts]
  exact hw'.walk

end JavaStubs.Disk
