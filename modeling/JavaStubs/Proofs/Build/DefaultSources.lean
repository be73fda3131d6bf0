import JavaStubs.Build.Project
import JavaStubs.Proofs.Disk.Refused
import JavaStubs.Proofs.Source.Rescan
import JavaStubs.Proofs.Source.Settled

/-! The source sets of a project that is built again. Only a project that declares none asks the disk for them: its
usual directory may have come in since, without any file. -/
namespace JavaStubs

namespace FileTree

/-- Without links, a walk along short names fails only by leading nowhere. -/
theorem leadsNowhere_of_walk {t : FileTree} {follow : Bool} {links : Nat} {here : Loc} {parts : List String} {e : Errno}
    (hfree : t.LinkFree) (hshort : ∀ c ∈ parts, c.utf8ByteSize ≤ maxName)
    (h : t.walk follow links here parts = .error e) : e.leadsNowhere = true := by
  refine (errno_of_walk h).resolve_right ?_
  rintro rfl
  fun_induction walk t follow links here parts
  case case3 ih | case4 ih | case11 ih => exact ih (fun c hc => hshort c (List.mem_cons_of_mem _ hc)) h
  case case5 c _ _ _ _ hlong => exact absurd (hshort c List.mem_cons_self) (Nat.not_le.2 hlong)
  case case10 hl _ _ _ _ => exact absurd (content?_of_get? hl) (hfree _ _)
  all_goals cases h

theorem Leads.short {t : FileTree} {follow : Bool} {links : Nat} {here : Loc} {parts : List String} {p : Place}
    (h : Leads t follow links here parts p) (hfree : t.LinkFree) : ∀ c ∈ parts, c.utf8ByteSize ≤ maxName := by
  induction h with
  | arrive => simp
  | stay _ _ ih => exact List.forall_mem_cons.2 ⟨by decide, ih⟩
  | up _ _ ih => exact List.forall_mem_cons.2 ⟨by decide, ih⟩
  | free _ hc _ => exact List.forall_mem_singleton.2 hc.short
  | unfollowed _ hc => exact List.forall_mem_singleton.2 hc.short
  | jump _ _ hl => exact absurd (content?_of_get? hl) (hfree _ _)
  | down _ hc _ _ _ ih => exact List.forall_mem_cons.2 ⟨hc.short, ih⟩

end FileTree

namespace Disk

open FileTree

variable {d d' : Disk} {p : FilePath} {kind : Entry → Bool} {names : List String}

/-- With a path, the ones above it can be looked up. -/
theorem Usable.of_descend (h : d.Usable (p.descend names)) : d.Usable p := by
  induction names generalizing p with
  | nil => simpa [FilePath.descend] using h
  | cons c names ih => exact (ih (FilePath.descend_cons p c names ▸ h)).of_child

/-- A path that is refused is not looked up, or the walk comes to a name that is too long. -/
theorem Refuses.cases {errno : Errno} (h : d.Refuses p errno) : (holdsNul p.text = false ∧ d.barred? p = some errno) ∨
    d.tree.walk true maxLinks [] (p.absolute d.cwd).parts = .error .ENAMETOOLONG := by
  obtain ⟨hreason, hstat⟩ := h
  unfold stat locate at hstat
  split at hstat
  · cases hstat
  · cases hstat
    rcases hreason with hreason | hreason <;> cases hreason
  next e he =>
  cases hstat
  split at he
  · cases he
  next hnul =>
  split at he
  · next hbarred =>
    cases he
    exact .inl ⟨by simpa using hnul, hbarred⟩
  · split at he
    · cases he
    · next hwalk =>
      cases he
      right
      rcases FileTree.errno_of_walk hwalk with hnowhere | rfl
      · rcases hreason with rfl | rfl <;> cases hnowhere
      · exact hwalk

/-- What can be asked of a path on one disk can be asked on another, if no name of the path is too long. -/
theorem test_again {b : Bool} (h : d.test kind p = .ok b) (hrules : d'.rules = d.rules) (hfree : d'.tree.LinkFree)
    (hshort : ∀ c ∈ (p.absolute d'.cwd).parts, c.utf8ByteSize ≤ maxName) : ∃ b', d'.test kind p = .ok b' := by
  rcases htest : d'.test kind p with e | b'
  · obtain ⟨errno, -, hrefuses⟩ := refuses_of_test htest
    rcases hrefuses.cases with ⟨hnul, hbarred⟩ | hwalk
    · rw [barred?_eq hrules] at hbarred
      cases (test_of_refuses (refuses_of_barred hnul hbarred)).symm.trans h
    · cases leadsNowhere_of_walk hfree hshort hwalk
  · exact ⟨b', rfl⟩

theorem stat_descend {P : Loc} {m : Stamp} (hwell : d.tree.WellFormed) (hdir : d.stat p = .ok (P, .dir m))
    (hu : d.Usable (p.descend names)) (h : d.tree.isDir (names.reverse ++ P) = true) :
    ∃ m', d.stat (p.descend names) = .ok (names.reverse ++ P, .dir m') := by
  induction names generalizing p P m with
  | nil => exact ⟨m, by simpa [FilePath.descend] using hdir⟩
  | cons c names ih =>
    rw [FilePath.descend_cons] at hu ⊢
    rw [List.reverse_cons, List.append_assoc, List.singleton_append] at h ⊢
    have hc : d.tree.isDir (c :: P) = true := by
      by_cases hn : names = []
      · subst hn
        exact h
      · obtain ⟨m', hm⟩ := isDir_iff.1 h
        exact hwell.isDir_above hm (by simpa using hn)
    obtain ⟨m', hm⟩ := isDir_iff.1 hc
    exact ih (stat_child hdir hu.of_descend (hwell.named hm).toEntryName hm rfl) hu h

/-- A scan finds nothing in a directory that has come in since, if no file has. -/
theorem scan_of_new {d₀ : Disk} {s : SourceSet} {mappings : List SuffixMapping} {l : Loc} {m : Stamp}
    (hwell : d₀.tree.WellFormed) (hfree : d.tree.LinkFree) (hcwd : d.cwd = d₀.cwd)
    (hrules : d.rules = d₀.rules) (hlists : d₀.ListsNew d s.directory) (hdata : ∀ l, d.tree.data? l = d₀.tree.data? l)
    (habs : s.directory.isAbsolute = true) (hs : d.stat s.directory = .ok (l, .dir m)) (hnew : d₀.tree.isDir l = false) :
    d.scan s mappings = .ok [] := by
  obtain rfl := loc_of_stat hs hfree
  -- what lies below a place that was no directory has come in, too
  have habove : ∀ {names e}, d₀.tree.get? (names.reverse ++ d.place s.directory) = some e → names = [] := by
    intro names e he
    refine Classical.byContradiction fun hn => ?_
    cases hnew.symm.trans (hwell.isDir_above he (by simpa using hn))
  obtain ⟨found, hfound⟩ : ∃ found, d.leaves s.directory (d.place s.directory) [] = .ok found := by
    refine leaves_of_lists (isDir_iff.2 ⟨m, get?_of_stat hs⟩) (fun names hpath => ?_) []
    rw [unlisted?_eq hrules]
    refine hlists names (place_eq hcwd _ ▸ hpath) (Bool.eq_false_iff.2 fun hold => ?_)
    rw [← place_eq hcwd] at hold
    obtain ⟨m', hm⟩ := isDir_iff.1 hold
    rw [habove hm, List.reverse_nil, List.nil_append, hnew] at hold
    cases hold
  have hnone : found = [] := by
    refine List.eq_nil_iff_forall_not_mem.2 fun names hmem => ?_
    obtain ⟨rest, rfl, hleaf⟩ := (leaves_ok hfound names).1 hmem
    have hthere := hleaf.data? hfree
    rw [hdata] at hthere
    obtain ⟨data, hthere⟩ := Option.isSome_iff_exists.1 hthere
    obtain ⟨m', a, he⟩ := get?_of_data? hthere
    exact hleaf.ne_nil (habove he)
  unfold scan
  rw [sourceDirectory_of_stat habs hs]
  simp only [bind, Except.bind, hfound, hnone, sortByText, List.mergeSort_nil]
  rfl

end Disk

namespace Project

variable {d d' : Disk} {settings : Settings} {config : Config} {sets : List SourceSet}

def usualNames : Scope → List String
  | .main => ["src", "main", "groovy"]
  | .test => ["src", "test", "groovy"]

theorem fileName_usualNames (scope : Scope) : ∀ c ∈ usualNames scope, FileName c := by
  cases scope <;> decide

theorem defaultSourceSet_eq (scope : Scope) (root : FilePath) :
    Config.defaultSourceSet scope root = .ofDirectory (root.descend (usualNames scope)) := by
  cases scope with
  | main =>
    rw [Config.defaultSourceSet, FilePath.append_parts_of_relative (by decide)]
    rfl
  | test =>
    rw [Config.defaultSourceSet, FilePath.append_parts_of_relative (by decide)]
    rfl

theorem normalize_usual {root : FilePath} (habs : root.isAbsolute = true) (scope : Scope) (cwd : FilePath) :
    SourceSet.normalize root cwd [(Config.defaultSourceSet scope root).declaration] =
      .ok [{ SourceSet.ofDirectory (root.descend (usualNames scope)) with mode := .plain }] := by
  have habs' : (root.descend (usualNames scope)).isAbsolute = true := habs
  have hplain : Mode.infer (root.descend (usualNames scope)) = .plain := by
    rw [Mode.infer, FilePath.name_descend _ (by cases scope <;> simp [usualNames])]
    cases scope <;> decide
  have hone : SourceSet.settleOne root cwd (SourceSet.ofDirectory (root.descend (usualNames scope))).declaration =
      .ok { SourceSet.ofDirectory (root.descend (usualNames scope)) with mode := .plain } := by
    have hblank := FilePath.not_isBlankText_of_isAbsolute habs'
    simp only [SourceSet.settleOne, SourceSet.declaration, SourceSet.ofDirectory, hblank, SourceSet.place,
      FilePath.absolute_of_isAbsolute habs', Mode.settle, hplain, SourceSet.isUnknown]
    rfl
  rw [defaultSourceSet_eq, SourceSet.normalize, SourceSet.settleAll, hone]
  rfl

/-- The source sets of a project are the same again, or there was no set and there is the usual directory now. -/
theorem sources_again (habs : settings.root.isAbsolute = true) (hroot : d.isDir? settings.root = .ok true)
    (hfree : d.tree.LinkFree) (hwell : d.tree.WellFormed) (hkept : d.Changes FileTree.Kept d')
    (hfree' : d'.tree.LinkFree) (h : sources d settings config = .ok sets) :
    sources d' settings config = .ok sets ∨
      ∃ s l m, sets = [] ∧ sources d' settings config = .ok [s] ∧ s.mode = .plain ∧
        s.directory.isAbsolute = true ∧ d'.stat s.directory = .ok (l, .dir m) ∧ d.tree.isDir l = false := by
  cases hdeclared : config.sourcesFor settings.scope with
  | some declared =>
    refine .inl ?_
    rw [← h, sources, sources, hdeclared, hkept.cwd]
  | none =>
    obtain ⟨P, m, hs⟩ := Disk.stat_of_isDir? hroot
    obtain rfl := Disk.loc_of_stat hs hfree
    obtain ⟨m', hs'⟩ := Disk.stat_dir_of_kept hs hkept
    have hsources : ∀ {d₁ : Disk} {b : Bool}, d₁.isDir? (settings.root.descend (usualNames settings.scope)) = .ok b →
        sources d₁ settings config =
          .ok (if b then [{ SourceSet.ofDirectory (settings.root.descend (usualNames settings.scope)) with mode := .plain }]
            else []) := by
      intro d₁ b hb
      have husual := normalize_usual habs settings.scope d₁.cwd
      simp only [sources, hdeclared, defaultSources, defaultSourceSet_eq, SourceSet.ofDirectory] at husual ⊢
      rw [hb]
      cases b with
      | true =>
        simp only [bind, Except.bind, List.map_cons, List.map_nil, husual]
        rfl
      | false => rfl
    have hasked : ∃ b, d.isDir? (settings.root.descend (usualNames settings.scope)) = .ok b := by
      rcases hb : d.isDir? (settings.root.descend (usualNames settings.scope)) with e | b
      · simp [sources, hdeclared, defaultSources, defaultSourceSet_eq, SourceSet.ofDirectory, hb, bind, Except.bind] at h
      · exact ⟨b, rfl⟩
    obtain ⟨b, hb⟩ := hasked
    have hnames : ∀ c ∈ usualNames settings.scope, EntryName c := fun c hc => (fileName_usualNames _ c hc).toEntryName
    obtain ⟨b', hb'⟩ : ∃ b', d'.isDir? (settings.root.descend (usualNames settings.scope)) = .ok b' := by
      refine Disk.test_again hb hkept.rules hfree' ?_
      rw [FilePath.absolute_descend]
      obtain ⟨-, hw⟩ := Disk.locate_eq_ok_iff.1 (Disk.stat_eq_ok_iff.1 hs')
      exact List.forall_mem_append.2 ⟨hw.short hfree', fun c hc => (hnames c hc).short⟩
    rw [hsources hb] at h
    cases h
    rw [hsources hb']
    cases b with
    | true =>
      obtain ⟨l, m₁, hthere⟩ := Disk.stat_of_isDir? hb
      obtain ⟨m₂, hthere'⟩ := Disk.stat_dir_of_kept hthere hkept
      cases (Disk.test_of_stat Entry.isDir hthere').symm.trans hb'
      exact .inl rfl
    | false =>
      cases b' with
      | false => exact .inl rfl
      | true =>
        obtain ⟨l, m₁, hthere⟩ := Disk.stat_of_isDir? hb'
        refine .inr ⟨_, l, m₁, rfl, rfl, rfl, habs, hthere, Bool.eq_false_iff.2 fun hold => ?_⟩
        obtain rfl := Disk.loc_of_stat hthere hfree'
        rw [Disk.place_descend d' _ hnames, Disk.place_eq hkept.cwd] at hold
        have hu := (Disk.usable_iff hkept.rules _).1 (Disk.locate_eq_ok_iff.1 (Disk.stat_eq_ok_iff.1 hthere)).1
        obtain ⟨m₂, hbefore⟩ := Disk.stat_descend hwell hs hu hold
        cases (Disk.test_of_stat Entry.isDir hbefore).symm.trans hb

end Project

end JavaStubs
