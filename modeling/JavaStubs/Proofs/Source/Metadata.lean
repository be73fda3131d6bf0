import JavaStubs.Proofs.Source.OneLine

/-! What version control keeps in directories of its own is no source: a set takes none of it, whatever it includes,
except where the way from such a directory to the file has a line break. -/
namespace JavaStubs

open Text

namespace Pattern

/-- The directories in which version control keeps what it has to know. -/
def keepers : List String :=
  [".git", ".hg", ".svn", "CVS"]

def inside (directory : String) : String :=
  "**/" ++ directory ++ "/**"

theorem inside_mem_standardExcludes : ∀ k ∈ keepers, inside k ∈ standardExcludes := by
  decide

theorem atoms_inside : ∀ k ∈ keepers, atoms (inside k) = .dirs :: (k.toList.map .char ++ [.char '/', .all]) := by
  decide +kernel

theorem noSlash_of_mem_keepers : ∀ k ∈ keepers, '/' ∉ k.toList := by
  decide

variable {as : List Atom} {path cs : List Char} {k : String} {names : List String}

theorem accepts_chars_iff :
    accepts (cs.map .char ++ as) path = true ↔ ∃ rest, path = cs ++ rest ∧ accepts as rest = true := by
  induction cs generalizing path with
  | nil => simp
  | cons c cs ih =>
    rw [List.map_cons, List.cons_append, accepts_char_iff]
    simp only [ih]
    constructor
    · rintro ⟨_, rfl, rest, rfl, hrest⟩
      exact ⟨rest, rfl, hrest⟩
    · rintro ⟨rest, rfl, hrest⟩
      exact ⟨_, rfl, rest, rfl, hrest⟩

theorem accepts_inside_iff : accepts (cs.map .char ++ [.char '/', .all]) path = true ↔
    ∃ rest, path = cs ++ '/' :: rest ∧ '\n' ∉ rest := by
  rw [accepts_chars_iff]
  constructor
  · rintro ⟨_, rfl, hrest⟩
    obtain ⟨rest, rfl, hall⟩ := accepts_char_iff.1 hrest
    exact ⟨rest, rfl, accepts_all_iff.1 hall⟩
  · rintro ⟨rest, rfl, hline⟩
    exact ⟨_, rfl, accepts_char_iff.2 ⟨rest, rfl, accepts_all_iff.2 hline⟩⟩

theorem names_of_cutChars {front : List (List Char)} {tail : List Char}
    (hslash : ∀ name ∈ names, '/' ∉ name.toList)
    (h : names.map String.toList = front ++ k.toList :: cutChars '/' tail) :
    ∃ above below, names = above ++ k :: below ∧ below ≠ [] ∧ (join "/" below).toList = tail := by
  obtain ⟨above, behind, rfl, -, hbehind⟩ := List.map_eq_append_iff.1 h
  obtain ⟨k', below, rfl, hk, hbelow⟩ := List.map_eq_cons_iff.1 hbehind
  obtain rfl := String.toList_inj.1 hk
  have hn : below ≠ [] := by
    rintro rfl
    exact cutChars_ne_nil '/' tail hbelow.symm
  have hnot : ∀ name ∈ below, '/' ∉ name.toList := fun name hname =>
    hslash name (List.mem_append_right _ (List.mem_cons_of_mem _ hname))
  refine ⟨above, below, rfl, hn, ?_⟩
  rw [← joinChars_cutChars '/' (join "/" below).toList, cutChars_join hn hnot, hbelow, joinChars_cutChars]

theorem picks_inside_iff (hk : k ∈ keepers) (hn : names ≠ []) (hempty : "" ∉ names)
    (hslash : ∀ name ∈ names, '/' ∉ name.toList) : picks (inside k) (join "/" names) = true ↔
      ∃ above below, names = above ++ k :: below ∧ below ≠ [] ∧ OneLine below := by
  have hkslash := noSlash_of_mem_keepers k hk
  rw [picks, atoms_inside k hk]
  constructor
  · intro h
    obtain ⟨behind, hbehind, hinside⟩ := accepts_dirs h
    obtain ⟨tail, rfl, hline⟩ := accepts_inside_iff.1 hinside
    have hcut := cutChars_join hn hslash
    obtain ⟨front, hfront⟩ : ∃ front, names.map String.toList = front ++ k.toList :: cutChars '/' tail := by
      rw [← hcut]
      rcases hbehind with hwhole | ⟨dirs, hdirs⟩
      · exact ⟨[], by rw [← hwhole, cutChars_append hkslash]; rfl⟩
      · exact ⟨cutChars '/' dirs, by rw [hdirs, cutChars_append_sep, cutChars_append hkslash]⟩
    obtain ⟨above, below, hnames, hbelow, rfl⟩ := names_of_cutChars hslash hfront
    exact ⟨above, below, hnames, hbelow, oneLine_iff.2 hline⟩
  · rintro ⟨above, below, rfl, hbelow, hline⟩
    rw [List.mem_append, not_or] at hempty
    rw [List.forall_mem_append] at hslash
    rw [toList_join_append above (List.cons_ne_nil _ _), toList_join_cons hbelow]
    exact accepts_dirs_join (accepts_inside_iff.2 ⟨_, rfl, oneLine_iff.1 hline⟩) hempty.1 hslash.1

end Pattern

namespace Disk

open Pattern

/-- No script that a scan finds lies in a directory of version control, unless there is a line break in the names below
that directory. -/
theorem scan_spares_metadata {d : Disk} {s : SourceSet} {mappings : List SuffixMapping} {scripts : List Script}
    (hwell : d.tree.WellFormed) (hnames : d.tree.NoEmptyName) (h : d.scan s mappings = .ok scripts) :
    ∀ x ∈ scripts, x.path = s.directory.descend (s.namesTo x) ∧
      ∀ above k below, s.namesTo x = above ++ k :: below → k ∈ keepers → below ≠ [] → ¬OneLine below := by
  intro x hx
  obtain ⟨l, m, -, hmem⟩ := mem_scan_iff h
  obtain ⟨names, rfl, hleaf, hwants⟩ := (hmem x).1 hx
  rw [SourceSet.namesTo_scriptAt]
  refine ⟨rfl, fun above k below hsplit hk hbelow hline => ?_⟩
  have hpicks : picks (inside k) (join "/" names) = true :=
    (picks_inside_iff hk hleaf.ne_nil (hleaf.noEmptyName hnames) (hleaf.noSlash hwell)).2
      ⟨above, below, hsplit, hbelow, hline⟩
  exact hwants.notStandard _ (inside_mem_standardExcludes k hk) hpicks

/-- A script, and two files in a directory of version control that have the names of scripts. -/
def metadataDisk : Disk where
  tree := {
    entries := [([], .dir .now), (["p"], .dir .now), (["a.groovy", "p"], .file [] .now .now),
      ([".git", "p"], .dir .now), (["b.groovy", ".git", "p"], .file [] .now .now),
      (["c\nd.groovy", ".git", "p"], .file [] .now .now)]
    nodup := by decide }
  cwd := ⟨.slash, []⟩

def metadataSet : SourceSet :=
  .ofDirectory ⟨.slash, ["p"]⟩

theorem found_metadataDisk (names : List String) (hleaf : metadataDisk.IsLeaf ["p"] names)
    (hselects : metadataSet.selects SuffixMapping.standard names = true) :
    ∃ scripts, metadataDisk.scan metadataSet = .ok scripts ∧ metadataSet.scriptAt names ∈ scripts :=
  found_of_selects rfl
    (ok_of_toOption (by decide +kernel : (metadataDisk.stat metadataSet.directory).toOption = some (["p"], .dir .now)))
    (by decide +kernel) hleaf hselects

theorem metadata_of_metadataDisk : metadataDisk.tree.WellFormed ∧ metadataDisk.tree.NoEmptyName ∧
    ∃ scripts, metadataDisk.scan metadataSet = .ok scripts ∧ metadataSet.scriptAt ["a.groovy"] ∈ scripts ∧
      ∀ x ∈ scripts, x.path = metadataSet.directory.descend (metadataSet.namesTo x) ∧
        ∀ above k below, metadataSet.namesTo x = above ++ k :: below → k ∈ keepers → below ≠ [] → ¬OneLine below := by
  have hwell : metadataDisk.tree.WellFormed := by decide +kernel
  have hnames : metadataDisk.tree.NoEmptyName := by decide
  obtain ⟨scripts, hscan, hfound⟩ := found_metadataDisk ["a.groovy"]
    ⟨.file [] .now .now, by decide +kernel, rfl⟩ (by decide +kernel)
  exact ⟨hwell, hnames, scripts, hscan, hfound, scan_spares_metadata hwell hnames hscan⟩

/-- A file of version control is found as a script if its name has a line break. -/
theorem metadata_may_be_found : ¬∀ (d : Disk) (s : SourceSet) (mappings : List SuffixMapping) (scripts : List Script),
    d.tree.WellFormed → d.tree.NoEmptyName → d.scan s mappings = .ok scripts →
      ∀ x ∈ scripts, ∀ above k below, s.namesTo x = above ++ k :: below → k ∈ keepers → below = [] := by
  intro h
  obtain ⟨scripts, hscan, hfound⟩ := found_metadataDisk [".git", "c\nd.groovy"]
    ⟨by decide +kernel, .file [] .now .now, by decide +kernel, rfl⟩ (by decide +kernel)
  have hnone := h metadataDisk metadataSet _ _ (by decide +kernel) (by decide) hscan _ hfound
    [] ".git" ["c\nd.groovy"] rfl List.mem_cons_self
  cases hnone

end Disk

end JavaStubs
