import JavaStubs.Proofs.Disk.Place
import JavaStubs.Proofs.Disk.WellFormed
import JavaStubs.Proofs.Run.Outcomes
import JavaStubs.Source.Scan

/-! What a scan finds: entries that lead to no directory, at the end of a chain of real directories. -/
namespace JavaStubs

theorem FilePath.absolute_descend (p base : FilePath) (names : List String) :
    (p.descend names).absolute base = (p.absolute base).descend names := by
  have hsame : (p.descend names).isAbsolute = p.isAbsolute := rfl
  unfold absolute
  cases h : p.isAbsolute with
  | true => rw [append_of_absolute h, append_of_absolute (hsame.trans h)]
  | false =>
    rw [append_parts_of_relative h, append_parts_of_relative (hsame.trans h)]
    simp [descend]

theorem FilePath.descend_nil (p : FilePath) : p.descend [] = p := by
  simp [descend]

theorem FilePath.descend_cons (p : FilePath) (c : String) (names : List String) :
    p.descend (c :: names) = (p.child c).descend names := by
  simp [descend, child]

theorem FilePath.name_descend (p : FilePath) {names : List String} (hn : names ≠ []) :
    (p.descend names).name = names.getLast?.getD "" := by
  rw [name, descend, List.getLast?_append, List.getLast?_eq_some_getLast hn]
  rfl

namespace Disk

open FileTree

variable {d : Disk} {p : FilePath} {here : Loc}

theorem place_descend (d : Disk) (p : FilePath) {names : List String} (h : ∀ c ∈ names, EntryName c) :
    d.place (p.descend names) = names.reverse ++ d.place p := by
  rw [place, FilePath.absolute_descend, FilePath.descend, descend_append, descend_eq_append h]
  rfl

/-- Names lead from `here` through real directories to an entry that does not lead to one. -/
def IsLeaf (d : Disk) : Loc → List String → Prop
  | _, [] => False
  | here, [c] => ∃ e, d.tree.get? (c :: here) = some e ∧ d.leadsToDir (c :: here) e = false
  | here, c :: rest => d.tree.isDir (c :: here) = true ∧ d.IsLeaf (c :: here) rest

theorem IsLeaf.ne_nil {names : List String} (h : d.IsLeaf here names) : names ≠ [] := by
  rintro rfl
  exact h

theorem isLeaf_cons {c : String} {rest : List String} (hn : rest ≠ []) :
    d.IsLeaf here (c :: rest) ↔ d.tree.isDir (c :: here) = true ∧ d.IsLeaf (c :: here) rest := by
  cases rest with
  | nil => contradiction
  | cons => rfl

theorem IsLeaf.get? {names : List String} (h : d.IsLeaf here names) :
    ∃ e, d.tree.get? (names.reverse ++ here) = some e ∧ e.isDir = false := by
  induction names generalizing here with
  | nil => cases h
  | cons c rest ih =>
    rw [List.reverse_cons, List.append_assoc, List.singleton_append]
    by_cases hn : rest = []
    · subst hn
      obtain ⟨e, he, hleads⟩ := h
      refine ⟨e, he, ?_⟩
      cases e with
      | dir => cases hleads
      | file => rfl
      | link => rfl
    · exact ih ((isLeaf_cons hn).1 h).2

theorem list_ok {entries : List (String × Entry)} (h : d.list p here = .ok entries) :
    entries = d.tree.listing here := by
  unfold list at h
  split at h
  · cases h
  · exact (Except.ok.inj h).symm

theorem mem_leafNames {c : String} : c ∈ d.leafNames here (d.tree.listing here) ↔ d.IsLeaf here [c] := by
  simp [leafNames, IsLeaf, mem_listing]

theorem mem_dirNames {c : String} : c ∈ dirNames (d.tree.listing here) ↔ d.tree.isDir (c :: here) = true := by
  simp only [dirNames, List.mem_map, List.mem_filter, Prod.exists, exists_and_right, exists_eq_right, mem_listing]
  rw [isDir]
  cases d.tree.get? (c :: here) <;> simp

section

variable {α β ε : Type} {f : α → Except ε β} {xs : List α} {ys : List β}

private theorem mapM_cons_ok {x : α} (h : (x :: xs).mapM f = .ok ys) :
    ∃ y ys', f x = .ok y ∧ xs.mapM f = .ok ys' ∧ ys = y :: ys' := by
  rw [List.mapM_cons] at h
  obtain ⟨y, hx, h⟩ := ok_of_bind h
  obtain ⟨ys', hxs, h⟩ := ok_of_bind h
  exact ⟨y, ys', hx, hxs, (Except.ok.inj h).symm⟩

private theorem ok_of_mapM (h : xs.mapM f = .ok ys) {x : α} (hx : x ∈ xs) : ∃ y ∈ ys, f x = .ok y := by
  induction xs generalizing ys with
  | nil => cases hx
  | cons x' xs ih =>
    obtain ⟨y, ys', hy, hys', rfl⟩ := mapM_cons_ok h
    rcases List.mem_cons.1 hx with rfl | hx
    · exact ⟨y, List.mem_cons_self, hy⟩
    · obtain ⟨z, hz, hfx⟩ := ih hys' hx
      exact ⟨z, List.mem_cons_of_mem _ hz, hfx⟩

private theorem mem_of_mapM (h : xs.mapM f = .ok ys) {y : β} (hy : y ∈ ys) : ∃ x ∈ xs, f x = .ok y := by
  induction xs generalizing ys with
  | nil =>
    cases h
    cases hy
  | cons x xs ih =>
    obtain ⟨z, ys', hz, hys', rfl⟩ := mapM_cons_ok h
    rcases List.mem_cons.1 hy with rfl | hy
    · exact ⟨x, List.mem_cons_self, hz⟩
    · obtain ⟨x', hx', hfx⟩ := ih hys' hy
      exact ⟨x', List.mem_cons_of_mem _ hx', hfx⟩

/-- Lists without repetitions are one together, if it can be told which item each of their members came from. -/
private theorem nodup_flatten_of_mapM {f : α → Except ε (List β)} {yss : List (List β)} (origin : α → β → Prop)
    (hunique : ∀ x x' y, origin x y → origin x' y → x = x')
    (hf : ∀ x ys, f x = .ok ys → ys.Nodup ∧ ∀ y ∈ ys, origin x y) (hxs : xs.Nodup) (h : xs.mapM f = .ok yss) :
    yss.flatten.Nodup ∧ ∀ y ∈ yss.flatten, ∃ x, origin x y := by
  induction xs generalizing yss with
  | nil =>
    cases h
    simp
  | cons x xs ih =>
    obtain ⟨ys, yss', hy, hyss', rfl⟩ := mapM_cons_ok h
    obtain ⟨hx, hxs⟩ := List.nodup_cons.1 hxs
    obtain ⟨hnodup, hfrom⟩ := ih hxs hyss'
    obtain ⟨hys, hysfrom⟩ := hf x ys hy
    rw [List.flatten_cons, List.nodup_append]
    refine ⟨⟨hys, hnodup, ?_⟩, ?_⟩
    · rintro y hmem _ hmem' rfl
      obtain ⟨zs, hzs, hyz⟩ := List.mem_flatten.1 hmem'
      obtain ⟨x', hx', hfx'⟩ := mem_of_mapM hyss' hzs
      exact hx (hunique x x' y (hysfrom y hmem) ((hf x' zs hfx').2 y hyz) ▸ hx')
    · intro y hmem
      rcases List.mem_append.1 hmem with hmem | hmem
      · exact ⟨x, hysfrom y hmem⟩
      · exact hfrom y hmem

private theorem mapM_error {e : ε} (h : xs.mapM f = .error e) : ∃ x ∈ xs, f x = .error e := by
  induction xs with
  | nil => cases h
  | cons x xs ih =>
    rw [List.mapM_cons] at h
    cases hx : f x with
    | error e' =>
      rw [hx] at h
      cases h
      exact ⟨x, List.mem_cons_self, hx⟩
    | ok y =>
      rw [hx] at h
      cases hxs : xs.mapM f with
      | error e' =>
        rw [hxs] at h
        cases h
        obtain ⟨x', hx', hfx⟩ := ih hxs
        exact ⟨x', List.mem_cons_of_mem _ hx', hfx⟩
      | ok ys =>
        rw [hxs] at h
        cases h

theorem mapM_unique {g : α → Except ε β} {zs : List β} (h : xs.mapM f = .ok ys) (h' : xs.mapM g = .ok zs)
    (hfg : ∀ x y z, f x = .ok y → g x = .ok z → z = y) : zs = ys := by
  induction xs generalizing ys zs with
  | nil =>
    cases h
    cases h'
    rfl
  | cons x xs ih =>
    have ⟨y, ys', hy, hys, heq⟩ := mapM_cons_ok h
    have ⟨z, zs', hz, hzs, heq'⟩ := mapM_cons_ok h'
    rw [heq, heq', hfg x y z hy hz, ih hys hzs]

end

theorem leaves_ok {sofar : List String} {found : List (List String)} (h : d.leaves p here sofar = .ok found)
    (names : List String) : names ∈ found ↔ ∃ rest, names = sofar ++ rest ∧ d.IsLeaf here rest := by
  fun_induction leaves d p here sofar generalizing found names
  case case1 p here sofar hd ih =>
    obtain ⟨entries, hl, h⟩ := ok_of_bind h
    obtain rfl := list_ok hl
    obtain ⟨nested, hm, h⟩ := ok_of_bind h
    cases h
    rw [List.mem_append, List.mem_flatten]
    constructor
    · rintro (hn | ⟨below, hbelow, hn⟩)
      · obtain ⟨c, hc, rfl⟩ := List.mem_map.1 hn
        exact ⟨[c], rfl, mem_leafNames.1 hc⟩
      · obtain ⟨c, hc, hb⟩ := mem_of_mapM hm hbelow
        obtain ⟨rest, rfl, hr⟩ := (ih c hb names).1 hn
        exact ⟨c :: rest, by simp, (isLeaf_cons hr.ne_nil).2 ⟨mem_dirNames.1 hc, hr⟩⟩
    · rintro ⟨rest, rfl, hr⟩
      cases rest with
      | nil => cases hr
      | cons c rest =>
        by_cases hn : rest = []
        · subst hn
          exact .inl (List.mem_map_of_mem (mem_leafNames.2 hr))
        · obtain ⟨hc, hr⟩ := (isLeaf_cons hn).1 hr
          obtain ⟨below, hbelow, hb⟩ := ok_of_mapM hm (mem_dirNames.2 hc)
          exact .inr ⟨below, hbelow, (ih c hb _).2 ⟨rest, by simp, hr⟩⟩
  case case2 => cases h

/-- Names lead from `here` through real directories. -/
def IsDirPath (d : Disk) : Loc → List String → Prop
  | here, [] => d.tree.isDir here = true
  | here, c :: rest => d.tree.isDir here = true ∧ d.IsDirPath (c :: here) rest

theorem IsDirPath.isDir {names : List String} (h : d.IsDirPath here names) : d.tree.isDir here = true := by
  cases names with
  | nil => exact h
  | cons c rest => exact h.1

/-- A walk that comes to its end may list all directories on its way. -/
theorem listed_of_leaves {sofar : List String} {found : List (List String)} (h : d.leaves p here sofar = .ok found)
    {names : List String} (hnames : d.IsDirPath here names) :
    d.unlisted? (p.descend names) = none := by
  fun_induction leaves d p here sofar generalizing found names
  case case1 p here sofar hd ih =>
    obtain ⟨entries, hl, h⟩ := ok_of_bind h
    cases names with
    | nil =>
      rw [FilePath.descend_nil]
      unfold list at hl
      split at hl
      · cases hl
      · assumption
    | cons c rest =>
      obtain rfl := list_ok hl
      obtain ⟨nested, hm, -⟩ := ok_of_bind h
      obtain ⟨below, -, hbelow⟩ := ok_of_mapM hm (mem_dirNames.2 hnames.2.isDir)
      have hrest := ih c hbelow hnames.2
      rwa [← FilePath.descend_cons] at hrest
  case case2 hd => exact absurd hnames.isDir hd

theorem list_error_iff {e : OsError} :
    d.list p here = .error e ↔ ∃ errno, d.unlisted? p = some errno ∧ e = .at errno p := by
  unfold list
  split
  · next errno hrefused => simp [hrefused, eq_comm]
  · next hlisted => simp [hlisted]

/-- A walk from a directory that does not come to its end was refused a listing on its way, and says which. -/
theorem refused_of_leaves {sofar : List String} {e : OsError} (hdir : d.tree.isDir here = true)
    (h : d.leaves p here sofar = .error e) : ∃ names errno, d.IsDirPath here names ∧
      d.unlisted? (p.descend names) = some errno ∧ e = .at errno (p.descend names) := by
  fun_induction leaves d p here sofar
  case case1 p here sofar hd ih =>
    cases hl : d.list p here with
    | error e' =>
      rw [hl] at h
      cases h
      obtain ⟨errno, hrefused⟩ := list_error_iff.1 hl
      exact ⟨[], errno, hd, by rwa [FilePath.descend_nil]⟩
    | ok entries =>
      obtain rfl := list_ok hl
      rw [hl] at h
      cases hm : (dirNames (d.tree.listing here)).mapM fun c => leaves d (p.child c) (c :: here) (sofar ++ [c]) with
      | ok nested =>
        simp only [bind, Except.bind, hm] at h
        cases h
      | error e' =>
        simp only [bind, Except.bind, hm] at h
        cases h
        obtain ⟨c, hc, hbelow⟩ := mapM_error hm
        obtain ⟨names, errno, hpath, hrefused⟩ := ih c (mem_dirNames.1 hc) hbelow
        rw [← FilePath.descend_cons] at hrefused
        exact ⟨c :: names, errno, ⟨hd, hpath⟩, hrefused⟩
  case case2 hd => exact absurd hdir hd

/-- Where no listing on the way is refused, a walk from a directory comes to its end. -/
theorem leaves_of_lists (hdir : d.tree.isDir here = true)
    (hlist : ∀ names, d.IsDirPath here names → d.unlisted? (p.descend names) = none)
    (sofar : List String) : ∃ found, d.leaves p here sofar = .ok found := by
  cases hwalk : d.leaves p here sofar with
  | ok found => exact ⟨found, rfl⟩
  | error e =>
    obtain ⟨names, errno, hpath, hrefused, -⟩ := refused_of_leaves hdir hwalk
    rw [hlist names hpath] at hrefused
    cases hrefused

theorem IsDirPath.mem_entries {names : List String} (h : d.IsDirPath here names) :
    ∃ e ∈ d.tree.entries, e.1 = names.reverse ++ here := by
  induction names generalizing here with
  | nil =>
    obtain ⟨m, hm⟩ := isDir_iff.1 h
    exact ⟨_, get?_eq_some_iff.1 hm, rfl⟩
  | cons c names ih =>
    obtain ⟨e, he, hloc⟩ := ih h.2
    exact ⟨e, he, by simpa using hloc⟩

def ListsBelow (d : Disk) (p : FilePath) (here : Loc) : Prop :=
  ∀ e ∈ d.tree.entries, d.unlisted? (p.descend (e.1.take (e.1.length - here.length)).reverse) = none

instance (d : Disk) (p : FilePath) (here : Loc) : Decidable (d.ListsBelow p here) :=
  inferInstanceAs (Decidable (∀ e ∈ d.tree.entries, _))

theorem ListsBelow.unlisted? (h : d.ListsBelow p here) {names : List String} (hpath : d.IsDirPath here names) :
    d.unlisted? (p.descend names) = none := by
  obtain ⟨e, he, hloc⟩ := hpath.mem_entries
  have hlisted := h e he
  rw [hloc] at hlisted
  simpa using hlisted

/-- What keeps a path from being used keeps it from being listed, so that no entry below the location is barred. -/
theorem ListsBelow.barred? (h : d.ListsBelow p here) {names : List String} {e : Entry}
    (he : d.tree.get? (names.reverse ++ here) = some e) : d.barred? (p.descend names) = none := by
  have hlisted := h _ (get?_eq_some_iff.1 he)
  simp only [List.length_append, Nat.add_sub_cancel, List.take_left', List.reverse_reverse] at hlisted
  exact (Option.or_eq_none_iff.1 hlisted).2

theorem leaves_of_listed (hlist : d.ListsBelow p here) (hdir : d.tree.isDir here = true) (sofar : List String) :
    ∃ found, d.leaves p here sofar = .ok found :=
  leaves_of_lists hdir (fun _ hpath => hlist.unlisted? hpath) sofar

theorem nodup_of_leaves {sofar : List String} {found : List (List String)} (h : d.leaves p here sofar = .ok found) :
    found.Nodup := by
  fun_induction leaves d p here sofar generalizing found
  case case1 p here sofar hd ih =>
    obtain ⟨entries, hl, h⟩ := ok_of_bind h
    obtain rfl := list_ok hl
    obtain ⟨nested, hm, h⟩ := ok_of_bind h
    cases h
    have hnames := d.tree.listing_nodup here
    have hleaf : (d.leafNames here (d.tree.listing here)).Nodup := hnames.sublist (List.filter_sublist.map _)
    have hdirs : (dirNames (d.tree.listing here)).Nodup := hnames.sublist (List.filter_sublist.map _)
    -- what is found below a name starts with it, and goes on
    have hbelow : ∀ c found, leaves d (p.child c) (c :: here) (sofar ++ [c]) = .ok found →
        found.Nodup ∧ ∀ names ∈ found, ∃ rest, rest ≠ [] ∧ names = sofar ++ c :: rest := by
      intro c found hfound
      refine ⟨ih c hfound, fun names hmem => ?_⟩
      obtain ⟨rest, rfl, hrest⟩ := (leaves_ok hfound names).1 hmem
      exact ⟨rest, hrest.ne_nil, by simp⟩
    obtain ⟨hnested, hstart⟩ := nodup_flatten_of_mapM (fun c names => ∃ rest, rest ≠ [] ∧ names = sofar ++ c :: rest)
      (fun c c' names ⟨rest, _, hc⟩ ⟨rest', _, hc'⟩ =>
        (List.cons.inj (List.append_cancel_left (hc.symm.trans hc'))).1) hbelow hdirs hm
    rw [List.nodup_append]
    refine ⟨?_, hnested, ?_⟩
    · exact List.pairwise_map.2 (hleaf.imp fun hne heq => hne (by simpa using heq))
    · rintro a ha b hb rfl
      obtain ⟨c, -, rfl⟩ := List.mem_map.1 ha
      obtain ⟨c', rest, hrest, heq⟩ := hstart _ hb
      exact hrest (List.cons.inj (List.append_cancel_left heq)).2.symm
  case case2 => cases h

theorem isLeaf_one (hl : d.tree.LinkFree) {c : String} :
    d.IsLeaf here [c] ↔ (d.tree.data? (c :: here)).isSome = true := by
  constructor
  · rintro ⟨e, he, hdir⟩
    refine hl.data?_isSome he ?_
    cases e with
    | dir m => cases hdir
    | file => rfl
    | link => rfl
  · intro h
    obtain ⟨data, hdata⟩ := Option.isSome_iff_exists.1 h
    obtain ⟨m, a, he⟩ := get?_of_data? hdata
    exact ⟨_, he, rfl⟩

/-- Without links the leaves below a location are the regular files below it. -/
theorem isLeaf_iff_data? (hl : d.tree.LinkFree) (hw : d.tree.WellFormed) {names : List String} :
    d.IsLeaf here names ↔ names ≠ [] ∧ (d.tree.data? (names.reverse ++ here)).isSome = true := by
  induction names generalizing here with
  | nil => simp [IsLeaf]
  | cons c rest ih =>
    by_cases hn : rest = []
    · subst hn
      simpa using isLeaf_one hl
    · rw [isLeaf_cons hn, ih, List.reverse_cons, List.append_assoc, List.singleton_append]
      constructor
      · exact fun h => ⟨List.cons_ne_nil _ _, h.2.2⟩
      · rintro ⟨-, h⟩
        obtain ⟨data, hdata⟩ := Option.isSome_iff_exists.1 h
        obtain ⟨m, a, he⟩ := get?_of_data? hdata
        exact ⟨hw.isDir_above he (by simpa using hn), hn, h⟩

theorem sourceDirectory_ok {s : SourceSet} {l : Loc} (h : d.sourceDirectory s = .ok l) :
    s.directory.isAbsolute = true ∧ ∃ m, d.stat s.directory = .ok (l, .dir m) := by
  have hstop : ∀ {e : Failure} {f : PUnit → Except Failure Loc}, (throw e >>= f) ≠ .ok l := nofun
  unfold sourceDirectory at h
  cases ha : s.directory.isAbsolute with
  | false => simp [ha, hstop] at h
  | true =>
    refine ⟨rfl, ?_⟩
    rcases hx : d.exists? s.directory with e | there
    · simp [ha, hx, bind, Except.bind, mapError_error] at h
    rcases hd : d.isDir? s.directory with e | isDir
    · cases there <;> simp [ha, hx, hd, bind, Except.bind, mapError_ok, mapError_error] at h
    cases there with
    | false => simp [ha, hx, bind, Except.bind, mapError_ok] at h
    | true =>
      cases isDir with
      | false => simp [ha, hx, hd, bind, Except.bind, mapError_ok] at h
      | true =>
        obtain ⟨l', m, hs⟩ := stat_of_isDir? hd
        simp only [ha, hx, hd, hs, bind, Except.bind, mapError_ok, Bool.not_true, Bool.false_eq_true, if_false] at h
        cases h
        exact ⟨m, hs⟩

/-- A scan that succeeds gives the leaves that the set selects, as scripts below its directory. -/
theorem scan_ok {s : SourceSet} {mappings : List SuffixMapping} {scripts : List Script}
    (h : d.scan s mappings = .ok scripts) :
    s.directory.isAbsolute = true ∧ ∃ l m, d.stat s.directory = .ok (l, .dir m) ∧
      ∀ script, script ∈ scripts ↔ ∃ names, d.IsLeaf l names ∧ s.selects mappings names = true ∧
        script = .ofPath d.cwd (s.directory.descend names) := by
  unfold scan at h
  obtain ⟨l, hs, h⟩ := ok_of_bind h
  rcases hf : d.leaves s.directory l [] with e | found
  · rw [hf] at h
    cases h
  rw [hf] at h
  cases h
  obtain ⟨habs, m, hstat⟩ := sourceDirectory_ok hs
  refine ⟨habs, l, m, hstat, fun script => ?_⟩
  simp only [List.mem_map, List.mem_filter, sortByText, List.mem_mergeSort, leaves_ok hf, List.nil_append,
    exists_eq_left', and_assoc, eq_comm]

theorem scan_of_listed {s : SourceSet} {l : Loc} (h : d.sourceDirectory s = .ok l) (hlist : d.ListsBelow s.directory l)
    (mappings : List SuffixMapping) : ∃ scripts, d.scan s mappings = .ok scripts := by
  obtain ⟨-, m, hstat⟩ := sourceDirectory_ok h
  obtain ⟨found, hfound⟩ := leaves_of_listed hlist (isDir_iff.2 ⟨m, get?_of_stat hstat⟩) []
  unfold scan
  simp only [h, bind, Except.bind, hfound]
  exact ⟨_, rfl⟩

def Scannable (d : Disk) (s : SourceSet) : Prop :=
  ∃ l ∈ (d.sourceDirectory s).toOption, d.ListsBelow s.directory l

instance (d : Disk) (s : SourceSet) : Decidable (d.Scannable s) :=
  inferInstanceAs (Decidable (∃ l ∈ (d.sourceDirectory s).toOption, d.ListsBelow s.directory l))

theorem Scannable.scan {s : SourceSet} (h : d.Scannable s) (mappings : List SuffixMapping) :
    ∃ scripts, d.scan s mappings = .ok scripts := by
  obtain ⟨l, hl, hlist⟩ := h
  exact scan_of_listed (ok_of_toOption hl) hlist mappings

section

variable {s : SourceSet} {mappings : List SuffixMapping} {scripts : List Script}

/-- In a tree without links a scan finds the regular files that the set selects. -/
theorem mem_scan (hfree : d.tree.LinkFree) (hwell : d.tree.WellFormed) (h : d.scan s mappings = .ok scripts)
    {x : Script} : x ∈ scripts ↔ ∃ names, names ≠ [] ∧
      (d.tree.data? (names.reverse ++ d.place s.directory)).isSome = true ∧
      s.selects mappings names = true ∧ x = .ofPath d.cwd (s.directory.descend names) := by
  obtain ⟨-, l, m, hs, hmem⟩ := scan_ok h
  obtain rfl := loc_of_stat hs hfree
  simp only [hmem, isLeaf_iff_data? hfree hwell, and_assoc]

theorem ofPath_descend (h : s.directory.isAbsolute = true) (names : List String) :
    Script.ofPath d.cwd (s.directory.descend names) =
      ⟨s.directory.descend names, (s.directory.descend names).name⟩ := by
  rw [Script.ofPath, FilePath.absolute_of_isAbsolute (p := s.directory.descend names) h]

/-- A file of the directory is among those that a scan finds, just if it is a leaf that the set selects. -/
theorem descend_mem_scan (h : d.scan s mappings = .ok scripts) (names : List String) :
    s.directory.descend names ∈ scripts.map (·.path) ↔
      ∃ l m, d.stat s.directory = .ok (l, .dir m) ∧ d.IsLeaf l names ∧ s.selects mappings names = true := by
  obtain ⟨habs, l, m, hstat, hmem⟩ := scan_ok h
  rw [List.mem_map]
  constructor
  · rintro ⟨x, hx, hpath⟩
    obtain ⟨names', hleaf, hselects, rfl⟩ := (hmem x).1 hx
    rw [ofPath_descend habs] at hpath
    obtain rfl : names' = names := List.append_cancel_left (congrArg (·.parts) hpath)
    exact ⟨l, m, hstat, hleaf, hselects⟩
  · rintro ⟨l', m', hstat', hleaf, hselects⟩
    cases hstat.symm.trans hstat'
    refine ⟨_, (hmem _).2 ⟨names, hleaf, hselects, rfl⟩, ?_⟩
    rw [ofPath_descend habs]

theorem isAbsolute_of_mem_scan (h : d.scan s mappings = .ok scripts) {x : Script} (hx : x ∈ scripts) :
    x.path.isAbsolute = true := by
  obtain ⟨habs, l, m, -, hmem⟩ := scan_ok h
  obtain ⟨names, -, -, rfl⟩ := (hmem x).1 hx
  rw [ofPath_descend habs]
  exact habs

theorem fileName_of_mem_scan (hwell : d.tree.WellFormed) (h : d.scan s mappings = .ok scripts) {x : Script}
    (hx : x ∈ scripts) : FileName x.baseName := by
  obtain ⟨habs, l, m, -, hmem⟩ := scan_ok h
  obtain ⟨names, hleaf, -, rfl⟩ := (hmem x).1 hx
  obtain ⟨e, he, -⟩ := hleaf.get?
  have hlast : names.getLast hleaf.ne_nil ∈ names := List.getLast_mem _
  rw [ofPath_descend habs, FilePath.name_descend _ hleaf.ne_nil, List.getLast?_eq_some_getLast hleaf.ne_nil]
  exact hwell.named_of_mem he (List.mem_reverse.2 hlast)

theorem place_of_mem_scan (hwell : d.tree.WellFormed) (h : d.scan s mappings = .ok scripts)
    {names : List String} (hdata : (d.tree.data? (names.reverse ++ d.place s.directory)).isSome = true) :
    d.place (Script.ofPath d.cwd (s.directory.descend names)).path = names.reverse ++ d.place s.directory := by
  rw [ofPath_descend (scan_ok h).1]
  refine d.place_descend _ fun c hc => ?_
  obtain ⟨data, hdata⟩ := Option.isSome_iff_exists.1 hdata
  obtain ⟨m, a, he⟩ := get?_of_data? hdata
  exact (hwell.named_of_mem he (List.mem_reverse.2 hc)).toEntryName

/-- What a scan finds does not lie below a location that is apart from the directory of the set. -/
theorem not_below_of_mem_scan {root : Loc} (hfree : d.tree.LinkFree) (hwell : d.tree.WellFormed)
    (h : d.scan s mappings = .ok scripts) (hapart : ¬Below (d.place s.directory) root)
    (hapart' : ¬Below root (d.place s.directory)) {x : Script} (hx : x ∈ scripts) : ¬Below root (d.place x.path) := by
  obtain ⟨names, -, hdata, -, rfl⟩ := (mem_scan hfree hwell h).1 hx
  rw [place_of_mem_scan hwell h hdata]
  exact not_below_of_apart hapart hapart' (List.suffix_append _ _)

end

end Disk

end JavaStubs
