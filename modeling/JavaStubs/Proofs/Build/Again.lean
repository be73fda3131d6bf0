import JavaStubs.Proofs.Build.Listed
import JavaStubs.Proofs.Library.UpToDate

/-! Taking the turns of source sets again. A library is scanned, and so are the sets before it, on a disk that does
not have the generated files yet; the next time they are there. -/
namespace JavaStubs

open FileTree

namespace Library

/-- Seen from its directory, a set picks none of the files that publishing below a root may write or clear. -/
def Unseen (root dir : Loc) (s : SourceSet) : Prop :=
  ∀ names, Generated root (names.reverse ++ dir) → s.selects SuffixMapping.standard names = false

/-- A set whose directory is not above the package directory has no generated files. -/
theorem unseen_of_not_below {root dir : Loc} (h : ¬Below dir (package :: root)) (s : SourceSet) : Unseen root dir s := by
  intro names hgenerated
  rcases List.eq_nil_or_concat names with rfl | ⟨names, c, rfl⟩
  · have hnone : SuffixMapping.isCandidate SuffixMapping.standard "" = false := by decide
    simp [SourceSet.selects, hnone]
  · refine absurd ?_ h
    rw [List.concat_eq_append, List.reverse_append, List.reverse_singleton, List.singleton_append, List.cons_append] at hgenerated
    rcases hgenerated with heq | ⟨n, -, heq⟩
    · obtain ⟨-, hroot⟩ := List.cons.inj heq
      exact hroot ▸ (List.suffix_append _ _).trans (List.suffix_cons _ _)
    · obtain ⟨-, hroot⟩ := List.cons.inj heq
      exact hroot ▸ List.suffix_append _ _

end Library

namespace Turn

/-- What a turn comes to but for the number of files that were written in it. -/
def essence (t : Turn) : Turn :=
  { t with published? := t.published?.map fun p => { p with rewritten := 0 } }

theorem paths_essence (ts : List Turn) : paths (ts.map essence) = paths ts := by
  simp [paths, List.flatMap_map, essence]

variable {settings : Settings} {intermediate : FilePath} {encoding : String} {w w' v : World} {s : SourceSet} {t : Turn}

theorem scan_of_take (hlib : ¬s.isLibrary = true) (h : (take settings intermediate encoding s).runFrom w = (.ok t, w')) :
    t = ⟨s, none, t.scripts⟩ ∧ w.disk.scan s = .ok t.scripts := by
  obtain ⟨hstand, hscan, -⟩ := take_ok h
  rcases standIn_ok hstand with ⟨hlib', -⟩ | ⟨-, rfl, hx⟩
  · exact absurd hlib' hlib
  · obtain ⟨heffective, hpublished⟩ := Prod.mk.inj hx
    rw [heffective] at hscan
    refine ⟨?_, hscan⟩
    rw [← heffective, ← hpublished]

theorem publish_of_take (hlib : s.isLibrary = true)
    (h : (take settings intermediate encoding s).runFrom w = (.ok t, w')) :
    ∃ p, (Library.publish settings s intermediate encoding).runFrom w = (.ok p, w') ∧
      w'.disk.scan p.sourceSet = .ok t.scripts ∧ t = ⟨p.sourceSet, some p, t.scripts⟩ := by
  obtain ⟨hstand, hscan, -⟩ := take_ok h
  obtain ⟨p, hpublish, hset⟩ := publish_of_standIn hlib hstand
  rw [show t.effective = p.sourceSet from hset] at hscan
  obtain ⟨heq, -⟩ := Prod.mk.inj ((take_of_publish hlib hpublish hscan).symm.trans h)
  exact ⟨p, hpublish, hscan, (Except.ok.inj heq).symm⟩

theorem takeAll_plain_again {sets : List SourceSet} {ts : List Turn} (hlib : ∀ s ∈ sets, ¬s.isLibrary = true)
    (hfree : w.disk.tree.LinkFree) (hsame : w.disk.SameContents v.disk)
    (h : (takeAll settings intermediate encoding sets).runFrom w = (.ok ts, w')) :
    (takeAll settings intermediate encoding sets).runFrom v = (.ok ts, v) := by
  induction sets generalizing ts with
  | nil =>
    cases h
    rfl
  | cons s ss ih =>
    obtain ⟨t, ts', w₁, ht, hts, rfl⟩ := takeAll_cons_ok h
    have hs := hlib s List.mem_cons_self
    obtain rfl := take_plain hs ht
    obtain ⟨heq, hscan⟩ := scan_of_take hs ht
    have htake := @take_of_scan settings intermediate encoding v s t.scripts (by simpa using hs)
      (hsame.scan hfree hscan)
    rw [takeAll, Acting.runFrom_bind_of_ok htake,
      Acting.runFrom_bind_of_ok (ih (fun x hx => hlib x (List.mem_cons_of_mem _ hx)) hts), ← heq]
    rfl

section

variable {d₀ : Disk}

/-- A set that does not see generated files is scanned after a library was published as it was before. -/
theorem scan_of_unseen {lib : SourceSet} {p : Library.Published} {scripts : List Script} (hfree : d₀.tree.LinkFree)
    (hwell : d₀.tree.WellFormed) (hmore : d₀.Changes MoreDirs w.disk)
    (hlists : d₀.ListsNew v.disk s.directory) (hsame : w'.disk.SameContents v.disk)
    (hunseen : Library.Unseen (d₀.place intermediate) (d₀.place s.directory) s)
    (h : (Library.publish settings lib intermediate encoding).runFrom w = (.ok p, w'))
    (hscan : w.disk.scan s = .ok scripts) : v.disk.scan s = .ok scripts := by
  have halters := Library.publish_alters settings lib intermediate encoding w
  rw [h] at halters
  have haltered := halters.comp (hsame.imp fun _ _ => SameContents.alters) Alters.trans
  refine Disk.scan_unaltered hfree hwell hmore haltered hlists (fun names hselects => ?_) hscan
  rw [hsame.tree.data?, (Library.publish_touches (hmore.tree.linkFree hfree) h).2]
  intro hgenerated
  rw [Disk.place_eq hmore.cwd, Disk.place_eq hmore.cwd] at hgenerated
  cases hselects.symm.trans (hunseen names hgenerated)

/-- The turn of a library that does not see generated files comes to the same again and changes nothing. -/
theorem take_library_again (hfree : d₀.tree.LinkFree) (hwell : d₀.tree.WellFormed) (hmore : d₀.Changes MoreDirs w.disk)
    (hnamed : w.disk.tree.Named) (hlists : d₀.ListsNew v.disk s.directory) (hsame : w'.disk.SameContents v.disk)
    (hlib : s.isLibrary = true) (hunseen : Library.Unseen (d₀.place intermediate) (d₀.place s.directory) s)
    (h : (take settings intermediate encoding s).runFrom w = (.ok t, w')) :
    ∃ t' text, (take settings intermediate encoding s).runFrom v = (.ok t', { v with stderr := text }) ∧
      t'.essence = t.essence := by
  have hfree₁ := hmore.tree.linkFree hfree
  obtain ⟨p, hpublish, hpublished, heq⟩ := publish_of_take hlib h
  obtain ⟨hset, scripts, hscan⟩ := Library.publish_sourceSet hpublish
  have halters := take_alters settings intermediate encoding s w
  rw [h] at halters
  have hrescan := scan_of_unseen hfree hwell hmore hlists hsame hunseen hpublish hscan
  have hnames : ∀ n, (w.disk.tree.data? (n :: Library.package :: w.disk.place intermediate)).isSome = true → FileName n := by
    intro n hn
    rw [hmore.tree.data?] at hn
    obtain ⟨data, hdata⟩ := Option.isSome_iff_exists.1 hn
    obtain ⟨m, a, he⟩ := get?_of_data? hdata
    exact hwell.named he
  have hsources : ∀ x ∈ scripts, ¬Library.Generated (w.disk.place intermediate) (w.disk.place x.path) := by
    intro x hx hgenerated
    obtain ⟨habs, l, m, hs, hmem⟩ := Disk.scan_ok hscan
    obtain ⟨names, hleaf, hselects, rfl⟩ := (hmem x).1 hx
    rw [Disk.ofPath_descend habs, Disk.place_descend _ _ (hleaf.entryName hnamed), Disk.place_eq hmore.cwd,
      Disk.place_eq hmore.cwd] at hgenerated
    cases hselects.symm.trans (hunseen names hgenerated)
  have hready := Library.upToDate_of_publish hfree₁ hscan hnames hsources hpublish hsame
    (hsame.tree.named (halters.tree.named hnamed)) hrescan
  obtain ⟨text, hagain⟩ := @Library.UpToDate.publish settings s intermediate encoding scripts v hready
  rw [hsame.cwd, halters.cwd] at hagain
  rw [hset] at hpublished
  have htake := take_of_publish hlib hagain (hsame.scan (Library.publish_touches hfree₁ hpublish).1 hpublished)
  refine ⟨_, text, htake, ?_⟩
  rw [show t.essence = ⟨p.sourceSet, some { p with rewritten := 0 }, t.scripts⟩ from congrArg essence heq,
    Library.published_eq hscan hpublish, hset]
  rfl

theorem takeAll_again (hfree : d₀.tree.LinkFree) (hwell : d₀.tree.WellFormed) (hmore : d₀.Changes MoreDirs w.disk)
    (hnamed : w.disk.tree.Named) (hsame : w'.disk.SameContents v.disk) {sets : List SourceSet} {ts : List Turn}
    (hlists : ∀ s ∈ sets, d₀.ListsNew v.disk s.directory) (hone : sets.Pairwise fun a b => a.isLibrary = true → ¬b.isLibrary = true)
    (hunseen : ∀ pre lib post, sets = pre ++ lib :: post → lib.isLibrary = true →
      ∀ s ∈ pre ++ [lib], Library.Unseen (d₀.place intermediate) (d₀.place s.directory) s)
    (h : (takeAll settings intermediate encoding sets).runFrom w = (.ok ts, w')) :
    ∃ ts' text, (takeAll settings intermediate encoding sets).runFrom v = (.ok ts', { v with stderr := text }) ∧
      ts'.map essence = ts.map essence := by
  have hfree₁ := hmore.tree.linkFree hfree
  induction sets generalizing ts with
  | nil =>
    cases h
    exact ⟨[], v.stderr, rfl, rfl⟩
  | cons s ss ih =>
    obtain ⟨t, ts', w₁, ht, hts, rfl⟩ := takeAll_cons_ok h
    obtain ⟨hs, hone⟩ := List.pairwise_cons.1 hone
    obtain ⟨hlist, hlists⟩ := List.forall_mem_cons.1 hlists
    by_cases hlib : s.isLibrary = true
    · have hplain : ∀ x ∈ ss, ¬x.isLibrary = true := fun x hx => hs x hx hlib
      obtain rfl := takeAll_plain hplain hts
      obtain ⟨t', text, htake, hessence⟩ := take_library_again hfree hwell hmore hnamed hlist hsame hlib
        (hunseen [] s ss rfl hlib s (by simp)) ht
      have halters := take_alters settings intermediate encoding s w
      rw [ht] at halters
      have hrest := @takeAll_plain_again settings intermediate encoding _ _ { v with stderr := text } _ _ hplain
        (halters.tree.linkFree hfree₁) hsame hts
      refine ⟨t' :: ts', text, ?_, by rw [List.map_cons, List.map_cons, hessence]⟩
      rw [takeAll, Acting.runFrom_bind_of_ok htake, Acting.runFrom_bind_of_ok hrest]
      rfl
    · obtain rfl := take_plain hlib ht
      obtain ⟨heq, hscan⟩ := scan_of_take hlib ht
      have hrescan : v.disk.scan s = .ok t.scripts := by
        by_cases hlater : ∃ lib ∈ ss, lib.isLibrary = true
        · obtain ⟨lib, hmem, hlib'⟩ := hlater
          obtain ⟨pre, post, rfl⟩ := List.append_of_mem hmem
          obtain ⟨t', -, htake⟩ := take_of_takeAll hone hts hmem hlib'
          obtain ⟨p, hpublish, -⟩ := publish_of_take hlib' htake
          exact scan_of_unseen hfree hwell hmore hlist hsame
            (hunseen (s :: pre) lib post rfl hlib' s (by simp)) hpublish hscan
        · obtain rfl := takeAll_plain (fun x hx hx' => hlater ⟨x, hx, hx'⟩) hts
          exact hsame.scan hfree₁ hscan
      obtain ⟨ts'', text, hrest, hessence⟩ := ih hlists hone (fun pre lib post hsplit hlib' x hx =>
        hunseen (s :: pre) lib post (by rw [hsplit, List.cons_append]) hlib' x (List.mem_cons_of_mem _ hx)) hts
      have htake := @take_of_scan settings intermediate encoding v s t.scripts (by simpa using hlib) hrescan
      refine ⟨t :: ts'', text, ?_, by rw [List.map_cons, List.map_cons, hessence]⟩
      rw [takeAll, Acting.runFrom_bind_of_ok htake, Acting.runFrom_bind_of_ok hrest, ← heq]
      rfl

end

end Turn

end JavaStubs
