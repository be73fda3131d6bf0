import JavaStubs.Proofs.Build.Listed

/-! Which files a build hands to the compiler more than once. Paths are compared as they are spelled. -/
namespace JavaStubs

def FilePath.SpelledAlike (p q : FilePath) : Prop :=
  ∃ names, (∀ c ∈ names, EntryName c) ∧ (q = p.descend names ∨ p = q.descend names)

theorem FilePath.SpelledAlike.symm {p q : FilePath} (h : p.SpelledAlike q) : q.SpelledAlike p :=
  h.imp fun _ => .imp_right Or.symm

/-- Paths below directories that are spelled alike lead to one place only if they are the same. -/
theorem Disk.descend_inj {d : Disk} {p q : FilePath} {names names' : List String} (halike : p.SpelledAlike q)
    (hn : ∀ c ∈ names, EntryName c) (hn' : ∀ c ∈ names', EntryName c)
    (h : d.place (p.descend names) = d.place (q.descend names')) : p.descend names = q.descend names' := by
  have hon : ∀ {p q : FilePath} {names names' more : List String}, (∀ c ∈ names, EntryName c) →
      (∀ c ∈ names', EntryName c) → (∀ c ∈ more, EntryName c) → q = p.descend more →
      d.place (p.descend names) = d.place (q.descend names') → p.descend names = q.descend names' := by
    rintro p q names names' more hn hn' hmore rfl h
    rw [d.place_descend _ hn, d.place_descend _ hn', d.place_descend _ hmore, ← List.append_assoc,
      List.append_left_inj, ← List.reverse_append, List.reverse_inj] at h
    rw [h, FilePath.descend, FilePath.descend, FilePath.descend, List.append_assoc]
  obtain ⟨more, hmore, hq | hp⟩ := halike
  · exact hon hn hn' hmore hq h
  · exact (hon hn' hn hmore hp h.symm).symm

namespace BuildAction

section

variable {settings : Settings} {intermediate : FilePath} {encoding : String}
variable {root cwd : FilePath} {ds : List Declaration} {sets : List SourceSet} {b b' : Build} {r : Except Failure Outcome}

theorem descend_of_mem_files (hsets : SourceSet.normalize root cwd ds = .ok sets) (hran : b.compiler.ran = false)
    (hfiles : b.compiler.files = []) (hwell : b.world.disk.tree.WellFormed)
    (h : (compileSources settings sets intermediate encoding).runFrom b = (r, b')) :
    b'.compiler.files.Nodup ∧ ∀ p ∈ b'.compiler.files, ∃ s ∈ sets, ∃ names, (∀ c ∈ names, EntryName c) ∧
      p = (Turn.scanned (intermediate.absolute b.world.disk.cwd) s).descend names := by
  obtain ⟨pre, ts, w, hpre, hturns, hlisted, -⟩ :=
    files_of_compileSources (SourceSet.normalize_modes hsets) hran hfiles h
  refine ⟨hlisted ▸ nodup_eraseDups _, fun p hp => ?_⟩
  rw [hlisted, List.mem_eraseDups] at hp
  obtain ⟨s, hs, hp⟩ := Turn.descend_of_mem_paths hwell.allNamed hturns hp
  exact ⟨s, hpre.mem hs, hp⟩

/-- However a build with settled sets and a fresh compiler ends, the compiler got no path twice. It got two paths to one
file only as entries below directories that are not spelled alike. -/
theorem compileSources_distinct (hsets : SourceSet.normalize root cwd ds = .ok sets) (hran : b.compiler.ran = false)
    (hfiles : b.compiler.files = []) (hwell : b.world.disk.tree.WellFormed)
    (h : (compileSources settings sets intermediate encoding).runFrom b = (r, b')) :
    b'.compiler.files.Pairwise fun p q => p ≠ q ∧
      (b.world.disk.place p = b.world.disk.place q → ∃ s ∈ sets, ∃ t ∈ sets, ∃ names names',
        (∀ c ∈ names, EntryName c) ∧ (∀ c ∈ names', EntryName c) ∧
        p = (Turn.scanned (intermediate.absolute b.world.disk.cwd) s).descend names ∧
        q = (Turn.scanned (intermediate.absolute b.world.disk.cwd) t).descend names' ∧
        ¬(Turn.scanned (intermediate.absolute b.world.disk.cwd) s).SpelledAlike
          (Turn.scanned (intermediate.absolute b.world.disk.cwd) t)) := by
  obtain ⟨hnodup, hdescend⟩ := descend_of_mem_files hsets hran hfiles hwell h
  refine List.Pairwise.imp_of_mem (fun {p q} hp hq hne => ⟨hne, fun hplace => ?_⟩) hnodup
  obtain ⟨s, hs, names, hn, rfl⟩ := hdescend p hp
  obtain ⟨t, ht, names', hn', rfl⟩ := hdescend q hq
  exact ⟨s, hs, t, ht, names, names', hn, hn', rfl, rfl, fun halike => hne (Disk.descend_inj halike hn hn' hplace)⟩

end

/-- Whatever source sets are settled for a tree without links, a build hands no file over under two paths. -/
def HandsOverOnce : Prop :=
  ∀ settings intermediate encoding root cwd ds sets b r b', SourceSet.normalize root cwd ds = .ok sets →
    b.compiler.ran = false → b.compiler.files = [] → b.world.disk.tree.LinkFree → b.world.disk.tree.WellFormed →
    (compileSources settings sets intermediate encoding).runFrom b = (r, b') →
    (b'.compiler.files.map b.world.disk.place).Nodup

/-- A project with one script and an empty directory beside that of the script. -/
def respelledSample : Build where
  world :=
    { disk :=
        { tree :=
            { entries := [([], .dir .now), (["p"], .dir .now), (["lib", "p"], .dir .now), (["src", "p"], .dir .now),
                (["a.groovy", "src", "p"], .file [35, 10] .now .now)]
              nodup := by decide }
          cwd := ⟨.slash, ["p"]⟩ }
      moment := ⟨2024, 1, 2, 3, 4, 5, 0⟩ }
  compiler := { engine := .dry, target? := some ⟨.slash, ["p", "stubs"]⟩ }
  host := Project.host nestedSettings {}

/-- Two sets of one directory, which is once named by way of the other directory. -/
def respelledSets : List SourceSet :=
  [⟨⟨.slash, ["p", "src"]⟩, ["**"], [], none, none, .plain⟩,
    ⟨⟨.slash, ["p", "lib", "..", "src"]⟩, ["**"], [], none, none, .plain⟩]

def respelledFiles : List FilePath :=
  [⟨.slash, ["p", "src", "a.groovy"]⟩, ⟨.slash, ["p", "lib", "..", "src", "a.groovy"]⟩]

theorem files_of_respelledSample :
    ∃ r b', (compileSources nestedSettings respelledSets ⟨.slash, ["p", "out"]⟩ "utf-8").runFrom respelledSample =
        (r, b') ∧
      b'.compiler.files = respelledFiles := by
  have hfiles : ((compileSources nestedSettings respelledSets ⟨.slash, ["p", "out"]⟩ "utf-8").runFrom
      respelledSample).2.compiler.files = respelledFiles := by
    decide +kernel
  exact ⟨_, _, rfl, hfiles⟩

/-- The sample's one file is handed over twice, and that is due to the spelling of its two sets. -/
theorem respelled_of_respelledSample :
    SourceSet.normalize ⟨.slash, ["p"]⟩ ⟨.slash, ["p"]⟩ (respelledSets.map SourceSet.declaration) = .ok respelledSets ∧
      respelledSample.compiler.ran = false ∧ respelledSample.compiler.files = [] ∧
      respelledSample.world.disk.tree.WellFormed ∧
      ∃ r b', (compileSources nestedSettings respelledSets ⟨.slash, ["p", "out"]⟩ "utf-8").runFrom respelledSample =
          (r, b') ∧
        b'.compiler.files = respelledFiles ∧
        ∃ s ∈ respelledSets, ∃ t ∈ respelledSets,
          ¬(Turn.scanned ⟨.slash, ["p", "out"]⟩ s).SpelledAlike (Turn.scanned ⟨.slash, ["p", "out"]⟩ t) := by
  have hsets : SourceSet.normalize ⟨.slash, ["p"]⟩ ⟨.slash, ["p"]⟩ (respelledSets.map SourceSet.declaration) =
    .ok respelledSets := rfl
  have hwell : respelledSample.world.disk.tree.WellFormed := by decide +kernel
  obtain ⟨r, b', hrun, hfiles⟩ := files_of_respelledSample
  refine ⟨hsets, rfl, rfl, hwell, r, b', hrun, hfiles, ?_⟩
  have hdistinct := compileSources_distinct hsets rfl rfl hwell hrun
  rw [hfiles] at hdistinct
  obtain ⟨-, hsame⟩ := (List.pairwise_cons.1 hdistinct).1 ⟨.slash, ["p", "lib", "..", "src", "a.groovy"]⟩ (by simp)
  obtain ⟨s, hs, t, ht, _, _, -, -, -, -, hspelled⟩ := hsame rfl
  exact ⟨s, hs, t, ht, hspelled⟩

/-- A file may be handed over twice, by sets that name its directory in different ways. -/
theorem file_may_be_handed_over_twice : ¬HandsOverOnce := by
  intro h
  obtain ⟨r, b', hrun, hfiles⟩ := files_of_respelledSample
  have hnodup := h _ _ _ ⟨.slash, ["p"]⟩ ⟨.slash, ["p"]⟩ (respelledSets.map SourceSet.declaration) _ _ _ _ rfl rfl rfl
    (by decide +kernel) (by decide +kernel) hrun
  rw [hfiles] at hnodup
  revert hnodup
  decide

end BuildAction

end JavaStubs
