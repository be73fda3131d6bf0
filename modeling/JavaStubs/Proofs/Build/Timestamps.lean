import JavaStubs.Proofs.Build.Stages
import JavaStubs.Proofs.Disk.StubWalk

/-! The times of files after a build: the epoch for all files that real directories below the output directory lead
to, whoever wrote them. -/
namespace JavaStubs

open FileTree

def Entry.stamped (time : Stamp) : Entry → Entry
  | file data _ accessed => file data time accessed
  | e => e

theorem Entry.map_stamped_stamped (time : Stamp) (x : Option Entry) :
    (x.map (stamped time)).map (stamped time) = x.map (stamped time) := by
  rcases x with _ | e
  · rfl
  · cases e <;> rfl

/-- The trees before and after times were set back below a root: each file that real directories lead to has the epoch
as its time of modification, nothing else differs, and `n` is the number of those files. -/
structure FileTree.TimesReset (root : Loc) (n : Nat) (t t' : FileTree) : Prop where
  files : ∀ l data m a, RealFile t root l → t.get? l = some (.file data m a) →
    t'.get? l = some (.file data epoch a)
  elsewhere : ∀ l, ¬RealFile t root l → t'.get? l = t.get? l
  counted : ∃ ls : List Loc, ls.Nodup ∧ (∀ l, l ∈ ls ↔ RealFile t root l) ∧ n = ls.length

theorem Disk.setModified_eq {d d' : Disk} {p : FilePath} {l : Loc} {time : Stamp}
    (h : d.setModified p l time = .ok d') (l' : Loc) :
    d'.tree.get? l' = if l' = l then (d.tree.get? l').map (Entry.stamped time) else d.tree.get? l' := by
  unfold setModified at h
  split at h
  · cases h
  split at h
  · next data m a hl =>
    cases h
    rw [get?_insert]
    split
    · next hl' =>
      rw [hl', hl]
      rfl
    · rfl
  · cases h

namespace Action

variable {w w' : World} {p : FilePath} {n : Nat} {l : Loc}

/-- Setting times back does something to the files it is given and to no others, whether it fails or not. -/
theorem resetFiles_elsewhere {ms : List Disk.Met} (hl : l ∉ ms.map (·.loc)) :
    ((resetFiles ms).runFrom w).2.disk.tree.get? l = w.disk.tree.get? l := by
  induction ms generalizing w with
  | nil => rfl
  | cons m ms ih =>
    obtain ⟨hne, hrest⟩ : l ≠ m.loc ∧ l ∉ ms.map (·.loc) := by simpa using hl
    rw [resetFiles, Acting.runFrom_bind, runFrom_change]
    cases hset : w.disk.setModified m.path m.loc epoch with
    | error e => rfl
    | ok d =>
      have hone := Disk.setModified_eq hset l
      rw [if_neg hne] at hone
      exact (ih hrest).trans hone

theorem resetFiles_stamped {ms : List Disk.Met} (h : (resetFiles ms).runFrom w = (.ok (), w'))
    (hl : l ∈ ms.map (·.loc)) : w'.disk.tree.get? l = (w.disk.tree.get? l).map (Entry.stamped epoch) := by
  induction ms generalizing w with
  | nil => cases hl
  | cons m ms ih =>
    obtain ⟨_, w₁, hset, hrest⟩ := Acting.bind_ok h
    rw [runFrom_change] at hset
    cases hd : w.disk.setModified m.path m.loc epoch with
    | error e =>
      rw [hd] at hset
      cases hset
    | ok d =>
      rw [hd] at hset
      cases hset
      have hone := Disk.setModified_eq hd l
      by_cases hmem : l ∈ ms.map (·.loc)
      · -- a file that is met again is set to the same time again
        rw [ih hrest hmem]
        dsimp only
        rw [hone]
        split
        · exact Entry.map_stamped_stamped _ _
        · rfl
      · have heq : l = m.loc := by simpa [hmem] using hl
        have hlater := resetFiles_elsewhere (w := { w with disk := d }) hmem
        rw [hrest] at hlater
        rw [hlater, hone, if_pos heq]

/-- Setting times back below a path does nothing, or it sets those of the files that are met below a directory. -/
theorem resetTimes_cases (p : FilePath) (w : World) :
    ((resetTimes p).runFrom w).2 = w ∨
      w.disk.isDir? p = .ok true ∧
        ((resetTimes p).runFrom w).2 = ((resetFiles (w.disk.stubFiles p).items).runFrom w).2 := by
  unfold resetTimes
  rw [Acting.runFrom_bind, runFrom_look]
  cases hdir : w.disk.isDir? p with
  | error e => exact .inl rfl
  | ok isDir =>
    cases isDir with
    | false => exact .inl rfl
    | true =>
      right
      refine ⟨rfl, ?_⟩
      dsimp only [mapError_ok]
      rw [if_neg (by decide), Acting.runFrom_mapFailure, Acting.runFrom_bind_of_ok (runFrom_disk w), Acting.runFrom_bind]
      rcases (resetFiles (w.disk.stubFiles p).items).runFrom w with ⟨_ | _, w'⟩
      · rfl
      · dsimp only
        split <;> rfl

theorem resetTimes_elsewhere
    (hl : ∀ root m, w.disk.stat p = .ok (root, .dir m) → ¬RealFile w.disk.tree root l) :
    ((resetTimes p).runFrom w).2.disk.tree.get? l = w.disk.tree.get? l := by
  rcases resetTimes_cases p w with hsame | ⟨hdir, hsame⟩
  · rw [hsame]
  · obtain ⟨root, m, hs⟩ := Disk.stat_of_isDir? hdir
    rw [hsame]
    exact resetFiles_elsewhere fun hmet => hl root m hs (Disk.realFile_of_mem_stubFiles hs hmet)

theorem timesReset_of_resetTimes (h : (resetTimes p).runFrom w = (.ok n, w')) :
    ∃ root m, w.disk.stat p = .ok (root, .dir m) ∧ TimesReset root n w.disk.tree w'.disk.tree := by
  obtain ⟨hdir, hstop, rfl, hfiles⟩ := resetTimes_ok h
  obtain ⟨root, m, hs⟩ := Disk.stat_of_isDir? hdir
  obtain ⟨hnodup, hmem⟩ := Disk.stubFiles_complete hs hstop
  refine ⟨root, m, hs, ?_, ?_, _, hnodup, hmem, (List.length_map _).symm⟩
  · intro l data m a hreal hl
    rw [resetFiles_stamped hfiles ((hmem l).2 hreal), hl]
    rfl
  · intro l hreal
    have hsame := resetFiles_elsewhere (w := w) fun hl => hreal ((hmem l).1 hl)
    rwa [hfiles] at hsame

end Action

namespace BuildAction

variable {settings : Settings} {config : Config} {b b' : Build} {r : Report}

/-- A build that succeeds has set back the times of all files below the output directory as the compiler left it, and
has changed nothing else since. It reports how many files these are. -/
theorem generate_timesReset (h : (generate settings config).runFrom b = (.ok r, b')) :
    ∃ g handed compiled root m, (prepare settings config).runFrom b = (.ok (r.output, g), handed) ∧
      compile.runFrom handed = (.ok r.count, compiled) ∧ r.output = b.host.output ∧
      compiled.world.disk.stat r.output = .ok (root, .dir m) ∧
      FileTree.TimesReset root r.normalized compiled.world.disk.tree b'.world.disk.tree := by
  cases ends_generate h with
  | @done x handed count compiled _ _ _ _ hprepare hcompile hreset =>
    obtain ⟨-, -, -, -, houtput, -⟩ := prepare_ok hprepare
    obtain ⟨root, m, hs, hall⟩ := Action.timesReset_of_resetTimes hreset
    exact ⟨x.2, handed, compiled, root, m, hprepare, hcompile, houtput, hs, hall⟩

/-- A project without sources and a compiler that puts a file into a new directory of its own. -/
def nestingSample : Build where
  world :=
    { disk :=
        { tree :=
            { entries := [([], .dir .now), (["p"], .dir .now)]
              nodup := by decide }
          cwd := ⟨.slash, ["p"]⟩ }
      moment := ⟨2024, 1, 2, 3, 4, 5, 0⟩ }
  compiler := { engine := .builtin fun _ t => (.ok 5,
    (t.create ["q", "stubs", "p"] (.dir .now)).create ["A.java", "q", "stubs", "p"] (.file [35, 10] .now .now)) }
  host := { output := ⟨.slash, ["p", "stubs"]⟩ }

/-- The one file of the sample has the epoch as its time afterwards, whatever count the compiler gives. -/
theorem timesReset_of_nestingSample :
    ∃ r b' compiled root, (generate nestedSettings {}).runFrom nestingSample = (.ok r, b') ∧ r.normalized = 1 ∧
      FileTree.TimesReset root r.normalized compiled b'.world.disk.tree := by
  have hcounted : ((generate nestedSettings {}).runFrom nestingSample).1.toOption.map (·.normalized) = some 1 := by
    decide +kernel
  rcases hrun : (generate nestedSettings {}).runFrom nestingSample with ⟨_ | r, b'⟩
  · rw [hrun] at hcounted
    cases hcounted
  · rw [hrun] at hcounted
    obtain ⟨-, -, compiled, root, -, -, -, -, -, hreset⟩ := generate_timesReset hrun
    exact ⟨r, b', compiled.world.disk.tree, root, rfl, Option.some.inj hcounted, hreset⟩

end BuildAction

end JavaStubs
