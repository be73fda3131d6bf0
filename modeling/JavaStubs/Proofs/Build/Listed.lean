import JavaStubs.Proofs.Build.Books
import JavaStubs.Proofs.Library.Located
import JavaStubs.Proofs.Source.LeafPaths

/-! What the turns of source sets list, and when. -/
namespace JavaStubs

open FileTree

namespace Turn

variable {settings : Settings} {intermediate : FilePath} {encoding : String} {w w' : World}

def scanned (intermediate : FilePath) (s : SourceSet) : FilePath :=
  if s.isLibrary then intermediate else s.directory

theorem directory_of_take {s : SourceSet} {t : Turn}
    (h : (take settings intermediate encoding s).runFrom w = (.ok t, w')) :
    t.effective.directory = scanned (intermediate.absolute w.disk.cwd) s := by
  obtain ⟨hstand, -, -, -, hdir⟩ := take_ok h
  cases hlib : s.isLibrary with
  | true => rw [hdir hlib, scanned, if_pos hlib]
  | false =>
    rcases standIn_ok hstand with ⟨hlib', -⟩ | ⟨-, -, hx⟩
    · cases hlib.symm.trans hlib'
    · rw [(Prod.mk.inj hx).1, scanned, if_neg (by simp [hlib])]

theorem within_take_alters (settings : Settings) (intermediate : FilePath) (encoding : String) (s : SourceSet) :
    Action.Within (fun d d' => d.Changes (Alters fun _ => True) d') (take settings intermediate encoding s) := by
  refine .andThen ?_ fun _ => .andThen (.look _) fun _ => .pure _
  unfold standIn
  split
  · exact .andThen (Library.within_publish_alters settings s intermediate encoding) fun _ => .pure _
  · exact .pure _

theorem take_alters (settings : Settings) (intermediate : FilePath) (encoding : String) (s : SourceSet) (w : World) :
    w.disk.Changes (Alters fun _ => True) ((take settings intermediate encoding s).runFrom w).2.disk :=
  (within_take_alters settings intermediate encoding s w).disk

theorem takeAll_alters (settings : Settings) (intermediate : FilePath) (encoding : String) (sets : List SourceSet)
    (w : World) :
    w.disk.Changes (Alters fun _ => True) ((takeAll settings intermediate encoding sets).runFrom w).2.disk := by
  suffices h : Action.Within (fun d d' => d.Changes (Alters fun _ => True) d')
    (takeAll settings intermediate encoding sets) from (h w).disk
  induction sets with
  | nil => exact .pure _
  | cons s ss ih =>
    exact .andThen (within_take_alters settings intermediate encoding s) fun _ => .andThen ih fun _ => .pure _

/-- Without links, directories stay through all turns, and no link comes in. -/
theorem takeAll_kept {sets : List SourceSet} {ts : List Turn} (hfree : w.disk.tree.LinkFree)
    (h : (takeAll settings intermediate encoding sets).runFrom w = (.ok ts, w')) :
    w.disk.Changes Kept w'.disk ∧ w'.disk.tree.LinkFree := by
  have halters := takeAll_alters settings intermediate encoding sets w
  rw [h] at halters
  exact ⟨⟨halters.tree.kept hfree, halters.cwd, halters.rules⟩, halters.tree.linkFree hfree⟩

/-- A turn comes after those of the sets before, and before those of the sets after. -/
theorem split_of_mem_takeAll {sets : List SourceSet} {ts : List Turn} {t : Turn}
    (h : (takeAll settings intermediate encoding sets).runFrom w = (.ok ts, w')) (ht : t ∈ ts) :
    ∃ pre s post before after w₁ w₂, sets = pre ++ s :: post ∧
      (takeAll settings intermediate encoding pre).runFrom w = (.ok before, w₁) ∧
      (take settings intermediate encoding s).runFrom w₁ = (.ok t, w₂) ∧
      (takeAll settings intermediate encoding post).runFrom w₂ = (.ok after, w') := by
  induction sets generalizing w ts with
  | nil =>
    cases h
    cases ht
  | cons s ss ih =>
    obtain ⟨t₀, ts₀, w₀, hfirst, hrest, rfl⟩ := takeAll_cons_ok h
    rcases List.mem_cons.1 ht with rfl | ht
    · exact ⟨[], s, ss, [], ts₀, w, w₀, rfl, rfl, hfirst, hrest⟩
    · obtain ⟨pre, s', post, before, after, w₁, w₂, rfl, hbefore, htake, hafter⟩ := ih hrest ht
      refine ⟨s :: pre, s', post, t₀ :: before, after, w₁, w₂, rfl, ?_, htake, hafter⟩
      rw [takeAll, Acting.runFrom_bind_of_ok hfirst, Acting.runFrom_bind_of_ok hbefore]
      rfl

theorem mem_paths {ts : List Turn} {p : FilePath} : p ∈ paths ts ↔ ∃ t ∈ ts, ∃ x ∈ t.scripts, x.path = p := by
  simp [paths]

theorem descend_of_mem_paths {sets : List SourceSet} {ts : List Turn} (hnamed : w.disk.tree.Named)
    (h : (takeAll settings intermediate encoding sets).runFrom w = (.ok ts, w')) {p : FilePath} (hp : p ∈ paths ts) :
    ∃ s ∈ sets, ∃ names, (∀ c ∈ names, EntryName c) ∧
      p = (scanned (intermediate.absolute w.disk.cwd) s).descend names := by
  obtain ⟨t, ht, x, hx, rfl⟩ := mem_paths.1 hp
  obtain ⟨pre, s, post, before, after, w₁, w₂, rfl, hbefore, htake, -⟩ := split_of_mem_takeAll h ht
  have halters := takeAll_alters settings intermediate encoding pre w
  rw [hbefore] at halters
  have halters₂ := take_alters settings intermediate encoding s w₁
  rw [htake] at halters₂
  obtain ⟨-, hscan, -, -, -⟩ := take_ok htake
  obtain ⟨habs, l, m, -, hmem⟩ := Disk.scan_ok hscan
  obtain ⟨names, hleaf, -, rfl⟩ := (hmem x).1 hx
  refine ⟨s, by simp, names, hleaf.entryName (halters₂.tree.named (halters.tree.named hnamed)), ?_⟩
  rw [Disk.ofPath_descend habs, directory_of_take htake, halters.cwd]

end Turn

namespace BuildAction

variable {settings : Settings} {intermediate : FilePath} {encoding : String}

/-- However handing over ends, the compiler and the host got what the turns of the first sets list. -/
theorem files_of_addSets {b₀ b : Build} {g : Gathered} {paths roots : List FilePath} {sets : List SourceSet}
    (hmodes : ∀ s ∈ sets, s.mode ≠ .auto) (h : Booked b₀ b paths roots) (hg : g.files = paths.eraseDups)
    (hran : b₀.compiler.ran = false) :
    ∃ pre ts w, pre <+: sets ∧ (Turn.takeAll settings intermediate encoding pre).runFrom b.world = (.ok ts, w) ∧
      ((addSets settings intermediate encoding g sets).runFrom b).2.compiler.files =
        b₀.compiler.files ++ (paths ++ Turn.paths ts).eraseDups ∧
      ((addSets settings intermediate encoding g sets).runFrom b).2.host.forced =
        (paths ++ Turn.paths ts).foldl addNew b₀.host.forced := by
  have hnothing : b.compiler.files = b₀.compiler.files ++ (paths ++ Turn.paths []).eraseDups := by
    rw [h.compiler]
    simp [Turn.paths]
  have hforced : b.host.forced = (paths ++ Turn.paths []).foldl addNew b₀.host.forced := by
    rw [h.forced]
    simp [Turn.paths]
  induction sets generalizing b g paths roots with
  | nil => exact ⟨[], [], b.world, List.nil_prefix, rfl, hnothing, hforced⟩
  | cons s ss ih =>
    have hmode := hmodes s List.mem_cons_self
    rcases ht : (Turn.take settings intermediate encoding s).runFrom b.world with ⟨r, w₁⟩
    cases r with
    | error e =>
      obtain ⟨b', hrun, -, hcompiler, hhost⟩ := addSets_error g ss hmode ht
      rw [hrun]
      exact ⟨[], [], b.world, List.nil_prefix, rfl, (congrArg Compiler.files hcompiler).trans hnothing,
        hhost.trans hforced⟩
    | ok t =>
      rcases addSets_cons ss hmode h hg ht with ⟨g₁, b₁, text, hrun, hbooked, hfiles, -, -, hworld⟩ | ⟨hran', -⟩
      · obtain ⟨pre, ts, w, hpre, hturns, hend, hforcedEnd⟩ :=
          ih (fun x hx => hmodes x (List.mem_cons_of_mem _ hx)) hbooked hfiles
            (by rw [hbooked.compiler]; simp [Turn.paths]) (by rw [hbooked.forced]; simp [Turn.paths])
        -- what was logged in the turn does not change the turns to come
        have hsteady : (Turn.takeAll settings intermediate encoding pre).Steady := Turn.steady_takeAll pre
        obtain ⟨text', hsteady⟩ := hsteady b₁.world w₁.stderr
        have hsame : { b₁.world with stderr := w₁.stderr } = w₁ := by rw [hworld]
        rw [hsame, hturns] at hsteady
        refine ⟨s :: pre, t :: ts, { w with stderr := text' }, (List.prefix_cons_inj s).2 hpre, ?_, ?_, ?_⟩
        · rw [Turn.takeAll, Acting.runFrom_bind_of_ok ht, Acting.runFrom_bind_of_ok hsteady]
          rfl
        · rw [hrun, hend]
          simp [Turn.paths]
        · rw [hrun, hforcedEnd]
          simp [Turn.paths]
      · cases hran.symm.trans hran'

/-- Compiling takes no file away and adds none, and tells the host nothing, whether it fails or not. -/
theorem files_of_compile (b : Build) :
    (compile.runFrom b).2.compiler.files = b.compiler.files ∧ (compile.runFrom b).2.host = b.host := by
  unfold compile
  rw [Acting.runFrom_bind, Acting.runFrom_get]
  dsimp only
  split
  · exact ⟨rfl, rfl⟩
  · split
    · exact ⟨rfl, rfl⟩
    · rw [Acting.runFrom_bind, Acting.runFrom_set]
      dsimp only
      rw [runFrom_onWorld]
      exact ⟨rfl, rfl⟩

theorem handed_of_compileSources {sets : List SourceSet} {b b' : Build} {r : Except Failure Outcome}
    (h : (compileSources settings sets intermediate encoding).runFrom b = (r, b')) :
    b'.compiler.files = ((handOver settings sets intermediate encoding).runFrom b).2.compiler.files ∧
      b'.host = ((handOver settings sets intermediate encoding).runFrom b).2.host := by
  unfold compileSources at h
  rw [Acting.runFrom_bind] at h
  rcases hg : (handOver settings sets intermediate encoding).runFrom b with ⟨rg, handed⟩
  rw [hg] at h
  cases rg with
  | error e =>
    cases h
    exact ⟨rfl, rfl⟩
  | ok g =>
    dsimp only at h
    have hcompile := files_of_compile handed
    rw [Acting.runFrom_bind, Acting.runFrom_mapFailure] at h
    rcases hc : compile.runFrom handed with ⟨rc, compiled⟩
    rw [hc] at h hcompile
    cases rc with
    | error e =>
      cases h
      exact hcompile
    | ok count =>
      obtain ⟨text, hlog⟩ := Log.runFrom_write settings ⟨.info, "stubs", "compile", [("generated", .int count),
        ("files", .int g.files.length), ("message", .text (summary count))]⟩ compiled.world
      have hlogged := runFrom_onWorld (Log.write settings ⟨.info, "stubs", "compile", [("generated", .int count),
        ("files", .int g.files.length), ("message", .text (summary count))]⟩) compiled
      rw [hlog] at hlogged
      dsimp only [Except.mapError] at h
      rw [Acting.runFrom_bind_of_ok hlogged] at h
      cases h
      exact hcompile

/-- However a build with a fresh compiler ends, the compiler and the host got what the turns of the first sets list. -/
theorem files_of_compileSources {sets : List SourceSet} {b b' : Build} {r : Except Failure Outcome}
    (hmodes : ∀ s ∈ sets, s.mode ≠ .auto) (hran : b.compiler.ran = false) (hfiles : b.compiler.files = [])
    (h : (compileSources settings sets intermediate encoding).runFrom b = (r, b')) :
    ∃ pre ts w, pre <+: sets ∧ (Turn.takeAll settings intermediate encoding pre).runFrom b.world = (.ok ts, w) ∧
      b'.compiler.files = (Turn.paths ts).eraseDups ∧
      b'.host.forced = (Turn.paths ts).foldl addNew b.host.forced := by
  have hbegun := (Booked.begin b).addRoot b.world.disk.cwd b.host.output b.world
  obtain ⟨pre, ts, w, hpre, hturns, hend, hforced⟩ :=
    @files_of_addSets settings intermediate encoding _ _ {} _ _ sets hmodes hbegun rfl hran
  rw [hfiles, List.nil_append, List.nil_append] at hend
  rw [List.nil_append] at hforced
  have hhanded : (handOver settings sets intermediate encoding).runFrom b =
      (addSets settings intermediate encoding {} sets).runFrom
        { b with host := b.host.addRoot b.world.disk.cwd b.host.output } := rfl
  obtain ⟨hcompiler, hhost⟩ := handed_of_compileSources h
  rw [hhanded] at hcompiler hhost
  exact ⟨pre, ts, w, hpre, hturns, hcompiler.trans hend, (congrArg Host.forced hhost).trans hforced⟩

end BuildAction

end JavaStubs
