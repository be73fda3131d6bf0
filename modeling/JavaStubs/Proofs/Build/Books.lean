import JavaStubs.Build.Project
import JavaStubs.Proofs.Build.Turns
import JavaStubs.Proofs.Source.Settled

/-! Handing source sets to the compiler: compiler, host and the files gathered so far are kept in step, and they have
what the turns of the sets come to. -/
namespace JavaStubs

theorem eraseDups_concat {α : Type} [DecidableEq α] (xs : List α) (x : α) :
    (xs ++ [x]).eraseDups = addNew xs.eraseDups x := by
  rw [List.eraseDups_append, addNew, List.removeAll]
  by_cases hx : x ∈ xs <;> simp [hx, List.eraseDups_cons]

theorem foldl_addNew_eraseDups {α : Type} [DecidableEq α] (xs ys : List α) :
    ys.foldl addNew xs.eraseDups = (xs ++ ys).eraseDups := by
  induction ys generalizing xs with
  | nil => rw [List.append_nil, List.foldl_nil]
  | cons y ys ih => rw [List.foldl_cons, ← eraseDups_concat, ih, List.append_assoc, List.singleton_append]

theorem filter_foldl_addNew {α : Type} [DecidableEq α] (p : α → Bool) (before xs : List α) :
    (xs.foldl addNew before).filter p = (xs.filter p).foldl addNew (before.filter p) := by
  induction xs generalizing before with
  | nil => rfl
  | cons x xs ih =>
    rw [List.foldl_cons, ih]
    cases hx : p x with
    | true =>
      rw [List.filter_cons_of_pos hx, List.foldl_cons, addNew, addNew]
      by_cases hmem : x ∈ before <;> simp [hmem, hx]
    | false =>
      rw [List.filter_cons_of_neg (by simp [hx]), addNew]
      by_cases hmem : x ∈ before <;> simp [hmem, hx]

theorem filter_eraseDups {α : Type} [DecidableEq α] (p : α → Bool) (xs : List α) :
    xs.eraseDups.filter p = (xs.filter p).eraseDups := by
  have heq := filter_foldl_addNew p [] xs
  rwa [List.filter_nil, ← List.eraseDups_nil, foldl_addNew_eraseDups, foldl_addNew_eraseDups] at heq

theorem mem_addNew {α : Type} [DecidableEq α] {xs : List α} {x y : α} : y ∈ addNew xs x ↔ y ∈ xs ∨ y = x := by
  unfold addNew
  split
  · next h => exact ⟨.inl, fun hy => hy.elim id fun heq => heq ▸ h⟩
  · simp

theorem mem_foldl_addNew {α : Type} [DecidableEq α] {xs ys : List α} {y : α} :
    y ∈ ys.foldl addNew xs ↔ y ∈ xs ∨ y ∈ ys := by
  induction ys generalizing xs with
  | nil => simp
  | cons z zs ih => rw [List.foldl_cons, ih, mem_addNew, List.mem_cons, or_assoc]

theorem Compiler.add_of_ran {c : Compiler} (h : c.ran = true) (p : FilePath) : ∃ e, c.add p = .error e := by
  rw [Compiler.add, if_pos h]
  exact ⟨_, rfl⟩

theorem Compiler.add_of_not_ran {c : Compiler} (h : c.ran = false) (p : FilePath) :
    c.add p = .ok { c with files := c.files ++ [p] } := by
  rw [Compiler.add, h]
  rfl

namespace BuildAction

variable {settings : Settings} {intermediate : FilePath} {encoding : String}

theorem runFrom_onWorld (act : Action α) (b : Build) :
    (onWorld act).runFrom b = ((act.runFrom b.world).1, { b with world := (act.runFrom b.world).2 }) := rfl

theorem runFrom_addRoot (p : FilePath) (b : Build) :
    (addRoot p).runFrom b = (.ok (), { b with host := b.host.addRoot b.world.disk.cwd p }) := rfl

/-- The turn of a set as the host sees it: roots are added before and after what can fail. -/
theorem effectiveSet_eq {s : SourceSet} (hmode : s.mode ≠ .auto) (b : Build) :
    (effectiveSet settings intermediate encoding s).runFrom b =
      match (Turn.standIn settings intermediate encoding s).runFrom b.world with
      | (.error e, w) => (.error e, { b with world := w, host := b.host.addRoot b.world.disk.cwd s.directory })
      | (.ok x, w) => (.ok x, { b with
          world := w
          host :=
            if s.isLibrary then
              (b.host.addRoot b.world.disk.cwd s.directory).addRoot w.disk.cwd x.1.directory
            else b.host.addRoot b.world.disk.cwd s.directory }) := by
  unfold effectiveSet Turn.standIn
  rw [if_neg hmode]
  cases hlib : s.isLibrary with
  | true =>
    simp only [if_true]
    rw [Acting.runFrom_bind_of_ok (runFrom_addRoot _ b), Acting.runFrom_bind, runFrom_onWorld, Acting.runFrom_bind]
    dsimp only
    rcases (Library.publish settings s intermediate encoding).runFrom b.world with ⟨r, w⟩
    cases r <;> rfl
  | false => rfl

/-- The books of a build, begun in `b₀`, after some paths were handed over and some roots named. The compiler gets each
path once, and the host keeps paths and roots that it has not yet. -/
structure Booked (b₀ b : Build) (paths roots : List FilePath) : Prop where
  compiler : b.compiler = { b₀.compiler with files := b₀.compiler.files ++ paths.eraseDups }
  forced : b.host.forced = paths.foldl addNew b₀.host.forced
  roots : b.host.roots = roots.foldl addNew b₀.host.roots
  output : b.host.output = b₀.host.output

theorem Booked.begin (b : Build) : Booked b b [] [] where
  compiler := by rw [List.eraseDups_nil, List.append_nil]
  forced := rfl
  roots := rfl
  output := rfl

theorem Booked.addRoot {b₀ b : Build} {paths roots : List FilePath} (h : Booked b₀ b paths roots) (cwd p : FilePath)
    (w : World) : Booked b₀ { b with world := w, host := b.host.addRoot cwd p } paths (roots ++ [p.absolute cwd]) where
  compiler := h.compiler
  forced := h.forced
  roots := by
    rw [List.foldl_append, ← h.roots]
    rfl
  output := h.output

/-- A path that was handed over before changes no book. -/
theorem Booked.addKnown {b₀ b : Build} {paths roots : List FilePath} {p : FilePath} (h : Booked b₀ b paths roots)
    (hp : p ∈ paths) : Booked b₀ b (paths ++ [p]) roots where
  compiler := by rw [eraseDups_concat, addNew, if_pos (List.mem_eraseDups.2 hp), h.compiler]
  forced := by
    rw [List.foldl_append, List.foldl_cons, List.foldl_nil, addNew, if_pos (mem_foldl_addNew.2 (.inr hp)), h.forced]
  roots := h.roots
  output := h.output

/-- A path that was not handed over before goes to the compiler and to the host. -/
theorem Booked.addUnknown {b₀ b : Build} {paths roots : List FilePath} {p : FilePath} (h : Booked b₀ b paths roots)
    (hp : p ∉ paths) (habs : p.isAbsolute = true) (cwd : FilePath) (w : World) :
    Booked b₀ ⟨w, { b.compiler with files := b.compiler.files ++ [p] }, b.host.force cwd p⟩ (paths ++ [p]) roots where
  compiler := by
    rw [eraseDups_concat, addNew, if_neg (by simpa using hp), h.compiler, ← List.append_assoc]
  forced := by
    rw [List.foldl_append, ← h.forced, Host.force, FilePath.absolute_of_isAbsolute habs]
    rfl
  roots := h.roots
  output := h.output

theorem runFrom_onCompiler (f : Compiler → Except StubError Compiler) (b : Build) :
    (onCompiler f).runFrom b =
      match f b.compiler with
      | .ok c => (.ok (), { b with compiler := c })
      | .error e => (.error (.stub e), b) := by
  unfold onCompiler
  rw [Acting.runFrom_bind, Acting.runFrom_get]
  dsimp only
  cases f b.compiler <;> rfl

theorem runFrom_force (p : FilePath) (b : Build) :
    (force p).runFrom b = (.ok (), { b with host := b.host.force b.world.disk.cwd p }) := rfl

theorem addScripts_cons (settings : Settings) {b₀ b : Build} {paths roots : List FilePath} {s : Script}
    (ss : List Script) (h : Booked b₀ b paths roots) (habs : s.path.isAbsolute = true) :
    (∃ b' text, (addScripts settings paths.eraseDups (s :: ss)).runFrom b =
        (addScripts settings (paths ++ [s.path]).eraseDups ss).runFrom b' ∧
      Booked b₀ b' (paths ++ [s.path]) roots ∧ b'.world = { b.world with stderr := text }) ∨
    (b₀.compiler.ran = true ∧
      ∃ e b', (addScripts settings paths.eraseDups (s :: ss)).runFrom b = (.error e, b')) := by
  rw [addScripts]
  by_cases hmem : s.path ∈ paths
  · have hsame : (paths ++ [s.path]).eraseDups = paths.eraseDups := by
      rw [eraseDups_concat, addNew, if_pos (List.mem_eraseDups.2 hmem)]
    rw [if_pos (by simpa using hmem), hsame]
    exact .inl ⟨b, b.world.stderr, rfl, h.addKnown hmem, rfl⟩
  · have hnew : (paths ++ [s.path]).eraseDups = paths.eraseDups ++ [s.path] := by
      rw [eraseDups_concat, addNew, if_neg (by simpa using hmem)]
    obtain ⟨text, hlog⟩ := Log.runFrom_write settings ⟨.debug, "stubs", "add", [("path", .text s.path.text)]⟩ b.world
    have hlogged : (onWorld (Log.write settings ⟨.debug, "stubs", "add", [("path", .text s.path.text)]⟩)).runFrom b =
        (.ok (), { b with world := { b.world with stderr := text } }) := by
      rw [runFrom_onWorld, hlog]
    rw [if_neg (by simpa using hmem), Acting.runFrom_bind_of_ok hlogged, Acting.runFrom_bind, runFrom_onCompiler, hnew]
    dsimp only
    cases hran : b.compiler.ran with
    | true =>
      obtain ⟨e, hadd⟩ := Compiler.add_of_ran hran s.path
      rw [hadd]
      rw [h.compiler] at hran
      exact .inr ⟨hran, _, _, rfl⟩
    | false =>
      rw [Compiler.add_of_not_ran hran]
      exact .inl ⟨_, text, Acting.runFrom_bind_of_ok (runFrom_force _ _), h.addUnknown hmem habs _ _, rfl⟩

theorem addScripts_spec (settings : Settings) {b₀ b : Build} {paths roots : List FilePath} {scripts : List Script}
    (h : Booked b₀ b paths roots) (habs : ∀ s ∈ scripts, s.path.isAbsolute = true) :
    (∃ b' text, (addScripts settings paths.eraseDups scripts).runFrom b =
        (.ok (paths ++ scripts.map (·.path)).eraseDups, b') ∧
      Booked b₀ b' (paths ++ scripts.map (·.path)) roots ∧ b'.world = { b.world with stderr := text }) ∨
    (b₀.compiler.ran = true ∧
      ∃ e b', (addScripts settings paths.eraseDups scripts).runFrom b = (.error e, b')) := by
  induction scripts generalizing b paths with
  | nil => exact .inl ⟨b, b.world.stderr, by rw [List.map_nil, List.append_nil]; rfl, by simpa using h, rfl⟩
  | cons s ss ih =>
    have hsplit : paths ++ (s :: ss).map (·.path) = (paths ++ [s.path]) ++ ss.map (·.path) := by simp
    rcases addScripts_cons settings ss h (habs s List.mem_cons_self) with
      ⟨b₁, text₁, hrun, hbooked, hworld⟩ | hstopped
    · rw [hrun, hsplit]
      rcases ih hbooked fun x hx => habs x (List.mem_cons_of_mem _ hx) with
        ⟨b', text, hrest, hbooked', hworld'⟩ | hstopped
      · exact .inl ⟨b', text, hrest, hbooked', by rw [hworld', hworld]⟩
      · exact .inr hstopped
    · exact .inr hstopped

theorem effectiveSet_ok {b₀ b : Build} {paths roots : List FilePath} {s : SourceSet} {t : Turn} {w : World}
    (h : Booked b₀ b paths roots) (hmode : s.mode ≠ .auto)
    (ht : (Turn.take settings intermediate encoding s).runFrom b.world = (.ok t, w)) :
    ∃ b', (effectiveSet settings intermediate encoding s).runFrom b = (.ok (t.effective, t.published?), b') ∧
      b'.world = w ∧ Booked b₀ b' paths (roots ++ Turn.roots (intermediate.absolute b.world.disk.cwd) [s]) := by
  obtain ⟨hstand, hscan, hcwd, habs, hdir⟩ := Turn.take_ok ht
  have hrun : (effectiveSet settings intermediate encoding s).runFrom b = _ := effectiveSet_eq hmode b
  rw [hstand] at hrun
  refine ⟨_, hrun, rfl, ?_⟩
  have hfirst := h.addRoot b.world.disk.cwd s.directory w
  rw [FilePath.absolute_of_isAbsolute habs] at hfirst
  cases hlib : s.isLibrary with
  | false =>
    simpa [Turn.roots, hlib] using hfirst
  | true =>
    have hsecond := hfirst.addRoot w.disk.cwd t.effective.directory w
    rw [FilePath.absolute_of_isAbsolute (Disk.scan_ok hscan).1, hdir hlib] at hsecond
    simpa [Turn.roots, hlib, hdir hlib] using hsecond

theorem runFrom_look (f : Disk → Except Failure α) (b : Build) : (look f).runFrom b = (f b.world.disk, b) := rfl

theorem addSets_error {b : Build} (g : Gathered) {s : SourceSet} (ss : List SourceSet) {e : Failure} {w : World}
    (hmode : s.mode ≠ .auto) (ht : (Turn.take settings intermediate encoding s).runFrom b.world = (.error e, w)) :
    ∃ b', (addSets settings intermediate encoding g (s :: ss)).runFrom b = (.error e, b') ∧ b'.world = w ∧
      b'.compiler = b.compiler ∧ b'.host.forced = b.host.forced := by
  have hrun : (effectiveSet settings intermediate encoding s).runFrom b = _ := effectiveSet_eq hmode b
  rw [addSets]
  rcases Acting.bind_error ht with hstand | ⟨⟨effective, published?⟩, w₁, hstand, hlook⟩
  · rw [hstand] at hrun
    exact ⟨_, Acting.runFrom_bind_of_error hrun, rfl, rfl, rfl⟩
  · rw [hstand] at hrun
    have hscan : w₁.disk.scan effective = .error e ∧ w₁ = w := by
      rcases Acting.bind_error hlook with hscan | ⟨scripts, w₂, -, hpure⟩
      · exact Prod.mk.inj hscan
      · cases hpure
    obtain ⟨hscan, rfl⟩ := hscan
    rw [Acting.runFrom_bind_of_ok hrun]
    dsimp only
    rw [Acting.runFrom_bind, runFrom_look]
    dsimp only
    rw [hscan]
    exact ⟨_, rfl, rfl, rfl, by dsimp only; split <;> rfl⟩

/-- After the turn of a set, what it found is in the books, and handing over goes on. -/
theorem addSets_cons {b₀ b : Build} {g : Gathered} {paths roots : List FilePath} {s : SourceSet} (ss : List SourceSet)
    {t : Turn} {w : World} (hmode : s.mode ≠ .auto) (h : Booked b₀ b paths roots) (hg : g.files = paths.eraseDups)
    (ht : (Turn.take settings intermediate encoding s).runFrom b.world = (.ok t, w)) :
    (∃ g' b' text, (addSets settings intermediate encoding g (s :: ss)).runFrom b =
          (addSets settings intermediate encoding g' ss).runFrom b' ∧
        Booked b₀ b' (paths ++ t.scripts.map (·.path))
          (roots ++ Turn.roots (intermediate.absolute b.world.disk.cwd) [s]) ∧
        g'.files = (paths ++ t.scripts.map (·.path)).eraseDups ∧ g'.sourceSets = g.sourceSets ++ [t.effective] ∧
        (g'.library? = t.published?.orElse fun _ => g.library?) ∧ b'.world = { w with stderr := text }) ∨
      (b₀.compiler.ran = true ∧
        ∃ e b', (addSets settings intermediate encoding g (s :: ss)).runFrom b = (.error e, b')) := by
  obtain ⟨b₁, heffective, rfl, hbooked⟩ := effectiveSet_ok h hmode ht
  obtain ⟨-, hscan, -, -, -⟩ := Turn.take_ok ht
  have hlook : (look fun d => d.scan t.effective).runFrom b₁ = (.ok t.scripts, b₁) := by
    rw [runFrom_look, hscan]
  rw [addSets, Acting.runFrom_bind_of_ok heffective, Acting.runFrom_bind_of_ok hlook, hg]
  rcases addScripts_spec settings hbooked fun x hx => Disk.isAbsolute_of_mem_scan hscan hx with
    ⟨b₂, text, hadded, hbooked₂, hworld⟩ | ⟨hran, e, b', hadded⟩
  · exact .inl ⟨_, b₂, text, Acting.runFrom_bind_of_ok hadded, hbooked₂, rfl, rfl, rfl, hworld⟩
  · exact .inr ⟨hran, e, b', Acting.runFrom_bind_of_error hadded⟩

variable (settings intermediate encoding) in
/-- Handing over sets goes as their turns go: the books have what the turns found, or it stops at the turn that fails.
A compiler that ran already may stop it at any script. -/
theorem addSets_spec {b₀ b : Build} {g : Gathered} {paths roots : List FilePath} {sets : List SourceSet}
    (hmodes : ∀ s ∈ sets, s.mode ≠ .auto) (h : Booked b₀ b paths roots) (hg : g.files = paths.eraseDups) :
    (∃ ts w g' b' text, (Turn.takeAll settings intermediate encoding sets).runFrom b.world = (.ok ts, w) ∧
        (addSets settings intermediate encoding g sets).runFrom b = (.ok g', b') ∧
        Booked b₀ b' (paths ++ Turn.paths ts) (roots ++ Turn.roots (intermediate.absolute b.world.disk.cwd) sets) ∧
        g'.files = (paths ++ Turn.paths ts).eraseDups ∧ g'.sourceSets = g.sourceSets ++ ts.map (·.effective) ∧
        b'.world = { w with stderr := text }) ∨
      (∃ e w b' text files, (Turn.takeAll settings intermediate encoding sets).runFrom b.world = (.error e, w) ∧
        (addSets settings intermediate encoding g sets).runFrom b = (.error e, b') ∧
        b'.compiler = { b₀.compiler with files } ∧ b'.world = { w with stderr := text }) ∨
      (b₀.compiler.ran = true ∧
        ∃ e b', (addSets settings intermediate encoding g sets).runFrom b = (.error e, b')) := by
  induction sets generalizing b g paths roots with
  | nil =>
    refine .inl ⟨[], b.world, g, b, b.world.stderr, rfl, rfl, ?_, ?_, ?_, rfl⟩
    · simpa [Turn.paths, Turn.roots] using h
    · simpa [Turn.paths] using hg
    · simp
  | cons s ss ih =>
    have hmode := hmodes s List.mem_cons_self
    rw [Turn.takeAll]
    rcases ht : (Turn.take settings intermediate encoding s).runFrom b.world with ⟨r, w₁⟩
    cases r with
    | error e =>
      obtain ⟨b', hrun, hworld, hcompiler, -⟩ := addSets_error g ss hmode ht
      exact .inr (.inl ⟨e, w₁, b', w₁.stderr, _, Acting.runFrom_bind_of_error ht, hrun,
        hcompiler.trans h.compiler, hworld⟩)
    | ok t =>
      obtain ⟨-, -, hcwd, -, -⟩ := Turn.take_ok ht
      rcases addSets_cons ss hmode h hg ht with ⟨g₁, b₁, text, hrun, hbooked, hfiles, hsets, -, hworld⟩ | hstopped
      · -- what was logged in the turn does not change the turns to come
        have hsteady : (Turn.takeAll settings intermediate encoding ss).Steady := Turn.steady_takeAll ss
        obtain ⟨text₁, hsteady⟩ := hsteady w₁ text
        rcases hrest : (Turn.takeAll settings intermediate encoding ss).runFrom w₁ with ⟨r, w⟩
        rw [hrest] at hsteady
        have htail := ih (fun x hx => hmodes x (List.mem_cons_of_mem _ hx)) hbooked hfiles
        rw [hworld] at htail
        rw [hrun]
        rcases htail with ⟨ts, w₂, g', b', text₂, hturns, hrun', hbooked', hfiles', hsets', hworld'⟩ |
          ⟨e, w₂, b', text₂, files, hturns, hrun', hcompiler, hworld'⟩ | hstopped
        · obtain ⟨rfl, rfl⟩ := Prod.mk.inj (hsteady.symm.trans hturns)
          have hpaths : paths ++ t.scripts.map (·.path) ++ Turn.paths ts = paths ++ Turn.paths (t :: ts) := by
            simp [Turn.paths]
          have hroots : roots ++ Turn.roots (intermediate.absolute b.world.disk.cwd) [s] ++
              Turn.roots (intermediate.absolute b.world.disk.cwd) ss =
              roots ++ Turn.roots (intermediate.absolute b.world.disk.cwd) (s :: ss) := by
            simp [Turn.roots]
          refine .inl ⟨t :: ts, w, g', b', text₂, ?_, hrun', ?_, ?_, ?_, hworld'⟩
          · rw [Acting.runFrom_bind_of_ok ht, Acting.runFrom_bind_of_ok hrest]
            rfl
          · rw [← hpaths, ← hroots, ← hcwd]
            rw [← hcwd] at hbooked'
            exact hbooked'
          · rw [hfiles', hpaths]
          · rw [hsets', hsets, List.map_cons, List.append_assoc]
            rfl
        · obtain ⟨rfl, rfl⟩ := Prod.mk.inj (hsteady.symm.trans hturns)
          refine .inr (.inl ⟨e, w, b', text₂, files, ?_, hrun', hcompiler, hworld'⟩)
          rw [Acting.runFrom_bind_of_ok ht, Acting.runFrom_bind_of_error hrest]
        · exact .inr (.inr hstopped)
      · exact .inr (.inr hstopped)

theorem request_files {c : Compiler} {r : Request} (h : c.request = .ok r) : r.files = c.files := by
  unfold Compiler.request at h
  split at h
  · cases h
  · cases h
    rfl

theorem compile_ok {b b' : Build} {count : Int} (h : compile.runFrom b = (.ok count, b')) :
    b.compiler.ran = false ∧ ∃ r, b.compiler.request = .ok r ∧ b'.host = b.host ∧
      b'.compiler = { b.compiler with
        ran := true, noted? := if b.compiler.engine.notes then some r else b.compiler.noted? } ∧
      (b.compiler.engine.generate r).runFrom b.world = (.ok count, b'.world) := by
  unfold compile at h
  rw [Acting.runFrom_bind, Acting.runFrom_get] at h
  dsimp only at h
  cases hran : b.compiler.ran with
  | true =>
    simp only [hran] at h
    cases h
  | false =>
    simp only [hran] at h
    rw [if_neg Bool.false_ne_true] at h
    cases hreq : b.compiler.request with
    | error e =>
      rw [hreq] at h
      cases h
    | ok r =>
      rw [hreq] at h
      dsimp only at h
      rw [Acting.runFrom_bind, Acting.runFrom_set] at h
      dsimp only at h
      rw [runFrom_onWorld] at h
      obtain ⟨hcount, rfl⟩ := Prod.mk.inj h
      exact ⟨rfl, r, rfl, rfl, rfl, Prod.ext hcount rfl⟩

/-- A run that ends well hands over the sets, compiles what was gathered, and logs. -/
theorem compileSources_ok {sets : List SourceSet} {b b' : Build} {outcome : Outcome}
    (h : (compileSources settings sets intermediate encoding).runFrom b = (.ok outcome, b')) :
    ∃ g handed compiled text, (handOver settings sets intermediate encoding).runFrom b = (.ok g, handed) ∧
      compile.runFrom handed = (.ok outcome.count, compiled) ∧ outcome.files = g.files ∧
      outcome.sourceSets = g.sourceSets ∧ b' = { compiled with world := { compiled.world with stderr := text } } := by
  obtain ⟨g, handed, hhanded, h⟩ := Acting.bind_ok h
  obtain ⟨count, compiled, hcompiled, h⟩ := Acting.bind_ok h
  obtain ⟨_, logged, hlogged, h⟩ := Acting.bind_ok h
  cases h
  obtain ⟨text, hlog⟩ := Log.runFrom_write settings ⟨.info, "stubs", "compile", [("generated", .int count),
    ("files", .int g.files.length), ("message", .text (summary count))]⟩ compiled.world
  rw [runFrom_onWorld, hlog] at hlogged
  cases hlogged
  refine ⟨g, handed, compiled, text, hhanded, ?_, rfl, rfl, rfl⟩
  rw [Acting.runFrom_mapFailure] at hcompiled
  rcases hrun : compile.runFrom handed with ⟨r, b₁⟩
  rw [hrun] at hcompiled
  cases r with
  | error e => cases hcompiled
  | ok n =>
    cases hcompiled
    rfl

variable (settings intermediate encoding) in
/-- Handing over goes as the turns of the sets go, from any state of the books. -/
theorem handOver_spec {sets : List SourceSet} (b : Build) (hmodes : ∀ s ∈ sets, s.mode ≠ .auto) :
    (∃ ts w g handed text, (Turn.takeAll settings intermediate encoding sets).runFrom b.world = (.ok ts, w) ∧
        (handOver settings sets intermediate encoding).runFrom b = (.ok g, handed) ∧
        Booked b handed (Turn.paths ts) (b.host.output.absolute b.world.disk.cwd ::
          Turn.roots (intermediate.absolute b.world.disk.cwd) sets) ∧
        g.files = (Turn.paths ts).eraseDups ∧ g.sourceSets = ts.map (·.effective) ∧
        handed.world = { w with stderr := text }) ∨
      (∃ e w b' text files, (Turn.takeAll settings intermediate encoding sets).runFrom b.world = (.error e, w) ∧
        (handOver settings sets intermediate encoding).runFrom b = (.error e, b') ∧
        b'.compiler = { b.compiler with files } ∧ b'.world = { w with stderr := text }) ∨
      (b.compiler.ran = true ∧ ∃ e b', (handOver settings sets intermediate encoding).runFrom b = (.error e, b')) := by
  have hrun : (handOver settings sets intermediate encoding).runFrom b =
      (addSets settings intermediate encoding {} sets).runFrom
        { b with host := b.host.addRoot b.world.disk.cwd b.host.output } := by
    unfold handOver
    rw [Acting.runFrom_bind, Acting.runFrom_get]
    dsimp only
    rw [Acting.runFrom_bind_of_ok (runFrom_addRoot _ b)]
  have hbegun := (Booked.begin b).addRoot b.world.disk.cwd b.host.output b.world
  have hspec := addSets_spec settings intermediate encoding (g := {}) hmodes hbegun rfl
  rw [hrun]
  simpa only [List.nil_append, List.singleton_append] using hspec

/-- If all turns succeed, so does handing over, and the compiler gets what they found. -/
theorem handOver_of_takeAll {sets : List SourceSet} {b : Build} {ts : List Turn} {w : World}
    (hmodes : ∀ s ∈ sets, s.mode ≠ .auto) (hran : b.compiler.ran = false)
    (h : (Turn.takeAll settings intermediate encoding sets).runFrom b.world = (.ok ts, w)) :
    ∃ g handed, (handOver settings sets intermediate encoding).runFrom b = (.ok g, handed) ∧
      handed.compiler.files = b.compiler.files ++ (Turn.paths ts).eraseDups ∧ handed.world.disk = w.disk := by
  rcases handOver_spec settings intermediate encoding b hmodes with
    ⟨ts', w', g, handed, text, hturns, hhanded, hbooked, -, -, hworld⟩ | ⟨e, w', b', _, _, hturns, -⟩ | ⟨hran', -⟩
  · cases h.symm.trans hturns
    exact ⟨g, handed, hhanded, by rw [hbooked.compiler], by rw [hworld]⟩
  · cases h.symm.trans hturns
  · cases hran.symm.trans hran'

/-- After a build, its outcome, its compiler with the request, its host, and the state file written from there have
the given files, and the host has the given roots. -/
structure BooksAgree (settings : Settings) (outcome : Outcome) (b : Build) (files roots : List FilePath) : Prop where
  outcome : outcome.files = files
  compiler : b.compiler.files = files
  request : ∃ r, b.compiler.request = .ok r ∧ r.files = files
  forced : b.host.forced = files
  roots : b.host.roots = roots
  state : (Project.stateValue settings b.host).field? "force_compile" = some (.texts (files.map FilePath.text))
  written : ∀ q w, (Project.writeState settings b.host).runFrom b.world = (.ok q, w) →
    ∃ data, w.disk.read (Project.statePath settings) = .ok data ∧
      Charset.encodeAs "utf-8" ((Project.stateValue settings b.host).json .indented ++ "\n") = .ok data

/-- A build from `b` to `b'` is a hand-over that leaves the compiler as it is but for its files, one call of the
compiler, and a line of log. -/
def CompiledOnce (settings : Settings) (sets : List SourceSet) (intermediate : FilePath) (encoding : String)
    (b b' : Build) (outcome : Outcome) : Prop :=
  ∃ g handed compiled text, (handOver settings sets intermediate encoding).runFrom b = (.ok g, handed) ∧
    handed.compiler = { b.compiler with files := outcome.files } ∧
    compile.runFrom handed = (.ok outcome.count, compiled) ∧ compiled.compiler.ran = true ∧
    b' = { compiled with world := { compiled.world with stderr := text } }

theorem written_of_writeState {host : Host} {w w' : World} {q : FilePath}
    (h : (Project.writeState settings host).runFrom w = (.ok q, w')) :
    ∃ data, w'.disk.read (Project.statePath settings) = .ok data ∧
      Charset.encodeAs "utf-8" ((Project.stateValue settings host).json .indented ++ "\n") = .ok data := by
  obtain ⟨changed, w₁, hwrite, hpure⟩ := Acting.bind_ok h
  cases hpure
  rcases Action.runFrom_writeText (Project.statePath settings)
    ((Project.stateValue settings host).json .indented ++ "\n") "utf-8" w with
    ⟨_, data, l, d, hr, hdata, -, m, a, hs⟩ | ⟨e, d, hr, -⟩
  · cases hr.symm.trans hwrite
    exact ⟨data, Disk.read_of_stat hs, hdata⟩
  · cases hr.symm.trans hwrite

variable (settings intermediate encoding) in
/-- A settled build with a fresh compiler and a fresh host goes as the turns of its sets go. If all of them succeed and
so does the build, the compiler was called once, and all books have every script of the turns once, in order; the roots
are the output directory and what the sets stand for. If a turn fails, the build ends there, before the compiler is
called. -/
theorem compileSources_books {root cwd : FilePath} {ds : List Declaration} {sets : List SourceSet} {config : Config}
    {b : Build} (hsets : SourceSet.normalize root cwd ds = .ok sets) (hran : b.compiler.ran = false)
    (hfiles : b.compiler.files = []) (hhost : b.host = Project.host settings config) :
    (∃ ts w, (Turn.takeAll settings intermediate encoding sets).runFrom b.world = (.ok ts, w) ∧
        ∀ outcome b', (compileSources settings sets intermediate encoding).runFrom b = (.ok outcome, b') →
          outcome.sourceSets = ts.map (·.effective) ∧
          BooksAgree settings outcome b' (Turn.paths ts).eraseDups
            (b.host.output.absolute b.world.disk.cwd ::
              Turn.roots (intermediate.absolute b.world.disk.cwd) sets).eraseDups ∧
          CompiledOnce settings sets intermediate encoding b b' outcome) ∨
      ∃ e w b' text files, (Turn.takeAll settings intermediate encoding sets).runFrom b.world = (.error e, w) ∧
        (handOver settings sets intermediate encoding).runFrom b = (.error e, b') ∧
        (compileSources settings sets intermediate encoding).runFrom b = (.error e, b') ∧
        b'.compiler = { b.compiler with files } ∧ b'.compiler.ran = false ∧ b'.world = { w with stderr := text } := by
  rcases handOver_spec settings intermediate encoding b (SourceSet.normalize_modes hsets) with
    ⟨ts, w, g, handed, text, hturns, hhanded, hbooked, hgfiles, hgsets, hworld⟩ |
    ⟨e, w, b', text, files, hturns, hhanded, hcompiler, hworld⟩ | ⟨hran', -⟩
  · refine .inl ⟨ts, w, hturns, fun outcome b' h => ?_⟩
    obtain ⟨g', handed', compiled, text', hhanded', hcompiled, hofiles, hosets, rfl⟩ := compileSources_ok h
    cases hhanded.symm.trans hhanded'
    obtain ⟨-, r, hreq, hhost', hcompiler, -⟩ := compile_ok hcompiled
    -- a fresh host and a fresh compiler have nothing before the files of the turns
    have hhanded : handed.compiler = { b.compiler with files := (Turn.paths ts).eraseDups } := by
      rw [hbooked.compiler, hfiles, List.nil_append]
    have hforced : compiled.host.forced = (Turn.paths ts).eraseDups := by
      rw [hhost', hbooked.forced, hhost]
      exact foldl_addNew_eraseDups [] _
    have hroots : compiled.host.roots = (b.host.output.absolute b.world.disk.cwd ::
        Turn.roots (intermediate.absolute b.world.disk.cwd) sets).eraseDups := by
      rw [hhost', hbooked.roots, hhost]
      exact foldl_addNew_eraseDups [] _
    have hcfiles : compiled.compiler.files = (Turn.paths ts).eraseDups := by rw [hcompiler, hhanded]
    have hrequest : ∃ r, compiled.compiler.request = .ok r ∧ r.files = (Turn.paths ts).eraseDups := by
      refine ⟨r, ?_, by rw [request_files hreq, hhanded]⟩
      rw [hcompiler]
      exact hreq
    refine ⟨hosets.trans hgsets, ⟨hofiles.trans hgfiles, hcfiles, hrequest, hforced, hroots, ?_, ?_⟩, ?_⟩
    · rw [← hforced]
      rfl
    · exact fun q w' => written_of_writeState
    · refine ⟨g, handed, compiled, text', hhanded', ?_, hcompiled, by rw [hcompiler], rfl⟩
      rw [hhanded, hofiles, hgfiles]
  · refine .inr ⟨e, w, b', text, files, hturns, hhanded, Acting.runFrom_bind_of_error hhanded, hcompiler, ?_, hworld⟩
    rw [hcompiler]
    exact hran
  · cases hran.symm.trans hran'

def nestedSettings : Settings :=
  { runId := "r", root := ⟨.slash, ["p"]⟩, quiet := true }

/-- A project whose one script is in two source sets, one inside the other. -/
def nestedSample : Build where
  world :=
    { disk :=
        { tree :=
            { entries := [([], .dir .now), (["p"], .dir .now), (["src", "p"], .dir .now),
                (["sub", "src", "p"], .dir .now), (["a.groovy", "sub", "src", "p"], .file [35, 10] .now .now)]
              nodup := by decide }
          cwd := ⟨.slash, ["p"]⟩ }
      moment := ⟨2024, 1, 2, 3, 4, 5, 0⟩ }
  compiler := { engine := .dry, target? := some ⟨.slash, ["p", "stubs"]⟩ }
  host := Project.host nestedSettings {}

def nestedSets : List SourceSet :=
  [⟨⟨.slash, ["p", "src"]⟩, ["**"], [], none, none, .plain⟩, ⟨⟨.slash, ["p", "src", "sub"]⟩, ["**"], [], none, none, .plain⟩]

/-- The books of the sample agree, and its roots are the output directory and both sets. -/
theorem books_of_nestedSample :
    SourceSet.normalize ⟨.slash, ["p"]⟩ ⟨.slash, ["p"]⟩ (nestedSets.map SourceSet.declaration) = .ok nestedSets ∧
      nestedSample.compiler.ran = false ∧ nestedSample.compiler.files = [] ∧
      nestedSample.host = Project.host nestedSettings {} ∧
      ∃ ts outcome b', (compileSources nestedSettings nestedSets ⟨.slash, ["p", "out"]⟩ "utf-8").runFrom nestedSample =
          (.ok outcome, b') ∧
        BooksAgree nestedSettings outcome b' (Turn.paths ts).eraseDups
          [nestedSample.host.output, ⟨.slash, ["p", "src"]⟩, ⟨.slash, ["p", "src", "sub"]⟩] := by
  have hsets : SourceSet.normalize ⟨.slash, ["p"]⟩ ⟨.slash, ["p"]⟩ (nestedSets.map SourceSet.declaration) =
    .ok nestedSets := rfl
  have hhost : nestedSample.host = Project.host nestedSettings {} := rfl
  refine ⟨hsets, rfl, rfl, hhost, ?_⟩
  have hok : ((compileSources nestedSettings nestedSets ⟨.slash, ["p", "out"]⟩ "utf-8").runFrom nestedSample).1.isOk =
      true := by
    decide +kernel
  have hroots : (nestedSample.host.output.absolute nestedSample.world.disk.cwd ::
      Turn.roots (FilePath.absolute ⟨.slash, ["p", "out"]⟩ nestedSample.world.disk.cwd) nestedSets).eraseDups =
      [nestedSample.host.output, ⟨.slash, ["p", "src"]⟩, ⟨.slash, ["p", "src", "sub"]⟩] := by
    decide +kernel
  rcases hrun : (compileSources nestedSettings nestedSets ⟨.slash, ["p", "out"]⟩ "utf-8").runFrom nestedSample with
    ⟨r, b'⟩
  rw [hrun] at hok
  cases r with
  | error e => cases hok
  | ok outcome =>
    rcases compileSources_books nestedSettings ⟨.slash, ["p", "out"]⟩ "utf-8" hsets (b := nestedSample) rfl rfl hhost with
      ⟨ts, w, -, hall⟩ | ⟨e, w, b₁, _, _, -, -, herror, -⟩
    · obtain ⟨-, hbooks, -⟩ := hall outcome b' hrun
      rw [hroots] at hbooks
      exact ⟨ts, outcome, b', rfl, hbooks⟩
    · cases herror.symm.trans hrun

end BuildAction

end JavaStubs
