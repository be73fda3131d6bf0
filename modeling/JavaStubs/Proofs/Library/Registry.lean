import JavaStubs.Proofs.Disk.WellFormed
import JavaStubs.Proofs.Library.Classes

/-! Removing stale wrappers and writing the registry. Stale wrappers go before the registry is written, so that a run
may stop in between. -/
namespace JavaStubs.Library

open FileTree

/-- Where a file is that looks like a wrapper, but is the wrapper of none of the scripts. -/
def Stale (packageLoc : Loc) (scripts : List Script) (l : Loc) : Prop :=
  ∃ n, Text.endsWith n scriptSuffix = true ∧ (∀ s ∈ scripts, n ≠ classOf s ++ scriptSuffix) ∧ l = n :: packageLoc

theorem ne_dots {n : String} (h : Text.endsWith n scriptSuffix = true) : n ≠ "." ∧ n ≠ ".." := by
  constructor
  · rintro rfl
    exact absurd h (by decide)
  · rintro rfl
    exact absurd h (by decide)

section

variable {d : Disk} {dir : FilePath} {P : Loc} {m : Stamp} {keep files : List FilePath} {names : List String}

theorem child_inj {n n' : String} : dir.child n = dir.child n' ↔ n = n' := by
  simp [FilePath.child]

/-- The files of the package directory that look like wrappers: all of them, if the directory may be listed. -/
theorem wrapperFiles_ok (hdir : d.stat dir = .ok (P, .dir m)) (h : wrapperFiles d dir = .ok files) :
    ∃ names : List String, files = names.map dir.child ∧ (∀ n ∈ names, Text.endsWith n scriptSuffix = true) ∧
      (d.unlisted? dir = none →
        ∀ n, Text.endsWith n scriptSuffix = true → (d.tree.data? (n :: P)).isSome = true → n ∈ names) := by
  unfold wrapperFiles at h
  rw [show d.isDir? dir = .ok true from Disk.test_of_stat _ hdir, hdir] at h
  dsimp only at h
  rw [Disk.list] at h
  cases hl : d.unlisted? dir with
  | some errno =>
    rw [hl] at h
    dsimp only at h
    split at h
    · cases h
      exact ⟨[], rfl, by simp, nofun⟩
    · cases h
  | none =>
    rw [hl] at h
    cases h
    refine ⟨((d.tree.listing P).filter fun e => Text.endsWith e.1 scriptSuffix).map (·.1), by simp, ?_, ?_⟩
    · simp
    · intro _ n hn hdata
      obtain ⟨data, hdata⟩ := Option.isSome_iff_exists.1 hdata
      obtain ⟨e, he, -⟩ := get?_of_content? (data?_eq_some.1 hdata)
      exact List.mem_map.2 ⟨(n, e), List.mem_filter.2 ⟨mem_listing.2 he, hn⟩, rfl⟩

variable {w : World}

theorem removeStale_cons (keep : List FilePath) (p : FilePath) (ps : List FilePath) (w : World) :
    (∃ e, (removeStale keep (p :: ps)).runFrom w = (.error e, w)) ∨
    (∃ b, w.disk.isFile? p = .ok b ∧ (b = false ∨ p ∈ keep) ∧
      (removeStale keep (p :: ps)).runFrom w = (removeStale keep ps).runFrom w) ∨
    (∃ d, w.disk.isFile? p = .ok true ∧ p ∉ keep ∧ w.disk.unlink p = .ok d ∧
      (removeStale keep (p :: ps)).runFrom w =
        (removeStale keep ps >>= fun removed => pure (p :: removed)).runFrom { w with disk := d }) := by
  rw [removeStale, Acting.runFrom_bind, Action.runFrom_look]
  rcases hf : w.disk.isFile? p with e | b
  · exact .inl ⟨.access e, rfl⟩
  rw [mapError_ok]
  dsimp only
  by_cases hc : (b && !keep.contains p) = true
  · rw [if_pos hc, Acting.runFrom_bind, Action.runFrom_change]
    obtain ⟨rfl, hk⟩ : b = true ∧ p ∉ keep := by simpa using hc
    rcases hu : w.disk.unlink p with e | d
    · exact .inl ⟨.access e, rfl⟩
    · exact .inr (.inr ⟨d, rfl, hk, rfl, rfl⟩)
  · rw [if_neg hc]
    refine .inr (.inl ⟨b, rfl, ?_, rfl⟩)
    cases b with
    | false => exact .inl rfl
    | true => exact .inr (by simpa using hc)

theorem removeStale_loses (hdir : w.disk.stat dir = .ok (P, .dir m))
    (hn : ∀ n ∈ names, Text.endsWith n scriptSuffix = true) :
    w.disk.Loses (fun l => ∃ n ∈ names, dir.child n ∉ keep ∧ l = n :: P)
      ((removeStale keep (names.map dir.child)).runFrom w).2.disk := by
  induction names generalizing w m with
  | nil => exact .refl _
  | cons n names ih =>
    have hn' : ∀ n ∈ names, Text.endsWith n scriptSuffix = true := fun n hm => hn n (List.mem_cons_of_mem _ hm)
    have hmore : ∀ l, (∃ x ∈ names, dir.child x ∉ keep ∧ l = x :: P) →
        ∃ x ∈ n :: names, dir.child x ∉ keep ∧ l = x :: P :=
      fun l ⟨x, hx, hrest⟩ => ⟨x, List.mem_cons_of_mem _ hx, hrest⟩
    rw [List.map_cons]
    rcases removeStale_cons keep (dir.child n) (names.map dir.child) w with
      ⟨e, hr⟩ | ⟨b, -, -, hr⟩ | ⟨d, hf, hk, hu, hr⟩
    · rw [hr]
      exact .refl _
    · rw [hr]
      exact (ih hdir hn').mono hmore
    · obtain ⟨h₁, h₂⟩ := ne_dots (hn n List.mem_cons_self)
      obtain ⟨hloses, -⟩ := Disk.loses_of_unlink h₁ h₂ hdir hf hu
      obtain ⟨m', hdir'⟩ := hloses.stat_dir hdir
      have hrest := ih (w := { w with disk := d }) hdir' hn'
      rw [hr, Acting.runFrom_bind]
      rcases hrun : (removeStale keep (names.map dir.child)).runFrom { w with disk := d } with ⟨r, w'⟩
      rw [hrun] at hrest
      have hall : w.disk.Loses (fun l => ∃ x ∈ n :: names, dir.child x ∉ keep ∧ l = x :: P) w'.disk :=
        (hloses.mono fun l hl => ⟨n, List.mem_cons_self, hk, hl⟩).trans (hrest.mono hmore)
      cases r <;> exact hall

theorem data?_of_removeStale {w' : World} {removed : List FilePath} (hdir : w.disk.stat dir = .ok (P, .dir m))
    (hn : ∀ n ∈ names, Text.endsWith n scriptSuffix = true)
    (h : (removeStale keep (names.map dir.child)).runFrom w = (.ok removed, w')) {n : String} (hmem : n ∈ names)
    (hk : dir.child n ∉ keep) (hname : FileName n) : w'.disk.tree.data? (n :: P) = none := by
  -- what is gone stays gone
  have hgone : ∀ {w : World} {m removed} {names : List String}, w.disk.stat dir = .ok (P, .dir m) →
      (∀ n ∈ names, Text.endsWith n scriptSuffix = true) →
      (removeStale keep (names.map dir.child)).runFrom w = (.ok removed, w') →
      w.disk.tree.data? (n :: P) = none → w'.disk.tree.data? (n :: P) = none := by
    intro w m removed names hdir hn h hnone
    have hloses : w.disk.Loses (fun l => ∃ x ∈ names, dir.child x ∉ keep ∧ l = x :: P) _ :=
      removeStale_loses hdir hn
    rw [h] at hloses
    rcases hloses.data? (n :: P) with he | ⟨-, he⟩
    · rw [he, hnone]
    · exact he
  induction names generalizing w m removed with
  | nil => cases hmem
  | cons n' names ih =>
    have hn' : ∀ n ∈ names, Text.endsWith n scriptSuffix = true := fun n hm => hn n (List.mem_cons_of_mem _ hm)
    rw [List.map_cons] at h
    rcases removeStale_cons keep (dir.child n') (names.map dir.child) w with
      ⟨e, hr⟩ | ⟨b, hf, hb, hr⟩ | ⟨d, hf, -, hu, hr⟩
    · cases hr.symm.trans h
    · rw [hr] at h
      rcases List.mem_cons.1 hmem with rfl | hmem
      · obtain rfl := hb.resolve_right hk
        refine hgone hdir hn' h ?_
        rw [← Option.not_isSome_iff_eq_none]
        intro hsome
        cases Disk.isFile?_child hdir hname.toEntryName hname.noNul hsome hf
      · exact ih hdir hn' h hmem
    · obtain ⟨h₁, h₂⟩ := ne_dots (hn n' List.mem_cons_self)
      obtain ⟨hloses, hnone⟩ := Disk.loses_of_unlink h₁ h₂ hdir hf hu
      obtain ⟨m', hdir'⟩ := hloses.stat_dir hdir
      rw [hr] at h
      obtain ⟨removed', w₁, hrest, hpure⟩ := Acting.bind_ok h
      cases hpure
      rcases List.mem_cons.1 hmem with rfl | hmem
      · refine hgone (w := { w with disk := d }) hdir' hn' hrest ?_
        rw [FileTree.data?, hnone]
      · exact ih (w := { w with disk := d }) hdir' hn' hrest hmem

end

section

variable {intermediate : FilePath} {scripts : List Script} {P : Loc} {m : Stamp} {w : World}

theorem child_not_kept {n : String} :
    (packageDir intermediate).child n ∉ (scripts.map (wrapperOf intermediate)).map (·.generated) ↔
      ∀ s ∈ scripts, n ≠ classOf s ++ scriptSuffix := by
  simp [wrapperOf, child_inj, eq_comm]

/-- Pruning takes stale wrappers away, all of them if it succeeds and may list the directory. -/
theorem prune_spec (scripts : List Script) (hdir : w.disk.stat (packageDir intermediate) = .ok (P, .dir m)) :
    ∃ r w', (prune (packageDir intermediate) ((scripts.map (wrapperOf intermediate)).map (·.generated))).runFrom w =
        (r, w') ∧ w.disk.Loses (Stale P scripts) w'.disk ∧
      ∀ removed, r = .ok removed → w.disk.unlisted? (packageDir intermediate) = none →
        ∀ n, FileName n → Stale P scripts (n :: P) → w'.disk.tree.data? (n :: P) = none := by
  unfold prune
  generalize hkeep : (scripts.map (wrapperOf intermediate)).map (·.generated) = keep
  rw [Acting.runFrom_mapFailure]
  rcases hf : wrapperFiles w.disk (packageDir intermediate) with e | files
  · rw [Acting.runFrom_bind, Action.runFrom_look, hf]
    exact ⟨_, _, rfl, .refl _, nofun⟩
  obtain ⟨names, rfl, hends, hall⟩ := wrapperFiles_ok hdir hf
  have hlook : (Action.look fun d => (wrapperFiles d (packageDir intermediate)).mapError .access).runFrom w =
      (.ok (names.map (packageDir intermediate).child), w) := by
    rw [Action.runFrom_look, hf]
    rfl
  rw [Acting.runFrom_bind_of_ok hlook]
  have hloses : w.disk.Loses (fun l => ∃ n ∈ names, (packageDir intermediate).child n ∉ keep ∧ l = n :: P) _ :=
    removeStale_loses hdir hends
  rcases hrun : (removeStale keep (names.map (packageDir intermediate).child)).runFrom w with ⟨r, w'⟩
  rw [hrun] at hloses
  subst hkeep
  refine ⟨_, w', rfl, hloses.mono ?_, ?_⟩
  · rintro l ⟨n, hn, hk, rfl⟩
    exact ⟨n, hends n hn, child_not_kept.1 hk, rfl⟩
  · rintro removed hr hlist n hname ⟨n', hn', hk, heq⟩
    cases heq
    cases r with
    | error e => cases hr
    | ok removed' =>
      by_cases hdata : (w.disk.tree.data? (n :: P)).isSome = true
      · exact data?_of_removeStale hdir hends hrun (hall hlist n hn' hdata) (child_not_kept.2 hk) hname
      · rcases hloses.data? (n :: P) with he | ⟨-, he⟩
        · rw [he]
          simpa using hdata
        · exact he

theorem runFrom_logRemoved (settings : Settings) (removed : List FilePath) (w : World) :
    ∃ text, (logRemoved settings removed).runFrom w = (.ok (), { w with stderr := text }) := by
  induction removed generalizing w with
  | nil => exact ⟨w.stderr, rfl⟩
  | cons p ps ih =>
    obtain ⟨text, hlog⟩ := Log.runFrom_write settings ⟨.debug, "globalvars", "prune", [("path", .text p.text)]⟩ w
    rw [logRemoved, Acting.runFrom_bind_of_ok hlog]
    exact ih _

/-- First stale wrappers go, then the registry is written. A refusal at any point leaves the old registry, unless the writing
was broken off. -/
theorem publishRegistry_spec (settings : Settings) (encoding : String) (scripts : List Script)
    (hdir : w.disk.stat (packageDir intermediate) = .ok (P, .dir m)) :
    ∃ d, w.disk.Loses (Stale P scripts) d ∧
      ((∃ changed w' l data,
          (publishRegistry settings intermediate encoding (scripts.map (wrapperOf intermediate))).runFrom w =
            (.ok changed, w') ∧
          Charset.encodeAs encoding
            (registryText (registryOf intermediate (scripts.map (wrapperOf intermediate))).entries) = .ok data ∧
          d.Changes (Writes l data) w'.disk ∧
          (∃ m a, w'.disk.stat (registryPath intermediate) = .ok (l, .file data m a)) ∧
          (w.disk.unlisted? (packageDir intermediate) = none →
            ∀ n, FileName n → Stale P scripts (n :: P) → d.tree.data? (n :: P) = none)) ∨
        ∃ e w',
          (publishRegistry settings intermediate encoding (scripts.map (wrapperOf intermediate))).runFrom w =
            (.error e, w') ∧ (d.Changes MoreDirs w'.disk ∨ Action.BrokenOff (registryPath intermediate)
              (registryText (registryOf intermediate (scripts.map (wrapperOf intermediate))).entries) encoding d w'.disk e)) := by
  unfold publishRegistry
  obtain ⟨r, w₁, hprune, hloses, hall⟩ := prune_spec scripts hdir
  refine ⟨w₁.disk, hloses, ?_⟩
  cases r with
  | error e => exact .inr ⟨e, w₁, Acting.runFrom_bind_of_error hprune, .inl ⟨.refl _, rfl, rfl⟩⟩
  | ok removed =>
    obtain ⟨text, hlog⟩ := runFrom_logRemoved settings removed w₁
    rw [Acting.runFrom_bind_of_ok hprune, Acting.runFrom_bind_of_ok hlog]
    rcases Action.runFrom_writeText (registryPath intermediate)
      (registryText (registryOf intermediate (scripts.map (wrapperOf intermediate))).entries) encoding
      { w₁ with stderr := text } with ⟨changed, data, l, d, hr, hdata, hw, hs⟩ | ⟨e, d, hr, hm⟩
    · exact .inl ⟨changed, _, l, data, hr, hdata, hw, hs, hall removed rfl⟩
    · exact .inr ⟨e, _, hr, hm⟩

/-- What the registry's step has done if nothing was refused. -/
theorem publishRegistry_ok {settings : Settings} {encoding : String} {changed : Bool} {w' : World}
    (hdir : w.disk.stat (packageDir intermediate) = .ok (P, .dir m))
    (h : (publishRegistry settings intermediate encoding (scripts.map (wrapperOf intermediate))).runFrom w =
      (.ok changed, w')) :
    ∃ d l data, w.disk.Loses (Stale P scripts) d ∧
      Charset.encodeAs encoding
        (registryText (registryOf intermediate (scripts.map (wrapperOf intermediate))).entries) = .ok data ∧
      d.Changes (Writes l data) w'.disk ∧
      (∃ m a, w'.disk.stat (registryPath intermediate) = .ok (l, .file data m a)) ∧
      (w.disk.unlisted? (packageDir intermediate) = none →
        ∀ n, FileName n → Stale P scripts (n :: P) → d.tree.data? (n :: P) = none) := by
  have ⟨d, hloses, hend⟩ := publishRegistry_spec settings encoding scripts hdir
  cases hend with
  | inl hdone =>
    have ⟨changed', w₁, l, data, hrun, hdata, hwrites, hstat, hall⟩ := hdone
    cases hrun.symm.trans h
    exact ⟨d, l, data, hloses, hdata, hwrites, hstat, hall⟩
  | inr hrefused =>
    have ⟨e, w₁, hrun, _⟩ := hrefused
    cases hrun.symm.trans h

/-- If the registry's step fails, pruning was the last to change the disk, unless the writing was broken off. -/
theorem publishRegistry_error {settings : Settings} {encoding : String} {e : Failure} {w' : World}
    (hdir : w.disk.stat (packageDir intermediate) = .ok (P, .dir m))
    (h : (publishRegistry settings intermediate encoding (scripts.map (wrapperOf intermediate))).runFrom w =
      (.error e, w')) :
    ∃ r w₁, (prune (packageDir intermediate) ((scripts.map (wrapperOf intermediate)).map (·.generated))).runFrom w = (r, w₁) ∧
      w.disk.Loses (Stale P scripts) w₁.disk ∧ (w'.disk = w₁.disk ∨ Action.BrokenOff (registryPath intermediate)
        (registryText (registryOf intermediate (scripts.map (wrapperOf intermediate))).entries) encoding w₁.disk w'.disk e) := by
  unfold publishRegistry at h
  have ⟨r, w₁, hprune, hloses, _⟩ := prune_spec scripts hdir
  refine ⟨r, w₁, hprune, hloses, ?_⟩
  cases r with
  | error e' =>
    rw [Acting.runFrom_bind_of_error hprune] at h
    cases h
    exact .inl rfl
  | ok removed =>
    have ⟨text, hlog⟩ := runFrom_logRemoved settings removed w₁
    rw [Acting.runFrom_bind_of_ok hprune, Acting.runFrom_bind_of_ok hlog] at h
    have ⟨m₁, hdir₁⟩ := hloses.stat_dir hdir
    have ⟨root, m₂, hroot⟩ := Disk.stat_of_child hdir₁
    have hparent : w₁.disk.stat (registryPath intermediate).parent = .ok (root, .dir m₂) := by
      rw [registryPath, FilePath.parent_child]
      exact hroot
    exact Action.writeText_refused (w := { w₁ with stderr := text }) hparent h

end

end JavaStubs.Library
