import JavaStubs.Source.Set

/-! What settling source sets guarantees. -/
namespace JavaStubs

theorem FilePath.not_isBlankText_of_isAbsolute {p : FilePath} (h : p.isAbsolute = true) :
    Text.isBlankText p.text = false := by
  have hblank : ∀ s t, Text.isBlankText s = false → Text.isBlankText (s ++ t) = false := by
    intro s t hs
    rw [Text.isBlankText, String.toList_append, List.all_append, show s.toList.all Text.isBlank = false from hs,
      Bool.false_and]
  unfold FilePath.text
  cases hanchor : p.anchor with
  | none => simp [FilePath.isAbsolute, hanchor] at h
  | slash =>
    rw [if_neg (by simp)]
    exact hblank _ _ (by decide)
  | doubleSlash =>
    rw [if_neg (by simp)]
    exact hblank _ _ (by decide)

namespace SourceSet

theorem settle_ne_auto (directory : FilePath) (mode : Mode) : mode.settle directory ≠ .auto := by
  cases mode with
  | auto =>
    simp only [Mode.settle, Mode.infer]
    split <;> simp
  | plain => simp [Mode.settle]
  | globalVars => simp [Mode.settle]
  | other word => simp [Mode.settle]

theorem settleOne_ok {root cwd : FilePath} {d : Declaration} {s : SourceSet} (h : settleOne root cwd d = .ok s) :
    s.directory = (place root d.directory).absolute cwd ∧ s.mode = d.mode.settle s.directory := by
  unfold settleOne at h
  split at h
  · cases h
  split at h
  · cases h
  dsimp only at h
  split at h
  · cases h
  split at h
  · cases h
  · cases h
    exact ⟨rfl, rfl⟩

theorem settleOne_mode {root cwd : FilePath} {d : Declaration} {s : SourceSet} (h : settleOne root cwd d = .ok s) :
    s.mode ≠ .auto := by
  rw [(settleOne_ok h).2]
  exact settle_ne_auto _ _

theorem settleOne_isAbsolute {root cwd : FilePath} {d : Declaration} {s : SourceSet} (hroot : root.isAbsolute = true)
    (h : settleOne root cwd d = .ok s) : s.directory.isAbsolute = true := by
  have hplaced : (place root d.directory).isAbsolute = true := FilePath.isAbsolute_append hroot _
  rw [(settleOne_ok h).1, FilePath.absolute_of_isAbsolute hplaced]
  exact hplaced

theorem settleAll_induction {root cwd : FilePath} {P : List SourceSet → Prop}
    (step : ∀ {before d s}, P before → settleOne root cwd d = .ok s → conflict? before s = none → P (before ++ [s]))
    {before sets : List SourceSet} {ds : List Declaration} (h : settleAll root cwd before ds = .ok sets)
    (hbefore : P before) : P sets := by
  induction ds generalizing before with
  | nil =>
    cases h
    exact hbefore
  | cons d ds ih =>
    rw [settleAll] at h
    split at h
    · cases h
    next s hs =>
    split at h
    · cases h
    next hc => exact ih h (step hbefore hs hc)

theorem normalize_each {root cwd : FilePath} {P : SourceSet → Prop}
    (hone : ∀ {d s}, settleOne root cwd d = .ok s → P s) {ds : List Declaration} {sets : List SourceSet}
    (h : normalize root cwd ds = .ok sets) : ∀ s ∈ sets, P s := by
  refine settleAll_induction (P := fun sets => ∀ s ∈ sets, P s) ?_ h (by simp)
  intro before d s hbefore hs _ x hx
  rcases List.mem_append.1 hx with hx | hx
  · exact hbefore x hx
  · rw [List.mem_singleton.1 hx]
    exact hone hs

theorem normalize_modes {root cwd : FilePath} {ds : List Declaration} {sets : List SourceSet}
    (h : normalize root cwd ds = .ok sets) : ∀ s ∈ sets, s.mode ≠ .auto :=
  normalize_each settleOne_mode h

theorem normalize_isAbsolute {root cwd : FilePath} {ds : List Declaration} {sets : List SourceSet}
    (hroot : root.isAbsolute = true) (h : normalize root cwd ds = .ok sets) :
    ∀ s ∈ sets, s.directory.isAbsolute = true :=
  normalize_each (settleOne_isAbsolute hroot) h

theorem not_isLibrary_of_conflict? {before : List SourceSet} {s : SourceSet} (h : conflict? before s = none)
    (hs : s.isLibrary = true) : ∀ b ∈ before, ¬b.isLibrary = true := by
  unfold conflict? at h
  split at h
  · cases h
  · rw [Option.map_eq_none_iff, List.find?_eq_none] at h
    exact h

theorem normalize_libraries {root cwd : FilePath} {ds : List Declaration} {sets : List SourceSet}
    (h : normalize root cwd ds = .ok sets) : sets.Pairwise fun a b => a.isLibrary = true → ¬b.isLibrary = true := by
  refine settleAll_induction (P := List.Pairwise _) ?_ h .nil
  intro before d s hbefore _ hc
  refine List.pairwise_append.2 ⟨hbefore, List.pairwise_singleton _ _, fun b hb x hx hblib => ?_⟩
  rw [List.mem_singleton.1 hx]
  exact fun hs => not_isLibrary_of_conflict? hc hs b hb hblib

end SourceSet

end JavaStubs
