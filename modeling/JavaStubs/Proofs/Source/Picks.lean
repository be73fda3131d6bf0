import JavaStubs.Source.Pattern

/-! What a pattern asks of the paths it picks, read off its first and its last atoms. -/
namespace JavaStubs.Pattern

variable {as : List Atom} {path rest : List Char} {c : Char}

def SegmentsOf (path rest : List Char) : Prop :=
  rest = path ∨ ∃ dirs, path = dirs ++ '/' :: rest

theorem SegmentsOf.getLast? (h : SegmentsOf path rest) (hn : rest ≠ []) : path.getLast? = rest.getLast? := by
  rcases h with rfl | ⟨dirs, rfl⟩
  · rfl
  · rw [List.getLast?_append, List.getLast?_cons_of_ne_nil hn, List.getLast?_eq_some_getLast hn]
    rfl

theorem afterDir?_eq_some_iff :
    afterDir? path = some rest ↔ ∃ dir, path = dir ++ '/' :: rest ∧ dir ≠ [] ∧ '/' ∉ dir := by
  constructor
  · intro h
    unfold afterDir? at h
    split at h
    · next r hr =>
      split at h
      · cases h
      · next hhead =>
        cases h
        have hpath : path = path.takeWhile (· ≠ '/') ++ '/' :: rest := by
          rw [← hr, List.takeWhile_append_dropWhile]
        refine ⟨_, hpath, fun hnil => hhead ?_, fun hmem => ?_⟩
        · rw [hpath, hnil]
          rfl
        · simpa using List.all_eq_true.1 List.all_takeWhile _ hmem
    · cases h
  · rintro ⟨dir, rfl, hn, hdir⟩
    have hdrop : (dir ++ '/' :: rest).dropWhile (· ≠ '/') = '/' :: rest := by
      rw [List.dropWhile_append_of_pos]
      · rfl
      · intro c hc
        rw [decide_eq_true_eq]
        exact fun hslash => hdir (hslash ▸ hc)
    have hhead : (dir ++ '/' :: rest).head? ≠ some '/' := by
      cases dir with
      | nil => contradiction
      | cons c cs =>
        rw [List.mem_cons, not_or] at hdir
        simpa using Ne.symm hdir.1
    rw [afterDir?, hdrop]
    exact if_neg hhead

theorem accepts_dirs_iff : accepts (.dirs :: as) path = true ↔
    accepts as path = true ∨
      ∃ dir rest, path = dir ++ '/' :: rest ∧ dir ≠ [] ∧ '/' ∉ dir ∧ accepts (.dirs :: as) rest = true := by
  rw [accepts, Bool.or_eq_true]
  refine or_congr_right ?_
  split
  · next rest hafter =>
    obtain ⟨dir, hpath⟩ := afterDir?_eq_some_iff.1 hafter
    constructor
    · exact fun h => ⟨dir, rest, hpath.1, hpath.2.1, hpath.2.2, h⟩
    · rintro ⟨dir', rest', h₁, h₂, h₃, h⟩
      cases hafter.symm.trans (afterDir?_eq_some_iff.2 ⟨dir', h₁, h₂, h₃⟩)
      exact h
  · next hafter =>
    refine ⟨Bool.false_ne_true.elim, ?_⟩
    rintro ⟨dir, rest, h₁, h₂, h₃, -⟩
    cases hafter.symm.trans (afterDir?_eq_some_iff.2 ⟨dir, h₁, h₂, h₃⟩)

/-- Whole directories can be left out at the front. -/
theorem accepts_dirs {path : List Char} (h : accepts (.dirs :: as) path = true) :
    ∃ rest, SegmentsOf path rest ∧ accepts as rest = true := by
  rcases accepts_dirs_iff.1 h with h | ⟨dir, rest, hpath, -, -, h⟩
  · exact ⟨path, .inl rfl, h⟩
  · have : rest.length < path.length := by simp [hpath]; omega
    obtain ⟨rest', hrest, h'⟩ := accepts_dirs h
    refine ⟨rest', .inr ?_, h'⟩
    rcases hrest with rfl | ⟨dirs, rfl⟩
    · exact ⟨dir, hpath⟩
    · exact ⟨dir ++ '/' :: dirs, by rw [hpath]; simp⟩
  termination_by path.length

theorem accepts_char (h : accepts (.char c :: as) path = true) : path.head? = some c := by
  cases path with
  | nil =>
    rw [accepts] at h
    cases h
  | cons d ds =>
    rw [accepts, Bool.and_eq_true, beq_iff_eq] at h
    rw [h.1]
    rfl

theorem accepts_run_char (h : accepts [.run, .char c] path = true) : path.getLast? = some c := by
  induction path with
  | nil => simp [accepts] at h
  | cons d ds ih =>
    rw [accepts, Bool.or_eq_true, Bool.and_eq_true] at h
    rcases h with h | ⟨-, h⟩
    · cases ds with
      | nil =>
        have := accepts_char h
        simpa using this
      | cons => simp [accepts] at h
    · have hds := ih h
      rw [List.getLast?_cons, hds]
      rfl

theorem accepts_chars (cs : List Char) : accepts (cs.map .char) cs = true := by
  induction cs with
  | nil => rw [List.map_nil, accepts]
  | cons c cs ih => rw [List.map_cons, accepts, ih, beq_self_eq_true, Bool.and_self]

theorem accepts_run_append (h : accepts as path = true) {run : List Char} (hrun : '/' ∉ run) :
    accepts (.run :: as) (run ++ path) = true := by
  induction run with
  | nil => cases path <;> simp [accepts, h]
  | cons c cs ih =>
    rw [List.mem_cons, not_or] at hrun
    rw [List.cons_append, accepts, ih hrun.2]
    simp [Ne.symm hrun.1]

theorem accepts_dirs_append (h : accepts as path = true) {dir : List Char} (hdir : '/' ∉ dir) (hn : dir ≠ []) :
    accepts (.dirs :: as) (dir ++ '/' :: path) = true :=
  accepts_dirs_iff.2 (.inr ⟨dir, path, rfl, hn, hdir, accepts_dirs_iff.2 (.inl h)⟩)

/-- Atoms that ask, after whole directories, for a first character that is none of the given ones, or for a last one
that is not the given one. -/
def outside (firsts : List Char) (last : Char) : List Atom → Bool
  | .dirs :: .char c :: _ => !firsts.contains c
  | [.dirs, .run, .char c] => c != last
  | _ => false

theorem not_accepts_of_outside {firsts : List Char} {last : Char} (h : outside firsts last as = true)
    (hfirst : ∀ {rest c}, SegmentsOf path rest → rest.head? = some c → c ∈ firsts)
    (hlast : path.getLast? = some last) : accepts as path = false := by
  rw [Bool.eq_false_iff]
  intro ha
  unfold outside at h
  split at h
  · obtain ⟨rest, hrest, ha⟩ := accepts_dirs ha
    simp [hfirst hrest (accepts_char ha)] at h
  · obtain ⟨rest, hrest, ha⟩ := accepts_dirs ha
    have hend := accepts_run_char ha
    have hn : rest ≠ [] := by
      rintro rfl
      cases hend
    rw [hrest.getLast? hn, hend, Option.some.injEq] at hlast
    simp [hlast] at h
  · cases h

end JavaStubs.Pattern
