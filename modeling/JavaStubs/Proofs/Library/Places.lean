import JavaStubs.Library.Plan
import JavaStubs.Proofs.Disk.Place

/-! The classes of a library and where their files are. A plan exists exactly if no class name occurs twice, and then
each class has a location of its own. -/
namespace JavaStubs

theorem ne_of_ends {s t : String} (n : String) (h : s.length < t.length) : n ++ t ≠ s := by
  rintro rfl
  rw [String.length_append] at h
  omega

theorem nodup_eraseDups {α : Type} [DecidableEq α] : ∀ xs : List α, xs.eraseDups.Nodup
  | [] => by simp
  | x :: xs => by
    have hrest := nodup_eraseDups (xs.filter fun y => !y == x)
    rw [List.eraseDups_cons, List.nodup_cons, List.mem_eraseDups]
    exact ⟨by simp, hrest⟩
termination_by xs => xs.length
decreasing_by exact Nat.lt_succ_of_le (List.length_filter_le _ _)

namespace Library

theorem collisions_eq_nil {scripts : List Script} : collisions scripts = [] ↔ (scripts.map classOf).Nodup := by
  have hcount : ∀ c, (scripts.map classOf).count c = (scripts.filter fun s => classOf s = c).length := by
    intro c
    rw [List.count_eq_countP, List.countP_map, List.countP_eq_length_filter]
    rfl
  rw [List.nodup_iff_count]
  simp only [collisions, List.filterMap_eq_nil_iff, classNames, List.mem_mergeSort, List.mem_eraseDups, ite_eq_right_iff,
    reduceCtorEq, imp_false, ← hcount]
  constructor
  · intro h c
    by_cases hc : c ∈ scripts.map classOf
    · exact Nat.not_lt.1 (h c hc)
    · rw [List.count_eq_zero_of_not_mem hc]
      exact Nat.zero_le 1
  · exact fun h c _ => Nat.not_lt.2 (h c)

theorem plan_ok {intermediate : FilePath} {scripts : List Script} {wrappers : List Wrapper} :
    plan intermediate scripts = .ok wrappers ↔
      (scripts.map classOf).Nodup ∧ wrappers = scripts.map (wrapperOf intermediate) := by
  rw [← collisions_eq_nil, plan]
  split
  · next h => simp [h, eq_comm]
  · next groups hne => exact ⟨nofun, fun h => absurd h.1 hne⟩

/-- Where the registry is below an intermediate root. -/
def registryLoc (root : Loc) : Loc :=
  (registryStem ++ scriptSuffix) :: root

/-- Where the wrapper of a class is below an intermediate root. -/
def wrapperLoc (root : Loc) (className : String) : Loc :=
  (className ++ scriptSuffix) :: package :: root

theorem wrapperLoc_inj {root : Loc} {c c' : String} : wrapperLoc root c = wrapperLoc root c' ↔ c = c' := by
  simp [wrapperLoc, String.append_left_inj]

theorem wrapperLoc_ne_registryLoc {root : Loc} {c : String} : wrapperLoc root c ≠ registryLoc root := by
  intro h
  have := congrArg List.length h
  simp [wrapperLoc, registryLoc] at this

theorem below_registryLoc (root : Loc) : FileTree.Below root (registryLoc root) :=
  List.suffix_cons _ _

theorem below_wrapperLoc (root : Loc) (c : String) : FileTree.Below root (wrapperLoc root c) :=
  (List.suffix_cons _ _).trans (List.suffix_cons _ _)

theorem endsWith_scriptSuffix (c : String) : Text.endsWith (c ++ scriptSuffix) scriptSuffix = true := by
  simp [Text.endsWith]

variable (d : Disk) (intermediate : FilePath)

theorem place_packageDir : d.place (packageDir intermediate) = package :: d.place intermediate :=
  d.place_child intermediate (by decide) (by decide)

theorem place_registryPath : d.place (registryPath intermediate) = registryLoc (d.place intermediate) :=
  d.place_child intermediate (by decide) (by decide)

def classPath (intermediate : FilePath) (c : String) : FilePath :=
  (packageDir intermediate).child (c ++ scriptSuffix)

theorem place_classPath (c : String) : d.place (classPath intermediate c) = wrapperLoc (d.place intermediate) c := by
  rw [classPath, d.place_child _ (ne_of_ends c (by decide)) (ne_of_ends c (by decide)), place_packageDir]
  rfl

end Library

end JavaStubs
