import JavaStubs.Proofs.Source.Rescan
import JavaStubs.Proofs.Source.Stems

/-! Which files a scan finds, and in which order. -/
namespace JavaStubs

namespace SuffixMapping

variable {mappings : List SuffixMapping} {name : String}

theorem isCandidate_iff : isCandidate mappings name = true ↔ ∃ m ∈ mappings, m.covers name = true := by
  rw [isCandidate, find?, List.find?_isSome]

end SuffixMapping

theorem Pattern.anyPicks_iff {patterns : List String} {path : String} :
    anyPicks patterns path = true ↔ ∃ p ∈ patterns, picks p path = true :=
  List.any_eq_true

namespace SourceSet

variable {s : SourceSet} {mappings : List SuffixMapping} {names : List String}

/-- What the set asks of a file in its directory, by the names on the way to the file. -/
structure Wants (s : SourceSet) (mappings : List SuffixMapping) (names : List String) : Prop where
  mapped : ∃ m ∈ mappings, ∃ stem, stem ≠ "" ∧ names.getLast? = some (stem ++ m.source)
  included : (s.includes = [] ∧ Pattern.picks "**" (Text.join "/" names) = true) ∨
    ∃ p ∈ s.includes, Pattern.picks p (Text.join "/" names) = true
  notExcluded : ∀ p ∈ s.excludes, ¬Pattern.picks p (Text.join "/" names) = true
  notStandard : ∀ p ∈ Pattern.standardExcludes, ¬Pattern.picks p (Text.join "/" names) = true

theorem isCandidate_last_iff : SuffixMapping.isCandidate mappings (names.getLast?.getD "") = true ↔
    ∃ m ∈ mappings, ∃ stem, stem ≠ "" ∧ names.getLast? = some (stem ++ m.source) := by
  rw [SuffixMapping.isCandidate_iff]
  refine exists_congr fun m => and_congr_right fun _ => ?_
  rw [SuffixMapping.covers_iff]
  refine exists_congr fun stem => and_congr_right fun hne => ?_
  cases names.getLast? with
  | none =>
    -- without a last name there is nothing in front of the suffix
    have hlong : stem ++ m.source ≠ "" := fun hempty => hne (String.append_eq_empty_iff.mp hempty).1
    simpa using hlong.symm
  | some name => simp

theorem anyPicks_effectiveIncludes_iff {path : String} : Pattern.anyPicks s.effectiveIncludes path = true ↔
    (s.includes = [] ∧ Pattern.picks "**" path = true) ∨ ∃ p ∈ s.includes, Pattern.picks p path = true := by
  rw [Pattern.anyPicks_iff, effectiveIncludes]
  by_cases hnone : s.includes = []
  · simp [hnone]
  · simp [hnone, List.isEmpty_iff]

theorem not_anyPicks_effectiveExcludes_iff {path : String} : Pattern.anyPicks s.effectiveExcludes path = false ↔
    (∀ p ∈ s.excludes, ¬Pattern.picks p path = true) ∧ ∀ p ∈ Pattern.standardExcludes, ¬Pattern.picks p path = true := by
  rw [← Bool.not_eq_true, Pattern.anyPicks_iff, effectiveExcludes]
  simp only [List.mem_append, not_exists, not_and, or_imp, forall_and]

theorem selects_iff : s.selects mappings names = true ↔ s.Wants mappings names := by
  unfold selects
  rw [Bool.and_eq_true, Bool.and_eq_true, Bool.not_eq_true', isCandidate_last_iff, anyPicks_effectiveIncludes_iff,
    not_anyPicks_effectiveExcludes_iff]
  constructor
  · intro ⟨⟨hmapped, hincluded⟩, hexcluded, hstandard⟩
    exact ⟨hmapped, hincluded, hexcluded, hstandard⟩
  · intro h
    exact ⟨⟨h.mapped, h.included⟩, h.notExcluded, h.notStandard⟩

def scriptAt (s : SourceSet) (names : List String) : Script :=
  ⟨s.directory.descend names, names.getLast?.getD ""⟩

theorem scriptAt_inj {names' : List String} (h : s.scriptAt names = s.scriptAt names') : names = names' :=
  List.append_cancel_left (congrArg (fun x : Script => x.path.parts) h)

end SourceSet

namespace Disk

open FileTree

variable {d : Disk} {s : SourceSet} {mappings : List SuffixMapping} {l : Loc} {m : Stamp}

/-- Sorted paths without repetitions are in strict order if no name on them holds a slash. -/
theorem pairwise_lt_sortByText {found : List (List String)} (hnodup : found.Nodup)
    (hnames : ∀ names ∈ found, names ≠ [] ∧ ∀ c ∈ names, '/' ∉ c.toList) :
    (sortByText found).Pairwise fun a b => Text.join "/" a < Text.join "/" b := by
  have hperm : (sortByText found).Perm found := List.mergeSort_perm _ _
  have hsorted := (pairwise_sortByText found).and (hperm.nodup_iff.mpr hnodup)
  refine hsorted.imp_of_mem fun {a b} ha hb ⟨hle, hne⟩ => ?_
  have ⟨hane, haslash⟩ := hnames a (hperm.mem_iff.mp ha)
  have ⟨hbne, hbslash⟩ := hnames b (hperm.mem_iff.mp hb)
  have htexts : Text.join "/" a ≠ Text.join "/" b := fun heq => hne (Text.join_inj hane hbne haslash hbslash heq)
  exact Std.lt_of_le_of_ne hle htexts

/-- Scripts beside what only looks like them: a name with nothing in front of the suffix, links to a script, to a directory
and to nothing, a directory with the name of a script, and a script that version control keeps. -/
def crowdedDisk : Disk where
  tree := {
    entries := [([], .dir .now), (["p"], .dir .now), (["a.groovy", "p"], .file [] .now .now),
      ([".groovy", "p"], .file [] .now .now), (["b.groovy", "p"], .link "a.groovy"), (["c.groovy", "p"], .link "d.groovy"),
      (["d.groovy", "p"], .dir .now), (["e.groovy", "d.groovy", "p"], .file [] .now .now),
      (["f.groovy", "p"], .link "gone"), ([".git", "p"], .dir .now), (["g.groovy", ".git", "p"], .file [] .now .now)]
    nodup := by decide }
  cwd := ⟨.slash, []⟩

def crowdedSet : SourceSet :=
  ⟨⟨.slash, ["p"]⟩, [], [], none, none, .plain⟩

end Disk

end JavaStubs
