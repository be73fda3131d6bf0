import JavaStubs.Library.Publish
import JavaStubs.Proofs.Library.Places
import JavaStubs.Proofs.Source.Picks
import JavaStubs.Proofs.Source.Stems
import JavaStubs.Proofs.Text.UpperCase

/-! The names of generated files, as patterns see them. No standard exclude picks one, so that whether a published set
selects one is up to its includes. -/
namespace JavaStubs

namespace Pattern

theorem SegmentsOf.eq_self {path rest : List Char} (h : SegmentsOf path rest) (hn : '/' ∉ path) : rest = path := by
  rcases h with rfl | ⟨dirs, rfl⟩
  · rfl
  · simp at hn

theorem SegmentsOf.of_dir {dir path rest : List Char} (h : SegmentsOf (dir ++ '/' :: path) rest) (hdir : '/' ∉ dir)
    (hpath : '/' ∉ path) : rest = dir ++ '/' :: path ∨ rest = path := by
  rcases h with rfl | ⟨dirs, heq⟩
  · exact .inl rfl
  · rcases List.append_eq_append_iff.1 heq with ⟨between, hdirs, hrest⟩ | ⟨between, rfl, hrest⟩
    · cases between with
      | nil => exact .inr (List.cons.inj hrest).2.symm
      | cons c between =>
        obtain ⟨rfl, rfl⟩ := List.cons.inj hrest
        simp at hpath
    · cases between with
      | nil => exact .inr (List.cons.inj hrest).2
      | cons c between =>
        obtain ⟨rfl, -⟩ := List.cons.inj hrest
        simp at hdir

end Pattern

namespace Library

open Pattern

structure GeneratedName (n : String) : Prop where
  noSlash : '/' ∉ n.toList
  first : n.toList.head? = some 'V'
  last : n.toList.getLast? = some 'y'

theorem standardExcludes_outside : ∀ p ∈ standardExcludes, outside ['g', 'V'] 'y' (atoms p) = true := by
  decide +kernel

theorem not_anyPicks_standardExcludes {path : String}
    (hfirst : ∀ {rest c}, SegmentsOf path.toList rest → rest.head? = some c → c ∈ ['g', 'V'])
    (hlast : path.toList.getLast? = some 'y') : anyPicks standardExcludes path = false := by
  rw [anyPicks, List.any_eq_false]
  intro p hp
  rw [picks, not_accepts_of_outside (standardExcludes_outside p hp) hfirst hlast]
  exact Bool.false_ne_true

namespace GeneratedName

variable {n : String}

theorem not_excluded (h : GeneratedName n) : anyPicks standardExcludes n = false := by
  refine not_anyPicks_standardExcludes (fun {rest c} hrest hc => ?_) h.last
  rw [hrest.eq_self h.noSlash, h.first] at hc
  cases hc
  exact List.mem_cons_of_mem _ List.mem_cons_self

theorem not_excluded_in_package (h : GeneratedName n) :
    anyPicks standardExcludes (Text.join "/" [package, n]) = false := by
  have hpath : (Text.join "/" [package, n]).toList = package.toList ++ '/' :: n.toList := by
    simp [Text.join, String.intercalate_cons_cons]
  refine not_anyPicks_standardExcludes (fun {rest c} hrest hc => ?_) ?_
  · rw [hpath] at hrest
    rcases hrest.of_dir (by decide) h.noSlash with rfl | rfl
    · cases hc
      exact List.mem_cons_self
    · rw [h.first] at hc
      cases hc
      exact List.mem_cons_of_mem _ List.mem_cons_self
  · have hn : n.toList ≠ [] := by
      intro hn
      have := h.first
      rw [hn] at this
      cases this
    rw [hpath, List.getLast?_append, List.getLast?_cons_of_ne_nil hn, h.last]
    rfl

end GeneratedName

theorem generatedName_registry : GeneratedName (registryStem ++ scriptSuffix) :=
  ⟨by decide, by decide, by decide⟩

theorem mem_of_mem_stem {c : Char} {m : SuffixMapping} {name : String} (h : c ∈ (m.stem name).toList) :
    c ∈ name.toList := by
  unfold SuffixMapping.stem at h
  split at h
  · split at h
    · cases h
    · rw [Text.dropEnd, String.toList_ofList] at h
      exact List.mem_of_mem_take h
  · exact h

theorem mem_of_mem_classFile {c : Char} (hc : Text.isLetterOrBeyond c = false)
    (hfixed : c ∉ (classStart ++ scriptSuffix).toList) {x : Script} (h : c ∈ (classOf x ++ scriptSuffix).toList) :
    c ∈ x.baseName.toList := by
  simp only [classOf, className, variableName, String.toList_append, List.mem_append, not_or] at h hfixed
  rcases h with (hstart | hname) | hsuffix
  · exact absurd hstart hfixed.1
  · exact mem_of_mem_stem (Text.mem_of_mem_upper hc hname)
  · exact absurd hsuffix hfixed.2

theorem generatedName_class {x : Script} (h : '/' ∉ x.baseName.toList) : GeneratedName (classOf x ++ scriptSuffix) where
  noSlash hslash := h (mem_of_mem_classFile (by decide) (by decide) hslash)
  first := by
    simp [classOf, className, classStart]
  last := by
    rw [String.toList_append, List.getLast?_append]
    rfl

theorem isCandidate_standard {c : String} (hc : c ≠ "") :
    SuffixMapping.isCandidate SuffixMapping.standard (c ++ scriptSuffix) = true := by
  have hcovers : SuffixMapping.groovyToJava.covers (c ++ scriptSuffix) = true :=
    SuffixMapping.covers_iff.2 ⟨c, hc, rfl⟩
  rw [SuffixMapping.isCandidate, SuffixMapping.find?, SuffixMapping.standard, List.find?_cons, hcovers]
  rfl

theorem selects_published {s : SourceSet} {directory : FilePath} {names : List String} {c : String} (hc : c ≠ "")
    (hlast : names.getLast? = some (c ++ scriptSuffix))
    (hex : anyPicks standardExcludes (Text.join "/" names) = false) :
    (publishedSet s directory).selects SuffixMapping.standard names =
      anyPicks s.effectiveIncludes (Text.join "/" names) := by
  have hincludes : (publishedSet s directory).effectiveIncludes = s.effectiveIncludes := rfl
  have hexcludes : (publishedSet s directory).effectiveExcludes = standardExcludes := List.nil_append _
  rw [SourceSet.selects, hlast, Option.getD_some, isCandidate_standard hc, hincludes, hexcludes, hex]
  simp

theorem selects_registry (s : SourceSet) (directory : FilePath) :
    (publishedSet s directory).selects SuffixMapping.standard [registryStem ++ scriptSuffix] =
      anyPicks s.effectiveIncludes (registryStem ++ scriptSuffix) :=
  selects_published (by decide) rfl generatedName_registry.not_excluded

theorem selects_class (s : SourceSet) (directory : FilePath) {x : Script} (h : '/' ∉ x.baseName.toList) :
    (publishedSet s directory).selects SuffixMapping.standard [package, classOf x ++ scriptSuffix] =
      anyPicks s.effectiveIncludes (Text.join "/" [package, classOf x ++ scriptSuffix]) := by
  refine selects_published ?_ rfl (generatedName_class h).not_excluded_in_package
  simp [classOf, className, classStart]

/-- The default pattern picks the classes of a library and its registry where they are generated. -/
theorem default_picks_class {x : Script} (h : '/' ∉ x.baseName.toList) :
    anyPicks SourceSet.defaultIncludes (Text.join "/" [package, classOf x ++ scriptSuffix]) = true := by
  have hatoms : atoms "**/*.groovy" = .dirs :: .run :: scriptSuffix.toList.map .char := by decide +kernel
  have hpath : (Text.join "/" [package, classOf x ++ scriptSuffix]).toList =
      package.toList ++ '/' :: ((classOf x).toList ++ scriptSuffix.toList) := by
    simp [Text.join, String.intercalate_cons_cons]
  have hslash : '/' ∉ (classOf x).toList := by
    have hname := (generatedName_class h).noSlash
    rw [String.toList_append, List.mem_append, not_or] at hname
    exact hname.1
  have hpicks : picks "**/*.groovy" (Text.join "/" [package, classOf x ++ scriptSuffix]) = true := by
    rw [picks, hatoms, hpath]
    exact accepts_dirs_append (accepts_run_append (accepts_chars _) hslash) (by decide) (by decide)
  rw [anyPicks, SourceSet.defaultIncludes, List.any_cons, hpicks, Bool.true_or]

theorem default_picks_registry : anyPicks SourceSet.defaultIncludes (registryStem ++ scriptSuffix) = true := by
  decide +kernel

end Library

end JavaStubs
