import JavaStubs.Source.Suffix
import Mathlib.Data.Set.Function

/-! Which names a mapping covers, and what it makes of them. A suffix that holds a character is cut off in such a way
that appending it gives the name back, and so no two names become the same name. -/
namespace JavaStubs.SuffixMapping

variable {m : SuffixMapping} {front name : String}

theorem covers_iff : m.covers name = true ↔ ∃ stem, stem ≠ "" ∧ name = stem ++ m.source := by
  rw [covers, Bool.and_eq_true, decide_eq_true_eq, Text.endsWith, List.isSuffixOf_iff_suffix]
  constructor
  · intro ⟨⟨stem, hstem⟩, hlength⟩
    refine ⟨String.ofList stem, fun hempty => ?_, ?_⟩
    · have hnil : stem = [] := by simpa using congrArg String.toList hempty
      rw [← hstem, hnil] at hlength
      simp at hlength
    · rw [← String.toList_inj]
      simp [hstem]
  · intro ⟨stem, hne, hname⟩
    have hpos : 0 < stem.toList.length := by
      rw [List.length_pos_iff]
      exact fun hnil => hne (String.toList_inj.mp hnil)
    rw [hname, String.toList_append, List.length_append]
    exact ⟨List.suffix_append _ _, by omega⟩

/-- What stands in front of the last suffix is the stem, whether or not it ends in the suffix again. -/
theorem stem_append (hsource : m.source ≠ "") (hfront : front ≠ "") : m.stem (front ++ m.source) = front := by
  have hcovers : m.covers (front ++ m.source) = true := covers_iff.2 ⟨front, hfront, rfl⟩
  rw [stem, if_pos hcovers, if_neg hsource, Text.dropEnd_append]

theorem stem_of_source_empty (hsource : m.source = "") (hcovers : m.covers name = true) : m.stem name = "" := by
  rw [stem, if_pos hcovers, if_pos hsource]

theorem stem_ne_empty_iff (hcovers : m.covers name = true) : m.stem name ≠ "" ↔ m.source ≠ "" := by
  refine ⟨fun hstem hsource => hstem (stem_of_source_empty hsource hcovers), fun hsource => ?_⟩
  obtain ⟨front, hfront, rfl⟩ := covers_iff.1 hcovers
  rwa [stem_append hsource hfront]

/-- Appending the suffix undoes cutting it off, unless there is nothing to append. -/
theorem stem_append_source_iff (hcovers : m.covers name = true) : m.stem name ++ m.source = name ↔ m.source ≠ "" := by
  obtain ⟨front, hfront, rfl⟩ := covers_iff.1 hcovers
  rw [String.append_left_inj]
  constructor
  · intro hstem
    rw [← stem_ne_empty_iff hcovers, hstem]
    exact hfront
  · intro hsource
    exact stem_append hsource hfront

/-- Names become other names one to one, unless the suffix is empty, with which all become the same. -/
theorem injOn_targetName_iff : Set.InjOn m.targetName {name | m.covers name = true} ↔ m.source ≠ "" := by
  constructor
  · intro hinj hsource
    have hcovers : ∀ name, name ≠ "" → m.covers name = true := fun name hname =>
      covers_iff.2 ⟨name, hname, by rw [hsource, String.append_empty]⟩
    have ha := hcovers "a" (by decide)
    have hb := hcovers "b" (by decide)
    have hsame : m.targetName "a" = m.targetName "b" := by
      rw [targetName, targetName, stem_of_source_empty hsource ha, stem_of_source_empty hsource hb]
    exact absurd (hinj ha hb hsame) (by decide)
  · intro hsource a ha b hb hsame
    have hstem : m.stem a = m.stem b := (String.append_left_inj m.target).1 hsame
    calc a = m.stem a ++ m.source := ((stem_append_source_iff ha).2 hsource).symm
      _ = m.stem b ++ m.source := by rw [hstem]
      _ = b := (stem_append_source_iff hb).2 hsource

/-- The new name of a name that is covered is its stem with the other suffix. Exactly if the suffix is not empty, it gives
the name back, something is left in front of it, and different names get different new names. -/
theorem stem_undone_iff (m : SuffixMapping) :
    (∀ name, m.covers name = true → m.targetName name = m.stem name ++ m.target ∧
      (m.stem name ++ m.source = name ↔ m.source ≠ "") ∧ (m.stem name ≠ "" ↔ m.source ≠ "")) ∧
    (Set.InjOn m.targetName {name | m.covers name = true} ↔ m.source ≠ "") :=
  ⟨fun _ hcovers => ⟨rfl, stem_append_source_iff hcovers, stem_ne_empty_iff hcovers⟩, injOn_targetName_iff⟩

theorem undone_of_repeatedSuffix : groovyToJava.covers ".groovy.groovy" = true ∧
    groovyToJava.targetName ".groovy.groovy" = groovyToJava.stem ".groovy.groovy" ++ ".java" ∧
    groovyToJava.stem ".groovy.groovy" ++ ".groovy" = ".groovy.groovy" ∧ groovyToJava.stem ".groovy.groovy" ≠ "" := by
  have hcovers : groovyToJava.covers ".groovy.groovy" = true := by decide
  have hsource : groovyToJava.source ≠ "" := by decide
  obtain ⟨htarget, hback, hstem⟩ := (stem_undone_iff groovyToJava).1 ".groovy.groovy" hcovers
  exact ⟨hcovers, htarget, hback.2 hsource, hstem.2 hsource⟩

/-- Cutting the empty suffix off loses the name. -/
theorem name_may_be_lost : ¬∀ m : SuffixMapping,
    (∀ name, m.covers name = true → m.stem name ++ m.source = name ∧ m.stem name ≠ "" ∧
      m.targetName name = m.stem name ++ m.target) ∧ Set.InjOn m.targetName {name | m.covers name = true} := by
  intro hall
  have hback := ((hall ⟨"", ".java"⟩).1 "Foo.groovy" (by decide)).1
  exact absurd hback (by decide)

end JavaStubs.SuffixMapping
