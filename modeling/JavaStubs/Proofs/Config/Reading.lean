import Mathlib.Data.List.Forall2
import JavaStubs.Proofs.Config.Language

/-! What a value in the documented language stands for: a configuration of which every field is the given value or its
default. -/
namespace JavaStubs.Config

def GivenOr {α : Type} (default : α) (R : Value → α → Prop) : Option Value → α → Prop
  | some x, a => R x a
  | none, a => a = default

def ReadsText (x : Value) (s? : Option String) : Prop :=
  ∃ s, x = .text s ∧ s? = some s

def ReadsTexts (x : Value) (ss : List String) : Prop :=
  x = .texts ss

def ReadsMode (x : Value) (mode : Mode) : Prop :=
  x = .text "auto" ∧ mode = .auto ∨ x = .text "plain" ∧ mode = .plain ∨ x = .text "global-vars" ∧ mode = .globalVars

structure ReadsSet (x : Value) (s : SourceSet) : Prop where
  directory : ∃ text, x.field? "directory" = some (.text text) ∧ s.directory = .ofText text
  includes : GivenOr ["**/*.groovy"] ReadsTexts (x.field? "includes") s.includes
  excludes : GivenOr [] ReadsTexts (x.field? "excludes") s.excludes
  lineEnding : GivenOr none ReadsText (x.field? "line-ending") s.lineEnding
  modelEncoding : GivenOr none ReadsText (x.field? "model-encoding") s.modelEncoding
  mode : GivenOr .auto ReadsMode (x.field? "mode") s.mode

def ReadsSets (x : Value) (sets? : Option (List SourceSet)) : Prop :=
  ∃ items sets, x = .array items ∧ sets? = some sets ∧ List.Forall₂ ReadsSet items sets

structure Reads (v : Value) (c : Config) : Prop where
  sourceEncoding : GivenOr none ReadsText (v.field? "source-encoding") c.sourceEncoding
  projectEncoding : GivenOr none ReadsText (v.field? "project-encoding") c.projectEncoding
  classPath : GivenOr [] ReadsTexts (v.field? "classpath") c.classPath
  outputDirectory : GivenOr none ReadsText (v.field? "output-directory") c.outputDirectory
  testOutputDirectory : GivenOr none ReadsText (v.field? "test-output-directory") c.testOutputDirectory
  command : GivenOr [] ReadsTexts ((v.field? "compiler").bind (·.field? "command")) c.command
  timeout : GivenOr 0 Whole ((v.field? "compiler").bind (·.field? "timeout-seconds")) c.timeout
  sources : GivenOr none ReadsSets (v.field? "sources") c.sources
  testSources : GivenOr none ReadsSets (v.field? "test-sources") c.testSources

section At

variable {v : Value} {key : String}

theorem givenOr_textAt (h : At key FilledText v) : GivenOr none ReadsText (v.field? key) (textAt key v) := by
  unfold textAt
  cases hx : v.field? key with
  | none => rfl
  | some x =>
    obtain ⟨s, rfl, -⟩ := h x hx
    exact ⟨s, rfl, rfl⟩

theorem texts_of_items (ss : List String) : (ss.map Value.text).filterMap Value.text? = ss := by
  rw [List.filterMap_map]
  exact List.filterMap_some

theorem givenOr_textsAt (default : List String) (h : At key FilledTexts v) :
    GivenOr default ReadsTexts (v.field? key) (textsAt key v default) := by
  unfold textsAt
  cases hx : v.field? key with
  | none => rfl
  | some x =>
    obtain ⟨ss, rfl, -⟩ := h x hx
    exact congrArg Value.texts (texts_of_items ss).symm

theorem givenOr_mode (h : At key (fun x => x = .text "auto" ∨ x = .text "plain" ∨ x = .text "global-vars") v) :
    GivenOr .auto ReadsMode (v.field? key) (((textAt key v).map Mode.ofWord).getD .auto) := by
  unfold textAt
  cases hx : v.field? key with
  | none => rfl
  | some x =>
    rcases h x hx with rfl | rfl | rfl
    · exact .inl ⟨rfl, rfl⟩
    · exact .inr (.inl ⟨rfl, rfl⟩)
    · exact .inr (.inr ⟨rfl, rfl⟩)

theorem readsSet_sourceSetOf (h : DocumentedSet v) : ReadsSet v (sourceSetOf v) where
  directory := by
    obtain ⟨x, hx, s, rfl, -⟩ := h.directory
    refine ⟨s, hx, ?_⟩
    simp [sourceSetOf, textAt, hx, Value.text?]
  includes := givenOr_textsAt _ h.includes
  excludes := givenOr_textsAt _ h.excludes
  lineEnding := givenOr_textAt h.lineEnding
  modelEncoding := givenOr_textAt h.modelEncoding
  mode := givenOr_mode h.mode

theorem givenOr_sourceSetsAt (h : At key DocumentedSets v) :
    GivenOr none ReadsSets (v.field? key) (sourceSetsAt key v) := by
  unfold sourceSetsAt
  cases hx : v.field? key with
  | none => rfl
  | some x =>
    obtain ⟨items, rfl, hitems⟩ := h x hx
    refine ⟨items, items.map sourceSetOf, rfl, rfl, ?_⟩
    rw [List.forall₂_map_right_iff, List.forall₂_same]
    exact fun x hx => readsSet_sourceSetOf (hitems x hx)

theorem givenOr_count (h : At key (fun x => ∃ n, Whole x n) v) :
    GivenOr 0 Whole (v.field? key) (((v.field? key).bind integer?).getD 0).toNat := by
  cases hx : v.field? key with
  | none => rfl
  | some x =>
    obtain ⟨n, hn⟩ := h x hx
    rw [Option.bind_some, integer?_eq_some_iff.2 hn]
    exact hn

end At

theorem origin_ofValue (v : Value) (origin : String) : (ofValue v origin).origin = origin := rfl

theorem reads_ofValue {v : Value} (h : Documented v) (origin : String) : Reads v (ofValue v origin) where
  sourceEncoding := givenOr_textAt h.sourceEncoding
  projectEncoding := givenOr_textAt h.projectEncoding
  classPath := givenOr_textsAt _ h.classPath
  outputDirectory := givenOr_textAt h.outputDirectory
  testOutputDirectory := givenOr_textAt h.testOutputDirectory
  command := by
    unfold ofValue
    cases hx : v.field? "compiler" with
    | none => rfl
    | some x =>
      have hcommand := (h.compiler x hx).command
      exact givenOr_textsAt _ fun y hy => (hcommand y hy).1
  timeout := by
    unfold ofValue
    cases hx : v.field? "compiler" with
    | none => rfl
    | some x => exact givenOr_count (h.compiler x hx).timeout
  sources := givenOr_sourceSetsAt h.sources
  testSources := givenOr_sourceSetsAt h.testSources

theorem parse_of_documented {v : Value} (h : Documented v) (origin : String) :
    parse v origin = .ok (ofValue v origin) := by
  rw [parse, violation?_eq_none_iff.2 h]

theorem parse_of_not_documented {v : Value} (h : ¬Documented v) (origin : String) :
    ∃ violation, parse v origin = .error (.invalidConfig origin violation) := by
  rw [← violation?_eq_none_iff] at h
  obtain ⟨violation, hviolation⟩ := Option.ne_none_iff_exists'.1 h
  exact ⟨violation, by rw [parse, hviolation]⟩

theorem documented_of_parse {v : Value} {origin : String} {c : Config} (h : parse v origin = .ok c) : Documented v := by
  by_contra hnot
  obtain ⟨violation, hparse⟩ := parse_of_not_documented hnot origin
  cases hparse.symm.trans h

theorem interpret_of_documented {v : Value} (h : Documented v) (origin : String) :
    interpret v origin = .ok (ofValue v origin) := by
  have hnone : violations shape v = [] := (violations_eq_nil_iff _ _).2 ((fits_shape v).2 h)
  have hshown : reportable v = true := by rw [reportable, hnone, List.all_nil]
  rw [interpret_of_reportable hshown, parse_of_documented h]
  rfl

/-- A part of a value departs from the documented language, and the message about it would show an integer with more than
4300 digits. -/
def Unshowable (v : Value) : Prop :=
  ∃ departs ∈ violations shape v, ∃ shown, departs.departure.shown? = some shown ∧ shown.showable = false

theorem reportable_eq_false_iff {v : Value} : reportable v = false ↔ Unshowable v := by
  simp only [reportable, Unshowable, List.all_eq_false, Bool.not_eq_true]
  refine exists_congr fun departs => and_congr_right fun _ => ?_
  cases departs.departure.shown? <;> simp

theorem interpret_of_not_documented {v : Value} (h : ¬Documented v) (origin : String) :
    Unshowable v ∧ interpret v origin = .error (.badValue (Value.overlong none)) ∨
      ¬Unshowable v ∧ ∃ violation, interpret v origin = .error (.stub (.invalidConfig origin violation)) := by
  rw [← reportable_eq_false_iff]
  cases hshown : reportable v with
  | false => exact .inl ⟨rfl, interpret_of_not_reportable hshown⟩
  | true =>
    obtain ⟨violation, hparse⟩ := parse_of_not_documented h origin
    rw [interpret_of_reportable hshown, hparse]
    exact .inr ⟨Bool.noConfusion, violation, rfl⟩

end JavaStubs.Config
