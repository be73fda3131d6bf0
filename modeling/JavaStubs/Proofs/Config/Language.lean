import JavaStubs.Config.Load
import JavaStubs.Proofs.Config.Fits

/-! The documented language of configurations: the values in which no departure is found. -/
namespace JavaStubs.Config

def At (key : String) (P : Value → Prop) (v : Value) : Prop :=
  ∀ x, v.field? key = some x → P x

def TableOf (keys : List String) (v : Value) : Prop :=
  ∃ fields, v = .table fields ∧ ∀ f ∈ fields, f.1 ∈ keys

def FilledText (v : Value) : Prop :=
  ∃ s, v = .text s ∧ s ≠ ""

def FilledTexts (v : Value) : Prop :=
  ∃ ss, v = .texts ss ∧ ∀ s ∈ ss, s ≠ ""

/-- A number is equal to a natural one. Truth values are no numbers. -/
def Whole (v : Value) (n : Nat) : Prop :=
  v = .int n ∨ ∃ x, v = .real x ∧ x.Equals n

structure DocumentedSet (v : Value) : Prop where
  keys : TableOf ["directory", "includes", "excludes", "line-ending", "model-encoding", "mode"] v
  directory : ∃ x, v.field? "directory" = some x ∧ FilledText x
  includes : At "includes" FilledTexts v
  excludes : At "excludes" FilledTexts v
  lineEnding : At "line-ending" FilledText v
  modelEncoding : At "model-encoding" FilledText v
  mode : At "mode" (fun x => x = .text "auto" ∨ x = .text "plain" ∨ x = .text "global-vars") v

structure DocumentedCompiler (v : Value) : Prop where
  keys : TableOf ["command", "timeout-seconds"] v
  command : At "command" (fun x => FilledTexts x ∧ x ≠ .array []) v
  timeout : At "timeout-seconds" (fun x => ∃ n, Whole x n) v

def DocumentedSets (v : Value) : Prop :=
  ∃ items, v = .array items ∧ ∀ x ∈ items, DocumentedSet x

/-- The documented language. -/
structure Documented (v : Value) : Prop where
  keys : TableOf ["source-encoding", "project-encoding", "classpath", "output-directory", "test-output-directory",
    "compiler", "sources", "test-sources"] v
  sourceEncoding : At "source-encoding" FilledText v
  projectEncoding : At "project-encoding" FilledText v
  classPath : At "classpath" FilledTexts v
  outputDirectory : At "output-directory" FilledText v
  testOutputDirectory : At "test-output-directory" FilledText v
  compiler : At "compiler" DocumentedCompiler v
  sources : At "sources" DocumentedSets v
  testSources : At "test-sources" DocumentedSets v

section Fits

variable {v : Value} {item : Shape} {required words : List String} {nonempty : Bool} {fields : List (String × Shape)}

theorem fits_text (v : Value) : Fits .text v ↔ FilledText v := by
  constructor
  · rintro ⟨hs⟩
    exact ⟨_, rfl, hs⟩
  · rintro ⟨s, rfl, hs⟩
    exact .text hs

theorem fits_list_iff : Fits (.list nonempty item) v ↔
    ∃ items, v = .array items ∧ (nonempty = true → items ≠ []) ∧ ∀ x ∈ items, Fits item x := by
  constructor
  · rintro ⟨⟩
    exact ⟨_, rfl, ‹_›, ‹_›⟩
  · rintro ⟨items, rfl, hfilled, hfits⟩
    exact .list hfilled hfits

theorem filledTexts_of_items {items : List Value} (h : ∀ x ∈ items, FilledText x) : FilledTexts (.array items) := by
  induction items with
  | nil => exact ⟨[], rfl, nofun⟩
  | cons x items ih =>
    rw [List.forall_mem_cons] at h
    obtain ⟨⟨s, rfl, hs⟩, hitems⟩ := h
    obtain ⟨ss, hss, hfilled⟩ := ih hitems
    refine ⟨s :: ss, ?_, List.forall_mem_cons.2 ⟨hs, hfilled⟩⟩
    rw [Value.array.inj hss]
    rfl

theorem fits_texts_iff : Fits (.list nonempty .text) v ↔ FilledTexts v ∧ (nonempty = true → v ≠ .array []) := by
  simp only [fits_list_iff, fits_text]
  constructor
  · rintro ⟨items, rfl, hfilled, hfits⟩
    exact ⟨filledTexts_of_items hfits, fun h heq => hfilled h (Value.array.inj heq)⟩
  · rintro ⟨⟨ss, rfl, hss⟩, hfilled⟩
    refine ⟨_, rfl, fun h heq => hfilled h (congrArg Value.array heq), ?_⟩
    rw [List.forall_mem_map]
    exact fun s hs => ⟨s, rfl, hss s hs⟩

theorem fits_word_iff : Fits (.word words) v ↔ ∃ s ∈ words, v = .text s := by
  constructor
  · rintro (_ | _ | hs)
    exact ⟨_, hs, rfl⟩
  · rintro ⟨s, hs, rfl⟩
    exact .word hs

theorem integer?_eq_some_iff {n : Nat} : integer? v = some (n : Int) ↔ Whole v n := by
  cases v with
  | int k => simp [integer?, Whole]
  | real x => simpa [Whole, integer?] using Number.Real64.toInt?_eq_some_iff
  | _ => exact ⟨nofun, nofun⟩

theorem fits_count (v : Value) : Fits .count v ↔ ∃ n, Whole v n := by
  constructor
  · rintro (_ | ⟨hwhole, hnonneg⟩)
    obtain ⟨n, rfl⟩ := Int.eq_ofNat_of_zero_le hnonneg
    exact ⟨n, integer?_eq_some_iff.1 hwhole⟩
  · rintro ⟨n, hn⟩
    exact .count (integer?_eq_some_iff.2 hn) (Int.natCast_nonneg n)

theorem fits_table_iff : Fits (.table required fields) v ↔
    TableOf (fields.map (·.1)) v ∧ (∀ k ∈ required, (v.field? k).isSome) ∧ ∀ f ∈ fields, At f.1 (Fits f.2) v := by
  constructor
  · rintro ⟨⟩
    exact ⟨⟨_, rfl, ‹_›⟩, ‹_›, ‹_›⟩
  · rintro ⟨⟨given, rfl, hknown⟩, hthere, hfits⟩
    exact .table hknown hthere hfits

end Fits

theorem at_congr {key : String} {P Q : Value → Prop} (h : ∀ x, P x ↔ Q x) (v : Value) : At key P v ↔ At key Q v :=
  forall_congr' fun x => imp_congr_right fun _ => h x

theorem fits_texts (v : Value) : Fits texts v ↔ FilledTexts v := by
  simp [texts, fits_texts_iff]

theorem fits_command (v : Value) : Fits (.list true .text) v ↔ FilledTexts v ∧ v ≠ .array [] := by
  simp [fits_texts_iff]

theorem fits_mode (v : Value) : Fits (.word (Mode.words.map (·.1))) v ↔
    v = .text "auto" ∨ v = .text "plain" ∨ v = .text "global-vars" := by
  simp [fits_word_iff, Mode.words]

theorem fits_sourceSetShape (v : Value) : Fits sourceSetShape v ↔ DocumentedSet v := by
  simp only [sourceSetShape, fits_table_iff, List.map_cons, List.map_nil, List.forall_mem_cons, List.not_mem_nil,
    false_implies, implies_true, and_true, at_congr fits_texts, at_congr fits_mode, at_congr fits_text]
  constructor
  · rintro ⟨hkeys, hthere, hdirectory, hincludes, hexcludes, hending, hencoding, hmode⟩
    obtain ⟨x, hx⟩ := Option.isSome_iff_exists.1 hthere
    exact ⟨hkeys, ⟨x, hx, hdirectory x hx⟩, hincludes, hexcludes, hending, hencoding, hmode⟩
  · rintro ⟨hkeys, ⟨x, hx, hfilled⟩, hincludes, hexcludes, hending, hencoding, hmode⟩
    refine ⟨hkeys, Option.isSome_iff_exists.2 ⟨x, hx⟩, ?_, hincludes, hexcludes, hending, hencoding, hmode⟩
    intro y hy
    cases hx.symm.trans hy
    exact hfilled

theorem fits_sourceSets (v : Value) : Fits (.list false sourceSetShape) v ↔ DocumentedSets v := by
  simp [fits_list_iff, fits_sourceSetShape, DocumentedSets]

theorem fits_compilerShape (v : Value) : Fits compilerShape v ↔ DocumentedCompiler v := by
  simp only [compilerShape, fits_table_iff, List.map_cons, List.map_nil, List.forall_mem_cons, List.not_mem_nil,
    false_implies, implies_true, and_true, true_and, at_congr fits_command, at_congr fits_count]
  constructor
  · rintro ⟨hkeys, hcommand, htimeout⟩
    exact ⟨hkeys, hcommand, htimeout⟩
  · rintro ⟨hkeys, hcommand, htimeout⟩
    exact ⟨hkeys, hcommand, htimeout⟩

theorem fits_shape (v : Value) : Fits shape v ↔ Documented v := by
  simp only [shape, fits_table_iff, List.map_cons, List.map_nil, List.forall_mem_cons, List.not_mem_nil,
    false_implies, implies_true, and_true, true_and, at_congr fits_texts, at_congr fits_text,
    at_congr fits_compilerShape, at_congr fits_sourceSets]
  constructor
  · rintro ⟨hkeys, hsource, hproject, hclassPath, houtput, htest, hcompiler, hsources, htestSources⟩
    exact ⟨hkeys, hsource, hproject, hclassPath, houtput, htest, hcompiler, hsources, htestSources⟩
  · rintro ⟨hkeys, hsource, hproject, hclassPath, houtput, htest, hcompiler, hsources, htestSources⟩
    exact ⟨hkeys, hsource, hproject, hclassPath, houtput, htest, hcompiler, hsources, htestSources⟩

theorem reported?_eq_none_iff {vs : List Violation} : reported? vs = none ↔ vs = [] := by
  cases vs <;> simp [reported?]

theorem violation?_eq_none_iff {v : Value} : violation? v = none ↔ Documented v := by
  rw [violation?, reported?_eq_none_iff, violations_eq_nil_iff, fits_shape]

end JavaStubs.Config
