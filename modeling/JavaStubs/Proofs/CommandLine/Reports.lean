import JavaStubs.CommandLine.Program
import JavaStubs.Proofs.Build.Distinct
import JavaStubs.Proofs.Build.Logging
import JavaStubs.Proofs.Value.Lines

/-! What the commands report can be read back from the line on which it is printed, whatever texts it is made of. -/
namespace JavaStubs

namespace Value

variable {fields more : List (String × Value)}

theorem plain_table_iff : (table fields).Plain ↔ (∀ f ∈ fields, f.2.Plain) ∧ (fields.map (·.1)).Nodup := by
  constructor
  · intro h
    cases h with
    | table hfields nodup => exact ⟨hfields, nodup⟩
  · exact fun ⟨hfields, nodup⟩ => .table hfields nodup

theorem plain_texts (ss : List String) : (texts ss).Plain := by
  apply Plain.array
  intro x hx
  obtain ⟨s, -, rfl⟩ := List.mem_map.1 hx
  exact .text s

theorem plain_ofText? (s : Option String) : (ofText? s).Plain := by
  cases s with
  | none => exact .null
  | some s => exact .text s

theorem plain_textTable {α : Type} {entries : List α} {key content : α → String} (nodup : (entries.map key).Nodup) :
    (table (entries.map fun e => (key e, .text (content e)))).Plain := by
  constructor
  · intro f hf
    obtain ⟨e, -, rfl⟩ := List.mem_map.1 hf
    exact .text (content e)
  · rwa [List.map_map]

theorem mem_mergeFields {f : String × Value} : f ∈ mergeFields fields more ↔
    (f ∈ fields ∧ ∀ m ∈ more, m.1 ≠ f.1) ∨ f ∈ more := by
  simp [mergeFields]

theorem plain_mergeFields (h : (table fields).Plain) (hmore : (table more).Plain) :
    (table (mergeFields fields more)).Plain := by
  obtain ⟨hplain, nodup⟩ := plain_table_iff.1 h
  obtain ⟨hplain', nodup'⟩ := plain_table_iff.1 hmore
  constructor
  · intro f hf
    rcases mem_mergeFields.1 hf with ⟨hf, -⟩ | hf
    · exact hplain f hf
    · exact hplain' f hf
  · unfold mergeFields
    rw [List.map_append, List.nodup_append]
    refine ⟨nodup.sublist (List.filter_sublist.map _), nodup', ?_⟩
    intro key hkey key' hkey'
    obtain ⟨f, hf, rfl⟩ := List.mem_map.1 hkey
    obtain ⟨m, hm, rfl⟩ := List.mem_map.1 hkey'
    have hother := (List.mem_filter.1 hf).2
    simp only [ne_eq, decide_not, List.all_eq_true, Bool.not_eq_true', decide_eq_false_iff_not] at hother
    exact Ne.symm (hother m hm)

theorem lookup_filter_key (p : String → Bool) (key : String) (fields : List (String × Value)) :
    (fields.filter fun f => p f.1).lookup key = if p key then fields.lookup key else none := by
  induction fields with
  | nil => simp
  | cons f fs ih =>
    obtain ⟨name, v⟩ := f
    rw [List.filter_cons]
    by_cases hkey : key = name
    · subst hkey
      cases hp : p key with
      | true => simp
      | false => simpa [hp] using ih
    · have hother : (key == name) = false := beq_eq_false_iff_ne.2 hkey
      cases hp : p name with
      | true => simpa [List.lookup_cons, hother] using ih
      | false => simpa [List.lookup_cons, hother] using ih

theorem lookup_mergeFields {key : String} (h : ∀ m ∈ more, m.1 ≠ key) :
    (mergeFields fields more).lookup key = fields.lookup key := by
  have hnone : more.lookup key = none := by
    rw [List.lookup_eq_none_iff]
    intro m hm
    simpa using (h m hm).symm
  have hkept : (more.all fun m => m.1 ≠ key) = true := by simpa using h
  unfold mergeFields
  rw [List.lookup_append, hnone, Option.or_none, lookup_filter_key (fun k => more.all fun m => m.1 ≠ k), if_pos hkept]

end Value

open Value

theorem SourceSet.plain_toValue (s : SourceSet) : s.toValue.Plain := by
  constructor
  · simp [plain_texts, plain_ofText?, Plain.text]
  · simp

theorem Config.plain_toValue (c : Config) : c.toValue.Plain := by
  have hsets : ∀ sets : Option (List SourceSet), (sourceSetsValue sets).Plain := by
    intro sets
    cases sets with
    | none => exact .null
    | some sets =>
      apply Plain.array
      intro x hx
      obtain ⟨s, -, rfl⟩ := List.mem_map.1 hx
      exact s.plain_toValue
  have hcompiler : (Value.table [("command", .texts c.command), ("timeout_seconds", .int c.timeout)]).Plain := by
    constructor
    · simp [plain_texts, Plain.int]
    · simp
  constructor
  · simp [plain_texts, plain_ofText?, Plain.text, hsets, hcompiler]
  · simp

theorem Report.plain_toFields (r : Report) : (Value.table r.toFields).Plain := by
  constructor
  · simp [toFields, plain_texts, Plain.text, Plain.int, Plain.bool]
  · simp [toFields]

theorem Request.plain_toValue {r : Request} (h : (r.options.map (·.1)).Nodup) : r.toValue.Plain := by
  constructor
  · intro f hf
    simp only [List.mem_cons, List.not_mem_nil, or_false] at hf
    rcases hf with rfl | rfl | rfl | rfl
    · exact .text _
    · exact plain_texts _
    · exact plain_textTable h
    · exact plain_texts _
  · simp

namespace CommandLine

theorem plain_setValue (set : SourceSet) (scripts : List Script) : (setValue set scripts).Plain := by
  have hvariables : (Value.table ((scripts.map fun x => Library.variableName x.baseName).eraseDups.map fun v =>
      (v, .text (Library.className v)))).Plain := by
    apply plain_textTable
    simpa using nodup_eraseDups (scripts.map fun x => Library.variableName x.baseName)
  unfold setValue setFields SourceSet.toValue
  dsimp only
  split
  · constructor
    · simp [plain_texts, plain_ofText?, Plain.text, hvariables]
    · simp
  · constructor
    · simp [plain_texts, plain_ofText?, Plain.text]
    · simp

theorem plain_baseFields (s : Settings) : (Value.table (baseFields s)).Plain := by
  constructor
  · simp [baseFields, Plain.text, Plain.int]
  · simp [baseFields]

def TellsSuccess (line : String) : Prop :=
  ∃ fields, Json.Holds line (.table fields) ∧ fields.lookup "status" = some (.text "ok")

/-- A line that holds one object, whose status is that of an error, with one error of the given code and message. -/
def TellsError (line : String) (code : Int) (message : String) : Prop :=
  ∃ fields entry, Json.Holds line (.table fields) ∧ fields.lookup "status" = some (.text "error") ∧
    fields.lookup "errors" = some (.array [entry]) ∧ entry.field? "code" = some (.int code) ∧
    entry.field? "message" = some (.text message)

theorem tellsSuccess_json {fields : List (String × Value)} (h : (Value.table fields).Plain)
    (hstatus : fields.lookup "status" = some (.text "ok")) : TellsSuccess ((Value.table fields).json .line) := by
  refine ⟨_, Json.holds_json h, ?_⟩
  have hsorted := field?_sorted (plain_table_iff.1 h).2 "status"
  rw [field?, hstatus] at hsorted
  exact hsorted

theorem tellsSuccess_report (s : Settings) {fields : List (String × Value)} (h : (Value.table fields).Plain)
    (hown : ∀ f ∈ fields, f.1 ≠ "status") :
    TellsSuccess ((Value.table (mergeFields (baseFields s) fields)).json .line) := by
  apply tellsSuccess_json (plain_mergeFields (plain_baseFields s) h)
  rw [lookup_mergeFields hown]
  rfl

theorem tellsSuccess_version : TellsSuccess (versionReport.json .line) := by
  apply tellsSuccess_json
  · constructor
    · simp [Plain.text, Plain.int]
    · simp
  · rfl

theorem tellsError_errorText (message kind runId : String) (code : Int) :
    TellsError (errorText true message code kind runId) code message := by
  have hentry : (Value.table [("code", .int code), ("kind", .text kind), ("message", .text message)]).Plain := by
    constructor
    · simp [Plain.text, Plain.int]
    · simp
  have herror : (Value.table [("schema_name", .text "stubgen.error.v1"), ("schema_version", .int reportVersion),
      ("tool", .text toolName), ("status", .text "error"), ("run_id", .text runId), ("errors", .array [.table
        [("code", .int code), ("kind", .text kind), ("message", .text message)]])]).Plain := by
    constructor
    · simp [Plain.text, Plain.int, Plain.array, hentry]
    · simp
  have hfields := (plain_table_iff.1 herror).2
  have hkeys := (plain_table_iff.1 hentry).2
  exact ⟨_, _, Json.holds_json herror, field?_sorted hfields "status", field?_sorted hfields "errors",
    field?_sorted hkeys "code", field?_sorted hkeys "message"⟩

end CommandLine

end JavaStubs
