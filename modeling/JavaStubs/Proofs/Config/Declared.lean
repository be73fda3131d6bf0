import JavaStubs.Proofs.Config.Faults
import JavaStubs.Proofs.Config.Reading

/-! When the section that a configuration file has for the tool is heeded: the configuration is then what the section
stands for, and a section outside the documented language is refused. -/
namespace JavaStubs.Config

variable {d : Disk} {root path : FilePath} {explicit : Option String} {v x y : Value} {origin : String}

/-- The configuration file of a project has a value for the tool, under `tool.stubgen`, and whatever else. -/
def Declares (d : Disk) (root : FilePath) (explicit : Option String) (path : FilePath) (x : Value) : Prop :=
  ∃ v tool, FileSays d root explicit path v ∧ v.field? "tool" = some tool ∧ tool.field? "stubgen" = some x

theorem declares_of_reading {α : Type} {g : Value → Option α} {a : α}
    (hfile : (file? d root explicit).toOption = some (some path))
    (hread : (((readTable d path).toOption.bind (·.field? "tool")).bind (·.field? "stubgen")).bind g = some a) :
    ∃ x, Declares d root explicit path x ∧ g x = some a := by
  obtain ⟨x, hx, ha⟩ := Option.bind_eq_some_iff.1 hread
  obtain ⟨tool, htool, hx⟩ := Option.bind_eq_some_iff.1 hx
  obtain ⟨v, hsaid, htool⟩ := fileSays_of_reading hfile htool
  exact ⟨x, ⟨v, tool, hsaid, htool, hx⟩, ha⟩

/-- The configuration of a project is what a value stands for. There is none if the value is outside the documented
language, which is told as such wherever the message can be written. -/
structure Heeds (d : Disk) (root : FilePath) (explicit : Option String) (origin : String) (x : Value) : Prop where
  loads_iff : (∃ c, load d root explicit = .ok c) ↔ Documented x
  loaded : ∀ c, load d root explicit = .ok c → interpret x origin = .ok c
  refused : ¬Documented x → ¬Unreportable d root explicit → ∃ f, load d root explicit = .error f ∧ f.OfConfiguration

/-- In the common file only a table counts as a section. -/
def Overlooked (path : FilePath) (x : Value) : Prop :=
  path.name = commonFile ∧ table? x = none

theorem eq_of_table? (h : table? x = some y) : y = x := by
  unfold table? at h
  split at h
  · exact (Option.some.inj h).symm
  · cases h

theorem not_documented_of_notATable (h : table? x = none) : ¬Documented x := by
  intro hx
  obtain ⟨fields, rfl, -⟩ := hx.keys
  cases h

/-- The documented language has no `tool`: a whole file with a section is outside. -/
theorem not_documented_of_tool (h : v.field? "tool" = some x) : ¬Documented v := by
  intro hv
  obtain ⟨fields, rfl, hkeys⟩ := hv.keys
  obtain ⟨before, after, rfl, -⟩ := List.lookup_eq_some_iff.1 h
  exact absurd (hkeys ("tool", x) (by simp)) (by simp)

section Sections

variable {tool : Value}

theorem sectionOf_common (hname : path.name = commonFile) (htool : v.field? "tool" = some tool)
    (hx : tool.field? "stubgen" = some x) : sectionOf path v = .ok (table? x) := by
  cases tool with
  | table fields =>
    have hx : fields.lookup "stubgen" = some x := hx
    rw [sectionOf, if_pos hname, commonSection, htool]
    dsimp only
    rw [hx, Option.bind_some]
  | _ => cases hx

theorem sectionOf_own (hname : path.name ≠ commonFile) (htool : v.field? "tool" = some tool)
    (hx : tool.field? "stubgen" = some x) : sectionOf path v = .ok (some ((table? x).getD v)) := by
  rw [sectionOf, if_neg hname, ownSection, htool, Option.bind_some, hx, Option.bind_some]

theorem load_of_section (hsaid : FileSays d root explicit path v) (hsection : sectionOf path v = .ok (some y)) :
    load d root explicit = interpret y path.text := by
  rw [load_eq_ofDocument hsaid, ofDocument, hsection]
  rfl

theorem refused_of_section (hsaid : FileSays d root explicit path v) (hsection : sectionOf path v = .ok (some y))
    (hy : ¬Documented y) : ∃ f, load d root explicit = .error f ∧ (¬Unreportable d root explicit → f.OfConfiguration) := by
  rw [load_of_section hsaid hsection]
  rcases interpret_of_not_documented hy path.text with ⟨hshown, hrefused⟩ | ⟨-, violation, hrefused⟩
  · have hunreportable : Unreportable d root explicit :=
      ⟨path, v, y, hsaid, hsection, reportable_eq_false_iff.2 hshown⟩
    exact ⟨_, hrefused, fun h => absurd hunreportable h⟩
  · exact ⟨_, hrefused, fun _ => Failure.ofConfiguration_stub rfl⟩

theorem heeds_of_section (hsaid : FileSays d root explicit path v) (hsection : sectionOf path v = .ok (some x)) :
    Heeds d root explicit path.text x where
  loads_iff := by
    constructor
    · rintro ⟨c, hc⟩
      by_contra hx
      obtain ⟨f, hf, -⟩ := refused_of_section hsaid hsection hx
      cases hf.symm.trans hc
    · intro hx
      rw [load_of_section hsaid hsection, interpret_of_documented hx]
      exact ⟨_, rfl⟩
  loaded c hc := by
    rwa [load_of_section hsaid hsection] at hc
  refused hx hreportable := by
    obtain ⟨f, hf, hconfiguration⟩ := refused_of_section hsaid hsection hx
    exact ⟨f, hf, hconfiguration hreportable⟩

/-- A value outside the language is heeded by refusing whatever else is read in its place. -/
theorem heeds_of_refused (hsaid : FileSays d root explicit path v) (hsection : sectionOf path v = .ok (some y))
    (hy : ¬Documented y) (hx : ¬Documented x) : Heeds d root explicit origin x := by
  obtain ⟨f, hf, hconfiguration⟩ := refused_of_section hsaid hsection hy
  constructor
  · rw [hf]
    exact ⟨nofun, fun h => absurd h hx⟩
  · intro c hc
    cases hf.symm.trans hc
  · intro _ hreportable
    exact ⟨f, hf, hconfiguration hreportable⟩

end Sections

theorem load_of_overlooked (h : Declares d root explicit path x) (hx : Overlooked path x) :
    load d root explicit = .ok { origin := path.text } := by
  obtain ⟨v, tool, hsaid, htool, hfield⟩ := h
  have hsection := sectionOf_common hx.1 htool hfield
  rw [hx.2] at hsection
  rw [load_eq_ofDocument hsaid, ofDocument, hsection]
  rfl

theorem heeds_of_table (h : Declares d root explicit path x) (hx : table? x = some y) :
    Heeds d root explicit path.text x := by
  obtain rfl := eq_of_table? hx
  obtain ⟨v, tool, hsaid, htool, hfield⟩ := h
  have hsection : sectionOf path v = .ok (some y) := by
    by_cases hname : path.name = commonFile
    · rw [sectionOf_common hname htool hfield, hx]
    · rw [sectionOf_own hname htool hfield, hx, Option.getD_some]
  exact heeds_of_section hsaid hsection

/-- In a file of the tool's own, a section that is no table leaves the whole file as the settings, which are refused. -/
theorem heeds_of_own (h : Declares d root explicit path x) (hname : path.name ≠ commonFile) (hx : table? x = none) :
    Heeds d root explicit path.text x := by
  obtain ⟨v, tool, hsaid, htool, hfield⟩ := h
  have hsection := sectionOf_own hname htool hfield
  rw [hx, Option.getD_none] at hsection
  exact heeds_of_refused hsaid hsection (not_documented_of_tool htool) (not_documented_of_notATable hx)

def sectionedSample : Disk :=
  commonSample "[project]\nname = 'p'\n[tool.stubgen]\nsource-encoding = 'UTF-8'\n"

def repeatedSample : Disk :=
  commonSample "[[tool.stubgen]]\nclasspath = ['a.jar']\n"

end JavaStubs.Config
