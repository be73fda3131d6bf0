import JavaStubs.Proofs.Compiler.Once
import JavaStubs.Proofs.Compiler.Template
import JavaStubs.Proofs.Config.Language

/-! Which program is started: the first word of the command if that stays, and a source file only if no word stays. -/
namespace JavaStubs

namespace Request

variable {r : Request} {first : String} {rest command : List String}

theorem program_eq_nil_iff : r.program command = [] ↔ ∀ i, ¬r.Stays command i := by
  simp [program, List.filter_eq_nil_iff]

theorem head?_program (hlacks : r.lacks first = false)
    (hkept : ¬(r.isOption first = true ∧ ∃ behind, behind <+: rest ∧ r.TakesOut behind 1)) :
    (r.program (first :: rest)).head? = some (r.fill first) := by
  have hstays : r.Stays (first :: rest) ⟨0, Nat.zero_lt_succ _⟩ := ⟨hlacks, hkept⟩
  have hpositions : List.finRange (first :: rest).length =
      ⟨0, Nat.zero_lt_succ _⟩ :: (List.finRange rest.length).map Fin.succ := List.finRange_succ
  rw [program, hpositions, List.filter_cons, if_pos (decide_eq_true hstays)]
  rfl

end Request

namespace Compiler

variable {spec : CommandSpec} {r : Request} {first : String} {rest : List String}

/-- Running a compiler that is a command starts, if anything, what stays of the command with the files behind it. If the
first word of the command stays, that is the program; a source file can be the program only if no word stays. -/
theorem run_starts_program (hcommand : spec.command = first :: rest) (w : World) :
    r.commandLine spec.command = r.program spec.command ++ r.files.map FilePath.text ∧
      (∀ x ∈ ((runCommand spec r).runFrom w).2.started, x ∈ w.started ∨
        r.files ≠ [] ∧ x.command = r.program spec.command ++ r.files.map FilePath.text) ∧
      (r.program spec.command = [] ↔ ∀ i, ¬r.Stays spec.command i) ∧
      (r.lacks first = false →
        ¬(r.isOption first = true ∧ ∃ behind, behind <+: rest ∧ r.TakesOut behind 1) →
        (r.program spec.command).head? = some (r.fill first) ∧
          ∀ x ∈ ((runCommand spec r).runFrom w).2.started,
            x ∈ w.started ∨ x.command.head? = some (r.fill first)) := by
  have hstarted : ∀ x ∈ ((runCommand spec r).runFrom w).2.started, x ∈ w.started ∨
      r.files ≠ [] ∧ x.command = r.program spec.command ++ r.files.map FilePath.text := by
    intro x hx
    rcases started_of_runCommand spec r w with hsame | ⟨hfiles, hone⟩
    · exact .inl (hsame ▸ hx)
    · rw [hone, List.mem_append, List.mem_singleton] at hx
      refine hx.imp_right fun hx => ⟨hfiles, ?_⟩
      rw [hx, Request.commandLine_eq_program]
  refine ⟨r.commandLine_eq_program _, hstarted, Request.program_eq_nil_iff, fun hlacks hkept => ?_⟩
  have hhead : (r.program spec.command).head? = some (r.fill first) := by
    rw [hcommand]
    exact Request.head?_program hlacks hkept
  refine ⟨hhead, fun x hx => (hstarted x hx).imp_right fun ⟨_, hline⟩ => ?_⟩
  rw [hline, List.head?_append, hhead]
  rfl

def spacedSpec : CommandSpec where
  command := Request.spacedCommand
  directory := FilePath.ofText "/w"

theorem started_of_spacedSpec : spacedSpec.command = "stubc" :: Request.spacedCommand.tail ∧
    ((runCommand spacedSpec Request.sparseRequest).runFrom default).2.started.map (·.command) =
      [["stubc", "-d", "/w/out", "/w/A.groovy"]] ∧
    Request.sparseRequest.commandLine spacedSpec.command = Request.sparseRequest.program spacedSpec.command ++
      Request.sparseRequest.files.map FilePath.text ∧
    (Request.sparseRequest.program spacedSpec.command).head? = some "stubc" ∧
    ∀ x ∈ ((runCommand spacedSpec Request.sparseRequest).runFrom default).2.started,
      x ∈ (default : World).started ∨ x.command.head? = some "stubc" := by
  have hlacks : Request.sparseRequest.lacks "stubc" = false := by decide +kernel
  have hoption : Request.sparseRequest.isOption "stubc" = false := by decide +kernel
  have hfill : Request.sparseRequest.fill "stubc" = "stubc" := by decide +kernel
  have hcommand : spacedSpec.command = "stubc" :: Request.spacedCommand.tail := rfl
  obtain ⟨hline, -, -, hfirst⟩ := run_starts_program (r := Request.sparseRequest) hcommand default
  have hprogram := hfirst hlacks fun h => Bool.false_ne_true (hoption.symm.trans h.1)
  rw [hfill] at hprogram
  exact ⟨hcommand, by decide +kernel, hline, hprogram⟩

/-- If the word that names the program has a placeholder without a value, the first source file is taken for the
program. -/
theorem source_may_be_program : ¬∀ (v : Value) (config : Config) (r : Request) (first : String) (rest : List String),
    Config.parse v = .ok config → config.command = first :: rest → r.files ≠ [] →
      ∃ program, program ≠ [] ∧ r.commandLine config.command = program ++ r.files.map FilePath.text ∧
        program.head? = some (r.fill first) := by
  intro h
  let v : Value := .table [("compiler", .table [("command", .texts ["{classpath}/bin/stubc"])])]
  have hparse : Config.parse v = .ok (Config.ofValue v "<config>") := by
    rw [Config.parse, (by decide +kernel : Config.violation? v = none)]
  obtain ⟨program, hfilled, hline, -⟩ := h v _ Request.sparseRequest "{classpath}/bin/stubc" [] hparse rfl
    (List.cons_ne_nil _ _)
  have hfiles : Request.sparseRequest.commandLine (Config.ofValue v "<config>").command =
      Request.sparseRequest.files.map FilePath.text := by decide +kernel
  rw [hfiles] at hline
  exact hfilled (List.self_eq_append_left.1 hline)

end Compiler

end JavaStubs
