import JavaStubs.Proofs.CommandLine.Commands
import JavaStubs.Proofs.CommandLine.ExitCodes
import JavaStubs.Proofs.CommandLine.Reports

/-! What a run prints where JSON is asked for: one report on the standard output if it succeeds, and otherwise an
error as the last line of the standard error. -/
namespace JavaStubs.CommandLine

open Acting

/-- From a world, an action that succeeds prints one report, and one that fails prints nothing. Log events may be written
in either case. -/
structure PrintsReport (act : Action Unit) (w : World) : Prop where
  succeeding : ∀ {w'}, act.runFrom w = (.ok (), w') → ∃ line, TellsSuccess line ∧ w.Wrote (line ++ "\n") w'
  failing : ∀ {e w'}, act.runFrom w = (.error e, w') → w.Wrote "" w'

variable {s : Settings} {a : Arguments} {w : World}

namespace PrintsReport

theorem bind {act : Action α} {f : α → Action Unit} (h : act.Logs)
    (hf : ∀ x w', act.runFrom w = (.ok x, w') → PrintsReport (f x) w') : PrintsReport (act >>= f) w := by
  have hfirst : w.Wrote "" (act.runFrom w).2 := h w
  constructor
  · intro w' hrun
    obtain ⟨x, w₁, hact, hrest⟩ := bind_ok hrun
    obtain ⟨line, hline, hprinted⟩ := (hf x w₁ hact).succeeding hrest
    rw [hact] at hfirst
    have hwrote : w.Wrote ("" ++ (line ++ "\n")) w' := hfirst.trans hprinted
    rw [String.empty_append] at hwrote
    exact ⟨line, hline, hwrote⟩
  · intro e w' hrun
    rcases bind_error hrun with hact | ⟨x, w₁, hact, hrest⟩
    · rwa [hact] at hfirst
    · rw [hact] at hfirst
      exact trans_of (World.Wrote "") hfirst ((hf x w₁ hact).failing hrest)

/-- Nothing can fail after the report, but it may be logged that all is done. -/
theorem andLog {act : Action Unit} (h : PrintsReport act w) (s : Settings) (e : Log.Event) :
    PrintsReport (act >>= fun _ => Log.write s e) w := by
  have hlog : ∀ w' : World, w'.Wrote "" ((Log.write s e).runFrom w').2 := Action.logs_log s e
  constructor
  · intro w' hrun
    obtain ⟨⟨⟩, w₁, hact, hwritten⟩ := bind_ok hrun
    obtain ⟨line, hline, hprinted⟩ := h.succeeding hact
    have hlogged := hlog w₁
    rw [hwritten] at hlogged
    have hwrote : w.Wrote ((line ++ "\n") ++ "") w' := hprinted.trans hlogged
    rw [String.append_empty] at hwrote
    exact ⟨line, hline, hwrote⟩
  · intro e' w' hrun
    rcases bind_error hrun with hact | ⟨⟨⟩, w₁, hact, hwritten⟩
    · exact h.failing hact
    · obtain ⟨text, hok⟩ := Log.runFrom_write s e w₁
      cases hok.symm.trans hwritten

theorem throw (f : Failure) : PrintsReport (throw f) w := by
  constructor
  · rintro w' ⟨⟩
  · rintro e w' ⟨⟩
    exact refl_of (World.Wrote "") w

theorem report {fields : List (String × Value)} (h : ∀ f ∈ fields, f.2.Plain)
    (hkeys : ("status" :: fields.map (·.1)).Nodup) : PrintsReport (printReport s .line fields) w := by
  obtain ⟨hstatus, nodup⟩ := List.nodup_cons.1 hkeys
  have hown : ∀ f ∈ fields, f.1 ≠ "status" := by
    intro f hf hkey
    exact hstatus (hkey ▸ List.mem_map_of_mem hf)
  constructor
  · rintro w' ⟨⟩
    refine ⟨_, tellsSuccess_report s (.table h nodup) hown, rfl, "", ?_, .none⟩
    exact String.append_empty.symm
  · rintro e w' ⟨⟩

end PrintsReport

theorem logs_building {compiler : Compiler} {host : Host} {act : BuildAction α} (h : act.Logs) :
    (building compiler host act).Logs := by
  intro w
  have hlogged := (h ⟨w, compiler, host⟩).world
  rcases hact : act.runFrom ⟨w, compiler, host⟩ with ⟨r, b⟩
  rw [hact] at hlogged
  rw [runFrom_building hact]
  exact hlogged

section Commands

variable (hformat : s.format = .json)
include hformat

theorem printsReport_dump : PrintsReport (dump s a) w := by
  unfold dump
  rw [if_pos hformat]
  refine .bind (Action.logs_look _) fun config _ _ => ?_
  split
  · exact .report (by simp [config.plain_toValue]) (by simp)
  · exact .throw _

theorem printsReport_validate : PrintsReport (validate s a) w := by
  unfold validate
  refine .bind (Action.logs_look _) fun config _ _ => ?_
  rw [if_pos hformat]
  exact .report (by simp [Value.Plain.text]) (by simp)

theorem printsReport_scan : PrintsReport (scan s a) w := by
  unfold scan
  refine .bind (Action.logs_look _) fun config _ _ => .bind (Action.logs_look _) fun listing _ _ => ?_
  rw [if_pos hformat]
  refine .report ?_ (by simp)
  intro f hf
  obtain rfl := List.mem_singleton.1 hf
  apply Value.Plain.array
  intro x hx
  obtain ⟨⟨set, scripts⟩, -, rfl⟩ := List.mem_map.1 hx
  exact plain_setValue set scripts

theorem printsReport_normalize : PrintsReport (normalize s a) w := by
  have htarget : (stubDirectory s a).Logs := by
    unfold stubDirectory
    split
    · exact .pure _
    · exact .andThen (Action.logs_look _) fun _ => .pure _
  unfold normalize
  refine .bind htarget fun target _ _ => .bind (Action.logs_resetTimes _) fun count _ _ => ?_
  rw [if_pos hformat]
  exact .report (by simp [Value.Plain.text, Value.Plain.int]) (by simp)

/-- The report of a build shows the noted request, in which no option has two values. -/
theorem printsReport_generate : PrintsReport (generate s a) w := by
  unfold generate
  refine .bind (Action.logs_look _) fun config _ _ => .bind (Compiler.logs_ofConfig _ _ _) fun compiler w₁ hmade => ?_
  have hlogs := BuildAction.logs_generate s (overridden s a config)
  refine .bind (logs_building hlogs) fun built w₂ hbuilt => ?_
  have honce : built.2.compiler.SetOnce := by
    have hlogged := (hlogs ⟨w₁, compiler, Project.host s (overridden s a config)⟩).compiler (Compiler.setOnce_of_ofConfig hmade)
    rcases hact : (BuildAction.generate s (overridden s a config)).runFrom
      ⟨w₁, compiler, Project.host s (overridden s a config)⟩ with ⟨_ | r, b⟩
    · cases (runFrom_building hact).symm.trans hbuilt
    · cases (runFrom_building hact).symm.trans hbuilt
      rwa [hact] at hlogged
  refine .bind (Action.logs_writeJson _ _) fun state _ _ => ?_
  dsimp only
  rw [if_pos hformat]
  -- The compiler was made for this build, so its noted request has the options that this build has set.
  have hshown : ∀ r, (if built.2.compiler.engine.isDry then built.2.compiler.noted? else none) = some r →
      r.toValue.Plain := by
    intro r hr
    split at hr
    · exact Request.plain_toValue (honce.noted r hr)
    · cases hr
  generalize (if built.2.compiler.engine.isDry then built.2.compiler.noted? else none) = shown? at hshown ⊢
  have hfields := (Value.plain_table_iff.1 built.1.plain_toFields).1
  apply PrintsReport.report
  · intro f hf
    simp only [List.mem_append, List.mem_singleton, List.mem_map, Option.mem_toList] at hf
    rcases hf with (hf | rfl) | ⟨r, hr, rfl⟩
    · exact hfields f hf
    · exact .text _
    · exact hshown r hr
  · cases shown? <;> simp [Report.toFields]

theorem printsReport_perform (hcommands : a.commands ∈ performable) (hversion : a.commands ≠ [.version]) :
    PrintsReport (perform s a) w := by
  simp only [performable, List.mem_cons, List.not_mem_nil, or_false] at hcommands
  unfold perform
  rcases hcommands with h | h | h | h | h | h
  · exact absurd h hversion
  · rw [h]
    exact printsReport_generate hformat
  · rw [h]
    exact printsReport_scan hformat
  · rw [h]
    exact printsReport_normalize hformat
  · rw [h]
    exact printsReport_dump hformat
  · rw [h]
    exact printsReport_validate hformat

theorem printsReport_performLogged (hcommands : a.commands ∈ performable) (hversion : a.commands ≠ [.version]) :
    PrintsReport (performLogged s a) w :=
  .bind (Action.logs_log _ _) fun _ _ _ => (printsReport_perform hformat hcommands hversion).andLog _ _

end Commands

def reportedMessage : Failure → String
  | .stub e => e.message
  | f => "internal error: " ++ f.message

theorem runFrom_report_json (runId : String) (f : Failure) (w : World) :
    ∃ exit line, (report true runId f).runFrom w = (.ok exit, { w with stderr := w.stderr ++ (line ++ "\n") }) ∧
      exit.isUsage = false ∧ exit.code ≠ 0 ∧ TellsError line exit.code (reportedMessage f) := by
  have hcode : ∀ cls : ErrorClass, cls.exitCode ≠ 0 := by
    intro cls
    cases cls <;> decide
  by_cases hstub : ∃ e, f = .stub e
  · obtain ⟨e, rfl⟩ := hstub
    exact ⟨_, _, runFrom_report_stub true runId e w, rfl, hcode e.errorClass, tellsError_errorText _ _ _ _⟩
  · have hun : ∀ e, f ≠ .stub e := fun e he => hstub ⟨e, he⟩
    have hmessage : reportedMessage f = "internal error: " ++ f.message := by
      cases f with
      | stub e => exact absurd rfl (hun e)
      | _ => rfl
    rw [hmessage]
    exact ⟨_, _, runFrom_report_unexpected true runId hun w, rfl, hcode .general, tellsError_errorText _ _ _ _⟩

/-- The failure that ends a run: the settings cannot be made, or the command fails. -/
def EndsBy (w : World) (a : Arguments) (asJson : Bool) (f : Failure) : Prop :=
  Settings.ofRequest w (request a asJson) = .error f ∨
    ∃ s w', Settings.ofRequest w (request a asJson) = .ok s ∧ (performLogged s a).runFrom w = (.error f, w')

theorem failed_of_report {f : Failure} {w₁ : World} (hends : EndsBy w a true f) (hwrote : w.Wrote "" w₁)
    (runId : String) : ∃ exit w', (report true runId f).runFrom w₁ = (.ok exit, w') ∧ exit.isUsage = false ∧
      exit.code ≠ 0 ∧ w'.stdout = w.stdout ∧ ∃ f before line, EndsBy w a true f ∧ WholeLines before ∧
        TellsError line exit.code (reportedMessage f) ∧ w'.stderr = w.stderr ++ before ++ (line ++ "\n") := by
  obtain ⟨exit, line, hreported, husage, hcode, hline⟩ := runFrom_report_json runId f w₁
  obtain ⟨before, hbefore, hwhole⟩ := hwrote.stderr
  have hout : w₁.stdout = w.stdout := hwrote.stdout.trans String.append_empty
  refine ⟨exit, _, hreported, husage, hcode, hout, f, before, line, hends, hwhole, hline, ?_⟩
  rw [← hbefore]

/-- What a run with JSON output comes to. If its code is zero, all that it printed is one line that holds one object with
the status of a success. If not, it printed nothing, and the last line of the standard error, after other whole lines, holds
one object with the error that ended the run. -/
theorem streams_of_json_run {args : List String} (hargs : parseAll args = .ok a)
    (hjson : a.has .json = true ∨ "--json" ∈ args) (w : World) :
    ∃ exit w', (run args).runFrom w = (.ok exit, w') ∧ exit.isUsage = false ∧
      (exit.code = 0 → ∃ line, TellsSuccess line ∧ w'.stdout = w.stdout ++ (line ++ "\n")) ∧
      (exit.code ≠ 0 → w'.stdout = w.stdout ∧ ∃ f before line, EndsBy w a true f ∧ WholeLines before ∧
        TellsError line exit.code (reportedMessage f) ∧ w'.stderr = w.stderr ++ before ++ (line ++ "\n")) := by
  have hasJson : true = (a.has .json || args.contains "--json") := by
    rcases hjson with h | h
    · simp [h]
    · simp [h]
  -- The version is told without settings, so nothing can fail before it.
  by_cases hversion : a.commands = [.version]
  · have hrun : (run args).runFrom w =
        (.ok ⟨0, false⟩, { w with stdout := w.stdout ++ (versionReport.json .line ++ "\n") }) := by
      unfold run
      rw [hargs]
      dsimp only
      rw [if_pos hversion, ← hasJson]
      rfl
    exact ⟨_, _, hrun, rfl, fun _ => ⟨_, tellsSuccess_version, rfl⟩, fun h => absurd rfl h⟩
  rw [runFrom_run hargs hversion hasJson]
  cases hs : Settings.ofRequest w (request a true) with
  | error f =>
    obtain ⟨exit, w', hreported, husage, hcode, hfailed⟩ :=
      failed_of_report (.inl hs) (refl_of (World.Wrote "") w) ""
    exact ⟨exit, w', hreported, husage, fun h => absurd h hcode, fun _ => hfailed⟩
  | ok s =>
    have hformat : s.format = .json := Settings.format_of_ofRequest hs
    have hprints : PrintsReport (performLogged s a) w :=
      printsReport_performLogged hformat (commands_of_parseAll hargs) hversion
    dsimp only
    rcases hperformed : (performLogged s a).runFrom w with ⟨f | ⟨⟨⟩⟩, w₁⟩
    · obtain ⟨exit, w', hreported, husage, hcode, hfailed⟩ :=
        failed_of_report (.inr ⟨s, w₁, hs, hperformed⟩) (hprints.failing hperformed) s.runId
      exact ⟨exit, w', hreported, husage, fun h => absurd h hcode, fun _ => hfailed⟩
    · obtain ⟨line, hline, hwrote⟩ := hprints.succeeding hperformed
      exact ⟨_, w₁, rfl, rfl, fun _ => ⟨line, hline, hwrote.stdout⟩, fun h => absurd rfl h⟩

def validateAsJson : Arguments :=
  { given := [(.json, "")], commands := [.config, .validate] }

/-- A configuration that is no UTF-8 is told of in one line on the standard error. -/
theorem streams_of_undecodableSample :
    parseAll ["config", "validate", "--json"] = .ok validateAsJson ∧ "--json" ∈ ["config", "validate", "--json"] ∧
      ∃ w' f before line, (run ["config", "validate", "--json"]).runFrom undecodableSample = (.ok ⟨99, false⟩, w') ∧
        w'.stdout = "" ∧ EndsBy undecodableSample validateAsJson true f ∧ WholeLines before ∧
        TellsError line 99 (reportedMessage f) ∧ w'.stderr = before ++ (line ++ "\n") := by
  have hargs : parseAll ["config", "validate", "--json"] = .ok validateAsJson := ok_of_toOption (by decide +kernel)
  have hjson : "--json" ∈ ["config", "validate", "--json"] := by decide
  refine ⟨hargs, hjson, ?_⟩
  obtain ⟨exit, w', hrun, -, -, hfailed⟩ := streams_of_json_run hargs (.inr hjson) undecodableSample
  obtain ⟨w'', hrun'⟩ := exit_of_asksToValidate hargs ⟨rfl, rfl, rfl, rfl⟩
  cases hrun.symm.trans hrun'
  obtain ⟨hout, f, before, line, hends, hwhole, hline, herr⟩ := hfailed (by decide)
  have hbefore : undecodableSample.stderr ++ before = before := String.empty_append
  rw [hbefore] at herr
  exact ⟨w', f, before, line, hrun, hout, hends, hwhole, hline, herr⟩

end JavaStubs.CommandLine
