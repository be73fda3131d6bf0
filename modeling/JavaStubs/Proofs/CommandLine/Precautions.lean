import JavaStubs.Proofs.Build.Precautions
import JavaStubs.Proofs.CommandLine.ExitCodes

/-! The exit code of errors of the configuration tells that a build left all files as they were. -/
namespace JavaStubs

/-- A compiler that a configuration asks for is of a usual kind and was not run yet. -/
theorem Compiler.ofConfig_ok {s : Settings} {config : Config} {dryRun : Bool} {compiler : Compiler} {w w' : World}
    (h : (ofConfig s config dryRun).runFrom w = (.ok compiler, w')) :
    compiler.engine.Usual ∧ compiler.ran = false := by
  unfold ofConfig at h
  split at h
  · cases h
    exact ⟨.inl rfl, rfl⟩
  split at h
  · obtain ⟨_, _, -, hmade⟩ := Acting.bind_ok h
    cases hmade
    exact ⟨.inl rfl, rfl⟩
  · obtain ⟨hmade, -⟩ := Prod.mk.inj h
    have hmade := ok_of_mapError hmade
    unfold ofCommand at hmade
    split at hmade
    · cases hmade
    · cases hmade
      exact ⟨.inr ⟨_, rfl⟩, rfl⟩

theorem Compiler.within_ofConfig {R : Disk → Disk → Prop} [Disk.Passage R] (s : Settings) (config : Config)
    (dryRun : Bool) : Action.Within R (ofConfig s config dryRun) := by
  unfold ofConfig
  split
  · exact .pure _
  split
  · exact .andThen (.log _ _) fun _ => .pure _
  · exact .ofExcept _

namespace CommandLine

variable {s : Settings} {a : Arguments} {w₀ w w' : World}

theorem precautious_generate (hroot : s.root.isAbsolute = true) (hforeign : ∀ x ∈ w₀.behaviours, x.Foreign)
    (hw : w₀.Untouched w) : (generate s a).FailsBy (Precautious w₀) w := by
  refine Precautious.bind (.look _) hw fun config w₁ _ hw₁ => ?_
  refine Precautious.bind (Compiler.within_ofConfig _ _ _) hw₁ fun compiler w₂ hmade hw₂ => ?_
  obtain ⟨husual, hfresh⟩ := Compiler.ofConfig_ok hmade
  have hbuilt : (building compiler (Project.host s (overridden s a config))
      (BuildAction.generate s (overridden s a config))).FailsBy (Precautious w₀) w₂ := by
    have hbuild : (BuildAction.generate s (overridden s a config)).FailsBy (fun b => Precautious w₂ b.world)
        ⟨w₂, compiler, Project.host s (overridden s a config)⟩ :=
      BuildAction.precautious_generate hroot hfresh husual (hw₂.behaviours ▸ hforeign)
    exact failsBy_building (hbuild.mono fun _ _ h hmis => hw₂.trans (h hmis))
  refine .bind hbuilt fun result _ _ => Precautious.of_proper ?_
  refine .bind (.bind (Action.proper_writeText _ _ _) fun _ _ _ => .pure _) fun statePath _ _ => ?_
  split
  · exact failsBy_printReport _ _
  · exact failsBy_printLines _

theorem precautious_performLogged (hroot : s.root.isAbsolute = true) (hcommand : a.commands = [.generate])
    (hforeign : ∀ x ∈ w.behaviours, x.Foreign) : (performLogged s a).FailsBy (Precautious w) w := by
  refine Precautious.bind (.log _ _) (.refl w) fun _ w₁ _ hw₁ => ?_
  have hperform : (perform s a).FailsBy (Precautious w) w₁ := by
    unfold perform
    rw [hcommand]
    exact precautious_generate hroot hforeign hw₁
  exact .bind hperform fun _ _ _ => Action.failsBy_log _ _

theorem misconfigured_of_report {asJson : Bool} {runId : String} {f : Failure} {exit : Exit}
    (h : (report asJson runId f).runFrom w = (.ok exit, w')) (hcode : exit.code = 3) :
    f.Misconfigured ∧ w.Untouched w' := by
  cases f with
  | stub e =>
    rw [runFrom_report_stub] at h
    cases h
    refine ⟨?_, .log w _⟩
    cases hclass : e.errorClass with
    | configuration => exact .inl hclass
    | collision => exact .inr hclass
    | general | fileSystem | compiler =>
      rw [hclass] at hcode
      cases hcode
  | _ =>
    have hexit := (runFrom_report_unexpected asJson runId (by simp) w).symm.trans h
    cases hexit
    cases hcode

/-- A build that ends with the code of errors of the configuration has changed no file and started no program, whatever the
project and the arguments are. Programs are supposed not to break by errors that only this one has. -/
theorem untouched_of_misconfigured {args : List String} (hargs : parseAll args = .ok a)
    (hcommand : a.commands = [.generate]) (hforeign : ∀ x ∈ w.behaviours, x.Foreign) {exit : Exit}
    (h : (run args).runFrom w = (.ok exit, w')) (hcode : exit.code = 3) :
    w'.started = w.started ∧ ∀ l, w'.disk.tree.file? l = w.disk.tree.file? l := by
  have huntouched : w.Untouched w' := by
    rw [runFrom_run hargs (by rw [hcommand]; decide) rfl] at h
    split at h
    · exact (misconfigured_of_report h hcode).2
    next s hs =>
    split at h
    · cases h
      cases hcode
    next f w₁ hperformed =>
    obtain ⟨hmis, hreported⟩ := misconfigured_of_report h hcode
    have hfailed := precautious_performLogged (Settings.isAbsolute_of_ofRequest hs) hcommand hforeign f w₁ hperformed
    exact (hfailed hmis).trans hreported
  exact ⟨huntouched.started, huntouched.disk⟩

/-- A configuration that has one source directory under two names. -/
def repeatingConfig : String :=
  "[compiler]\ncommand = ['c']\n[[sources]]\ndirectory = 'a'\n[[sources]]\ndirectory = './a'\n"

/-- A project with that configuration, and a compiler that would empty the disk. -/
def repeatingSample : World where
  disk :=
    { tree :=
        { entries := [([], .dir .now), (["p"], .dir .now),
            (["stubgen.toml", "p"], .file repeatingConfig.toUTF8.data.toList .now .now)]
          nodup := by decide }
      cwd := ⟨.slash, ["p"]⟩ }
  moment := ⟨2024, 1, 2, 3, 4, 5, 0⟩
  behaviours := [⟨fun _ => ⟨[], .nil⟩, .exited 0 "" ""⟩]

def generateArguments : Arguments :=
  { commands := [.generate] }

theorem parseAll_generate : parseAll ["generate"] = .ok generateArguments :=
  ok_of_toOption (by decide +kernel)

theorem exit_of_repeatingSample : ((run ["generate"]).runFrom repeatingSample).1.toOption = some ⟨3, false⟩ := by
  have hscope : Scope.ofWord? (request generateArguments false).scope = some .main := by decide +kernel
  have hdir : repeatingSample.disk.isDir? ⟨.slash, ["p"]⟩ = .ok true := ok_of_toOption (by decide +kernel)
  have hsettings := Settings.ofRequest_of_linkFree (w := repeatingSample) (by decide) (by decide +kernel) hscope hdir
  have hjson : false = (generateArguments.has .json || ["generate"].contains "--json") := by decide +kernel
  rw [runFrom_run parseAll_generate (by decide) hjson, hsettings]
  decide +kernel

theorem untouched_of_repeatingSample :
    parseAll ["generate"] = .ok generateArguments ∧ (∀ x ∈ repeatingSample.behaviours, x.Foreign) ∧
      ∃ exit w', (run ["generate"]).runFrom repeatingSample = (.ok exit, w') ∧ exit.code = 3 ∧
        w'.started = repeatingSample.started ∧
        ∀ l, w'.disk.tree.file? l = repeatingSample.disk.tree.file? l := by
  have hforeign : ∀ x ∈ repeatingSample.behaviours, x.Foreign := by
    intro x hx f hbroken
    rw [List.mem_singleton.1 hx] at hbroken
    cases hbroken
  have hrun : (run ["generate"]).runFrom repeatingSample =
      (.ok ⟨3, false⟩, ((run ["generate"]).runFrom repeatingSample).2) :=
    Prod.ext (ok_of_toOption exit_of_repeatingSample) rfl
  exact ⟨parseAll_generate, hforeign, _, _, hrun, rfl, untouched_of_misconfigured parseAll_generate rfl hforeign hrun rfl⟩

end CommandLine

end JavaStubs
