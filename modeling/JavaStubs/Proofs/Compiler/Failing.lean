import JavaStubs.Proofs.Compiler.Changes
import JavaStubs.Proofs.Run.Misconfigured

/-! Compiling does not fail by an error of the configuration, unless the program that was started could. -/
namespace JavaStubs

/-- A program that knows nothing of the configuration: it may break, but not by an error of the configuration. -/
def Behaviour.Foreign (x : Behaviour) : Prop :=
  ∀ f, x.ending = .broken f → ¬f.Misconfigured

namespace Action

variable {w : World}

theorem proper_resultOf {command : List String} {limit : Int} {begun : Number.Real64} {ending : Ending}
    (h : ∀ f, ending = .broken f → ¬f.Misconfigured) : (resultOf command limit begun ending).Proper w := by
  have hsince : ∀ {w : World}, (since begun).Proper w := by
    intro w
    obtain ⟨t, ticks, htick⟩ := runFrom_tick w
    exact .bind (.of_ok htick) fun _ _ _ => .pure _
  cases ending with
  | exited => exact .bind hsince fun _ _ _ => .pure _
  | timedOut => exact .bind hsince fun _ _ _ => .pure _
  | notStarted => exact .throw id
  | broken f => exact .throw (h f rfl)

theorem proper_run {command : List String} {directory : FilePath} {limit : Int} {log? : Option Settings}
    (h : ∀ x ∈ w.behaviours, x.Foreign) : (run command directory limit log?).Proper w := by
  have hlog : ∀ {result : CommandResult} {w : World}, (logResult command directory log? result).Proper w := by
    intro result w
    cases log? with
    | none => exact .pure _
    | some settings => exact .bind (failsBy_log _ _) fun _ _ _ => .pure _
  obtain ⟨begun, ticks, htick⟩ := runFrom_tick w
  obtain ⟨ending, w₁, hstart, hending⟩ :=
    start_ok command directory (if 0 < limit then some limit else none) { w with ticks }
  rw [run_eq]
  refine .bind (.of_ok htick) fun _ _ hticked => ?_
  cases htick.symm.trans hticked
  refine .bind (.of_ok hstart) fun _ _ hstarted => ?_
  cases hstart.symm.trans hstarted
  refine .bind (proper_resultOf fun f hbroken => ?_) fun _ _ _ => hlog
  rcases hending with ⟨-, rfl, -⟩ | ⟨x, xs, hnext, rfl, -⟩
  · cases hbroken
  · exact h x (hnext ▸ List.mem_cons_self) f hbroken

end Action

namespace Compiler

variable {w : World}

theorem proper_times (d : Disk) (p : FilePath) (endings : List String) : Proper (d.times p endings) := by
  unfold Disk.times
  refine .bind (proper_mapError_access _) fun isDir _ => ?_
  split
  · exact .ok _
  · dsimp only
    split
    · exact .error (Failure.not_misconfigured_refused (fun _ => Failure.not_misconfigured nofun nofun) id)
    · exact .ok _

theorem proper_judge (timeout : Int) (r : CommandResult) : Proper ((judge timeout r).mapError .stub) := by
  unfold judge
  split
  · exact .error (Failure.not_misconfigured nofun nofun)
  · split
    · exact .error (Failure.not_misconfigured nofun nofun)
    · exact .ok _

theorem proper_runCommand {spec : CommandSpec} {r : Request} (h : ∀ x ∈ w.behaviours, x.Foreign) :
    (runCommand spec r).Proper w := by
  unfold runCommand
  split
  · exact .pure _
  refine .bind (Action.failsBy_look (proper_times _ _ _)) fun before w₁ hlook => ?_
  obtain ⟨-, rfl⟩ := Prod.mk.inj hlook
  dsimp only
  refine .bind (Acting.proper_refused (fun _ => Failure.not_misconfigured nofun nofun) (Action.proper_run h)) ?_
  intro result _ _
  exact .bind (.ofExcept (proper_judge _ _)) fun _ _ _ => .bind (Action.failsBy_look (proper_times _ _ _)) fun _ _ _ =>
    .pure _

end Compiler

def Engine.Usual (engine : Engine) : Prop :=
  engine = .dry ∨ ∃ spec, engine = .command spec

namespace BuildAction

theorem proper_compile {b : Build} (hengine : b.compiler.engine.Usual) (h : ∀ x ∈ b.world.behaviours, x.Foreign) :
    compile.Proper b := by
  unfold compile
  refine .bind (.of_ok (Acting.runFrom_get b)) fun b₁ b₂ hget => ?_
  cases hget
  dsimp only
  split
  · exact .bind (.throw (Failure.not_misconfigured nofun nofun)) fun _ _ hthrown => nomatch hthrown
  split
  · next e he =>
    unfold Compiler.request at he
    split at he
    · cases he
      exact .throw (Failure.not_misconfigured nofun nofun)
    · cases he
  · refine .bind (.of_ok (Acting.runFrom_set _ _)) fun _ _ hset => ?_
    cases hset
    refine failsBy_onWorld (P := fun _ e => ¬e.Misconfigured) ?_
    rcases hengine with hdry | ⟨spec, hcommand⟩
    · rw [hdry]
      exact .pure _
    · rw [hcommand]
      exact Compiler.proper_runCommand h

end BuildAction

end JavaStubs
