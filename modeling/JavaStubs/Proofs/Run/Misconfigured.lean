import JavaStubs.Proofs.Disk.Confined
import JavaStubs.Proofs.Run.Failing
import JavaStubs.Source.Scan

/-! Errors of the configuration. Most steps of a run cannot fail by one; where a run does, no file may have been
touched before. -/
namespace JavaStubs

namespace Failure

def Misconfigured : Failure → Prop
  | .stub e => e.errorClass = .configuration ∨ e.errorClass = .collision
  | _ => False

variable {f : Failure} {cause : OsError → StubError}

theorem not_misconfigured {e : StubError} (h : e.errorClass ≠ .configuration) (h' : e.errorClass ≠ .collision) :
    ¬(stub e).Misconfigured := by
  rintro (hconfiguration | hcollision)
  · exact h hconfiguration
  · exact h' hcollision

theorem not_misconfigured_refused (hcause : ∀ e, ¬(stub (cause e)).Misconfigured) (hf : ¬f.Misconfigured) :
    ¬(f.refused cause).Misconfigured := by
  unfold refused
  split
  · exact hcause _
  · exact hf

end Failure

abbrev Proper (r : Except Failure α) : Prop :=
  ErrsBy (fun e => ¬e.Misconfigured) r

/-- From a state, an action does not fail by an error of the configuration. -/
abbrev Acting.Proper (act : Acting σ α) (s : σ) : Prop :=
  act.FailsBy (fun _ e => ¬e.Misconfigured) s

theorem proper_mapError_access (r : Except AccessError α) : Proper (r.mapError .access) :=
  .mapError fun _ _ => id

theorem Acting.proper_refused {act : Acting σ α} {s : σ} {cause : OsError → StubError}
    (hcause : ∀ e, ¬(Failure.stub (cause e)).Misconfigured) (h : act.Proper s) :
    (mapFailure (Failure.refused cause) act).Proper s :=
  .mapFailure (h.mono fun _ _ hf => Failure.not_misconfigured_refused hcause hf)

/-- Scanning a set fails by an error of the configuration only if its directory is relative. -/
theorem Disk.proper_scan {s : SourceSet} (habs : s.directory.isAbsolute = true) (d : Disk)
    (mappings : List SuffixMapping) : Proper (d.scan s mappings) := by
  have hdirectory : Proper (d.sourceDirectory s) := by
    unfold sourceDirectory
    dsimp only
    rw [habs, if_neg (by decide)]
    refine .bind (proper_mapError_access _) fun there _ => ?_
    split
    · exact .error (Failure.not_misconfigured nofun nofun)
    refine .bind (proper_mapError_access _) fun isDir _ => ?_
    split
    · exact .error (Failure.not_misconfigured nofun nofun)
    split
    · exact .ok _
    · exact .error id
  refine .bind hdirectory fun l _ => ?_
  split
  · exact .error (Failure.not_misconfigured nofun nofun)
  · exact .ok _

namespace Action

variable {w : World}

theorem proper_alter (f : Disk → Disk × Except AccessError α) : (alter f).Proper w := by
  intro e w' hrun
  rw [runFrom_alter] at hrun
  exact proper_mapError_access _ e (Prod.mk.inj hrun).1

theorem proper_change (f : Disk → Except AccessError Disk) : (change f).Proper w :=
  failsBy_change fun _ _ => id

theorem proper_ensureDir (p : FilePath) : (ensureDir p).Proper w :=
  .bind (Acting.proper_refused (fun _ => Failure.not_misconfigured nofun nofun) (proper_alter _)) fun _ _ _ => .pure _

theorem proper_writeText (p : FilePath) (content encoding : String) : (writeText p content encoding).Proper w := by
  unfold writeText
  split
  · next e _ =>
    refine .throw ?_
    cases e with
    | nulInName => exact id
    | _ => exact Failure.not_misconfigured nofun nofun
  · exact Acting.proper_refused (fun _ => Failure.not_misconfigured nofun nofun) (proper_alter _)

end Action

/-- Worlds with the same files, in which the same programs were started. -/
abbrev World.Untouched (w w' : World) : Prop :=
  World.Differs (fun d d' => d.tree.SameFiles d'.tree) w w'

/-- What is said of failures: after an error of the configuration, the world is untouched since the start. -/
def Precautious (w₀ : World) (w : World) (e : Failure) : Prop :=
  e.Misconfigured → w₀.Untouched w

namespace Precautious

variable {w₀ w : World} {act : Action α} {f : α → Action β}

theorem of_proper (h : act.Proper w) : act.FailsBy (Precautious w₀) w :=
  h.mono fun _ _ hproper hmis => absurd hmis hproper

/-- A step that touches no file may fail by any error, as long as nothing was touched before. -/
theorem of_within (h : Action.Within (fun d d' => d.tree.SameFiles d'.tree) act) (hw : w₀.Untouched w) :
    act.FailsBy (Precautious w₀) w := by
  intro e w' hrun _
  have hstep := h w
  rw [hrun] at hstep
  exact hw.trans hstep

theorem bind (h : Action.Within (fun d d' => d.tree.SameFiles d'.tree) act) (hw : w₀.Untouched w)
    (hf : ∀ a w₁, act.runFrom w = (.ok a, w₁) → w₀.Untouched w₁ → (f a).FailsBy (Precautious w₀) w₁) :
    (act >>= f).FailsBy (Precautious w₀) w := by
  refine .bind (of_within h hw) fun a w₁ hrun => hf a w₁ hrun ?_
  have hstep := h w
  rw [hrun] at hstep
  exact hw.trans hstep

end Precautious

end JavaStubs
