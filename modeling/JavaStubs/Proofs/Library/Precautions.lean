import JavaStubs.Proofs.Library.Refusals
import JavaStubs.Proofs.Run.Misconfigured

/-! A library is published only once it is known that its scripts do not collide. Until then no file is touched, and
after that no error of the configuration can come up. -/
namespace JavaStubs.Library

open JavaStubs.Action

variable {settings : Settings} {s : SourceSet} {intermediate : FilePath} {encoding : String} {w₀ w : World}

theorem proper_readBody (d : Disk) (p : FilePath) (encoding : String) : Proper (readBody d p encoding) := by
  unfold readBody
  dsimp only
  split
  · exact .error id
  · split
    · exact .error (Failure.not_misconfigured nofun nofun)
    · exact .error id
    · exact .mapError fun e _ => Failure.not_misconfigured nofun nofun

theorem proper_publishWrappers (wrappers : List Wrapper) : (publishWrappers settings encoding wrappers).Proper w := by
  induction wrappers generalizing w with
  | nil => exact .pure _
  | cons x xs ih =>
    have hone : (publishWrapper settings encoding x).Proper w :=
      .bind (failsBy_look (proper_readBody _ _ _)) fun _ _ _ => .bind (proper_writeText _ _ _) fun _ _ _ =>
        .bind (failsBy_log _ _) fun _ _ _ => .pure _
    exact .bind hone fun _ _ _ => .bind ih fun _ _ _ => .pure _

theorem proper_removeStale (keep files : List FilePath) : (removeStale keep files).Proper w := by
  induction files generalizing w with
  | nil => exact .pure _
  | cons p ps ih =>
    refine .bind (failsBy_look (proper_mapError_access _)) fun isFile _ _ => ?_
    split
    · exact .bind (proper_change _) fun _ _ _ => .bind ih fun _ _ _ => .pure _
    · exact ih

theorem proper_publishRegistry (wrappers : List Wrapper) :
    (publishRegistry settings intermediate encoding wrappers).Proper w := by
  have hprune : (prune (packageDir intermediate) (wrappers.map (·.generated))).Proper w := by
    unfold prune
    refine Acting.proper_refused (fun _ => Failure.not_misconfigured nofun nofun) ?_
    exact .bind (failsBy_look (proper_mapError_access _)) fun _ _ _ => proper_removeStale _ _
  exact .bind hprune fun _ _ _ => .bind (failsBy_logRemoved _) fun _ _ _ => proper_writeText _ _ _

/-- Publishing comes upon an error of the configuration only before it writes. -/
theorem precautious_publish (hw : w₀.Untouched w) :
    (publish settings s intermediate encoding).FailsBy (Precautious w₀) w := by
  have hclasses : (publishClasses settings s intermediate encoding).FailsBy (Precautious w₀) w := by
    refine Precautious.bind (.log _ _) hw fun _ w₁ _ hw₁ => ?_
    refine Precautious.bind (.look _) hw₁ fun scripts w₂ _ hw₂ => ?_
    refine Precautious.bind (.ofExcept _) hw₂ fun wrappers w₃ _ _ => Precautious.of_proper ?_
    exact .bind (proper_ensureDir _) fun _ _ _ => .bind (proper_publishWrappers wrappers) fun _ _ _ => .pure _
  refine .bind hclasses fun made w₁ _ => Precautious.of_proper ?_
  exact .bind (proper_publishRegistry made.1) fun _ _ _ => .bind (.of_ok (runFrom_disk _)) fun _ _ _ =>
    .bind (failsBy_log _ _) fun _ _ _ => .pure _

end JavaStubs.Library
