import JavaStubs.Library.Publish
import JavaStubs.Proofs.Run.Steady

/-! Publishing a library does not depend on what was logged before. -/
namespace JavaStubs.Library

open JavaStubs.Action

theorem steady_publishWrappers (settings : Settings) (encoding : String) (wrappers : List Wrapper) :
    Steady (publishWrappers settings encoding wrappers) := by
  induction wrappers with
  | nil => exact .pure _
  | cons x xs ih =>
    have hone : Steady (publishWrapper settings encoding x) :=
      .bind (.look _) fun _ => .bind (.writeText _ _ _) fun _ => .bind (.log _ _) fun _ => .pure _
    exact .bind hone fun _ => .bind ih fun _ => .pure _

theorem steady_removeStale (keep files : List FilePath) : Steady (removeStale keep files) := by
  induction files with
  | nil => exact .pure _
  | cons p ps ih =>
    refine .bind (.look _) fun isFile => ?_
    split
    · exact .bind (.change _) fun _ => .bind ih fun _ => .pure _
    · exact ih

theorem steady_logRemoved (settings : Settings) (removed : List FilePath) : Steady (logRemoved settings removed) := by
  induction removed with
  | nil => exact .pure _
  | cons p ps ih => exact .bind (.log _ _) fun _ => ih

theorem steady_publish (settings : Settings) (s : SourceSet) (intermediate : FilePath) (encoding : String) :
    Steady (publish settings s intermediate encoding) := by
  have hclasses : Steady (publishClasses settings s intermediate encoding) :=
    .bind (.log _ _) fun _ => .bind (.look _) fun _ => .bind (.ofExcept _) fun _ => .bind (.ensureDir _) fun _ =>
      .bind (steady_publishWrappers _ _ _) fun _ => .pure _
  have hprune : ∀ keep, Steady (prune (packageDir intermediate) keep) := fun keep =>
    .mapFailure _ (.bind (.look _) fun _ => steady_removeStale keep _)
  have hregistry : ∀ wrappers, Steady (publishRegistry settings intermediate encoding wrappers) := fun wrappers =>
    .bind (hprune _) fun _ => .bind (steady_logRemoved _ _) fun _ => .writeText _ _ _
  exact .bind hclasses fun _ => .bind (hregistry _) fun _ => .bind .disk fun _ => .bind (.log _ _) fun _ => .pure _

end JavaStubs.Library
