import JavaStubs.Proofs.Run.Writing

/-! Actions whose course does not depend on what stands on the standard error: logging between them changes nothing
but the log. -/
namespace JavaStubs.Action

open Acting

/-- From worlds that differ in the standard error alone, an action comes to the same result and to worlds that differ
in the standard error alone. -/
def Steady (act : Action α) : Prop :=
  ∀ w text, ∃ text', act.runFrom { w with stderr := text } =
    ((act.runFrom w).1, { (act.runFrom w).2 with stderr := text' })

namespace Steady

theorem pure (a : α) : Steady (Pure.pure a) :=
  fun _ text => ⟨text, rfl⟩

theorem throw (e : Failure) : Steady (MonadExcept.throw e : Action α) :=
  fun _ text => ⟨text, rfl⟩

theorem ofExcept (r : Except Failure α) : Steady (Acting.ofExcept r) :=
  fun _ text => ⟨text, rfl⟩

theorem look (f : Disk → Except Failure α) : Steady (Action.look f) :=
  fun _ text => ⟨text, rfl⟩

theorem disk : Steady Action.disk :=
  fun _ text => ⟨text, rfl⟩

theorem alter (f : Disk → Disk × Except AccessError α) : Steady (Action.alter f) :=
  fun _ text => ⟨text, rfl⟩

theorem change (f : Disk → Except AccessError Disk) : Steady (Action.change f) := by
  intro w text
  rw [runFrom_change, runFrom_change]
  dsimp only
  cases f w.disk <;> exact ⟨text, rfl⟩

theorem log (s : Settings) (e : Log.Event) : Steady (Log.write s e) := by
  intro w text
  unfold Log.write
  split <;> exact ⟨_, rfl⟩

theorem bind {act : Action α} {f : α → Action β} (h : Steady act) (hf : ∀ a, Steady (f a)) : Steady (act >>= f) := by
  intro w text
  obtain ⟨text₁, h₁⟩ := h w text
  rw [runFrom_bind, runFrom_bind, h₁]
  rcases act.runFrom w with ⟨r, w₁⟩
  cases r with
  | error e => exact ⟨text₁, rfl⟩
  | ok a => exact hf a w₁ text₁

theorem mapFailure {act : Action α} (f : Failure → Failure) (h : Steady act) : Steady (Acting.mapFailure f act) := by
  intro w text
  obtain ⟨text', h'⟩ := h w text
  exact ⟨text', by rw [runFrom_mapFailure, runFrom_mapFailure, h']⟩

theorem ensureDir (p : FilePath) : Steady (Action.ensureDir p) :=
  .bind (.mapFailure _ (.alter _)) fun _ => .pure _

theorem writeText (p : FilePath) (content encoding : String) : Steady (Action.writeText p content encoding) := by
  unfold Action.writeText
  split
  · exact .throw _
  · exact .mapFailure _ (.alter _)

end Steady

end JavaStubs.Action
