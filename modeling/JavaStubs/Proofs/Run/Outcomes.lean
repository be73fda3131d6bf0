import JavaStubs.Build.Basic
import JavaStubs.Run.Log
import JavaStubs.Run.Writing
import Mathlib.Order.Defs.Unbundled

/-! What an action comes to from a state: its result and the state at its end, whether it failed or not. -/
namespace JavaStubs

theorem ok_of_toOption {ε α : Type} {x : Except ε α} {a : α} (h : x.toOption = some a) : x = .ok a := by
  cases x with
  | error e => cases h
  | ok b => exact congrArg _ (Option.some.inj h)

theorem error_of_toOption {ε α : Type} {x : Except ε α} (h : x.toOption = none) : ∃ e, x = .error e := by
  cases x with
  | error e => exact ⟨e, rfl⟩
  | ok b => cases h

theorem mapError_ok {ε ε' α : Type} (f : ε → ε') (a : α) : (Except.ok a).mapError f = .ok a := rfl

theorem mapError_error {ε ε' α : Type} (f : ε → ε') (e : ε) :
    (Except.error e : Except ε α).mapError f = .error (f e) := rfl

theorem ok_of_mapError {ε ε' α : Type} {f : ε → ε'} {x : Except ε α} {a : α} (h : x.mapError f = .ok a) :
    x = .ok a := by
  cases x with
  | error e => cases h
  | ok b =>
    cases h
    rfl

theorem ok_of_bind {ε α β : Type} {x : Except ε α} {f : α → Except ε β} {b : β} (h : (x >>= f) = .ok b) :
    ∃ a, x = .ok a ∧ f a = .ok b := by
  cases x with
  | error e => cases h
  | ok a => exact ⟨a, rfl, h⟩

namespace Acting

variable {σ τ α β : Type}

def runFrom (act : Acting σ α) (s : σ) : Except Failure α × σ :=
  (act.run).run s

@[simp] theorem runFrom_pure (a : α) (s : σ) : (pure a : Acting σ α).runFrom s = (.ok a, s) := rfl

@[simp] theorem runFrom_throw (e : Failure) (s : σ) : (throw e : Acting σ α).runFrom s = (.error e, s) := rfl

@[simp] theorem runFrom_get (s : σ) : (get : Acting σ σ).runFrom s = (.ok s, s) := rfl

@[simp] theorem runFrom_set (s s' : σ) : (set s' : Acting σ PUnit).runFrom s = (.ok ⟨⟩, s') := rfl

@[simp] theorem runFrom_modify (f : σ → σ) (s : σ) : (modify f : Acting σ PUnit).runFrom s = (.ok ⟨⟩, f s) := rfl

@[simp] theorem runFrom_ofExcept (r : Except Failure α) (s : σ) : (ofExcept r).runFrom s = (r, s) := rfl

/-- A failed first action ends the whole; otherwise the second goes on from where the first ended. -/
theorem runFrom_bind (act : Acting σ α) (f : α → Acting σ β) (s : σ) :
    (act >>= f).runFrom s =
      match act.runFrom s with
      | (.ok a, s') => (f a).runFrom s'
      | (.error e, s') => (.error e, s') := by
  unfold runFrom ExceptT.run StateT.run
  simp only [Bind.bind, ExceptT.bind, ExceptT.mk, StateT.bind]
  rcases act s with ⟨r, s'⟩
  cases r <;> rfl

theorem runFrom_bind_of_ok {act : Acting σ α} {f : α → Acting σ β} {s s' : σ} {a : α}
    (h : act.runFrom s = (.ok a, s')) : (act >>= f).runFrom s = (f a).runFrom s' := by
  rw [runFrom_bind, h]

theorem runFrom_bind_of_error {act : Acting σ α} {f : α → Acting σ β} {s s' : σ} {e : Failure}
    (h : act.runFrom s = (.error e, s')) : (act >>= f).runFrom s = (.error e, s') := by
  rw [runFrom_bind, h]

/-- What follows a first action and only returns something does not change the state. -/
theorem runFrom_bind_pure (act : Acting σ α) (g : α → β) (s : σ) :
    (act >>= fun a => pure (g a)).runFrom s = ((act.runFrom s).1.map g, (act.runFrom s).2) := by
  rw [runFrom_bind]
  rcases act.runFrom s with ⟨r, s'⟩
  cases r <;> rfl

theorem bind_ok {act : Acting σ α} {f : α → Acting σ β} {s t : σ} {b : β}
    (h : (act >>= f).runFrom s = (.ok b, t)) :
    ∃ a s', act.runFrom s = (.ok a, s') ∧ (f a).runFrom s' = (.ok b, t) := by
  rw [runFrom_bind] at h
  rcases hr : act.runFrom s with ⟨r, s'⟩
  rw [hr] at h
  cases r with
  | error e => simp at h
  | ok a => exact ⟨a, s', rfl, h⟩

theorem bind_error {act : Acting σ α} {f : α → Acting σ β} {s t : σ} {e : Failure}
    (h : (act >>= f).runFrom s = (.error e, t)) :
    act.runFrom s = (.error e, t) ∨
      ∃ a s', act.runFrom s = (.ok a, s') ∧ (f a).runFrom s' = (.error e, t) := by
  rw [runFrom_bind] at h
  rcases hr : act.runFrom s with ⟨r, s'⟩
  rw [hr] at h
  cases r with
  | error e' =>
    left
    simpa using h
  | ok a => exact .inr ⟨a, s', rfl, h⟩

theorem runFrom_mapFailure (f : Failure → Failure) (act : Acting σ α) (s : σ) :
    (mapFailure f act).runFrom s = ((act.runFrom s).1.mapError f, (act.runFrom s).2) := by
  change (match act.runFrom s with | (.ok a, s') => (Except.ok a, s') | (.error e, s') => (.error (f e), s')) = _
  rcases act.runFrom s with ⟨r, s'⟩
  cases r <;> rfl

/-- A failure is handed to the second action, which goes on from where the first one failed. -/
theorem runFrom_tryCatch (act : Acting σ α) (f : Failure → Acting σ α) (s : σ) :
    (tryCatch act f).runFrom s =
      match act.runFrom s with
      | (.ok a, s') => (.ok a, s')
      | (.error e, s') => (f e).runFrom s' := by
  unfold runFrom ExceptT.run StateT.run
  simp only [tryCatch, tryCatchThe, MonadExceptOf.tryCatch, ExceptT.tryCatch, ExceptT.mk, Bind.bind, StateT.bind]
  rcases act s with ⟨r, s'⟩
  cases r <;> rfl

/-- The state that an action leaves is related to the one it starts from, whether it fails or not. -/
def Leaves (R : σ → σ → Prop) (act : Acting σ α) : Prop :=
  ∀ s, R s (act.runFrom s).2

namespace Leaves

variable {R : σ → σ → Prop}

theorem modify {f : σ → σ} (h : ∀ s, R s (f s)) : Leaves R (modify f) :=
  h

theorem mapFailure {act : Acting σ α} (f : Failure → Failure) (h : Leaves R act) : Leaves R (Acting.mapFailure f act) := by
  intro s
  rw [runFrom_mapFailure]
  exact h s

/-- The second action may count on what the first one gave. -/
theorem bind [IsTrans σ R] {act : Acting σ α} {f : α → Acting σ β} (h : Leaves R act)
    (hf : ∀ a s s', act.runFrom s = (.ok a, s') → Leaves R (f a)) : Leaves R (act >>= f) := by
  intro s
  have hfirst : R s (act.runFrom s).2 := h s
  rw [runFrom_bind]
  rcases hrun : act.runFrom s with ⟨r, s'⟩
  rw [hrun] at hfirst
  cases r with
  | error e => exact hfirst
  | ok a => exact trans_of R hfirst (hf a s s' hrun s')

theorem andThen [IsTrans σ R] {act : Acting σ α} {f : α → Acting σ β} (h : Leaves R act) (hf : ∀ a, Leaves R (f a)) :
    Leaves R (act >>= f) :=
  bind h fun a _ _ _ => hf a

section

variable [Std.Refl R]

theorem pure (a : α) : Leaves R (Pure.pure a) :=
  refl_of R

theorem throw (e : Failure) : Leaves R (MonadExcept.throw e : Acting σ α) :=
  refl_of R

theorem ofExcept (r : Except Failure α) : Leaves R (Acting.ofExcept r) :=
  refl_of R

theorem get : Leaves R (MonadState.get : Acting σ σ) :=
  refl_of R

end

end Leaves

end Acting

namespace Action

@[simp] theorem runFrom_disk (w : World) : disk.runFrom w = (.ok w.disk, w) := rfl

@[simp] theorem runFrom_look (f : Disk → Except Failure α) (w : World) : (look f).runFrom w = (f w.disk, w) := rfl

theorem runFrom_alter (f : Disk → Disk × Except AccessError α) (w : World) :
    (alter f).runFrom w = ((f w.disk).2.mapError .access, { w with disk := (f w.disk).1 }) := rfl

theorem runFrom_change (f : Disk → Except AccessError Disk) (w : World) :
    (change f).runFrom w =
      match f w.disk with
      | .ok d => (.ok (), { w with disk := d })
      | .error e => (.error (.access e), w) := by
  unfold change
  rw [Acting.runFrom_bind, runFrom_disk]
  dsimp only
  cases f w.disk <;> rfl

/-- Reading the clock succeeds and uses up a reading at most. -/
theorem runFrom_tick (w : World) : ∃ t ticks, tick.runFrom w = (.ok t, { w with ticks }) := by
  unfold tick
  rw [Acting.runFrom_bind, Acting.runFrom_get]
  dsimp only
  split
  · exact ⟨_, w.ticks, rfl⟩
  · next t ticks _ => exact ⟨t, ticks, rfl⟩

end Action

/-- Logging succeeds and adds to the standard error at most. -/
theorem Log.runFrom_write (s : Settings) (e : Log.Event) (w : World) :
    ∃ text, (Log.write s e).runFrom w = (.ok (), { w with stderr := text }) := by
  unfold Log.write
  split
  · exact ⟨_, rfl⟩
  · exact ⟨w.stderr, rfl⟩

end JavaStubs
