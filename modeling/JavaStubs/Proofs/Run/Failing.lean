import JavaStubs.Proofs.Run.Within

/-! Which failures an action may end with. What is said of a failure may refer to the state at the failure. -/
namespace JavaStubs

/-- A failure of the tool's own that belongs to a class. -/
def Failure.Classed (f : Failure) : Prop :=
  ∃ e, f = .stub e ∧ e.errorClass ≠ .general

def ErrsBy (P : Failure → Prop) (r : Except Failure α) : Prop :=
  ∀ e, r = .error e → P e

namespace ErrsBy

variable {P : Failure → Prop} {r : Except Failure α}

theorem ok (a : α) : ErrsBy P (.ok a) := by
  intro e h
  cases h

theorem error {e : Failure} (h : P e) : ErrsBy P (.error e : Except Failure α) := by
  rintro _ ⟨⟩
  exact h

theorem bind {f : α → Except Failure β} (h : ErrsBy P r) (hf : ∀ a, r = .ok a → ErrsBy P (f a)) :
    ErrsBy P (r >>= f) := by
  cases r with
  | error e => exact error (h e rfl)
  | ok a => exact hf a rfl

theorem mapError {ε : Type} {r : Except ε α} {f : ε → Failure} (h : ∀ e, r = .error e → P (f e)) :
    ErrsBy P (r.mapError f) := by
  cases r with
  | error e => exact error (h e rfl)
  | ok a => exact ok a

end ErrsBy

namespace Acting

variable {σ τ α β : Type} {P : σ → Failure → Prop} {act : Acting σ α} {s : σ}

def FailsBy (P : σ → Failure → Prop) (act : Acting σ α) (s : σ) : Prop :=
  ∀ e s', act.runFrom s = (.error e, s') → P s' e

namespace FailsBy

theorem of_ok {a : α} {s' : σ} (h : act.runFrom s = (.ok a, s')) : FailsBy P act s := by
  intro e t ht
  cases h.symm.trans ht

theorem pure (a : α) : FailsBy P (Pure.pure a) s :=
  of_ok (runFrom_pure a s)

theorem throw {e : Failure} (h : P s e) : FailsBy P (MonadExcept.throw e : Acting σ α) s := by
  rintro _ _ ⟨⟩
  exact h

theorem ofExcept {r : Except Failure α} (h : ErrsBy (P s) r) : FailsBy P (Acting.ofExcept r) s := by
  rintro e _ ⟨⟩
  exact h e rfl

/-- The second action starts from where the first one ended. -/
theorem bind {f : α → Acting σ β} (h : FailsBy P act s) (hf : ∀ a s', act.runFrom s = (.ok a, s') → FailsBy P (f a) s') :
    FailsBy P (act >>= f) s := by
  intro e t ht
  rcases bind_error ht with hfirst | ⟨a, s', hfirst, hsecond⟩
  · exact h e t hfirst
  · exact hf a s' hfirst e t hsecond

theorem mapFailure {f : Failure → Failure} (h : FailsBy (fun s e => P s (f e)) act s) :
    FailsBy P (Acting.mapFailure f act) s := by
  intro e t ht
  rw [runFrom_mapFailure] at ht
  rcases hrun : act.runFrom s with ⟨r, s'⟩
  rw [hrun] at ht
  cases r with
  | error e' =>
    cases ht
    exact h e' s' hrun
  | ok a => cases ht

theorem mono {Q : σ → Failure → Prop} (h : FailsBy P act s) (hPQ : ∀ s e, P s e → Q s e) : FailsBy Q act s :=
  fun e t ht => hPQ t e (h e t ht)

end FailsBy

end Acting

namespace Action

variable {P : World → Failure → Prop} {w : World}

theorem failsBy_look {f : Disk → Except Failure α} (h : ErrsBy (P w) (f w.disk)) : (look f).FailsBy P w :=
  Acting.FailsBy.ofExcept h

theorem failsBy_log (s : Settings) (e : Log.Event) : (Log.write s e).FailsBy P w := by
  obtain ⟨text, hlog⟩ := Log.runFrom_write s e w
  exact .of_ok hlog

theorem failsBy_change {f : Disk → Except AccessError Disk} (h : ∀ e, f w.disk = .error e → P w (.access e)) :
    (change f).FailsBy P w := by
  intro e w' hrun
  rw [runFrom_change] at hrun
  split at hrun
  · cases hrun
  · next e' he =>
    cases hrun
    exact h e' he

end Action

namespace BuildAction

theorem failsBy_onWorld {P : Disk → Failure → Prop} {act : Action α} {b : Build}
    (h : act.FailsBy (fun w => P w.disk) b.world) : (onWorld act).FailsBy (fun b => P b.world.disk) b := by
  intro e b' hrun
  obtain ⟨hresult, rfl⟩ := Prod.mk.inj hrun
  exact h e _ (Prod.ext hresult rfl)

end BuildAction

end JavaStubs
