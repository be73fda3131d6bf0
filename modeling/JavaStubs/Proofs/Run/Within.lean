import JavaStubs.Proofs.Run.Outcomes
import JavaStubs.Run.Writing

/-! What an action can do to the disk, told by a relation that all its steps respect, where it does nothing else but
to log and to read the clock. -/
namespace JavaStubs

/-- A relation that holds if nothing is done, and of one step after the other. -/
class Disk.Passage (R : Disk → Disk → Prop) : Prop where
  refl : ∀ d, R d d
  trans : ∀ {d₁ d₂ d₃}, R d₁ d₂ → R d₂ d₃ → R d₁ d₃

/-- Worlds that differ in the disk, the log and the clock at most, and in the disk as told. -/
structure World.Differs (R : Disk → Disk → Prop) (w w' : World) : Prop where
  disk : R w.disk w'.disk
  rest : ∃ ticks text, w' = { w with disk := w'.disk, ticks, stderr := text }

namespace World.Differs

variable {R : Disk → Disk → Prop} {w w₁ w₂ w' : World}

theorem log [hR : Disk.Passage R] (w : World) (text : String) : Differs R w { w with stderr := text } :=
  ⟨hR.refl w.disk, w.ticks, text, rfl⟩

theorem refl [hR : Disk.Passage R] (w : World) : Differs R w w :=
  log w w.stderr

theorem trans [hR : Disk.Passage R] (h : Differs R w w₁) (h' : Differs R w₁ w₂) : Differs R w w₂ := by
  obtain ⟨_, _, hrest⟩ := h.rest
  obtain ⟨ticks, text, hrest'⟩ := h'.rest
  refine ⟨hR.trans h.disk h'.disk, ticks, text, ?_⟩
  rw [hrest', hrest]

theorem started (h : Differs R w w') : w'.started = w.started := by
  obtain ⟨_, _, hrest⟩ := h.rest
  rw [hrest]

theorem behaviours (h : Differs R w w') : w'.behaviours = w.behaviours := by
  obtain ⟨_, _, hrest⟩ := h.rest
  rw [hrest]

theorem stdout (h : Differs R w w') : w'.stdout = w.stdout := by
  obtain ⟨_, _, hrest⟩ := h.rest
  rw [hrest]

instance [Disk.Passage R] : IsPreorder World (Differs R) where
  refl := refl
  trans _ _ _ := trans

end World.Differs

namespace Action

open Acting

def Within (R : Disk → Disk → Prop) (act : Action α) : Prop :=
  ∀ w, World.Differs R w (act.runFrom w).2

namespace Within

variable {R : Disk → Disk → Prop} [hR : Disk.Passage R]

theorem pure (a : α) : Within R (Pure.pure a) :=
  World.Differs.refl

theorem throw (e : Failure) : Within R (MonadExcept.throw e : Action α) :=
  World.Differs.refl

theorem ofExcept (r : Except Failure α) : Within R (Acting.ofExcept r) :=
  World.Differs.refl

theorem look (f : Disk → Except Failure α) : Within R (Action.look f) :=
  World.Differs.refl

theorem disk : Within R Action.disk :=
  World.Differs.refl

theorem log (s : Settings) (e : Log.Event) : Within R (Log.write s e) := by
  intro w
  obtain ⟨text, hlog⟩ := Log.runFrom_write s e w
  rw [hlog]
  exact .log w text

theorem tick : Within R Action.tick := by
  intro w
  obtain ⟨t, ticks, htick⟩ := runFrom_tick w
  rw [htick]
  exact ⟨hR.refl w.disk, ticks, w.stderr, rfl⟩

theorem change {f : Disk → Except AccessError Disk} (h : ∀ d d', f d = .ok d' → R d d') :
    Within R (Action.change f) := by
  intro w
  rw [runFrom_change]
  cases hf : f w.disk with
  | ok d => exact ⟨h _ _ hf, w.ticks, w.stderr, rfl⟩
  | error e => exact .refl w

omit hR in
theorem mono {act : Action α} {S : Disk → Disk → Prop} (h : Within R act) (hRS : ∀ d d', R d d' → S d d') :
    Within S act :=
  fun w => ⟨hRS _ _ (h w).disk, (h w).rest⟩

omit hR in
theorem alter {f : Disk → Disk × Except AccessError α} (h : ∀ d, R d (f d).1) : Within R (Action.alter f) := by
  intro w
  rw [runFrom_alter]
  exact ⟨h w.disk, w.ticks, w.stderr, rfl⟩

omit hR in
theorem mapFailure {act : Action α} (f : Failure → Failure) (h : Within R act) : Within R (Acting.mapFailure f act) :=
  Leaves.mapFailure f h

theorem writeText {p : FilePath} (content encoding : String) (h : ∀ d data, R d (d.update p data).1) :
    Within R (Action.writeText p content encoding) := by
  unfold Action.writeText
  split
  · exact throw _
  · exact mapFailure _ (alter fun d => h d _)

/-- The second action may count on what the first one gave. -/
theorem bind {act : Action α} {f : α → Action β} (h : Within R act)
    (hf : ∀ a w w', act.runFrom w = (.ok a, w') → Within R (f a)) : Within R (act >>= f) :=
  Leaves.bind h hf

theorem andThen {act : Action α} {f : α → Action β} (h : Within R act) (hf : ∀ a, Within R (f a)) :
    Within R (act >>= f) :=
  bind h fun a _ _ _ => hf a

theorem ensureDir {p : FilePath} (h : ∀ d, R d (d.ensureDirs p).1) : Within R (Action.ensureDir p) :=
  andThen (mapFailure _ (alter h)) fun _ => pure _

end Within

end Action

end JavaStubs
