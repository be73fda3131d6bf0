import JavaStubs.Proofs.Run.Outcomes
import JavaStubs.Run.Process

/-! What actions add to the standard streams. An action that logs and does nothing else to them adds whole lines to
the standard error, whether it fails or not. -/
namespace JavaStubs

inductive WholeLines : String → Prop
  | none : WholeLines ""
  | ended (text : String) : WholeLines (text ++ "\n")

theorem WholeLines.append {s t : String} (hs : WholeLines s) (ht : WholeLines t) : WholeLines (s ++ t) := by
  cases ht with
  | none => rwa [String.append_empty]
  | ended text =>
    rw [← String.append_assoc]
    exact .ended (s ++ text)

/-- The text was added to the standard output, and whole lines to the standard error. -/
structure World.Wrote (text : String) (w w' : World) : Prop where
  stdout : w'.stdout = w.stdout ++ text
  stderr : ∃ log, w'.stderr = w.stderr ++ log ∧ WholeLines log

namespace World.Wrote

variable {w w₁ w₂ : World} {text text' : String}

theorem nothing (hout : w₁.stdout = w.stdout) (herr : w₁.stderr = w.stderr) : Wrote "" w w₁ := by
  constructor
  · rw [hout, String.append_empty]
  · exact ⟨"", by rw [herr, String.append_empty], .none⟩

theorem trans (h : Wrote text w w₁) (h' : Wrote text' w₁ w₂) : Wrote (text ++ text') w w₂ := by
  obtain ⟨log, herr, hlog⟩ := h.stderr
  obtain ⟨log', herr', hlog'⟩ := h'.stderr
  constructor
  · rw [h'.stdout, h.stdout, String.append_assoc]
  · exact ⟨log ++ log', by rw [herr', herr, String.append_assoc], hlog.append hlog'⟩

instance : IsPreorder World (Wrote "") where
  refl _ := nothing rfl rfl
  trans _ _ _ h h' := by simpa using h.trans h'

end World.Wrote

namespace Action

open Acting

/-- An action writes nothing but log events, whether it fails or not. -/
abbrev Logs (act : Action α) : Prop :=
  Leaves (World.Wrote "") act

theorem logs_look (f : Disk → Except Failure α) : Logs (Action.look f) :=
  refl_of (World.Wrote "")

theorem logs_disk : Logs Action.disk :=
  refl_of (World.Wrote "")

theorem logs_alter (f : Disk → Disk × Except AccessError α) : Logs (Action.alter f) :=
  fun _ => .nothing rfl rfl

theorem logs_change (f : Disk → Except AccessError Disk) : Logs (Action.change f) := by
  intro w
  rw [runFrom_change]
  cases f w.disk <;> exact .nothing rfl rfl

theorem logs_log (s : Settings) (e : Log.Event) : Logs (Log.write s e) := by
  intro w
  unfold Log.write
  split
  · constructor
    · exact (String.append_empty).symm
    · exact ⟨e.line s w.moment, rfl, .ended _⟩
  · exact refl_of (World.Wrote "") w

theorem logs_tick : Logs Action.tick := by
  intro w
  obtain ⟨t, ticks, htick⟩ := runFrom_tick w
  rw [htick]
  exact .nothing rfl rfl

theorem logs_ensureDir (p : FilePath) : Logs (Action.ensureDir p) :=
  .andThen (.mapFailure _ (logs_alter _)) fun _ => .pure _

theorem logs_writeText (p : FilePath) (content encoding : String) : Logs (Action.writeText p content encoding) := by
  unfold Action.writeText
  split
  · exact .throw _
  · exact .mapFailure _ (logs_alter _)

theorem logs_writeJson (p : FilePath) (v : Value) : Logs (Action.writeJson p v) :=
  .andThen (logs_writeText _ _ _) fun _ => .pure _

theorem logs_start (command : List String) (directory : FilePath) (limit? : Option Int) :
    Logs (Action.start command directory limit?) := by
  intro w
  unfold Action.start
  rw [runFrom_bind, runFrom_modify]
  dsimp only
  rw [runFrom_bind, runFrom_get]
  dsimp only
  split <;> exact .nothing rfl rfl

theorem logs_since (begun : Number.Real64) : Logs (Action.since begun) :=
  .andThen logs_tick fun _ => .pure _

theorem logs_run (command : List String) (directory : FilePath) (limit : Int) (log? : Option Settings) :
    Logs (Action.run command directory limit log?) := by
  unfold Action.run
  refine .andThen logs_tick fun begun => .andThen (logs_start _ _ _) fun ending => ?_
  cases log? with
  | none =>
    cases ending with
    | exited code stdout stderr => exact .andThen (logs_since _) fun _ => .andThen (.pure _) fun _ => .pure _
    | timedOut stdout stderr => exact .andThen (logs_since _) fun _ => .andThen (.pure _) fun _ => .pure _
    | notStarted errno => exact .andThen (.throw _) fun _ => .pure _
    | broken failure => exact .andThen (.throw _) fun _ => .pure _
  | some settings =>
    have hlogged : ∀ (e : Log.Event) (result : CommandResult), Logs (Log.write settings e >>= fun _ => pure result) :=
      fun e result => .andThen (logs_log _ _) fun _ => .pure result
    cases ending with
    | exited code stdout stderr => exact .andThen (logs_since _) fun _ => .andThen (.pure _) fun _ => hlogged _ _
    | timedOut stdout stderr => exact .andThen (logs_since _) fun _ => .andThen (.pure _) fun _ => hlogged _ _
    | notStarted errno => exact .andThen (.throw _) fun _ => hlogged _ _
    | broken failure => exact .andThen (.throw _) fun _ => hlogged _ _

end Action

end JavaStubs
