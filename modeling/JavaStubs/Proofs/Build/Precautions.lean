import JavaStubs.Proofs.Build.Frame
import JavaStubs.Proofs.Compiler.Failing
import JavaStubs.Proofs.Disk.Updating
import JavaStubs.Proofs.Library.Precautions

/-! A build comes upon errors of the configuration before it writes to a file and before it starts a program. -/
namespace JavaStubs

namespace Turn

variable {settings : Settings} {intermediate : FilePath} {encoding : String} {w₀ w : World}

theorem precautious_take {s : SourceSet} (habs : s.directory.isAbsolute = true)
    (hinner : intermediate.isAbsolute = true) (hw : s.isLibrary = true → w₀.Untouched w) :
    (take settings intermediate encoding s).FailsBy (Precautious w₀) w := by
  have hstand : (standIn settings intermediate encoding s).FailsBy (Precautious w₀) w := by
    unfold standIn
    split
    · next hlib => exact .bind (Library.precautious_publish (hw hlib)) fun _ _ _ => .pure _
    · exact .pure _
  refine .bind hstand fun x w₁ hx => Precautious.of_proper ?_
  have hdirectory : x.1.directory.isAbsolute = true := by
    rcases standIn_ok hx with ⟨-, -, -, hplaced⟩ | ⟨-, -, hself⟩
    · rw [hplaced, FilePath.absolute_of_isAbsolute hinner]
      exact hinner
    · rw [hself]
      exact habs
  exact .bind (Action.failsBy_look (Disk.proper_scan hdirectory _ _)) fun _ _ _ => .pure _

/-- Up to the turn of the only library nothing was written, and after it no error of the configuration comes up. -/
theorem precautious_takeAll {sets : List SourceSet}
    (hone : sets.Pairwise fun a b => a.isLibrary = true → ¬b.isLibrary = true)
    (habs : ∀ s ∈ sets, s.directory.isAbsolute = true) (hinner : intermediate.isAbsolute = true)
    (hw : w₀.Untouched w ∨ ∀ s ∈ sets, ¬s.isLibrary = true) :
    (takeAll settings intermediate encoding sets).FailsBy (Precautious w₀) w := by
  induction sets generalizing w with
  | nil => exact .pure _
  | cons s ss ih =>
    obtain ⟨hs, hone⟩ := List.pairwise_cons.1 hone
    obtain ⟨hsabs, habs⟩ := List.forall_mem_cons.1 habs
    have huntouched : s.isLibrary = true → w₀.Untouched w :=
      fun hlib => hw.resolve_right fun hplain => hplain s List.mem_cons_self hlib
    refine .bind (precautious_take hsabs hinner huntouched) fun t w₁ htake => .bind (ih hone habs ?_) fun _ _ _ => .pure _
    by_cases hlib : s.isLibrary = true
    · exact .inr fun s' hs' => hs s' hs' hlib
    · rw [take_plain hlib htake]
      exact hw.imp_right fun hplain s' hs' => hplain s' (List.mem_cons_of_mem _ hs')

end Turn

theorem Action.proper_resetTimes (p : FilePath) {w : World} : (resetTimes p).Proper w := by
  have hfiles : ∀ (ms : List Disk.Met) {w : World}, (resetFiles ms).Proper w := by
    intro ms
    induction ms with
    | nil => exact .pure _
    | cons m ms ih => exact .bind (proper_change _) fun _ _ _ => ih
  refine .bind (failsBy_look (proper_mapError_access _)) fun isDir w₁ _ => ?_
  dsimp only
  split
  · exact .bind (.throw (Failure.not_misconfigured nofun nofun)) fun _ _ hthrown => nomatch hthrown
  refine Acting.proper_refused (fun _ => Failure.not_misconfigured nofun nofun) ?_
  refine .bind (.of_ok (runFrom_disk _)) fun d w₂ _ => .bind (hfiles _) fun _ _ _ => ?_
  split
  · exact .throw id
  · exact .pure _

namespace BuildAction

variable {settings : Settings} {config : Config} {intermediate : FilePath} {encoding : String} {w₀ : World} {b : Build}

theorem precautious_handOver {root cwd : FilePath} {ds : List Declaration} {sets : List SourceSet}
    (hroot : root.isAbsolute = true) (hsets : SourceSet.normalize root cwd ds = .ok sets)
    (hinner : intermediate.isAbsolute = true) (hran : b.compiler.ran = false) (hw : w₀.Untouched b.world) :
    (handOver settings sets intermediate encoding).FailsBy (fun b => Precautious w₀ b.world) b := by
  intro e b' hrun hmis
  rcases handOver_spec settings intermediate encoding b (SourceSet.normalize_modes hsets) with
    ⟨_, _, _, _, _, -, hhanded, -⟩ | ⟨e', w, b'', text, _, hturns, hhanded, -, hworld⟩ | ⟨hran', -⟩
  · cases hhanded.symm.trans hrun
  · cases hhanded.symm.trans hrun
    have huntouched := Turn.precautious_takeAll (SourceSet.normalize_libraries hsets)
      (SourceSet.normalize_isAbsolute hroot hsets) hinner (.inl hw) e w hturns hmis
    rw [hworld]
    exact huntouched.trans (.log w text)
  · cases hran.symm.trans hran'

theorem precautious_prepare (hroot : settings.root.isAbsolute = true) (hran : b.compiler.ran = false) :
    (prepare settings config).FailsBy (fun b' => Precautious b.world b'.world) b := by
  have hinner : (Config.intermediateFor settings.scope settings.root).isAbsolute = true :=
    FilePath.isAbsolute_append hroot _
  intro e b' hrun
  rw [runFrom_prepare] at hrun
  split at hrun
  · cases hrun
    exact fun _ => .refl b.world
  next sets hsources =>
  obtain ⟨ds, hsets⟩ := sets_of_sources hsources
  have hmade : b.world.Untouched ((Action.ensureDir b.host.output).runFrom b.world).2 :=
    Action.Within.ensureDir (Disk.ensureDirs_sameFiles b.host.output) b.world
  split at hrun
  · next w hmake =>
    rw [hmake] at hmade
    cases hrun
    exact fun _ => hmade
  next output w hmake =>
  rw [hmake] at hmade
  split at hrun
  · next hhanded =>
    cases hrun
    have hfresh : (configured settings config b w).compiler.ran = false :=
      (configure_keeps _ _ _ _).2.1.trans hran
    exact precautious_handOver hroot hsets hinner hfresh hmade e b' hhanded
  · cases hrun

/-- A build that fails by an error of the configuration has changed no file and started no program, whichever of its sets
the error came from. -/
theorem precautious_generate (hroot : settings.root.isAbsolute = true) (hran : b.compiler.ran = false)
    (hengine : b.compiler.engine.Usual) (hforeign : ∀ x ∈ b.world.behaviours, x.Foreign) :
    (generate settings config).FailsBy (fun b' => Precautious b.world b'.world) b := by
  intro e b' hrun
  generalize hr : (Except.error e : Except Failure Report) = r at hrun
  cases ends_generate hrun with
  | unprepared hprepare =>
    cases hr
    exact precautious_prepare hroot hran e b' hprepare
  | @uncompiled x handed e' b' hprepare hcompile =>
    cases hr
    obtain ⟨hdiffers, hsame⟩ := prepare_keeping settings config b
    rw [hprepare] at hdiffers hsame
    have hproper : ¬e'.Misconfigured := by
      refine proper_compile ?_ ?_ e' b' hcompile
      · rw [hsame]
        exact hengine
      · rw [hdiffers.behaviours]
        exact hforeign
    intro hmis
    cases e' with
    | stub e' => exact absurd hmis hproper
    | _ => exact absurd hmis (Failure.not_misconfigured nofun nofun)
  | unreset hprepare hcompile hreset =>
    cases hr
    exact fun hmis => absurd hmis (Action.proper_resetTimes _ e _ hreset)
  | done => cases hr

end BuildAction

end JavaStubs
