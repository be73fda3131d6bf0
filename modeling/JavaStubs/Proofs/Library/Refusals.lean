import JavaStubs.Library.Publish
import JavaStubs.Proofs.Library.Names
import JavaStubs.Proofs.Library.Places
import JavaStubs.Proofs.Run.Refusals

/-! How publishing a library fails. Paths below a usable intermediate root are usable, so a failure that has no class
comes from the library's own directory, or from the name of the encoding. -/
namespace JavaStubs.Library

open JavaStubs.Action

structure NulFreeScript (x : Script) : Prop where
  path : x.path.NulFree
  baseName : holdsNul x.baseName = false

section

variable {P : Disk → Failure → Prop} [hP : CommonFailures P] {settings : Settings} {intermediate : FilePath}
variable {encoding : String} {w : World}

theorem nulFree_packageDir (h : intermediate.NulFree) : (packageDir intermediate).NulFree :=
  h.child (by decide)

theorem nulFree_registryPath (h : intermediate.NulFree) : (registryPath intermediate).NulFree :=
  h.child (by decide)

theorem nulFree_generated (h : intermediate.NulFree) {x : Script} (hx : NulFreeScript x) :
    (wrapperOf intermediate x).generated.NulFree := by
  refine (nulFree_packageDir h).child (holdsNul_eq_false_iff.2 fun hnul => ?_)
  exact holdsNul_eq_false_iff.1 hx.baseName (mem_of_mem_classFile (by decide) (by decide) hnul)

theorem errsBy_readBody {d : Disk} {p : FilePath} (hp : p.NulFree)
    (hencoding : holdsNul encoding = true → ∀ d, P d (.charset .nulInName)) : ErrsBy (P d) (readBody d p encoding) := by
  unfold readBody
  dsimp only
  split
  · next hnul => exact .error (hencoding hnul d)
  · split
    · exact .error (CommonFailures.stub nofun)
    · next hnul => exact absurd hnul (Disk.not_nul_of_read hp)
    · exact .mapError fun e _ => CommonFailures.stub nofun

theorem failsBy_publishWrappers (hroot : intermediate.NulFree)
    (hencoding : holdsNul encoding = true → ∀ d, P d (.charset .nulInName)) {scripts : List Script}
    (hscripts : ∀ x ∈ scripts, NulFreeScript x) :
    (publishWrappers settings encoding (scripts.map (wrapperOf intermediate))).FailsBy (fun w => P w.disk) w := by
  induction scripts generalizing w with
  | nil => exact .pure _
  | cons x xs ih =>
    have hx := hscripts x List.mem_cons_self
    refine .bind ?_ fun _ _ _ => .bind (ih fun y hy => hscripts y (List.mem_cons_of_mem _ hy)) fun _ _ _ => .pure _
    exact .bind (failsBy_look (errsBy_readBody hx.path hencoding)) fun _ _ _ =>
      .bind (failsBy_writeText (nulFree_generated hroot hx) hencoding) fun _ _ _ =>
        .bind (failsBy_log _ _) fun _ _ _ => .pure _

/-- Removing files is refused for one of the system's reasons: a path that leads to a file holds no NUL. -/
theorem failsBy_removeStale (keep files : List FilePath) :
    (removeStale keep files).FailsBy (fun _ e => ∃ cause, cause ≠ .nul ∧ e = .access cause) w := by
  induction files generalizing w with
  | nil => exact .pure _
  | cons p ps ih =>
    refine .bind (failsBy_look (.mapError fun e he => ⟨e, ?_, rfl⟩)) fun isFile w' hlook => ?_
    · rintro rfl
      exact Disk.not_nul_of_test he
    split
    · next hstale =>
      rw [Bool.and_eq_true] at hstale
      obtain ⟨hfile, rfl⟩ := Prod.mk.inj hlook
      have hfile := ok_of_mapError hfile
      rw [hstale.1] at hfile
      obtain ⟨l, data, m, a, hstat⟩ := Disk.stat_of_isFile? hfile
      refine .bind (failsBy_change fun e he => ⟨e, ?_, rfl⟩) fun _ _ _ => .bind ih fun _ _ _ => .pure _
      rintro rfl
      exact Disk.not_nul_of_unlink (Disk.nulFree_of_stat hstat) he
    · exact ih

theorem failsBy_prune (dir : FilePath) (keep : List FilePath) : (prune dir keep).FailsBy (fun w => P w.disk) w := by
  have hlisting : ∀ {d : Disk}, wrapperFiles d dir ≠ .error .nul := by
    intro d
    unfold wrapperFiles
    split
    · next e he =>
      rintro ⟨⟩
      exact Disk.not_nul_of_test he
    · exact nofun
    · next hdir =>
      obtain ⟨l, m, hstat⟩ := Disk.stat_of_isDir? hdir
      rw [hstat]
      dsimp only
      split
      · split <;> simp
      · simp
  have hrefused : ∀ {w : World} {e : Failure}, (∃ cause, cause ≠ .nul ∧ e = .access cause) →
      P w.disk (Failure.refused (.cannotPrune dir) e) := by
    rintro w _ ⟨cause, hcause, rfl⟩
    exact CommonFailures.refused (fun _ => by simp [StubError.errorClass]) hcause
  refine .mapFailure (.mono ?_ fun _ _ => hrefused)
  refine .bind (failsBy_look (.mapError fun e he => ⟨e, ?_, rfl⟩)) fun files _ _ => failsBy_removeStale keep files
  rintro rfl
  exact hlisting he

omit hP in
theorem failsBy_logRemoved {P : World → Failure → Prop} (removed : List FilePath) :
    (logRemoved settings removed).FailsBy P w := by
  induction removed generalizing w with
  | nil => exact .pure _
  | cons p ps ih => exact .bind (failsBy_log _ _) fun _ _ _ => ih

theorem failsBy_publish {s : SourceSet} (hroot : intermediate.NulFree)
    (hencoding : holdsNul encoding = true → ∀ d, P d (.charset .nulInName))
    (hscripts : ∀ scripts, w.disk.scan s = .ok scripts → ∀ x ∈ scripts, NulFreeScript x) :
    (publish settings s intermediate encoding).FailsBy (fun w => P w.disk) w := by
  have hclasses : (publishClasses settings s intermediate encoding).FailsBy (fun w => P w.disk) w := by
    obtain ⟨text, hlog⟩ := Log.runFrom_write settings ⟨.info, "globalvars", "discovered",
      [("directory", .text s.directory.text),
        ("message", .text "Discovered Pipeline Library global Vars, will handle in a custom way")]⟩ w
    refine .bind (failsBy_log _ _) fun _ w₁ hw₁ => ?_
    cases hlog.symm.trans hw₁
    refine .bind (failsBy_look (Disk.errsBy_scan s _)) fun scripts w₂ hlook => ?_
    have hscan := (Prod.mk.inj hlook).1
    refine .bind (.ofExcept (.mapError fun e he => ?_)) fun wrappers w₃ hplan => ?_
    · unfold plan at he
      split at he
      · cases he
      · cases he
        exact CommonFailures.stub nofun
    · obtain ⟨-, rfl⟩ := plan_ok.1 (ok_of_mapError (Prod.mk.inj hplan).1)
      exact .bind (failsBy_ensureDir fun hnot => absurd (nulFree_packageDir hroot) hnot) fun _ _ _ =>
        .bind (failsBy_publishWrappers hroot hencoding (hscripts scripts hscan)) fun _ _ _ => .pure _
  refine .bind hclasses fun made _ _ => .bind ?_ fun _ _ _ => .bind (.of_ok (runFrom_disk _)) fun _ _ _ =>
    .bind (failsBy_log _ _) fun _ _ _ => .pure _
  exact .bind (failsBy_prune _ _) fun _ _ _ => .bind (failsBy_logRemoved _) fun _ _ _ =>
    failsBy_writeText (nulFree_registryPath hroot) hencoding

end

end JavaStubs.Library
