import JavaStubs.Proofs.Disk.Refused
import JavaStubs.Proofs.Run.Failing
import JavaStubs.Proofs.Source.Leaves

/-! How steps of a run fail that use paths. What the system refuses becomes a failure of a class, but for two cases:
the system may not tell what a path leads to, or the path may hold a NUL. -/
namespace JavaStubs

namespace Charset

theorem not_nulInName_of_encode (set : PartialSet) (position : Nat) (cs : List Char) :
    set.encode position cs ≠ .error .nulInName := by
  induction cs generalizing position with
  | nil => exact nofun
  | cons c cs ih =>
    rw [PartialSet.encode]
    split
    · have ih := ih (position + 1)
      cases hrest : set.encode (position + 1) cs with
      | error e =>
        rw [hrest] at ih
        exact ih
      | ok data => exact nofun
    · exact nofun

theorem holdsNul_of_encodeAs {name s : String} (h : encodeAs name s = .error .nulInName) : holdsNul name = true := by
  unfold encodeAs at h
  split at h
  · next charset _ =>
    cases charset with
    | latin1 | ascii | windows1252 | shiftJis => exact absurd h (not_nulInName_of_encode _ _ _)
    | _ => cases h
  · next hnamed =>
    cases h
    unfold named at hnamed
    split at hnamed
    · next hc => exact hc
    · split at hnamed
      · cases hnamed
      · split at hnamed <;> cases hnamed

end Charset

/-- A property that failures of a class have, and those due to a path that the system does not tell about. -/
class CommonFailures (P : Disk → Failure → Prop) : Prop where
  classed : ∀ {d f}, f.Classed → P d f
  untold : ∀ {d p errno}, d.Refuses p errno → P d (.access (.os (.at errno p)))

theorem Failure.classed_stub {e : StubError} (h : e.errorClass ≠ .general) : (Failure.stub e).Classed :=
  ⟨e, rfl, h⟩

section

variable {P : Disk → Failure → Prop} [hP : CommonFailures P] {d : Disk} {p : FilePath}

theorem CommonFailures.stub {e : StubError} (h : e.errorClass ≠ .general) : P d (.stub e) :=
  hP.classed (Failure.classed_stub h)

theorem CommonFailures.refused {cause : OsError → StubError} (hcause : ∀ e, (cause e).errorClass ≠ .general)
    {e : AccessError} (he : e ≠ .nul) : P d (Failure.refused cause (.access e)) := by
  cases e with
  | os e => exact CommonFailures.stub (hcause e)
  | nul => exact absurd rfl he

namespace Disk

theorem errsBy_test (kind : Entry → Bool) : ErrsBy (P d) ((d.test kind p).mapError .access) := by
  refine .mapError fun e he => ?_
  obtain ⟨errno, rfl, hrefuses⟩ := refuses_of_test he
  exact hP.untold hrefuses

theorem errsBy_sourceDirectory (s : SourceSet) : ErrsBy (P d) (d.sourceDirectory s) := by
  unfold sourceDirectory
  dsimp only
  split
  · exact .error (CommonFailures.stub nofun)
  refine .bind (errsBy_test _) fun there _ => ?_
  split
  · exact .error (CommonFailures.stub nofun)
  refine .bind (errsBy_test _) fun isDir hisDir => ?_
  split
  · exact .error (CommonFailures.stub nofun)
  next htrue =>
    have hisDir := ok_of_mapError hisDir
    rw [show isDir = true by simpa using htrue] at hisDir
    obtain ⟨l, m, hstat⟩ := stat_of_isDir? hisDir
    rw [hstat]
    exact .ok l

theorem errsBy_scan (s : SourceSet) (mappings : List SuffixMapping) : ErrsBy (P d) (d.scan s mappings) := by
  refine .bind (errsBy_sourceDirectory s) fun l _ => ?_
  split
  · exact .error (CommonFailures.stub nofun)
  · exact .ok _

end Disk

namespace Action

variable {w : World}

/-- A directory cannot be made for one of the system's reasons, or because its path holds a NUL. -/
theorem failsBy_ensureDir (hnul : ¬p.NulFree → ∀ d, P d (.access .nul)) :
    (ensureDir p).FailsBy (fun w => P w.disk) w := by
  refine .bind (.mapFailure ?_) fun _ _ _ => .pure _
  intro e w' hrun
  rw [runFrom_alter] at hrun
  obtain ⟨hresult, rfl⟩ := Prod.mk.inj hrun
  rcases hmade : (w.disk.ensureDirs p).2 with cause | _
  · rw [hmade] at hresult
    cases hresult
    by_cases hcause : cause = .nul
    · subst hcause
      exact hnul (fun hfree => Disk.not_nul_of_ensureDirs hfree _ hmade) _
    · exact CommonFailures.refused (fun _ => by simp [StubError.errorClass]) hcause
  · rw [hmade] at hresult
    cases hresult

theorem failsBy_writeText (hfree : p.NulFree) {content encoding : String}
    (hnul : holdsNul encoding = true → ∀ d, P d (.charset .nulInName)) :
    (writeText p content encoding).FailsBy (fun w => P w.disk) w := by
  unfold writeText
  split
  · next e he =>
    refine .throw ?_
    cases e with
    | nulInName => exact hnul (Charset.holdsNul_of_encodeAs he) _
    | _ => exact CommonFailures.stub nofun
  · refine .mapFailure ?_
    intro e w' hrun
    rw [runFrom_alter] at hrun
    obtain ⟨hresult, rfl⟩ := Prod.mk.inj hrun
    rcases hput : (w.disk.update p _).2 with cause | _
    · rw [hput] at hresult
      cases hresult
      refine CommonFailures.refused (fun _ => by simp [StubError.errorClass]) ?_
      rintro rfl
      exact Disk.not_nul_of_update hfree _ _ hput
    · rw [hput] at hresult
      cases hresult

end Action

end

end JavaStubs
