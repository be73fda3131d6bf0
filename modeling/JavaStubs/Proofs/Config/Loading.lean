import JavaStubs.Build.Project
import JavaStubs.Proofs.Config.Faults
import JavaStubs.Proofs.Disk.Place
import JavaStubs.Proofs.Run.Refusals

/-! How settling a run's project, its configuration and its source sets fails. -/
namespace JavaStubs

variable {P : Disk → Failure → Prop} [hP : CommonFailures P]

namespace Config

variable {d : Disk} {root : FilePath} {explicit : Option String}

/-- Loading a configuration fails with a class, or for one of the faults that are handed on as they are. -/
theorem errsBy_load (hstray : ∀ f, Stray d root explicit f → P d f) : ErrsBy (P d) (load d root explicit) := by
  intro f hf
  rcases LoadFailure.of_load f hf with ⟨e, rfl, he⟩ | h
  · exact CommonFailures.stub (by simp [he])
  · exact hstray f h

end Config

namespace Settings

/-- The project directory as it is named by the caller, by the environment, or by default. -/
def namedRoot (w : World) (root? : Option String) : FilePath :=
  .ofText (((given? root?).orElse fun _ => given? (w.environment.lookup rootVariable)).getD ".")

variable {w : World} {r : Request}

theorem errsBy_ofRequest (hnul : ¬(namedRoot w r.root).NulFree → P w.disk (.access .nul))
    (hloop : ∀ e, w.disk.stat (w.disk.canonical (namedRoot w r.root)) = .error (.os e) → e.errno = .ELOOP →
      P w.disk (.linkLoop (w.disk.canonical (namedRoot w r.root)))) :
    ErrsBy (P w.disk) (ofRequest w r) := by
  have hresolve : ErrsBy (P w.disk) (resolve w.disk (namedRoot w r.root)) := by
    unfold resolve
    split
    · next h => exact .error (hnul fun hfree => by rw [FilePath.nulFree_iff.1 hfree] at h; cases h)
    · dsimp only
      split
      · next e he =>
        split
        · next hloops => exact .error (hloop e he hloops)
        · exact .ok _
      · exact .ok _
  refine .bind hresolve fun root _ => .bind (Disk.errsBy_test _) fun isDir _ => ?_
  dsimp only
  split
  · exact .error (CommonFailures.stub nofun)
  · split
    · exact .error (CommonFailures.stub nofun)
    · exact .ok _

/-- The project directory of a run is the canonical form of a path, and it is there. The scope is the one asked for. -/
theorem ofRequest_ok {s : Settings} (h : ofRequest w r = .ok s) :
    s.root = w.disk.canonical (namedRoot w r.root) ∧ w.disk.isDir? s.root = .ok true ∧
      Scope.ofWord? r.scope = some s.scope := by
  have hresolve : ∀ root, resolve w.disk (namedRoot w r.root) = .ok root →
      root = w.disk.canonical (namedRoot w r.root) := by
    intro root hroot
    unfold resolve at hroot
    split at hroot
    · cases hroot
    · dsimp only at hroot
      split at hroot
      · split at hroot <;> cases hroot
        rfl
      · cases hroot
        rfl
  unfold ofRequest at h
  dsimp only [bind, Except.bind] at h
  split at h
  · cases h
  next root hroot =>
  split at h
  · cases h
  next isDir hisDir =>
  split at h
  · cases h
  next htrue =>
  split at h
  · cases h
  next scope hscope =>
  cases h
  refine ⟨hresolve root hroot, ?_, hscope⟩
  rw [ok_of_mapError hisDir, show isDir = true by simpa using htrue]

theorem isDir?_of_ofRequest {s : Settings} (h : ofRequest w r = .ok s) : w.disk.isDir? s.root = .ok true :=
  (ofRequest_ok h).2.1

theorem isAbsolute_of_ofRequest {s : Settings} (h : ofRequest w r = .ok s) : s.root.isAbsolute = true := by
  rw [(ofRequest_ok h).1]
  rfl

theorem format_of_ofRequest {s : Settings} (h : ofRequest w r = .ok s) : s.format = r.format := by
  unfold ofRequest at h
  obtain ⟨root, -, hrest⟩ := ok_of_bind h
  obtain ⟨isDir, -, hscoped⟩ := ok_of_bind hrest
  dsimp only at hscoped
  split at hscoped
  · cases hscoped
  split at hscoped
  · cases hscoped
  · cases hscoped
    rfl

theorem project_of_ofRequest {w' : World} {r' : Request} {s s' : Settings} (h : ofRequest w r = .ok s)
    (h' : ofRequest w' r' = .ok s') (hdisk : w'.disk = w.disk) (henvironment : w'.environment = w.environment)
    (hroot : r'.root = r.root) (hscope : r'.scope = r.scope) : s'.root = s.root ∧ s'.scope = s.scope := by
  obtain ⟨hcanonical, -, hword⟩ := ofRequest_ok h
  obtain ⟨hcanonical', -, hword'⟩ := ofRequest_ok h'
  constructor
  · rw [hcanonical, hcanonical', hdisk, namedRoot, namedRoot, hroot, henvironment]
  · rw [hscope] at hword'
    exact Option.some.inj (hword'.symm.trans hword)

/-- In a tree without links, a directory that is named becomes the project of a run under its own path. -/
theorem ofRequest_of_linkFree {scope : Scope} (ht : w.disk.tree.LinkFree)
    (hnamed : holdsNul (namedRoot w r.root).text = false) (hscope : Scope.ofWord? r.scope = some scope)
    (hdir : w.disk.isDir? (.ofLoc (w.disk.place (namedRoot w r.root))) = .ok true) :
    ofRequest w r = .ok {
      runId := ((given? r.runId).orElse fun _ => given? (w.environment.lookup runIdVariable)).getD
        (makeRunId w.moment w.revision)
      root := .ofLoc (w.disk.place (namedRoot w r.root))
      scope
      format := r.format
      verbose := r.verbose
      quiet := r.quiet
      logJson := r.logJson || flag w.environment logVariable } := by
  obtain ⟨l, m, hstat⟩ := Disk.stat_of_isDir? hdir
  have hresolve : resolve w.disk (namedRoot w r.root) = .ok (.ofLoc (w.disk.place (namedRoot w r.root))) := by
    rw [resolve, hnamed, if_neg (by decide)]
    dsimp only
    rw [Disk.canonical_of_linkFree ht, hstat]
  unfold namedRoot at hresolve hdir
  simp only [ofRequest, bind, Except.bind, hresolve, hdir, mapError_ok, hscope]
  rfl

end Settings

namespace Project

theorem errsBy_sources {d : Disk} (s : Settings) (config : Config) : ErrsBy (P d) (sources d s config) := by
  have hnormalize : ∀ declared : List SourceSet,
      ErrsBy (P d) ((SourceSet.normalize s.root d.cwd (declared.map SourceSet.declaration)).mapError fun p =>
        .stub (.sourceSets p)) :=
    fun declared => .mapError fun e _ => CommonFailures.stub nofun
  have hdefault : ErrsBy (P d) (defaultSources d s) := by
    unfold defaultSources
    dsimp only
    split
    · exact .ok _
    · exact .ok _
    · next e he =>
      obtain ⟨errno, rfl, hrefuses⟩ := Disk.refuses_of_test he
      exact .error (hP.untold hrefuses)
  unfold sources
  split
  · exact hnormalize _
  · exact .bind hdefault fun declared _ => hnormalize declared

end Project

end JavaStubs
