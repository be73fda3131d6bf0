import JavaStubs.Build.Generate
import JavaStubs.Proofs.Build.Books
import JavaStubs.Proofs.Config.Loading
import JavaStubs.Proofs.Library.Refusals
import JavaStubs.Proofs.Source.Settled

/-! How a build fails whose compiler only notes what it is given. -/
namespace JavaStubs

open FileTree

variable {P : Disk → Failure → Prop} [hP : CommonFailures P] {settings : Settings}

/-- Names on a disk hold no NUL, so the scripts of a scan do not either. More directories make no difference. -/
theorem Disk.nulFreeScript_of_mem_scan {d : Disk} {t : FileTree} {s : SourceSet} {mappings : List SuffixMapping}
    {scripts : List Script} (hwell : t.WellFormed) (hmore : MoreDirs t d.tree) (h : d.scan s mappings = .ok scripts)
    {x : Script} (hx : x ∈ scripts) : Library.NulFreeScript x := by
  obtain ⟨habs, l, m, hstat, hmem⟩ := scan_ok h
  obtain ⟨names, hleaf, -, rfl⟩ := (hmem x).1 hx
  obtain ⟨e, he, hfile⟩ := hleaf.get?
  have hbefore : ∃ e, t.get? (names.reverse ++ l) = some e := by
    rcases hmore (names.reverse ++ l) with hsame | ⟨-, hnew⟩
    · rw [content?_of_get? he] at hsame
      exact (get?_of_content? hsame.symm).imp fun _ h => h.1
    · rw [content?_of_get? he, Option.some.injEq, Entry.content_eq_dir, hfile] at hnew
      cases hnew
  obtain ⟨e', he'⟩ := hbefore
  have hnames : ∀ c ∈ names, holdsNul c = false :=
    fun c hc => (hwell.named_of_mem he' (List.mem_reverse.2 hc)).noNul
  rw [ofPath_descend habs]
  refine ⟨(nulFree_of_stat hstat).descend hnames, ?_⟩
  rw [FilePath.name_descend _ hleaf.ne_nil, List.getLast?_eq_some_getLast hleaf.ne_nil]
  exact hnames _ (List.getLast_mem hleaf.ne_nil)

namespace Turn

variable {intermediate : FilePath} {encoding : String} {w : World}

theorem failsBy_take (hroot : intermediate.NulFree)
    (hencoding : holdsNul encoding = true → ∀ d, P d (.charset .nulInName)) {s : SourceSet}
    (hscripts : s.isLibrary = true → ∀ scripts, w.disk.scan s = .ok scripts → ∀ x ∈ scripts, Library.NulFreeScript x) :
    (take settings intermediate encoding s).FailsBy (fun w => P w.disk) w := by
  refine .bind ?_ fun _ _ _ => .bind (Action.failsBy_look (Disk.errsBy_scan _ _)) fun _ _ _ => .pure _
  unfold standIn
  split
  · next hlib => exact .bind (Library.failsBy_publish hroot hencoding (hscripts hlib)) fun _ _ _ => .pure _
  · exact .pure _

theorem failsBy_takeAll (hroot : intermediate.NulFree)
    (hencoding : holdsNul encoding = true → ∀ d, P d (.charset .nulInName)) {sets : List SourceSet}
    (hone : sets.Pairwise fun a b => a.isLibrary = true → ¬b.isLibrary = true)
    (hscripts : ∀ s ∈ sets, s.isLibrary = true → ∀ scripts, w.disk.scan s = .ok scripts →
      ∀ x ∈ scripts, Library.NulFreeScript x) :
    (takeAll settings intermediate encoding sets).FailsBy (fun w => P w.disk) w := by
  induction sets generalizing w with
  | nil => exact .pure _
  | cons s ss ih =>
    obtain ⟨hs, hone⟩ := List.pairwise_cons.1 hone
    refine .bind (failsBy_take hroot hencoding (hscripts s List.mem_cons_self)) fun t w' htake =>
      .bind (ih hone fun s' hs' hlib' => ?_) fun _ _ _ => .pure _
    rw [take_plain (fun hlib => hs s' hs' hlib hlib') htake]
    exact hscripts s' (List.mem_cons_of_mem _ hs') hlib'

end Turn

namespace Disk

variable {d : Disk} {p : FilePath}

theorem not_nul_of_stubFilesFrom (stack : List Met) : (d.stubFilesFrom stack).stop? ≠ some .nul := by
  fun_induction stubFilesFrom d stack
  case case3 ih => exact ih
  all_goals simp [Trace.done, Trace.failed]

theorem not_nul_of_stubFiles (h : p.NulFree) : (d.stubFiles p).stop? ≠ some .nul := by
  unfold stubFiles
  split
  · simp [Trace.failed]
  · split
    · exact not_nul_of_stubFilesFrom _
    · next e he =>
      rintro ⟨⟩
      exact not_nul_of_stat h he

end Disk

namespace Action

theorem failsBy_resetFiles (ms : List Disk.Met) {w : World} :
    (resetFiles ms).FailsBy (fun _ e => ∃ cause, cause ≠ .nul ∧ e = .access cause) w := by
  induction ms generalizing w with
  | nil => exact .pure _
  | cons m ms ih =>
    refine .bind (failsBy_change fun e he => ⟨e, ?_, rfl⟩) fun _ _ _ => ih
    rintro rfl
    unfold Disk.setModified at he
    split at he
    · cases he
    · split at he <;> cases he

theorem failsBy_resetTimes (p : FilePath) {w : World} : (resetTimes p).FailsBy (fun w => P w.disk) w := by
  refine .bind (failsBy_look (Disk.errsBy_test _)) fun isDir w' hlook => ?_
  obtain ⟨hdir, rfl⟩ := Prod.mk.inj hlook
  dsimp only
  split
  · exact .bind (.throw (CommonFailures.stub nofun)) fun _ _ hthrown => nomatch hthrown
  next htrue =>
  have hdir := ok_of_mapError hdir
  rw [show isDir = true by simpa using htrue] at hdir
  obtain ⟨l, m, hstat⟩ := Disk.stat_of_isDir? hdir
  have hfree := Disk.nulFree_of_stat hstat
  have hrefused : ∀ {w : World} {e : Failure}, (∃ cause, cause ≠ .nul ∧ e = .access cause) →
      P w.disk (Failure.refused .cannotReset e) := by
    rintro w _ ⟨cause, hcause, rfl⟩
    exact CommonFailures.refused (fun _ => by simp [StubError.errorClass]) hcause
  refine .mapFailure (.mono ?_ fun _ _ => hrefused)
  refine .bind (.of_ok (runFrom_disk _)) fun d w₁ hdisk => ?_
  cases hdisk
  refine .bind (failsBy_resetFiles _) fun _ _ _ => ?_
  split
  · next e he =>
    refine .throw ⟨e, ?_, rfl⟩
    rintro rfl
    exact Disk.not_nul_of_stubFiles hfree he
  · exact .pure _

end Action

namespace BuildAction

variable {intermediate : FilePath} {encoding : String} {b : Build}

theorem failsBy_handOver (hroot : intermediate.NulFree)
    (hencoding : holdsNul encoding = true → ∀ d, P d (.charset .nulInName)) {root cwd : FilePath}
    {ds : List Declaration} {sets : List SourceSet} (hsets : SourceSet.normalize root cwd ds = .ok sets)
    (hran : b.compiler.ran = false)
    (hscripts : ∀ s ∈ sets, s.isLibrary = true → ∀ scripts, b.world.disk.scan s = .ok scripts →
      ∀ x ∈ scripts, Library.NulFreeScript x) :
    (handOver settings sets intermediate encoding).FailsBy (fun b => P b.world.disk) b := by
  intro e b' hrun
  rcases handOver_spec settings intermediate encoding b (SourceSet.normalize_modes hsets) with
    ⟨_, _, _, _, _, -, hhanded, -⟩ | ⟨e', w, b'', text, _, hturns, hhanded, -, hworld⟩ | ⟨hran', -⟩
  · cases hhanded.symm.trans hrun
  · cases hhanded.symm.trans hrun
    rw [hworld]
    exact Turn.failsBy_takeAll hroot hencoding (SourceSet.normalize_libraries hsets) hscripts _ w hturns
  · cases hran.symm.trans hran'

theorem failsBy_compile (hdry : b.compiler.engine = .dry) :
    compile.FailsBy (fun _ f => f.Classed) b := by
  unfold compile
  refine .bind (.of_ok (Acting.runFrom_get b)) fun b₁ b₂ hget => ?_
  cases hget
  dsimp only
  split
  · exact .bind (.throw (Failure.classed_stub nofun)) fun _ _ hthrown => nomatch hthrown
  · split
    · next e he =>
      unfold Compiler.request at he
      split at he
      · cases he
        exact .throw (Failure.classed_stub nofun)
      · cases he
    · refine .bind (.of_ok (Acting.runFrom_set _ _)) fun _ _ _ => ?_
      rw [hdry]
      exact .pure _

theorem failsBy_compileSources (hroot : intermediate.NulFree)
    (hencoding : holdsNul encoding = true → ∀ d, P d (.charset .nulInName)) {root cwd : FilePath}
    {ds : List Declaration} {sets : List SourceSet} (hsets : SourceSet.normalize root cwd ds = .ok sets)
    (hran : b.compiler.ran = false) (hdry : b.compiler.engine = .dry)
    (hscripts : ∀ s ∈ sets, s.isLibrary = true → ∀ scripts, b.world.disk.scan s = .ok scripts →
      ∀ x ∈ scripts, Library.NulFreeScript x) :
    (compileSources settings sets intermediate encoding).FailsBy (fun b => P b.world.disk) b := by
  refine .bind (failsBy_handOver hroot hencoding hsets hran hscripts) fun g handed hhanded =>
    .bind (.mapFailure (.mono (failsBy_compile ?_) ?_)) fun _ _ _ =>
      .bind (failsBy_onWorld (Action.failsBy_log _ _)) fun _ _ _ => .pure _
  · rcases handOver_spec settings intermediate encoding b (SourceSet.normalize_modes hsets) with
      ⟨_, _, _, _, _, -, hhanded', hbooked, -⟩ | ⟨_, _, _, _, _, -, hhanded', -⟩ | ⟨hran', -⟩
    · cases hhanded'.symm.trans hhanded
      rw [hbooked.compiler]
      exact hdry
    · cases hhanded'.symm.trans hhanded
    · cases hran.symm.trans hran'
  · rintro b' f ⟨e, rfl, he⟩
    exact CommonFailures.stub he

theorem sets_of_sources {d : Disk} {config : Config} {sets : List SourceSet}
    (h : Project.sources d settings config = .ok sets) : ∃ ds, SourceSet.normalize settings.root d.cwd ds = .ok sets := by
  unfold Project.sources at h
  split at h
  · exact ⟨_, ok_of_mapError h⟩
  · obtain ⟨_, -, h⟩ := ok_of_bind h
    exact ⟨_, ok_of_mapError h⟩

theorem configure_keeps (c : Compiler) (target : FilePath) (classPath : List String) (encoding : Option String) :
    (c.configure target classPath encoding).engine = c.engine ∧
      (c.configure target classPath encoding).ran = c.ran ∧
      (c.configure target classPath encoding).files = c.files := by
  unfold Compiler.configure
  split
  · exact ⟨rfl, rfl, rfl⟩
  · simp [Compiler.setOption]

/-- A build whose compiler only notes what it is given fails by itself only for a path that is too long, for a NUL in the
output directory, and for one in the name of the encoding. -/
theorem failsBy_generate {config : Config} (hwell : b.world.disk.tree.WellFormed) (hroot : settings.root.NulFree)
    (hran : b.compiler.ran = false) (hdry : b.compiler.engine = .dry)
    (houtput : ¬b.host.output.NulFree → ∀ d, P d (.access .nul))
    (hencoding : holdsNul config.readEncoding = true → ∀ d, P d (.charset .nulInName)) :
    (generate settings config).FailsBy (fun b => P b.world.disk) b := by
  have hinner : (Config.intermediateFor settings.scope settings.root).NulFree := by
    refine hroot.append ?_
    cases settings.scope <;> decide
  refine .bind (failsBy_onWorld (Action.failsBy_look (Project.errsBy_sources _ _))) fun sets b₁ hlook => ?_
  obtain ⟨hsources, rfl⟩ := Prod.mk.inj hlook
  obtain ⟨ds, hsets⟩ := sets_of_sources hsources
  refine .bind (.of_ok (Acting.runFrom_get _)) fun b₂ b₃ hget => ?_
  cases hget
  refine .bind (failsBy_onWorld (Action.failsBy_ensureDir houtput)) fun output b₁ hmade => ?_
  obtain ⟨d, r, hensured, hmore, -⟩ := Action.runFrom_ensureDir b.host.output b.world
  rw [runFrom_onWorld, hensured] at hmade
  cases hmade
  refine .bind (.of_ok (Acting.runFrom_modify _ _)) fun _ b₂ hmodify => ?_
  cases hmodify
  obtain ⟨hengine, hfresh, -⟩ := configure_keeps b.compiler output (config.classPathFor settings.root) config.effectiveEncoding
  refine .bind (failsBy_compileSources hinner hencoding hsets (hfresh.trans hran) (hengine.trans hdry) ?_)
    fun _ _ _ => .bind (failsBy_onWorld (Action.failsBy_resetTimes _)) fun _ _ _ =>
      .bind (failsBy_onWorld (Action.failsBy_log _ _)) fun _ _ _ => .bind (.of_ok (Acting.runFrom_get _)) fun _ _ _ =>
        .pure _
  intro s _ _ scripts hscan x hx
  exact Disk.nulFreeScript_of_mem_scan hwell hmore.tree hscan hx

end BuildAction

end JavaStubs
