import JavaStubs.Proofs.Build.DryRun
import JavaStubs.Proofs.CommandLine.ExitCodes

/-! What runs with exit code zero have done and printed. -/
namespace JavaStubs

namespace CommandLine

variable {s : Settings} {a : Arguments} {w w' : World}

theorem code_of_report {asJson : Bool} {runId : String} {f : Failure} {exit : Exit}
    (h : (report asJson runId f).runFrom w = (.ok exit, w')) : exit.code ≠ 0 := by
  cases f with
  | stub e =>
    rw [runFrom_report_stub] at h
    cases h
    cases e.errorClass <;> decide
  | _ =>
    cases (runFrom_report_unexpected asJson runId (by simp) w).symm.trans h
    decide

/-- A run that ends with code zero performed its command, and nothing else but to log. -/
theorem performed_of_run {args : List String} {exit : Exit} (hargs : parseAll args = .ok a)
    (hversion : a.commands ≠ [.version]) (h : (run args).runFrom w = (.ok exit, w')) (hcode : exit.code = 0) :
    ∃ s text w₁ text', Settings.ofRequest w (request a (a.has .json || args.contains "--json")) = .ok s ∧
      (perform s a).runFrom { w with stderr := text } = (.ok (), w₁) ∧ w' = { w₁ with stderr := text' } := by
  rw [runFrom_run hargs hversion rfl] at h
  split at h
  · exact absurd hcode (code_of_report h)
  next s hs =>
  split at h
  · next w₂ hperformed =>
    cases h
    obtain ⟨text, hlog⟩ := Log.runFrom_write s ⟨.debug, "cli", "start", [("cmd", .text (commandName a)),
      ("scope", .text s.scope.word), ("project_root", .text s.root.text)]⟩ w
    rw [performLogged, Acting.runFrom_bind_of_ok hlog] at hperformed
    obtain ⟨⟨⟩, w₁, hperform, hfinish⟩ := Acting.bind_ok hperformed
    obtain ⟨text', hlog'⟩ := Log.runFrom_write s ⟨.debug, "cli", "finish", [("cmd", .text (commandName a)),
      ("rc", .int 0)]⟩ w₁
    cases hlog'.symm.trans hfinish
    exact ⟨s, text, w₁, text', hs, hperform, rfl⟩
  · exact absurd hcode (code_of_report h)

/-- Where debugging is off, a run is what its command does. -/
theorem run_of_perform {args : List String} (hargs : parseAll args = .ok a) (hversion : a.commands ≠ [.version])
    (hs : Settings.ofRequest w (request a (a.has .json || args.contains "--json")) = .ok s)
    (hverbose : s.verbose = false) (h : (perform s a).runFrom w = (.ok (), w')) :
    (run args).runFrom w = (.ok ⟨0, false⟩, w') := by
  have hlog : ∀ component action fields w,
      (Log.write s ⟨.debug, component, action, fields⟩).runFrom w = (.ok (), w) := by
    intro component action fields w
    rw [Log.write, Log.isShown, hverbose]
    rfl
  have hperformed : (performLogged s a).runFrom w = (.ok (), w') := by
    rw [performLogged, Acting.runFrom_bind_of_ok (hlog _ _ _ _), Acting.runFrom_bind_of_ok h, hlog]
  rw [runFrom_run hargs hversion rfl, hs]
  dsimp only
  rw [hperformed]

/-- Source sets with the scripts that a scan lists for each. -/
abbrev Listing := List (SourceSet × List Script)

def listingOf (d : Disk) (s : Settings) (file? : Option String) : Except Failure Listing := do
  let config ← Config.load d s.root file?
  scanAll d (← Project.sources d s config)

def listingText (s : Settings) (listing : Listing) : String :=
  if s.format = .json then
    (Value.table (Value.mergeFields (baseFields s)
      [("source_sets", .array (listing.map fun (set, scripts) => setValue set scripts))])).json .line ++ "\n"
  else if listing.isEmpty then "no source sets" ++ "\n"
  else
    unlines (listing.flatMap fun (set, scripts) =>
      s!"{set.directory.text} ({set.mode.word})" :: scripts.map fun x => "  " ++ x.path.text)

theorem listingOf_ok {file? : Option String} {listing : Listing} (h : listingOf w.disk s file? = .ok listing) :
    ∃ config sets, Config.load w.disk s.root file? = .ok config ∧ Project.sources w.disk s config = .ok sets ∧
      scanAll w.disk sets = .ok listing := by
  obtain ⟨config, hload, h⟩ := ok_of_bind h
  obtain ⟨sets, hsources, h⟩ := ok_of_bind h
  exact ⟨config, sets, hload, hsources, h⟩

/-- A scan prints the listing of the project, and that is all it does. Without a listing it fails and does nothing. -/
theorem runFrom_scan (s : Settings) (a : Arguments) (w : World) : (scan s a).runFrom w =
    match listingOf w.disk s (a.value? .configFile) with
    | .ok listing => (.ok (), { w with stdout := w.stdout ++ listingText s listing })
    | .error e => (.error e, w) := by
  unfold scan listingOf
  rw [Acting.runFrom_bind, loadConfig, Action.runFrom_look]
  rcases Config.load w.disk s.root (a.value? .configFile) with e | config
  · rfl
  dsimp only
  rw [Acting.runFrom_bind, Action.runFrom_look]
  simp only [bind, Except.bind]
  rcases Project.sources w.disk s config with e | sets
  · rfl
  dsimp only
  rcases scanAll w.disk sets with e | listing
  · rfl
  unfold listingText
  dsimp only
  split
  · rfl
  · split <;> rfl

theorem scan_ok (h : (scan s a).runFrom w = (.ok (), w')) :
    ∃ listing, listingOf w.disk s (a.value? .configFile) = .ok listing ∧
      w' = { w with stdout := w.stdout ++ listingText s listing } := by
  rw [runFrom_scan] at h
  split at h
  next listing hlisting =>
    cases h
    exact ⟨listing, hlisting, rfl⟩
  next => cases h

def buildText (s : Settings) (r : Report) (b : Build) (state : FilePath) : String :=
  if s.format = .json then
    (Value.table (Value.mergeFields (baseFields s) (r.toFields ++ [("state_file", .text state.text)] ++
      (if b.compiler.engine.isDry then b.compiler.noted? else none).toList.map fun x =>
        ("request", x.toValue)))).json .line ++ "\n"
  else if s.quiet then ""
  else
    String.join ((summary r.count :: r.files.map (fun p => " + " ++ p.text) ++
      if r.dryRun then [s!"dry run: {r.files.length} source(s) prepared, stub compiler not invoked"]
      else []).map (· ++ "\n"))

theorem runFrom_generate_dry {config : Config} {r : Report} {b : Build} {state : FilePath} {w₁ : World}
    (hdry : a.has .dryRun = true) (hload : Config.load w.disk s.root (a.value? .configFile) = .ok config)
    (hbuilt : (BuildAction.generate s (overridden s a config)).runFrom
      ⟨w, { engine := .dry }, Project.host s (overridden s a config)⟩ = (.ok r, b))
    (hstate : (Project.writeState s b.host).runFrom b.world = (.ok state, w₁)) :
    (generate s a).runFrom w = (.ok (), { w₁ with stdout := w₁.stdout ++ buildText s r b state }) := by
  have hloaded : (loadConfig s a).runFrom w = (.ok config, w) := by
    rw [loadConfig, Action.runFrom_look, hload]
  have hcompiler : (Compiler.ofConfig s (overridden s a config) (a.has .dryRun)).runFrom w =
      (.ok { engine := .dry }, w) := by
    rw [Compiler.ofConfig, if_pos hdry]
    rfl
  rw [generate, Acting.runFrom_bind_of_ok hloaded]
  change Acting.runFrom (Compiler.ofConfig s (overridden s a config) (a.has .dryRun) >>= _) w = _
  rw [Acting.runFrom_bind_of_ok hcompiler]
  refine (Acting.runFrom_bind_of_ok (runFrom_building hbuilt)).trans ?_
  refine (Acting.runFrom_bind_of_ok hstate).trans ?_
  unfold buildText printLines
  dsimp only
  split
  · rfl
  · split
    · rw [String.append_empty]
      rfl
    · rfl

theorem within_writeState (s : Settings) (h : Host) :
    Action.Within (fun d d' => d.Changes (FileTree.Alters fun _ => True) d') (Project.writeState s h) :=
  .andThen (.writeText _ _ fun d _ => d.update_alters _ _ (d.ensureDirs_alters _ fun _ _ _ _ _ _ => trivial)
    fun _ _ _ _ => trivial) fun _ => .pure _

theorem writeState_over {h : Host} {l l' : Loc} {old : List UInt8} {m m' a : Stamp}
    (hfile : w.disk.stat (Project.statePath s) = .ok (l, .file old m a))
    (hdir : w.disk.stat (Project.statePath s).parent = .ok (l', .dir m'))
    (hopen : w.disk.obstacles.writing.lookup (Project.statePath s).text = none) :
    ∃ state w', (Project.writeState s h).runFrom w = (.ok state, w') := by
  have hnamed : Charset.named true "utf-8" = .ok .utf8 := ok_of_toOption (by decide +kernel)
  have hdata : ∀ content, Charset.encodeAs "utf-8" content = .ok (content.toList.flatMap Charset.utf8Bytes) := by
    intro content
    rw [Charset.encodeAs, hnamed]
    rfl
  obtain ⟨changed, w', hwritten⟩ := Action.writeText_over (hdata _) hfile hdir hopen
  refine ⟨Project.statePath s, w', ?_⟩
  rw [Project.writeState, Action.writeJson, Acting.runFrom_bind_of_ok hwritten]
  rfl

/-- A dry build that succeeds prints its report and nothing else. -/
theorem generate_dry_ok (hdry : a.has .dryRun = true) (h : (generate s a).runFrom w = (.ok (), w')) :
    ∃ config r b state, Config.load w.disk s.root (a.value? .configFile) = .ok config ∧
      (BuildAction.generate s (overridden s a config)).runFrom
        ⟨w, { engine := .dry }, Project.host s (overridden s a config)⟩ = (.ok r, b) ∧
      w'.stdout = w.stdout ++ buildText s r b state := by
  obtain ⟨config, w₁, hloaded, hrest⟩ := Acting.bind_ok h
  obtain ⟨hload, rfl⟩ := load_of_loadConfig hloaded
  obtain ⟨compiler, w₂, hmade, hrest⟩ := Acting.bind_ok hrest
  rw [Compiler.ofConfig, if_pos hdry] at hmade
  cases hmade
  obtain ⟨⟨r, b⟩, w₂, hbuilt, hrest⟩ := Acting.bind_ok hrest
  rcases hrun : (BuildAction.generate s (overridden s a config)).runFrom
    ⟨w₁, { engine := .dry }, Project.host s (overridden s a config)⟩ with ⟨_ | r', b'⟩
  · cases (runFrom_building hrun).symm.trans hbuilt
  cases (runFrom_building hrun).symm.trans hbuilt
  obtain ⟨state, w₃, hstate, -⟩ := Acting.bind_ok hrest
  cases (runFrom_generate_dry hdry hload hrun hstate).symm.trans h
  have hwritten := within_writeState s b.host b.world
  rw [hstate] at hwritten
  have hstdout : w₃.stdout = w₁.stdout := ((BuildAction.differs_of_generate_dry rfl hrun).trans hwritten).stdout
  refine ⟨config, r, b, state, hload, hrun, ?_⟩
  rw [hstdout]

end CommandLine

end JavaStubs
