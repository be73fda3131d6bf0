import JavaStubs.Proofs.Compiler.Calls

/-! A compiler runs once. Before that it gathers what it is told; the run compiles what was gathered, and afterwards
no file is taken and nothing is compiled. -/
namespace JavaStubs

namespace Compiler.Call

def gathered (engine : Engine) (calls : List Call) : Compiler where
  engine
  target? := target? calls
  classPath := lastClassPath calls
  options := (value? sourceEncodingKey calls).toList.map fun value => (sourceEncodingKey, value)
  files := added calls

/-- A compiler that has run from what some calls told it and was told what all of them tell. -/
def spent (engine : Engine) (r : Request) (calls : List Call) : Compiler :=
  { gathered engine calls with files := r.files, ran := true, noted? := if engine.notes then some r else none }

/-- What is left once a compiler has run on a request: the generation was done in the world, even if it failed. -/
def ranOn (engine : Engine) (r : Request) (w : World) (host : Host) (calls : List Call) : Build :=
  ⟨((engine.generate r).runFrom w).2, spent engine r calls, host⟩

section History

variable {engine : Engine} {calls : List Call} {w : World} {host : Host} {directory : FilePath} {r : Request}

theorem request_gathered (h : target? calls = some directory) :
    (gathered engine calls).request = .ok (asked directory calls) := by
  unfold Compiler.request
  have htarget : (gathered engine calls).target? = some directory := h
  rw [htarget]
  rfl

theorem request_gathered_of_none (h : target? calls = none) : (gathered engine calls).request = .error .noTarget := by
  unfold Compiler.request
  have htarget : (gathered engine calls).target? = none := h
  rw [htarget]

theorem gathered_append (call : Call) : gathered engine (calls ++ [call]) =
    match call with
    | target directory => { gathered engine calls with target? := some directory }
    | classPath entries => { gathered engine calls with classPath := entries }
    | option key value =>
      if key = sourceEncodingKey then { gathered engine calls with options := [(key, value)] }
      else gathered engine calls
    | add file => { gathered engine calls with files := added calls ++ [file] }
    | request | compile => gathered engine calls := by
  unfold gathered
  rw [target?_append, lastClassPath_append, value?_append, added_append]
  cases call with
  | option key value =>
    by_cases hkey : key = sourceEncodingKey
    · subst hkey
      simp
    · simp [hkey]
  | _ => rfl

theorem setOption_of_options {c : Compiler} (key value : String)
    (h : c.options = (value? sourceEncodingKey calls).toList.map fun value => (sourceEncodingKey, value)) :
    c.setOption key value =
      if key = sourceEncodingKey then .ok { c with options := [(key, value)] } else .error (.unknownOption key) := by
  unfold setOption
  by_cases hkey : key = sourceEncodingKey
  · subst hkey
    rw [h]
    cases value? sourceEncodingKey calls <;> simp
  · rw [if_neg hkey, if_neg hkey]

theorem perform_gathered (call : Call) (hcall : call = compile → target? calls = none) :
    (call.perform.runFrom ⟨w, gathered engine calls, host⟩).2 = ⟨w, gathered engine (calls ++ [call]), host⟩ := by
  rw [gathered_append]
  cases call with
  | target directory => rfl
  | classPath entries => rfl
  | option key value =>
    rw [runFrom_option, setOption_of_options key value rfl]
    by_cases hkey : key = sourceEncodingKey
    · simp only [if_pos hkey]
    · simp only [if_neg hkey]
  | add file => rfl
  | request => rw [runFrom_request]
  | compile =>
    rw [runFrom_compile, BuildAction.runFrom_compile, Acting.runFrom_bind,
      enter_of_error rfl (request_gathered_of_none (hcall rfl))]

/-- What a call does once the compiler has run: it may still tell the compiler something, but never another file. -/
theorem perform_spent (call : Call) :
    (call.perform.runFrom ⟨w, spent engine r calls, host⟩).2 = ⟨w, spent engine r (calls ++ [call]), host⟩ := by
  unfold spent
  rw [gathered_append]
  cases call with
  | target directory => rfl
  | classPath entries => rfl
  | option key value =>
    rw [runFrom_option, setOption_of_options key value rfl]
    by_cases hkey : key = sourceEncodingKey
    · simp only [if_pos hkey]
    · simp only [if_neg hkey]
  | add file => rfl
  | request => rw [runFrom_request]
  | compile => rw [runFrom_compile, BuildAction.runFrom_compile, Acting.runFrom_bind, enter_of_ran rfl]

/-- The call that runs a compiler: it generates from what was gathered, and the run is used up even if that fails. -/
theorem perform_compile (h : target? calls = some directory) :
    compile.perform.runFrom ⟨w, gathered engine calls, host⟩ =
      (((engine.generate (asked directory calls)).runFrom w).1.map .count,
        ranOn engine (asked directory calls) w host calls) := by
  rw [runFrom_compile, BuildAction.runFrom_compile, Acting.runFrom_bind, enter_of_ok rfl (request_gathered h)]
  rfl

/-- As long as no call runs the compiler, it gathers what it is told, and the world stays as it is. -/
theorem after_of_idle (h : Idle calls) :
    after calls ⟨w, { engine }, host⟩ = ⟨w, gathered engine calls, host⟩ := by
  induction calls using List.reverseRecOn with
  | nil => rfl
  | append_singleton calls call ih =>
    obtain ⟨hidle, hcall⟩ := idle_append.1 h
    rw [after_append, ih hidle]
    exact perform_gathered call hcall

theorem after_spent (more : List Call) :
    after more ⟨w, spent engine r calls, host⟩ = ⟨w, spent engine r (calls ++ more), host⟩ := by
  induction more using List.reverseRecOn with
  | nil => rw [List.append_nil]; rfl
  | append_singleton more call ih =>
    rw [after_append, ih, ← List.append_assoc]
    exact perform_spent call

/-- Once a call has run the compiler, the world is what the generation made of it. -/
theorem after_of_runAt {before rest : List Call} (h : RunAt calls before rest)
    (htarget : target? before = some directory) :
    after calls ⟨w, { engine }, host⟩ = ranOn engine (asked directory before) w host calls := by
  obtain ⟨rfl, -, hidle⟩ := h
  have hsame : ranOn engine (asked directory before) w host before =
      ranOn engine (asked directory before) w host (before ++ [compile]) := by
    unfold ranOn spent
    rw [gathered_append]
  have hrun : after [compile] ⟨w, gathered engine before, host⟩ =
      ranOn engine (asked directory before) w host before := congrArg Prod.snd (perform_compile htarget)
  rw [List.append_cons, after_append, after_append, after_of_idle hidle, hrun, hsame, ranOn, after_spent, ranOn]

theorem entered?_compile {b : Build} {result : Except Failure Request} {b' : Build}
    (h : BuildAction.enter.runFrom b = (result, b')) : compile.entered? b = result.toOption :=
  congrArg (·.1.toOption) h

theorem entered?_gathered :
    compile.entered? ⟨w, gathered engine calls, host⟩ = (target? calls).map (asked · calls) := by
  cases htarget : target? calls with
  | none => exact entered?_compile (enter_of_error rfl (request_gathered_of_none htarget))
  | some directory => exact entered?_compile (enter_of_ok rfl (request_gathered htarget))

theorem entered?_ranOn (call : Call) : call.entered? (ranOn engine r w host calls) = none := by
  cases call with
  | compile => exact entered?_compile (enter_of_ran rfl)
  | _ => rfl

theorem entries_append_singleton (calls : List Call) (call : Call) (b : Build) :
    entries b (calls ++ [call]) = entries b calls ++ (call.entered? (after calls b)).toList := by
  rw [entries_append, entries, entries, List.append_nil]

theorem entries_of_idle (h : Idle calls) : entries ⟨w, { engine }, host⟩ calls = [] := by
  induction calls using List.reverseRecOn with
  | nil => rfl
  | append_singleton calls call ih =>
    obtain ⟨hidle, hcall⟩ := idle_append.1 h
    rw [entries_append_singleton, ih hidle, after_of_idle hidle]
    cases call with
    | compile => rw [entered?_gathered, hcall rfl]; rfl
    | _ => rfl

theorem entries_of_runAt {before rest : List Call} (h : RunAt calls before rest)
    (htarget : target? before = some directory) :
    entries ⟨w, { engine }, host⟩ calls = [asked directory before] := by
  obtain ⟨rfl, hsome, hidle⟩ := h
  induction rest using List.reverseRecOn with
  | nil =>
    rw [entries_append_singleton, entries_of_idle hidle, after_of_idle hidle, entered?_gathered, htarget]
    rfl
  | append_singleton rest call ih =>
    have hrun : RunAt (before ++ compile :: rest) before rest := ⟨rfl, hsome, hidle⟩
    rw [← List.cons_append, ← List.append_assoc, entries_append_singleton, ih, after_of_runAt hrun htarget,
      entered?_ranOn]
    rfl

end History
end Compiler.Call

/-! The programs that a command starts. -/

namespace Action

theorem started_of_start (command : List String) (directory : FilePath) (limit? : Option Int) (w : World) :
    ((start command directory limit?).runFrom w).2.started = w.started ++ [⟨command, directory, limit?⟩] := by
  unfold start
  rw [Acting.runFrom_bind, Acting.runFrom_modify]
  dsimp only
  rw [Acting.runFrom_bind, Acting.runFrom_get]
  dsimp only
  cases w.behaviours <;> rfl

theorem started_of_run (command : List String) (directory : FilePath) (limit : Int) (log? : Option Settings)
    (w : World) : ((run command directory limit log?).runFrom w).2.started =
      w.started ++ [⟨command, directory, if 0 < limit then some limit else none⟩] := by
  obtain ⟨begun, ticks, htick⟩ := runFrom_tick w
  obtain ⟨ending, w₁, hstart, -⟩ := start_ok command directory (if 0 < limit then some limit else none) { w with ticks }
  have hstarted := started_of_start command directory (if 0 < limit then some limit else none) { w with ticks }
  have hrest : Within (fun d d' => d' = d) (resultOf command limit begun ending >>= logResult command directory log?) :=
    .andThen (within_resultOf command limit begun ending) (within_logResult command directory log?)
  rw [hstart] at hstarted
  rw [run_eq, Acting.runFrom_bind_of_ok htick, Acting.runFrom_bind_of_ok hstart, (hrest w₁).started]
  exact hstarted

end Action

theorem Compiler.started_of_runCommand (spec : CommandSpec) (r : Request) (w : World) :
    ((runCommand spec r).runFrom w).2.started = w.started ∨
      r.files ≠ [] ∧ ((runCommand spec r).runFrom w).2.started = w.started ++
        [⟨r.commandLine spec.command, spec.directory, if 0 < spec.timeout then some spec.timeout else none⟩] := by
  unfold runCommand
  split
  · exact .inl rfl
  next hfiles =>
  rw [Acting.runFrom_bind, Action.runFrom_look]
  cases w.disk.times r.target stubEndings with
  | error e => exact .inl rfl
  | ok before =>
    refine .inr ⟨by simpa using hfiles, ?_⟩
    dsimp only
    rw [Acting.runFrom_bind, Acting.runFrom_mapFailure,
      ← Action.started_of_run (r.commandLine spec.command) spec.directory spec.timeout spec.log? w]
    rcases (Action.run (r.commandLine spec.command) spec.directory spec.timeout spec.log?).runFrom w with
      ⟨_ | result, w₁⟩
    · rfl
    · exact (within_counting spec r before result w₁).started

namespace Compiler.Call

/-- What calls on a new compiler come to, whatever each of them gave back, and what the next call does. -/
structure RunsOnce (engine : Engine) (w : World) (host : Host) (calls : List Call) (b : Build) : Prop where
  /-- The generation is entered once at most. -/
  once : (entries ⟨w, { engine }, host⟩ calls).length ≤ 1
  /-- It is the first call to compile with a target directory that enters it, with what was told before. -/
  enters : ∀ r, compile.entered? b = some r ↔ Idle calls ∧ ∃ directory, target? calls = some directory ∧
    asked directory calls = r
  /-- That call does what the generation does in the world as it was, and gives back what it gives, be it a failure. -/
  generates : ∀ directory, Idle calls → target? calls = some directory →
    compile.perform.runFrom b = (((engine.generate (asked directory calls)).runFrom w).1.map .count,
      ranOn engine (asked directory calls) w host calls)
  /-- Nothing is done to the world before, and what was done then is all that is ever done to it. -/
  world : (Idle calls → b.world = w) ∧ ∀ before rest directory, RunAt calls before rest →
    target? before = some directory → b.world = ((engine.generate (asked directory before)).runFrom w).2
  /-- Without a target directory, compiling is refused and the run is not used up. -/
  no_target : target? calls = none → Refused .compiler compile b ∧ b.compiler.ran = false
  /-- After the run, compiling and adding are refused, and the files are those that were compiled. -/
  finished : ∀ before rest, RunAt calls before rest →
    Refused .compiler compile b ∧ (∀ file, Refused .compiler (add file) b) ∧ b.compiler.files = added before
  /-- An unknown option is refused. -/
  unknown : ∀ key value, key ≠ sourceEncodingKey → Refused .configuration (option key value) b
  /-- A command is started once at most, and not if no file was added. -/
  started : ∀ spec, engine = .command spec → b.world.started.length ≤ w.started.length + 1 ∧
    (added calls = [] → b.world.started = w.started)

theorem added_of_runAt {calls before rest : List Call} (h : RunAt calls before rest) (hnone : added calls = []) :
    added before = [] := by
  rw [h.eq, added, List.filterMap_append, List.append_eq_nil_iff] at hnone
  exact hnone.1

theorem idle_of_no_target {calls : List Call} (h : target? calls = none) : Idle calls := by
  rintro before rest rfl
  unfold target? at h ⊢
  rw [List.getLast?_eq_none_iff, List.filterMap_append, List.append_eq_nil_iff] at h
  rw [h.1, List.getLast?_nil]

/-- A compiler generates once at most, and then from exactly what it was given before. -/
theorem calls_run_once (engine : Engine) (w : World) (host : Host) (calls : List Call) :
    RunsOnce engine w host calls (after calls ⟨w, { engine }, host⟩) := by
  rcases idle_or_runAt calls with hidle | ⟨before, rest, hrun⟩
  · have hafter : after calls ⟨w, { engine }, host⟩ = ⟨w, gathered engine calls, host⟩ := after_of_idle hidle
    have hno : ∀ before rest, ¬RunAt calls before rest := fun _ _ hrun => hrun.not_idle hidle
    rw [hafter]
    constructor
    case once => simp [entries_of_idle hidle]
    case enters =>
      intro r
      rw [entered?_gathered, Option.map_eq_some_iff, and_iff_right hidle]
    case generates => exact fun directory _ htarget => perform_compile htarget
    case world => exact ⟨fun _ => rfl, fun before rest _ hrun => absurd hrun (hno before rest)⟩
    case no_target =>
      exact fun htarget => ⟨refused_compile (enter_of_error rfl (request_gathered_of_none htarget)) rfl, rfl⟩
    case finished => exact fun before rest hrun => absurd hrun (hno before rest)
    case unknown => exact fun key value hkey => refused_option _ value hkey
    case started => exact fun spec _ => ⟨Nat.le_succ _, fun _ => rfl⟩
  · obtain ⟨directory, htarget⟩ := Option.isSome_iff_exists.1 hrun.target
    have hafter : after calls ⟨w, { engine }, host⟩ = ranOn engine (asked directory before) w host calls :=
      after_of_runAt hrun htarget
    rw [hafter]
    constructor
    case once => simp [entries_of_runAt hrun htarget]
    case enters =>
      intro r
      rw [entered?_ranOn]
      simp [hrun.not_idle]
    case generates => exact fun _ hidle => absurd hidle hrun.not_idle
    case world =>
      refine ⟨fun hidle => absurd hidle hrun.not_idle, fun before' rest' directory' hrun' htarget' => ?_⟩
      obtain rfl := hrun'.unique hrun
      obtain rfl := Option.some.inj (htarget.symm.trans htarget')
      rfl
    case no_target => exact fun hnone => absurd (idle_of_no_target hnone) hrun.not_idle
    case finished =>
      intro before' rest' hrun'
      obtain rfl := hrun'.unique hrun
      exact ⟨refused_compile (enter_of_ran rfl) rfl, refused_add rfl, rfl⟩
    case unknown => exact fun key value hkey => refused_option _ value hkey
    case started =>
      rintro spec rfl
      rcases started_of_runCommand spec (asked directory before) w with hsame | ⟨hfiles, hone⟩
      · exact ⟨Nat.le_succ_of_le (Nat.le_of_eq (congrArg List.length hsame)), fun _ => hsame⟩
      · have hlength := congrArg List.length hone
        rw [List.length_append, List.length_singleton] at hlength
        exact ⟨Nat.le_of_eq hlength, fun hnone => absurd (added_of_runAt hrun hnone) hfiles⟩

end Compiler.Call
end JavaStubs
