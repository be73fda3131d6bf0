import JavaStubs.Proofs.Compiler.Once
import JavaStubs.Proofs.Text.Occurrences

/-! How the program that a compiler starts has ended, and what compiling makes of it: a count, or an error that tells
a time limit from an exit code. -/
namespace JavaStubs

def Behaviour.leave (x : Behaviour) (d : Disk) : Disk :=
  { d with tree := x.change d.tree }

def Ending.result? (limit milliseconds : Int) : Ending → Option CommandResult
  | .exited code stdout stderr => some ⟨code, stdout, stderr, milliseconds⟩
  | .timedOut stdout stderr =>
    some ⟨timeoutCode, stdout.asText, Text.trim (stderr.asText ++ s!"\ncommand timed out after {limit}s"), milliseconds⟩
  | .notStarted _ | .broken _ => none

def Ending.Ended (ending : Ending) : Prop :=
  (∃ code stdout stderr, ending = .exited code stdout stderr) ∨ ∃ stdout stderr, ending = .timedOut stdout stderr

theorem Ending.Ended.result {ending : Ending} (h : ending.Ended) (limit : Int) :
    ∃ result : Int → CommandResult, ∀ ms, ending.result? limit ms = some (result ms) := by
  rcases h with ⟨code, stdout, stderr, rfl⟩ | ⟨stdout, stderr, rfl⟩
  · exact ⟨_, fun _ => rfl⟩
  · exact ⟨_, fun _ => rfl⟩

/-- An error of the tool's own, with a class and a message. -/
def Raises {α : Type} (result : Except Failure α) (cls : ErrorClass) (message : String) : Prop :=
  match result with
  | .error (.stub e) => e.errorClass = cls ∧ e.message = message
  | _ => False

instance {α : Type} (result : Except Failure α) (cls : ErrorClass) (message : String) :
    Decidable (Raises result cls message) :=
  match result with
  | .error (.stub e) => inferInstanceAs (Decidable (e.errorClass = cls ∧ e.message = message))
  | .ok _ | .error (.access _) | .error (.charset _) | .error (.linkLoop _) | .error (.notATable _)
  | .error .unimplemented | .error (.runtime _) | .error (.badValue _) => inferInstanceAs (Decidable False)

theorem raises_iff {α : Type} {result : Except Failure α} {cls : ErrorClass} {message : String} :
    Raises result cls message ↔ ∃ e : StubError, result = .error (.stub e) ∧ e.errorClass = cls ∧ e.message = message := by
  constructor
  · intro h
    unfold Raises at h
    split at h
    · exact ⟨_, rfl, h⟩
    · cases h
  · rintro ⟨e, rfl, h⟩
    exact h

namespace Action

variable {command : List String} {directory : FilePath} {limit : Int} {log? : Option Settings}

theorem resultOf_of_ended {ending : Ending} {result : Int → CommandResult} (begun : Number.Real64)
    (hresult : ∀ ms, ending.result? limit ms = some (result ms)) :
    resultOf command limit begun ending = since begun >>= fun ms => pure (result ms) := by
  have htold : ∀ told, (∀ ms, ending.result? limit ms = some (told ms)) → result = told :=
    fun told h => funext fun ms => Option.some.inj ((hresult ms).symm.trans (h ms))
  cases ending with
  | exited | timedOut =>
    rw [htold _ fun _ => rfl]
    rfl
  | notStarted | broken => cases hresult 0

theorem runFrom_logResult (command : List String) (directory : FilePath) (log? : Option Settings)
    (result : CommandResult) (w : World) :
    ∃ w', (logResult command directory log? result).runFrom w = (.ok result, w') := by
  cases log? with
  | none => exact ⟨w, rfl⟩
  | some settings =>
    obtain ⟨text, hwrite⟩ := Log.runFrom_write settings _ w
    exact ⟨_, Acting.runFrom_bind_of_ok hwrite⟩

/-- A run gives what is told of a program that has ended, and leaves the tree as the program has left it. -/
theorem run_of_ended (command : List String) (directory : FilePath) (log? : Option Settings) {w : World}
    {x : Behaviour} {xs : List Behaviour} {result : Int → CommandResult} (hnext : w.behaviours = x :: xs) (hresult : ∀ ms, x.ending.result? limit ms = some (result ms)) :
    ∃ ms w', (run command directory limit log?).runFrom w = (.ok (result ms), w') ∧
      w'.disk = x.leave w.disk := by
  have hdisk := disk_of_run command directory limit log? w
  obtain ⟨begun, ticks, htick⟩ := runFrom_tick w
  obtain ⟨ending, w₁, hstart, hstarted⟩ :=
    start_ok command directory (if 0 < limit then some limit else none) { w with ticks }
  obtain rfl : ending = x.ending := by
    rcases hstarted with ⟨hnone, -⟩ | ⟨x', xs', hnext', rfl, -⟩
    · cases hnone.symm.trans hnext
    · cases hnext'.symm.trans hnext
      rfl
  obtain ⟨ended, ticks', hended⟩ := runFrom_tick w₁
  obtain ⟨w', hlog⟩ := runFrom_logResult command directory log?
    (result ((ended.sub begun).scale 1000).truncate) { w₁ with ticks := ticks' }
  have hrun : (run command directory limit log?).runFrom w =
      (.ok (result ((ended.sub begun).scale 1000).truncate), w') := by
    rw [run_eq, Acting.runFrom_bind_of_ok htick, Acting.runFrom_bind_of_ok hstart, resultOf_of_ended begun hresult]
    unfold since
    simp only [bind_assoc, pure_bind]
    rw [Acting.runFrom_bind_of_ok hended, hlog]
  rw [hrun, hnext] at hdisk
  exact ⟨_, w', hrun, hdisk⟩

/-- A run fails if it cannot tell how its program has ended. -/
theorem run_of_broken (command : List String) (directory : FilePath) (log? : Option Settings) {w : World}
    {x : Behaviour} {xs : List Behaviour} {f : Failure} (hnext : w.behaviours = x :: xs)
    (hbroken : x.ending = .broken f) : ((run command directory limit log?).runFrom w).1 = .error f := by
  obtain ⟨begun, ticks, htick⟩ := runFrom_tick w
  obtain ⟨ending, w₁, hstart, hstarted⟩ :=
    start_ok command directory (if 0 < limit then some limit else none) { w with ticks }
  have hending : ending = .broken f := by
    rcases hstarted with ⟨hnone, -⟩ | ⟨x', xs', hnext', rfl, -⟩
    · cases hnone.symm.trans hnext
    · cases hnext'.symm.trans hnext
      exact hbroken
  rw [run_eq, Acting.runFrom_bind_of_ok htick, Acting.runFrom_bind_of_ok hstart, hending]
  rfl

end Action

namespace Compiler

variable {spec : CommandSpec} {r : Request} {w : World} {x : Behaviour} {xs : List Behaviour}
  {result : Int → CommandResult} {before : Times}

theorem runCommand_of_ended (hfiles : r.files ≠ []) (hbefore : w.disk.times r.target stubEndings = .ok before)
    (hnext : w.behaviours = x :: xs) (hresult : ∀ ms, x.ending.result? spec.timeout ms = some (result ms)) :
    ∃ ms, ((runCommand spec r).runFrom w).1 =
      (judge spec.timeout (result ms)).mapError .stub >>= fun _ =>
        ((x.leave w.disk).times r.target stubEndings).map fun after =>
          (countChanged before after : Int) := by
  obtain ⟨ms, w', hrun, hdisk⟩ := Action.run_of_ended (r.commandLine spec.command) spec.directory spec.log? hnext
    hresult
  refine ⟨ms, ?_⟩
  unfold runCommand
  rw [if_neg (by simpa using hfiles), Acting.runFrom_bind, Action.runFrom_look, hbefore]
  dsimp only
  rw [Acting.runFrom_bind, Acting.runFrom_mapFailure, hrun]
  dsimp only [Except.mapError]
  rw [Acting.runFrom_bind, Acting.runFrom_ofExcept]
  cases judge spec.timeout (result ms) with
  | error e => rfl
  | ok _ =>
    dsimp only [Except.mapError]
    rw [Acting.runFrom_bind, Action.runFrom_look, hdisk]
    cases (x.leave w.disk).times r.target stubEndings <;> rfl

theorem looked_of_started (h : ((runCommand spec r).runFrom w).2.started ≠ w.started) :
    r.files ≠ [] ∧ ∃ before, w.disk.times r.target stubEndings = .ok before := by
  refine ⟨((started_of_runCommand spec r w).resolve_left h).1, ?_⟩
  cases htimes : w.disk.times r.target stubEndings with
  | ok before => exact ⟨before, rfl⟩
  | error e =>
    refine absurd ?_ h
    unfold runCommand
    split
    · rfl
    · rw [Acting.runFrom_bind, Action.runFrom_look, htimes]

end Compiler

theorem error_of_map {ε α β : Type} {f : α → β} {x : Except ε α} {e : ε} (h : x.map f = .error e) : x = .error e := by
  cases x with
  | error e' => exact congrArg _ (Except.error.inj h)
  | ok a => cases h

theorem Disk.errorClass_of_times {d : Disk} {p : FilePath} {endings : List String} {e : StubError}
    (h : d.times p endings = .error (.stub e)) : e.errorClass = .fileSystem := by
  unfold times at h
  cases hasked : d.isDir? p with
  | error a =>
    rw [hasked] at h
    cases h
  | ok isDir =>
    rw [hasked] at h
    cases isDir with
    | false => cases h
    | true =>
      dsimp only [Except.mapError, bind, Except.bind] at h
      split at h
      · cases h
      · split at h
        · next a _ =>
          cases a with
          | os a =>
            cases h
            rfl
          | nul => cases h
        · cases h

namespace Compiler

/-- How the failure of a program that ended by itself is told. -/
def detail (stdout stderr : String) : String :=
  if Text.trim (stdout ++ stderr) = "" then "no output" else Text.trim (stdout ++ stderr)

/-- The note on a time limit is found again in what the program wrote, whatever that is. -/
theorem contains_note (written : String) (limit : Int) :
    Text.contains (Text.trim (written ++ s!"\ncommand timed out after {limit}s")) "timed out" = true := by
  have hpart : "timed out".toList = 't' :: "imed ou".toList ++ ['t'] := by decide
  have htrimmed : (Text.trim (written ++ s!"\ncommand timed out after {limit}s")).toList =
      Text.trimChars (written ++ s!"\ncommand timed out after {limit}s").toList := String.toList_ofList
  rw [Text.contains, hpart, htrimmed]
  refine Text.infixChars_trimChars (by decide) (by decide) (Text.infixChars_iff.2 ?_)
  refine ⟨(written ++ "\ncommand ").toList, (" after " ++ toString limit ++ "s").toList, ?_⟩
  simp [String.toList_append]
  rfl

structure Tells (limit : Int) (ending : Ending) (result : Except Failure Int) : Prop where
  timed_out : Raises result .compiler s!"stub compiler timed out after {limit}s" ↔
    (∃ stdout stderr, ending = .timedOut stdout stderr) ∨
      ∃ stdout stderr, ending = .exited 124 stdout stderr ∧ Text.contains stderr "timed out" = true
  exited : ∀ code stdout stderr, ending = .exited code stdout stderr → code ≠ 0 →
    ¬(code = 124 ∧ Text.contains stderr "timed out" = true) →
    Raises result .compiler s!"stub compiler exited with code {code}: {detail stdout stderr}"

section Judging

variable {limit ms : Int} {ending : Ending} {r : CommandResult}

theorem judge_eq_timedOut_iff :
    judge limit r = .error (.timedOut limit) ↔ r.code = timeoutCode ∧ Text.contains r.stderr "timed out" = true := by
  unfold judge
  split
  · next h => exact iff_of_true rfl h
  · next h =>
    refine iff_of_false ?_ h
    split <;> simp

/-- A program is judged to have come to its time limit if it has, or if it ended by itself with that code and text. -/
theorem judge_ended_iff (h : ending.result? limit ms = some r) :
    judge limit r = .error (.timedOut limit) ↔ (∃ stdout stderr, ending = .timedOut stdout stderr) ∨
      ∃ stdout stderr, ending = .exited 124 stdout stderr ∧ Text.contains stderr "timed out" = true := by
  rw [judge_eq_timedOut_iff]
  cases ending with
  | exited code stdout stderr =>
    cases h
    constructor
    · rintro ⟨rfl, hcontains⟩
      exact .inr ⟨stdout, stderr, rfl, hcontains⟩
    · rintro (⟨_, _, ⟨⟩⟩ | ⟨_, _, ⟨⟩, hcontains⟩)
      exact ⟨rfl, hcontains⟩
  | timedOut stdout stderr =>
    cases h
    exact iff_of_true ⟨rfl, contains_note _ _⟩ (.inl ⟨stdout, stderr, rfl⟩)
  | notStarted | broken => cases h

theorem judge_cases (limit : Int) (r : CommandResult) :
    judge limit r = .error (.timedOut limit) ∨ (∃ code told, judge limit r = .error (.exited code told)) ∨
      judge limit r = .ok () := by
  unfold judge
  split
  · exact .inl rfl
  · split
    · exact .inr (.inl ⟨_, _, rfl⟩)
    · exact .inr (.inr rfl)

theorem message_exited_ne (code limit : Int) (told : String) :
    (StubError.exited code told).message ≠ s!"stub compiler timed out after {limit}s" := by
  intro h
  have hexited : (StubError.exited code told).message.toList =
      "stub compiler exited with code ".toList ++ (toString code ++ ": " ++ told).toList := by
    rw [← String.toList_append, ← String.append_assoc, ← String.append_assoc]
    rfl
  rw [h, String.toList_append, String.toList_append, List.append_assoc] at hexited
  have htaken := congrArg (List.take 15) hexited
  rw [List.take_append_of_le_length (by decide), List.take_append_of_le_length (by decide)] at htaken
  exact absurd htaken (by decide)

/-- What a judgement, and counting after it, come to is the error of a time limit only if it was judged so. -/
theorem raises_timedOut_iff {counted : Except Failure Int}
    (hcounted : ∀ e, counted = .error (.stub e) → e.errorClass = .fileSystem) :
    Raises ((judge limit r).mapError .stub >>= fun _ => counted) .compiler s!"stub compiler timed out after {limit}s" ↔
      judge limit r = .error (.timedOut limit) := by
  rcases judge_cases limit r with h | ⟨code, told, h⟩ | h
  · refine iff_of_true ?_ h
    rw [h]
    exact ⟨rfl, rfl⟩
  · refine iff_of_false ?_ (by simp [h])
    rw [h]
    exact fun hraises => message_exited_ne code limit told hraises.2
  · refine iff_of_false ?_ (by simp [h])
    rw [h]
    intro hraises
    obtain ⟨e, he, hcls, -⟩ := raises_iff.1 hraises
    cases hcls.symm.trans (hcounted e he)

theorem judge_exited {code : Int} {stdout stderr : String} (hcode : code ≠ 0)
    (hnot : ¬(code = 124 ∧ Text.contains stderr "timed out" = true)) :
    judge limit ⟨code, stdout, stderr, ms⟩ = .error (.exited code (detail stdout stderr)) := by
  unfold judge
  rw [if_neg (show ¬(code = timeoutCode ∧ _) from hnot), if_pos hcode]
  rfl

end Judging

end Compiler

namespace BuildAction

variable {b : Build} {spec : CommandSpec} {x : Behaviour} {xs : List Behaviour}

theorem compile_of_request {r : Request} (hran : b.compiler.ran = false) (hrequest : b.compiler.request = .ok r) :
    (compile.runFrom b).1 = ((b.compiler.engine.generate r).runFrom b.world).1 ∧
      (compile.runFrom b).2.world = ((b.compiler.engine.generate r).runFrom b.world).2 := by
  rw [runFrom_compile, Acting.runFrom_bind, Compiler.Call.enter_of_ok hran hrequest]
  exact ⟨rfl, rfl⟩

theorem request_of_started (h : (compile.runFrom b).2.world.started ≠ b.world.started) :
    b.compiler.ran = false ∧ ∃ r, b.compiler.request = .ok r := by
  rw [runFrom_compile, Acting.runFrom_bind] at h
  cases hran : b.compiler.ran with
  | true =>
    rw [Compiler.Call.enter_of_ran hran] at h
    exact absurd rfl h
  | false =>
    refine ⟨rfl, ?_⟩
    cases hrequest : b.compiler.request with
    | ok r => exact ⟨r, rfl⟩
    | error e =>
      rw [Compiler.Call.enter_of_error hran hrequest] at h
      exact absurd rfl h

/-- Whatever the started program does, compiling tells a time limit from an exit code, except that a program that ended
by itself with the code and a text of the kind that stand for a time limit is taken for one that was stopped. -/
theorem compile_tells_endings (hengine : b.compiler.engine = .command spec) (hnext : b.world.behaviours = x :: xs)
    (hended : x.ending.Ended) (hstarted : (compile.runFrom b).2.world.started ≠ b.world.started) :
    Compiler.Tells spec.timeout x.ending (compile.runFrom b).1 := by
  obtain ⟨hran, r, hrequest⟩ := request_of_started hstarted
  obtain ⟨hcompiled, hworld⟩ := compile_of_request hran hrequest
  rw [hworld, hengine] at hstarted
  obtain ⟨hfiles, before, hbefore⟩ := Compiler.looked_of_started hstarted
  obtain ⟨result, hresult⟩ := hended.result spec.timeout
  obtain ⟨ms, hrun⟩ := Compiler.runCommand_of_ended hfiles hbefore hnext hresult
  rw [hcompiled, hengine, Engine.generate, hrun]
  constructor
  case timed_out =>
    rw [Compiler.raises_timedOut_iff, Compiler.judge_ended_iff (hresult ms)]
    exact fun e he => Disk.errorClass_of_times (error_of_map he)
  case exited =>
    intro code stdout stderr hexit hcode hnot
    have htold := hresult ms
    rw [hexit] at htold
    rw [← Option.some.inj htold, Compiler.judge_exited hcode hnot]
    exact ⟨rfl, rfl⟩

end BuildAction

def barrenTree : FileTree where
  entries := [([], .dir .now), (["p"], .dir .now), (["A.groovy", "p"], .file [] .now .now)]
  nodup := by decide

/-- A compiler that was given the file and is about to start a program that ends in some way and leaves the disk alone. -/
def endingSample (timeout : Int) (ending : Ending) : Build where
  world :=
    { disk := { tree := barrenTree, cwd := .root }
      moment := ⟨2024, 1, 2, 3, 4, 5, 0⟩
      behaviours := [⟨id, ending⟩] }
  compiler :=
    { engine := .command { command := ["stubc"], directory := ⟨.slash, ["p"]⟩, timeout }
      target? := some ⟨.slash, ["p", "out"]⟩
      files := [⟨.slash, ["p", "A.groovy"]⟩] }
  host := default

/-- In the samples, a program that says that it failed is told with its code, and one that was stopped with the limit. -/
theorem tells_of_endingSample :
    Raises (BuildAction.compile.runFrom (endingSample 0 (.exited 1 " no class\n" "timed out\n"))).1 .compiler
        "stub compiler exited with code 1: no class\ntimed out" ∧
      Raises (BuildAction.compile.runFrom (endingSample 7 (.timedOut .nothing (.text "half")))).1 .compiler
        "stub compiler timed out after 7s" := by
  constructor
  · have hraises := (BuildAction.compile_tells_endings (b := endingSample 0 (.exited 1 " no class\n" "timed out\n")) rfl
      rfl (.inl ⟨_, _, _, rfl⟩) (by decide +kernel)).exited 1 _ _ rfl (by decide) (by decide)
    have hdetail : Compiler.detail " no class\n" "timed out\n" = "no class\ntimed out" := by decide +kernel
    rwa [hdetail] at hraises
  · exact (BuildAction.compile_tells_endings (b := endingSample 7 (.timedOut .nothing (.text "half"))) rfl rfl
      (.inr ⟨_, _, rfl⟩) (by decide +kernel)).timed_out.2 (.inl ⟨_, _, rfl⟩)

/-- A program that reports a connection that timed out, and ends with the code that stands for a time limit, is taken for
one that was stopped, though there was no limit. -/
theorem exit_taken_for_timeout :
    ¬(Raises (BuildAction.compile.runFrom (endingSample 0 (.exited 124 "" "connection timed out"))).1 .compiler
          "stub compiler timed out after 0s" ↔
        ∃ stdout stderr, Ending.exited 124 "" "connection timed out" = .timedOut stdout stderr) ∧
      ¬Raises (BuildAction.compile.runFrom (endingSample 0 (.exited 124 "" "connection timed out"))).1 .compiler
        "stub compiler exited with code 124: connection timed out" := by
  constructor
  · intro h
    obtain ⟨_, _, hstopped⟩ := h.1 (by decide +kernel)
    cases hstopped
  · decide +kernel

end JavaStubs
