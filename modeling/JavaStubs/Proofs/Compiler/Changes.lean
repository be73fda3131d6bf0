import JavaStubs.Proofs.Build.Books
import JavaStubs.Proofs.Run.Within

/-! What compiling does to the disk. All of it is what the compiler does, which a run cannot know beforehand: around
it the disk is only looked at. -/
namespace JavaStubs

/-- Nothing is done to the disk. -/
instance : Disk.Passage fun d d' => d' = d where
  refl _ := rfl
  trans h h' := h'.trans h

/-- What a compiler does to the tree when it is run from a world. A command does what the next program does, if it is
found at all. -/
def Engine.change (engine : Engine) (r : Request) (w : World) (t : FileTree) : FileTree :=
  match engine with
  | dry | missing => t
  | builtin run => (run r t).2
  | command _ =>
    match w.behaviours with
    | [] => t
    | b :: _ => b.change t

namespace Action

theorem within_since (begun : Number.Real64) : Within (fun d d' => d' = d) (since begun) :=
  .andThen .tick fun _ => .pure _

/-- Starting succeeds: the next program does what it does to the tree and ends as it does, or no program is found. -/
theorem start_ok (command : List String) (directory : FilePath) (limit? : Option Int) (w : World) :
    ∃ ending w', (start command directory limit?).runFrom w = (.ok ending, w') ∧
      (w.behaviours = [] ∧ ending = .notStarted .ENOENT ∧ w'.disk = w.disk ∨
        ∃ x xs, w.behaviours = x :: xs ∧ ending = x.ending ∧
          w'.disk = { w.disk with tree := x.change w.disk.tree }) := by
  unfold start
  rw [Acting.runFrom_bind, Acting.runFrom_modify]
  dsimp only
  rw [Acting.runFrom_bind, Acting.runFrom_get]
  dsimp only
  cases hnext : w.behaviours with
  | nil => exact ⟨_, _, rfl, .inl ⟨rfl, rfl, rfl⟩⟩
  | cons x xs => exact ⟨_, _, rfl, .inr ⟨x, xs, rfl, rfl, rfl⟩⟩

/-- What is made of the ending of a program that was started at some reading of the clock. -/
def resultOf (command : List String) (limit : Int) (begun : Number.Real64) : Ending → Action CommandResult
  | .exited code stdout stderr => do return ⟨code, stdout, stderr, ← since begun⟩
  | .timedOut stdout stderr => do
    let note := s!"\ncommand timed out after {limit}s"
    return ⟨timeoutCode, stdout.asText, Text.trim (stderr.asText ++ note), ← since begun⟩
  | .notStarted errno => throw (.access (.os ⟨errno, some (command.headD "")⟩))
  | .broken failure => throw failure

def logResult (command : List String) (directory : FilePath) (log? : Option Settings) (result : CommandResult) :
    Action CommandResult := do
  if let some settings := log? then
    Log.write settings ⟨.debug, "process", "run-command",
      [("command", .text (" ".intercalate command)), ("cwd", .text directory.text), ("code", .int result.code),
        ("duration_ms", .int result.milliseconds)]⟩
  return result

theorem run_eq (command : List String) (directory : FilePath) (limit : Int) (log? : Option Settings) :
    run command directory limit log? = tick >>= fun begun =>
      start command directory (if 0 < limit then some limit else none) >>= fun ending =>
        resultOf command limit begun ending >>= logResult command directory log? := by
  unfold run
  congr 1
  funext begun
  congr 1
  funext ending
  cases ending with
  | exited | timedOut =>
    simp only [resultOf, bind_assoc, pure_bind]
    rfl
  | notStarted | broken => rfl

theorem within_resultOf (command : List String) (limit : Int) (begun : Number.Real64) (ending : Ending) :
    Within (fun d d' => d' = d) (resultOf command limit begun ending) := by
  cases ending with
  | exited => exact .andThen (within_since begun) fun _ => .pure _
  | timedOut => exact .andThen (within_since begun) fun _ => .pure _
  | notStarted => exact .throw _
  | broken => exact .throw _

theorem within_logResult (command : List String) (directory : FilePath) (log? : Option Settings)
    (result : CommandResult) : Within (fun d d' => d' = d) (logResult command directory log? result) := by
  cases log? with
  | none => exact .pure _
  | some settings => exact .andThen (.log _ _) fun _ => .pure _

theorem disk_of_run (command : List String) (directory : FilePath) (limit : Int) (log? : Option Settings) (w : World) :
    ((run command directory limit log?).runFrom w).2.disk =
      match w.behaviours with
      | [] => w.disk
      | b :: _ => { w.disk with tree := b.change w.disk.tree } := by
  obtain ⟨begun, ticks, htick⟩ := runFrom_tick w
  obtain ⟨ending, w₁, hstart, hstarted⟩ :=
    start_ok command directory (if 0 < limit then some limit else none) { w with ticks }
  have hrest : Within (fun d d' => d' = d) (resultOf command limit begun ending >>= logResult command directory log?) :=
    .andThen (within_resultOf command limit begun ending) (within_logResult command directory log?)
  rw [run_eq, Acting.runFrom_bind_of_ok htick, Acting.runFrom_bind_of_ok hstart, (hrest w₁).disk]
  rcases hstarted with ⟨hnone, -, hdisk⟩ | ⟨x, xs, hnext, -, hdisk⟩
  · rw [hdisk, hnone]
  · rw [hdisk, hnext]

end Action

/-- The worlds before and after a compiler may have been run on a request: the disk is as the compiler made it, or no
program was started and nothing was done to it. -/
def Engine.Made (engine : Engine) (r : Request) (w w' : World) : Prop :=
  w'.disk = { w.disk with tree := engine.change r w w.disk.tree } ∨ w'.started = w.started ∧ w'.disk = w.disk

theorem Compiler.within_counting (spec : CommandSpec) (r : Request) (before : Times)
    (result : CommandResult) : Action.Within (fun d d' => d' = d) (do
      Acting.ofExcept ((judge spec.timeout result).mapError .stub)
      let after ← Action.look fun d => d.times r.target stubEndings
      return (countChanged before after : Int)) :=
  .andThen (.ofExcept _) fun _ => .andThen (.look _) fun _ => .pure _

theorem Compiler.made_of_runCommand (spec : CommandSpec) (r : Request) (w : World) :
    (Engine.command spec).Made r w ((runCommand spec r).runFrom w).2 := by
  unfold runCommand
  split
  · exact .inr ⟨rfl, rfl⟩
  rw [Acting.runFrom_bind, Action.runFrom_look]
  cases w.disk.times r.target stubEndings with
  | error e => exact .inr ⟨rfl, rfl⟩
  | ok before =>
    left
    dsimp only
    rw [Acting.runFrom_bind, Acting.runFrom_mapFailure]
    have hrun := Action.disk_of_run (r.commandLine spec.command) spec.directory spec.timeout spec.log? w
    have hchange : { w.disk with tree := (Engine.command spec).change r w w.disk.tree } =
        (match w.behaviours with
        | [] => w.disk
        | b :: _ => { w.disk with tree := b.change w.disk.tree } : Disk) := by
      unfold Engine.change
      cases w.behaviours <;> rfl
    rw [hchange, ← hrun]
    rcases (Action.run (r.commandLine spec.command) spec.directory spec.timeout spec.log?).runFrom w with
      ⟨_ | result, w₁⟩
    · rfl
    · exact (within_counting spec r before result w₁).disk

theorem Engine.made_of_generate (engine : Engine) (r : Request) (w : World) :
    engine.Made r w ((engine.generate r).runFrom w).2 := by
  cases engine with
  | dry => exact .inr ⟨rfl, rfl⟩
  | missing => exact .inr ⟨rfl, rfl⟩
  | builtin run => exact .inl rfl
  | command spec => exact Compiler.made_of_runCommand spec r w

/-- Compiling changes the tree as the compiler does on the request, or no program is started and nothing is changed. -/
theorem BuildAction.made_of_compile (b : Build) :
    (∃ r, b.compiler.request = .ok r ∧ (compile.runFrom b).2.world.disk =
        { b.world.disk with tree := b.compiler.engine.change r b.world b.world.disk.tree }) ∨
      (compile.runFrom b).2.world.started = b.world.started ∧ (compile.runFrom b).2.world.disk = b.world.disk := by
  unfold compile
  rw [Acting.runFrom_bind, Acting.runFrom_get]
  dsimp only
  split
  · exact .inr ⟨rfl, rfl⟩
  cases hreq : b.compiler.request with
  | error e => exact .inr ⟨rfl, rfl⟩
  | ok r => exact (b.compiler.engine.made_of_generate r b.world).imp_left fun hmade => ⟨r, rfl, hmade⟩

end JavaStubs
