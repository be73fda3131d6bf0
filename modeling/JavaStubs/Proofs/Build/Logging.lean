import JavaStubs.Build.Generate
import JavaStubs.Proofs.Compiler.Calls
import JavaStubs.Proofs.Run.Logging

/-! A build prints nothing, but logs: its steps leave the standard output alone, and add whole lines to the standard
error. Its compiler is told every option once at most. -/
namespace JavaStubs

open Acting JavaStubs.Action

namespace Library

theorem logs_publishWrappers (settings : Settings) (encoding : String) (wrappers : List Wrapper) :
    Logs (publishWrappers settings encoding wrappers) := by
  induction wrappers with
  | nil => exact .pure _
  | cons x xs ih =>
    have hone : Logs (publishWrapper settings encoding x) :=
      .andThen (logs_look _) fun _ => .andThen (logs_writeText _ _ _) fun _ => .andThen (logs_log _ _) fun _ => .pure _
    exact .andThen hone fun _ => .andThen ih fun _ => .pure _

theorem logs_removeStale (keep files : List FilePath) : Logs (removeStale keep files) := by
  induction files with
  | nil => exact .pure _
  | cons p ps ih =>
    refine .andThen (logs_look _) fun isFile => ?_
    split
    · exact .andThen (logs_change _) fun _ => .andThen ih fun _ => .pure _
    · exact ih

theorem logs_logRemoved (settings : Settings) (removed : List FilePath) : Logs (logRemoved settings removed) := by
  induction removed with
  | nil => exact .pure _
  | cons p ps ih => exact .andThen (logs_log _ _) fun _ => ih

theorem logs_publish (settings : Settings) (s : SourceSet) (intermediate : FilePath) (encoding : String) :
    Logs (publish settings s intermediate encoding) := by
  have hclasses : Logs (publishClasses settings s intermediate encoding) :=
    .andThen (logs_log _ _) fun _ => .andThen (logs_look _) fun _ => .andThen (.ofExcept _) fun _ =>
      .andThen (logs_ensureDir _) fun _ => .andThen (logs_publishWrappers _ _ _) fun _ => .pure _
  have hprune : ∀ keep, Logs (prune (packageDir intermediate) keep) := fun keep =>
    .mapFailure _ (.andThen (logs_look _) fun _ => logs_removeStale keep _)
  have hregistry : ∀ wrappers, Logs (publishRegistry settings intermediate encoding wrappers) := fun wrappers =>
    .andThen (hprune _) fun _ => .andThen (logs_logRemoved _ _) fun _ => logs_writeText _ _ _
  exact .andThen hclasses fun _ => .andThen (hregistry _) fun _ => .andThen logs_disk fun _ => .andThen (logs_log _ _) fun _ => .pure _

end Library

theorem Action.logs_resetTimes (p : FilePath) : Logs (resetTimes p) := by
  have hfiles : ∀ ms, Logs (resetFiles ms) := by
    intro ms
    induction ms with
    | nil => exact .pure _
    | cons m ms ih => exact .andThen (logs_change _) fun _ => ih
  unfold resetTimes
  refine .andThen (logs_look _) fun isDir => ?_
  dsimp only
  split
  all_goals
    try refine .andThen (.throw _) fun _ => ?_
    refine .mapFailure _ (.andThen logs_disk fun d => .andThen (hfiles _) fun _ => ?_)
    split
    · exact .throw _
    · exact .pure _

namespace Compiler

/-- What the compiler's command writes is not passed on. -/
theorem logs_generate (engine : Engine) (r : Request) : Logs (engine.generate r) := by
  cases engine with
  | dry => exact .pure _
  | missing => exact .throw _
  | builtin run => exact fun _ => .nothing rfl rfl
  | command spec =>
    unfold Engine.generate runCommand
    dsimp only
    split
    · exact .pure _
    · exact .andThen (logs_look _) fun _ => .andThen (.mapFailure _ (logs_run _ _ _ _)) fun _ => .andThen (.ofExcept _) fun _ =>
        .andThen (logs_look _) fun _ => .pure _

theorem logs_ofConfig (settings : Settings) (config : Config) (dryRun : Bool) :
    Logs (Compiler.ofConfig settings config dryRun) := by
  unfold Compiler.ofConfig
  split
  · exact .pure _
  split
  · exact .andThen (logs_log _ _) fun _ => .pure _
  · exact .ofExcept _

/-- No option has two values, nor has one in the request that was noted. -/
structure SetOnce (c : Compiler) : Prop where
  options : (c.options.map (·.1)).Nodup
  noted : ∀ r, c.noted? = some r → (r.options.map (·.1)).Nodup

theorem setOnce_of_ofConfig {settings : Settings} {config : Config} {dryRun : Bool} {c : Compiler} {w w' : World}
    (h : (Compiler.ofConfig settings config dryRun).runFrom w = (.ok c, w')) : c.SetOnce := by
  unfold Compiler.ofConfig at h
  split at h
  · cases h
    exact ⟨.nil, nofun⟩
  split at h
  · obtain ⟨⟨⟩, w₁, -, hmade⟩ := bind_ok h
    cases hmade
    exact ⟨.nil, nofun⟩
  · obtain ⟨hmade, -⟩ := Prod.mk.inj h
    unfold Compiler.ofCommand at hmade
    split at hmade
    · cases hmade
    · cases hmade
      exact ⟨.nil, nofun⟩

theorem SetOnce.configure {c : Compiler} (h : c.SetOnce) (target : FilePath) (classPath : List String)
    (encoding : Option String) : (c.configure target classPath encoding).SetOnce := by
  cases encoding with
  | none => exact ⟨h.options, h.noted⟩
  | some e =>
    refine ⟨?_, h.noted⟩
    have hother : ((c.options.filter (·.1 ≠ sourceEncodingKey)).map (·.1)).Nodup :=
      h.options.sublist (List.filter_sublist.map _)
    simpa [Compiler.configure, setOption, List.nodup_append] using hother

theorem SetOnce.request {c : Compiler} (h : c.SetOnce) {r : Request} (hr : c.request = .ok r) :
    (r.options.map (·.1)).Nodup := by
  rw [options_of_request hr]
  exact h.options

end Compiler

/-- Nothing was printed since, and no option has got a second value. -/
structure Build.Logged (b b' : Build) : Prop where
  world : b.world.Wrote "" b'.world
  compiler : b.compiler.SetOnce → b'.compiler.SetOnce

instance : IsPreorder Build Build.Logged where
  refl b := ⟨refl_of (World.Wrote "") b.world, id⟩
  trans _ _ _ h h' := ⟨trans_of (World.Wrote "") h.world h'.world, h'.compiler ∘ h.compiler⟩

namespace BuildAction

abbrev Logs (act : BuildAction α) : Prop :=
  Leaves Build.Logged act

theorem logs_onWorld {act : Action α} (h : act.Logs) : Logs (onWorld act) :=
  fun b => ⟨h b.world, id⟩

theorem logs_addRoot (p : FilePath) : Logs (addRoot p) :=
  .modify fun b => ⟨refl_of (World.Wrote "") b.world, id⟩

theorem logs_force (p : FilePath) : Logs (force p) :=
  .modify fun b => ⟨refl_of (World.Wrote "") b.world, id⟩

theorem logs_add (p : FilePath) : Logs (onCompiler (·.add p)) := by
  intro b
  rw [runFrom_onCompiler]
  split
  next c hadd =>
    constructor
    · exact refl_of (World.Wrote "") b.world
    · intro h
      unfold Compiler.add at hadd
      split at hadd
      · cases hadd
      · cases hadd
        exact ⟨h.options, h.noted⟩
  next => exact refl_of Build.Logged b

/-- The request that is noted is made of the options that were set. -/
theorem logs_enter : Logs enter := by
  intro b
  unfold enter
  rw [runFrom_bind, runFrom_get]
  dsimp only
  split
  · exact refl_of Build.Logged b
  rcases hr : b.compiler.request with e | r
  · exact refl_of Build.Logged b
  · constructor
    · exact refl_of (World.Wrote "") b.world
    · intro h
      refine ⟨h.options, fun r' hnoted => ?_⟩
      dsimp only at hnoted
      split at hnoted
      · cases hnoted
        exact h.request hr
      · exact h.noted r' hnoted

theorem logs_compile : Logs compile := by
  intro b
  rw [runFrom_compile]
  exact Leaves.andThen logs_enter (fun r => logs_onWorld (Compiler.logs_generate _ r)) b

theorem logs_addScripts (settings : Settings) (files : List FilePath) (scripts : List Script) :
    Logs (addScripts settings files scripts) := by
  induction scripts generalizing files with
  | nil => exact .pure _
  | cons s ss ih =>
    unfold addScripts
    split
    · exact ih files
    · exact .andThen (logs_onWorld (logs_log _ _)) fun _ => .andThen (logs_add _) fun _ => .andThen (logs_force _) fun _ => ih _

theorem logs_effectiveSet (settings : Settings) (intermediate : FilePath) (encoding : String) (s : SourceSet) :
    Logs (effectiveSet settings intermediate encoding s) := by
  have htaken : Logs (do
      addRoot s.directory
      if s.isLibrary then
        let published ← onWorld (Library.publish settings s intermediate encoding)
        addRoot published.sourceSet.directory
        return (published.sourceSet, some published)
      else return (s, none)) := by
    refine .andThen (logs_addRoot _) fun _ => ?_
    split
    · exact .andThen (logs_onWorld (Library.logs_publish _ _ _ _)) fun _ => .andThen (logs_addRoot _) fun _ => .pure _
    · exact .pure _
  unfold effectiveSet
  dsimp only
  split
  · exact .andThen (.throw _) fun _ => htaken
  · exact htaken

theorem logs_addSets (settings : Settings) (intermediate : FilePath) (encoding : String) (g : Gathered)
    (sets : List SourceSet) : Logs (addSets settings intermediate encoding g sets) := by
  induction sets generalizing g with
  | nil => exact .pure g
  | cons s ss ih =>
    exact .andThen (logs_effectiveSet _ _ _ s) fun _ => .andThen (logs_onWorld (logs_look _)) fun _ =>
      .andThen (logs_addScripts _ _ _) fun _ => ih _

/-- A build writes nothing but log events, whether it fails or not. -/
theorem logs_generate (settings : Settings) (config : Config) : Logs (generate settings config) := by
  have hcompiled : ∀ sets intermediate encoding, Logs (compileSources settings sets intermediate encoding) := by
    intro sets intermediate encoding
    have hhanded : Logs (handOver settings sets intermediate encoding) :=
      .andThen .get fun _ => .andThen (logs_addRoot _) fun _ => logs_addSets _ _ _ _ _
    exact .andThen hhanded fun _ => .andThen (.mapFailure _ logs_compile) fun _ => .andThen (logs_onWorld (logs_log _ _)) fun _ => .pure _
  have hconfigured : ∀ output, Logs (modify fun b : Build => { b with
      compiler := b.compiler.configure output (config.classPathFor settings.root) config.effectiveEncoding }) :=
    fun output => .modify fun b => ⟨refl_of (World.Wrote "") b.world, fun h => h.configure _ _ _⟩
  exact .andThen (logs_onWorld (logs_look _)) fun sets => .andThen .get fun _ => .andThen (logs_onWorld (logs_ensureDir _)) fun output =>
    .andThen (hconfigured output) fun _ => .andThen (hcompiled _ _ _) fun _ => .andThen (logs_onWorld (logs_resetTimes _)) fun _ =>
      .andThen (logs_onWorld (logs_log _ _)) fun _ => .andThen .get fun _ => .pure _

end BuildAction

end JavaStubs
