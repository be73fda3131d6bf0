import JavaStubs.Proofs.Build.Refusals
import JavaStubs.Proofs.Build.Stages
import JavaStubs.Proofs.Library.Located

/-! What a build can do to the disk before it compiles, told by a relation that all its steps respect. -/
namespace JavaStubs

/-- Builds that differ in the host, the files that the compiler was given, the log, and in the disk as told. -/
structure Build.Differs (R : Disk → Disk → Prop) (b b' : Build) : Prop where
  world : World.Differs R b.world b'.world
  compiler : ∃ files, b'.compiler = { b.compiler with files }

namespace Build.Differs

variable {R : Disk → Disk → Prop} [Disk.Passage R] {b b₁ b₂ : Build}

theorem refl (b : Build) : Differs R b b :=
  ⟨.refl b.world, b.compiler.files, rfl⟩

theorem trans (h : Differs R b b₁) (h' : Differs R b₁ b₂) : Differs R b b₂ := by
  obtain ⟨_, hfiles⟩ := h.compiler
  obtain ⟨files, hfiles'⟩ := h'.compiler
  refine ⟨h.world.trans h'.world, files, ?_⟩
  rw [hfiles', hfiles]

instance : IsPreorder Build (Differs R) where
  refl := refl
  trans _ _ _ := trans

end Build.Differs

namespace BuildAction

def Within (R : Disk → Disk → Prop) (act : BuildAction α) : Prop :=
  ∀ b, Build.Differs R b (act.runFrom b).2

namespace Within

variable {R : Disk → Disk → Prop} [hR : Disk.Passage R]

theorem pure (a : α) : Within R (Pure.pure a) :=
  Build.Differs.refl

theorem throw (e : Failure) : Within R (MonadExcept.throw e : BuildAction α) :=
  Build.Differs.refl

theorem look (f : Disk → Except Failure α) : Within R (BuildAction.look f) :=
  Build.Differs.refl

theorem addRoot (p : FilePath) : Within R (BuildAction.addRoot p) :=
  fun b => ⟨.refl b.world, b.compiler.files, rfl⟩

theorem force (p : FilePath) : Within R (BuildAction.force p) :=
  fun b => ⟨.refl b.world, b.compiler.files, rfl⟩

omit hR in
theorem onWorld {act : Action α} (h : Action.Within R act) : Within R (BuildAction.onWorld act) :=
  fun b => ⟨h b.world, b.compiler.files, rfl⟩

theorem add (p : FilePath) : Within R (BuildAction.onCompiler (·.add p)) := by
  intro b
  rw [runFrom_onCompiler]
  cases hran : b.compiler.ran with
  | true =>
    obtain ⟨e, he⟩ := Compiler.add_of_ran hran p
    rw [he]
    exact .refl b
  | false =>
    rw [Compiler.add_of_not_ran hran]
    exact ⟨.refl b.world, _, rfl⟩

theorem andThen {act : BuildAction α} {f : α → BuildAction β} (h : Within R act) (hf : ∀ a, Within R (f a)) :
    Within R (act >>= f) :=
  Acting.Leaves.andThen h hf

end Within

section

variable {R : Disk → Disk → Prop} [hR : Disk.Passage R]
variable {settings : Settings} {config : Config} {intermediate : FilePath} {encoding : String}

theorem within_addScripts (files : List FilePath) (scripts : List Script) :
    Within R (addScripts settings files scripts) := by
  induction scripts generalizing files with
  | nil => exact .pure _
  | cons s ss ih =>
    rw [addScripts]
    split
    · exact ih files
    · exact .andThen (.onWorld (.log _ _)) fun _ => .andThen (.add _) fun _ => .andThen (.force _) fun _ => ih _

/-- All that handing over does to the disk is to publish libraries. -/
theorem within_handOver (sets : List SourceSet)
    (hpublish : ∀ s, Action.Within R (Library.publish settings s intermediate encoding)) :
    Within R (handOver settings sets intermediate encoding) := by
  have heffective : ∀ s, Within R (effectiveSet settings intermediate encoding s) := by
    intro s
    have htaken : Within R (do
        addRoot s.directory
        if s.isLibrary then
          let published ← onWorld (Library.publish settings s intermediate encoding)
          addRoot published.sourceSet.directory
          return (published.sourceSet, some published)
        else return (s, none)) := by
      refine .andThen (.addRoot _) fun _ => ?_
      split
      · exact .andThen (.onWorld (hpublish s)) fun _ => .andThen (.addRoot _) fun _ => .pure _
      · exact .pure _
    unfold effectiveSet
    dsimp only
    split
    · exact .andThen (.throw _) fun _ => htaken
    · exact htaken
  have hsets : ∀ g, Within R (addSets settings intermediate encoding g sets) := by
    induction sets with
    | nil => exact fun g => .pure g
    | cons s ss ih =>
      intro g
      exact .andThen (heffective s) fun _ => .andThen (.look _) fun _ => .andThen (within_addScripts _ _) fun _ => ih _
  intro b
  unfold handOver
  rw [Acting.runFrom_bind, Acting.runFrom_get]
  exact Within.andThen (.addRoot _) (fun _ => hsets _) b

theorem prepare_differs (b : Build) (hdir : ∀ d, R d (d.ensureDirs b.host.output).1)
    (hpublish : ∀ s, Action.Within R (Library.publish settings s
      (Config.intermediateFor settings.scope settings.root) config.readEncoding)) :
    World.Differs R b.world ((prepare settings config).runFrom b).2.world ∧
      ((prepare settings config).runFrom b).2.compiler.engine = b.compiler.engine := by
  rw [runFrom_prepare]
  cases Project.sources b.world.disk settings config with
  | error e => exact ⟨.refl b.world, rfl⟩
  | ok sets =>
    dsimp only
    have hmade := Action.Within.ensureDir hdir b.world
    rcases hrun : (Action.ensureDir b.host.output).runFrom b.world with ⟨_ | output, w⟩
    all_goals rw [hrun] at hmade
    · exact ⟨hmade, rfl⟩
    dsimp only
    have hhanded := within_handOver sets hpublish (configured settings config b w)
    have hengine : (configured settings config b w).compiler.engine = b.compiler.engine :=
      (configure_keeps _ _ _ _).1
    rcases hrun' : (handOver settings sets (Config.intermediateFor settings.scope settings.root)
      config.readEncoding).runFrom (configured settings config b w) with ⟨_ | g, b'⟩
    all_goals
      rw [hrun'] at hhanded
      obtain ⟨files, hcompiler⟩ := hhanded.compiler
      dsimp only at hcompiler ⊢
      rw [hcompiler]
      exact ⟨hmade.trans hhanded.world, hengine⟩

end

end BuildAction

end JavaStubs
