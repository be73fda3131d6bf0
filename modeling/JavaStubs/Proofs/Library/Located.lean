import JavaStubs.Proofs.Disk.Confined
import JavaStubs.Proofs.Library.Registry
import JavaStubs.Proofs.Run.Within
import JavaStubs.Proofs.Source.Leaves

/-! Where publishing a library may change the disk. -/
namespace JavaStubs.Library

open FileTree JavaStubs.Action

theorem child_of_mem_wrapperFiles {d : Disk} {dir p : FilePath} {files : List FilePath}
    (h : wrapperFiles d dir = .ok files) (hp : p ∈ files) :
    ∃ n, Text.endsWith n scriptSuffix = true ∧ p = dir.child n := by
  unfold wrapperFiles at h
  split at h
  · cases h
  · cases h
    cases hp
  · split at h
    · cases h
    · split at h
      · split at h
        · cases h
          cases hp
        · cases h
      · cases h
        obtain ⟨e, he, rfl⟩ := List.mem_map.1 hp
        exact ⟨e.1, (List.mem_filter.1 he).2, rfl⟩

theorem place_packageEntry (d : Disk) (intermediate : FilePath) {n : String} (hn : Text.endsWith n scriptSuffix = true) :
    d.place ((packageDir intermediate).child n) = n :: package :: d.place intermediate := by
  have ⟨h₁, h₂⟩ := ne_dots hn
  rw [d.place_child _ h₁ h₂, place_packageDir]

section

variable {settings : Settings} {s : SourceSet} {intermediate : FilePath} {encoding : String}
variable {R : Disk → Disk → Prop} [Disk.Passage R]

theorem within_publishWrappers (hclass : ∀ c d data, R d (d.update (classPath intermediate c) data).1)
    (scripts : List Script) :
    Within R (publishWrappers settings encoding (scripts.map (wrapperOf intermediate))) := by
  induction scripts with
  | nil => exact .pure _
  | cons x xs ih =>
    have hone : Within R (publishWrapper settings encoding (wrapperOf intermediate x)) :=
      .andThen (.look _) fun _ => .andThen (.writeText _ _ (hclass _)) fun _ => .andThen (.log _ _) fun _ => .pure _
    exact .andThen hone fun _ => .andThen ih fun _ => .pure _

theorem within_removeStale {files : List FilePath} (keep : List FilePath)
    (hunlink : ∀ p ∈ files, ∀ d d', d.unlink p = .ok d' → R d d') : Within R (removeStale keep files) := by
  induction files with
  | nil => exact .pure _
  | cons p ps ih =>
    have hrest := ih fun q hq => hunlink q (List.mem_cons_of_mem _ hq)
    refine .andThen (.look _) fun isFile => ?_
    split
    · exact .andThen (.change (hunlink p List.mem_cons_self)) fun _ => .andThen hrest fun _ => .pure _
    · exact hrest

theorem within_logRemoved (removed : List FilePath) : Within R (logRemoved settings removed) := by
  induction removed with
  | nil => exact .pure _
  | cons p ps ih => exact .andThen (.log _ _) fun _ => ih

/-- All that writing classes does to the disk is to make the package directory and to write class files. -/
theorem within_publishClasses (hdir : ∀ d, R d (d.ensureDirs (packageDir intermediate)).1)
    (hclass : ∀ c d data, R d (d.update (classPath intermediate c) data).1) :
    Within R (publishClasses settings s intermediate encoding) := by
  refine .andThen (.log _ _) fun _ => .andThen (.look _) fun scripts =>
    .bind (.ofExcept _) fun wrappers _ _ hplan => ?_
  obtain ⟨-, rfl⟩ := plan_ok.1 (ok_of_mapError (Prod.mk.inj hplan).1)
  exact .andThen (.ensureDir hdir) fun _ => .andThen (within_publishWrappers hclass scripts) fun _ => .pure _

/-- All that pruning does to the disk is to remove files of the package directory that look like wrappers. -/
theorem within_prune (keep : List FilePath) (hunlink : ∀ n d d', Text.endsWith n scriptSuffix = true →
      d.unlink ((packageDir intermediate).child n) = .ok d' → R d d') :
    Within R (prune (packageDir intermediate) keep) := by
  refine .mapFailure _ (.bind (.look _) fun files w _ hlook => within_removeStale keep ?_)
  intro p hp d d' hd
  obtain ⟨n, hn, rfl⟩ := child_of_mem_wrapperFiles (ok_of_mapError (Prod.mk.inj hlook).1) hp
  exact hunlink n d d' hn hd

theorem within_publish (hdir : ∀ d, R d (d.ensureDirs (packageDir intermediate)).1)
    (hclass : ∀ c d data, R d (d.update (classPath intermediate c) data).1)
    (hregistry : ∀ d data, R d (d.update (registryPath intermediate) data).1)
    (hunlink : ∀ n d d', Text.endsWith n scriptSuffix = true →
      d.unlink ((packageDir intermediate).child n) = .ok d' → R d d') :
    Within R (publish settings s intermediate encoding) :=
  .andThen (within_publishClasses hdir hclass) fun _ => .andThen
    (.andThen (within_prune _ hunlink) fun _ => .andThen (within_logRemoved _) fun _ => .writeText _ _ hregistry)
    fun _ => .andThen .disk fun _ => .andThen (.log _ _) fun _ => .pure _

/-- Publishing changes no directory that is there, and gives its entries names that they can have. -/
theorem within_publish_alters (settings : Settings) (s : SourceSet) (intermediate : FilePath) (encoding : String) :
    Within (fun d d' => d.Changes (Alters fun _ => True) d') (publish settings s intermediate encoding) := by
  refine within_publish ?_ ?_ ?_ ?_
  · exact fun d => Disk.ensureDirs_alters d _ fun _ _ _ _ _ _ => trivial
  · exact fun c d data => Disk.update_alters d _ data (Disk.ensureDirs_alters d _ fun _ _ _ _ _ _ => trivial)
      fun _ _ _ _ => trivial
  · exact fun d data => Disk.update_alters d _ data (Disk.ensureDirs_alters d _ fun _ _ _ _ _ _ => trivial)
      fun _ _ _ _ => trivial
  · exact fun n d d' _ h => Disk.unlink_alters h fun _ _ => trivial

theorem publish_alters (settings : Settings) (s : SourceSet) (intermediate : FilePath) (encoding : String) (w : World) :
    w.disk.Changes (Alters fun _ => True) ((publish settings s intermediate encoding).runFrom w).2.disk :=
  (within_publish_alters settings s intermediate encoding w).disk

/-- In a tree without links, publishing is confined to what lies below the intermediate root. -/
theorem within_publish_keeping (d₀ : Disk) (settings : Settings) (s : SourceSet) (intermediate : FilePath)
    (encoding : String) :
    Within (d₀.Keeping (Below (d₀.place intermediate)) (d₀.OnWay intermediate))
      (publish settings s intermediate encoding) := by
  have hpackage : Below (d₀.place intermediate) (d₀.place (packageDir intermediate)) := by
    rw [place_packageDir]
    exact List.suffix_cons _ _
  have hway : ∀ l, d₀.OnWay (packageDir intermediate) l →
      Below (d₀.place intermediate) l ∨ d₀.OnWay intermediate l := by
    rintro l ⟨q, hq, rfl⟩
    rcases hq.of_child with rfl | hq
    · exact .inl hpackage
    · exact .inr ⟨q, hq, rfl⟩
  apply within_publish
  · exact Disk.ensureDirs_keeping hway
  · intro c d data
    apply Disk.update_keeping
    · rw [place_classPath]
      exact below_wrapperLoc _ c
    · rw [classPath, FilePath.parent_child]
      exact hway
  · intro d data
    apply Disk.update_keeping
    · rw [place_registryPath]
      exact below_registryLoc _
    · rw [registryPath, FilePath.parent_child]
      exact fun l hl => .inr hl
  · intro n d d' hn h
    refine Disk.unlink_keeping ?_ h
    rw [place_packageEntry d₀ intermediate hn, ← place_packageDir]
    exact hpackage.trans (List.suffix_cons _ _)

end

end JavaStubs.Library
