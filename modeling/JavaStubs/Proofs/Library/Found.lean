import JavaStubs.Proofs.Library.Names
import JavaStubs.Proofs.Library.Publishing
import JavaStubs.Proofs.Source.LeafPaths

/-! What a scan finds of a published library. The includes of the library are asked again, now for the generated files
where they are; what they pick is found. -/
namespace JavaStubs.Library

open FileTree

def PackageLinked (d : Disk) (intermediate : FilePath) : Prop :=
  ∃ l e target, d.stat intermediate = .ok (l, e) ∧ d.tree.get? (package :: l) = some (.link target)

theorem not_packageLinked {d : Disk} {intermediate : FilePath} (h : d.tree.LinkFree) : ¬PackageLinked d intermediate := by
  rintro ⟨l, e, target, -, htarget⟩
  exact h _ _ (content?_of_get? htarget)

section

variable {settings : Settings} {s : SourceSet} {intermediate : FilePath} {encoding : String} {w w' : World}
  {scripts : List Script} {P l : Loc} {m : Stamp}

/-- The registry's step makes no directory and no link. -/
theorem publishRegistry_kept {r : Except Failure Bool} (hdir : w.disk.stat (packageDir intermediate) = .ok (P, .dir m))
    (h : (publishRegistry settings intermediate encoding (scripts.map (wrapperOf intermediate))).runFrom w = (r, w')) :
    Kept w'.disk.tree w.disk.tree := by
  unfold publishRegistry at h
  obtain ⟨r₁, w₁, hprune, hloses, -⟩ := prune_spec scripts hdir
  have hkept : Kept w₁.disk.tree w.disk.tree := by
    intro l c hc _
    rcases hloses.content? l with he | ⟨-, hn⟩
    · rw [← he, hc]
    · rw [hn] at hc
      cases hc
  cases r₁ with
  | error e =>
    rw [Acting.runFrom_bind_of_error hprune] at h
    cases h
    exact hkept
  | ok removed =>
    obtain ⟨text, hlog⟩ := runFrom_logRemoved settings removed w₁
    rw [Acting.runFrom_bind_of_ok hprune, Acting.runFrom_bind_of_ok hlog] at h
    obtain ⟨m₁, hdir₁⟩ := hloses.stat_dir hdir
    obtain ⟨l, m₂, hroot⟩ := Disk.stat_of_child hdir₁
    have hparent : ({ w₁ with stderr := text } : World).disk.stat (registryPath intermediate).parent = .ok (l, .dir m₂) := by
      rw [registryPath, FilePath.parent_child]
      exact hroot
    exact (Action.kept_of_writeText hparent h).trans hkept

/-- The registry's step leaves the wrappers of its scripts leaves, if they were. -/
theorem publishRegistry_leaf {changed : Bool} (hdir : w.disk.stat (packageDir intermediate) = .ok (P, .dir m))
    (h : (publishRegistry settings intermediate encoding (scripts.map (wrapperOf intermediate))).runFrom w =
      (.ok changed, w')) {x : Script} (hx : x ∈ scripts) (hleaf : w.disk.IsLeaf P [classOf x ++ scriptSuffix]) :
    w'.disk.IsLeaf P [classOf x ++ scriptSuffix] := by
  refine hleaf.of_kept (publishRegistry_kept hdir h) ?_
  obtain ⟨d, l, data, hloses, -, hw, -, -⟩ := publishRegistry_ok hdir h
  have hd : d.tree.content? ((classOf x ++ scriptSuffix) :: P) = w.disk.tree.content? ((classOf x ++ scriptSuffix) :: P) := by
    refine (hloses.content? _).resolve_right ?_
    rintro ⟨⟨n, -, hn, heq⟩, -⟩
    exact hn x hx (List.cons.inj heq).1.symm
  by_cases hl : (classOf x ++ scriptSuffix) :: P = l
  · exact .inr ⟨data, hl ▸ hw.tree.there⟩
  · rcases hw.tree.elsewhere _ hl with he | ⟨hn, -⟩
    · exact .inl (he.trans hd)
    · obtain ⟨e, he, -⟩ := hleaf
      rw [hd, content?_of_get? he] at hn
      cases hn

/-- What was published are leaves below the intermediate root, unless a link stands for the package directory. -/
theorem isLeaf_of_publish {p : Published} (h : (publish settings s intermediate encoding).runFrom w = (.ok p, w'))
    (hlinked : ¬PackageLinked w'.disk intermediate) :
    ∃ scripts l m, w.disk.scan s = .ok scripts ∧ w'.disk.stat intermediate = .ok (l, .dir m) ∧
      w'.disk.IsLeaf l [registryStem ++ scriptSuffix] ∧
      ∀ x ∈ scripts, w'.disk.IsLeaf l [package, classOf x ++ scriptSuffix] := by
  obtain ⟨scripts, count, w₁, changed, w₂, text, hscan, -, hc, ⟨P, m, hdir⟩, hr, rfl, rfl⟩ := publish_ok h
  obtain ⟨d, lr, data, hloses, -, hw, ⟨mr, ar, hreg⟩, -⟩ := publishRegistry_ok hdir hr
  obtain ⟨m₁, hdir₁⟩ := hloses.stat_dir hdir
  obtain ⟨m₂, hdir₂⟩ := Disk.stat_dir_of_kept hdir₁ (hw.imp fun _ _ h => h.kept)
  obtain ⟨l, m₃, hroot⟩ := Disk.stat_of_child hdir₂
  -- without a link the package directory is where its name says
  obtain rfl : P = package :: l := by
    obtain ⟨links, -, hleads⟩ := Disk.leads_of_child hroot (Disk.stat_eq_ok_iff.1 hdir₂)
    exact hleads.eq_cons (by decide) (by decide) fun target ht => absurd ⟨l, _, target, hroot, ht⟩ hlinked
  refine ⟨scripts, l, m₃, hscan, hroot, ?_, fun x hx => ?_⟩
  · exact Disk.isLeaf_of_stat hroot hreg (by decide) (by decide) rfl
  · obtain ⟨scripts', w₀, hscan', -, -, -, -, hwritten⟩ := publishClasses_ok hc
    cases hscan.symm.trans hscan'
    obtain ⟨lx, data, m, a, hwrapper⟩ := stat_of_publishWrappers hwritten x hx
    -- the wrapper is a leaf once it is written, and the registry's step leaves it one
    have hleaf := Disk.isLeaf_of_stat hdir hwrapper (ne_of_ends _ (by decide)) (ne_of_ends _ (by decide)) rfl
    refine (Disk.isLeaf_cons (List.cons_ne_nil _ _)).2 ⟨?_, publishRegistry_leaf hdir hr hx hleaf⟩
    exact isDir_iff.2 ⟨m₂, Disk.get?_of_stat hdir₂⟩

theorem scan_published {p : Published} {found : List Script}
    (h : (publish settings s intermediate encoding).runFrom w = (.ok p, w'))
    (hstat : w'.disk.stat intermediate = .ok (l, .dir m)) (hscan : w'.disk.scan p.sourceSet = .ok found)
    {names : List String} (hleaf : w'.disk.IsLeaf l names)
    (hselects : (publishedSet s (intermediate.absolute w.disk.cwd)).selects SuffixMapping.standard names = true) :
    (intermediate.descend names).absolute w.disk.cwd ∈ found.map (·.path) := by
  obtain ⟨hset, -⟩ := publish_sourceSet h
  have hcwd := publish_cwd settings s intermediate encoding w
  rw [h] at hcwd
  dsimp only at hcwd
  rw [hset] at hscan
  obtain ⟨habs, l', m', hstat', -⟩ := Disk.scan_ok hscan
  have hdir : (publishedSet s (intermediate.absolute w.disk.cwd)).directory = intermediate.absolute w.disk.cwd := rfl
  obtain rfl : l' = l := by
    obtain ⟨-, hleads⟩ := Disk.locate_eq_ok_iff.1 (Disk.stat_eq_ok_iff.1 hstat)
    obtain ⟨-, hleads'⟩ := Disk.locate_eq_ok_iff.1 (Disk.stat_eq_ok_iff.1 hstat')
    rw [FilePath.absolute_of_isAbsolute habs, hdir, ← hcwd] at hleads'
    cases hleads'.unique hleads
    rfl
  rw [FilePath.absolute_descend]
  exact (Disk.descend_mem_scan hscan names).2 ⟨l', m', hstat', hleaf, hselects⟩

theorem registryPath_eq (intermediate : FilePath) :
    registryPath intermediate = intermediate.descend [registryStem ++ scriptSuffix] := rfl

theorem generated_eq (intermediate : FilePath) (x : Script) :
    (wrapperOf intermediate x).generated = intermediate.descend [package, classOf x ++ scriptSuffix] := by
  simp [wrapperOf, packageDir, FilePath.child, FilePath.descend]

/-- A scan of a published library finds the wrappers and the registry that the includes pick where they are now. -/
theorem found_of_publish {p : Published} {found : List Script} (hwell : w.disk.tree.WellFormed)
    (h : (publish settings s intermediate encoding).runFrom w = (.ok p, w'))
    (hlinked : ¬PackageLinked w'.disk intermediate) (hscan : w'.disk.scan p.sourceSet = .ok found) :
    ∃ scripts, w.disk.scan s = .ok scripts ∧
      (∀ x ∈ scripts,
        Pattern.anyPicks s.effectiveIncludes (Text.join "/" [package, classOf x ++ scriptSuffix]) = true →
          (wrapperOf intermediate x).generated.absolute w.disk.cwd ∈ found.map (·.path)) ∧
      (Pattern.anyPicks s.effectiveIncludes (registryStem ++ scriptSuffix) = true →
        (registryPath intermediate).absolute w.disk.cwd ∈ found.map (·.path)) := by
  obtain ⟨scripts, l, m, hscripts, hstat, hregistry, hclasses⟩ := isLeaf_of_publish h hlinked
  refine ⟨scripts, hscripts, fun x hx hpicked => ?_, fun hpicked => ?_⟩
  · have hname := (Disk.fileName_of_mem_scan hwell hscripts hx).noSlash
    rw [generated_eq]
    exact scan_published h hstat hscan (hclasses x hx) ((selects_class s _ hname).trans hpicked)
  · rw [registryPath_eq]
    exact scan_published h hstat hscan hregistry ((selects_registry s _).trans hpicked)

end

end JavaStubs.Library
