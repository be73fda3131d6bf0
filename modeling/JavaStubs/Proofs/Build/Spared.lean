import JavaStubs.Proofs.Build.Overlapping

/-! What the turns of source sets do not touch. Away from the intermediate root all regular files stay, so a set that
is apart from that root is scanned in its turn as it was at the beginning. -/
namespace JavaStubs

namespace FileTree

/-- Trees with the same regular files but for those below a root. No directory of the first one is lost, and no link
comes to be. -/
structure Spares (root : Loc) (t t' : FileTree) : Prop where
  kept : Kept t t'
  linkFree : t'.LinkFree
  named : t.Named → t'.Named
  data? : ∀ l, ¬Below root l → t'.data? l = t.data? l

namespace Spares

variable {root : Loc} {t t₁ t₂ t₃ t' : FileTree}

theorem refl (hfree : t.LinkFree) : Spares root t t :=
  ⟨.refl t, hfree, id, fun _ _ => rfl⟩

theorem trans (h : Spares root t₁ t₂) (h' : Spares root t₂ t₃) : Spares root t₁ t₃ where
  kept := h.kept.trans h'.kept
  linkFree := h'.linkFree
  named := h'.named ∘ h.named
  data? l hl := (h'.data? l hl).trans (h.data? l hl)

theorem of_alters {may : Loc → Prop} (hfree : t.LinkFree) (h : Alters may t t')
    (hdata : ∀ l, ¬Below root l → t'.data? l = t.data? l) : Spares root t t' :=
  ⟨h.kept hfree, h.linkFree hfree, h.named, hdata⟩

end Spares

end FileTree

open FileTree

/-- A set that is apart from the root finds the same scripts on both disks, if it can be scanned on both. -/
theorem Disk.scan_spared {d d' : Disk} {root : Loc} {s : SourceSet} {mappings : List SuffixMapping}
    {scripts scripts' : List Script} (hfree : d.tree.LinkFree) (hwell : d.tree.WellFormed)
    (hspares : d.Changes (Spares root) d') (hapart : ¬Below (d.place s.directory) root)
    (hapart' : ¬Below root (d.place s.directory)) (h : d.scan s mappings = .ok scripts)
    (h' : d'.scan s mappings = .ok scripts') : scripts' = scripts := by
  obtain ⟨-, l, m, hs, -⟩ := scan_ok h
  obtain rfl := loc_of_stat hs hfree
  obtain ⟨m', hs'⟩ := stat_dir_of_kept hs (hspares.imp fun _ _ => Spares.kept)
  refine scan_unique h h' hspares.cwd hs hs' (fun names _ => ?_) fun names hleaf => hleaf.noSlash hwell
  refine isLeaf_iff_of_kept hfree hwell hspares.tree.kept hspares.tree.linkFree ?_
  rw [hspares.tree.data? _ (not_below_of_apart hapart hapart' (List.suffix_append _ _))]

namespace Turn

variable {settings : Settings} {intermediate : FilePath} {encoding : String} {w w' : World} {s : SourceSet} {t : Turn}

theorem spares_of_take (hfree : w.disk.tree.LinkFree)
    (h : (take settings intermediate encoding s).runFrom w = (.ok t, w')) :
    w.disk.Changes (Spares (w.disk.place intermediate)) w'.disk := by
  by_cases hlib : s.isLibrary = true
  · obtain ⟨p, hpublish, -⟩ := publish_of_take hlib h
    have halters := Library.publish_alters settings s intermediate encoding w
    rw [hpublish] at halters
    refine ⟨.of_alters hfree halters.tree fun l hl => ?_, halters.cwd, halters.rules⟩
    exact (Library.publish_touches hfree hpublish).2 l fun hgenerated => hl hgenerated.below
  · obtain rfl := take_plain hlib h
    exact ⟨.refl hfree, rfl, rfl⟩

theorem published?_of_plain (hlib : ¬s.isLibrary = true)
    (h : (take settings intermediate encoding s).runFrom w = (.ok t, w')) : t.published? = none := by
  rw [(scan_of_take hlib h).1]

end Turn

end JavaStubs
