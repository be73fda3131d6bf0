import JavaStubs.Proofs.Library.Publishing
import JavaStubs.Proofs.Text.UpperCase

/-! In which encoding a published library is: scripts are read in the encoding in which wrappers and registry are
written. A link in the place of a generated file may spoil it, as two files are one then. -/
namespace JavaStubs

def Disk.Linked (d : Disk) (p : FilePath) : Prop :=
  ∃ l e target, d.stat p.parent = .ok (l, e) ∧ d.tree.get? (p.name :: l) = some (.link target)

namespace Library

open FileTree

/-- A published library on a disk, with the disk before. Every script was read in the encoding at its turn, when nothing
but directories and wrappers was new, and wrappers and registry have the bytes of what is rendered, in the same encoding. -/
structure Encoded (encoding : String) (before after : Disk) (p : Published) : Prop where
  wrapper : ∀ x ∈ p.wrappers, ∃ moment source body data,
    before.Changes (Gains fun l => ∃ y ∈ p.wrappers, ∃ e, after.stat y.generated = .ok (l, e)) moment ∧
    moment.read x.source = .ok source ∧ bodyOf encoding source = .ok body ∧
    Charset.encodeAs encoding (wrapperText x.className body) = .ok data ∧ after.read x.generated = .ok data
  registry : ∃ data, Charset.encodeAs encoding (registryText p.registry.entries) = .ok data ∧
    after.read p.registry.path = .ok data

theorem className_ne_registryStem (name : String) : className name ≠ registryStem := by
  intro h
  have hs : 's' ∈ (className name).toList := by
    rw [h]
    decide
  rw [className, String.toList_append, List.mem_append] at hs
  rcases hs with hs | hs
  · exact absurd hs (by decide)
  · exact Text.not_mem_upper (by decide) (by decide) name hs

section

variable {settings : Settings} {s : SourceSet} {intermediate dir : FilePath} {encoding n : String} {w w' : World}
  {scripts : List Script} {P : Loc} {m : Stamp} {d : Disk}

theorem content?_of_not_linked (hdir : d.stat dir = .ok (P, .dir m)) (h : ¬d.Linked (dir.child n)) (target : String) :
    d.tree.content? (n :: P) ≠ some (.link target) := by
  intro hc
  obtain ⟨e, he, hlink⟩ := get?_of_content? hc
  rw [Entry.content_eq_link] at hlink
  subst hlink
  exact h ⟨P, _, target, by rwa [FilePath.parent_child], by rwa [FilePath.name_child]⟩

/-- The registry's step leaves wrappers as they are, and the registry has its bytes in the end. -/
theorem publishRegistry_entries {changed : Bool} (hdir : w.disk.stat (packageDir intermediate) = .ok (P, .dir m))
    (hlinked : ¬w'.disk.Linked (registryPath intermediate))
    (h : (publishRegistry settings intermediate encoding (scripts.map (wrapperOf intermediate))).runFrom w =
      (.ok changed, w')) :
    (∃ data, Charset.encodeAs encoding
        (registryText (registryOf intermediate (scripts.map (wrapperOf intermediate))).entries) = .ok data ∧
      w'.disk.read (registryPath intermediate) = .ok data) ∧
    (∃ m', w'.disk.stat (packageDir intermediate) = .ok (P, .dir m')) ∧ w'.disk.rules = w.disk.rules ∧
    (Unlinked w'.disk.tree P scripts → Unlinked w.disk.tree P scripts) ∧
    ∀ x ∈ scripts, w'.disk.tree.data? ((classOf x ++ scriptSuffix) :: P) =
      w.disk.tree.data? ((classOf x ++ scriptSuffix) :: P) := by
  obtain ⟨d, l, data, hloses, hdata, hw, ⟨m₁, a, hreg⟩, -⟩ := publishRegistry_ok hdir h
  have hkept : Kept d.tree w'.disk.tree := hw.tree.kept
  obtain ⟨m₂, hdir₁⟩ := hloses.stat_dir hdir
  obtain ⟨m₃, hdir₂⟩ := Disk.stat_dir_of_kept hdir₁ (hw.imp fun _ _ h => h.kept)
  -- the registry has another name than any wrapper
  obtain ⟨Q, m₄, hroot⟩ := Disk.stat_of_child hreg
  obtain rfl : l = (registryStem ++ scriptSuffix) :: Q :=
    Disk.loc_of_stat_child (by decide) (by decide) hroot hreg (content?_of_not_linked hroot hlinked)
  have hother : ∀ x : Script, (classOf x ++ scriptSuffix) :: P ≠ (registryStem ++ scriptSuffix) :: Q := by
    intro x heq
    rw [List.cons.injEq, String.append_left_inj] at heq
    exact className_ne_registryStem _ heq.1
  have hstays : ∀ x ∈ scripts, d.tree.content? ((classOf x ++ scriptSuffix) :: P) =
      w.disk.tree.content? ((classOf x ++ scriptSuffix) :: P) := by
    intro x hx
    refine (hloses.content? _).resolve_right ?_
    rintro ⟨⟨n, -, hn, heq⟩, -⟩
    exact hn x hx (List.cons.inj heq).1.symm
  refine ⟨⟨data, hdata, Disk.read_of_stat hreg⟩, ⟨m₃, hdir₂⟩, hw.rules.trans hloses.rules, ?_, fun x hx => ?_⟩
  · intro hfree x hx target hc
    exact hfree x hx target (hkept _ _ ((hstays x hx).trans hc) rfl)
  · rw [hw.tree.data?, if_neg (hother x), data?_of_content?_eq (hstays x hx)]

/-- Where a path led to a wrapper before, it leads to the entry in the package directory that has bytes now. -/
theorem stat_classPath {d' : Disk} {m' : Stamp} {c : String} {q : Loc × Entry} {data : List UInt8}
    (hdir : d.stat (packageDir intermediate) = .ok (P, .dir m)) (h : d.stat (classPath intermediate c) = .ok q)
    (hdir' : d'.stat (packageDir intermediate) = .ok (P, .dir m')) (hrules : d'.rules = d.rules)
    (hdata : d'.tree.data? ((c ++ scriptSuffix) :: P) = some data) :
    ∃ m a, d'.stat (classPath intermediate c) = .ok ((c ++ scriptSuffix) :: P, .file data m a) := by
  have hlocated := Disk.stat_eq_ok_iff.1 h
  obtain ⟨husable, -⟩ := Disk.locate_eq_ok_iff.1 hlocated
  obtain ⟨_, -, hleads⟩ := Disk.leads_of_child hdir hlocated
  have hname := hleads.entryName (ne_of_ends c (by decide)) (ne_of_ends c (by decide))
  exact Disk.stat_child_of_data? hdir' ((Disk.usable_iff hrules _).2 husable) hname hdata

theorem encoded_of_publish {p : Published} (h : (publish settings s intermediate encoding).runFrom w = (.ok p, w'))
    (hregistry : ¬w'.disk.Linked p.registry.path) (hwrappers : ∀ x ∈ p.wrappers, ¬w'.disk.Linked x.generated) :
    (∃ scripts, w.disk.scan s = .ok scripts ∧ p.wrappers = scripts.map (wrapperOf intermediate)) ∧
      p.registry = registryOf intermediate p.wrappers ∧ Encoded encoding w.disk w'.disk p := by
  obtain ⟨scripts, count, w₁, changed, w₂, text, hscan, hn, hc, -, hr, rfl, rfl⟩ := publish_ok h
  refine ⟨⟨scripts, hscan, rfl⟩, rfl, ?_⟩
  change ¬w₂.disk.Linked (registryPath intermediate) at hregistry
  change ∀ x ∈ scripts.map (wrapperOf intermediate), ¬w₂.disk.Linked x.generated at hwrappers
  change Encoded encoding w.disk w₂.disk _
  obtain ⟨scripts', w₀, hscan', -, -, hmore, ⟨P, m, hdir⟩, hwritten⟩ := publishClasses_ok hc
  cases hscan.symm.trans hscan'
  have hg := publishWrappers_gains settings encoding intermediate scripts w₀
  rw [hwritten] at hg
  dsimp only at hg
  obtain ⟨m₁, hdir₁⟩ := Disk.stat_dir_of_kept hdir (hg.imp fun _ _ h => h.kept)
  obtain ⟨hreg, ⟨m₂, hdir₂⟩, hrules, hunlinked, hsame⟩ := publishRegistry_entries hdir₁ hregistry hr
  have hfree₂ : Unlinked w₂.disk.tree P scripts := by
    intro x hx
    have hx' : ¬w₂.disk.Linked ((packageDir intermediate).child (classOf x ++ scriptSuffix)) :=
      hwrappers (wrapperOf intermediate x) (List.mem_map_of_mem hx)
    exact content?_of_not_linked hdir₂ hx'
  -- a wrapper is in its entry of the package directory in the end
  have hstat : ∀ x ∈ scripts, ∀ data, w₂.disk.tree.data? ((classOf x ++ scriptSuffix) :: P) = some data →
      ∃ m a, w₂.disk.stat (wrapperOf intermediate x).generated = .ok ((classOf x ++ scriptSuffix) :: P, .file data m a) := by
    intro x hx data hdata
    obtain ⟨l, _, m', a, hs⟩ := stat_of_publishWrappers hwritten x hx
    exact stat_classPath hdir₁ hs hdir₂ hrules hdata
  have hdata := data?_of_publishWrappers hdir hn (hunlinked hfree₂) hwritten
  refine ⟨fun x hx => ?_, hreg⟩
  obtain ⟨y, hy, rfl⟩ := List.mem_map.1 hx
  obtain ⟨d, source, data, hd, hsource, hwrapper, hthere⟩ := hdata y hy
  obtain ⟨body, hbody, hencoded⟩ := wrapperData_ok hwrapper
  rw [← hsame y hy] at hthere
  obtain ⟨m', a, hs⟩ := hstat y hy data hthere
  refine ⟨d, source, body, data, ?_, hsource, hbody, hencoded, Disk.read_of_stat hs⟩
  refine (hmore.imp fun _ _ h => h.gains).comp (hd.imp fun _ _ h => h.mono ?_) Gains.trans
  intro l hl
  obtain ⟨z, hz, rfl⟩ := List.mem_map.1 hl
  obtain ⟨_, _, data', -, -, -, hthere'⟩ := hdata z hz
  rw [← hsame z hz] at hthere'
  obtain ⟨m'', a', hs'⟩ := hstat z hz data' hthere'
  exact ⟨_, List.mem_map_of_mem hz, _, hs'⟩

end

end Library

end JavaStubs
