import JavaStubs.Proofs.Disk.Updating
import JavaStubs.Proofs.Library.History
import JavaStubs.Proofs.Library.UpToDate

/-! Publishing a library twice in a tree without links. The second run finds all that the first one has left, and each
run counts exactly the generated files that it changed. -/
namespace JavaStubs

namespace FileTree

/-- Whether the file at a location has other bytes in the second tree, or is in one of the trees only. -/
def differs (t t' : FileTree) (l : Loc) : Bool :=
  t.data? l != t'.data? l

theorem differs_iff {t t' : FileTree} {l : Loc} : t.differs t' l = true ↔ t.data? l ≠ t'.data? l :=
  bne_iff_ne

theorem differs_congr {t₁ t₂ t₁' t₂' : FileTree} {l : Loc} (h : t₁.data? l = t₂.data? l)
    (h' : t₁'.data? l = t₂'.data? l) : t₁.differs t₁' l = t₂.differs t₂' l := by
  rw [differs, differs, h, h']

end FileTree

open FileTree

namespace Disk

variable {d : Disk} {dir p : FilePath} {P : Loc} {m : Stamp} {n : String} {data : List UInt8} {changed : Bool}

/-- In a directory that exists, an update leaves the bytes and says truly whether they were there before. -/
theorem update_changed (hfree : d.tree.LinkFree) (h₁ : n ≠ ".") (h₂ : n ≠ "..") (hdir : d.stat dir = .ok (P, .dir m))
    (h : (d.update (dir.child n) data).2 = .ok changed) :
    (d.update (dir.child n) data).1.tree.data? (n :: P) = some data ∧
      (changed = true ↔ d.tree.data? (n :: P) ≠ some data) := by
  rcases update_spec d (dir.child n) data with hdone | ⟨e, he, _⟩ | ⟨errno, he, _⟩
  · have ⟨_, l, _, hwrites, m₁, a, hstat⟩ := hdone
    have ⟨m₂, hdir₁⟩ := stat_dir_of_kept hdir (hwrites.imp fun _ _ hw => hw.kept)
    have hloc : l = n :: P := loc_of_stat_child h₁ h₂ hdir₁ hstat fun target => hwrites.tree.linkFree hfree _ target
    have husable := (usable_iff hwrites.rules _).mp (locate_eq_ok_iff.mp (stat_eq_ok_iff.mp hstat)).1
    have ⟨_, _, hleads⟩ := leads_of_child hdir₁ (stat_eq_ok_iff.mp hstat)
    have hname : EntryName n := hleads.entryName h₁ h₂
    refine ⟨hloc ▸ data?_of_stat hstat, ?_, ?_⟩
    · intro htrue hthere
      have ⟨_, _, hfile⟩ := stat_child_of_data? hdir husable hname hthere
      rw [update_of_stat hfile, htrue] at h
      cases h
    · intro hnot
      cases changed with
      | true => rfl
      | false =>
        have ⟨_, _, _, hfile⟩ := stat_of_read (read_of_update h)
        have hold : _ = n :: P := loc_of_stat_child h₁ h₂ hdir hfile fun target => hfree _ target
        exact absurd (hold ▸ data?_of_stat hfile) hnot
  · cases he.symm.trans h
  · cases he.symm.trans h

end Disk

/-- Writing text into a directory that exists says truly whether the file changed. -/
theorem Action.writeText_changed {dir : FilePath} {n content encoding : String} {w w' : World} {P : Loc} {m : Stamp}
    {changed : Bool} (h : (Action.writeText (dir.child n) content encoding).runFrom w = (.ok changed, w'))
    (hfree : w.disk.tree.LinkFree) (hdir : w.disk.stat dir = .ok (P, .dir m)) (h₁ : n ≠ ".") (h₂ : n ≠ "..") :
    changed = w.disk.tree.differs w'.disk.tree (n :: P) := by
  have ⟨data, _, hupdate, hdisk⟩ := Action.writeText_ok h
  have ⟨hthere, hchanged⟩ := Disk.update_changed hfree h₁ h₂ hdir hupdate
  rw [Bool.eq_iff_iff, differs_iff, hdisk, hthere]
  exact hchanged

namespace Library

def Published.files (p : Published) : List FilePath :=
  p.wrappers.map (·.generated) ++ [p.registry.path]

section

variable {settings : Settings} {s : SourceSet} {intermediate : FilePath} {encoding : String} {scripts : List Script}
  {w w' : World} {P : Loc} {m : Stamp} {count : Nat} {changed : Bool}

theorem publishWrapper_changed {x : Script} (hfree : w.disk.tree.LinkFree)
    (hdir : ∃ P m, w.disk.stat (packageDir intermediate) = .ok (P, .dir m))
    (h : (publishWrapper settings encoding (wrapperOf intermediate x)).runFrom w = (.ok changed, w')) :
    changed = w.disk.tree.differs w'.disk.tree (wrapperLoc (w.disk.place intermediate) (classOf x)) := by
  have ⟨P, m, hdir⟩ := hdir
  have hloc : P = package :: w.disk.place intermediate := by
    rw [Disk.loc_of_stat hdir hfree, place_packageDir]
  have ⟨body, w₁, hlook, h⟩ := Acting.bind_ok h
  have ⟨changed', w₂, hwrite, h⟩ := Acting.bind_ok h
  have ⟨_, w₃, hlog, hpure⟩ := Acting.bind_ok h
  cases hpure
  rw [Action.runFrom_look] at hlook
  cases (Prod.mk.inj hlook).2
  have ⟨text, hlogged⟩ := Log.runFrom_write settings ⟨.debug, "globalvars", "wrapper",
    [("variable", .text (wrapperOf intermediate x).name), ("path", .text (wrapperOf intermediate x).generated.text)]⟩ w₂
  cases hlogged.symm.trans hlog
  have hchanged := Action.writeText_changed hwrite hfree hdir (ne_of_ends _ (by decide)) (ne_of_ends _ (by decide))
  rw [hchanged, hloc]
  rfl

theorem publishWrappers_cons_changed {x : Script} {xs : List Script} (hfree : w.disk.tree.LinkFree)
    (hdir : ∃ P m, w.disk.stat (packageDir intermediate) = .ok (P, .dir m)) (hx : classOf x ∉ xs.map classOf)
    (h : (publishWrappers settings encoding ((x :: xs).map (wrapperOf intermediate))).runFrom w = (.ok count, w')) :
    ∃ w₁ count₁ data, w.disk.Changes (Writes (wrapperLoc (w.disk.place intermediate) (classOf x)) data) w₁.disk ∧
      (publishWrappers settings encoding (xs.map (wrapperOf intermediate))).runFrom w₁ = (.ok count₁, w') ∧
      count = (if w.disk.tree.differs w'.disk.tree (wrapperLoc (w.disk.place intermediate) (classOf x)) then 1 else 0) +
        count₁ := by
  have ⟨changed, w₁, hone, hrest⟩ := Acting.bind_ok h
  have ⟨count₁, w₂, hrest, hpure⟩ := Acting.bind_ok hrest
  cases hpure
  have hchanged := publishWrapper_changed hfree hdir hone
  cases @publishWrapper_linkFree settings encoding intermediate w hfree x with
  | inr hrefused =>
    have ⟨e, w₃, hr, _⟩ := hrefused
    cases hr.symm.trans hone
  | inl hdone =>
    have ⟨_, w₃, _, data, hr, hwrites, _⟩ := hdone
    cases hr.symm.trans hone
    have hlater := publishWrappers_gains settings encoding intermediate xs w₁
    rw [hrest, Disk.place_eq hwrites.cwd] at hlater
    have hlast : w'.disk.tree.data? (wrapperLoc (w.disk.place intermediate) (classOf x)) =
        w₁.disk.tree.data? (wrapperLoc (w.disk.place intermediate) (classOf x)) :=
      (hlater.tree.data? _).resolve_right fun hwritten =>
        wrapperLoc_not_mem hx (hwritten.1 (hwrites.tree.linkFree hfree))
    exact ⟨w₁, count₁, data, hwrites, hrest, by rw [hchanged, differs_congr rfl hlast]⟩

theorem count_of_publishWrappers (hfree : w.disk.tree.LinkFree)
    (hdir : ∃ P m, w.disk.stat (packageDir intermediate) = .ok (P, .dir m)) (hn : (scripts.map classOf).Nodup)
    (h : (publishWrappers settings encoding (scripts.map (wrapperOf intermediate))).runFrom w = (.ok count, w')) :
    count = scripts.countP fun x =>
      w.disk.tree.differs w'.disk.tree (wrapperLoc (w.disk.place intermediate) (classOf x)) := by
  induction scripts generalizing w count with
  | nil =>
    cases h
    rfl
  | cons x xs ih =>
    have ⟨hx, hxs⟩ := List.nodup_cons.mp hn
    have ⟨w₁, count₁, data, hwrites, hrest, hcount⟩ := publishWrappers_cons_changed hfree hdir hx h
    have hdir₁ : ∃ P m, w₁.disk.stat (packageDir intermediate) = .ok (P, .dir m) := by
      have ⟨P, m, hdir⟩ := hdir
      exact ⟨P, Disk.stat_dir_of_kept hdir (hwrites.imp fun _ _ hw => hw.kept)⟩
    have hlater := ih (hwrites.tree.linkFree hfree) hdir₁ hxs hrest
    rw [Disk.place_eq hwrites.cwd] at hlater
    have hsame : (xs.countP fun y =>
          w₁.disk.tree.differs w'.disk.tree (wrapperLoc (w.disk.place intermediate) (classOf y))) =
        xs.countP fun y => w.disk.tree.differs w'.disk.tree (wrapperLoc (w.disk.place intermediate) (classOf y)) := by
      apply List.countP_congr
      intro y hy
      -- the wrapper of another class lies elsewhere
      have hother : wrapperLoc (w.disk.place intermediate) (classOf y) ≠ wrapperLoc (w.disk.place intermediate) (classOf x) :=
        fun heq => hx (wrapperLoc_inj.mp heq ▸ List.mem_map_of_mem hy)
      have hold : w₁.disk.tree.data? (wrapperLoc (w.disk.place intermediate) (classOf y)) =
          w.disk.tree.data? (wrapperLoc (w.disk.place intermediate) (classOf y)) := by
        rw [hwrites.tree.data?, if_neg hother]
      rw [differs_congr hold rfl]
    rw [List.countP_cons, ← hsame, ← hlater, hcount, Nat.add_comm]

theorem count_of_publishClasses {wrappers : List Wrapper} (hfree : w.disk.tree.LinkFree)
    (hscan : w.disk.scan s = .ok scripts)
    (h : (publishClasses settings s intermediate encoding).runFrom w = (.ok (wrappers, count), w')) :
    count = scripts.countP fun x =>
      w.disk.tree.differs w'.disk.tree (wrapperLoc (w.disk.place intermediate) (classOf x)) := by
  have ⟨_, w₁, hscan', hn, _, hmore, hdir, hwritten⟩ := publishClasses_ok h
  cases hscan.symm.trans hscan'
  rw [count_of_publishWrappers (hmore.tree.linkFree hfree) hdir hn hwritten, Disk.place_eq hmore.cwd]
  apply List.countP_congr
  intro x _
  rw [differs_congr (hmore.tree.data? _) rfl]

/-- The registry's step says truly whether the registry changed. -/
theorem publishRegistry_changed (hfree : w.disk.tree.LinkFree)
    (hdir : w.disk.stat (packageDir intermediate) = .ok (P, .dir m))
    (h : (publishRegistry settings intermediate encoding (scripts.map (wrapperOf intermediate))).runFrom w =
      (.ok changed, w')) :
    changed = w.disk.tree.differs w'.disk.tree (registryLoc (w.disk.place intermediate)) := by
  have hloc : P = package :: w.disk.place intermediate := by
    rw [Disk.loc_of_stat hdir hfree, place_packageDir]
  have ⟨removed, w₁, hprune, h⟩ := Acting.bind_ok h
  have ⟨_, w₂, hlog, hwrite⟩ := Acting.bind_ok h
  have ⟨_, _, hpruned, hloses, _⟩ := prune_spec scripts hdir
  cases hpruned.symm.trans hprune
  have ⟨text, hlogged⟩ := runFrom_logRemoved settings removed w₁
  cases hlogged.symm.trans hlog
  have hfree₁ := hloses.linkFree hfree
  have ⟨m₁, hdir₁⟩ := hloses.stat_dir hdir
  have ⟨root, m₂, hroot⟩ := Disk.stat_of_child hdir₁
  have hrootLoc : root = w.disk.place intermediate := by
    rw [Disk.loc_of_stat hroot hfree₁, Disk.place_eq hloses.cwd]
  have hkept : w₁.disk.tree.data? (registryLoc (w.disk.place intermediate)) =
      w.disk.tree.data? (registryLoc (w.disk.place intermediate)) :=
    (hloses.data? _).resolve_right fun hlost => not_stale_registryLoc (hloc ▸ hlost.1)
  have hwrite : (Action.writeText (intermediate.child (registryStem ++ scriptSuffix))
      (registryText (registryOf intermediate (scripts.map (wrapperOf intermediate))).entries) encoding).runFrom
      { w₁ with stderr := text } = (.ok changed, w') := hwrite
  have ⟨h₁, h₂⟩ := ne_dots (endsWith_scriptSuffix registryStem)
  have hchanged := Action.writeText_changed hwrite hfree₁ hroot h₁ h₂
  rw [hchanged, hrootLoc]
  exact differs_congr hkept rfl

theorem rewritten_of_publish {p : Published} (hfree : w.disk.tree.LinkFree)
    (h : (publish settings s intermediate encoding).runFrom w = (.ok p, w')) :
    p.rewritten = p.files.countP fun f => w.disk.tree.differs w'.disk.tree (w.disk.place f) := by
  have ⟨scripts, count, w₁, changed, w₂, text, hscan, _, hc, ⟨_, _, hdir⟩, hr, hp, hw'⟩ := publish_ok h
  have ⟨hgains, hfree₁⟩ := publishClasses_linkFree hfree hc
  have hplace : w₁.disk.place intermediate = w.disk.place intermediate := Disk.place_eq hgains.cwd _
  have hclasses : count = (scripts.map (wrapperOf intermediate)).countP
      fun x => w.disk.tree.differs w'.disk.tree (w.disk.place x.generated) := by
    rw [count_of_publishClasses hfree hscan hc, List.countP_map, hw']
    apply List.countP_congr
    intro x hx
    have hgenerated : w.disk.place (wrapperOf intermediate x).generated =
        wrapperLoc (w.disk.place intermediate) (classOf x) := place_classPath _ _ _
    have hlast := wrapper_of_publishRegistry hfree₁ ⟨_, _, hdir⟩ hr hx
    rw [hplace] at hlast
    rw [Function.comp_apply, hgenerated]
    exact iff_of_eq (congrArg (· = true) (differs_congr rfl hlast.symm))
  have hlisted : changed = w.disk.tree.differs w'.disk.tree (w.disk.place (registryPath intermediate)) := by
    rw [publishRegistry_changed hfree₁ hdir hr, hplace, place_registryPath, hw']
    refine differs_congr ((hgains.tree.data? _).resolve_right fun hwritten => ?_) rfl
    have ⟨c, heq⟩ := hwritten.1
    exact wrapperLoc_ne_registryLoc heq.symm
  rw [hp, Published.files, List.countP_append, List.countP_map, List.countP_singleton, hclasses, hlisted]
  rfl

end

namespace Attempt

variable {a : Attempt} {p : Published}

/-- The same run once more, some time after it ended. What it changes has another time than what it finds. -/
def again (a : Attempt) (time : Int) : Attempt :=
  { a with world := { a.outcome.2 with disk := a.outcome.2.disk.aged time } }

/-- Directories that the run makes below the library may be listed, as they may where no listing is refused at all. There
are such directories only if the way to the root climbs up again. -/
def ListsMade (a : Attempt) : Prop :=
  ∀ names, a.after.isDir (names.reverse ++ a.libraryLoc) = true → a.before.isDir (names.reverse ++ a.libraryLoc) = false →
    a.world.disk.unlisted? (a.library.directory.descend names) = none

/-- The bytes of the files that a run generates. Those of a wrapper come of its script, and those of the registry of the
wrappers. -/
structure Generates (a : Attempt) (p : Published) (bytes : FilePath → List UInt8) : Prop where
  wrapper : ∀ x ∈ p.wrappers, ∃ source, a.before.data? (a.world.disk.place x.source) = some source ∧
    wrapperData a.encoding x.className source = .ok (bytes x.generated)
  registry : Charset.encodeAs a.encoding (registryText p.registry.entries) = .ok (bytes p.registry.path)

def written (a : Attempt) (f : FilePath) : List UInt8 :=
  (a.after.data? (a.world.disk.place f)).getD []

theorem written_eq {f : FilePath} {data : List UInt8} (h : a.after.data? (a.world.disk.place f) = some data) :
    a.written f = data := by
  rw [written, h, Option.getD_some]

theorem alters (a : Attempt) : a.world.disk.Changes (Alters fun _ => True) a.outcome.2.disk :=
  publish_alters a.settings a.library a.intermediate a.encoding a.world

theorem not_generated_of_below (hapart : a.Apart) {l : Loc} (hl : Below a.libraryLoc l) : ¬Generated a.root l :=
  fun hgenerated => not_below_of_apart hapart.1 hapart.2 hl hgenerated.below

/-- Where the way to the root does not climb, no directory is made below the library. -/
theorem listsMade_of_straight (hfree : a.before.LinkFree) (hapart : a.Apart) (hup : ".." ∉ a.intermediate.parts) :
    a.ListsMade := by
  intro names hdir hnot
  have hkeeping := (within_publish_keeping a.world.disk a.settings a.library a.intermediate a.encoding a.world).disk
  have ⟨_, hconfined⟩ := hkeeping ⟨rfl, hfree⟩
  have hbelow : Below a.libraryLoc (names.reverse ++ a.libraryLoc) := List.suffix_append _ _
  have hnew := hconfined.content? _ (not_below_of_apart hapart.1 hapart.2 hbelow)
  cases hnew with
  | inl hsame =>
    have hthere : a.before.isDir (names.reverse ++ a.libraryLoc) = true := by
      rw [isDir_iff_content?] at hdir ⊢
      exact hsame.symm.trans hdir
    cases hnot.symm.trans hthere
  | inr hmade =>
    have hroot : Below a.libraryLoc a.root := hbelow.trans (Disk.OnWay.below hmade.1 hup)
    exact absurd hroot hapart.1

/-- A run that leaves the library alone finds the same scripts in it afterwards. -/
theorem scan_outcome (hfree : a.before.LinkFree) (hwell : a.before.WellFormed) (hapart : a.Apart) (hmade : a.ListsMade)
    {scripts : List Script} (hscan : a.world.disk.scan a.library = .ok scripts) :
    a.outcome.2.disk.scan a.library = .ok scripts := by
  have ⟨_, htouches⟩ := publish_touches hfree a.outcome_eq
  apply Disk.scan_unaltered hfree hwell ⟨.refl _, rfl, rfl⟩ a.alters ?_ ?_ hscan
  · exact fun names hpath hnot => hmade names hpath.isDir_last hnot
  · intro names _
    have hbelow : Below a.libraryLoc (names.reverse ++ a.libraryLoc) := List.suffix_append _ _
    exact congrArg Option.isSome (htouches _ (not_generated_of_below hapart hbelow))

/-- After a run that succeeded, all that the next one is to bring about is there. -/
theorem upToDate (hfree : a.before.LinkFree) (hwell : a.before.WellFormed) (hapart : a.Apart) (hmade : a.ListsMade)
    (hok : a.result = .ok p) {scripts : List Script} (hscan : a.world.disk.scan a.library = .ok scripts) (time : Int) :
    UpToDate (a.again time).world.disk a.library a.intermediate a.encoding scripts := by
  have hsame : a.outcome.2.disk.SameContents (a.again time).world.disk := a.outcome.2.disk.sameContents_aged time
  have hfree' : a.outcome.2.disk.tree.LinkFree := a.alters.tree.linkFree hfree
  apply upToDate_of_publish hfree hscan ?_ ?_ (run_eq hok) hsame
  · exact hsame.tree.named (a.alters.tree.named hwell.allNamed)
  · exact hsame.scan hfree' (scan_outcome hfree hwell hapart hmade hscan)
  · intro n hthere
    have ⟨data, hdata⟩ := Option.isSome_iff_exists.mp hthere
    have ⟨_, _, he⟩ := get?_of_data? hdata
    exact hwell.named he
  · intro x hx hgenerated
    exact Disk.not_below_of_mem_scan hfree hwell hscan hapart.1 hapart.2 hx hgenerated.below

/-- A run that follows one that succeeded gives the same result with nothing written, and leaves the disk as it is. -/
theorem outcome_again (hfree : a.before.LinkFree) (hwell : a.before.WellFormed) (hapart : a.Apart) (hmade : a.ListsMade)
    (hok : a.result = .ok p) (time : Int) :
    ∃ text, (a.again time).outcome = (.ok { p with rewritten := 0 }, { (a.again time).world with stderr := text }) := by
  have ⟨_, scripts, hscan⟩ := publish_sourceSet (run_eq hok)
  have hready := upToDate hfree hwell hapart hmade hok hscan time
  have ⟨text, hagain⟩ := @UpToDate.publish a.settings _ _ _ _ _ hready
  have hcwd : (a.again time).world.disk.cwd = a.world.disk.cwd := a.alters.cwd
  refine ⟨text, ?_⟩
  rw [published_eq hscan (run_eq hok), ← hcwd]
  exact hagain

theorem wrappers_eq (hok : a.result = .ok p) {scripts : List Script} (hscan : a.world.disk.scan a.library = .ok scripts) :
    p.wrappers = scripts.map (wrapperOf a.intermediate) ∧
      p.registry = registryOf a.intermediate (scripts.map (wrapperOf a.intermediate)) := by
  have hset := published_eq hscan (run_eq hok)
  exact ⟨congrArg Published.wrappers hset, congrArg Published.registry hset⟩

theorem place_generated (a : Attempt) (x : Script) :
    a.world.disk.place (wrapperOf a.intermediate x).generated = wrapperLoc a.root (classOf x) :=
  place_classPath _ _ _

theorem nodup_places (hfree : a.before.LinkFree) (hok : a.result = .ok p) : (p.files.map a.world.disk.place).Nodup := by
  have ⟨scripts, hscan, hn, _⟩ := publish_succeeded hfree (run_eq hok)
  have ⟨hwrappers, hregistry⟩ := wrappers_eq hok hscan
  have hplaces : p.files.map a.world.disk.place =
      (scripts.map classOf).map (wrapperLoc a.root) ++ [registryLoc a.root] := by
    have hlast : a.world.disk.place p.registry.path = registryLoc a.root := by
      rw [hregistry]
      exact place_registryPath _ _
    have hfirst : (p.wrappers.map (·.generated)).map a.world.disk.place =
        (scripts.map classOf).map (wrapperLoc a.root) := by
      rw [hwrappers, List.map_map, List.map_map, List.map_map]
      exact List.map_congr_left fun x _ => a.place_generated x
    rw [Published.files, List.map_append, hfirst, List.map_singleton, hlast]
  rw [hplaces, List.nodup_append]
  have hclasses : ((scripts.map classOf).map (wrapperLoc a.root)).Nodup :=
    List.pairwise_map.mpr (hn.imp fun hne heq => hne (wrapperLoc_inj.mp heq))
  refine ⟨hclasses, by simp, ?_⟩
  intro l hl l' hl' heq
  have ⟨c, _, hc⟩ := List.mem_map.mp hl
  rw [List.mem_singleton] at hl'
  exact wrapperLoc_ne_registryLoc (hc.trans (heq.trans hl'))

/-- A tree holds the wrapper that comes of a script as the run found it. -/
def Current (a : Attempt) (t : FileTree) (x : Script) : Prop :=
  ∃ source data, a.before.data? (a.world.disk.place x.path) = some source ∧
    wrapperData a.encoding (classOf x) source = .ok data ∧ t.data? (wrapperLoc a.root (classOf x)) = some data

theorem source_of_comes (hfree : a.before.LinkFree) (hwell : a.before.WellFormed) (hapart : a.Apart)
    {scripts : List Script} (hscan : a.world.disk.scan a.library = .ok scripts) {x : Script} (hx : x ∈ scripts)
    {data : List UInt8} (h : ComesOf a.encoding a.intermediate scripts a.world.disk x data) :
    ∃ source, a.before.data? (a.world.disk.place x.path) = some source ∧
      wrapperData a.encoding (classOf x) source = .ok data := by
  have ⟨t₀, source, hgains, hsource, hdata⟩ := h
  have hbefore : t₀.data? (a.world.disk.place x.path) = a.before.data? (a.world.disk.place x.path) := by
    refine (hgains.data? _).resolve_right fun hwritten => ?_
    have ⟨z, _, hz⟩ := List.mem_map.mp hwritten.1
    exact Disk.not_below_of_mem_scan hfree hwell hscan hapart.1 hapart.2 hx (hz ▸ below_wrapperLoc _ _)
  exact ⟨source, hbefore.symm.trans hsource, hdata⟩

theorem current_of_written (hfree : a.before.LinkFree) (hwell : a.before.WellFormed) (hapart : a.Apart)
    {scripts : List Script} (hscan : a.world.disk.scan a.library = .ok scripts) {x : Script} (hx : x ∈ scripts)
    {t : FileTree} {data : List UInt8} (h : ComesOf a.encoding a.intermediate scripts a.world.disk x data)
    (hthere : t.data? (wrapperLoc a.root (classOf x)) = some data) : a.Current t x := by
  have ⟨source, hsource, hdata⟩ := source_of_comes hfree hwell hapart hscan hx h
  exact ⟨source, data, hsource, hdata, hthere⟩

/-- What a run generates is there in the end. -/
theorem exists_generates (hfree : a.before.LinkFree) (hwell : a.before.WellFormed) (hapart : a.Apart)
    (hok : a.result = .ok p) : ∃ bytes, a.Generates p bytes ∧
      ∀ f ∈ p.files, a.after.data? (a.world.disk.place f) = some (bytes f) := by
  obtain ⟨scripts, hscan, _, _, ⟨data, hdata, hlast⟩, hclasses, _⟩ := publish_succeeded hfree (run_eq hok)
  obtain ⟨hwrappers, hregistry⟩ := wrappers_eq hok hscan
  have hregistered : a.after.data? (a.world.disk.place p.registry.path) = some data := by
    have hpath : p.registry.path = registryPath a.intermediate := by rw [hregistry, registryOf]
    rw [hpath, place_registryPath]
    exact hlast
  have hwrapper : ∀ x ∈ p.wrappers, ∃ source data, a.before.data? (a.world.disk.place x.source) = some source ∧
      wrapperData a.encoding x.className source = .ok data ∧
      a.after.data? (a.world.disk.place x.generated) = some data := by
    intro y hy
    obtain ⟨x, hx, hxy⟩ := List.mem_map.mp (hwrappers ▸ hy)
    obtain ⟨data, hcomes, hthere⟩ := hclasses x hx
    obtain ⟨source, data, hsource, hencoded, hthere⟩ := current_of_written hfree hwell hapart hscan hx hcomes hthere
    rw [← hxy]
    refine ⟨source, data, hsource, hencoded, ?_⟩
    rw [a.place_generated]
    exact hthere
  refine ⟨a.written, ⟨?_, ?_⟩, ?_⟩
  · intro x hx
    obtain ⟨source, data, hsource, hencoded, hthere⟩ := hwrapper x hx
    exact ⟨source, hsource, (written_eq hthere).symm ▸ hencoded⟩
  · exact (written_eq hregistered).symm ▸ hdata
  · intro f hf
    rw [Published.files, List.mem_append, List.mem_singleton] at hf
    cases hf with
    | inl hmem =>
      obtain ⟨x, hx, heq⟩ := List.mem_map.mp hmem
      obtain ⟨_, data, _, _, hthere⟩ := hwrapper x hx
      rw [← heq, written_eq hthere, hthere]
    | inr heq => rw [heq, written_eq hregistered, hregistered]

/-- Publishing is idempotent. A run that follows one that succeeded has the same result, writes nothing and leaves the disk
as it is, times included; and each run counts the files that did not hold the bytes that it generates for them. -/
theorem publish_again (hfree : a.before.LinkFree) (hwell : a.before.WellFormed) (hapart : a.Apart)
    (hmade : ".." ∈ a.intermediate.parts → a.ListsMade) (hok : a.result = .ok p) :
    (∀ time, ∃ text,
        (a.again time).outcome = (.ok { p with rewritten := 0 }, { (a.again time).world with stderr := text })) ∧
      ∃ bytes, a.Generates p bytes ∧ (∀ f ∈ p.files, a.after.data? (a.world.disk.place f) = some (bytes f)) ∧
        (p.files.map a.world.disk.place).Nodup ∧
        p.rewritten = p.files.countP fun f => a.before.data? (a.world.disk.place f) ≠ some (bytes f) := by
  have hlists : a.ListsMade := by
    by_cases hup : ".." ∈ a.intermediate.parts
    · exact hmade hup
    · exact listsMade_of_straight hfree hapart hup
  have ⟨bytes, hgenerates, hthere⟩ := exists_generates hfree hwell hapart hok
  refine ⟨outcome_again hfree hwell hapart hlists hok, bytes, hgenerates, hthere, nodup_places hfree hok, ?_⟩
  rw [rewritten_of_publish hfree (run_eq hok)]
  apply List.countP_congr
  intro f hf
  rw [differs_iff, decide_eq_true_eq]
  exact iff_of_eq (congrArg (a.before.data? (a.world.disk.place f) ≠ ·) (hthere f hf))

end Attempt

/-- The project of the sample with a wrapper that an earlier run has left, in another encoding. -/
def outdatedTree : FileTree where
  entries := sampleTree.entries ++ [(["out", "p"], .dir .now), (["globalvars", "out", "p"], .dir .now),
    (["VarA.groovy", "globalvars", "out", "p"], .file [35, 10] (.known 0) .now)]
  nodup := by decide

theorem publish_again_outdatedTree : ∃ p, (sampleRun outdatedTree "utf-8-sig").result = .ok p ∧
    (∀ time, ∃ text, ((sampleRun outdatedTree "utf-8-sig").again time).outcome =
      (.ok { p with rewritten := 0 }, { ((sampleRun outdatedTree "utf-8-sig").again time).world with stderr := text })) ∧
    ∃ bytes, (sampleRun outdatedTree "utf-8-sig").Generates p bytes ∧
      (∀ f ∈ p.files, (sampleRun outdatedTree "utf-8-sig").after.data?
        ((sampleRun outdatedTree "utf-8-sig").world.disk.place f) = some (bytes f)) ∧
      (p.files.map (sampleRun outdatedTree "utf-8-sig").world.disk.place).Nodup ∧
      p.rewritten = p.files.countP fun f => (sampleRun outdatedTree "utf-8-sig").before.data?
        ((sampleRun outdatedTree "utf-8-sig").world.disk.place f) ≠ some (bytes f) := by
  have hok : (sampleRun outdatedTree "utf-8-sig").result.toOption.isSome = true := by decide +kernel
  have ⟨p, hp⟩ := Option.isSome_iff_exists.mp hok
  have hlinks : (sampleRun outdatedTree "utf-8-sig").before.LinkFree := show outdatedTree.LinkFree by decide
  have hwell : (sampleRun outdatedTree "utf-8-sig").before.WellFormed := show outdatedTree.WellFormed by decide
  exact ⟨p, ok_of_toOption hp,
    Attempt.publish_again hlinks hwell (apart_sampleRun _ _)
      (fun hup => absurd hup (by decide)) (ok_of_toOption hp)⟩

/-- A project with a directory of a long name beside the library. -/
def windingTree : FileTree where
  entries := [([], .dir .now), (["p"], .dir .now), ([Disk.longestName, "p"], .dir .now), (["vars", "p"], .dir .now),
    (["a.groovy", "vars", "p"], .file [35, 10] .now .now)]
  nodup := by decide +kernel

theorem wellFormed_windingTree : windingTree.WellFormed := by
  have hdirs : windingTree.isDir [] = true ∧ windingTree.isDir ["p"] = true ∧ windingTree.isDir ["vars", "p"] = true := by
    decide +kernel
  have hnames : FileName "p" ∧ FileName "vars" ∧ FileName "a.groovy" := by decide
  have hlong : FileName Disk.longestName := Disk.fileName_longestName
  rw [wellFormed_iff_entries]
  intro e he
  simp only [windingTree, List.mem_cons, List.not_mem_nil, or_false] at he
  rcases he with rfl | rfl | rfl | rfl | rfl
  · exact .inl rfl
  · exact .inr ⟨hdirs.1, hnames.1⟩
  · exact .inr ⟨hdirs.2.1, hlong⟩
  · exact .inr ⟨hdirs.2.1, hnames.2.1⟩
  · exact .inr ⟨hdirs.2.2, hnames.2.2⟩

/-- A run in that project. The way to the library goes into the long directory and up again, fifteen times. The way to the
root goes through a directory that the run makes in the library. -/
def windingRun : Attempt :=
  { sampleRun windingTree "utf-8" with
    library := ⟨⟨.slash, "p" :: (List.replicate 15 [Disk.longestName, ".."]).flatten ++ ["vars"]⟩, ["**/*.groovy"], [], none,
      none, .globalVars⟩
    intermediate := ⟨.slash, ["p", "vars", Disk.longestName, "..", "..", "out"]⟩ }

set_option maxRecDepth 100000 in
/-- Afterwards there is a directory in the library whose path is too long to list it. -/
theorem unlisted_windingRun :
    ((windingRun.again 0).world.disk.stat windingRun.library.directory).toOption = some (["vars", "p"], .dir (.known 0)) ∧
      (windingRun.again 0).world.disk.tree.isDir ["vars", "p"] = true ∧
      (windingRun.again 0).world.disk.tree.isDir [Disk.longestName, "vars", "p"] = true ∧
      (windingRun.again 0).world.disk.unlisted? (windingRun.library.directory.descend [Disk.longestName]) =
        some .ENAMETOOLONG := by
  decide +kernel

set_option maxRecDepth 100000 in
/-- A run that succeeds may have made a directory in the library at which the next one fails. -/
theorem publish_again_may_fail : ¬∀ (a : Attempt) (p : Published), a.before.LinkFree → a.before.WellFormed → a.Apart →
    a.result = .ok p → ∀ time, ∃ q, (a.again time).result = .ok q := by
  intro h
  have hfree : windingTree.LinkFree := by decide +kernel
  have hapart : windingRun.Apart :=
    show ¬Below windingRun.libraryLoc windingRun.root ∧ ¬Below windingRun.root windingRun.libraryLoc by decide +kernel
  have hok : windingRun.result.toOption.isSome = true := by decide +kernel
  have ⟨p, hp⟩ := Option.isSome_iff_exists.mp hok
  have ⟨q, hagain⟩ := h windingRun p hfree wellFormed_windingTree hapart (ok_of_toOption hp) 0
  have ⟨_, scripts, hscan⟩ := publish_sourceSet (Attempt.run_eq hagain)
  have ⟨hs, hdir, hmade, hlong⟩ := unlisted_windingRun
  have ⟨found, hfound, _⟩ := Disk.scripts_of_scan hscan (ok_of_toOption hs)
  have hpath : (windingRun.again 0).world.disk.IsDirPath ["vars", "p"] [Disk.longestName] := ⟨hdir, hmade⟩
  cases (Disk.listed_of_leaves hfound hpath).symm.trans hlong

end Library

end JavaStubs
