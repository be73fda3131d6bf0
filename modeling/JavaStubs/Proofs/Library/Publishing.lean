import JavaStubs.Proofs.Library.Registry

/-! What one run of publishing does to the files of a tree without links: whether it fails in writing classes, fails
later, or succeeds. -/
namespace JavaStubs.Library

open FileTree

section

variable {settings : Settings} {s : SourceSet} {intermediate : FilePath} {encoding : String} {w w' : World}

theorem stat_packageDir {scripts : List Script} {w₁ : World} {count : Nat}
    (hs : ∃ l m, w.disk.stat (packageDir intermediate) = .ok (l, .dir m))
    (h : (publishWrappers settings encoding (scripts.map (wrapperOf intermediate))).runFrom w = (.ok count, w₁)) :
    ∃ l m, w₁.disk.stat (packageDir intermediate) = .ok (l, .dir m) := by
  obtain ⟨l, m, hs⟩ := hs
  have hg := publishWrappers_gains settings encoding intermediate scripts w
  rw [h] at hg
  exact ⟨l, Disk.stat_dir_of_kept hs (hg.imp fun _ _ h => h.kept)⟩

variable (settings s intermediate encoding w)

/-- A run fails in writing classes, or it goes on to the registry and ends as that does. -/
theorem publish_cases :
    (∃ e w₁, (publishClasses settings s intermediate encoding).runFrom w = (.error e, w₁) ∧
        (publish settings s intermediate encoding).runFrom w = (.error e, w₁)) ∨
      ∃ scripts count w₁, w.disk.scan s = .ok scripts ∧ (scripts.map classOf).Nodup ∧
        (publishClasses settings s intermediate encoding).runFrom w =
          (.ok (scripts.map (wrapperOf intermediate), count), w₁) ∧
        (∃ l m, w₁.disk.stat (packageDir intermediate) = .ok (l, .dir m)) ∧
        ((∃ e w₂, (publishRegistry settings intermediate encoding (scripts.map (wrapperOf intermediate))).runFrom w₁ =
              (.error e, w₂) ∧
            (publish settings s intermediate encoding).runFrom w = (.error e, w₂)) ∨
          ∃ changed w₂ text,
            (publishRegistry settings intermediate encoding (scripts.map (wrapperOf intermediate))).runFrom w₁ =
              (.ok changed, w₂) ∧
            (publish settings s intermediate encoding).runFrom w =
              (.ok ⟨publishedSet s (intermediate.absolute w₂.disk.cwd), scripts.map (wrapperOf intermediate),
                registryOf intermediate (scripts.map (wrapperOf intermediate)), count + if changed then 1 else 0⟩,
                { w₂ with stderr := text })) := by
  unfold publish
  rcases hc : (publishClasses settings s intermediate encoding).runFrom w with ⟨r, w₁⟩
  cases r with
  | error e => exact .inl ⟨e, w₁, rfl, Acting.runFrom_bind_of_error hc⟩
  | ok made =>
    obtain ⟨wrappers, count⟩ := made
    obtain ⟨scripts, w₀, hscan, hn, rfl, -, hs, hrun⟩ := publishClasses_ok hc
    refine .inr ⟨scripts, count, w₁, hscan, hn, rfl, stat_packageDir hs hrun, ?_⟩
    rw [Acting.runFrom_bind_of_ok hc]
    rcases hr : (publishRegistry settings intermediate encoding (scripts.map (wrapperOf intermediate))).runFrom w₁ with
      ⟨r, w₂⟩
    cases r with
    | error e => exact .inl ⟨e, w₂, rfl, Acting.runFrom_bind_of_error hr⟩
    | ok changed =>
      obtain ⟨text, hlog⟩ := Log.runFrom_write settings ⟨.info, "globalvars", "transformed",
        [("variables", .int (scripts.map (wrapperOf intermediate)).length),
          ("rewritten", .int ↑(count + if changed then 1 else 0))]⟩ w₂
      refine .inr ⟨changed, w₂, text, rfl, ?_⟩
      rw [Acting.runFrom_bind_of_ok hr, Acting.runFrom_bind_of_ok (Action.runFrom_disk w₂),
        Acting.runFrom_bind_of_ok hlog]
      rfl

/-- A run that succeeds has written all classes and then the registry. -/
theorem publish_ok {settings : Settings} {s : SourceSet} {intermediate : FilePath} {encoding : String} {w w' : World}
    {p : Published} (h : (publish settings s intermediate encoding).runFrom w = (.ok p, w')) :
    ∃ scripts count w₁ changed w₂ text, w.disk.scan s = .ok scripts ∧ (scripts.map classOf).Nodup ∧
      (publishClasses settings s intermediate encoding).runFrom w =
        (.ok (scripts.map (wrapperOf intermediate), count), w₁) ∧
      (∃ l m, w₁.disk.stat (packageDir intermediate) = .ok (l, .dir m)) ∧
      (publishRegistry settings intermediate encoding (scripts.map (wrapperOf intermediate))).runFrom w₁ =
        (.ok changed, w₂) ∧
      p = ⟨publishedSet s (intermediate.absolute w₂.disk.cwd), scripts.map (wrapperOf intermediate),
        registryOf intermediate (scripts.map (wrapperOf intermediate)), count + if changed then 1 else 0⟩ ∧
      w' = { w₂ with stderr := text } := by
  cases publish_cases settings s intermediate encoding w with
  | inl hfailed =>
    have ⟨e, w₁, _, hrun⟩ := hfailed
    cases hrun.symm.trans h
  | inr hwritten =>
    have ⟨scripts, count, w₁, hscan, hnodup, hclasses, hdir, hend⟩ := hwritten
    cases hend with
    | inl hfailed =>
      have ⟨e, w₂, _, hrun⟩ := hfailed
      cases hrun.symm.trans h
    | inr hdone =>
      have ⟨changed, w₂, text, hregistry, hrun⟩ := hdone
      cases hrun.symm.trans h
      exact ⟨scripts, count, w₁, changed, w₂, text, hscan, hnodup, hclasses, hdir, hregistry, rfl, rfl⟩

/-- A run that fails has failed in writing classes, or in the registry's step after it had written all of them. -/
theorem publish_error {settings : Settings} {s : SourceSet} {intermediate : FilePath} {encoding : String} {w w' : World}
    {e : Failure} (h : (publish settings s intermediate encoding).runFrom w = (.error e, w')) :
    (publishClasses settings s intermediate encoding).runFrom w = (.error e, w') ∨
      ∃ scripts count w₁, w.disk.scan s = .ok scripts ∧ (scripts.map classOf).Nodup ∧
        (publishClasses settings s intermediate encoding).runFrom w =
          (.ok (scripts.map (wrapperOf intermediate), count), w₁) ∧
        (∃ l m, w₁.disk.stat (packageDir intermediate) = .ok (l, .dir m)) ∧
        (publishRegistry settings intermediate encoding (scripts.map (wrapperOf intermediate))).runFrom w₁ =
          (.error e, w') := by
  cases publish_cases settings s intermediate encoding w with
  | inl hfailed =>
    have ⟨e', w₁, hclasses, hrun⟩ := hfailed
    cases hrun.symm.trans h
    exact .inl hclasses
  | inr hwritten =>
    have ⟨scripts, count, w₁, hscan, hn, hclasses, hdir, hend⟩ := hwritten
    cases hend with
    | inl hfailed =>
      have ⟨e', w₂, hregistry, hrun⟩ := hfailed
      cases hrun.symm.trans h
      exact .inr ⟨scripts, count, w₁, hscan, hn, hclasses, hdir, hregistry⟩
    | inr hdone =>
      have ⟨_, _, _, _, hrun⟩ := hdone
      cases hrun.symm.trans h

theorem publish_cwd : ((publish settings s intermediate encoding).runFrom w).2.disk.cwd = w.disk.cwd := by
  have hclasses := (publishClasses_gains settings s intermediate encoding w).cwd
  rcases publish_cases settings s intermediate encoding w with
    ⟨e, w₁, hc, hrun⟩ | ⟨scripts, count, w₁, -, -, hc, ⟨l, m, hs⟩, hrest⟩
  · rw [hrun]
    rwa [hc] at hclasses
  · rw [hc] at hclasses
    have hregistry : ∀ {r w₂},
        (publishRegistry settings intermediate encoding (scripts.map (wrapperOf intermediate))).runFrom w₁ = (r, w₂) →
        w₂.disk.cwd = w.disk.cwd := by
      intro r w₂ hr
      obtain ⟨d, hloses, ⟨_, w₃, _, _, hr', -, hw, -⟩ | ⟨_, w₃, hr', hend⟩⟩ :=
        publishRegistry_spec settings encoding scripts hs
      · cases hr'.symm.trans hr
        exact (hw.cwd.trans hloses.cwd).trans hclasses
      · cases hr'.symm.trans hr
        have hcwd := hend.elim (·.cwd) (·.cwd)
        exact (hcwd.trans hloses.cwd).trans hclasses
    rcases hrest with ⟨e, w₂, hr, hrun⟩ | ⟨changed, w₂, text, hr, hrun⟩
    all_goals
      have hcwd := hregistry hr
      rw [hrun]
      exact hcwd

end

/-- The locations that publishing below a root may write or clear. -/
def Generated (root l : Loc) : Prop :=
  l = registryLoc root ∨ ∃ n, Text.endsWith n scriptSuffix = true ∧ l = n :: package :: root

theorem generated_wrapperLoc (root : Loc) (c : String) : Generated root (wrapperLoc root c) :=
  .inr ⟨_, endsWith_scriptSuffix c, rfl⟩

theorem Generated.below {root l : Loc} (h : Generated root l) : Below root l := by
  rcases h with rfl | ⟨n, -, rfl⟩
  · exact below_registryLoc root
  · exact (List.suffix_cons _ _).trans (List.suffix_cons _ _)

theorem Stale.generated {root l : Loc} {scripts : List Script} (h : Stale (package :: root) scripts l) :
    Generated root l := by
  obtain ⟨n, hn, -, rfl⟩ := h
  exact .inr ⟨n, hn, rfl⟩

theorem not_stale_registryLoc {root : Loc} {scripts : List Script} :
    ¬Stale (package :: root) scripts (registryLoc root) := by
  rintro ⟨n, -, -, h⟩
  have := congrArg List.length h
  simp [registryLoc] at this

theorem stale_wrapperLoc {root : Loc} {scripts : List Script} {c : String} :
    Stale (package :: root) scripts (wrapperLoc root c) ↔ ∀ s ∈ scripts, classOf s ≠ c := by
  constructor
  · rintro ⟨n, -, hs, h⟩ s hmem rfl
    exact hs s hmem (List.cons.inj h).1.symm
  · intro h
    refine ⟨_, endsWith_scriptSuffix c, fun s hs heq => h s hs ?_, rfl⟩
    exact (String.append_left_inj _).1 heq.symm

section

variable {settings : Settings} {s : SourceSet} {intermediate : FilePath} {encoding : String} {w w' : World}

/-- A library that was published had a directory to scan, and the set in its place has the intermediate root. -/
theorem publish_sourceSet {p : Published} (h : (publish settings s intermediate encoding).runFrom w = (.ok p, w')) :
    p.sourceSet = publishedSet s (intermediate.absolute w.disk.cwd) ∧ ∃ scripts, w.disk.scan s = .ok scripts := by
  have hcwd := publish_cwd settings s intermediate encoding w
  rw [h] at hcwd
  obtain ⟨scripts, count, w₁, changed, w₂, text, hscan, -, -, -, -, rfl, rfl⟩ := publish_ok h
  exact ⟨by rw [← hcwd], scripts, hscan⟩

theorem publishClasses_linkFree (hfree : w.disk.tree.LinkFree) {r : Except Failure (List Wrapper × Nat)}
    (h : (publishClasses settings s intermediate encoding).runFrom w = (r, w')) :
    w.disk.Changes (Gains fun l => ∃ c, l = wrapperLoc (w.disk.place intermediate) c) w'.disk ∧
      w'.disk.tree.LinkFree := by
  have hg := publishClasses_gains settings s intermediate encoding w
  rw [h] at hg
  exact ⟨hg.imp fun _ _ h => h.mono fun l hl => hl hfree, hg.tree.linkFree hfree⟩

def registryData (encoding : String) (intermediate : FilePath) (scripts : List Script) : Except CharsetError (List UInt8) :=
  Charset.encodeAs encoding (registryText (registryOf intermediate (scripts.map (wrapperOf intermediate))).entries)

/-- The writing of the registry of some scripts was broken off. A beginning of it is there, and the failure names its path. -/
def RegistryBegun (encoding : String) (intermediate : FilePath) (scripts : List Script) (root : Loc) (t' : FileTree)
    (e : Failure) : Prop :=
  ∃ data arrived errno, registryData encoding intermediate scripts = .ok data ∧
    e = .stub (.cannotWrite (registryPath intermediate) ⟨errno, none⟩) ∧
    t'.data? (registryLoc root) = some (data.take arrived)

theorem registryBegun_of_brokenOff {scripts : List Script} {d d' : Disk} {e : Failure} (hfree : d.tree.LinkFree)
    (h : Action.BrokenOff (registryPath intermediate)
      (registryText (registryOf intermediate (scripts.map (wrapperOf intermediate))).entries) encoding d d' e) :
    RegistryBegun encoding intermediate scripts (d.place intermediate) d'.tree e ∧
      ∃ bytes, d.Changes (Writes (registryLoc (d.place intermediate)) bytes) d' := by
  have ⟨data, errno, hdata, he, _, hbroken⟩ := h
  have ⟨arrived, hwrites⟩ := hbroken.writes hfree
  rw [place_registryPath] at hwrites
  exact ⟨⟨data, arrived, errno, hdata, he, data?_eq_some.mpr hwrites.tree.there⟩, _, hwrites⟩

/-- The registry's step in a tree without links: stale wrappers are gone, or some of them, and the registry is
written in full, in part, or not. -/
theorem publishRegistry_linkFree {scripts : List Script} {r : Except Failure Bool}
    (hfree : w.disk.tree.LinkFree) (hs : ∃ l m, w.disk.stat (packageDir intermediate) = .ok (l, .dir m))
    (h : (publishRegistry settings intermediate encoding (scripts.map (wrapperOf intermediate))).runFrom w = (r, w')) :
    w'.disk.tree.LinkFree ∧ w'.disk.cwd = w.disk.cwd ∧ w'.disk.rules = w.disk.rules ∧
      ∃ d, w.disk.Loses (Stale (package :: w.disk.place intermediate) scripts) d ∧
        ((∃ changed data, r = .ok changed ∧
            Charset.encodeAs encoding
              (registryText (registryOf intermediate (scripts.map (wrapperOf intermediate))).entries) = .ok data ∧
            d.Changes (Writes (registryLoc (w.disk.place intermediate)) data) w'.disk ∧
            (w.disk.unlisted? (packageDir intermediate) = none →
              ∀ n, FileName n → Stale (package :: w.disk.place intermediate) scripts
                (n :: package :: w.disk.place intermediate) →
                d.tree.data? (n :: package :: w.disk.place intermediate) = none)) ∨
          ∃ e, r = .error e ∧ (d.Changes MoreDirs w'.disk ∨
            RegistryBegun encoding intermediate scripts (w.disk.place intermediate) w'.disk.tree e ∧
              ∃ bytes, d.Changes (Writes (registryLoc (w.disk.place intermediate)) bytes) w'.disk)) := by
  obtain ⟨l, m, hs⟩ := hs
  obtain rfl : l = package :: w.disk.place intermediate := by
    rw [Disk.loc_of_stat hs hfree, place_packageDir]
  obtain ⟨d, hloses, ⟨changed, w₁, l, data, hr, hdata, hw, ⟨m', a, hreg⟩, hall⟩ | ⟨e, w₁, hr, hm | hbroken⟩⟩ :=
    publishRegistry_spec settings encoding scripts hs
  · cases hr.symm.trans h
    have hfree' := hw.tree.linkFree (hloses.linkFree hfree)
    have hl : l = registryLoc (w.disk.place intermediate) := by
      rw [Disk.loc_of_stat hreg hfree', Disk.place_eq (hw.cwd.trans hloses.cwd), place_registryPath]
    subst hl
    exact ⟨hfree', hw.cwd.trans hloses.cwd, hw.rules.trans hloses.rules, d, hloses,
      .inl ⟨changed, data, rfl, hdata, hw, hall⟩⟩
  · cases hr.symm.trans h
    exact ⟨hm.tree.linkFree (hloses.linkFree hfree), hm.cwd.trans hloses.cwd, hm.rules.trans hloses.rules, d,
      hloses, .inr ⟨e, rfl, .inl hm⟩⟩
  · cases hr.symm.trans h
    have ⟨hbegun, bytes, hw⟩ := registryBegun_of_brokenOff (hloses.linkFree hfree) hbroken
    rw [Disk.place_eq hloses.cwd] at hbegun hw
    exact ⟨hw.tree.linkFree (hloses.linkFree hfree), hw.cwd.trans hloses.cwd, hw.rules.trans hloses.rules, d, hloses,
      .inr ⟨e, rfl, .inr ⟨hbegun, bytes, hw⟩⟩⟩

/-- The registry's step leaves the wrappers of its scripts as they are, since they are not stale. -/
theorem wrapper_of_publishRegistry {scripts : List Script} {r : Except Failure Bool} (hfree : w.disk.tree.LinkFree)
    (hs : ∃ l m, w.disk.stat (packageDir intermediate) = .ok (l, .dir m))
    (h : (publishRegistry settings intermediate encoding (scripts.map (wrapperOf intermediate))).runFrom w = (r, w'))
    {x : Script} (hx : x ∈ scripts) :
    w'.disk.tree.data? (wrapperLoc (w.disk.place intermediate) (classOf x)) =
      w.disk.tree.data? (wrapperLoc (w.disk.place intermediate) (classOf x)) := by
  have ⟨_, _, _, d, hloses, hend⟩ := publishRegistry_linkFree hfree hs h
  have hkept := (hloses.data? (wrapperLoc (w.disk.place intermediate) (classOf x))).resolve_right fun hlost =>
    stale_wrapperLoc.mp hlost.1 x hx rfl
  rcases hend with ⟨_, _, _, _, hwrites, _⟩ | ⟨_, _, hmore | ⟨_, _, hwrites⟩⟩
  · rw [hwrites.tree.data?, if_neg wrapperLoc_ne_registryLoc, hkept]
  · rw [hmore.tree.data?, hkept]
  · rw [hwrites.tree.data?, if_neg wrapperLoc_ne_registryLoc, hkept]

/-- A run changes no file but generated ones and makes no link, whether it fails or not. -/
theorem publish_touches (hfree : w.disk.tree.LinkFree) {r : Except Failure Published}
    (h : (publish settings s intermediate encoding).runFrom w = (r, w')) :
    w'.disk.tree.LinkFree ∧
      ∀ l, ¬Generated (w.disk.place intermediate) l → w'.disk.tree.data? l = w.disk.tree.data? l := by
  have hclasses : ∀ {w₁ r}, (publishClasses settings s intermediate encoding).runFrom w = (r, w₁) →
      ∀ l, ¬Generated (w.disk.place intermediate) l → w₁.disk.tree.data? l = w.disk.tree.data? l := by
    intro w₁ r hc l hl
    rcases (publishClasses_linkFree hfree hc).1.tree.data? l with he | ⟨⟨c, rfl⟩, -⟩
    · exact he
    · exact absurd (generated_wrapperLoc _ c) hl
  have hregistry : ∀ {w₁ w₂ : World} {scripts : List Script} {r}, w₁.disk.tree.LinkFree →
      (∃ l m, w₁.disk.stat (packageDir intermediate) = .ok (l, .dir m)) →
      (publishRegistry settings intermediate encoding (scripts.map (wrapperOf intermediate))).runFrom w₁ = (r, w₂) →
      w₂.disk.tree.LinkFree ∧
        ∀ l, ¬Generated (w₁.disk.place intermediate) l → w₂.disk.tree.data? l = w₁.disk.tree.data? l := by
    intro w₁ w₂ scripts r hfree₁ hs hr
    obtain ⟨hfree₂, -, -, d, hloses, hend⟩ := publishRegistry_linkFree hfree₁ hs hr
    refine ⟨hfree₂, fun l hl => ?_⟩
    have hd : d.tree.data? l = w₁.disk.tree.data? l :=
      (hloses.data? l).resolve_right fun h => hl h.1.generated
    rcases hend with ⟨changed, data, -, -, hw, -⟩ | ⟨e, -, hm | ⟨-, bytes, hw⟩⟩
    · rw [hw.tree.data? l, if_neg fun h => hl (.inl h), hd]
    · rw [hm.tree.data? l, hd]
    · rw [hw.tree.data? l, if_neg fun h => hl (.inl h), hd]
  rcases publish_cases settings s intermediate encoding w with
    ⟨e, w₁, hc, hrun⟩ | ⟨scripts, count, w₁, -, -, hc, hs, hrest⟩
  · cases hrun.symm.trans h
    exact ⟨(publishClasses_linkFree hfree hc).2, hclasses hc⟩
  · obtain ⟨hg, hfree₁⟩ := publishClasses_linkFree hfree hc
    have hplace : w₁.disk.place intermediate = w.disk.place intermediate := Disk.place_eq hg.cwd _
    rcases hrest with ⟨e, w₂, hr, hrun⟩ | ⟨changed, w₂, text, hr, hrun⟩
    all_goals
      cases hrun.symm.trans h
      obtain ⟨hfree₂, hsame⟩ := hregistry hfree₁ hs hr
      rw [hplace] at hsame
      exact ⟨hfree₂, fun l hl => (hsame l hl).trans (hclasses hc l hl)⟩

theorem publishRegistry_failed {scripts : List Script} {e : Failure} (hfree : w.disk.tree.LinkFree)
    (hs : ∃ l m, w.disk.stat (packageDir intermediate) = .ok (l, .dir m))
    (h : (publishRegistry settings intermediate encoding (scripts.map (wrapperOf intermediate))).runFrom w =
      (.error e, w')) (l : Loc) :
    w'.disk.tree.data? l = w.disk.tree.data? l ∨
      (Stale (package :: w.disk.place intermediate) scripts l ∧ w'.disk.tree.data? l = none) ∨
      (l = registryLoc (w.disk.place intermediate) ∧
        RegistryBegun encoding intermediate scripts (w.disk.place intermediate) w'.disk.tree e) := by
  have ⟨_, _, _, d, hloses, hend⟩ := publishRegistry_linkFree hfree hs h
  have hlost := hloses.data? l
  rcases hend with ⟨_, _, hok, _⟩ | ⟨e', he, hmore | ⟨hbegun, _, hwrites⟩⟩
  · cases hok
  · rw [hmore.tree.data?]
    exact hlost.imp_right .inl
  · cases he
    by_cases hl : l = registryLoc (w.disk.place intermediate)
    · exact .inr (.inr ⟨hl, hbegun⟩)
    · rw [hwrites.tree.data?, if_neg hl]
      exact hlost.imp_right .inl

theorem registry_of_publishClasses {w₁ : World} {r : Except Failure (List Wrapper × Nat)} (hfree : w.disk.tree.LinkFree)
    (hc : (publishClasses settings s intermediate encoding).runFrom w = (r, w₁)) :
    w₁.disk.tree.data? (registryLoc (w.disk.place intermediate)) =
      w.disk.tree.data? (registryLoc (w.disk.place intermediate)) := by
  have ⟨hgains, _⟩ := publishClasses_linkFree hfree hc
  rcases hgains.tree.data? (registryLoc (w.disk.place intermediate)) with he | ⟨⟨c, hl⟩, -⟩
  · exact he
  · exact absurd hl.symm wrapperLoc_ne_registryLoc

/-- A run that fails leaves the registry as it was, unless it was the writing of the registry that was broken off; all wrappers
are there then. A wrapper is lost only if all wrappers of the run were written and it is none of them. -/
theorem publish_failed (hfree : w.disk.tree.LinkFree) {e : Failure}
    (h : (publish settings s intermediate encoding).runFrom w = (.error e, w')) :
    (w'.disk.tree.data? (registryLoc (w.disk.place intermediate)) =
        w.disk.tree.data? (registryLoc (w.disk.place intermediate)) ∨
      ∃ scripts, w.disk.scan s = .ok scripts ∧
        RegistryBegun encoding intermediate scripts (w.disk.place intermediate) w'.disk.tree e ∧
        ∀ x ∈ scripts, (w'.disk.tree.data? (wrapperLoc (w.disk.place intermediate) (classOf x))).isSome = true) ∧
      ∀ c, (w.disk.tree.data? (wrapperLoc (w.disk.place intermediate) c)).isSome = true →
        (w'.disk.tree.data? (wrapperLoc (w.disk.place intermediate) c)).isSome = true ∨
          ∃ wrappers count w₁,
            (publishClasses settings s intermediate encoding).runFrom w = (.ok (wrappers, count), w₁) ∧
            ∀ x ∈ wrappers, x.className ≠ c := by
  cases publish_error h with
  | inl hc =>
    have ⟨hgains, _⟩ := publishClasses_linkFree hfree hc
    exact ⟨.inl (registry_of_publishClasses hfree hc), fun c hc' => .inl (hgains.tree.isSome hc')⟩
  | inr hwritten =>
    have ⟨scripts, count, w₁, hscan, _, hc, hs, hr⟩ := hwritten
    have ⟨hgains, hfree₁⟩ := publishClasses_linkFree hfree hc
    have hplace : w₁.disk.place intermediate = w.disk.place intermediate := Disk.place_eq hgains.cwd _
    have hlost := publishRegistry_failed hfree₁ hs hr
    rw [hplace] at hlost
    constructor
    · rcases hlost (registryLoc (w.disk.place intermediate)) with hsame | hgone | ⟨-, hbegun⟩
      · exact .inl (hsame.trans (registry_of_publishClasses hfree hc))
      · exact absurd hgone.1 not_stale_registryLoc
      · refine .inr ⟨scripts, hscan, hbegun, fun x hx => ?_⟩
        have hkept := wrapper_of_publishRegistry hfree₁ hs hr hx
        obtain ⟨data, -, hthere⟩ := (publishClasses_each hfree hscan hc x hx).data? (by simp)
        rw [hplace] at hkept
        rw [hkept, hthere]
        rfl
    · intro c hsome
      rcases hlost (wrapperLoc (w.disk.place intermediate) c) with hsame | hgone | ⟨hregistry, -⟩
      · rw [hsame]
        exact .inl (hgains.tree.isSome hsome)
      · refine .inr ⟨_, count, w₁, hc, fun x hx => ?_⟩
        have ⟨script, hmem, hwrapper⟩ := List.mem_map.mp hx
        rw [← hwrapper]
        exact stale_wrapperLoc.mp hgone.1 script hmem
      · exact absurd hregistry wrapperLoc_ne_registryLoc

/-- A run that succeeds leaves one wrapper for each script and the registry of all of them. -/
theorem publish_succeeded (hfree : w.disk.tree.LinkFree) {p : Published}
    (h : (publish settings s intermediate encoding).runFrom w = (.ok p, w')) :
    ∃ scripts, w.disk.scan s = .ok scripts ∧ (scripts.map classOf).Nodup ∧
      p.registry = registryOf intermediate (scripts.map (wrapperOf intermediate)) ∧
      (∃ data, Charset.encodeAs encoding (registryText p.registry.entries) = .ok data ∧
        w'.disk.tree.data? (registryLoc (w.disk.place intermediate)) = some data) ∧
      (∀ x ∈ scripts, ∃ data, ComesOf encoding intermediate scripts w.disk x data ∧
        w'.disk.tree.data? (wrapperLoc (w.disk.place intermediate) (classOf x)) = some data) ∧
      (w.disk.unlisted? (packageDir intermediate) = none →
        ∀ n, Stale (package :: w.disk.place intermediate) scripts (n :: package :: w.disk.place intermediate) →
          ((w.disk.tree.data? (n :: package :: w.disk.place intermediate)).isSome = true → FileName n) →
          w'.disk.tree.data? (n :: package :: w.disk.place intermediate) = none) := by
  obtain ⟨scripts, count, w₁, changed, w₂, text, hscan, hn, hc, hs, hr, rfl, rfl⟩ := publish_ok h
  obtain ⟨hg, hfree₁⟩ := publishClasses_linkFree hfree hc
  obtain ⟨-, -, -, d, hloses, hend⟩ := publishRegistry_linkFree hfree₁ hs hr
  rw [Disk.place_eq hg.cwd, Disk.unlisted?_eq hg.rules] at hend
  rw [Disk.place_eq hg.cwd] at hloses
  rcases hend with ⟨changed', data, -, hdata, hw, hall⟩ | ⟨e, hr, -⟩
  · refine ⟨scripts, hscan, hn, rfl, ⟨data, hdata, data?_eq_some.2 hw.tree.there⟩, ?_, ?_⟩
    · intro x hx
      obtain ⟨data', hcomes, hthere⟩ := (publishClasses_each hfree hscan hc x hx).data? (by simp)
      have hkept := wrapper_of_publishRegistry hfree₁ hs hr hx
      rw [Disk.place_eq hg.cwd] at hkept
      exact ⟨data', hcomes, hkept.trans hthere⟩
    · intro hlist n hstale hname
      rw [hw.tree.data?, if_neg fun heq => not_stale_registryLoc (heq ▸ hstale)]
      by_cases hsome : (w.disk.tree.data? (n :: package :: w.disk.place intermediate)).isSome = true
      · exact hall hlist n (hname hsome) hstale
      · -- what is not there and is no wrapper of the run does not come to be there
        have hgains := publishClasses_gains_scripts settings s intermediate encoding w
        rw [hc] at hgains
        have hkept := (hgains.tree.data? (n :: package :: w.disk.place intermediate)).resolve_right fun hgained => by
          obtain ⟨scripts', hscan', hmem⟩ := hgained.1 hfree
          cases hscan.symm.trans hscan'
          obtain ⟨x, hx, heq⟩ := List.mem_map.1 hmem
          rw [← heq] at hstale
          exact stale_wrapperLoc.1 hstale x hx rfl
        rcases hloses.data? (n :: package :: w.disk.place intermediate) with he | ⟨-, he⟩
        · rw [he, hkept]
          simpa using hsome
        · exact he
  · cases hr

end

end JavaStubs.Library
