import JavaStubs.Library.Publish
import JavaStubs.Proofs.Disk.Lasting
import JavaStubs.Proofs.Library.Places
import JavaStubs.Proofs.Run.Writing

/-! Writing the wrapper classes of a library: what a run leaves if it succeeds, and what if it stops on the way. -/
namespace JavaStubs.Library

open FileTree

def wrapperData (encoding className : String) (source : List UInt8) : Except CharsetError (List UInt8) := do
  let body ← bodyOf encoding source
  Charset.encodeAs encoding (wrapperText className body)

def wrapperLocs (root : Loc) (scripts : List Script) : List Loc :=
  scripts.map fun s => wrapperLoc root (classOf s)

theorem readBody_ok {d : Disk} {p : FilePath} {encoding : String} {body : List String}
    (h : readBody d p encoding = .ok body) :
    ∃ l source m a, d.stat p = .ok (l, .file source m a) ∧ bodyOf encoding source = .ok body := by
  unfold readBody at h
  split at h
  · cases h
  split at h
  · cases h
  · cases h
  · next source hread =>
    obtain ⟨l, m, a, hs⟩ := Disk.stat_of_read hread
    refine ⟨l, source, m, a, hs, ?_⟩
    cases hb : bodyOf encoding source with
    | error e =>
      rw [hb] at h
      cases h
    | ok body' =>
      rw [hb] at h
      cases h
      rfl

theorem readBody_of_stat {d : Disk} {p : FilePath} {encoding : String} {body : List String} {l : Loc}
    {source : List UInt8} {m a : Stamp} (h : d.stat p = .ok (l, .file source m a))
    (hbody : bodyOf encoding source = .ok body) : readBody d p encoding = .ok body := by
  have hnul : holdsNul encoding = false := by
    rw [← Bool.not_eq_true]
    intro hnul
    rw [bodyOf, Charset.named, if_pos hnul] at hbody
    cases hbody
  rw [readBody, if_neg (by simp only [hnul, Bool.false_eq_true, not_false_iff]), Disk.read_of_stat h]
  dsimp only
  rw [hbody, mapError_ok]

theorem wrapperData_ok {encoding className : String} {source data : List UInt8}
    (h : wrapperData encoding className source = .ok data) :
    ∃ body, bodyOf encoding source = .ok body ∧ Charset.encodeAs encoding (wrapperText className body) = .ok data := by
  unfold wrapperData at h
  cases hbody : bodyOf encoding source with
  | error e =>
    rw [hbody] at h
    cases h
  | ok body =>
    rw [hbody] at h
    exact ⟨body, rfl, h⟩

theorem head?_of_wrapperText {name : String} {body : List String} {data : List UInt8}
    (h : Charset.encodeAs "utf-8" (wrapperText name body) = .ok data) : data.head? = some 112 := by
  have hnamed : Charset.named true "utf-8" = .ok .utf8 := ok_of_toOption (by decide +kernel)
  rw [Charset.encodeAs, hnamed, wrapperText, String.toList_ofList] at h
  rw [← Except.ok.inj h]
  rfl

/-- Writing a wrapper was broken off: a beginning of what comes of its script has arrived, and the failure names its path. -/
def BrokeOff (encoding : String) (x : Wrapper) (d d' : Disk) (e : Failure) : Prop :=
  ∃ l source m a data errno, d.stat x.source = .ok (l, .file source m a) ∧
    wrapperData encoding x.className source = .ok data ∧ e = .stub (.cannotWrite x.generated ⟨errno, none⟩) ∧
    d.Broken d' x.generated data errno

/-- A wrapper is written from its script, or nothing but directories is new, or writing it was broken off. -/
theorem publishWrapper_spec (settings : Settings) (encoding : String) (x : Wrapper) (w : World) :
    (∃ changed w' l data, (publishWrapper settings encoding x).runFrom w = (.ok changed, w') ∧
        w.disk.Changes (Writes l data) w'.disk ∧ (∃ m a, w'.disk.stat x.generated = .ok (l, .file data m a)) ∧
        ∃ l₀ source m a, w.disk.stat x.source = .ok (l₀, .file source m a) ∧
          wrapperData encoding x.className source = .ok data) ∨
      ∃ e w', (publishWrapper settings encoding x).runFrom w = (.error e, w') ∧
        (w.disk.Changes MoreDirs w'.disk ∨ BrokeOff encoding x w.disk w'.disk e) := by
  unfold publishWrapper
  rcases hb : readBody w.disk x.source encoding with e | body
  · refine .inr ⟨e, w, ?_, .inl ⟨.refl _, rfl, rfl⟩⟩
    rw [Acting.runFrom_bind, Action.runFrom_look, hb]
  rw [Acting.runFrom_bind, Action.runFrom_look, hb]
  dsimp only
  obtain ⟨l₀, source, m₀, a₀, hs₀, hbody⟩ := readBody_ok hb
  rcases Action.runFrom_writeText x.generated (wrapperText x.className body) encoding w with
    ⟨changed, data, l, d, hr, hdata, hw, hs⟩ | ⟨e, d, hr, hend⟩
  · rw [Acting.runFrom_bind_of_ok hr]
    obtain ⟨text, hlog⟩ := Log.runFrom_write settings ⟨.debug, "globalvars", "wrapper",
      [("variable", .text x.name), ("path", .text x.generated.text)]⟩ { w with disk := d }
    rw [Acting.runFrom_bind_of_ok hlog]
    refine .inl ⟨changed, _, l, data, rfl, hw, hs, l₀, source, m₀, a₀, hs₀, ?_⟩
    rw [wrapperData, hbody]
    exact hdata
  · refine .inr ⟨e, _, Acting.runFrom_bind_of_error hr, hend.imp_right ?_⟩
    rintro ⟨data, errno, hdata, rfl, -, hbroken⟩
    refine ⟨l₀, source, m₀, a₀, data, errno, hs₀, ?_, rfl, hbroken⟩
    rw [wrapperData, hbody]
    exact hdata

/-- However it ends, writing a wrapper touches no other file. -/
theorem publishWrapper_gains (settings : Settings) (encoding : String) (intermediate : FilePath) (s : Script) (w : World) :
    w.disk.Changes (Gains fun l => w.disk.tree.LinkFree → l = wrapperLoc (w.disk.place intermediate) (classOf s))
      ((publishWrapper settings encoding (wrapperOf intermediate s)).runFrom w).2.disk := by
  have hwrites : ∀ {d l data m a}, w.disk.Changes (Writes l data) d →
      d.stat (wrapperOf intermediate s).generated = .ok (l, .file data m a) →
      w.disk.Changes (Gains fun l => w.disk.tree.LinkFree → l = wrapperLoc (w.disk.place intermediate) (classOf s)) d := by
    intro d l data m a hw hs
    refine hw.imp fun _ _ h => h.gains.mono fun l' hl' hfree => ?_
    rw [hl', Disk.loc_of_stat hs (hw.tree.linkFree hfree), Disk.place_eq hw.cwd]
    exact place_classPath _ _ _
  rcases publishWrapper_spec settings encoding (wrapperOf intermediate s) w with
    ⟨changed, w₁, l, data, hr, hw, ⟨m, a, hs⟩, -⟩ | ⟨e, w₁, hr, hmore | hbroken⟩
  · rw [hr]
    exact hwrites hw hs
  · rw [hr]
    exact hmore.imp fun _ _ h => h.gains
  · have ⟨_, _, _, _, _, _, _, _, _, l, arrived, _, hw, m, a, hs⟩ := hbroken
    rw [hr]
    exact hwrites hw hs

section

variable (settings : Settings) (encoding : String) (intermediate : FilePath) (scripts : List Script)

/-- However far it gets, writing wrappers touches no file but the wrappers. -/
theorem publishWrappers_gains (w : World) :
    w.disk.Changes
      (Gains fun l => w.disk.tree.LinkFree → l ∈ wrapperLocs (w.disk.place intermediate) scripts)
      ((publishWrappers settings encoding (scripts.map (wrapperOf intermediate))).runFrom w).2.disk := by
  induction scripts generalizing w with
  | nil => exact ⟨.refl _, rfl, rfl⟩
  | cons s ss ih =>
    rw [List.map_cons, publishWrappers]
    have hone := publishWrapper_gains settings encoding intermediate s w
    rcases hr : (publishWrapper settings encoding (wrapperOf intermediate s)).runFrom w with ⟨r, w₁⟩
    rw [hr] at hone
    have hfirst : w.disk.Changes (Gains fun l =>
        w.disk.tree.LinkFree → l ∈ wrapperLocs (w.disk.place intermediate) (s :: ss)) w₁.disk :=
      hone.imp fun _ _ h => h.mono fun l' hl' hfree => (hl' hfree) ▸ List.mem_cons_self
    cases r with
    | error e =>
      rw [Acting.runFrom_bind_of_error hr]
      exact hfirst
    | ok changed =>
      have hrest : w₁.disk.Changes (Gains fun l =>
          w.disk.tree.LinkFree → l ∈ wrapperLocs (w.disk.place intermediate) (s :: ss)) _ :=
        (ih w₁).imp fun _ _ h => h.mono fun l' hl' hfree => by
          rw [Disk.place_eq hone.cwd] at hl'
          exact List.mem_cons_of_mem _ (hl' (hone.tree.linkFree hfree))
      rw [Acting.runFrom_bind_of_ok hr, Acting.runFrom_bind]
      rcases hrun : (publishWrappers settings encoding (ss.map (wrapperOf intermediate))).runFrom w₁ with ⟨r, w₂⟩
      rw [hrun] at hrest
      cases r <;> exact hfirst.comp hrest .trans

theorem publishWrappers_cons_ok {s : Script} {ss : List Script} {w w' : World} {count : Nat}
    (h : (publishWrappers settings encoding ((s :: ss).map (wrapperOf intermediate))).runFrom w = (.ok count, w')) :
    ∃ w₁ count₁ l data, w.disk.Changes (Writes l data) w₁.disk ∧
      (∃ m a, w₁.disk.stat (classPath intermediate (classOf s)) = .ok (l, .file data m a)) ∧
      (∃ l₀ source m a, w.disk.stat s.path = .ok (l₀, .file source m a) ∧
        wrapperData encoding (classOf s) source = .ok data) ∧
      (publishWrappers settings encoding (ss.map (wrapperOf intermediate))).runFrom w₁ = (.ok count₁, w') := by
  rw [List.map_cons, publishWrappers] at h
  obtain ⟨changed, w₁, h₁, h⟩ := Acting.bind_ok h
  obtain ⟨count₁, w₂, h₂, h⟩ := Acting.bind_ok h
  cases h
  rcases publishWrapper_spec settings encoding (wrapperOf intermediate s) w with
    ⟨changed', w₁', l, data, hr, hw, hs, hsource⟩ | ⟨e, w₁', hr, -⟩
  · cases hr.symm.trans h₁
    exact ⟨w₁, count₁, l, data, hw, hs, hsource, h₂⟩
  · cases hr.symm.trans h₁

variable {settings encoding intermediate scripts}

theorem stat_of_publishWrappers {w w' : World} {count : Nat}
    (h : (publishWrappers settings encoding (scripts.map (wrapperOf intermediate))).runFrom w = (.ok count, w')) :
    ∀ s ∈ scripts, ∃ l data m a, w'.disk.stat (classPath intermediate (classOf s)) = .ok (l, .file data m a) := by
  induction scripts generalizing w count with
  | nil => simp
  | cons s ss ih =>
    obtain ⟨w₁, count₁, l, data, -, ⟨m, a, hs⟩, -, hrest⟩ := publishWrappers_cons_ok _ _ _ h
    intro s' hs'
    rcases List.mem_cons.1 hs' with rfl | hs'
    · have hg := publishWrappers_gains settings encoding intermediate ss w₁
      rw [hrest] at hg
      obtain ⟨data', m', a', hs''⟩ := Disk.stat_file_of_gains hs hg
      exact ⟨l, data', m', a', hs''⟩
    · exact ih hrest s' hs'

def wrapperEntries (packageLoc : Loc) (scripts : List Script) : List Loc :=
  scripts.map fun s => (classOf s ++ scriptSuffix) :: packageLoc

def Unlinked (t : FileTree) (packageLoc : Loc) (scripts : List Script) : Prop :=
  ∀ s ∈ scripts, ∀ target, t.content? ((classOf s ++ scriptSuffix) :: packageLoc) ≠ some (.link target)

theorem Unlinked.of_kept {t t' : FileTree} {P : Loc} (h : Unlinked t' P scripts) (hk : Kept t t') :
    Unlinked t P scripts :=
  fun s hs target hlink => h s hs target (hk _ _ hlink rfl)

section Entries

variable {w w' : World} {count : Nat} {P : Loc} {m : Stamp}

theorem publishWrappers_cons_entry {s : Script} {ss : List Script}
    (hdir : w.disk.stat (packageDir intermediate) = .ok (P, .dir m)) (hfree : Unlinked w'.disk.tree P (s :: ss))
    (h : (publishWrappers settings encoding ((s :: ss).map (wrapperOf intermediate))).runFrom w = (.ok count, w')) :
    ∃ w₁ count₁ data m₁, w.disk.Changes (Writes ((classOf s ++ scriptSuffix) :: P) data) w₁.disk ∧
      w₁.disk.stat (packageDir intermediate) = .ok (P, .dir m₁) ∧
      (∃ source, w.disk.read s.path = .ok source ∧ wrapperData encoding (classOf s) source = .ok data) ∧
      (publishWrappers settings encoding (ss.map (wrapperOf intermediate))).runFrom w₁ = (.ok count₁, w') := by
  obtain ⟨w₁, count₁, l, data, hw, ⟨m₁, a, hs⟩, ⟨l₀, source, m₀, a₀, hs₀, hdata⟩, hrest⟩ :=
    publishWrappers_cons_ok _ _ _ h
  obtain ⟨m₂, hdir₁⟩ := Disk.stat_dir_of_kept hdir (hw.imp fun _ _ h => h.kept)
  have hg := publishWrappers_gains settings encoding intermediate ss w₁
  rw [hrest] at hg
  obtain rfl : l = (classOf s ++ scriptSuffix) :: P :=
    Disk.loc_of_stat_child (ne_of_ends _ (by decide)) (ne_of_ends _ (by decide)) hdir₁ hs
      (hfree.of_kept hg.tree.kept s List.mem_cons_self)
  exact ⟨w₁, count₁, data, m₂, hw, hdir₁, ⟨source, Disk.read_of_stat hs₀, hdata⟩, hrest⟩

theorem Unlinked.tail {t : FileTree} {s : Script} {ss : List Script} (h : Unlinked t P (s :: ss)) : Unlinked t P ss :=
  fun x hx => h x (List.mem_cons_of_mem s hx)

/-- Where none of them is a link in the end, writing wrappers touches no file but their entries. -/
theorem publishWrappers_entries (hdir : w.disk.stat (packageDir intermediate) = .ok (P, .dir m))
    (hfree : Unlinked w'.disk.tree P scripts)
    (h : (publishWrappers settings encoding (scripts.map (wrapperOf intermediate))).runFrom w = (.ok count, w')) :
    w.disk.Changes (Gains (· ∈ wrapperEntries P scripts)) w'.disk := by
  induction scripts generalizing w m count with
  | nil =>
    cases h
    exact ⟨.refl _, rfl, rfl⟩
  | cons s ss ih =>
    obtain ⟨w₁, count₁, data, m₁, hw, hdir₁, -, hrest⟩ := publishWrappers_cons_entry hdir hfree h
    refine (hw.imp fun _ _ h => h.gains.mono ?_).comp ((ih hdir₁ hfree.tail hrest).imp fun _ _ h => h.mono ?_) Gains.trans
    · rintro l rfl
      exact List.mem_cons_self
    · exact fun l hl => List.mem_cons_of_mem _ hl

theorem data?_of_publishWrappers (hdir : w.disk.stat (packageDir intermediate) = .ok (P, .dir m))
    (hn : (scripts.map classOf).Nodup) (hfree : Unlinked w'.disk.tree P scripts)
    (h : (publishWrappers settings encoding (scripts.map (wrapperOf intermediate))).runFrom w = (.ok count, w')) :
    ∀ s ∈ scripts, ∃ d source data, w.disk.Changes (Gains (· ∈ wrapperEntries P scripts)) d ∧
      d.read s.path = .ok source ∧ wrapperData encoding (classOf s) source = .ok data ∧
      w'.disk.tree.data? ((classOf s ++ scriptSuffix) :: P) = some data := by
  induction scripts generalizing w m count with
  | nil => simp
  | cons s ss ih =>
    obtain ⟨w₁, count₁, data, m₁, hw, hdir₁, ⟨source, hsource, hdata⟩, hrest⟩ := publishWrappers_cons_entry hdir hfree h
    rw [List.map_cons, List.nodup_cons] at hn
    intro s' hs'
    rcases List.mem_cons.1 hs' with rfl | hs'
    · refine ⟨w.disk, source, data, ⟨.refl _, rfl, rfl⟩, hsource, hdata, ?_⟩
      rcases (publishWrappers_entries hdir₁ hfree.tail hrest).tree.data? ((classOf s' ++ scriptSuffix) :: P) with
        he | ⟨hmem, -⟩
      · rw [he]
        exact data?_eq_some.2 hw.tree.there
      · -- a later wrapper has another class and so another entry
        obtain ⟨s'', hs'', heq⟩ := List.mem_map.1 hmem
        rw [List.cons.injEq, String.append_left_inj] at heq
        exact absurd (heq.1 ▸ List.mem_map_of_mem hs'') hn.1
    · obtain ⟨d, source', data', hd, hsource', hdata', hthere⟩ := ih hdir₁ hn.2 hfree.tail hrest s' hs'
      refine ⟨d, source', data', ?_, hsource', hdata', hthere⟩
      refine (hw.imp fun _ _ h => h.gains.mono ?_).comp (hd.imp fun _ _ h => h.mono ?_) Gains.trans
      · rintro l rfl
        exact List.mem_cons_self
      · exact fun l hl => List.mem_cons_of_mem _ hl

end Entries

end

section Each

variable {settings : Settings} {encoding : String} {intermediate : FilePath} {scripts : List Script} {w w' : World}

/-- Bytes that come of a script. It is read from a disk that has gained wrappers at most. -/
def ComesOf (encoding : String) (intermediate : FilePath) (scripts : List Script) (d : Disk) (x : Script)
    (data : List UInt8) : Prop :=
  ∃ t source, Gains (· ∈ wrapperLocs (d.place intermediate) scripts) d.tree t ∧
    t.data? (d.place x.path) = some source ∧ wrapperData encoding (classOf x) source = .ok data

theorem ComesOf.of_gains {d d₁ : Disk} {xs : List Script} {x : Script} {data : List UInt8}
    (hgains : d.Changes (Gains (· ∈ wrapperLocs (d.place intermediate) scripts)) d₁) (hxs : ∀ y ∈ xs, y ∈ scripts)
    (h : ComesOf encoding intermediate xs d₁ x data) : ComesOf encoding intermediate scripts d x data := by
  have ⟨t, source, hlater, hsource, hdata⟩ := h
  rw [Disk.place_eq hgains.cwd] at hlater hsource
  refine ⟨t, source, hgains.tree.trans (hlater.mono fun l hl => ?_), hsource, hdata⟩
  have ⟨y, hy, heq⟩ := List.mem_map.mp hl
  exact List.mem_map.mpr ⟨y, hxs y hy, heq⟩

/-- How the wrapper of a script can be after its turn in a run: it holds what comes of the script; or the run failed before
it came to that; or the run failed as the writing was broken off, and it holds a beginning. -/
inductive Ended (encoding : String) (intermediate : FilePath) (scripts : List Script) (d : Disk) (t' : FileTree)
    (x : Script) (fails : Failure → Prop) : Prop
  | written {data : List UInt8} (comes : ComesOf encoding intermediate scripts d x data)
      (there : t'.data? (wrapperLoc (d.place intermediate) (classOf x)) = some data)
  | untouched (failed : ∃ e, fails e) (same : t'.data? (wrapperLoc (d.place intermediate) (classOf x)) =
      d.tree.data? (wrapperLoc (d.place intermediate) (classOf x)))
  | broken {data : List UInt8} {arrived : Nat} {errno : Errno}
      (failed : fails (.stub (.cannotWrite (classPath intermediate (classOf x)) ⟨errno, none⟩)))
      (comes : ComesOf encoding intermediate scripts d x data)
      (there : t'.data? (wrapperLoc (d.place intermediate) (classOf x)) = some (data.take arrived))

/-- What a run comes to that goes on from a disk on which other wrappers were written. -/
theorem Ended.of_gains {d d₁ : Disk} {xs : List Script} {t' : FileTree} {x : Script} {fails fails' : Failure → Prop}
    (hgains : d.Changes (Gains (· ∈ wrapperLocs (d.place intermediate) scripts)) d₁) (hxs : ∀ y ∈ xs, y ∈ scripts)
    (hsame : d₁.tree.data? (wrapperLoc (d.place intermediate) (classOf x)) =
      d.tree.data? (wrapperLoc (d.place intermediate) (classOf x)))
    (hfails : ∀ e, fails e → fails' e) (h : Ended encoding intermediate xs d₁ t' x fails) :
    Ended encoding intermediate scripts d t' x fails' := by
  have hplace : d₁.place intermediate = d.place intermediate := Disk.place_eq hgains.cwd _
  cases h with
  | written comes there =>
    rw [hplace] at there
    exact .written (comes.of_gains hgains hxs) there
  | untouched failed same =>
    have ⟨e, he⟩ := failed
    rw [hplace] at same
    exact .untouched ⟨e, hfails e he⟩ (same.trans hsame)
  | broken failed comes there =>
    rw [hplace] at there
    exact .broken (hfails _ failed) (comes.of_gains hgains hxs) there

theorem Ended.data? {d : Disk} {t' : FileTree} {x : Script} {fails : Failure → Prop}
    (h : Ended encoding intermediate scripts d t' x fails) (hok : ∀ e, ¬fails e) :
    ∃ data, ComesOf encoding intermediate scripts d x data ∧
      t'.data? (wrapperLoc (d.place intermediate) (classOf x)) = some data := by
  cases h with
  | written comes there => exact ⟨_, comes, there⟩
  | untouched failed => exact failed.elim fun e he => absurd he (hok e)
  | broken failed => exact absurd failed (hok _)

theorem wrapperLoc_not_mem {root : Loc} {c : String} (h : c ∉ scripts.map classOf) :
    wrapperLoc root c ∉ wrapperLocs root scripts := by
  intro hmem
  have ⟨y, hy, heq⟩ := List.mem_map.mp hmem
  exact h (wrapperLoc_inj.mp heq ▸ List.mem_map_of_mem hy)

/-- In a tree without links, a wrapper is written where it belongs, in full or in part. -/
theorem publishWrapper_linkFree (hfree : w.disk.tree.LinkFree) (x : Script) :
    (∃ changed w' source data,
        (publishWrapper settings encoding (wrapperOf intermediate x)).runFrom w = (.ok changed, w') ∧
        w.disk.Changes (Writes (wrapperLoc (w.disk.place intermediate) (classOf x)) data) w'.disk ∧
        w.disk.tree.data? (w.disk.place x.path) = some source ∧ wrapperData encoding (classOf x) source = .ok data) ∨
      ∃ e w', (publishWrapper settings encoding (wrapperOf intermediate x)).runFrom w = (.error e, w') ∧
        (w.disk.Changes MoreDirs w'.disk ∨ ∃ source data arrived errno,
          e = .stub (.cannotWrite (classPath intermediate (classOf x)) ⟨errno, none⟩) ∧
          w.disk.Changes (Writes (wrapperLoc (w.disk.place intermediate) (classOf x)) (data.take arrived)) w'.disk ∧
          w.disk.tree.data? (w.disk.place x.path) = some source ∧ wrapperData encoding (classOf x) source = .ok data) := by
  have hsource : ∀ {l source m a}, w.disk.stat x.path = .ok (l, .file source m a) →
      w.disk.tree.data? (w.disk.place x.path) = some source := by
    intro l source m a hs
    rw [← Disk.loc_of_stat hs hfree]
    exact Disk.data?_of_stat hs
  rcases publishWrapper_spec settings encoding (wrapperOf intermediate x) w with
    ⟨changed, w', l, data, hr, hwrites, ⟨m, a, hs⟩, l₀, source, m₀, a₀, hs₀, hdata⟩ | ⟨e, w', hr, hmore | hbroken⟩
  · have hloc : l = wrapperLoc (w.disk.place intermediate) (classOf x) := by
      rw [Disk.loc_of_stat hs (hwrites.tree.linkFree hfree), Disk.place_eq hwrites.cwd]
      exact place_classPath _ _ _
    exact .inl ⟨changed, w', source, data, hr, hloc ▸ hwrites, hsource hs₀, hdata⟩
  · exact .inr ⟨e, w', hr, .inl hmore⟩
  · have ⟨l₀, source, m₀, a₀, data, errno, hs₀, hdata, he, hbroken⟩ := hbroken
    have ⟨arrived, hwrites⟩ := hbroken.writes hfree
    rw [show w.disk.place (wrapperOf intermediate x).generated = wrapperLoc (w.disk.place intermediate) (classOf x) from
      place_classPath _ _ _] at hwrites
    exact .inr ⟨e, w', hr, .inr ⟨source, data, arrived, errno, he, hwrites, hsource hs₀, hdata⟩⟩

/-- A wrapper that is written leaves those of other classes as they are. -/
theorem data?_of_writes {root : Loc} {x y : Script} {xs : List Script} {bytes : List UInt8} {t t' : FileTree}
    (h : Writes (wrapperLoc root (classOf x)) bytes t t') (hx : classOf x ∉ xs.map classOf) (hy : y ∈ xs) :
    t'.data? (wrapperLoc root (classOf y)) = t.data? (wrapperLoc root (classOf y)) := by
  rw [h.data?, if_neg]
  intro heq
  exact hx (wrapperLoc_inj.mp heq ▸ List.mem_map_of_mem hy)

/-- In a tree without links, each wrapper has had its turn, or the run failed before it came to that. -/
theorem publishWrappers_each {r : Except Failure Nat} (hfree : w.disk.tree.LinkFree) (hn : (scripts.map classOf).Nodup)
    (h : (publishWrappers settings encoding (scripts.map (wrapperOf intermediate))).runFrom w = (r, w')) :
    ∀ x ∈ scripts, Ended encoding intermediate scripts w.disk w'.disk.tree x (r = .error ·) := by
  induction scripts generalizing w r with
  | nil => simp
  | cons x xs ih =>
    have ⟨hx, hxs⟩ := List.nodup_cons.mp hn
    have hcomes : ∀ {source data}, w.disk.tree.data? (w.disk.place x.path) = some source →
        wrapperData encoding (classOf x) source = .ok data → ComesOf encoding intermediate (x :: xs) w.disk x data :=
      fun hsource hdata => ⟨w.disk.tree, _, .refl _, hsource, hdata⟩
    rw [List.map_cons, publishWrappers] at h
    rcases @publishWrapper_linkFree settings encoding intermediate w hfree x with
      ⟨changed, w₁, source, data, hr, hwrites, hsource, hdata⟩ | ⟨e, w₁, hr, hmore | hbroken⟩
    · have hfree₁ := hwrites.tree.linkFree hfree
      have hplace : w₁.disk.place intermediate = w.disk.place intermediate := Disk.place_eq hwrites.cwd _
      rw [Acting.runFrom_bind_of_ok hr, Acting.runFrom_bind_pure] at h
      rcases hrest : (publishWrappers settings encoding (xs.map (wrapperOf intermediate))).runFrom w₁ with ⟨r₁, w₂⟩
      rw [hrest] at h
      cases h
      intro y hy
      cases List.mem_cons.mp hy with
      | inl heq =>
        -- the wrappers that are written later are those of other classes
        have hlater := publishWrappers_gains settings encoding intermediate xs w₁
        rw [hrest, hplace] at hlater
        have hkept : w₂.disk.tree.data? (wrapperLoc (w.disk.place intermediate) (classOf x)) =
            w₁.disk.tree.data? (wrapperLoc (w.disk.place intermediate) (classOf x)) :=
          (hlater.tree.data? _).resolve_right fun hmem => wrapperLoc_not_mem hx (hmem.1 hfree₁)
        rw [heq]
        exact .written (hcomes hsource hdata) (hkept.trans (data?_eq_some.mpr hwrites.tree.there))
      | inr hy =>
        have hfirst : w.disk.Changes (Gains (· ∈ wrapperLocs (w.disk.place intermediate) (x :: xs))) w₁.disk :=
          hwrites.imp fun _ _ hw => hw.gains.mono fun l hl => hl ▸ List.mem_cons_self
        apply (ih hfree₁ hxs hrest y hy).of_gains hfirst (fun z hz => List.mem_cons_of_mem _ hz)
        · exact data?_of_writes hwrites.tree hx hy
        · intro e he
          rw [he]
          rfl
    · cases (Acting.runFrom_bind_of_error hr).symm.trans h
      exact fun y _ => .untouched ⟨e, rfl⟩ (hmore.tree.data? _)
    · have ⟨source, data, arrived, errno, he, hwrites, hsource, hdata⟩ := hbroken
      cases (Acting.runFrom_bind_of_error hr).symm.trans h
      intro y hy
      cases List.mem_cons.mp hy with
      | inl heq =>
        rw [heq]
        exact .broken (congrArg _ he) (hcomes hsource hdata) (data?_eq_some.mpr hwrites.tree.there)
      | inr hy => exact .untouched ⟨e, rfl⟩ (data?_of_writes hwrites.tree hx hy)

end Each

/-- Without a scan or with collisions nothing is written; otherwise the package directory is made, and the wrappers
are written into it. -/
theorem publishClasses_spec (settings : Settings) (s : SourceSet) (intermediate : FilePath) (encoding : String)
    (w : World) :
    (∃ e w', (publishClasses settings s intermediate encoding).runFrom w = (.error e, w') ∧
        w.disk.Changes MoreDirs w'.disk) ∨
      ∃ scripts w₁, w.disk.scan s = .ok scripts ∧ (scripts.map classOf).Nodup ∧ w.disk.Changes MoreDirs w₁.disk ∧
        (∃ l m, w₁.disk.stat (packageDir intermediate) = .ok (l, .dir m)) ∧
        (publishClasses settings s intermediate encoding).runFrom w =
          (publishWrappers settings encoding (scripts.map (wrapperOf intermediate)) >>= fun count =>
            pure (scripts.map (wrapperOf intermediate), count)).runFrom w₁ := by
  have hsame : w.disk.Changes MoreDirs w.disk := ⟨.refl _, rfl, rfl⟩
  unfold publishClasses
  obtain ⟨text, hlog⟩ := Log.runFrom_write settings ⟨.info, "globalvars", "discovered",
    [("directory", .text s.directory.text),
      ("message", .text "Discovered Pipeline Library global Vars, will handle in a custom way")]⟩ w
  rw [Acting.runFrom_bind_of_ok hlog, Acting.runFrom_bind, Action.runFrom_look]
  dsimp only
  cases hscan : w.disk.scan s with
  | error e => exact .inl ⟨e, _, rfl, hsame⟩
  | ok scripts =>
    dsimp only
    rw [Acting.runFrom_bind, Acting.runFrom_ofExcept]
    cases hplan : plan intermediate scripts with
    | error e => exact .inl ⟨.stub e, _, rfl, hsame⟩
    | ok wrappers =>
      obtain ⟨hn, rfl⟩ := plan_ok.1 hplan
      obtain ⟨d, r, hdir, hm, hs⟩ := Action.runFrom_ensureDir (packageDir intermediate) { w with stderr := text }
      cases r with
      | error e => exact .inl ⟨e, _, Acting.runFrom_bind_of_error hdir, hm⟩
      | ok q => exact .inr ⟨scripts, _, rfl, hn, hm, hs q rfl, Acting.runFrom_bind_of_ok hdir⟩

/-- Writing the classes of a library touches no file but the wrappers of its scripts, whatever happens. -/
theorem publishClasses_gains_scripts (settings : Settings) (s : SourceSet) (intermediate : FilePath) (encoding : String)
    (w : World) :
    w.disk.Changes
      (Gains fun l => w.disk.tree.LinkFree →
        ∃ scripts, w.disk.scan s = .ok scripts ∧ l ∈ wrapperLocs (w.disk.place intermediate) scripts)
      ((publishClasses settings s intermediate encoding).runFrom w).2.disk := by
  rcases publishClasses_spec settings s intermediate encoding w with
    ⟨e, w', hr, hm⟩ | ⟨scripts, w₁, hscan, -, hm, -, hr⟩
  · rw [hr]
    exact hm.imp fun _ _ h => h.gains
  · rw [hr, Acting.runFrom_bind_pure]
    refine Disk.Changes.comp (hm.imp fun _ _ h => MoreDirs.gains h)
      ((publishWrappers_gains settings encoding intermediate scripts w₁).imp fun _ _ h => h.mono fun l hl hfree => ?_)
      Gains.trans
    rw [Disk.place_eq hm.cwd] at hl
    exact ⟨scripts, hscan, hl (hm.tree.linkFree hfree)⟩

theorem publishClasses_gains (settings : Settings) (s : SourceSet) (intermediate : FilePath) (encoding : String)
    (w : World) :
    w.disk.Changes
      (Gains fun l => w.disk.tree.LinkFree → ∃ c, l = wrapperLoc (w.disk.place intermediate) c)
      ((publishClasses settings s intermediate encoding).runFrom w).2.disk := by
  refine (publishClasses_gains_scripts settings s intermediate encoding w).imp fun _ _ h => h.mono fun l hl hfree => ?_
  have ⟨scripts, _, hmem⟩ := hl hfree
  have ⟨x, _, heq⟩ := List.mem_map.mp hmem
  exact ⟨classOf x, heq.symm⟩

/-- The classes of a library are written after a scan without collisions, into a directory that exists. -/
theorem publishClasses_ok {settings : Settings} {s : SourceSet} {intermediate : FilePath} {encoding : String}
    {w w' : World} {wrappers : List Wrapper} {count : Nat}
    (h : (publishClasses settings s intermediate encoding).runFrom w = (.ok (wrappers, count), w')) :
    ∃ scripts w₁, w.disk.scan s = .ok scripts ∧ (scripts.map classOf).Nodup ∧
      wrappers = scripts.map (wrapperOf intermediate) ∧ w.disk.Changes MoreDirs w₁.disk ∧
      (∃ l m, w₁.disk.stat (packageDir intermediate) = .ok (l, .dir m)) ∧
      (publishWrappers settings encoding (scripts.map (wrapperOf intermediate))).runFrom w₁ = (.ok count, w') := by
  rcases publishClasses_spec settings s intermediate encoding w with
    ⟨e, w₁, hr, -⟩ | ⟨scripts, w₁, hscan, hn, hm, hs, hr⟩
  · cases hr.symm.trans h
  · obtain ⟨count', w₂, hrun, hpure⟩ := Acting.bind_ok (hr.symm.trans h)
    cases hpure
    exact ⟨scripts, w₁, hscan, hn, rfl, hm, hs, hrun⟩

theorem publishClasses_each {settings : Settings} {s : SourceSet} {intermediate : FilePath} {encoding : String}
    {scripts : List Script} {w w' : World} {r : Except Failure (List Wrapper × Nat)} (hfree : w.disk.tree.LinkFree)
    (hscan : w.disk.scan s = .ok scripts) (h : (publishClasses settings s intermediate encoding).runFrom w = (r, w')) :
    ∀ x ∈ scripts, Ended encoding intermediate scripts w.disk w'.disk.tree x (r = .error ·) := by
  cases publishClasses_spec settings s intermediate encoding w with
  | inl hfailed =>
    have ⟨e, w₁, hr, hmore⟩ := hfailed
    cases hr.symm.trans h
    exact fun x _ => .untouched ⟨e, rfl⟩ (hmore.tree.data? _)
  | inr hwritten =>
    have ⟨scripts', w₁, hscan', hn, hmore, _, hr⟩ := hwritten
    cases hscan.symm.trans hscan'
    rw [hr, Acting.runFrom_bind_pure] at h
    rcases hrest : (publishWrappers settings encoding (scripts.map (wrapperOf intermediate))).runFrom w₁ with ⟨r₁, w₂⟩
    rw [hrest] at h
    cases h
    intro x hx
    have hturn := publishWrappers_each (hmore.tree.linkFree hfree) hn hrest x hx
    apply hturn.of_gains (hmore.imp fun _ _ hm => hm.gains) (fun _ hy => hy) (hmore.tree.data? _)
    intro e he
    rw [he]
    rfl

end JavaStubs.Library
