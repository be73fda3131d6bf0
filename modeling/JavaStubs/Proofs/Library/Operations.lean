import JavaStubs.Proofs.Library.History
import JavaStubs.Proofs.Library.UpToDate

/-! Operations that the system refuses while a library is published: listings of the library and of the package
directory, and removals of stale wrappers. -/
namespace JavaStubs

open FileTree

namespace Disk

variable {d d' : Disk} {dir p : FilePath} {P : Loc} {m : Stamp} {n : String} {lost : Loc → Prop}

theorem Loses.before (h : d.Loses lost d') : d'.Changes Kept d := by
  refine ⟨fun l c hc _ => ?_, h.cwd.symm, h.rules.symm⟩
  cases h.content? l with
  | inl hsame => exact hsame.symm.trans hc
  | inr hgone => cases hgone.2.symm.trans hc

/-- A path that leads to a file led there before, if the file was there and directories and links were. -/
theorem stat_file_before {l : Loc} {data : List UInt8} {a : Stamp} (h : d'.stat p = .ok (l, .file data m a))
    (hk : d'.Changes Kept d) (hthere : d.tree.data? l = some data) : d.isFile? p = .ok true := by
  have ⟨_, _, he⟩ := get?_of_data? hthere
  exact test_of_stat _ (stat_eq_ok_iff.mpr (locate_of_kept (stat_eq_ok_iff.mp h) hk he rfl id))

theorem Loses.isFile?_before (h : d.Loses lost d') (hf : d'.isFile? p = .ok true) : d.isFile? p = .ok true := by
  have ⟨l, data, m, a, hs⟩ := stat_of_isFile? hf
  have hdata := data?_of_stat hs
  refine stat_file_before hs h.before ?_
  cases h.data? l with
  | inl hsame => exact hsame.symm.trans hdata
  | inr hgone => cases hgone.2.symm.trans hdata

/-- A path through a directory leads to an entry of it first. -/
theorem get?_of_isFile?_child (hdir : d.stat dir = .ok (P, .dir m)) (h₁ : n ≠ ".") (h₂ : n ≠ "..")
    (h : d.isFile? (dir.child n) = .ok true) : ∃ e, d.tree.get? (n :: P) = some e := by
  have ⟨_, _, _, _, hs⟩ := stat_of_isFile? h
  have ⟨_, _, hleads⟩ := leads_of_child hdir (stat_eq_ok_iff.mp hs)
  cases hleads with
  | stay => contradiction
  | up => contradiction
  | jump _ _ he _ _ => exact ⟨_, he⟩
  | down _ _ he _ _ => exact ⟨_, he⟩

end Disk

namespace Library

section

variable {keep files : List FilePath} {names : List String} {dir : FilePath} {P : Loc} {m : Stamp} {w w' w'' : World}

theorem removeStale_append (keep files later : List FilePath) : removeStale keep (files ++ later) =
    removeStale keep files >>= fun removed => removeStale keep later >>= fun removed' => pure (removed ++ removed') := by
  induction files with
  | nil => simp [removeStale]
  | cons p ps ih =>
    simp only [List.cons_append, removeStale, ih, bind_assoc]
    refine bind_congr (m := Action) fun isFile => ?_
    cases isFile && !keep.contains p with
    | true => simp
    | false => rfl

/-- What is no file to be removed while files are dealt with is none afterwards. -/
theorem not_isFile?_of_removeStale {removed : List FilePath} {n : String} (hdir : w.disk.stat dir = .ok (P, .dir m))
    (hn : ∀ n ∈ names, Text.endsWith n scriptSuffix = true)
    (h : (removeStale keep (names.map dir.child)).runFrom w = (.ok removed, w')) (hmem : n ∈ names)
    (hk : dir.child n ∉ keep) : w'.disk.isFile? (dir.child n) ≠ .ok true := by
  induction names generalizing w m removed with
  | nil => cases hmem
  | cons n' names ih =>
    have hrestEnds : ∀ n ∈ names, Text.endsWith n scriptSuffix = true := fun n hm => hn n (List.mem_cons_of_mem _ hm)
    have ⟨h₁, h₂⟩ := ne_dots (hn n' List.mem_cons_self)
    -- from a later state the path does not become one of a file
    have hlater : ∀ {w₁ : World} {m₁ : Stamp} {removed : List FilePath},
        (removeStale keep (names.map dir.child)).runFrom w₁ = (.ok removed, w') → w₁.disk.stat dir = .ok (P, .dir m₁) →
        w₁.disk.isFile? (dir.child n') ≠ .ok true → w'.disk.isFile? (dir.child n') ≠ .ok true := by
      intro w₁ m₁ removed hrest hdir₁ hnot hfile
      have hloses : w₁.disk.Loses (fun l => ∃ n ∈ names, dir.child n ∉ keep ∧ l = n :: P) _ :=
        removeStale_loses hdir₁ hrestEnds
      rw [hrest] at hloses
      exact hnot (hloses.isFile?_before hfile)
    rcases removeStale_cons keep (dir.child n') (names.map dir.child) w with
      ⟨e, hr⟩ | ⟨b, hf, hb, hr⟩ | ⟨d, hf, -, hu, hr⟩
    · cases hr.symm.trans h
    · have hrest := hr.symm.trans h
      cases List.mem_cons.mp hmem with
      | inl heq =>
        have hfalse : b = false := hb.resolve_right (heq ▸ hk)
        rw [heq]
        refine hlater hrest hdir fun htrue => ?_
        cases htrue.symm.trans (hfalse ▸ hf)
      | inr hmem => exact ih hdir hrestEnds hrest hmem
    · have ⟨hloses, hnone⟩ := Disk.loses_of_unlink h₁ h₂ hdir hf hu
      have ⟨m₁, hdir₁⟩ := hloses.stat_dir hdir
      have ⟨removed₁, w₁, hrest, hpure⟩ := Acting.bind_ok (hr.symm.trans h)
      cases hpure
      cases List.mem_cons.mp hmem with
      | inl heq =>
        rw [heq]
        refine hlater hrest hdir₁ fun htrue => ?_
        have ⟨e, he⟩ := Disk.get?_of_isFile?_child hdir₁ h₁ h₂ htrue
        cases (content?_of_get? he).symm.trans hnone
      | inr hmem => exact ih (w := { w with disk := d }) hdir₁ hrestEnds hrest hmem

end

section

variable {settings : Settings} {intermediate : FilePath} {encoding : String} {scripts : List Script} {P : Loc} {m : Stamp}
  {w w' : World} {changed : Bool} {n : String}

/-- A name stands for a file in a directory: there is one of that name, or a link of that name leads to one. -/
def HoldsFile (d : Disk) (dir : FilePath) (P : Loc) (n : String) : Prop :=
  (d.tree.data? (n :: P)).isSome = true ∨ d.isFile? (dir.child n) = .ok true

/-- A name in the package directory stands for the registry, which links may lead to from there, or to there. -/
def StandsForRegistry (d : Disk) (intermediate : FilePath) (P : Loc) (n : String) : Prop :=
  ∃ l e, d.stat (registryPath intermediate) = .ok (l, e) ∧
    (l = n :: P ∨ d.stat ((packageDir intermediate).child n) = .ok (l, e))

/-- Pruning leaves no file that looks like a wrapper and is none, if it may list the package directory. -/
theorem kept_of_prune {removed : List FilePath} (hdir : w.disk.stat (packageDir intermediate) = .ok (P, .dir m))
    (hlist : w.disk.unlisted? (packageDir intermediate) = none)
    (h : (prune (packageDir intermediate) ((scripts.map (wrapperOf intermediate)).map (·.generated))).runFrom w =
      (.ok removed, w'))
    (hname : FileName n) (hends : Text.endsWith n scriptSuffix = true)
    (hholds : HoldsFile w'.disk (packageDir intermediate) P n) :
    (packageDir intermediate).child n ∈ (scripts.map (wrapperOf intermediate)).map (·.generated) := by
  refine Classical.byContradiction fun hkeep => ?_
  have ⟨r, w₁, hpruned, hloses, hall⟩ := prune_spec scripts hdir
  cases hpruned.symm.trans h
  cases hholds with
  | inl hdata =>
    have hstale : Stale P scripts (n :: P) := ⟨n, hends, child_not_kept.mp hkeep, rfl⟩
    rw [hall removed rfl hlist n hname hstale] at hdata
    cases hdata
  | inr hfile =>
    have ⟨m₁, hdir₁⟩ := hloses.stat_dir hdir
    have ⟨h₁, h₂⟩ := ne_dots hends
    -- it was listed, so it was asked whether it is a file
    have ⟨e, he⟩ := Disk.get?_of_isFile?_child hdir₁ h₁ h₂ hfile
    have hthere : w.disk.tree.content? (n :: P) = some e.content := by
      cases hloses.content? (n :: P) with
      | inl hsame => exact hsame.symm.trans (content?_of_get? he)
      | inr hgone => cases hgone.2.symm.trans (content?_of_get? he)
    unfold prune at h
    rw [Acting.runFrom_mapFailure, Acting.runFrom_bind, Action.runFrom_look] at h
    rcases hfiles : wrapperFiles w.disk (packageDir intermediate) with e | files
    · rw [hfiles] at h
      cases h
    rw [hfiles, mapError_ok] at h
    dsimp only at h
    have ⟨names, hnames, hallEnds, _⟩ := wrapperFiles_ok hdir hfiles
    rcases hrun : (removeStale ((scripts.map (wrapperOf intermediate)).map (·.generated)) files).runFrom w with ⟨r, w₂⟩
    rw [hrun] at h
    cases r with
    | error e => cases h
    | ok removed' =>
      cases h
      rw [wrapperFiles_eq hdir, hlist] at hfiles
      have hmem : (packageDir intermediate).child n ∈ names.map (packageDir intermediate).child := by
        rw [← hnames, ← Except.ok.inj hfiles]
        exact List.mem_map.mpr ⟨(n, e.content), List.mem_filter.mpr ⟨mem_contents.mpr hthere, hends⟩, rfl⟩
      have ⟨n', hn', heq⟩ := List.mem_map.mp hmem
      have hlisted : n ∈ names := child_inj.mp heq ▸ hn'
      rw [hnames] at hrun
      exact not_isFile?_of_removeStale hdir hallEnds hrun hlisted hkeep hfile

theorem wrapper_or_registry (hdir : w.disk.stat (packageDir intermediate) = .ok (P, .dir m))
    (hlist : w.disk.unlisted? (packageDir intermediate) = none)
    (h : (publishRegistry settings intermediate encoding (scripts.map (wrapperOf intermediate))).runFrom w =
      (.ok changed, w'))
    (hname : FileName n) (hends : Text.endsWith n scriptSuffix = true)
    (hholds : HoldsFile w'.disk (packageDir intermediate) P n) :
    (packageDir intermediate).child n ∈ (scripts.map (wrapperOf intermediate)).map (·.generated) ∨
      StandsForRegistry w'.disk intermediate P n := by
  obtain ⟨removed, w₁, hprune, h⟩ := Acting.bind_ok h
  obtain ⟨_, w₂, hlog, hwrite⟩ := Acting.bind_ok h
  obtain ⟨text, hlogged⟩ := runFrom_logRemoved settings removed w₁
  cases hlogged.symm.trans hlog
  obtain ⟨_, _, hpruned, hloses, _⟩ := prune_spec scripts hdir
  cases hpruned.symm.trans hprune
  obtain ⟨m₁, hdir₁⟩ := hloses.stat_dir hdir
  obtain ⟨root, m₂, hroot⟩ := Disk.stat_of_child hdir₁
  have hparent : w₁.disk.stat (registryPath intermediate).parent = .ok (root, .dir m₂) := by
    rw [registryPath, FilePath.parent_child]
    exact hroot
  have hbefore : w'.disk.tree.Kept w₁.disk.tree := Action.kept_of_writeText (w := { w₁ with stderr := text }) hparent hwrite
  cases Action.runFrom_writeText (registryPath intermediate)
      (registryText (registryOf intermediate (scripts.map (wrapperOf intermediate))).entries) encoding
      { w₁ with stderr := text } with
  | inr hrefused =>
    obtain ⟨e, d, hr, _⟩ := hrefused
    cases hr.symm.trans hwrite
  | inl hdone =>
    obtain ⟨changed', data, l, d, hr, hdata, hwrites, m₃, a, hreg⟩ := hdone
    cases hr.symm.trans hwrite
    cases hholds with
    | inl hsome =>
      by_cases hl : n :: P = l
      · exact .inr ⟨l, _, hreg, .inl hl.symm⟩
      · rw [hwrites.tree.data?, if_neg hl] at hsome
        exact .inl (kept_of_prune hdir hlist hprune hname hends (.inl hsome))
    | inr hfile =>
      obtain ⟨l', data', m', a', hs⟩ := Disk.stat_of_isFile? hfile
      by_cases hl : l' = l
      · have hsame := (Disk.get?_of_stat hreg).symm.trans (hl ▸ Disk.get?_of_stat hs)
        exact .inr ⟨l, _, hreg, .inr (Option.some.inj hsame ▸ hl ▸ hs)⟩
      · have hold := Disk.data?_of_stat hs
        rw [hwrites.tree.data?, if_neg hl] at hold
        have hfile₁ : w₁.disk.isFile? ((packageDir intermediate).child n) = .ok true :=
          Disk.stat_file_before hs ⟨hbefore, hwrites.cwd.symm, hwrites.rules.symm⟩ hold
        exact .inl (kept_of_prune hdir hlist hprune hname hends (.inr hfile₁))

end

inductive Operation where
  /-- To list a directory of the library, given by the names on the way to it. -/
  | listSources (names : List String)
  /-- To list the package directory, once all wrappers are written. -/
  | listPackage
  /-- To remove a file that looks like a wrapper. -/
  | remove (p : FilePath)

namespace Attempt

variable {a : Attempt} {p : Published} {op : Operation} {e : OsError} {wrappers : List Wrapper} {count : Nat} {w w' : World}

/-- The run asks for an operation that the system refuses. Directories of the library are those that real directories lead
to; files are removed one after the other, each if it is a file and no wrapper of the run. -/
inductive Refused (a : Attempt) : Operation → OsError → Prop
  | sources {l : Loc} {names : List String} {e : OsError} : a.world.disk.sourceDirectory a.library = .ok l →
      a.world.disk.IsDirPath l names →
      a.world.disk.list (a.library.directory.descend names) (names.reverse ++ l) = .error e → Refused a (.listSources names) e
  | package {wrappers : List Wrapper} {count : Nat} {w : World} {P : Loc} {m : Stamp} {e : OsError} :
      (publishClasses a.settings a.library a.intermediate a.encoding).runFrom a.world = (.ok (wrappers, count), w) →
      w.disk.stat (packageDir a.intermediate) = .ok (P, .dir m) →
      w.disk.list (packageDir a.intermediate) P = .error e → Refused a .listPackage e
  | removal {wrappers : List Wrapper} {count : Nat} {w w' : World} {earlier later removed : List FilePath} {p : FilePath}
      {e : OsError} :
      (publishClasses a.settings a.library a.intermediate a.encoding).runFrom a.world = (.ok (wrappers, count), w) →
      wrapperFiles w.disk (packageDir a.intermediate) = .ok (earlier ++ p :: later) →
      (removeStale (wrappers.map (·.generated)) earlier).runFrom w = (.ok removed, w') →
      w'.disk.isFile? p = .ok true → p ∉ wrappers.map (·.generated) → w'.disk.unlink p = .error (.os e) →
      Refused a (.remove p) e

theorem result_of_scan {e : Failure} (h : a.world.disk.scan a.library = .error e) : a.result = .error e := by
  have hclasses : ∃ w, (publishClasses a.settings a.library a.intermediate a.encoding).runFrom a.world = (.error e, w) := by
    obtain ⟨text, hlog⟩ := Log.runFrom_write a.settings ⟨.info, "globalvars", "discovered",
      [("directory", .text a.library.directory.text),
        ("message", .text "Discovered Pipeline Library global Vars, will handle in a custom way")]⟩ a.world
    refine ⟨{ a.world with stderr := text }, ?_⟩
    rw [publishClasses, Acting.runFrom_bind_of_ok hlog, Acting.runFrom_bind_of_error]
    rw [Action.runFrom_look]
    exact Prod.ext h rfl
  obtain ⟨w, hrun⟩ := hclasses
  have hpublish : (publish a.settings a.library a.intermediate a.encoding).runFrom a.world = (.error e, w) :=
    Acting.runFrom_bind_of_error hrun
  exact congrArg Prod.fst hpublish

theorem result_of_prune {e : Failure}
    (hclasses : (publishClasses a.settings a.library a.intermediate a.encoding).runFrom a.world = (.ok (wrappers, count), w))
    (h : (prune (packageDir a.intermediate) (wrappers.map (·.generated))).runFrom w = (.error e, w')) :
    a.result = .error e := by
  have hregistry : (publishRegistry a.settings a.intermediate a.encoding wrappers).runFrom w = (.error e, w') :=
    Acting.runFrom_bind_of_error h
  have hpublish : (publish a.settings a.library a.intermediate a.encoding).runFrom a.world = (.error e, w') := by
    rw [publish, Acting.runFrom_bind_of_ok hclasses]
    exact Acting.runFrom_bind_of_error hregistry
  exact congrArg Prod.fst hpublish

theorem result_of_sources {l : Loc} {names : List String} (hdir : a.world.disk.sourceDirectory a.library = .ok l)
    (hpath : a.world.disk.IsDirPath l names)
    (hlist : a.world.disk.list (a.library.directory.descend names) (names.reverse ++ l) = .error e) :
    ∃ e', a.result = .error (.stub (.cannotScan a.library.directory e')) := by
  cases hfound : a.world.disk.leaves a.library.directory l [] with
  | ok found =>
    have hlisted := Disk.listed_of_leaves hfound hpath
    rw [Disk.list, hlisted] at hlist
    cases hlist
  | error e' =>
    refine ⟨e', result_of_scan ?_⟩
    unfold Disk.scan
    rw [hdir]
    simp only [bind, Except.bind, hfound]
    rfl

theorem result_of_package {P : Loc} {m : Stamp}
    (hclasses : (publishClasses a.settings a.library a.intermediate a.encoding).runFrom a.world = (.ok (wrappers, count), w))
    (hdir : w.disk.stat (packageDir a.intermediate) = .ok (P, .dir m))
    (hlist : w.disk.list (packageDir a.intermediate) P = .error e) (he : e.errno.isPermission = false) :
    a.result = .error (.stub (.cannotPrune (packageDir a.intermediate) e)) := by
  have hisDir : w.disk.isDir? (packageDir a.intermediate) = .ok true := Disk.test_of_stat _ hdir
  have hfiles : wrapperFiles w.disk (packageDir a.intermediate) = .error (.os e) := by
    unfold wrapperFiles
    rw [hisDir, hdir]
    simp only [hlist, he, Bool.false_eq_true, if_false]
  have hprune : (prune (packageDir a.intermediate) (wrappers.map (·.generated))).runFrom w =
      (.error (.stub (.cannotPrune (packageDir a.intermediate) e)), w) := by
    rw [prune, Acting.runFrom_mapFailure, Acting.runFrom_bind, Action.runFrom_look, hfiles]
    rfl
  exact result_of_prune hclasses hprune

theorem result_of_removal {earlier later removed : List FilePath} {q : FilePath}
    (hclasses : (publishClasses a.settings a.library a.intermediate a.encoding).runFrom a.world = (.ok (wrappers, count), w))
    (hfiles : wrapperFiles w.disk (packageDir a.intermediate) = .ok (earlier ++ q :: later))
    (hearlier : (removeStale (wrappers.map (·.generated)) earlier).runFrom w = (.ok removed, w'))
    (hfile : w'.disk.isFile? q = .ok true) (hkeep : q ∉ wrappers.map (·.generated))
    (hunlink : w'.disk.unlink q = .error (.os e)) :
    a.result = .error (.stub (.cannotPrune (packageDir a.intermediate) e)) := by
  have hlater : (removeStale (wrappers.map (·.generated)) (q :: later)).runFrom w' = (.error (.access (.os e)), w') := by
    have hlook : (Action.look fun d => (d.isFile? q).mapError .access).runFrom w' = (.ok true, w') := by
      rw [Action.runFrom_look, hfile]
      rfl
    rw [removeStale, Acting.runFrom_bind_of_ok hlook, if_pos (by simpa using hkeep), Acting.runFrom_bind,
      Action.runFrom_change, hunlink]
  have hall : (removeStale (wrappers.map (·.generated)) (earlier ++ q :: later)).runFrom w =
      (.error (.access (.os e)), w') := by
    rw [removeStale_append, Acting.runFrom_bind_of_ok hearlier, Acting.runFrom_bind_of_error hlater]
  have hprune : (prune (packageDir a.intermediate) (wrappers.map (·.generated))).runFrom w =
      (.error (.stub (.cannotPrune (packageDir a.intermediate) e)), w') := by
    rw [prune, Acting.runFrom_mapFailure, Acting.runFrom_bind, Action.runFrom_look, hfiles, mapError_ok]
    dsimp only
    rw [hall]
    rfl
  exact result_of_prune hclasses hprune

/-- A refused operation fails the run, unless it is to list the package directory and is refused for want of permission. -/
theorem result_of_refused (h : a.Refused op e) :
    (op = .listPackage ∧ e.errno.isPermission = true) ∨
      ∃ cause, a.result = .error (.stub cause) ∧ cause.errorClass = .fileSystem := by
  cases h with
  | sources hdir hpath hlist =>
    have ⟨e', hresult⟩ := result_of_sources hdir hpath hlist
    exact .inr ⟨_, hresult, rfl⟩
  | package hclasses hdir hlist =>
    cases he : e.errno.isPermission with
    | true => exact .inl ⟨rfl, rfl⟩
    | false => exact .inr ⟨_, result_of_package hclasses hdir hlist he, rfl⟩
  | removal hclasses hfiles hearlier hfile hkeep hunlink =>
    exact .inr ⟨_, result_of_removal hclasses hfiles hearlier hfile hkeep hunlink, rfl⟩

/-- A run that succeeds, the listing of the package directory not being refused, leaves no file there that looks like a
wrapper but those of its scripts, and the registry if links take it there. -/
theorem tidy_of_result (hok : a.result = .ok p) (hlist : ∀ e, ¬a.Refused .listPackage e) :
    ∃ P m, a.outcome.2.disk.stat (packageDir a.intermediate) = .ok (P, .dir m) ∧
      ∀ n, FileName n → Text.endsWith n scriptSuffix = true → HoldsFile a.outcome.2.disk (packageDir a.intermediate) P n →
        (packageDir a.intermediate).child n ∈ p.wrappers.map (·.generated) ∨
          StandsForRegistry a.outcome.2.disk a.intermediate P n := by
  have hrun := a.outcome_eq
  rw [hok] at hrun
  obtain ⟨scripts, count, w₁, changed, w₂, text, _, _, hc, ⟨P, m, hdir⟩, hr, hp, hw'⟩ := publish_ok hrun
  have hlisted : w₁.disk.unlisted? (packageDir a.intermediate) = none := by
    cases hlookup : w₁.disk.unlisted? (packageDir a.intermediate) with
    | none => rfl
    | some errno =>
      have hrefused : w₁.disk.list (packageDir a.intermediate) P = .error (.at errno (packageDir a.intermediate)) := by
        rw [Disk.list, hlookup]
      exact absurd (Refused.package hc hdir hrefused) (hlist _)
  obtain ⟨d, l, data, hloses, _, hwrites, _, _⟩ := publishRegistry_ok hdir hr
  obtain ⟨m₁, hdir₁⟩ := hloses.stat_dir hdir
  obtain ⟨m₂, hdir₂⟩ := Disk.stat_dir_of_kept hdir₁ (hwrites.imp fun _ _ hw => hw.kept)
  have hdisk : a.outcome.2.disk = w₂.disk := by rw [hw']
  rw [hdisk, hp]
  exact ⟨P, m₂, hdir₂, fun n hname hends hholds => wrapper_or_registry hdir hlisted hr hname hends hholds⟩

/-- What is refused is reported, with one exception: a listing of the package directory that is refused for want of
permission counts as an empty one. Without a refused listing of that directory, a run that succeeds leaves no stale wrapper
in it. -/
theorem refused_or_tidy (a : Attempt) :
    (∀ op e, a.Refused op e → (op = .listPackage ∧ e.errno.isPermission = true) ∨
      ∃ cause, a.result = .error (.stub cause) ∧ cause.errorClass = .fileSystem) ∧
    ∀ p, a.result = .ok p → (∀ e, ¬a.Refused .listPackage e) →
      ∃ P m, a.outcome.2.disk.stat (packageDir a.intermediate) = .ok (P, .dir m) ∧
        ∀ n, FileName n → Text.endsWith n scriptSuffix = true →
          HoldsFile a.outcome.2.disk (packageDir a.intermediate) P n →
          (packageDir a.intermediate).child n ∈ p.wrappers.map (·.generated) ∨
            StandsForRegistry a.outcome.2.disk a.intermediate P n :=
  ⟨fun _ _ h => result_of_refused h, fun _ hok hlist => tidy_of_result hok hlist⟩

/-- Writing wrappers does not change what the system refuses. -/
theorem rules_of_publishClasses
    (hclasses : (publishClasses a.settings a.library a.intermediate a.encoding).runFrom a.world = (.ok (wrappers, count), w)) :
    w.disk.rules = a.world.disk.rules := by
  have hgains := publishClasses_gains a.settings a.library a.intermediate a.encoding a.world
  rw [hclasses] at hgains
  exact hgains.rules

theorem lookup_of_refused (h : a.Refused .listPackage e) :
    a.world.disk.unlisted? (packageDir a.intermediate) ≠ none := by
  cases h with
  | package hclasses hdir hlist =>
    intro hnone
    rw [Disk.list, Disk.unlisted?_eq (rules_of_publishClasses hclasses), hnone] at hlist
    cases hlist

theorem refused_package {errno : Errno}
    (hclasses : (publishClasses a.settings a.library a.intermediate a.encoding).runFrom a.world = (.ok (wrappers, count), w))
    (hlookup : a.world.disk.unlisted? (packageDir a.intermediate) = some errno) :
    a.Refused .listPackage (.at errno (packageDir a.intermediate)) := by
  have ⟨scripts, w₀, _, _, _, _, hdir, hwritten⟩ := publishClasses_ok hclasses
  have ⟨P, m, hdir⟩ := stat_packageDir hdir hwritten
  refine .package hclasses hdir ?_
  rw [Disk.list, Disk.unlisted?_eq (rules_of_publishClasses hclasses), hlookup]

end Attempt

/-- The project of the sample with a wrapper of a script that is gone. -/
def staleTree : FileTree where
  entries := sampleTree.entries ++ [(["out", "p"], .dir .now), (["globalvars", "out", "p"], .dir .now),
    (["VarOld.groovy", "globalvars", "out", "p"], .file [35, 10] .now .now)]
  nodup := by decide

/-- A run in that project that may not list the package directory. -/
def deniedRun (errno : Errno) : Attempt :=
  let a := sampleRun staleTree "utf-8"
  { a with world := { a.world with disk := { a.world.disk with denied := { listing := [("/p/out/globalvars", errno)] } } } }

theorem lookup_deniedRun (errno : Errno) :
    (deniedRun errno).world.disk.unlisted? (packageDir (deniedRun errno).intermediate) = some errno := by
  have htext : (packageDir (deniedRun errno).intermediate).text = "/p/out/globalvars" :=
    show (packageDir ⟨.slash, ["p", "out"]⟩).text = "/p/out/globalvars" by decide
  have hdenied : (deniedRun errno).world.disk.denied.listing.lookup "/p/out/globalvars" = some errno :=
    List.lookup_cons_self
  rw [Disk.unlisted?, htext, hdenied, Option.some_or]

theorem refused_of_deniedRun : ∃ e, (deniedRun .EIO).Refused .listPackage e ∧
    ((Operation.listPackage = .listPackage ∧ e.errno.isPermission = true) ∨
      ∃ cause, (deniedRun .EIO).result = .error (.stub cause) ∧ cause.errorClass = .fileSystem) := by
  have hwritten : ((publishClasses (deniedRun .EIO).settings (deniedRun .EIO).library (deniedRun .EIO).intermediate
      (deniedRun .EIO).encoding).runFrom (deniedRun .EIO).world).1.toOption.isSome = true := by
    decide +kernel
  have ⟨made, hmade⟩ := Option.isSome_iff_exists.mp hwritten
  have hrefused := Attempt.refused_package (Prod.ext (ok_of_toOption hmade) rfl) (lookup_deniedRun .EIO)
  exact ⟨_, hrefused, (Attempt.refused_or_tidy (deniedRun .EIO)).1 _ _ hrefused⟩

/-- Nothing that looks like a wrapper is in the package directory after a run but the wrappers of the run. -/
def Attempt.Tidy (a : Attempt) (p : Published) : Prop :=
  ∃ P m, a.outcome.2.disk.stat (packageDir a.intermediate) = .ok (P, .dir m) ∧
    ∀ n, FileName n → Text.endsWith n scriptSuffix = true →
      HoldsFile a.outcome.2.disk (packageDir a.intermediate) P n →
      (packageDir a.intermediate).child n ∈ p.wrappers.map (·.generated)

/-- A project without scripts, in which a link to the registry looks like a wrapper. -/
def danglingTree : FileTree where
  entries := [([], .dir .now), (["p"], .dir .now), (["vars", "p"], .dir .now), (["out", "p"], .dir .now),
    (["globalvars", "out", "p"], .dir .now), (["VarOld.groovy", "globalvars", "out", "p"], .link "../Vars.groovy")]
  nodup := by decide

theorem not_tidy {a : Attempt} {p : Published} {generated : List FilePath}
    (hgenerated : p.wrappers.map (·.generated) = generated)
    (hfile : a.outcome.2.disk.isFile? ((packageDir a.intermediate).child "VarOld.groovy") = .ok true)
    (hnot : (packageDir a.intermediate).child "VarOld.groovy" ∉ generated) : ¬a.Tidy p := by
  intro ⟨P, m, _, htidy⟩
  exact hnot (hgenerated ▸ htidy "VarOld.groovy" (by decide) (by decide) (.inr hfile))

/-- Not every refused operation fails the run: a package directory that may not be listed for want of permission is taken
for an empty one, and stale wrappers stay. With nothing refused, a link to the registry stays if it led nowhere before. -/
theorem stale_wrapper_may_stay :
    (∃ e p, (deniedRun .EACCES).Refused .listPackage e ∧ (deniedRun .EACCES).result = .ok p ∧
        ¬(deniedRun .EACCES).Tidy p) ∧
      ∃ p, (∀ op e, ¬(sampleRun danglingTree "utf-8").Refused op e) ∧
        (sampleRun danglingTree "utf-8").result = .ok p ∧ ¬(sampleRun danglingTree "utf-8").Tidy p := by
  constructor
  · have hgenerated : (deniedRun .EACCES).result.toOption.map (fun p => p.wrappers.map (·.generated)) =
        some [⟨.slash, ["p", "out", "globalvars", "VarA.groovy"]⟩] := by
      decide +kernel
    have ⟨p, hp, hwrappers⟩ := Option.map_eq_some_iff.mp hgenerated
    have hrun := (deniedRun .EACCES).outcome_eq
    rw [ok_of_toOption hp] at hrun
    have ⟨scripts, count, w₁, _, _, _, _, _, hclasses, _⟩ := publish_ok hrun
    have hrefused := Attempt.refused_package hclasses (lookup_deniedRun .EACCES)
    have hfile : (deniedRun .EACCES).outcome.2.disk.isFile?
        ((packageDir (deniedRun .EACCES).intermediate).child "VarOld.groovy") = .ok true :=
      ok_of_toOption (by decide +kernel)
    exact ⟨_, p, hrefused, ok_of_toOption hp, not_tidy hwrappers hfile (by decide)⟩
  · have hgenerated : (sampleRun danglingTree "utf-8").result.toOption.map (fun p => p.wrappers.map (·.generated)) =
        some [] := by
      decide +kernel
    have ⟨p, hp, hwrappers⟩ := Option.map_eq_some_iff.mp hgenerated
    have hfile : (sampleRun danglingTree "utf-8").outcome.2.disk.isFile?
        ((packageDir (sampleRun danglingTree "utf-8").intermediate).child "VarOld.groovy") = .ok true :=
      ok_of_toOption (by decide +kernel)
    have hnone : ∀ op e, ¬(sampleRun danglingTree "utf-8").Refused op e := by
      intro op e hrefused
      cases hrefused with
      | sources hdir hpath hlist =>
        obtain ⟨l, hl, hlists⟩ : (sampleRun danglingTree "utf-8").world.disk.Scannable
            (sampleRun danglingTree "utf-8").library := by decide +kernel
        cases hdir.symm.trans (ok_of_toOption hl)
        rw [Disk.list, hlists.unlisted? hpath] at hlist
        cases hlist
      | package hclasses hdir hlist =>
        exact Attempt.lookup_of_refused (.package hclasses hdir hlist) (by decide +kernel)
      | removal hclasses hfiles hearlier hfile hkeep hunlink =>
        have hfailed := Attempt.result_of_removal hclasses hfiles hearlier hfile hkeep hunlink
        cases hfailed.symm.trans (ok_of_toOption hp)
    exact ⟨p, hnone, ok_of_toOption hp, not_tidy hwrappers hfile (by decide)⟩

end Library

end JavaStubs
