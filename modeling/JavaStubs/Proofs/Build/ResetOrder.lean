import Mathlib.Data.List.TakeWhile
import JavaStubs.Proofs.Build.Timestamps
import JavaStubs.Proofs.Disk.RecursiveWalk

/-! The order in which times are set back, on one walk over the tree that lists directories and sets files. The first
step that is refused ends it. -/
namespace JavaStubs

open Disk FileTree

/-- A step of the walk that sets times back: a directory is listed, or the time of a file is set. -/
inductive Visit where
  | list (m : Met)
  | set (m : Met)
  deriving DecidableEq

def Visit.file? : Visit → Option Met
  | list _ => none
  | set m => some m

/-- The steps of the walk below a directory: it is listed, its files are set in the order of their names, and then come
the steps below each real directory in it, in the order of theirs. -/
def FileTree.visits (t : FileTree) (m : Met) : List Visit :=
  if _h : t.isDir m.loc then
    .list m :: ((t.filesIn m.loc).map m.child).map .set ++ (t.dirsIn m.loc).flatMap fun c => visits t (m.child c)
  else []
  termination_by t.size m.loc
  decreasing_by exact size_child_lt _h c

/-- A directory whose entries are kept in the order of their names is walked in that order. -/
theorem FileTree.visits_of_sorted {t : FileTree} {m : Met} (files dirs : List String)
    (h : t.isDir m.loc = true ∧ (t.children m.loc).Pairwise (fun a b => decide (a.1 ≤ b.1) = true) ∧
      fileNames (t.children m.loc) = files ∧ dirNames (t.children m.loc) = dirs) :
    t.visits m = .list m :: (files.map m.child).map .set ++ dirs.flatMap fun c => t.visits (m.child c) := by
  obtain ⟨hdir, hsorted, rfl, rfl⟩ := h
  have hlisting : t.listing m.loc = t.children m.loc := List.mergeSort_of_pairwise hsorted
  rw [visits, dif_pos hdir, filesIn, dirsIn, hlisting]

def Disk.refusal? (d : Disk) : Visit → Option OsError
  | .list m => (d.unlisted? m.path).map (.at · m.path)
  | .set m => (d.untimed? m.path).map (.at · m.path)

theorem Disk.refusal?_eq {d d' : Disk} (h : d'.rules = d.rules) : d'.refusal? = d.refusal? := by
  funext v
  cases v with
  | list m => rw [refusal?, refusal?, unlisted?_eq h]
  | set m => rw [refusal?, refusal?, untimed?_eq h]

namespace Visit

/-- The files that are set by the steps before the first refused one. -/
def passed (refusal? : Visit → Option OsError) (steps : List Visit) : List Met :=
  (steps.takeWhile fun v => (refusal? v).isNone).filterMap Visit.file?

/-- The files that the listings of a walk make known, up to the first listing that is refused. -/
def found (refusal? : Visit → Option OsError) : List Visit → Trace Met
  | [] => .done
  | .list m :: steps =>
    match refusal? (.list m) with
    | some e => .failed (.os e)
    | none => found refusal? steps
  | .set m :: steps => .after [m] (found refusal? steps)

variable {refusal? : Visit → Option OsError} {v : Visit} {steps : List Visit}

theorem passed_of_refused {e : OsError} (h : refusal? v = some e) : passed refusal? (v :: steps) = [] := by
  rw [passed, List.takeWhile_cons, h]
  rfl

theorem passed_of_allowed (h : refusal? v = none) :
    passed refusal? (v :: steps) = v.file?.toList ++ passed refusal? steps := by
  rw [passed, List.takeWhile_cons, h]
  cases v <;> rfl

theorem passed_of_all_allowed (h : ∀ v ∈ steps, refusal? v = none) :
    passed refusal? steps = steps.filterMap Visit.file? := by
  have hall : ∀ v ∈ steps, (refusal? v).isNone = true := by
    intro v hv
    rw [h v hv]
    rfl
  rw [passed, List.takeWhile_eq_self_iff.2 hall]

theorem passed_of_first_refused {e : OsError} {before after : List Visit}
    (hbefore : ∀ u ∈ before, refusal? u = none) (hv : refusal? v = some e) :
    passed refusal? (before ++ v :: after) = before.filterMap Visit.file? := by
  have hall : ∀ u ∈ before, (refusal? u).isNone = true := by
    intro u hu
    rw [hbefore u hu]
    rfl
  rw [passed, List.takeWhile_append_of_pos hall, List.takeWhile_cons, hv, Option.isNone_some]
  exact congrArg _ (List.append_nil before)

theorem found_append (refusal? : Visit → Option OsError) (steps more : List Visit) :
    found refusal? (steps ++ more) = (found refusal? steps).append (found refusal? more) := by
  induction steps with
  | nil => exact Trace.done_append.symm
  | cons v steps ih =>
    cases v with
    | list m =>
      rw [List.cons_append, found, found]
      cases refusal? (.list m) with
      | none => exact ih
      | some e => rfl
    | set m => rw [List.cons_append, found, found, ih, Trace.after_append]

theorem found_flatMap (refusal? : Visit → Option OsError) (f : α → List Visit) (xs : List α) :
    found refusal? (xs.flatMap f) = .join (xs.map fun x => found refusal? (f x)) := by
  induction xs with
  | nil => rfl
  | cons x xs ih => rw [List.flatMap_cons, found_append, ih, List.map_cons, Trace.join]

theorem found_set (refusal? : Visit → Option OsError) (ms : List Met) (steps : List Visit) :
    found refusal? (ms.map .set ++ steps) = .after ms (found refusal? steps) := by
  induction ms with
  | nil => rfl
  | cons m ms ih =>
    rw [List.map_cons, List.cons_append, found, ih]
    rfl

end Visit

namespace Disk

variable {d : Disk} {m : Met}

/-- The recursive walk meets what the listings among its steps make known. -/
theorem walkBelow_eq_found (hdir : d.tree.isDir m.loc = true) :
    d.walkBelow m = Visit.found d.refusal? (d.tree.visits m) := by
  fun_induction FileTree.visits d.tree m
  case case1 m hd ih =>
    have hnested : ∀ c ∈ d.tree.dirsIn m.loc,
        d.walkBelow (m.child c) = Visit.found d.refusal? (d.tree.visits (m.child c)) := fun c hc => ih c (mem_dirNames.1 hc)
    rw [walkBelow, dif_pos hd, list, List.cons_append, Visit.found, refusal?]
    cases d.unlisted? m.path with
    | some errno => rfl
    | none =>
      rw [Option.map_none]
      dsimp only
      rw [Visit.found_set, Visit.found_flatMap, ← List.map_congr_left hnested]
      rfl
  case case2 hd => exact absurd hdir hd

theorem visits_eq {d' : Disk} (h : d.SameContents d') (m : Met) : d'.tree.visits m = d.tree.visits m := by
  fun_induction FileTree.visits d.tree m
  case case1 m hd ih =>
    have hfiles : d'.tree.filesIn m.loc = d.tree.filesIn m.loc := by
      rw [filesIn, filesIn, fileNames_listing, fileNames_listing, h.contents_eq]
    have hdirs : d'.tree.dirsIn m.loc = d.tree.dirsIn m.loc := h.dirNames_eq m.loc
    rw [visits, dif_pos ((h.tree.isDir m.loc).trans hd), hfiles, hdirs]
    simp only [ih]
  case case2 m hd => rw [visits, dif_neg (by rwa [h.tree.isDir m.loc])]

/-- The files of a walk, in the order in which its steps set them. -/
theorem filterMap_visits (t : FileTree) (m : Met) : (t.visits m).filterMap Visit.file? = t.filesBelow m := by
  fun_induction FileTree.visits t m
  case case1 m hd ih =>
    have hfiles : ∀ ms : List Met, (ms.map Visit.set).filterMap Visit.file? = ms := by
      intro ms
      rw [List.filterMap_map]
      exact List.filterMap_some
    rw [filesBelow, dif_pos hd, List.cons_append, List.filterMap_cons, List.filterMap_append, hfiles,
      List.filterMap_flatMap]
    exact congrArg _ (congrArg List.flatten (List.map_congr_left fun c _ => ih c))
  case case2 m hd =>
    rw [filesBelow, dif_neg hd]
    rfl

/-- What the stub walk meets below a directory is what the listings among its steps make known. -/
theorem stubFiles_eq_found {p : FilePath} {root : Loc} {modified : Stamp} (hs : d.stat p = .ok (root, .dir modified)) :
    d.stubFiles p = Visit.found d.refusal? (d.tree.visits ⟨p, root⟩) := by
  have hdir : d.tree.isDir root = true := isDir_iff.2 ⟨modified, get?_of_stat hs⟩
  rw [← walkBelow_eq_found hdir, stubFiles, hs]
  cases hdenied : d.unlisted? p with
  | none => exact stubFilesFrom_singleton d _
  | some errno => rw [walkBelow, dif_pos hdir, list, hdenied]

end Disk

/-- The worlds before and after the times of some files were set back: nothing but the disk differs, and on it nothing but
the modification times of these files, which are the epoch. -/
structure World.SetBack (files : List Met) (w w' : World) : Prop where
  rest : w' = { w with disk := { w.disk with tree := w'.disk.tree } }
  tree : ∀ l, w'.disk.tree.get? l =
    if l ∈ files.map (·.loc) then (w.disk.tree.get? l).map (Entry.stamped epoch) else w.disk.tree.get? l

namespace World.SetBack

variable {w w₁ w' : World} {m : Met} {files : List Met}

theorem refl (w : World) : SetBack [] w w :=
  ⟨rfl, fun _ => rfl⟩

theorem cons (h : SetBack [m] w w₁) (h' : SetBack files w₁ w') : SetBack (m :: files) w w' := by
  constructor
  · rw [h'.rest, h.rest]
  · intro l
    have hfirst := h.tree l
    simp only [List.map_cons, List.map_nil, List.mem_singleton] at hfirst
    rw [h'.tree, hfirst]
    by_cases hl : l = m.loc
    · simp only [hl, if_true, List.map_cons, List.mem_cons, true_or, Entry.map_stamped_stamped, ite_self]
    · simp only [hl, if_false, List.map_cons, List.mem_cons, false_or]

theorem rules (h : SetBack files w w') : w'.disk.rules = w.disk.rules := by
  rw [h.rest]
  rfl

theorem sameContents (h : SetBack files w w') : w.disk.SameContents w'.disk := by
  refine ⟨fun l => ?_, by rw [h.rest], h.rules⟩
  rw [content?, content?, h.tree]
  split
  · rcases w.disk.tree.get? l with _ | e
    · rfl
    · cases e <;> rfl
  · rfl

/-- Setting the same files back once more changes nothing. -/
theorem again (h : SetBack files w w₁) (h' : SetBack files w₁ w') : SetBack [] w₁ w' := by
  refine ⟨h'.rest, fun l => ?_⟩
  rw [h'.tree, List.map_nil, if_neg List.not_mem_nil, h.tree]
  split
  · exact Entry.map_stamped_stamped _ _
  · rfl

end World.SetBack

namespace Action

variable {w w' : World} {p : FilePath} {n : Nat} {m : Met} {steps : List Visit}

/-- Setting the time of one file back is refused, or it is done. -/
theorem runFrom_setModified_of_refused {e : OsError} (h : w.disk.refusal? (.set m) = some e) :
    (change fun d => d.setModified m.path m.loc epoch).runFrom w = (.error (.access (.os e)), w) := by
  obtain ⟨errno, hlookup, rfl⟩ := Option.map_eq_some_iff.1 h
  rw [runFrom_change, setModified, hlookup]

theorem runFrom_setModified_of_allowed (h : w.disk.refusal? (.set m) = none)
    (hfile : (w.disk.tree.data? m.loc).isSome = true) :
    ∃ w', (change fun d => d.setModified m.path m.loc epoch).runFrom w = (.ok (), w') ∧ w.SetBack [m] w' := by
  obtain ⟨d, hd⟩ := setModified_of_data? epoch (Option.map_eq_none_iff.1 h) hfile
  refine ⟨{ w with disk := d }, by rw [runFrom_change, hd], ?_, fun l => ?_⟩
  · obtain ⟨⟨-, hcwd, hrules⟩, -⟩ := setModified_ok hd
    obtain ⟨tree, cwd, denied, obstacles⟩ := d
    cases hcwd
    cases denied_eq hrules
    cases obstacles_eq hrules
    rfl
  · simp only [List.map_cons, List.map_nil, List.mem_singleton]
    exact setModified_eq hd l

/-- What a walk meets after one file is set back once that file is. -/
theorem runFrom_resetMet_after (m : Met) (t : Trace Met) (w : World) :
    (resetMet (.after [m] t)).runFrom w =
      ((change fun d => d.setModified m.path m.loc epoch) >>= fun _ =>
        resetMet t >>= fun n => pure (n + 1)).runFrom w := by
  unfold resetMet
  rw [Trace.after, List.cons_append, List.nil_append, resetFiles]
  simp only [bind_assoc]
  congr 2
  funext _
  congr 1
  funext _
  cases t.stop? <;> rfl

/-- Setting back what a walk meets ends with the first refused step of the walk, and has set what comes before it. -/
theorem runFrom_resetMet_found
    (hfiles : ∀ m ∈ steps.filterMap Visit.file?, (w.disk.tree.data? m.loc).isSome = true) :
    ∃ w', (resetMet (Visit.found w.disk.refusal? steps)).runFrom w =
        ((steps.findSome? w.disk.refusal?).elim (.ok (steps.filterMap Visit.file?).length)
          fun e => .error (.access (.os e)), w') ∧
      w.SetBack (Visit.passed w.disk.refusal? steps) w' := by
  induction steps generalizing w with
  | nil => exact ⟨w, rfl, .refl w⟩
  | cons v steps ih =>
    cases hrefused : w.disk.refusal? v with
    | some e =>
      rw [List.findSome?_cons, hrefused, Visit.passed_of_refused hrefused]
      refine ⟨w, ?_, .refl w⟩
      cases v with
      | list m =>
        rw [Visit.found, hrefused]
        rfl
      | set m =>
        rw [Visit.found, runFrom_resetMet_after]
        exact Acting.runFrom_bind_of_error (runFrom_setModified_of_refused hrefused)
    | none =>
      rw [List.findSome?_cons, hrefused, Visit.passed_of_allowed hrefused]
      cases v with
      | list m =>
        rw [Visit.found, hrefused]
        exact ih hfiles
      | set m =>
        obtain ⟨hfile, hrest⟩ := List.forall_mem_cons.1 hfiles
        obtain ⟨w₁, hone, hset⟩ := runFrom_setModified_of_allowed hrefused hfile
        obtain ⟨w', hrun, hmore⟩ := @ih w₁ fun x hx => by
          rw [hset.sameContents.tree.data?]
          exact hrest x hx
        rw [refusal?_eq hset.rules] at hrun hmore
        refine ⟨w', ?_, hset.cons hmore⟩
        rw [Visit.found, runFrom_resetMet_after, Acting.runFrom_bind_of_ok hone, Acting.runFrom_bind_pure, hrun]
        cases steps.findSome? w.disk.refusal? <;> rfl

/-- Below a directory, times are set back on what its walk meets. -/
theorem runFrom_resetTimes_of_dir (hdir : w.disk.isDir? p = .ok true) :
    (resetTimes p).runFrom w = (((resetMet (w.disk.stubFiles p)).runFrom w).1.mapError (Failure.refused .cannotReset),
      ((resetMet (w.disk.stubFiles p)).runFrom w).2) := by
  have hlook : (look fun d => (d.isDir? p).mapError .access).runFrom w = (.ok true, w) := by
    rw [runFrom_look, hdir]
    rfl
  rw [resetTimes, Acting.runFrom_bind_of_ok hlook]
  dsimp only
  rw [if_neg (by decide), Acting.runFrom_mapFailure, Acting.runFrom_bind_of_ok (runFrom_disk w)]
  rfl

variable {root : Loc} {modified : Stamp}

/-- The first refused step of the walk ends it. -/
theorem runFrom_resetTimes_visits (hs : w.disk.stat p = .ok (root, .dir modified)) :
    ∃ w', (resetTimes p).runFrom w =
        (((w.disk.tree.visits ⟨p, root⟩).findSome? w.disk.refusal?).elim
          (.ok ((w.disk.tree.visits ⟨p, root⟩).filterMap Visit.file?).length) fun e => .error (.stub (.cannotReset e)),
          w') ∧
      w.SetBack (Visit.passed w.disk.refusal? (w.disk.tree.visits ⟨p, root⟩)) w' := by
  have hdir : w.disk.tree.isDir root = true := isDir_iff.2 ⟨modified, get?_of_stat hs⟩
  have hfiles : ∀ m ∈ (w.disk.tree.visits ⟨p, root⟩).filterMap Visit.file?,
      (w.disk.tree.data? m.loc).isSome = true := by
    intro m hm
    rw [filterMap_visits] at hm
    obtain ⟨data, time, a, he⟩ := ((mem_filesBelow hdir).1 (List.mem_map_of_mem hm)).file
    exact data?_eq_some.2 (content?_of_get? he) ▸ rfl
  obtain ⟨w', hrun, hset⟩ := runFrom_resetMet_found hfiles
  refine ⟨w', ?_, hset⟩
  rw [runFrom_resetTimes_of_dir (test_of_stat _ hs), stubFiles_eq_found hs, hrun]
  cases (w.disk.tree.visits ⟨p, root⟩).findSome? w.disk.refusal? <;> rfl

end Action

/-- How times are set back below the directory that a path leads to. -/
structure World.ResetInOrder (p : FilePath) (root : Loc) (w : World) : Prop where
  /-- The walk sets the regular files that real directories lead to. -/
  files : ∀ l, l ∈ ((w.disk.tree.visits ⟨p, root⟩).filterMap Visit.file?).map (·.loc) ↔ RealFile w.disk.tree root l
  succeeds_iff : (∃ n, ((Action.resetTimes p).runFrom w).1 = .ok n) ↔
    ∀ v ∈ w.disk.tree.visits ⟨p, root⟩, w.disk.refusal? v = none
  /-- A walk without a refused step sets and counts all its files, and setting them once more changes nothing. -/
  completed : (∀ v ∈ w.disk.tree.visits ⟨p, root⟩, w.disk.refusal? v = none) →
    ∃ files w' w'', files = (w.disk.tree.visits ⟨p, root⟩).filterMap Visit.file? ∧
      (Action.resetTimes p).runFrom w = (.ok files.length, w') ∧ w.SetBack files w' ∧
      (Action.resetTimes p).runFrom w' = (.ok files.length, w'') ∧ w'.SetBack [] w''
  /-- The first refused step ends the walk, and the files before it are those that were set. -/
  stopped : ∀ before v after e, w.disk.tree.visits ⟨p, root⟩ = before ++ v :: after →
    (∀ u ∈ before, w.disk.refusal? u = none) → w.disk.refusal? v = some e →
    ∃ w', (Action.resetTimes p).runFrom w = (.error (.stub (.cannotReset e)), w') ∧
      w.SetBack (before.filterMap Visit.file?) w'

/-- Setting times back below a directory goes along one walk over the tree and stops at the first listing or file that
is refused. What it set are exactly the files before that. -/
theorem Action.resetTimes_in_order {w : World} {p : FilePath} {root : Loc} {modified : Stamp}
    (hs : w.disk.stat p = .ok (root, .dir modified)) : w.ResetInOrder p root := by
  have hdir : w.disk.tree.isDir root = true := isDir_iff.2 ⟨modified, get?_of_stat hs⟩
  obtain ⟨w', hrun, hset⟩ := runFrom_resetTimes_visits hs
  constructor
  case files =>
    intro l
    rw [filterMap_visits]
    exact mem_filesBelow hdir
  case succeeds_iff =>
    rw [hrun, ← List.findSome?_eq_none_iff]
    cases (w.disk.tree.visits ⟨p, root⟩).findSome? w.disk.refusal? <;> simp
  case completed =>
    intro hnone
    obtain ⟨modified', hs'⟩ := hset.sameContents.stat_dir hs
    obtain ⟨w'', hagain, hset'⟩ := runFrom_resetTimes_visits hs'
    rw [List.findSome?_eq_none_iff.2 hnone] at hrun
    rw [visits_eq hset.sameContents, refusal?_eq hset.rules, List.findSome?_eq_none_iff.2 hnone] at hagain
    rw [visits_eq hset.sameContents, refusal?_eq hset.rules] at hset'
    refine ⟨_, w', w'', rfl, hrun, ?_, hagain, hset.again hset'⟩
    rwa [Visit.passed_of_all_allowed hnone] at hset
  case stopped =>
    intro before v after e hsteps hbefore hv
    have hfirst : (before ++ v :: after).findSome? w.disk.refusal? = some e := by
      rw [List.findSome?_append, List.findSome?_eq_none_iff.2 hbefore, List.findSome?_cons, hv]
      rfl
    rw [hsteps] at hrun hset
    rw [hfirst] at hrun
    rw [Visit.passed_of_first_refused hbefore hv] at hset
    exact ⟨w', hrun, hset⟩

/-- Stubs in three directories, of which the second may not be listed. A link leads to a file in it. -/
def lockedSample : World where
  disk :=
    { tree :=
        { entries :=
            [([], .dir .now), (["s"], .dir (.known 7)), (["A.java", "s"], .file [65] (.known 5) (.known 3)),
              (["a", "s"], .dir (.known 7)), (["B.java", "a", "s"], .file [66] (.known 5) (.known 3)),
              (["b", "s"], .dir (.known 7)), (["C.java", "b", "s"], .file [67] (.known 5) (.known 3)),
              (["c", "s"], .dir (.known 7)), (["D.java", "c", "s"], .file [68] (.known 5) (.known 3)),
              (["C.java", "a", "s"], .link "../b/C.java")]
          nodup := by decide }
      cwd := .root
      denied := { listing := [("/s/b", .EACCES)] } }
  moment := ⟨2024, 1, 2, 3, 4, 5, 0⟩

/-- In the sample the files of the first two listings are set, and neither the file behind the link nor the last one. -/
theorem reset_of_lockedSample :
    lockedSample.disk.stat ⟨.slash, ["s"]⟩ = .ok (["s"], .dir (.known 7)) ∧
      ∃ w', (Action.resetTimes ⟨.slash, ["s"]⟩).runFrom lockedSample =
          (.error (.stub (.cannotReset (.at .EACCES ⟨.slash, ["s", "b"]⟩))), w') ∧
        w'.disk.tree.get? ["B.java", "a", "s"] = some (.file [66] epoch (.known 3)) ∧
        w'.disk.tree.get? ["C.java", "b", "s"] = some (.file [67] (.known 5) (.known 3)) ∧
        w'.disk.tree.get? ["D.java", "c", "s"] = some (.file [68] (.known 5) (.known 3)) := by
  have hs : lockedSample.disk.stat ⟨.slash, ["s"]⟩ = .ok (["s"], .dir (.known 7)) := ok_of_toOption (by decide +kernel)
  have hsteps : lockedSample.disk.tree.visits ⟨⟨.slash, ["s"]⟩, ["s"]⟩ =
      [.list ⟨⟨.slash, ["s"]⟩, ["s"]⟩, .set ⟨⟨.slash, ["s", "A.java"]⟩, ["A.java", "s"]⟩,
        .list ⟨⟨.slash, ["s", "a"]⟩, ["a", "s"]⟩, .set ⟨⟨.slash, ["s", "a", "B.java"]⟩, ["B.java", "a", "s"]⟩] ++
      .list ⟨⟨.slash, ["s", "b"]⟩, ["b", "s"]⟩ ::
        [.set ⟨⟨.slash, ["s", "b", "C.java"]⟩, ["C.java", "b", "s"]⟩, .list ⟨⟨.slash, ["s", "c"]⟩, ["c", "s"]⟩,
          .set ⟨⟨.slash, ["s", "c", "D.java"]⟩, ["D.java", "c", "s"]⟩] := by
    rw [FileTree.visits_of_sorted ["A.java"] ["a", "b", "c"] (by decide +kernel), List.flatMap_cons, List.flatMap_cons,
      List.flatMap_cons, FileTree.visits_of_sorted ["B.java"] [] (by decide +kernel),
      FileTree.visits_of_sorted ["C.java"] [] (by decide +kernel),
      FileTree.visits_of_sorted ["D.java"] [] (by decide +kernel)]
    rfl
  obtain ⟨w', hrun, hset⟩ := (Action.resetTimes_in_order hs).stopped _ _ _ _ hsteps (by decide +kernel)
    (show _ = some (.at .EACCES ⟨.slash, ["s", "b"]⟩) by decide +kernel)
  refine ⟨hs, w', hrun, ?_, ?_, ?_⟩
  · rw [hset.tree]
    decide +kernel
  · rw [hset.tree]
    decide +kernel
  · rw [hset.tree]
    decide +kernel

end JavaStubs
