import JavaStubs.Proofs.Library.Publishing

/-! Runs that publish below one root, one after the other, each with a library and an encoding of its own, and each
free to fail. -/
namespace JavaStubs.Library

open FileTree

/-- One run: what it is asked for, and the world in which it begins. -/
structure Attempt where
  settings : Settings
  library : SourceSet
  intermediate : FilePath
  encoding : String := "utf-8"
  world : World

namespace Attempt

def outcome (a : Attempt) : Except Failure Published × World :=
  (publish a.settings a.library a.intermediate a.encoding).runFrom a.world

def result (a : Attempt) : Except Failure Published :=
  a.outcome.1

def before (a : Attempt) : FileTree :=
  a.world.disk.tree

def after (a : Attempt) : FileTree :=
  a.outcome.2.disk.tree

def root (a : Attempt) : Loc :=
  a.world.disk.place a.intermediate

def libraryLoc (a : Attempt) : Loc :=
  a.world.disk.place a.library.directory

/-- Neither of library and root contains the other. -/
def Apart (a : Attempt) : Prop :=
  ¬Below a.libraryLoc a.root ∧ ¬Below a.root a.libraryLoc

/-- The run wrote all wrappers of its library, that of the class not among them, and failed after it had removed the
wrapper of the class. -/
def Removed (a : Attempt) (c : String) : Prop :=
  (∃ e, a.result = .error e) ∧
    (∃ wrappers count w, (publishClasses a.settings a.library a.intermediate a.encoding).runFrom a.world =
      (.ok (wrappers, count), w) ∧ ∀ x ∈ wrappers, x.className ≠ c) ∧
    (a.before.data? (wrapperLoc a.root c)).isSome = true ∧ a.after.data? (wrapperLoc a.root c) = none

/-- The run failed and left the registry as it was. -/
structure LeftRegistry (a : Attempt) : Prop where
  failed : ∃ e, a.result = .error e
  same : a.after.data? (registryLoc a.root) = a.before.data? (registryLoc a.root)

/-- The run has written a registry of these entries: the whole of it if the run succeeded, or a beginning if the system broke
off the writing, which is how the run failed. -/
inductive WroteRegistry (a : Attempt) : List (String × String) → List UInt8 → Prop
  | whole {p : Published} {data : List UInt8} (result : a.result = .ok p)
      (encodes : Charset.encodeAs a.encoding (registryText p.registry.entries) = .ok data) :
      a.WroteRegistry p.registry.entries data
  | part {scripts : List Script} {data : List UInt8} {arrived : Nat} {errno : Errno}
      (result : a.result = .error (.stub (.cannotWrite (registryPath a.intermediate) ⟨errno, none⟩)))
      (scan : a.world.disk.scan a.library = .ok scripts)
      (encodes : registryData a.encoding a.intermediate scripts = .ok data) :
      a.WroteRegistry (registryOf a.intermediate (scripts.map (wrapperOf a.intermediate))).entries (data.take arrived)

theorem outcome_eq (a : Attempt) :
    (publish a.settings a.library a.intermediate a.encoding).runFrom a.world = (a.result, a.outcome.2) := rfl

theorem run_eq {a : Attempt} {r : Except Failure Published} (h : a.result = r) :
    (publish a.settings a.library a.intermediate a.encoding).runFrom a.world = (r, a.outcome.2) := by
  rw [a.outcome_eq, h]

theorem mem_entries {intermediate : FilePath} {scripts : List Script} {x : String × String}
    (h : x ∈ (registryOf intermediate (scripts.map (wrapperOf intermediate))).entries) : ∃ s ∈ scripts, x.2 = classOf s := by
  rw [registryOf, List.mem_mergeSort, List.mem_map] at h
  obtain ⟨y, hy, rfl⟩ := h
  obtain ⟨s, hs, rfl⟩ := List.mem_map.1 hy
  exact ⟨s, hs, rfl⟩

/-- A run leaves the registry alone and fails, or it writes one, and then all wrappers are there. -/
theorem registry_cases (a : Attempt) (hfree : a.before.LinkFree) : a.LeftRegistry ∨
    ∃ entries bytes, a.WroteRegistry entries bytes ∧ a.after.data? (registryLoc a.root) = some bytes ∧
      ∀ x ∈ entries, (a.after.data? (wrapperLoc a.root x.2)).isSome = true := by
  cases hr : a.result with
  | ok p =>
    obtain ⟨scripts, -, -, hreg, ⟨data, hdata, hthere⟩, hwrappers, -⟩ := publish_succeeded hfree (run_eq hr)
    refine .inr ⟨_, data, .whole hr hdata, hthere, fun x hx => ?_⟩
    rw [hreg] at hx
    obtain ⟨s, hs, hclass⟩ := mem_entries hx
    obtain ⟨wrapper, -, hwrapper⟩ := hwrappers s hs
    rw [hclass, after, root, hwrapper]
    rfl
  | error e =>
    obtain ⟨hsame | ⟨scripts, hscan, ⟨data, arrived, errno, hdata, rfl, hthere⟩, hwrappers⟩, -⟩ :=
      publish_failed hfree (run_eq hr)
    · exact .inl ⟨⟨e, hr⟩, hsame⟩
    · refine .inr ⟨_, _, .part hr hscan hdata, hthere, fun x hx => ?_⟩
      obtain ⟨s, hs, hclass⟩ := mem_entries hx
      rw [hclass]
      exact hwrappers s hs

/-- A run that fails loses no wrapper that was there, unless it removed it. -/
theorem wrapper_cases (a : Attempt) (hfree : a.before.LinkFree) {e : Failure} (hfail : a.result = .error e) {c : String}
    (h : (a.before.data? (wrapperLoc a.root c)).isSome = true) :
    (a.after.data? (wrapperLoc a.root c)).isSome = true ∨ a.Removed c := by
  rcases (publish_failed hfree (run_eq hfail)).2 c h with hstays | hclasses
  · exact .inl hstays
  · by_cases hstays : (a.after.data? (wrapperLoc a.root c)).isSome = true
    · exact .inl hstays
    · exact .inr ⟨⟨e, hfail⟩, hclasses, h, by simpa using hstays⟩

end Attempt

/-- Runs that publish below a root, the latest first, and the tree after the latest. At first there is nothing at the
root. Between two runs anything may change but what is at or below the root. -/
inductive Reached (root : Loc) : List Attempt → FileTree → Prop
  | absent {t} : (∀ l, Below root l → t.get? l = none) → Reached root [] t
  | attempt {as t} {a : Attempt} : Reached root as t → a.before.LinkFree → a.root = root →
      (∀ l, Below root l → a.before.get? l = t.get? l) → Reached root (a :: as) a.after

theorem data?_of_get?_eq {t t' : FileTree} {l : Loc} (h : t'.get? l = t.get? l) : t'.data? l = t.data? l :=
  data?_of_content?_eq (congrArg (Option.map Entry.content) h)

namespace Reached

variable {root : Loc} {as : List Attempt} {t : FileTree}

/-- Whatever runs there were, the registry is what the latest run has written that came to it, in whole or in part, if one did.
Each class of it has its wrapper, unless a later run that failed removed it: one that wrote all wrappers of a library without
the class. -/
theorem registry_of_last_write (h : Reached root as t) :
    ((∀ a ∈ as, a.LeftRegistry) ∧ t.data? (registryLoc root) = none) ∨
      ∃ later a earlier entries bytes, as = later ++ a :: earlier ∧ a.WroteRegistry entries bytes ∧
        (∀ b ∈ later, b.LeftRegistry) ∧ t.data? (registryLoc root) = some bytes ∧
        ∀ x ∈ entries, (t.data? (wrapperLoc root x.2)).isSome = true ∨ ∃ b ∈ later, b.Removed x.2 := by
  induction h with
  | absent hnone =>
    refine .inl ⟨by simp, ?_⟩
    rw [FileTree.data?, content?_eq_none.2 (hnone _ (below_registryLoc root))]
  | @attempt as t a _ hfree hroot hsame ih =>
    subst hroot
    rcases a.registry_cases hfree with hleft | ⟨entries, bytes, hwrote, hthere, hwrappers⟩
    · have hbefore : a.after.data? (registryLoc a.root) = t.data? (registryLoc a.root) :=
        hleft.same.trans (data?_of_get?_eq (hsame _ (below_registryLoc _)))
      rcases ih with ⟨hall, hnone⟩ | ⟨later, b, earlier, entries, bytes, rfl, hwrote, hlater, hthere, hlisted⟩
      · exact .inl ⟨List.forall_mem_cons.2 ⟨hleft, hall⟩, hbefore.trans hnone⟩
      · refine .inr ⟨a :: later, b, earlier, entries, bytes, rfl, hwrote, List.forall_mem_cons.2 ⟨hleft, hlater⟩,
          hbefore.trans hthere, fun x hx => ?_⟩
        rcases hlisted x hx with hsome | ⟨c, hc, hremoved⟩
        · rw [← data?_of_get?_eq (hsame _ (below_wrapperLoc _ _))] at hsome
          obtain ⟨e, he⟩ := hleft.failed
          exact (a.wrapper_cases hfree he hsome).imp_right fun hremoved => ⟨a, List.mem_cons_self, hremoved⟩
        · exact .inr ⟨c, List.mem_cons_of_mem _ hc, hremoved⟩
    · exact .inr ⟨[], a, as, entries, bytes, rfl, hwrote, by simp, hthere, fun x hx => .inl (hwrappers x hx)⟩

end Reached

theorem get?_erase_below {t : FileTree} {root x : Loc} (hx : ¬Below root x) {l : Loc} (hl : Below root l) :
    (t.erase x).get? l = t.get? l := by
  rw [get?_erase, if_neg]
  rintro rfl
  exact hx hl

theorem get?_below_eq_none {t : FileTree} {root : Loc} (h : ∀ e ∈ t.entries, ¬Below root e.1) {l : Loc}
    (hl : Below root l) : t.get? l = none := by
  rw [Option.eq_none_iff_forall_ne_some]
  intro e he
  exact h _ (get?_eq_some_iff.1 he) hl

/-- A project with one script in its library. -/
def sampleTree : FileTree where
  entries := [([], .dir .now), (["p"], .dir .now), (["vars", "p"], .dir .now),
    (["a.groovy", "vars", "p"], .file [35, 10] .now .now)]
  nodup := by decide

def sampleRoot : Loc := ["out", "p"]

/-- A run in that project, in the state that `tree` is in. -/
def sampleRun (tree : FileTree) (encoding : String) : Attempt where
  settings := { runId := "r", root := ⟨.slash, ["p"]⟩, quiet := true }
  library := ⟨⟨.slash, ["p", "vars"]⟩, ["**/*.groovy"], [], none, none, .globalVars⟩
  intermediate := ⟨.slash, ["p", "out"]⟩
  encoding
  world := { disk := { tree, cwd := ⟨.slash, ["p"]⟩ }, moment := ⟨2024, 1, 2, 3, 4, 5, 0⟩ }

/-- The project after a run and after its script was deleted. -/
def sampleDeleted : FileTree :=
  (sampleRun sampleTree "utf-8").after.erase ["a.groovy", "vars", "p"]

theorem linkFree_sampleDeleted : sampleDeleted.LinkFree := by
  decide +kernel

theorem apart_sampleRun (tree : FileTree) (encoding : String) : (sampleRun tree encoding).Apart :=
  ⟨show ¬Below ["vars", "p"] sampleRoot by decide, show ¬Below sampleRoot ["vars", "p"] by decide⟩

theorem reached_sampleTree :
    Reached sampleRoot [sampleRun sampleTree "utf-8"] (sampleRun sampleTree "utf-8").after :=
  .attempt (.absent fun _ => get?_below_eq_none (by decide)) (by decide) rfl fun _ _ => rfl

theorem reached_sampleDeleted (encoding : String) :
    Reached sampleRoot [sampleRun sampleDeleted encoding, sampleRun sampleTree "utf-8"]
      (sampleRun sampleDeleted encoding).after :=
  .attempt reached_sampleTree linkFree_sampleDeleted rfl fun _ => get?_erase_below (by decide)

/-- In the sample the first run succeeds and the second one, in an encoding that does not exist, fails. -/
theorem registry_of_sampleDeleted :
    Reached sampleRoot [sampleRun sampleDeleted "none", sampleRun sampleTree "utf-8"]
        (sampleRun sampleDeleted "none").after ∧
      ∃ (a : Attempt) (entries : List (String × String)) (bytes : List UInt8), a.WroteRegistry entries bytes ∧
        (sampleRun sampleDeleted "none").after.data? (registryLoc sampleRoot) = some bytes := by
  refine ⟨reached_sampleDeleted "none", ?_⟩
  rcases (reached_sampleDeleted "none").registry_of_last_write with
    ⟨hleft, -⟩ | ⟨later, a, earlier, entries, bytes, -, hwrote, -, hthere, -⟩
  · have hok : (sampleRun sampleTree "utf-8").result.isOk = true := by decide +kernel
    obtain ⟨e, hr⟩ := (hleft (sampleRun sampleTree "utf-8") (by simp)).failed
    rw [hr] at hok
    cases hok
  · exact ⟨a, entries, bytes, hwrote, hthere⟩

def Declares (t : FileTree) (root : Loc) (c : String) : Prop :=
  ∃ encoding entries data, Charset.encodeAs encoding (registryText entries) = .ok data ∧
    t.data? (registryLoc root) = some data ∧ ∃ v, (v, c) ∈ entries

/-- Not every class of the registry has its wrapper: the second run of the sample removes the wrapper of the deleted
script, and then it cannot encode the registry. -/
theorem registry_may_dangle : ¬∀ root as t, Reached root as t → (∀ a ∈ as, a.Apart) →
    ∀ c, Declares t root c → (t.data? (wrapperLoc root c)).isSome = true := by
  intro h
  have hdeclares : Declares (sampleRun sampleDeleted "none").after sampleRoot "VarA" := by
    refine ⟨"utf-8", [("a", "VarA")], (registryText [("a", "VarA")]).toList.flatMap Charset.utf8Bytes, ?_, ?_, "a", ?_⟩
    · exact ok_of_toOption (by decide +kernel)
    · decide +kernel
    · decide
  have hapart : ∀ a ∈ [sampleRun sampleDeleted "none", sampleRun sampleTree "utf-8"], a.Apart := by
    intro a ha
    simp only [List.mem_cons, List.not_mem_nil, or_false] at ha
    rcases ha with rfl | rfl <;> exact apart_sampleRun _ _
  have hwrapper := h _ _ _ (reached_sampleDeleted "none") hapart _ hdeclares
  revert hwrapper
  decide +kernel

end JavaStubs.Library
