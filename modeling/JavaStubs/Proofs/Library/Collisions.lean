import JavaStubs.Proofs.Library.History
import JavaStubs.Proofs.Library.Precautions
import JavaStubs.Proofs.Source.Rescan
import Mathlib.Data.List.Nodup

/-! Libraries that are not published, as two of their scripts would become one class. All such classes are reported,
and nothing was written before. -/
namespace JavaStubs

theorem Disk.nodup_paths_of_scan {d : Disk} {s : SourceSet} {mappings : List SuffixMapping} {scripts : List Script}
    (h : d.scan s mappings = .ok scripts) : (scripts.map (·.path)).Nodup := by
  obtain ⟨habs, l, m, hs, -⟩ := scan_ok h
  obtain ⟨found, hfound, hscripts⟩ := scripts_of_scan h hs
  have hselected : ((sortByText found).filter (s.selects mappings)).Nodup := by
    have hsorted : (sortByText found).Nodup := (List.mergeSort_perm _ _).nodup_iff.2 (nodup_of_leaves hfound)
    exact hsorted.sublist List.filter_sublist
  rw [hscripts, List.map_map]
  have hinj : Function.Injective fun names => (Script.ofPath d.cwd (s.directory.descend names)).path := by
    intro names names' heq
    have heq' : s.directory.descend names = s.directory.descend names' := by
      simpa [ofPath_descend habs] using heq
    exact List.append_cancel_left (congrArg (·.parts) heq')
  exact List.Nodup.map hinj hselected

namespace Library

variable {scripts : List Script} {x y : Script} {c : String}

theorem classOf_eq_iff : classOf x = classOf y ↔
    Text.upper (variableName x.baseName) = Text.upper (variableName y.baseName) := by
  rw [classOf, classOf, className, className, String.append_right_inj]

def Shared (scripts : List Script) (c : String) : Prop :=
  ∃ x ∈ scripts, ∃ y ∈ scripts, x ≠ y ∧ classOf x = c ∧ classOf y = c

/-- What is reported of scripts that collide: the classes that more than one script has, each once and in order, and with
each of them all of its scripts, in the order in which they were found. -/
structure Reported (scripts : List Script) (e : StubError) (classes : List String) : Prop where
  sorted : classes.Pairwise (· < ·)
  shared : ∀ c, c ∈ classes ↔ Shared scripts c
  message : e.message = "global variable names collide on wrapper class: " ++
    "; ".intercalate (classes.map fun c =>
      c ++ " <- " ++ ", ".intercalate ((scripts.filter fun x => classOf x = c).map (·.path.text)))

theorem one_lt_length_iff {xs : List Script} (h : xs.Nodup) : 1 < xs.length ↔ ∃ x ∈ xs, ∃ y ∈ xs, x ≠ y := by
  constructor
  · intro hlength
    match xs, h, hlength with
    | x :: y :: rest, h, _ =>
      have hne : x ≠ y := fun heq => (List.nodup_cons.mp h).1 (heq ▸ List.mem_cons_self)
      exact ⟨x, by simp, y, by simp, hne⟩
  · intro ⟨x, hx, y, hy, hne⟩
    match xs, hx, hy with
    | [z], hx, hy =>
      rw [List.mem_singleton] at hx hy
      exact absurd (hx.trans hy.symm) hne
    | _ :: _ :: rest, _, _ => simp

theorem shared_iff (h : scripts.Nodup) : Shared scripts c ↔ 1 < (scripts.filter fun x => classOf x = c).length := by
  rw [one_lt_length_iff (h.filter _), Shared]
  constructor
  · intro ⟨x, hx, y, hy, hne, hxc, hyc⟩
    exact ⟨x, by simp [hx, hxc], y, by simp [hy, hyc], hne⟩
  · intro ⟨x, hx, y, hy, hne⟩
    simp only [List.mem_filter, decide_eq_true_eq] at hx hy
    exact ⟨x, hx.1, y, hy.1, hne, hx.2, hy.2⟩

theorem mem_classNames : c ∈ classNames scripts ↔ ∃ x ∈ scripts, classOf x = c := by
  rw [classNames, List.mem_mergeSort, List.mem_eraseDups, List.mem_map]

theorem pairwise_classNames (scripts : List Script) : (classNames scripts).Pairwise (· < ·) := by
  have hsorted : (classNames scripts).Pairwise fun a b => decide (a ≤ b) = true :=
    List.pairwise_mergeSort (by simpa using fun _ _ _ => String.le_trans) (by simpa using fun _ _ => String.le_total _ _) _
  have hnodup : (classNames scripts).Nodup := (List.mergeSort_perm _ _).nodup_iff.2 (nodup_eraseDups _)
  exact (hsorted.and hnodup).imp fun ⟨hle, hne⟩ => Std.lt_of_le_of_ne (of_decide_eq_true hle) hne

def sharedClasses (scripts : List Script) : List String :=
  (classNames scripts).filter fun c => 1 < (scripts.filter fun x => classOf x = c).length

theorem mem_sharedClasses (h : scripts.Nodup) : c ∈ sharedClasses scripts ↔ Shared scripts c := by
  rw [sharedClasses, List.mem_filter, decide_eq_true_eq, ← shared_iff h, mem_classNames]
  constructor
  · intro hc
    exact hc.2
  · intro hshared
    have ⟨x, hx, _, _, _, hxc, _⟩ := hshared
    exact ⟨⟨x, hx, hxc⟩, hshared⟩

theorem collisions_eq (scripts : List Script) : collisions scripts = (sharedClasses scripts).map fun c =>
    ⟨c, (scripts.filter fun x => classOf x = c).map (·.path)⟩ := by
  have hgroups : collisions scripts = (classNames scripts).filterMap fun c =>
      if 1 < (scripts.filter fun x => classOf x = c).length then
        some ⟨c, (scripts.filter fun x => classOf x = c).map (·.path)⟩ else none := rfl
  rw [hgroups, sharedClasses]
  induction classNames scripts with
  | nil => rfl
  | cons c rest ih =>
    by_cases hc : 1 < (scripts.filter fun x => classOf x = c).length
    · simp [hc, ih]
    · simp [hc, ih]

theorem collisions_ne_nil_iff (h : scripts.Nodup) : collisions scripts ≠ [] ↔ ∃ c, Shared scripts c := by
  rw [collisions_eq, Ne, List.map_eq_nil_iff]
  constructor
  · intro hne
    have ⟨c, hc⟩ := List.exists_mem_of_ne_nil _ hne
    exact ⟨c, (mem_sharedClasses h).mp hc⟩
  · intro ⟨c, hc⟩
    exact List.ne_nil_of_mem ((mem_sharedClasses h).mpr hc)

theorem reported_collisions (h : scripts.Nodup) :
    Reported scripts (.collision (collisions scripts)) (sharedClasses scripts) where
  sorted := (pairwise_classNames scripts).sublist List.filter_sublist
  shared := fun _ => mem_sharedClasses h
  message := by
    have htext : ∀ c, Collision.text ⟨c, (scripts.filter fun x => classOf x = c).map (·.path)⟩ =
        c ++ " <- " ++ ", ".intercalate ((scripts.filter fun x => classOf x = c).map (·.path.text)) := by
      intro c
      rw [Collision.text, List.map_map]
      rfl
    have hmessage : (StubError.collision (collisions scripts)).message =
        "global variable names collide on wrapper class: " ++ "; ".intercalate ((collisions scripts).map Collision.text) :=
      rfl
    rw [hmessage, collisions_eq, List.map_map]
    simp only [Function.comp_def, htext]

section

variable (settings : Settings) (intermediate : FilePath) (encoding : String) {s : SourceSet} {w : World}

/-- Scripts that collide stop a run before its first write. -/
theorem publish_of_collisions (hscan : w.disk.scan s = .ok scripts) (hne : collisions scripts ≠ []) :
    ∃ text, (publish settings s intermediate encoding).runFrom w =
      (.error (.stub (.collision (collisions scripts))), { w with stderr := text }) := by
  have hplan : plan intermediate scripts = .error (.collision (collisions scripts)) := by
    unfold plan
    split
    · next hnil => exact absurd hnil hne
    · rfl
  have ⟨text, hlog⟩ := Log.runFrom_write settings ⟨.info, "globalvars", "discovered",
    [("directory", .text s.directory.text),
      ("message", .text "Discovered Pipeline Library global Vars, will handle in a custom way")]⟩ w
  have hlook : (Action.look fun d => d.scan s).runFrom { w with stderr := text } =
      (.ok scripts, { w with stderr := text }) := by
    rw [Action.runFrom_look, hscan]
  have hstop : (Acting.ofExcept ((plan intermediate scripts).mapError Failure.stub) : Action _).runFrom
      { w with stderr := text } = (.error (.stub (.collision (collisions scripts))), { w with stderr := text }) := by
    rw [Acting.runFrom_ofExcept, hplan]
    rfl
  refine ⟨text, Acting.runFrom_bind_of_error ?_⟩
  unfold publishClasses
  rw [Acting.runFrom_bind_of_ok hlog, Acting.runFrom_bind_of_ok hlook]
  exact Acting.runFrom_bind_of_error hstop

theorem proper_publish (hscan : w.disk.scan s = .ok scripts) (hnil : collisions scripts = []) :
    (publish settings s intermediate encoding).Proper w := by
  have hplan : plan intermediate scripts = .ok (scripts.map (wrapperOf intermediate)) :=
    plan_ok.mpr ⟨collisions_eq_nil.mp hnil, rfl⟩
  have hclasses : (publishClasses settings s intermediate encoding).Proper w := by
    refine .bind (Action.failsBy_log _ _) fun _ w₁ hlog => ?_
    have hdisk : w₁.disk = w.disk := by
      have ⟨text, htext⟩ := Log.runFrom_write settings ⟨.info, "globalvars", "discovered",
        [("directory", .text s.directory.text),
          ("message", .text "Discovered Pipeline Library global Vars, will handle in a custom way")]⟩ w
      rw [hlog, Prod.mk.injEq] at htext
      rw [htext.2]
    refine .bind (.of_ok (by rw [Action.runFrom_look, hdisk, hscan])) fun found w₂ hlook => ?_
    have hfound : found = scripts := by
      rw [Action.runFrom_look, hdisk, hscan] at hlook
      cases hlook
      rfl
    refine .bind (.of_ok (by rw [hfound, hplan, Acting.runFrom_ofExcept]; rfl)) fun wrappers w₃ _ => ?_
    exact .bind (Action.proper_ensureDir _) fun _ _ _ => .bind (proper_publishWrappers wrappers) fun _ _ _ => .pure _
  refine .bind hclasses fun made w₁ _ => ?_
  exact .bind (proper_publishRegistry made.1) fun _ _ _ => .bind (.of_ok (Action.runFrom_disk _)) fun _ _ _ =>
    .bind (Action.failsBy_log _ _) fun _ _ _ => .pure _

/-- A run on a library that can be scanned fails by a collision exactly if there are different scripts with variables
that are the same in capitals. It reports all such scripts then, and leaves the disk as it was. -/
theorem publish_collision_iff (hscan : w.disk.scan s = .ok scripts) :
    ((∃ e w', (publish settings s intermediate encoding).runFrom w = (.error (.stub e), w') ∧
        e.errorClass = .collision) ↔
      ∃ x ∈ scripts, ∃ y ∈ scripts, x ≠ y ∧
        Text.upper (variableName x.baseName) = Text.upper (variableName y.baseName)) ∧
    ∀ e w', (publish settings s intermediate encoding).runFrom w = (.error (.stub e), w') → e.errorClass = .collision →
      w'.disk = w.disk ∧ ∃ classes, Reported scripts e classes := by
  have hnodup : scripts.Nodup := List.Nodup.of_map _ (Disk.nodup_paths_of_scan hscan)
  have hne : ∀ e w', (publish settings s intermediate encoding).runFrom w = (.error (.stub e), w') →
      e.errorClass = .collision → collisions scripts ≠ [] := by
    intro e w' hrun hclass hnil
    exact proper_publish settings intermediate encoding hscan hnil _ _ hrun (.inr hclass)
  refine ⟨⟨?_, ?_⟩, ?_⟩
  · intro ⟨e, w', hrun, hclass⟩
    have ⟨c, x, hx, y, hy, hxy, hxc, hyc⟩ := (collisions_ne_nil_iff hnodup).mp (hne e w' hrun hclass)
    exact ⟨x, hx, y, hy, hxy, classOf_eq_iff.mp (hxc.trans hyc.symm)⟩
  · intro ⟨x, hx, y, hy, hxy, hupper⟩
    have hshared : Shared scripts (classOf y) := ⟨x, hx, y, hy, hxy, classOf_eq_iff.mpr hupper, rfl⟩
    have ⟨text, hrun⟩ := publish_of_collisions settings intermediate encoding hscan
      ((collisions_ne_nil_iff hnodup).mpr ⟨_, hshared⟩)
    exact ⟨_, _, hrun, rfl⟩
  · intro e w' hrun hclass
    have ⟨text, hstop⟩ := publish_of_collisions settings intermediate encoding hscan (hne e w' hrun hclass)
    rw [hrun, Prod.mk.injEq] at hstop
    have he : e = .collision (collisions scripts) := by
      simpa using hstop.1
    rw [he, hstop.2]
    exact ⟨rfl, sharedClasses scripts, reported_collisions hnodup⟩

end

/-- A project with two scripts of which the names are the same in capitals only. -/
def collidingTree : FileTree where
  entries := [([], .dir .now), (["p"], .dir .now), (["vars", "p"], .dir .now), (["sub", "vars", "p"], .dir .now),
    (["straße.groovy", "vars", "p"], .file [35, 10] .now .now),
    (["Strasse.groovy", "sub", "vars", "p"], .file [35, 10] .now .now)]
  nodup := by decide

def collidingRun : Attempt :=
  sampleRun collidingTree "utf-8"

theorem collision_of_collidingRun : ∃ scripts e w',
    collidingRun.world.disk.scan collidingRun.library = .ok scripts ∧
    collidingRun.outcome = (.error (.stub e), w') ∧ e.errorClass = .collision ∧
    w'.disk = collidingRun.world.disk ∧ ∃ classes, Reported scripts e classes := by
  have hfree : collidingRun.world.disk.tree.LinkFree := by decide +kernel
  have hwell : collidingRun.world.disk.tree.WellFormed := by decide +kernel
  have hscannable : collidingRun.world.disk.Scannable collidingRun.library := by decide +kernel
  have ⟨scripts, hscan⟩ := hscannable.scan SuffixMapping.standard
  have hmem := fun x => Disk.mem_scan hfree hwell hscan (x := x)
  have hsharp := (hmem _).mpr ⟨["straße.groovy"], by decide, by decide +kernel, by decide +kernel, rfl⟩
  have hplain := (hmem _).mpr ⟨["sub", "Strasse.groovy"], by decide, by decide +kernel, by decide +kernel, rfl⟩
  have ⟨hiff, hreported⟩ := publish_collision_iff collidingRun.settings collidingRun.intermediate
    collidingRun.encoding hscan
  have ⟨e, w', hrun, hclass⟩ := hiff.mpr ⟨_, hsharp, _, hplain, by decide +kernel, by decide +kernel⟩
  have ⟨hdisk, hclasses⟩ := hreported e w' hrun hclass
  exact ⟨scripts, e, w', hscan, hrun, hclass, hdisk, hclasses⟩

end Library

end JavaStubs
