import JavaStubs.Build.Generate
import JavaStubs.Proofs.Disk.SameContents
import JavaStubs.Proofs.Run.Steady
import JavaStubs.Proofs.Run.Within

/-! Setting the times of stubs back. It changes nothing but times, and where it succeeds once it succeeds again. -/
namespace JavaStubs

open FileTree

theorem Disk.setModified_ok {d d' : Disk} {p : FilePath} {l : Loc} {time : Stamp}
    (h : d.setModified p l time = .ok d') :
    d.SameContents d' ∧ d.untimed? p = none ∧ (d.tree.data? l).isSome = true := by
  unfold setModified at h
  split at h
  · cases h
  next hlist =>
  split at h
  · next data m a hl =>
    cases h
    have hcontent := content?_of_get? hl
    refine ⟨⟨fun l' => ?_, rfl, rfl⟩, hlist, ?_⟩
    · rw [content?_insert]
      split
      · next hl' => rw [hl', hcontent]; rfl
      · rfl
    · rw [data?_eq_some.2 hcontent]
      rfl
  · cases h

theorem Disk.setModified_of_data? {d : Disk} {p : FilePath} {l : Loc} (time : Stamp)
    (hlist : d.untimed? p = none) (hdata : (d.tree.data? l).isSome = true) :
    ∃ d', d.setModified p l time = .ok d' := by
  obtain ⟨data, hdata⟩ := Option.isSome_iff_exists.1 hdata
  obtain ⟨m, a, he⟩ := get?_of_data? hdata
  rw [setModified, hlist, he]
  exact ⟨_, rfl⟩

namespace Action

variable {w w' v : World} {p : FilePath} {n : Nat}

theorem within_resetFiles (ms : List Disk.Met) : Within (fun d d' => d.SameContents d') (resetFiles ms) := by
  induction ms with
  | nil => exact .pure _
  | cons m ms ih => exact .andThen (.change fun _ _ h => (Disk.setModified_ok h).1) fun _ => ih

/-- Sets the times of all that a walk met back, and counts it unless the walk was stopped. -/
def resetMet (trace : Trace Disk.Met) : Action Nat := do
  resetFiles trace.items
  match trace.stop? with
  | some e => throw (.access e)
  | none => return trace.items.length

theorem within_resetTimes (p : FilePath) : Within (fun d d' => d.SameContents d') (resetTimes p) := by
  have hmet : ∀ trace, Within (fun d d' => d.SameContents d') (resetMet trace) := by
    intro trace
    refine .andThen (within_resetFiles _) fun _ => ?_
    split
    · exact .throw _
    · exact .pure _
  refine .andThen (.look _) fun isDir => ?_
  split
  · exact .andThen (.throw _) fun _ => .mapFailure _ (.andThen .disk fun d => hmet (d.stubFiles p))
  · exact .mapFailure _ (.andThen .disk fun d => hmet (d.stubFiles p))

theorem steady_resetTimes (p : FilePath) : Steady (resetTimes p) := by
  have hfiles : ∀ ms, Steady (resetFiles ms) := by
    intro ms
    induction ms with
    | nil => exact .pure _
    | cons m ms ih => exact .bind (.change _) fun _ => ih
  have hmet : ∀ trace, Steady (resetMet trace) := by
    intro trace
    refine .bind (hfiles _) fun _ => ?_
    split
    · exact .throw _
    · exact .pure _
  refine .bind (.look _) fun isDir => ?_
  split
  · exact .bind (.throw _) fun _ => .mapFailure _ (.bind .disk fun d => hmet (d.stubFiles p))
  · exact .mapFailure _ (.bind .disk fun d => hmet (d.stubFiles p))

/-- Times are set back where files are and may be touched. -/
theorem resetFiles_ok {ms : List Disk.Met} (h : (resetFiles ms).runFrom w = (.ok (), w')) :
    ∀ m ∈ ms, w.disk.untimed? m.path = none ∧ (w.disk.tree.data? m.loc).isSome = true := by
  induction ms generalizing w with
  | nil => simp
  | cons m ms ih =>
    obtain ⟨_, w₁, hset, hrest⟩ := Acting.bind_ok h
    rw [runFrom_change] at hset
    cases hd : w.disk.setModified m.path m.loc epoch with
    | error e =>
      rw [hd] at hset
      cases hset
    | ok d =>
      rw [hd] at hset
      cases hset
      obtain ⟨hsame, hlist, hdata⟩ := Disk.setModified_ok hd
      intro m' hm'
      rcases List.mem_cons.1 hm' with rfl | hm'
      · exact ⟨hlist, hdata⟩
      · obtain ⟨hlist', hdata'⟩ := ih hrest m' hm'
        exact ⟨Disk.untimed?_eq hsame.rules _ ▸ hlist', hsame.tree.data? _ ▸ hdata'⟩

theorem runFrom_resetFiles {ms : List Disk.Met}
    (h : ∀ m ∈ ms, w.disk.untimed? m.path = none ∧ (w.disk.tree.data? m.loc).isSome = true) :
    ∃ w', (resetFiles ms).runFrom w = (.ok (), w') := by
  induction ms generalizing w with
  | nil => exact ⟨w, rfl⟩
  | cons m ms ih =>
    obtain ⟨hlist, hdata⟩ := h m List.mem_cons_self
    obtain ⟨d, hd⟩ := Disk.setModified_of_data? epoch hlist hdata
    obtain ⟨hsame, -⟩ := Disk.setModified_ok hd
    have hset : (change fun d => d.setModified m.path m.loc epoch).runFrom w = (.ok (), { w with disk := d }) := by
      rw [runFrom_change, hd]
    obtain ⟨w', hrest⟩ := @ih { w with disk := d } fun m' hm' => by
      obtain ⟨hlist', hdata'⟩ := h m' (List.mem_cons_of_mem _ hm')
      exact ⟨by rw [Disk.untimed?_eq hsame.rules, hlist'], by rw [hsame.tree.data?, hdata']⟩
    exact ⟨w', by rw [resetFiles, Acting.runFrom_bind_of_ok hset, hrest]⟩

/-- Setting times back succeeds if it goes through all stubs of a directory. -/
theorem resetTimes_ok (h : (resetTimes p).runFrom w = (.ok n, w')) :
    w.disk.isDir? p = .ok true ∧ (w.disk.stubFiles p).stop? = none ∧ n = (w.disk.stubFiles p).items.length ∧
      (resetFiles (w.disk.stubFiles p).items).runFrom w = (.ok (), w') := by
  obtain ⟨isDir, w₁, hlook, hrest⟩ := Acting.bind_ok h
  obtain ⟨hdir, rfl⟩ := Prod.mk.inj hlook
  have hdir := ok_of_mapError hdir
  cases isDir with
  | false => cases hrest
  | true =>
    refine ⟨hdir, ?_⟩
    dsimp only at hrest
    rw [if_neg (by decide), Acting.runFrom_mapFailure, Acting.runFrom_bind_of_ok (runFrom_disk w), Acting.runFrom_bind] at hrest
    rcases hfiles : (resetFiles (w.disk.stubFiles p).items).runFrom w with ⟨r, w₂⟩
    rw [hfiles] at hrest
    cases r with
    | error e => cases hrest
    | ok _ =>
      cases hstop : (w.disk.stubFiles p).stop? with
      | some e =>
        rw [hstop] at hrest
        cases hrest
      | none =>
        rw [hstop] at hrest
        cases hrest
        exact ⟨rfl, rfl, rfl⟩

theorem runFrom_resetTimes (hdir : w.disk.isDir? p = .ok true) (hstop : (w.disk.stubFiles p).stop? = none)
    (hfiles : (resetFiles (w.disk.stubFiles p).items).runFrom w = (.ok (), w')) :
    (resetTimes p).runFrom w = (.ok (w.disk.stubFiles p).items.length, w') := by
  have hlook : (look fun d => (d.isDir? p).mapError .access).runFrom w = (.ok true, w) := by
    rw [runFrom_look, hdir]
    rfl
  rw [resetTimes, Acting.runFrom_bind_of_ok hlook]
  dsimp only
  rw [if_neg (by decide), Acting.runFrom_mapFailure, Acting.runFrom_bind_of_ok (runFrom_disk w),
    Acting.runFrom_bind_of_ok hfiles, hstop]
  rfl

theorem resetTimes_again (h : (resetTimes p).runFrom w = (.ok n, w')) (hsame : w.disk.SameContents v.disk) :
    ∃ v', (resetTimes p).runFrom v = (.ok n, v') ∧ v.disk.SameContents v'.disk := by
  obtain ⟨hdir, hstop, rfl, hfiles⟩ := resetTimes_ok h
  have hstubs := hsame.stubFiles_eq hdir
  obtain ⟨v', hagain⟩ := @runFrom_resetFiles v (v.disk.stubFiles p).items fun m hm => by
    rw [hstubs] at hm
    obtain ⟨hlist, hdata⟩ := resetFiles_ok hfiles m hm
    exact ⟨by rw [Disk.untimed?_eq hsame.rules, hlist], by rw [hsame.tree.data?, hdata]⟩
  have hreset := runFrom_resetTimes (hsame.isDir? hdir) (by rw [hstubs, hstop]) hagain
  have hwithin := (within_resetTimes p v).disk
  rw [hreset] at hwithin
  rw [hstubs] at hreset
  exact ⟨v', hreset, hwithin⟩

end Action

end JavaStubs
