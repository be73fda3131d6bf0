import JavaStubs.Proofs.Disk.Effects
import JavaStubs.Proofs.Run.Outcomes

/-! Making directories and writing text as steps of a run: what they do to the disk, refused or not. -/
namespace JavaStubs

open FileTree

namespace Action

/-- Making a directory changes nothing but the disk, which gets directories at most. -/
theorem runFrom_ensureDir (p : FilePath) (w : World) :
    ∃ d r, (ensureDir p).runFrom w = (r, { w with disk := d }) ∧ w.disk.Changes MoreDirs d ∧
      ∀ q, r = .ok q → ∃ l m, d.stat p = .ok (l, .dir m) := by
  obtain ⟨hm, hs⟩ := Disk.ensureDirs_spec w.disk p
  unfold ensureDir
  rw [Acting.runFrom_bind, Acting.runFrom_mapFailure, runFrom_alter]
  rcases hd : w.disk.ensureDirs p with ⟨d, r⟩
  rw [hd] at hm hs
  cases r with
  | error e => exact ⟨d, .error (Failure.refused (.cannotCreateDirectory p) (.access e)), rfl, hm, by simp⟩
  | ok _ => exact ⟨d, .ok p, rfl, hm, fun _ _ => hs rfl⟩

/-- The writing of text was broken off: the failure says so, and the file has the bytes that had arrived. -/
def BrokenOff (p : FilePath) (content encoding : String) (d d' : Disk) (e : Failure) : Prop :=
  ∃ data errno, Charset.encodeAs encoding content = .ok data ∧ e = .stub (.cannotWrite p ⟨errno, none⟩) ∧
    d' = (d.update p data).1 ∧ d.Broken d' p data errno

theorem BrokenOff.cwd {p : FilePath} {content encoding : String} {d d' : Disk} {e : Failure}
    (h : BrokenOff p content encoding d d' e) : d'.cwd = d.cwd := by
  have ⟨data, errno, _, _, _, l, arrived, _, hwrites, _⟩ := h
  exact hwrites.cwd

/-- Writing text changes nothing but the disk: the file holds the encoded text, or the write was refused and there
are further directories at most, or it was broken off. -/
theorem runFrom_writeText (p : FilePath) (content encoding : String) (w : World) :
    (∃ changed data l d, (writeText p content encoding).runFrom w = (.ok changed, { w with disk := d }) ∧
        Charset.encodeAs encoding content = .ok data ∧ w.disk.Changes (Writes l data) d ∧
        ∃ m a, d.stat p = .ok (l, .file data m a)) ∨
      ∃ e d, (writeText p content encoding).runFrom w = (.error e, { w with disk := d }) ∧
        (w.disk.Changes MoreDirs d ∨ BrokenOff p content encoding w.disk d e) := by
  unfold writeText
  split
  · exact .inr ⟨_, w.disk, rfl, .inl ⟨.refl _, rfl, rfl⟩⟩
  · next data hdata =>
    rw [Acting.runFrom_mapFailure, runFrom_alter]
    rcases Disk.update_spec w.disk p data with ⟨changed, l, hr, hw, hs⟩ | ⟨e, hr, hm⟩ | ⟨errno, hr, hbroken⟩
    · exact .inl ⟨changed, data, l, _, by rw [hr]; rfl, hdata, hw, hs⟩
    · exact .inr ⟨_, _, by rw [hr]; rfl, .inl hm⟩
    · exact .inr ⟨_, _, by rw [hr]; rfl, .inr ⟨data, errno, hdata, rfl, rfl, hbroken⟩⟩

theorem writeText_ok {p : FilePath} {content encoding : String} {w w' : World} {changed : Bool}
    (h : (writeText p content encoding).runFrom w = (.ok changed, w')) :
    ∃ data, Charset.encodeAs encoding content = .ok data ∧ (w.disk.update p data).2 = .ok changed ∧
      w'.disk = (w.disk.update p data).1 := by
  unfold writeText at h
  split at h
  · cases h
  · next data hdata =>
    rw [Acting.runFrom_mapFailure, runFrom_alter] at h
    have ⟨hresult, hworld⟩ := Prod.mk.inj h
    exact ⟨data, hdata, ok_of_mapError (ok_of_mapError hresult), hworld ▸ rfl⟩

theorem ensureDir_ok {p q : FilePath} {w w' : World} (h : (ensureDir p).runFrom w = (.ok q, w')) : q = p := by
  obtain ⟨_, w₁, -, hpure⟩ := Acting.bind_ok h
  cases hpure
  rfl

theorem ensureDir_of_stat {p : FilePath} {w : World} {l : Loc} {m : Stamp} (h : w.disk.stat p = .ok (l, .dir m)) :
    (ensureDir p).runFrom w = (.ok p, w) := by
  unfold ensureDir
  rw [Acting.runFrom_bind, Acting.runFrom_mapFailure, runFrom_alter, Disk.ensureDirs_of_stat h]
  rfl

theorem writeText_of_stat {p : FilePath} {content encoding : String} {w : World} {data : List UInt8} {l : Loc}
    {m a : Stamp} (hdata : Charset.encodeAs encoding content = .ok data) (h : w.disk.stat p = .ok (l, .file data m a)) :
    (writeText p content encoding).runFrom w = (.ok false, w) := by
  unfold writeText
  rw [hdata]
  dsimp only
  rw [Acting.runFrom_mapFailure, runFrom_alter, Disk.update_of_stat h]
  rfl

/-- A file can be written anew where its directory exists and nothing is in the way of writing it. -/
theorem writeText_over {p : FilePath} {content encoding : String} {w : World} {data old : List UInt8} {l l' : Loc}
    {m m' a : Stamp} (hdata : Charset.encodeAs encoding content = .ok data)
    (h : w.disk.stat p = .ok (l, .file old m a)) (hdir : w.disk.stat p.parent = .ok (l', .dir m'))
    (hopen : w.disk.obstacles.writing.lookup p.text = none) :
    ∃ changed w', (writeText p content encoding).runFrom w = (.ok changed, w') := by
  obtain ⟨changed, hchanged⟩ : ∃ changed, (w.disk.update p data).2 = .ok changed := Disk.update_over h hdir hopen
  unfold writeText
  rw [hdata]
  dsimp only
  rw [Acting.runFrom_mapFailure, runFrom_alter, hchanged]
  exact ⟨changed, _, rfl⟩

/-- Writing text into a directory that exists makes no directory and no link. -/
theorem kept_of_writeText {p : FilePath} {content encoding : String} {w w' : World} {r : Except Failure Bool} {l : Loc}
    {m : Stamp} (hdir : w.disk.stat p.parent = .ok (l, .dir m))
    (h : (writeText p content encoding).runFrom w = (r, w')) : Kept w'.disk.tree w.disk.tree := by
  unfold writeText at h
  split at h
  · cases h
    exact .refl _
  · rw [Acting.runFrom_mapFailure, runFrom_alter] at h
    cases h
    exact Disk.kept_of_update hdir

theorem writeText_refused {p : FilePath} {content encoding : String} {w w' : World} {e : Failure} {l : Loc}
    {m : Stamp} (hdir : w.disk.stat p.parent = .ok (l, .dir m))
    (h : (writeText p content encoding).runFrom w = (.error e, w')) :
    w'.disk = w.disk ∨ BrokenOff p content encoding w.disk w'.disk e := by
  unfold writeText at h
  split at h
  · cases h
    exact .inl rfl
  · next data hdata =>
    rw [Acting.runFrom_mapFailure, runFrom_alter] at h
    have ⟨hresult, hworld⟩ := Prod.mk.inj h
    subst hworld
    cases hupdate : (w.disk.update p data).2 with
    | ok changed =>
      rw [hupdate] at hresult
      cases hresult
    | error e' =>
      rw [hupdate] at hresult
      cases hresult
      rcases Disk.update_refused hdir hupdate with hsame | ⟨errno, rfl, hbroken⟩
      · exact .inl hsame
      · exact .inr ⟨data, errno, hdata, rfl, rfl, hbroken⟩

end Action

end JavaStubs
