import JavaStubs.Proofs.Disk.Effects
import JavaStubs.Proofs.Disk.WellFormed
import JavaStubs.Source.Scan

/-! Why the system refuses a path. One that is too long, that may not be searched to its end or that holds a NUL is
refused where other paths count as leading nowhere. -/
namespace JavaStubs

namespace FilePath

def NulFree (p : FilePath) : Prop :=
  ∀ c ∈ p.parts, holdsNul c = false

instance (p : FilePath) : Decidable p.NulFree :=
  inferInstanceAs (Decidable (∀ c ∈ p.parts, holdsNul c = false))

theorem holdsNul_intercalate (parts : List String) : holdsNul ("/".intercalate parts) = parts.any holdsNul := by
  induction parts with
  | nil => decide
  | cons c rest ih =>
    cases rest with
    | nil => simp
    | cons c' rest =>
      have hslash : holdsNul "/" = false := by decide
      rw [String.intercalate_cons_cons, holdsNul_append, holdsNul_append, ih, hslash, Bool.or_false]
      rfl

theorem nulFree_iff {p : FilePath} : p.NulFree ↔ holdsNul p.text = false := by
  have hanchor : holdsNul (Anchor.text p.anchor) = false := by
    cases p.anchor <;> decide
  unfold NulFree text
  split
  · next h =>
    rw [h.2]
    exact ⟨fun _ => by decide, fun _ => nofun⟩
  · rw [holdsNul_append, hanchor, Bool.false_or, holdsNul_intercalate, List.any_eq_false]
    simp

theorem NulFree.child {p : FilePath} (h : p.NulFree) {n : String} (hn : holdsNul n = false) : (p.child n).NulFree :=
  List.forall_mem_append.2 ⟨h, List.forall_mem_singleton.2 hn⟩

theorem NulFree.parent {p : FilePath} (h : p.NulFree) : p.parent.NulFree :=
  fun c hc => h c (List.dropLast_subset _ hc)

theorem NulFree.append {p q : FilePath} (hp : p.NulFree) (hq : q.NulFree) : (p ++ q).NulFree := by
  cases h : q.isAbsolute with
  | true => rwa [append_of_absolute h]
  | false =>
    rw [append_parts_of_relative h]
    exact List.forall_mem_append.2 ⟨hp, hq⟩

theorem NulFree.descend {p : FilePath} (h : p.NulFree) {names : List String} (hn : ∀ c ∈ names, holdsNul c = false) :
    (p.descend names).NulFree :=
  List.forall_mem_append.2 ⟨h, hn⟩

end FilePath

theorem FileTree.errno_of_walk {t : FileTree} {follow : Bool} {links : Nat} {here : Loc} {parts : List String} {e : Errno}
    (h : t.walk follow links here parts = .error e) : e.leadsNowhere = true ∨ e = .ENAMETOOLONG := by
  fun_induction walk t follow links here parts
  case case3 ih | case4 ih | case10 ih | case11 ih => exact ih h
  case case5 =>
    cases h
    exact .inr rfl
  case case2 | case7 | case9 | case12 =>
    cases h
    exact .inl rfl
  all_goals cases h

namespace Disk

variable {d d' : Disk} {p : FilePath} {follow : Bool}

theorem not_nul_of_locate (h : p.NulFree) : d.locate follow p ≠ .error .nul := by
  unfold locate
  rw [FilePath.nulFree_iff.1 h, if_neg Bool.false_ne_true]
  split
  · simp
  · split <;> simp

theorem not_nul_of_stat (h : p.NulFree) : d.stat p ≠ .error .nul := by
  unfold stat
  split
  · simp
  · simp
  · next e he =>
    rintro ⟨⟩
    exact not_nul_of_locate h he

theorem nulFree_of_stat {l : Loc} {e : Entry} (h : d.stat p = .ok (l, e)) : p.NulFree :=
  FilePath.nulFree_iff.2 (locate_eq_ok_iff.1 (stat_eq_ok_iff.1 h)).1.1

/-- The system does not tell what a path leads to: the path or a name on the way is too long, or a directory on the way
may not be searched. -/
def Refuses (d : Disk) (p : FilePath) (errno : Errno) : Prop :=
  (errno = .ENAMETOOLONG ∨ errno = .EACCES) ∧ d.stat p = .error (.os (.at errno p))

variable {kind : Entry → Bool} {errno : Errno}

theorem errno_of_stat {e : OsError} (h : d.stat p = .error (.os e)) :
    e.errno.leadsNowhere = true ∨ ∃ errno, e = .at errno p ∧ d.Refuses p errno := by
  have hfull := h
  unfold stat locate at h
  split at h
  · cases h
  · cases h
    exact .inl rfl
  next hlocate =>
  cases h
  split at hlocate
  · cases hlocate
  split at hlocate
  · next hbarred =>
    cases hlocate
    exact .inr ⟨_, rfl, barred?_eq_some hbarred, hfull⟩
  · split at hlocate
    · cases hlocate
    · next hwalk =>
      cases hlocate
      rcases FileTree.errno_of_walk hwalk with hnowhere | rfl
      · exact .inl hnowhere
      · exact .inr ⟨_, rfl, .inl rfl, hfull⟩

/-- Asking what a path leads to fails only if the system does not tell. -/
theorem refuses_of_test {e : AccessError} (h : d.test kind p = .error e) :
    ∃ errno, e = .os (.at errno p) ∧ d.Refuses p errno := by
  unfold test at h
  split at h
  · cases h
  · cases h
  · next e' he =>
    split at h
    · cases h
    · next hsomewhere =>
      cases h
      obtain ⟨errno, rfl, hrefuses⟩ := (errno_of_stat he).resolve_left hsomewhere
      exact ⟨errno, rfl, hrefuses⟩

theorem test_of_refuses (h : d.Refuses p errno) : d.test kind p = .error (.os (.at errno p)) := by
  obtain ⟨hreason, hstat⟩ := h
  rw [test, hstat]
  rcases hreason with rfl | rfl <;> rfl

theorem not_refuses_iff (kind : Entry → Bool) : (¬∃ errno, d.Refuses p errno) ↔ ∃ answer, d.test kind p = .ok answer := by
  constructor
  · intro h
    cases hasked : d.test kind p with
    | ok answer => exact ⟨answer, rfl⟩
    | error e =>
      obtain ⟨errno, -, hrefuses⟩ := refuses_of_test hasked
      exact absurd ⟨errno, hrefuses⟩ h
  · rintro ⟨answer, hasked⟩ ⟨errno, h⟩
    cases (test_of_refuses h).symm.trans hasked

theorem refuses_of_walk (hnul : holdsNul p.text = false) (hbarred : d.barred? p = none)
    (h : d.tree.walk true maxLinks [] (p.absolute d.cwd).parts = .error .ENAMETOOLONG) : d.Refuses p .ENAMETOOLONG := by
  refine ⟨.inl rfl, ?_⟩
  rw [stat, locate, hnul, if_neg Bool.false_ne_true, hbarred]
  simp only [h]

theorem refuses_of_barred (hnul : holdsNul p.text = false) (h : d.barred? p = some errno) : d.Refuses p errno :=
  ⟨barred?_eq_some h, stat_of_barred hnul h⟩

theorem not_nul_of_test : d.test kind p ≠ .error .nul := by
  intro h
  obtain ⟨errno, he, -⟩ := refuses_of_test h
  cases he

theorem not_nul_of_read (h : p.NulFree) : d.read p ≠ .error .nul := by
  unfold read
  split
  · simp
  · simp
  · next e he =>
    rintro ⟨⟩
    exact not_nul_of_stat h he

theorem not_nul_of_write (h : p.NulFree) (data : List UInt8) : d.write p data ≠ .error .nul := by
  unfold write
  split
  · simp
  · simp
  · simp
  · next e he =>
    rintro ⟨⟩
    exact not_nul_of_locate h he

theorem not_nul_of_put (h : p.NulFree) (data : List UInt8) : (d.put p data).2 ≠ .error .nul := by
  unfold put
  split
  · simp
  · split
    · simp
    · next e he =>
      rintro ⟨⟩
      exact not_nul_of_write h _ he
  · split
    · simp
    · next e he =>
      rintro ⟨⟩
      exact not_nul_of_write h data he

theorem not_nul_of_unlink (h : p.NulFree) : d.unlink p ≠ .error .nul := by
  unfold unlink
  split
  · simp
  · split
    · simp
    · simp
    · simp
    · next e he =>
      rintro ⟨⟩
      exact not_nul_of_locate h he

theorem not_nul_of_ensureOne (h : p.NulFree) : d.ensureOne p ≠ .error .nul := by
  have hmake : d.makeDir p ≠ .error .nul := by
    unfold makeDir
    split
    · simp
    · split <;> simp
    · next e he =>
      rintro ⟨⟩
      exact not_nul_of_locate h he
  unfold ensureOne
  split
  · split
    · simp
    · split
      · simp
      · simp
      · next e he =>
        rintro ⟨⟩
        exact not_nul_of_test he
  · exact hmake

theorem not_nul_of_ensureDirs (h : p.NulFree) (d : Disk) : (d.ensureDirs p).2 ≠ .error .nul := by
  fun_induction ensureDirs d p
  case case1 => simp
  case case2 hp ih =>
    have ih := ih h.parent
    rwa [hp] at ih
  case case3 => simp
  case case4 he _ =>
    rintro ⟨⟩
    exact not_nul_of_ensureOne h he
  case case5 he _ =>
    rintro ⟨⟩
    exact not_nul_of_ensureOne h he

theorem not_nul_of_update (h : p.NulFree) (d : Disk) (data : List UInt8) : (d.update p data).2 ≠ .error .nul := by
  unfold update
  split
  · next e he =>
    rintro ⟨⟩
    exact not_nul_of_test he
  · split
    · next e he =>
      rintro ⟨⟩
      split at he
      · exact not_nul_of_read h he
      · cases he
    · split
      · simp
      · split
        · next d' e he =>
          rintro ⟨⟩
          have hdirs := not_nul_of_ensureDirs h.parent d
          rw [he] at hdirs
          exact hdirs rfl
        · split
          · simp
          · next d' e he =>
            rintro ⟨⟩
            exact not_nul_of_put h data (congrArg (·.2) he)

end Disk

end JavaStubs
