import JavaStubs.Proofs.Disk.Leads
import JavaStubs.Run.Writing

/-! What the operations of a disk do to its tree, and what their paths lead to afterwards. -/
namespace JavaStubs

theorem zero_ne_ofNat {n : Nat} (h : 0 < n % 256) : 0 ≠ UInt8.ofNat n := by
  intro heq
  have hzero : 0 = n % 256 := congrArg UInt8.toNat heq
  omega

theorem zero_mem_utf8EncodeChar {c : Char} : 0 ∈ String.utf8EncodeChar c ↔ c = '\x00' := by
  constructor
  · intro h
    rw [String.utf8EncodeChar] at h
    by_cases hlow : c.val.toNat ≤ 127
    · rw [if_pos hlow, List.mem_singleton] at h
      have hzero : c.val.toNat = 0 := Nat.eq_zero_of_not_pos fun hpos => zero_ne_ofNat (by omega) h
      exact Char.toNat_inj.mp hzero
    · -- the bytes of any other character have their highest bit set
      rw [if_neg hlow] at h
      have hhigh : ∀ n : Nat, 128 ≤ n % 256 → 0 ≠ UInt8.ofNat n := fun n hn => zero_ne_ofNat (by omega)
      split at h
      · simp only [List.mem_cons, List.not_mem_nil, or_false] at h
        exact h.elim (absurd · (hhigh _ (by omega))) (absurd · (hhigh _ (by omega)))
      split at h
      all_goals
        simp only [List.mem_cons, List.not_mem_nil, or_false] at h
        grind
  · intro h
    rw [h]
    decide

theorem holdsNul_eq_false_iff {s : String} : holdsNul s = false ↔ '\x00' ∉ s.toList := by
  rw [holdsNul, List.contains_eq_mem, decide_eq_false_iff_not, ← String.utf8Encode_toList, List.utf8Encode,
    List.data_toByteArray]
  simp [zero_mem_utf8EncodeChar]

theorem holdsNul_append (s t : String) : holdsNul (s ++ t) = (holdsNul s || holdsNul t) := by
  simp [holdsNul]

def Disk.rules (d : Disk) : Denials × Obstacles :=
  (d.denied, d.obstacles)

/-- Disks that differ in their trees at most, and these as told. -/
structure Disk.Changes (r : FileTree → FileTree → Prop) (d d' : Disk) : Prop where
  tree : r d.tree d'.tree
  cwd : d'.cwd = d.cwd
  rules : d'.rules = d.rules

theorem Disk.Changes.imp {r s : FileTree → FileTree → Prop} {d d' : Disk} (h : d.Changes r d')
    (hrs : ∀ t t', r t t' → s t t') : d.Changes s d' :=
  ⟨hrs _ _ h.tree, h.cwd, h.rules⟩

theorem Disk.Changes.comp {r s u : FileTree → FileTree → Prop} {d₁ d₂ d₃ : Disk} (h : d₁.Changes r d₂)
    (h' : d₂.Changes s d₃) (hu : ∀ {t₁ t₂ t₃}, r t₁ t₂ → s t₂ t₃ → u t₁ t₃) : d₁.Changes u d₃ :=
  ⟨hu h.tree h'.tree, h'.cwd.trans h.cwd, h'.rules.trans h.rules⟩

def Disk.Usable (d : Disk) (p : FilePath) : Prop :=
  holdsNul p.text = false ∧ d.barred? p = none

section

variable {d d' : Disk} (h : d'.rules = d.rules)
include h

theorem Disk.denied_eq : d'.denied = d.denied :=
  congrArg (·.1) h

theorem Disk.obstacles_eq : d'.obstacles = d.obstacles :=
  congrArg (·.2) h

theorem Disk.barred?_eq (p : FilePath) : d'.barred? p = d.barred? p := by
  rw [barred?, barred?, obstacles_eq h]

theorem Disk.unlisted?_eq (p : FilePath) : d'.unlisted? p = d.unlisted? p := by
  rw [unlisted?, unlisted?, denied_eq h, barred?_eq h]

theorem Disk.untimed?_eq (p : FilePath) : d'.untimed? p = d.untimed? p := by
  rw [untimed?, untimed?, denied_eq h, barred?_eq h]

theorem Disk.usable_iff (p : FilePath) : d'.Usable p ↔ d.Usable p := by
  rw [Usable, Usable, barred?_eq h]

end

namespace Disk

open FileTree

variable {d d' : Disk} {p : FilePath} {follow : Bool} {place : Place}

theorem barred?_eq_none_iff : d.barred? p = none ↔
    p.text.utf8ByteSize < pathLimit ∧ ∀ q ∈ p.above, q.text ∉ d.obstacles.search := by
  unfold barred?
  split
  · next hlong => simp [Nat.not_lt.2 hlong]
  · next hshort => simp [Nat.not_le.1 hshort]

/-- A path is refused before it is looked up if it is too long, or for want of permission. -/
theorem barred?_eq_some {errno : Errno} (h : d.barred? p = some errno) : errno = .ENAMETOOLONG ∨ errno = .EACCES := by
  unfold barred? at h
  split at h
  · exact .inl (Option.some.inj h).symm
  · split at h
    · exact .inr (Option.some.inj h).symm
    · cases h

theorem locate_eq_ok_iff : d.locate follow p = .ok place ↔
    d.Usable p ∧ Leads d.tree follow maxLinks [] (p.absolute d.cwd).parts place := by
  unfold locate Usable
  by_cases hn : holdsNul p.text = true
  · simp [hn]
  rw [if_neg hn, ← walk_eq_ok_iff]
  cases hbarred : d.barred? p with
  | some errno => simp
  | none =>
    dsimp only
    split
    · next q h => simp [h, hn]
    · next e h => simp [h]

theorem stat_eq_ok_iff {l : Loc} {e : Entry} : d.stat p = .ok (l, e) ↔ d.locate true p = .ok (.found l e) := by
  unfold stat
  split <;> simp_all

theorem stat_of_barred {errno : Errno} (hnul : holdsNul p.text = false) (h : d.barred? p = some errno) :
    d.stat p = .error (.os (.at errno p)) := by
  rw [stat, locate, hnul, if_neg Bool.false_ne_true, h]

theorem get?_of_stat {l : Loc} {e : Entry} (h : d.stat p = .ok (l, e)) : d.tree.get? l = some e :=
  (locate_eq_ok_iff.1 (stat_eq_ok_iff.1 h)).2.get?_found

theorem data?_of_stat {l : Loc} {data : List UInt8} {m a : Stamp} (h : d.stat p = .ok (l, .file data m a)) :
    d.tree.data? l = some data :=
  data?_eq_some.2 (content?_of_get? (get?_of_stat h))

theorem test_of_stat {l : Loc} {e : Entry} (kind : Entry → Bool) (h : d.stat p = .ok (l, e)) :
    d.test kind p = .ok (kind e) := by
  rw [test, h]

theorem stat_of_test {kind : Entry → Bool} (h : d.test kind p = .ok true) :
    ∃ l e, d.stat p = .ok (l, e) ∧ kind e = true := by
  unfold test at h
  split at h
  · next l e hs => exact ⟨l, e, hs, Except.ok.inj h⟩
  · cases h
  · split at h <;> cases h

theorem stat_of_isFile? (h : d.isFile? p = .ok true) : ∃ l data m a, d.stat p = .ok (l, .file data m a) := by
  obtain ⟨l, e, hs, hk⟩ := stat_of_test h
  cases e with
  | file data m a => exact ⟨l, data, m, a, hs⟩
  | dir => cases hk
  | link => cases hk

theorem stat_of_isDir? (h : d.isDir? p = .ok true) : ∃ l m, d.stat p = .ok (l, .dir m) := by
  obtain ⟨l, e, hs, hk⟩ := stat_of_test h
  cases e with
  | dir m => exact ⟨l, m, hs⟩
  | file => cases hk
  | link => cases hk

theorem read_of_stat {l : Loc} {data : List UInt8} {m a : Stamp} (h : d.stat p = .ok (l, .file data m a)) :
    d.read p = .ok data := by
  rw [read, h]

theorem stat_of_read {data : List UInt8} (h : d.read p = .ok data) :
    ∃ l m a, d.stat p = .ok (l, .file data m a) := by
  unfold read at h
  split at h
  · next l data' m a hs =>
    cases h
    exact ⟨l, m, a, hs⟩
  · cases h
  · cases h

/-- A path still leads to its place after a change that keeps directories and links. -/
theorem locate_of_kept {g : Bool} {e : Entry} (h : d.locate follow p = .ok place) (hk : d.Changes Kept d')
    (he : d'.tree.get? place.loc = some e) (hl : e.isLink = false) (hg : follow = true → g = true) :
    d'.locate g p = .ok (.found place.loc e) := by
  obtain ⟨hp, hw⟩ := locate_eq_ok_iff.1 h
  rw [locate_eq_ok_iff, hk.cwd, usable_iff hk.rules]
  exact ⟨hp, hw.of_kept hk.tree he hl hg⟩

theorem stat_dir_of_kept {l : Loc} {m : Stamp} (h : d.stat p = .ok (l, .dir m)) (hk : d.Changes Kept d') :
    ∃ m', d'.stat p = .ok (l, .dir m') := by
  obtain ⟨m', hm⟩ := isDir_iff.1 (hk.tree.isDir (isDir_iff.2 ⟨m, get?_of_stat h⟩))
  exact ⟨m', stat_eq_ok_iff.2 (locate_of_kept (stat_eq_ok_iff.1 h) hk hm rfl id)⟩

private theorem stat_of_set {place : Place} {t : FileTree} {c : Content} {l : Loc}
    (h : d.locate follow p = .ok place) (hl : place.loc = l) (hk : Kept d.tree t) (hc : t.content? l = some c)
    (hlink : ∀ target, c ≠ .link target) :
    ∃ e, ({ d with tree := t } : Disk).stat p = .ok (l, e) ∧ e.content = c := by
  subst hl
  obtain ⟨e, he, hec⟩ := get?_of_content? hc
  have hlink' : e.isLink = false := by
    cases e with
    | link target => exact absurd hec.symm (hlink target)
    | file => rfl
    | dir => rfl
  have hd : d.Changes Kept { d with tree := t } := ⟨hk, rfl, rfl⟩
  exact ⟨e, stat_eq_ok_iff.2 (locate_of_kept h hd he hlink' fun _ => rfl), hec⟩

theorem makeDir_vacant (h : d.makeDir p = .ok d') :
    ∃ l, d.locate false p = .ok (.vacant l) ∧ d' = { d with tree := d.tree.create l (.dir .now) } := by
  unfold makeDir at h
  split at h
  · cases h
  · next l hl =>
    split at h
    · cases h
    · cases h
      exact ⟨l, hl, rfl⟩
  · cases h

theorem makeDir_ok (h : d.makeDir p = .ok d') :
    d.Changes MoreDirs d' ∧ ∃ l m, d'.stat p = .ok (l, .dir m) := by
  obtain ⟨l, hl, rfl⟩ := makeDir_vacant h
  have hm := moreDirs_create (locate_eq_ok_iff.1 hl).2.get?_loc .now
  have hc : (d.tree.create l (.dir .now)).content? l = some .dir := by rw [content?_create, if_pos rfl]; rfl
  obtain ⟨e, hs, he⟩ := stat_of_set hl rfl hm.kept hc (by simp)
  cases e with
  | dir m => exact ⟨⟨hm, rfl, rfl⟩, l, m, hs⟩
  | file => cases he
  | link => cases he

theorem ensureOne_ok (h : d.ensureOne p = .ok d') :
    d.Changes MoreDirs d' ∧ ∃ l m, d'.stat p = .ok (l, .dir m) := by
  unfold ensureOne at h
  split at h
  · split at h
    · cases h
    · split at h
      · next hd =>
        cases h
        exact ⟨⟨.refl _, rfl, rfl⟩, stat_of_isDir? hd⟩
      · cases h
      · cases h
  · exact makeDir_ok h

/-- Making directories adds directories at most; if it succeeds, the path leads to one. -/
theorem ensureDirs_spec (d : Disk) (p : FilePath) :
    d.Changes MoreDirs (d.ensureDirs p).1 ∧
      ((d.ensureDirs p).2 = .ok () → ∃ l m, (d.ensureDirs p).1.stat p = .ok (l, .dir m)) := by
  fun_induction ensureDirs d p
  case case1 h => exact (ensureOne_ok h).imp_right fun hs _ => hs
  case case2 h d₁ e₁ hp ih =>
    rw [hp] at ih
    exact ⟨ih.1, by simp⟩
  case case3 h d₁ hp d₂ h₂ ih =>
    rw [hp] at ih
    obtain ⟨hm, hs⟩ := ensureOne_ok h₂
    exact ⟨ih.1.comp hm .trans, fun _ => hs⟩
  case case4 h d₁ hp e₂ h₂ ih =>
    rw [hp] at ih
    exact ⟨ih.1, by simp⟩
  case case5 => exact ⟨⟨.refl _, rfl, rfl⟩, by simp⟩

theorem ensureOne_of_stat {l : Loc} {m : Stamp} (h : d.stat p = .ok (l, .dir m)) : d.ensureOne p = .ok d := by
  obtain ⟨hp, hw⟩ := locate_eq_ok_iff.1 (stat_eq_ok_iff.1 h)
  obtain ⟨l', e', hw'⟩ := hw.unfollow
  have hd : d.isDir? p = .ok true := test_of_stat Entry.isDir h
  rw [ensureOne, makeDir, locate_eq_ok_iff.2 ⟨hp, hw'⟩]
  simp [hd, OsError.at]

theorem ensureDirs_of_stat {l : Loc} {m : Stamp} (h : d.stat p = .ok (l, .dir m)) :
    d.ensureDirs p = (d, .ok ()) := by
  rw [ensureDirs, ensureOne_of_stat h]

private theorem writes_insert {l : Loc} {data old : List UInt8} {m m' a a' : Stamp} {t : FileTree}
    (h : t.get? l = some (.file old m a)) : Writes l data t (t.insert l (.file data m' a')) where
  there := by rw [content?_insert, if_pos rfl]; rfl
  elsewhere l' hl := by rw [content?_insert, if_neg hl]; exact .inl rfl
  before c hc := by
    rw [content?_of_get? h, Option.some.injEq] at hc
    subst hc
    rfl

private theorem writes_create {l : Loc} {data : List UInt8} {m a : Stamp} {t : FileTree}
    (h : t.get? l = none) : Writes l data t (t.create l (.file data m a)) where
  there := by rw [content?_create, if_pos rfl]; rfl
  elsewhere l' hl := by rw [content?_create, if_neg hl]; exact .inl rfl
  before c hc := by
    rw [content?_eq_none.2 h] at hc
    cases hc

theorem write_cases {data : List UInt8} (h : d.write p data = .ok d') :
    (∃ l old m a, d.locate true p = .ok (.found l (.file old m a)) ∧
        d' = { d with tree := d.tree.insert l (.file data .now a) }) ∨
      ∃ l, d.locate true p = .ok (.vacant l) ∧ d' = { d with tree := d.tree.create l (.file data .now .now) } := by
  unfold write at h
  split at h
  · next l old m a hl =>
    cases h
    exact .inl ⟨l, old, m, a, hl, rfl⟩
  · cases h
  · next l hl =>
    cases h
    exact .inr ⟨l, hl, rfl⟩
  · cases h

theorem write_ok {data : List UInt8} (h : d.write p data = .ok d') :
    ∃ l, d.Changes (Writes l data) d' ∧ ∃ m a, d'.stat p = .ok (l, .file data m a) := by
  have hfile : ∀ {l t place}, d.locate true p = .ok place → place.loc = l → Writes l data d.tree t →
      ∃ m a, ({ d with tree := t } : Disk).stat p = .ok (l, .file data m a) := by
    intro l t place hl hp hw
    obtain ⟨e, hs, he⟩ := stat_of_set hl hp hw.kept hw.there (by simp)
    cases e with
    | file data' m a =>
      cases he
      exact ⟨m, a, hs⟩
    | dir => cases he
    | link => cases he
  rcases write_cases h with ⟨l, old, m, a, hl, rfl⟩ | ⟨l, hl, rfl⟩
  · have hw : Writes l data d.tree (d.tree.insert l (.file data .now a)) :=
      writes_insert (locate_eq_ok_iff.1 hl).2.get?_found
    exact ⟨l, ⟨hw, rfl, rfl⟩, hfile hl rfl hw⟩
  · have hw : Writes l data d.tree (d.tree.create l (.file data .now .now)) :=
      writes_create (locate_eq_ok_iff.1 hl).2.get?_loc
    exact ⟨l, ⟨hw, rfl, rfl⟩, hfile hl rfl hw⟩

/-- The system broke off the writing of a file, which is left with the bytes that had arrived. -/
def Broken (d d' : Disk) (p : FilePath) (data : List UInt8) (errno : Errno) : Prop :=
  ∃ l arrived, d.obstacles.writing.lookup p.text = some ⟨errno, some arrived⟩ ∧
    d.Changes (Writes l (data.take arrived)) d' ∧ ∃ m a, d'.stat p = .ok (l, .file (data.take arrived) m a)

/-- Putting bytes into a file is refused at once, or it comes to writing them or a beginning of them. -/
theorem put_cases (d : Disk) (p : FilePath) (data : List UInt8) :
    (∃ e, d.put p data = (d, .error e)) ∨
      (∃ d', d.write p data = .ok d' ∧ d.put p data = (d', .ok ())) ∨
      ∃ d' errno arrived, d.obstacles.writing.lookup p.text = some ⟨errno, some arrived⟩ ∧
        d.write p (data.take arrived) = .ok d' ∧ d.put p data = (d', .error (.os ⟨errno, none⟩)) := by
  unfold put
  split
  · exact .inl ⟨_, rfl⟩
  · next errno arrived hhalt =>
    cases hwrite : d.write p (data.take arrived) with
    | error e => exact .inl ⟨e, rfl⟩
    | ok d' => exact .inr (.inr ⟨d', errno, arrived, hhalt, hwrite, rfl⟩)
  · cases hwrite : d.write p data with
    | error e => exact .inl ⟨e, rfl⟩
    | ok d' => exact .inr (.inl ⟨d', rfl, rfl⟩)

/-- After a successful update the path leads to a file with the bytes. A refused one adds directories at most, unless it
was broken off in writing. -/
theorem update_spec (d : Disk) (p : FilePath) (data : List UInt8) :
    (∃ changed l, (d.update p data).2 = .ok changed ∧ d.Changes (Writes l data) (d.update p data).1 ∧
        ∃ m a, (d.update p data).1.stat p = .ok (l, .file data m a)) ∨
      (∃ e, (d.update p data).2 = .error e ∧ d.Changes MoreDirs (d.update p data).1) ∨
      ∃ errno, (d.update p data).2 = .error (.os ⟨errno, none⟩) ∧ d.Broken (d.update p data).1 p data errno := by
  have hsame : d.Changes MoreDirs d := ⟨.refl _, rfl, rfl⟩
  unfold update
  split
  · exact .inr (.inl ⟨_, rfl, hsame⟩)
  next isFile hfile =>
  split
  · exact .inr (.inl ⟨_, rfl, hsame⟩)
  next old hold =>
  split
  · next hcond =>
    obtain ⟨rfl, hdata⟩ : isFile = true ∧ old = data := by simpa using hcond
    obtain ⟨l, m, a, hs⟩ := stat_of_read hold
    subst hdata
    refine .inl ⟨false, l, rfl, ⟨⟨?_, fun l' _ => .inl rfl, ?_⟩, rfl, rfl⟩, m, a, hs⟩
    · exact content?_of_get? (get?_of_stat hs)
    · intro c hc
      rw [content?_of_get? (get?_of_stat hs), Option.some.injEq] at hc
      subst hc
      rfl
  obtain ⟨hdirs, -⟩ := ensureDirs_spec d p.parent
  rcases hmade : d.ensureDirs p.parent with ⟨d₁, made⟩
  rw [hmade] at hdirs
  cases made with
  | error e => exact .inr (.inl ⟨e, rfl, hdirs⟩)
  | ok _ =>
    dsimp only
    rcases put_cases d₁ p data with ⟨e, hput⟩ | ⟨d₂, hwrite, hput⟩ | ⟨d₂, errno, arrived, hhalt, hwrite, hput⟩
    · rw [hput]
      exact .inr (.inl ⟨e, rfl, hdirs⟩)
    · rw [hput]
      obtain ⟨l, hw, hs⟩ := write_ok hwrite
      exact .inl ⟨true, l, rfl, hdirs.comp hw .of_moreDirs, hs⟩
    · rw [hput]
      obtain ⟨l, hw, hs⟩ := write_ok hwrite
      rw [obstacles_eq hdirs.rules] at hhalt
      exact .inr (.inr ⟨errno, rfl, l, arrived, hhalt, hdirs.comp hw .of_moreDirs, hs⟩)

theorem update_of_stat {l : Loc} {data : List UInt8} {m a : Stamp} (h : d.stat p = .ok (l, .file data m a)) :
    d.update p data = (d, .ok false) := by
  have hfile : d.isFile? p = .ok true := test_of_stat Entry.isFile h
  simp only [update, hfile, read_of_stat h, if_true, Bool.true_and, beq_self_eq_true]

/-- A file can be written anew where its directory exists and nothing is in the way of writing it. -/
theorem update_over {l l' : Loc} {old data : List UInt8} {m m' a : Stamp} (h : d.stat p = .ok (l, .file old m a))
    (hdir : d.stat p.parent = .ok (l', .dir m')) (hopen : d.obstacles.writing.lookup p.text = none) :
    ∃ changed, (d.update p data).2 = .ok changed := by
  have hfile : d.isFile? p = .ok true := test_of_stat Entry.isFile h
  have hwrite : d.write p data = .ok { d with tree := d.tree.insert l (.file data .now a) } := by
    rw [write, stat_eq_ok_iff.1 h]
  have hput : d.put p data = ({ d with tree := d.tree.insert l (.file data .now a) }, .ok ()) := by
    rw [put, hopen]
    dsimp only
    rw [hwrite]
  simp only [update, hfile, read_of_stat h, if_true, Bool.true_and, ensureDirs_of_stat hdir, hput]
  split
  · exact ⟨false, rfl⟩
  · exact ⟨true, rfl⟩

/-- Where the directory exists, an update does nothing, or all that it does is to put the bytes into the file. -/
theorem update_in_dir {data : List UInt8} {l : Loc} {m : Stamp} (hdir : d.stat p.parent = .ok (l, .dir m)) :
    (∃ r, d.update p data = (d, r)) ∨
      d.update p data = ((d.put p data).1, (d.put p data).2.map fun _ => true) := by
  unfold update
  split
  · exact .inl ⟨_, rfl⟩
  split
  · exact .inl ⟨_, rfl⟩
  split
  · exact .inl ⟨_, rfl⟩
  rw [ensureDirs_of_stat hdir]
  right
  dsimp only
  rcases d.put p data with ⟨d', _ | _⟩ <;> rfl

/-- Where the directory exists, a refused update does nothing, unless it was broken off in writing. -/
theorem update_refused {data : List UInt8} {e : AccessError} {l : Loc} {m : Stamp}
    (hdir : d.stat p.parent = .ok (l, .dir m)) (h : (d.update p data).2 = .error e) :
    (d.update p data).1 = d ∨ ∃ errno, e = .os ⟨errno, none⟩ ∧ d.Broken (d.update p data).1 p data errno := by
  rcases update_in_dir hdir with ⟨r, hr⟩ | hput
  · exact .inl (by rw [hr])
  rw [hput] at h ⊢
  rcases put_cases d p data with ⟨e', hrefused⟩ | ⟨d', -, hdone⟩ | ⟨d', errno, arrived, hhalt, hwrite, hbroken⟩
  · exact .inl (by rw [hrefused])
  · rw [hdone] at h
    cases h
  · rw [hbroken] at h ⊢
    cases h
    obtain ⟨l', hwrites, hstat⟩ := write_ok hwrite
    exact .inr ⟨errno, rfl, l', arrived, hhalt, hwrites, hstat⟩

theorem kept_of_write {data : List UInt8} (h : d.write p data = .ok d') : Kept d'.tree d.tree := by
  have hput : ∀ {t : FileTree} {l : Loc}, (∀ l', t.content? l' = if l' = l then some (.file data) else d.tree.content? l') →
      Kept t d.tree := by
    intro t l ht l' c hc hf
    rw [ht] at hc
    split at hc
    · cases hc
      cases hf
    · exact hc
  rcases write_cases h with ⟨_, _, _, _, _, rfl⟩ | ⟨_, _, rfl⟩
  · exact hput fun l' => content?_insert _ _ _ _
  · exact hput fun l' => content?_create _ _ _ _

/-- Writing a file into a directory that exists makes no directory and no link. -/
theorem kept_of_update {data : List UInt8} {l : Loc} {m : Stamp} (h : d.stat p.parent = .ok (l, .dir m)) :
    Kept (d.update p data).1.tree d.tree := by
  rcases update_in_dir h with ⟨r, hr⟩ | hput
  · rw [hr]
    exact .refl _
  rw [hput]
  rcases put_cases d p data with ⟨e, hrefused⟩ | ⟨d', hwrite, hdone⟩ | ⟨d', _, _, -, hwrite, hbroken⟩
  · rw [hrefused]
    exact .refl _
  · rw [hdone]
    exact kept_of_write hwrite
  · rw [hbroken]
    exact kept_of_write hwrite

theorem unlink_found (h : d.unlink p = .ok d') :
    ∃ l e, d.locate false p = .ok (.found l e) ∧ e.isDir = false ∧ d' = { d with tree := d.tree.remove l } := by
  unfold unlink at h
  split at h
  · cases h
  · split at h
    · cases h
    · next l e hdir hl =>
      cases h
      refine ⟨l, e, hl, ?_, rfl⟩
      cases e with
      | dir m => exact absurd rfl (hdir m)
      | file => rfl
      | link => rfl
    · cases h
    · cases h

theorem unlink_ok (h : d.unlink p = .ok d') :
    ∃ l e, d.locate false p = .ok (.found l e) ∧ d.Changes (Removes l) d' := by
  obtain ⟨l, e, hl, he, rfl⟩ := unlink_found h
  have hr : Removes l d.tree (d.tree.remove l) := by
    refine ⟨by rw [content?_remove, if_pos rfl], fun l' hne => by rw [content?_remove, if_neg hne], ?_⟩
    rw [isDir, (locate_eq_ok_iff.1 hl).2.get?_found]
    exact he
  exact ⟨l, e, hl, hr, rfl, rfl⟩

end Disk

end JavaStubs
