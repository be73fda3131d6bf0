import JavaStubs.Proofs.Disk.Leads

/-! Trees as a file system can hold them: every entry but the root lies in a directory and has a name that an entry
can have. -/
namespace JavaStubs

structure FileName (c : String) : Prop extends EntryName c where
  noSlash : '/' ∉ c.toList
  noNul : holdsNul c = false

instance (c : String) : Decidable (FileName c) :=
  decidable_of_iff (c ≠ "." ∧ c ≠ ".." ∧ c.utf8ByteSize ≤ maxName ∧ '/' ∉ c.toList ∧ holdsNul c = false)
    ⟨fun h => ⟨⟨h.1, h.2.1, h.2.2.1⟩, h.2.2.2.1, h.2.2.2.2⟩,
      fun h => ⟨h.notHere, h.notAbove, h.short, h.noSlash, h.noNul⟩⟩

def Disk.longestName : String :=
  String.ofList (List.replicate maxName 'd')

theorem Disk.fileName_longestName : FileName longestName where
  notHere := by decide +kernel
  notAbove := by decide +kernel
  short := by decide +kernel
  noSlash := by simp [longestName]
  noNul := by decide +kernel

namespace FileTree

structure WellFormed (t : FileTree) : Prop where
  inDir : ∀ {c l e}, t.get? (c :: l) = some e → t.isDir l = true
  named : ∀ {c l e}, t.get? (c :: l) = some e → FileName c

theorem wellFormed_iff_entries {t : FileTree} : t.WellFormed ↔
    ∀ e ∈ t.entries, e.1 = [] ∨ (t.isDir e.1.tail = true ∧ FileName (e.1.headD "")) := by
  constructor
  · rintro h ⟨l, e⟩ hm
    cases l with
    | nil => exact .inl rfl
    | cons c l => exact .inr ⟨h.inDir (get?_eq_some_iff.2 hm), h.named (get?_eq_some_iff.2 hm)⟩
  · intro h
    have hcons : ∀ {c l e}, t.get? (c :: l) = some e → t.isDir l = true ∧ FileName c := by
      intro c l e he
      exact (h _ (get?_eq_some_iff.1 he)).resolve_left (List.cons_ne_nil c l)
    exact ⟨fun he => (hcons he).1, fun he => (hcons he).2⟩

instance (t : FileTree) : Decidable t.WellFormed :=
  decidable_of_iff _ wellFormed_iff_entries.symm

/-- The way down to an entry goes through directories. -/
theorem WellFormed.isDir_above {t : FileTree} (h : t.WellFormed) {names : List String} {l : Loc} {e : Entry}
    (he : t.get? (names ++ l) = some e) (hn : names ≠ []) : t.isDir l = true := by
  induction names generalizing e with
  | nil => contradiction
  | cons c names ih =>
    have hd := h.inDir he
    cases names with
    | nil => exact hd
    | cons c' names =>
      obtain ⟨m, hm⟩ := isDir_iff.1 hd
      exact ih hm (List.cons_ne_nil _ _)

theorem WellFormed.named_of_mem {t : FileTree} (h : t.WellFormed) {names : List String} {l : Loc} {e : Entry}
    (he : t.get? (names ++ l) = some e) {c : String} (hc : c ∈ names) : FileName c := by
  induction names generalizing e with
  | nil => cases hc
  | cons c' names ih =>
    rcases List.mem_cons.1 hc with rfl | hc
    · exact h.named he
    · obtain ⟨m, hm⟩ := isDir_iff.1 (h.inDir he)
      exact ih hm hc

theorem descend_eq_append {names : List String} (h : ∀ c ∈ names, EntryName c) (here : Loc) :
    descend here names = names.reverse ++ here := by
  induction names generalizing here with
  | nil => rfl
  | cons c names ih =>
    rw [descend_cons (h c List.mem_cons_self), ih fun c' hc => h c' (List.mem_cons_of_mem _ hc)]
    simp

end FileTree

end JavaStubs
