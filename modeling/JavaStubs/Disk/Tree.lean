import JavaStubs.Text.Cut

/-! File trees. A tree is a finite map from locations to entries; a location lists the names from the entry up to the
root. Each operation is pinned down by what it does to `get?`. -/

namespace JavaStubs

/-- The names on the way from an entry up to the root, its own name first. The root is the empty list. -/
abbrev Loc := List String

/-- A time in nanoseconds, or the present one. -/
inductive Stamp where
  | now
  | known (ns : Int)
  deriving Repr, DecidableEq, Inhabited

inductive Entry where
  | file (data : List UInt8) (modified accessed : Stamp)
  | dir (modified : Stamp)
  | link (target : String)
  deriving Repr, DecidableEq, Inhabited

namespace Entry

def isDir : Entry → Bool
  | dir _ => true
  | _ => false

def isFile : Entry → Bool
  | file .. => true
  | _ => false

def isLink : Entry → Bool
  | link _ => true
  | _ => false

end Entry

structure FileTree where
  entries : List (Loc × Entry)
  nodup : (entries.map (·.1)).Nodup := by simp

namespace FileTree

def empty : FileTree :=
  { entries := [([], .dir .now)] }

instance : Inhabited FileTree := ⟨empty⟩

def get? (t : FileTree) (l : Loc) : Option Entry :=
  (t.entries.find? (·.1 == l)).map (·.2)

theorem nodup_filter (t : FileTree) (keep : Loc × Entry → Bool) :
    ((t.entries.filter keep).map (·.1)).Nodup :=
  t.nodup.sublist (List.filter_sublist.map _)

def filter (t : FileTree) (keep : Loc → Bool) : FileTree :=
  ⟨t.entries.filter fun e => keep e.1, t.nodup_filter _⟩

/-- Removes one entry, whatever lies below it. -/
def erase (t : FileTree) (l : Loc) : FileTree :=
  t.filter (· != l)

/-- Puts an entry at a location, in place of the one that may be there. -/
def insert (t : FileTree) (l : Loc) (e : Entry) : FileTree where
  entries := (l, e) :: (t.erase l).entries
  nodup := by
    rw [List.map_cons, List.nodup_cons]
    refine ⟨?_, (t.erase l).nodup⟩
    simp [erase, filter]

/-- Whether `l` is `d` or lies below it. -/
def Below (d l : Loc) : Prop := d <:+ l

instance (d l : Loc) : Decidable (Below d l) := inferInstanceAs (Decidable (d <:+ l))

def eraseBelow (t : FileTree) (d : Loc) : FileTree :=
  t.filter fun l => !d.isSuffixOf l

def isDir (t : FileTree) (l : Loc) : Bool :=
  match t.get? l with
  | some e => e.isDir
  | none => false

/-- Marks a directory as changed at present. -/
def touch (t : FileTree) (d : Loc) : FileTree :=
  match t.get? d with
  | some (.dir _) => t.insert d (.dir .now)
  | _ => t

/-- A new entry; its directory counts as changed. -/
def create (t : FileTree) (l : Loc) (e : Entry) : FileTree :=
  (t.insert l e).touch l.tail

/-- Takes an entry away; its directory counts as changed. -/
def remove (t : FileTree) (l : Loc) : FileTree :=
  (t.erase l).touch l.tail

/-- The name of a location directly inside `d`. -/
def nameIn? (d : Loc) : Loc → Option String
  | [] => none
  | c :: l => if l == d then some c else none

/-- Those of some entries that are directly inside `d`, by name. -/
def childrenOf (d : Loc) (entries : List (Loc × Entry)) : List (String × Entry) :=
  entries.filterMap fun (l, e) => (nameIn? d l).map fun c => (c, e)

/-- The entries directly inside `d` in the order of the tree. -/
def children (t : FileTree) (d : Loc) : List (String × Entry) :=
  childrenOf d t.entries

def listing (t : FileTree) (d : Loc) : List (String × Entry) :=
  (t.children d).mergeSort fun a b => decide (a.1 ≤ b.1)

theorem get?_eq_some_iff {t : FileTree} {l : Loc} {e : Entry} : t.get? l = some e ↔ (l, e) ∈ t.entries := by
  obtain ⟨entries, nodup⟩ := t
  simp only [get?]
  induction entries with
  | nil => simp
  | cons x xs ih =>
    obtain ⟨k, v⟩ := x
    rw [List.map_cons, List.nodup_cons] at nodup
    by_cases hk : k = l
    · subst hk
      simp only [List.find?_cons, beq_self_eq_true, Option.map_some, Option.some.injEq, List.mem_cons,
        Prod.mk.injEq, true_and]
      constructor
      · exact fun h => .inl h.symm
      · rintro (h | h)
        · exact h.symm
        · exact absurd (List.mem_map_of_mem (f := (·.1)) h) nodup.1
    · have hk' : (k == l) = false := by simpa using hk
      simp only [List.find?_cons, hk', ih nodup.2, List.mem_cons, Prod.mk.injEq]
      constructor
      · exact .inr
      · rintro (⟨h, -⟩ | h)
        · exact absurd h.symm hk
        · exact h

theorem get?_filter (t : FileTree) (keep : Loc → Bool) (l : Loc) :
    (t.filter keep).get? l = if keep l then t.get? l else none := by
  apply Option.ext
  intro e
  rw [get?_eq_some_iff]
  simp only [filter, List.mem_filter]
  split
  · next h => rw [get?_eq_some_iff]; simp [h]
  · next h => simp [h]

theorem get?_erase (t : FileTree) (l l' : Loc) :
    (t.erase l).get? l' = if l' = l then none else t.get? l' := by
  rw [erase, get?_filter]
  by_cases h : l' = l <;> simp [h]

theorem get?_insert (t : FileTree) (l l' : Loc) (e : Entry) :
    (t.insert l e).get? l' = if l' = l then some e else t.get? l' := by
  apply Option.ext
  intro x
  by_cases h : l' = l
  · subst h
    rw [get?_eq_some_iff, if_pos rfl]
    simp only [insert, erase, filter, List.mem_cons, List.mem_filter, Prod.mk.injEq, true_and, bne_self_eq_false,
      Bool.false_eq_true, and_false, or_false, Option.some.injEq]
    exact eq_comm
  · rw [get?_eq_some_iff, if_neg h, get?_eq_some_iff]
    simp [insert, erase, filter, h]

theorem get?_eraseBelow (t : FileTree) (d l : Loc) :
    (t.eraseBelow d).get? l = if Below d l then none else t.get? l := by
  rw [eraseBelow, get?_filter]
  by_cases h : d <:+ l
  · rw [if_pos (show Below d l from h), if_neg (by simpa using h)]
  · have hs : d.isSuffixOf l = false := by
      rw [← Bool.not_eq_true, List.isSuffixOf_iff_suffix]
      exact h
    rw [if_neg (show ¬ Below d l from h), hs]
    rfl

@[simp] theorem get?_insert_self (t : FileTree) (l : Loc) (e : Entry) : (t.insert l e).get? l = some e := by
  simp [get?_insert]

theorem isDir_iff {t : FileTree} {d : Loc} : t.isDir d = true ↔ ∃ modified, t.get? d = some (.dir modified) := by
  unfold isDir
  cases t.get? d with
  | none => simp
  | some e => cases e <;> simp [Entry.isDir]

theorem nameIn?_eq_some_iff {d l : Loc} {c : String} : nameIn? d l = some c ↔ l = c :: d := by
  cases l with
  | nil => simp [nameIn?]
  | cons x l =>
    by_cases h : l = d
    · simp [nameIn?, h]
    · simp [nameIn?, h]

/-- A directory lists exactly the entries one name below it. -/
theorem mem_listing {t : FileTree} {d : Loc} {c : String} {e : Entry} :
    (c, e) ∈ t.listing d ↔ t.get? (c :: d) = some e := by
  rw [get?_eq_some_iff]
  simp only [listing, List.mem_mergeSort, children, childrenOf, List.mem_filterMap, Prod.exists, Option.map_eq_some_iff,
    nameIn?_eq_some_iff, Prod.mk.injEq]
  constructor
  · rintro ⟨l, e', hm, c', rfl, rfl, rfl⟩
    exact hm
  · intro h
    exact ⟨_, _, h, _, rfl, rfl, rfl⟩

end FileTree

end JavaStubs
