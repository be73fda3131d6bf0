import JavaStubs.Disk.Tree

/-! How many entries a subtree holds. The subtrees of different names in one directory are disjoint, so their sizes
add up to less than the size of the directory; walks over a tree end by this measure. -/

namespace JavaStubs.FileTree

/-- The number of entries at `d` and below. -/
def size (t : FileTree) (d : Loc) : Nat :=
  t.entries.countP fun e => d <:+ e.1

/-- The number of entries below `d`. -/
def sizeBelow (t : FileTree) (d : Loc) : Nat :=
  t.entries.countP fun e => d <:+ e.1 ∧ e.1 ≠ d

theorem sizeBelow_lt_size {t : FileTree} {d : Loc} {e : Entry} (h : t.get? d = some e) :
    t.sizeBelow d < t.size d := by
  rw [get?_eq_some_iff] at h
  unfold sizeBelow size
  generalize t.entries = es at h
  induction es with
  | nil => simp at h
  | cons x xs ih =>
    have hle : xs.countP (fun e => d <:+ e.1 ∧ e.1 ≠ d) ≤ xs.countP fun e => d <:+ e.1 :=
      List.countP_mono_left fun _ _ h => by simp_all
    simp only [List.countP_cons, decide_eq_true_eq]
    rcases List.mem_cons.1 h with rfl | h
    · rw [if_neg (fun h => h.2 rfl), if_pos (List.suffix_refl _)]
      omega
    · have := ih h
      split
      · next hs => rw [if_pos hs.1]; omega
      · split <;> omega

theorem eq_of_suffixes {c c' : String} {d l : Loc} (h : c :: d <:+ l) (h' : c' :: d <:+ l) : c = c' := by
  have := List.suffix_of_suffix_length_le h h' (by simp)
  have := this.eq_of_length (by simp)
  simpa using this

def sumOf (f : α → Nat) : List α → Nat
  | [] => 0
  | x :: xs => f x + sumOf f xs

theorem sumOf_eq_zero {f : α → Nat} {xs : List α} (h : ∀ x ∈ xs, f x = 0) : sumOf f xs = 0 := by
  induction xs with
  | nil => rfl
  | cons x xs ih =>
    rw [sumOf, h x List.mem_cons_self, ih fun y hy => h y (List.mem_cons_of_mem x hy)]

theorem sumOf_add (f g : α → Nat) (xs : List α) : sumOf (fun x => f x + g x) xs = sumOf f xs + sumOf g xs := by
  induction xs with
  | nil => rfl
  | cons x xs ih => simp only [sumOf, ih]; omega

theorem sumOf_append (f : α → Nat) (xs ys : List α) : sumOf f (xs ++ ys) = sumOf f xs + sumOf f ys := by
  induction xs with
  | nil => simp only [List.nil_append, sumOf, Nat.zero_add]
  | cons x xs ih => simp only [List.cons_append, sumOf, ih, Nat.add_assoc]

theorem sumOf_map (f : β → Nat) (g : α → β) (xs : List α) : sumOf f (xs.map g) = sumOf (fun x => f (g x)) xs := by
  induction xs with
  | nil => rfl
  | cons x xs ih => simp only [List.map_cons, sumOf, ih]

/-- One entry lies at or below at most one of the names in a directory. -/
private theorem sum_indicator_le {names : List String} (hn : names.Nodup) (d l : Loc) :
    sumOf (fun c => if c :: d <:+ l then 1 else 0) names ≤ if d <:+ l ∧ l ≠ d then 1 else 0 := by
  induction names with
  | nil => exact Nat.zero_le _
  | cons c cs ih =>
    rw [List.nodup_cons] at hn
    by_cases hc : c :: d <:+ l
    · have hrest : sumOf (fun c => if c :: d <:+ l then 1 else 0) cs = 0 :=
        sumOf_eq_zero fun c' hm => if_neg fun hc' => hn.1 (eq_of_suffixes hc hc' ▸ hm)
      have hd : d <:+ l := (List.suffix_cons c d).trans hc
      have hne : l ≠ d := by
        intro h
        have := hc.length_le
        rw [h, List.length_cons] at this
        omega
      simp only [sumOf, hrest, if_pos hc, if_pos (And.intro hd hne)]
      exact Nat.le_refl 1
    · rw [sumOf, if_neg hc, Nat.zero_add]
      exact ih hn.2

/-- Subtrees of different names in `d` hold together no more than lies below `d`. -/
theorem sum_size_le (t : FileTree) (d : Loc) {names : List String} (hn : names.Nodup) :
    sumOf (fun c => t.size (c :: d)) names ≤ t.sizeBelow d := by
  unfold size sizeBelow
  induction t.entries with
  | nil => exact Nat.le_of_eq (sumOf_eq_zero fun _ _ => rfl)
  | cons x xs ih =>
    simp only [List.countP_cons, sumOf_add, decide_eq_true_eq]
    exact Nat.add_le_add ih (sum_indicator_le hn d x.1)

theorem children_nodup (t : FileTree) (d : Loc) : ((t.children d).map (·.1)).Nodup := by
  have h : ∀ es : List (Loc × Entry), (es.map (·.1)).Nodup → ((childrenOf d es).map (·.1)).Nodup := by
    intro es
    induction es with
    | nil => simp [childrenOf]
    | cons x xs ih =>
      obtain ⟨l, e⟩ := x
      intro hn
      rw [List.map_cons, List.nodup_cons] at hn
      cases hc : nameIn? d l with
      | none => simpa [childrenOf, hc] using ih hn.2
      | some c =>
        have hl : l = c :: d := nameIn?_eq_some_iff.1 hc
        simp only [childrenOf, List.filterMap_cons, hc, Option.map_some, List.map_cons, List.nodup_cons]
        refine ⟨?_, ih hn.2⟩
        intro hm
        simp only [List.mem_map, List.mem_filterMap, Prod.exists, Option.map_eq_some_iff, nameIn?_eq_some_iff,
          Prod.mk.injEq] at hm
        obtain ⟨c', e', ⟨l', e'', hx, c'', hl', hc', -⟩, rfl⟩ := hm
        refine hn.1 (List.mem_map.2 ⟨(l', e''), hx, ?_⟩)
        rw [hl, hl', hc']
  exact h t.entries t.nodup

theorem listing_nodup (t : FileTree) (d : Loc) : ((t.listing d).map (·.1)).Nodup :=
  ((List.mergeSort_perm _ _).map _).nodup_iff.2 (t.children_nodup d)

theorem size_child_lt {t : FileTree} {d : Loc} (hd : t.isDir d = true) (c : String) : t.size (c :: d) < t.size d := by
  obtain ⟨_, he⟩ := isDir_iff.1 hd
  have := sum_size_le t d (show [c].Nodup by simp)
  simp only [sumOf, Nat.add_zero] at this
  exact Nat.lt_of_le_of_lt this (sizeBelow_lt_size he)

end JavaStubs.FileTree
