import JavaStubs.Text.Blank
import JavaStubs.Text.Cut
import JavaStubs.Text.Replace

/-! Where a text stands in another, and what replacing it comes to. Replacing in two pieces put together is replacing
in each of them, unless the text stands across the seam. -/
namespace JavaStubs.Text

def occurrences (part : List Char) : List Char → Nat
  | [] => 0
  | c :: cs => (if part.isPrefixOf (c :: cs) then 1 else 0) + occurrences part cs

variable {part new front cs tail : List Char} {c : Char}

theorem occurrences_cons_of_begins (h : part <+: c :: cs) : occurrences part (c :: cs) = occurrences part cs + 1 := by
  rw [occurrences, if_pos (List.isPrefixOf_iff_prefix.2 h), Nat.add_comm]

theorem occurrences_cons_of_not_begins (h : ¬part <+: c :: cs) : occurrences part (c :: cs) = occurrences part cs := by
  rw [occurrences, if_neg (fun hprefix => h (List.isPrefixOf_iff_prefix.1 hprefix)), Nat.zero_add]

theorem occurrences_le_append : occurrences part cs ≤ occurrences part (front ++ cs) := by
  induction front with
  | nil => exact Nat.le_refl _
  | cons c front ih =>
    rw [List.cons_append, occurrences]
    omega

theorem occurrences_pos_iff (hn : part ≠ []) : 0 < occurrences part cs ↔ infixChars part cs = true := by
  induction cs with
  | nil => simp [occurrences, infixChars, hn]
  | cons c cs ih =>
    rw [infixChars, Bool.or_eq_true, List.isPrefixOf_iff_prefix, ← ih]
    by_cases hprefix : part <+: c :: cs
    · simp [occurrences_cons_of_begins hprefix, hprefix]
    · simp [occurrences_cons_of_not_begins hprefix, hprefix]

/-- Nothing begins in a piece that lacks the first character. -/
theorem occurrences_append_of_not_mem (h : c ∉ front) :
    occurrences (c :: tail) (front ++ cs) = occurrences (c :: tail) cs := by
  induction front with
  | nil => rfl
  | cons d front ih =>
    obtain ⟨hne, hnot⟩ := List.ne_and_not_mem_of_not_mem_cons h
    rw [List.cons_append, occurrences_cons_of_not_begins, ih hnot]
    rintro ⟨rest, hrest⟩
    exact hne (List.cons.inj hrest).1

/-- A text that does not begin again within itself stands in itself once. -/
theorem occurrences_self_append (h : c ∉ tail) :
    occurrences (c :: tail) (c :: tail ++ cs) = occurrences (c :: tail) cs + 1 := by
  rw [List.cons_append, occurrences_cons_of_begins (List.prefix_append _ _), occurrences_append_of_not_mem h]

theorem replaceChars_self_append (hn : part ≠ []) :
    replaceChars part new (part ++ cs) = new ++ replaceChars part new cs := by
  cases part with
  | nil => contradiction
  | cons c tail =>
    have hprefix : (c :: tail).isPrefixOf (c :: (tail ++ cs)) = true :=
      List.isPrefixOf_iff_prefix.2 (List.prefix_append _ _)
    rw [List.cons_append, replaceChars, hprefix]
    simp

theorem replaceChars_cons_of_not_begins (h : ¬part <+: c :: cs) :
    replaceChars part new (c :: cs) = c :: replaceChars part new cs := by
  have hprefix : part.isPrefixOf (c :: cs) = false := by
    rw [Bool.eq_false_iff]
    exact fun hprefix => h (List.isPrefixOf_iff_prefix.1 hprefix)
  rw [replaceChars, hprefix]
  rfl

/-- A piece in which nothing begins stays as it is. -/
theorem replaceChars_append (h : occurrences part (front ++ cs) = occurrences part cs) :
    replaceChars part new (front ++ cs) = front ++ replaceChars part new cs := by
  induction front with
  | nil => rfl
  | cons c front ih =>
    have hle : occurrences part cs ≤ occurrences part (front ++ cs) := occurrences_le_append
    by_cases hprefix : part <+: c :: (front ++ cs)
    · rw [List.cons_append, occurrences_cons_of_begins hprefix] at h
      omega
    · rw [List.cons_append, occurrences_cons_of_not_begins hprefix] at h
      rw [List.cons_append, replaceChars_cons_of_not_begins hprefix, ih h, List.cons_append]

/-! What has no blanks at its ends is still there when the text around it is trimmed. -/

theorem infixChars_iff : infixChars part cs = true ↔ part <:+: cs := by
  induction cs with
  | nil => simp [infixChars]
  | cons c cs ih => rw [infixChars, Bool.or_eq_true, List.isPrefixOf_iff_prefix, ih, List.infix_cons_iff]

theorem dropWhile_append_of_head {p : Char → Bool} (hc : p c = false) (front tail : List Char) :
    ∃ left, (front ++ c :: tail).dropWhile p = left ++ c :: tail := by
  have hstays : (c :: tail).dropWhile p = c :: tail := List.dropWhile_cons_of_neg (by simp [hc])
  rw [List.dropWhile_append, hstays]
  split
  · exact ⟨[], rfl⟩
  · exact ⟨_, rfl⟩

theorem infixChars_trimChars {d : Char} (hc : isBlank c = false) (hd : isBlank d = false)
    (h : infixChars (c :: tail ++ [d]) cs = true) : infixChars (c :: tail ++ [d]) (trimChars cs) = true := by
  obtain ⟨front, back, rfl⟩ := infixChars_iff.1 h
  obtain ⟨left, hleft⟩ := dropWhile_append_of_head hc front (tail ++ d :: back)
  obtain ⟨right, hright⟩ := dropWhile_append_of_head hd back.reverse (tail.reverse ++ c :: left.reverse)
  refine infixChars_iff.2 ⟨left, right.reverse, ?_⟩
  unfold trimChars trimEndChars trimStartChars
  have hfront : front ++ (c :: tail ++ [d]) ++ back = front ++ c :: (tail ++ d :: back) := by simp
  have hback : (left ++ c :: (tail ++ d :: back)).reverse = back.reverse ++ d :: (tail.reverse ++ c :: left.reverse) := by
    simp
  rw [hfront, hleft, hback, hright]
  simp

end JavaStubs.Text
