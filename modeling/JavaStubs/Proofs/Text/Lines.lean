import JavaStubs.Text.Lines

/-! Which lines a text has, told without the two passes that cut it: it is taken apart at the first line break, and
then what is behind. A text without a line feed stays on the line that it is written to. -/
namespace JavaStubs.Text

structure Unbroken (line : List Char) : Prop where
  noReturn : '\r' ∉ line
  noFeed : '\n' ∉ line

/-- A text and the lines between its breaks. A break is CR LF, a CR before anything else, or a LF, and what stands behind
the last one is a line unless it is empty. -/
inductive CutAtBreaks : List Char → List (List Char) → Prop
  | nil : CutAtBreaks [] []
  | last {line} : Unbroken line → line ≠ [] → CutAtBreaks line [line]
  | returnFeed {line rest lines} : Unbroken line → CutAtBreaks rest lines →
      CutAtBreaks (line ++ '\r' :: '\n' :: rest) (line :: lines)
  | return {line rest lines} : Unbroken line → rest.head? ≠ some '\n' → CutAtBreaks rest lines →
      CutAtBreaks (line ++ '\r' :: rest) (line :: lines)
  | feed {line rest lines} : Unbroken line → CutAtBreaks rest lines →
      CutAtBreaks (line ++ '\n' :: rest) (line :: lines)

variable {c : Char} {cs line rest : List Char} {lines : List (List Char)}

theorem unbroken_nil : Unbroken [] :=
  ⟨List.not_mem_nil, List.not_mem_nil⟩

theorem Unbroken.cons (hreturn : c ≠ '\r') (hfeed : c ≠ '\n') (h : Unbroken line) : Unbroken (c :: line) where
  noReturn := by simp [h.noReturn, Ne.symm hreturn]
  noFeed := by simp [h.noFeed, Ne.symm hfeed]

theorem CutAtBreaks.cons (hreturn : c ≠ '\r') (hfeed : c ≠ '\n') (h : CutAtBreaks cs lines) :
    ∃ lines', CutAtBreaks (c :: cs) lines' := by
  cases h with
  | nil => exact ⟨[[c]], .last (unbroken_nil.cons hreturn hfeed) (List.cons_ne_nil _ _)⟩
  | last hline _ => exact ⟨_, .last (hline.cons hreturn hfeed) (List.cons_ne_nil _ _)⟩
  | returnFeed hline hrest => exact ⟨_, .returnFeed (hline.cons hreturn hfeed) hrest⟩
  | «return» hline hhead hrest => exact ⟨_, .return (hline.cons hreturn hfeed) hhead hrest⟩
  | feed hline hrest => exact ⟨_, .feed (hline.cons hreturn hfeed) hrest⟩

theorem exists_cutAtBreaks (cs : List Char) : ∃ lines, CutAtBreaks cs lines := by
  fun_induction unifyNewlines cs with
  | case1 => exact ⟨[], .nil⟩
  | case2 cs ih =>
    obtain ⟨lines, hlines⟩ := ih
    exact ⟨[] :: lines, .returnFeed unbroken_nil hlines⟩
  | case3 cs hhead ih =>
    obtain ⟨lines, hlines⟩ := ih
    have hfeed : cs.head? ≠ some '\n' := by
      cases cs with
      | nil => simp
      | cons c cs =>
        intro heq
        cases heq
        exact hhead cs rfl
    exact ⟨[] :: lines, .return unbroken_nil hfeed hlines⟩
  | case4 c cs hreturnFeed hreturn ih =>
    obtain ⟨lines, hlines⟩ := ih
    by_cases hfeed : c = '\n'
    · subst hfeed
      exact ⟨[] :: lines, .feed unbroken_nil hlines⟩
    · exact hlines.cons hreturn hfeed

theorem unifyNewlines_append (h : Unbroken line) (rest : List Char) :
    unifyNewlines (line ++ rest) = line ++ unifyNewlines rest := by
  induction line with
  | nil => rfl
  | cons c line ih =>
    have hreturn : c ≠ '\r' := by
      have := h.noReturn
      simp only [List.mem_cons, not_or] at this
      exact Ne.symm this.1
    have hline : Unbroken line := ⟨fun hc => h.noReturn (List.mem_cons_of_mem c hc), fun hc => h.noFeed (List.mem_cons_of_mem c hc)⟩
    rw [List.cons_append, List.cons_append, unifyNewlines, ih hline]
    · intro cs hc
      exact absurd hc hreturn
    · exact hreturn

theorem unifyNewlines_return (h : rest.head? ≠ some '\n') : unifyNewlines ('\r' :: rest) = '\n' :: unifyNewlines rest := by
  rw [unifyNewlines]
  intro cs hcs
  rw [hcs] at h
  exact h rfl

theorem cutLines_append (h : '\n' ∉ line) (rest : List Char) : cutLines (line ++ '\n' :: rest) = line :: cutLines rest := by
  unfold cutLines
  rw [cutChars_append h]
  dsimp only
  have hne := cutChars_ne_nil '\n' rest
  rw [List.getLast?_cons_of_ne_nil hne, List.dropLast_cons_of_ne_nil hne]
  split <;> rfl

theorem cutLines_of_not_mem (h : '\n' ∉ line) (hne : line ≠ []) : cutLines line = [line] := by
  unfold cutLines
  rw [cutChars_of_not_mem h]
  simp [hne]

theorem cutLines_flatMap (h : ∀ line ∈ lines, '\n' ∉ line) : cutLines (lines.flatMap (· ++ ['\n'])) = lines := by
  induction lines with
  | nil => rfl
  | cons line lines ih =>
    have hrest := ih fun l hl => h l (List.mem_cons_of_mem _ hl)
    rw [List.flatMap_cons, List.append_assoc, List.singleton_append, cutLines_append (h line List.mem_cons_self), hrest]

theorem CutAtBreaks.linesOf_eq (h : CutAtBreaks cs lines) : linesOf cs = lines := by
  unfold linesOf
  induction h with
  | nil => rfl
  | @last line hline hne =>
    have hsame : unifyNewlines line = line := by
      have := unifyNewlines_append hline []
      simpa [unifyNewlines] using this
    rw [hsame, cutLines_of_not_mem hline.noFeed hne]
  | returnFeed hline _ ih =>
    rw [unifyNewlines_append hline, unifyNewlines, cutLines_append hline.noFeed, ih]
  | «return» hline hhead _ ih =>
    rw [unifyNewlines_append hline, unifyNewlines_return hhead, cutLines_append hline.noFeed, ih]
  | feed hline _ ih =>
    rw [unifyNewlines_append hline, unifyNewlines, cutLines_append hline.noFeed, ih]
    all_goals simp

theorem linesOf_eq_iff : linesOf cs = lines ↔ CutAtBreaks cs lines := by
  constructor
  · intro h
    have ⟨lines', hlines'⟩ := exists_cutAtBreaks cs
    rwa [← h, hlines'.linesOf_eq]
  · exact CutAtBreaks.linesOf_eq

theorem CutAtBreaks.unbroken (h : CutAtBreaks cs lines) : ∀ line ∈ lines, Unbroken line := by
  induction h with
  | nil => simp
  | last hline _ => simpa using hline
  | returnFeed hline _ ih => exact List.forall_mem_cons.mpr ⟨hline, ih⟩
  | «return» hline _ _ ih => exact List.forall_mem_cons.mpr ⟨hline, ih⟩
  | feed hline _ ih => exact List.forall_mem_cons.mpr ⟨hline, ih⟩

def OnOneLine (s : String) : Prop :=
  '\n' ∉ s.toList

instance : DecidablePred OnOneLine :=
  fun s => inferInstanceAs (Decidable ('\n' ∉ s.toList))

section

variable {s t sep : String} {ss : List String}

theorem onOneLine_append : OnOneLine (s ++ t) ↔ OnOneLine s ∧ OnOneLine t := by
  rw [OnOneLine, String.toList_append, List.mem_append, not_or]
  rfl

theorem onOneLine_intercalate (hsep : OnOneLine sep) : OnOneLine (sep.intercalate ss) ↔ ∀ s ∈ ss, OnOneLine s := by
  induction ss with
  | nil =>
    have hempty : OnOneLine "" := by decide
    exact iff_of_true hempty nofun
  | cons s ss ih =>
    cases ss with
    | nil => simp
    | cons t ts =>
      rw [String.intercalate_cons_cons, onOneLine_append, onOneLine_append, ih, List.forall_mem_cons (l := t :: ts)]
      exact and_congr_left fun _ => and_iff_left hsep

end

end JavaStubs.Text
