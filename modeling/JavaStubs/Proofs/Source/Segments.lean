import JavaStubs.Proofs.Source.Picks

/-! What a pattern picks, told by parts and segments. The atoms of a pattern are matched against one run of
characters; the parts cover whole segments one after the other, and nothing is lost between the two. -/
namespace JavaStubs.Pattern

open Text

/-- A part fits a segment: `*` takes any run of characters, `?` takes one, and every other character takes itself. -/
inductive Fits : List Char → List Char → Prop
  | nil : Fits [] []
  | run {part segment : List Char} (taken : List Char) (h : Fits part segment) : Fits ('*' :: part) (taken ++ segment)
  | one {part segment : List Char} (c : Char) (h : Fits part segment) : Fits ('?' :: part) (c :: segment)
  | char {part segment : List Char} {c : Char} (hrun : c ≠ '*') (hone : c ≠ '?') (h : Fits part segment) :
    Fits (c :: part) (c :: segment)

/-- Parts cover segments: `**` takes any number of segments, at least one if it is last, and every other part takes one
segment that it fits. -/
inductive Covers : List (List Char) → List (List Char) → Prop
  | nil : Covers [] []
  | dirs {parts segments : List (List Char)} (taken : List (List Char)) (hmore : parts ≠ [])
    (h : Covers parts segments) : Covers (doubleStar :: parts) (taken ++ segments)
  | rest {segments : List (List Char)} (hn : segments ≠ []) : Covers [doubleStar] segments
  | one {part segment : List Char} {parts segments : List (List Char)} (hpart : part ≠ doubleStar)
    (hfits : Fits part segment) (h : Covers parts segments) : Covers (part :: parts) (segment :: segments)

variable {as : List Atom} {path part : List Char} {parts segments : List (List Char)}

theorem Covers.parts_eq_nil (h : Covers parts segments) (hn : segments = []) : parts = [] := by
  induction h with
  | nil => rfl
  | dirs taken hmore _ ih => exact absurd (ih (List.append_eq_nil_iff.1 hn).2) hmore
  | rest hsegments => exact absurd hn hsegments
  | one => cases hn

/-! ### Atoms -/

theorem accepts_nil_iff : accepts [] path = true ↔ path = [] := by
  cases path <;> simp [accepts]

theorem accepts_char_iff {c : Char} :
    accepts (.char c :: as) path = true ↔ ∃ rest, path = c :: rest ∧ accepts as rest = true := by
  cases path with
  | nil => rw [accepts]; simp
  | cons d ds =>
    rw [accepts, Bool.and_eq_true, beq_iff_eq]
    simp only [List.cons.injEq]
    exact ⟨fun h => ⟨ds, ⟨h.1.symm, rfl⟩, h.2⟩, by rintro ⟨_, ⟨rfl, rfl⟩, h⟩; exact ⟨rfl, h⟩⟩

theorem accepts_one_iff :
    accepts (.one :: as) path = true ↔ ∃ c rest, path = c :: rest ∧ c ≠ '/' ∧ accepts as rest = true := by
  cases path with
  | nil => rw [accepts]; simp
  | cons d ds =>
    rw [accepts, Bool.and_eq_true, bne_iff_ne]
    simp only [List.cons.injEq]
    exact ⟨fun h => ⟨d, ds, ⟨rfl, rfl⟩, h⟩, by rintro ⟨_, _, ⟨rfl, rfl⟩, h⟩; exact h⟩

theorem accepts_run_iff :
    accepts (.run :: as) path = true ↔ ∃ taken rest, path = taken ++ rest ∧ '/' ∉ taken ∧ accepts as rest = true := by
  constructor
  · intro h
    induction path with
    | nil => exact ⟨[], [], rfl, List.not_mem_nil, by rwa [accepts] at h⟩
    | cons d ds ih =>
      rw [accepts, Bool.or_eq_true, Bool.and_eq_true, bne_iff_ne] at h
      rcases h with h | ⟨hd, h⟩
      · exact ⟨[], d :: ds, rfl, List.not_mem_nil, h⟩
      · obtain ⟨taken, rest, rfl, hnot, hrest⟩ := ih h
        exact ⟨d :: taken, rest, rfl, by simp [hnot, Ne.symm hd], hrest⟩
  · rintro ⟨taken, rest, rfl, hnot, hrest⟩
    exact accepts_run_append hrest hnot

theorem accepts_all (h : '\n' ∉ path) : accepts [.all] path = true := by
  induction path with
  | nil => rw [accepts, accepts]
  | cons d ds ih =>
    obtain ⟨hd, hds⟩ := List.ne_and_not_mem_of_not_mem_cons h
    rw [accepts, ih hds]
    simp [Ne.symm hd]

theorem segmentAtoms_char {c : Char} (hrun : c ≠ '*') (hone : c ≠ '?') :
    segmentAtoms (c :: part) = .char c :: segmentAtoms part := by
  rw [segmentAtoms, List.map_cons, if_neg hrun, if_neg hone]
  rfl

theorem accepts_of_fits {taken rest : List Char} (h : Fits part taken) (hnot : '/' ∉ taken)
    (hrest : accepts as rest = true) : accepts (segmentAtoms part ++ as) (taken ++ rest) = true := by
  induction h with
  | nil => exact hrest
  | run front _ ih =>
    rw [List.mem_append, not_or] at hnot
    exact accepts_run_iff.2 ⟨front, _, List.append_assoc .., hnot.1, ih hnot.2⟩
  | one c _ ih =>
    obtain ⟨hc, hnot⟩ := List.ne_and_not_mem_of_not_mem_cons hnot
    exact accepts_one_iff.2 ⟨c, _, rfl, Ne.symm hc, ih hnot⟩
  | char hrun hone _ ih =>
    rw [segmentAtoms_char hrun hone]
    exact accepts_char_iff.2 ⟨_, rfl, ih (List.ne_and_not_mem_of_not_mem_cons hnot).2⟩

theorem fits_of_accepts (h : accepts (segmentAtoms part ++ as) path = true) (hslash : '/' ∉ part) :
    ∃ taken rest, path = taken ++ rest ∧ '/' ∉ taken ∧ Fits part taken ∧ accepts as rest = true := by
  induction part generalizing path with
  | nil => exact ⟨[], path, rfl, List.not_mem_nil, .nil, h⟩
  | cons c part ih =>
    obtain ⟨hc, hpart⟩ := List.ne_and_not_mem_of_not_mem_cons hslash
    by_cases hrun : c = '*'
    · subst hrun
      obtain ⟨front, path, rfl, hfront, htail⟩ := accepts_run_iff.1 h
      obtain ⟨taken, rest, rfl, hnot, hfits, hrest⟩ := ih htail hpart
      exact ⟨front ++ taken, rest, (List.append_assoc ..).symm, by simp [hfront, hnot], .run front hfits, hrest⟩
    by_cases hone : c = '?'
    · subst hone
      obtain ⟨d, path, rfl, hd, htail⟩ := accepts_one_iff.1 h
      obtain ⟨taken, rest, rfl, hnot, hfits, hrest⟩ := ih htail hpart
      exact ⟨d :: taken, rest, rfl, by simp [hnot, Ne.symm hd], .one d hfits, hrest⟩
    · rw [segmentAtoms_char hrun hone, List.cons_append] at h
      obtain ⟨path, rfl, htail⟩ := accepts_char_iff.1 h
      obtain ⟨taken, rest, rfl, hnot, hfits, hrest⟩ := ih htail hpart
      exact ⟨c :: taken, rest, rfl, by simp [hnot, hc], .char hrun hone hfits, hrest⟩

/-! ### Parts -/

def Segmented (path : List Char) : Prop :=
  [] ∉ cutChars '/' path

theorem Segmented.ne_nil (h : Segmented path) : path ≠ [] := by
  rintro rfl
  exact h List.mem_cons_self

theorem Segmented.rest {front rest : List Char} (h : Segmented (front ++ '/' :: rest)) : Segmented rest := by
  rw [Segmented, cutChars_append_sep, List.mem_append, not_or] at h
  exact h.2

theorem Segmented.front_ne_nil {front rest : List Char} (h : Segmented (front ++ '/' :: rest)) : front ≠ [] := by
  rintro rfl
  rw [Segmented, cutChars_append_sep, List.mem_append, not_or] at h
  exact h.1 List.mem_cons_self

theorem partsAtoms_cons (h : parts ≠ []) : partsAtoms (part :: parts) =
    (if part = doubleStar then [.dirs] else segmentAtoms part ++ [.char '/']) ++ partsAtoms parts := by
  cases parts with
  | nil => contradiction
  | cons q qs => rfl

theorem partsAtoms_dirs (h : parts ≠ []) : partsAtoms (doubleStar :: parts) = .dirs :: partsAtoms parts := by
  rw [partsAtoms_cons h, if_pos rfl]
  rfl

theorem partsAtoms_part (hpart : part ≠ doubleStar) (h : parts ≠ []) :
    partsAtoms (part :: parts) = segmentAtoms part ++ .char '/' :: partsAtoms parts := by
  rw [partsAtoms_cons h, if_neg hpart, List.append_assoc]
  rfl

theorem partsAtoms_last (hpart : part ≠ doubleStar) : partsAtoms [part] = segmentAtoms part ++ [] := by
  rw [partsAtoms, if_neg hpart, List.append_nil]

theorem covers_of_accepts (h : accepts (partsAtoms parts) path = true) (hparts : ∀ p ∈ parts, '/' ∉ p)
    (hpath : Segmented path) : Covers parts (cutChars '/' path) := by
  induction parts generalizing path with
  | nil => exact absurd (accepts_nil_iff.1 h) hpath.ne_nil
  | cons part parts ih =>
    obtain ⟨hslash, hrest⟩ := List.forall_mem_cons.1 hparts
    by_cases hmore : parts = []
    · subst hmore
      by_cases hpart : part = doubleStar
      · exact hpart ▸ .rest (cutChars_ne_nil '/' path)
      · rw [partsAtoms_last hpart] at h
        obtain ⟨taken, rest, rfl, hnot, hfits, hend⟩ := fits_of_accepts h hslash
        rw [accepts_nil_iff.1 hend, List.append_nil, cutChars_of_not_mem hnot]
        exact .one hpart hfits .nil
    · by_cases hpart : part = doubleStar
      · subst hpart
        rw [partsAtoms_dirs hmore] at h
        obtain ⟨rest, rfl | ⟨dirs, rfl⟩, htail⟩ := accepts_dirs h
        · exact .dirs [] hmore (ih htail hrest hpath)
        · rw [cutChars_append_sep]
          exact .dirs _ hmore (ih htail hrest hpath.rest)
      · rw [partsAtoms_part hpart hmore] at h
        obtain ⟨taken, rest, rfl, hnot, hfits, hbehind⟩ := fits_of_accepts h hslash
        obtain ⟨rest, rfl, htail⟩ := accepts_char_iff.1 hbehind
        rw [cutChars_append hnot]
        exact .one hpart hfits (ih htail hrest hpath.rest)

theorem accepts_of_covers (h : Covers parts segments) (hcut : cutChars '/' path = segments) (hpath : Segmented path)
    (hline : '\n' ∉ path) : accepts (partsAtoms parts) path = true := by
  induction h generalizing path with
  | nil => exact absurd hcut (cutChars_ne_nil '/' path)
  | @dirs parts segments taken hmore hcovers ih =>
    rw [partsAtoms_dirs hmore]
    induction taken generalizing path with
    | nil => exact accepts_dirs_iff.2 (.inl (ih hcut hpath hline))
    | cons dir taken ihtaken =>
      obtain ⟨hnot, ⟨hnil, -⟩ | ⟨rest, rfl, hrest⟩⟩ := of_cutChars_cons hcut
      · exact absurd (hcovers.parts_eq_nil (List.append_eq_nil_iff.1 hnil).2) hmore
      · rw [List.mem_append, List.mem_cons, not_or, not_or] at hline
        exact accepts_dirs_iff.2 (.inr ⟨dir, rest, rfl, hpath.front_ne_nil, hnot, ihtaken hrest hpath.rest hline.2.2⟩)
  | rest => exact accepts_all hline
  | @one part segment parts segments hpart hfits hcovers ih =>
    obtain ⟨hnot, ⟨hnil, rfl⟩ | ⟨rest, rfl, hrest⟩⟩ := of_cutChars_cons hcut
    · rw [hcovers.parts_eq_nil hnil, partsAtoms_last hpart, ← List.append_nil path]
      exact accepts_of_fits hfits hnot (accepts_nil_iff.2 rfl)
    · have hmore : parts ≠ [] := by
        rintro rfl
        cases hcovers
        exact cutChars_ne_nil '/' rest hrest
      rw [List.mem_append, List.mem_cons, not_or, not_or] at hline
      rw [partsAtoms_part hpart hmore]
      exact accepts_of_fits hfits hnot (accepts_char_iff.2 ⟨rest, rfl, ih hrest hpath.rest hline.2.2⟩)

theorem not_mem_of_mem_parts {pattern : List Char} (h : part ∈ Pattern.parts pattern) : '/' ∉ part :=
  not_mem_of_mem_cutChars (List.mem_filter.1 h).1

/-- A pattern picks a path exactly if its parts cover the segments of the path. -/
theorem picks_iff_covers {pattern : String} {segments : List String} (hn : segments ≠ [])
    (hempty : "" ∉ segments) (hslash : ∀ s ∈ segments, '/' ∉ s.toList) (hline : ∀ s ∈ segments, '\n' ∉ s.toList) :
    picks pattern (join "/" segments) = true ↔ Covers (Pattern.parts pattern.toList) (segments.map String.toList) := by
  have hcut := cutChars_join hn hslash
  have hpath : Segmented (join "/" segments).toList := by
    rw [Segmented, hcut, List.mem_map]
    rintro ⟨s, hs, hnil⟩
    rw [String.toList_eq_nil_iff] at hnil
    exact hempty (hnil ▸ hs)
  constructor
  · intro h
    rw [← hcut]
    exact covers_of_accepts h (fun _ => not_mem_of_mem_parts) hpath
  · intro h
    refine accepts_of_covers h hcut hpath fun hmem => ?_
    rw [← joinChars_cutChars '/' (join "/" segments).toList, hcut] at hmem
    rcases mem_joinChars hmem with hchar | ⟨p, hp, hchar⟩
    · cases hchar
    · obtain ⟨s, hs, rfl⟩ := List.mem_map.1 hp
      exact hline s hs hchar

theorem fits_self {cs : List Char} (hrun : '*' ∉ cs) (hone : '?' ∉ cs) : Fits cs cs := by
  induction cs with
  | nil => exact .nil
  | cons c cs ih =>
    rw [List.mem_cons, not_or] at hrun hone
    exact .char (Ne.symm hrun.1) (Ne.symm hone.1) (ih hrun.2 hone.2)

theorem picks_iff_covers_nestedScript :
    Covers ["src".toList, doubleStar, "*.gr?ovy".toList] ["src".toList, "a".toList, "b".toList, "c.groovy".toList] ∧
      picks "\\src/**/*.gr?ovy" (join "/" ["src", "a", "b", "c.groovy"]) = true := by
  have hlast : Fits "*.gr?ovy".toList "c.groovy".toList := by
    refine .run ['c'] (.char (by decide) (by decide) ?_)
    exact .char (by decide) (by decide) (.char (by decide) (by decide) (.one 'o' (fits_self (by decide) (by decide))))
  have hcovers : Covers ["src".toList, doubleStar, "*.gr?ovy".toList]
      ["src".toList, "a".toList, "b".toList, "c.groovy".toList] :=
    .one (by decide) (fits_self (by decide) (by decide))
      (.dirs ["a".toList, "b".toList] (by decide) (.one (by decide) hlast .nil))
  exact ⟨hcovers, (picks_iff_covers (by decide) (by decide) (by decide) (by decide)).2 hcovers⟩

end JavaStubs.Pattern
