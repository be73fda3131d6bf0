import JavaStubs.Proofs.Compiler.Template
import JavaStubs.Proofs.Text.Occurrences

/-! Replacing placeholders one kind after the other, and replacing them all at once. Both come to the same as long as
no placeholder arises from what was put in for another. -/
namespace JavaStubs

open Text

/-- A piece of a word as it is configured. -/
inductive Piece where
  | char (c : Char)
  | slot (p : Placeholder)
  deriving Repr, DecidableEq

def Piece.shown (f : Placeholder → List Char) : Piece → List Char
  | char c => [c]
  | slot p => f p

namespace Placeholder

def at? (cs : List Char) : Option Placeholder :=
  all.find? fun p => p.text.toList.isPrefixOf cs

/-- A text cut into its placeholders and the characters between them. -/
def pieces (cs : List Char) : List Piece :=
  match cs with
  | [] => []
  | c :: rest =>
    match at? (c :: rest) with
    | some p => .slot p :: pieces (rest.drop (p.text.toList.length - 1))
    | none => .char c :: pieces rest
  termination_by cs.length
  decreasing_by
    all_goals
      simp only [List.length_drop, List.length_cons]
      omega

def shown (f : Placeholder → List Char) (pieces : List Piece) : List Char :=
  pieces.flatMap (Piece.shown f)

end Placeholder

namespace Request

def literal (r : Request) (word : String) : String :=
  String.ofList (Placeholder.shown (fun p => (p.value r).toList) (Placeholder.pieces word.toList))

def fillSome (r : Request) (ps : List Placeholder) (word : String) : String :=
  ps.foldl (fun w p => Text.replace w p.text (p.value r)) word

/-- When its turn comes, each placeholder stands in the word as often as in the word that is configured. -/
def Undisturbed (r : Request) (word : String) : Prop :=
  ∀ before p, before ++ [p] <+: Placeholder.usedIn word →
    occurrences p.text.toList (r.fillSome before word).toList = occurrences p.text.toList word.toList

end Request

namespace Placeholder

variable {p q : Placeholder} {cs rest : List Char} {f g : Placeholder → List Char} {ps : List Piece}

theorem mem_all (p : Placeholder) : p ∈ all := by
  cases p <;> decide

theorem toList_text (p : Placeholder) : ∃ tail, p.text.toList = '\x7b' :: tail ∧ '\x7b' ∉ tail := by
  cases p with
  | target => exact ⟨_, rfl, by decide⟩
  | classPath => exact ⟨_, rfl, by decide⟩
  | encoding => exact ⟨_, rfl, by decide⟩

theorem text_ne_nil (p : Placeholder) : p.text.toList ≠ [] := by
  obtain ⟨tail, htext, -⟩ := p.toList_text
  rw [htext]
  exact List.cons_ne_nil _ _

/-- No placeholder is the beginning of another: they differ in the character behind the brace. -/
theorem eq_of_begins (h : q.text.toList <+: p.text.toList ++ rest) : q = p := by
  have hlong : ∀ p : Placeholder, 1 < p.text.toList.length := fun p => by cases p <;> decide
  have hdiffer : ∀ p q : Placeholder, q.text.toList[1]? = p.text.toList[1]? → q = p := by
    intro p q
    cases p <;> cases q <;> decide
  obtain ⟨behind, hbehind⟩ := h
  have hsecond := congrArg (fun cs => cs[1]?) hbehind
  rw [List.getElem?_append_left (hlong q), List.getElem?_append_left (hlong p)] at hsecond
  exact hdiffer p q hsecond

theorem at?_eq_some_iff : at? cs = some p ↔ p.text.toList <+: cs := by
  constructor
  · intro h
    have hprefix := List.find?_some (p := fun p : Placeholder => p.text.toList.isPrefixOf cs) h
    exact List.isPrefixOf_iff_prefix.1 hprefix
  · intro h
    cases hfirst : at? cs with
    | none => exact absurd (List.isPrefixOf_iff_prefix.2 h) (List.find?_eq_none.1 hfirst p p.mem_all)
    | some q =>
      have hfound := List.find?_some (p := fun p : Placeholder => p.text.toList.isPrefixOf cs) hfirst
      have hq := List.isPrefixOf_iff_prefix.1 hfound
      obtain ⟨rest, rfl⟩ := h
      rw [eq_of_begins hq]

theorem not_prefix_of_at? (h : at? cs = none) (p : Placeholder) : ¬p.text.toList <+: cs := by
  intro hprefix
  cases h.symm.trans (at?_eq_some_iff.2 hprefix)

theorem occurrences_text_append (p q : Placeholder) (rest : List Char) :
    occurrences q.text.toList (p.text.toList ++ rest) = occurrences q.text.toList rest + if p = q then 1 else 0 := by
  obtain ⟨tail, htext, hnot⟩ := q.toList_text
  by_cases hsame : p = q
  · rw [if_pos hsame, hsame, htext, occurrences_self_append hnot]
  · obtain ⟨tail', htext', hnot'⟩ := p.toList_text
    have hprefix : ¬q.text.toList <+: p.text.toList ++ rest := fun h => hsame (eq_of_begins h).symm
    rw [htext', List.cons_append] at hprefix
    rw [if_neg hsame, htext', List.cons_append, occurrences_cons_of_not_begins hprefix, htext,
      occurrences_append_of_not_mem hnot', Nat.add_zero]

theorem pieces_text_append (p : Placeholder) (rest : List Char) :
    pieces (p.text.toList ++ rest) = .slot p :: pieces rest := by
  obtain ⟨tail, htext, -⟩ := p.toList_text
  have hat : at? (p.text.toList ++ rest) = some p := at?_eq_some_iff.2 (List.prefix_append _ _)
  rw [htext, List.cons_append] at hat ⊢
  rw [pieces, hat]
  simp [htext]

theorem pieces_cons {c : Char} (h : at? (c :: rest) = none) : pieces (c :: rest) = .char c :: pieces rest := by
  rw [pieces, h]

theorem pieces_induction {P : List Char → Prop} (nil : P [])
    (slot : ∀ (p : Placeholder) (rest : List Char), P rest → P (p.text.toList ++ rest))
    (char : ∀ c rest, at? (c :: rest) = none → P rest → P (c :: rest)) (cs : List Char) : P cs := by
  induction cs using pieces.induct with
  | case1 => exact nil
  | case2 c rest p hat ih =>
    obtain ⟨behind, hbehind⟩ := at?_eq_some_iff.1 hat
    obtain ⟨tail, htext, -⟩ := p.toList_text
    have hrest : rest.drop (p.text.toList.length - 1) = behind := by
      rw [htext, List.cons_append] at hbehind
      rw [← (List.cons.inj hbehind).2, htext]
      simp
    rw [← hbehind]
    exact slot p behind (hrest ▸ ih)
  | case3 c rest hat ih => exact char c rest hat ih

theorem shown_cons (x : Piece) : shown f (x :: ps) = x.shown f ++ shown f ps :=
  List.flatMap_cons

theorem shown_pieces (cs : List Char) : shown (fun p => p.text.toList) (pieces cs) = cs := by
  induction cs using pieces_induction with
  | nil => rw [pieces]; rfl
  | slot p rest ih =>
    rw [pieces_text_append, shown_cons, ih]
    rfl
  | char c rest hat ih =>
    rw [pieces_cons hat, shown_cons, ih]
    rfl

theorem occurrences_eq_count (q : Placeholder) (cs : List Char) :
    occurrences q.text.toList cs = (pieces cs).count (.slot q) := by
  induction cs using pieces_induction with
  | nil => rw [pieces]; rfl
  | slot p rest ih =>
    rw [pieces_text_append, occurrences_text_append, ih, List.count_cons]
    simp
  | char c rest hat ih =>
    rw [pieces_cons hat, occurrences_cons_of_not_begins (not_prefix_of_at? hat q), ih, List.count_cons]
    simp

theorem shown_slot_append (hq : f q = q.text.toList) : occurrences q.text.toList (shown f (.slot q :: ps)) =
    occurrences q.text.toList (shown f ps) + 1 := by
  have hshown : shown f (.slot q :: ps) = q.text.toList ++ shown f ps := by
    rw [shown_cons, Piece.shown, hq]
  rw [hshown, occurrences_text_append, if_pos rfl]

/-- Whatever stands in the places of other placeholders, one that still has its places stands there at least. -/
theorem count_le_occurrences (hq : f q = q.text.toList) :
    ps.count (.slot q) ≤ occurrences q.text.toList (shown f ps) := by
  induction ps with
  | nil => exact Nat.zero_le _
  | cons x ps ih =>
    by_cases hx : x = .slot q
    · rw [hx, shown_slot_append hq, List.count_cons_self]
      omega
    · rw [List.count_cons_of_ne hx, shown_cons]
      exact Nat.le_trans ih occurrences_le_append

/-- If a placeholder stands nowhere else, replacing it puts its value in its places and changes nothing else. -/
theorem replaceChars_shown (hq : f q = q.text.toList) (hg : ∀ p, p ≠ q → g p = f p)
    (h : occurrences q.text.toList (shown f ps) = ps.count (.slot q)) :
    replaceChars q.text.toList (g q) (shown f ps) = shown g ps := by
  induction ps with
  | nil => simp [shown, replaceChars]
  | cons x ps ih =>
    have hle : ps.count (.slot q) ≤ occurrences q.text.toList (shown f ps) := count_le_occurrences hq
    by_cases hx : x = .slot q
    · subst hx
      rw [shown_slot_append hq, List.count_cons_self, Nat.add_right_cancel_iff] at h
      rw [shown_cons, shown_cons, Piece.shown, hq, replaceChars_self_append q.text_ne_nil, ih h]
      rfl
    · have hmore : occurrences q.text.toList (shown f ps) ≤ occurrences q.text.toList (x.shown f ++ shown f ps) :=
        occurrences_le_append
      rw [shown_cons, List.count_cons_of_ne hx] at h
      have hshown : x.shown g = x.shown f := by
        cases x with
        | char c => rfl
        | slot p => exact hg p fun hsame => hx (hsame ▸ rfl)
      rw [shown_cons, shown_cons, hshown, replaceChars_append (by omega), ih (by omega)]

/-- A value that begins as an absolute path does and has no brace with which a placeholder could begin. -/
def Rooted (value : List Char) : Prop :=
  value.head? = some '/' ∧ '\x7b' ∉ value

instance (value : List Char) : Decidable (Rooted value) :=
  inferInstanceAs (Decidable (_ ∧ _))

/-- A text without slashes that begins among rooted values ends before the first of them. -/
theorem prefix_of_shown (hf : ∀ p, f p = p.text.toList ∨ Rooted (f p)) {part : List Char} (hpart : '/' ∉ part)
    (h : part <+: shown f (pieces cs)) : part <+: cs := by
  induction cs using pieces_induction generalizing part with
  | nil =>
    rw [pieces] at h
    exact h
  | slot p rest ih =>
    rw [pieces_text_append, shown_cons, Piece.shown] at h
    rcases hf p with hown | ⟨hslash, -⟩
    · rw [hown] at h
      rcases List.prefix_or_prefix_of_prefix h (List.prefix_append _ _) with hwithin | ⟨behind, rfl⟩
      · exact hwithin.trans (List.prefix_append _ _)
      · rw [List.prefix_append_right_inj] at h ⊢
        exact ih (fun hmem => hpart (List.mem_append_right _ hmem)) h
    · cases part with
      | nil => exact List.nil_prefix
      | cons c part =>
        obtain ⟨value, hvalue⟩ := List.head?_eq_some_iff.1 hslash
        rw [hvalue, List.cons_append, List.cons_prefix_cons] at h
        exact absurd (h.1 ▸ List.mem_cons_self) hpart
  | char c rest hat ih =>
    rw [pieces_cons hat, shown_cons] at h
    cases part with
    | nil => exact List.nil_prefix
    | cons d part =>
      rw [Piece.shown, List.singleton_append, List.cons_prefix_cons] at h
      rw [List.cons_prefix_cons]
      exact ⟨h.1, ih (List.ne_and_not_mem_of_not_mem_cons hpart).2 h.2⟩

/-- No placeholder arises from rooted values. -/
theorem occurrences_shown (hf : ∀ p, f p = p.text.toList ∨ Rooted (f p)) (hq : f q = q.text.toList) (cs : List Char) :
    occurrences q.text.toList (shown f (pieces cs)) = occurrences q.text.toList cs := by
  induction cs using pieces_induction with
  | nil => rw [pieces]; rfl
  | slot p rest ih =>
    rw [pieces_text_append, shown_cons, Piece.shown, occurrences_text_append]
    by_cases hown : f p = p.text.toList
    · rw [hown, occurrences_text_append, ih]
    · have hother : p ≠ q := by
        rintro rfl
        exact hown hq
      obtain ⟨tail, htext, -⟩ := q.toList_text
      have hbrace := ((hf p).resolve_left hown).2
      rw [htext] at ih ⊢
      rw [occurrences_append_of_not_mem hbrace, ih, if_neg hother, Nat.add_zero]
  | char c rest hat ih =>
    have hnone : ¬q.text.toList <+: c :: shown f (pieces rest) := by
      intro hprefix
      have hslash : '/' ∉ q.text.toList := by cases q <;> decide
      have hshown : q.text.toList <+: shown f (pieces (c :: rest)) := by
        rw [pieces_cons hat, shown_cons]
        exact hprefix
      exact not_prefix_of_at? hat q (prefix_of_shown hf hslash hshown)
    rw [pieces_cons hat, shown_cons, Piece.shown, List.singleton_append, occurrences_cons_of_not_begins hnone, ih,
      occurrences_cons_of_not_begins (not_prefix_of_at? hat q)]

end Placeholder

namespace Request

open Placeholder

variable {r : Request} {word : String} {before : List Placeholder} {p : Placeholder}

/-- What stands in the place of a placeholder once some have been replaced. -/
def filled (r : Request) (done : List Placeholder) (p : Placeholder) : List Char :=
  if p ∈ done then (p.value r).toList else p.text.toList

theorem nodup_usedIn (word : String) : (usedIn word).Nodup :=
  List.Nodup.filter _ (by decide)

theorem filled_of_next (h : before ++ [p] <+: usedIn word) : r.filled before p = p.text.toList := by
  have hnodup := (nodup_usedIn word).sublist h.sublist
  rw [List.nodup_append] at hnodup
  exact if_neg fun hmem => hnodup.2.2 p hmem p List.mem_cons_self rfl

/-- One more placeholder is replaced: it stands only in its own places. -/
theorem toList_fillSome_append (h : before ++ [p] <+: usedIn word)
    (hsofar : (r.fillSome before word).toList = shown (r.filled before) (pieces word.toList))
    (hcount : occurrences p.text.toList (r.fillSome before word).toList = occurrences p.text.toList word.toList) :
    (r.fillSome (before ++ [p]) word).toList = shown (r.filled (before ++ [p])) (pieces word.toList) := by
  have hothers : ∀ q, q ≠ p → r.filled (before ++ [p]) q = r.filled before q := by
    intro q hq
    simp [filled, hq]
  have hvalue : r.filled (before ++ [p]) p = (p.value r).toList := if_pos (by simp)
  rw [hsofar, occurrences_eq_count p word.toList] at hcount
  have hreplaced := replaceChars_shown (filled_of_next h) hothers hcount
  have hstep : r.fillSome (before ++ [p]) word = Text.replace (r.fillSome before word) p.text (p.value r) := by
    simp [fillSome]
  rw [hvalue, ← hsofar] at hreplaced
  rw [hstep, Text.replace, String.toList_ofList, hreplaced]

/-- As long as nothing arises from what is put in, some placeholders are replaced as if it were at once. That nothing
arises has to be known only of texts in which the placeholders so far are replaced so. -/
theorem toList_fillSome (h : ∀ before p, before ++ [p] <+: usedIn word →
      (r.fillSome before word).toList = shown (r.filled before) (pieces word.toList) →
      occurrences p.text.toList (r.fillSome before word).toList = occurrences p.text.toList word.toList)
    (hbefore : before <+: usedIn word) :
    (r.fillSome before word).toList = shown (r.filled before) (pieces word.toList) := by
  induction before using List.reverseRecOn with
  | nil => exact (shown_pieces _).symm
  | append_singleton before p ih =>
    have hsofar := ih ((List.prefix_append _ _).trans hbefore)
    exact toList_fillSome_append hbefore hsofar (h before p hbefore hsofar)

theorem mem_usedIn_of_slot {p : Placeholder} (h : .slot p ∈ pieces word.toList) : p ∈ usedIn word := by
  have hpos : 0 < occurrences p.text.toList word.toList := by
    rw [occurrences_eq_count]
    exact List.count_pos_iff.2 h
  exact List.mem_filter.2 ⟨p.mem_all, (occurrences_pos_iff p.text_ne_nil).1 hpos⟩

theorem fill_eq_literal (h : r.Undisturbed word) : r.fill word = r.literal word := by
  have hall := toList_fillSome (fun before p hprefix _ => h before p hprefix) (List.prefix_refl _)
  have hvalues : shown (r.filled (usedIn word)) (pieces word.toList) =
      shown (fun p => (p.value r).toList) (pieces word.toList) := by
    refine List.flatMap_congr fun x hx => ?_
    cases x with
    | char c => rfl
    | slot p => exact if_pos (mem_usedIn_of_slot hx)
  rw [← String.toList_inj, literal, String.toList_ofList, ← hvalues, ← hall]
  rfl

/-- Where only one kind of placeholder is used, there is nothing that could disturb it. -/
theorem undisturbed_of_length (h : (usedIn word).length ≤ 1) : r.Undisturbed word := by
  intro before p hprefix
  have hlength := hprefix.length_le
  rw [List.length_append, List.length_singleton] at hlength
  have hnil : before = [] := List.eq_nil_of_length_eq_zero (by omega)
  rw [hnil]
  rfl

theorem ne_encoding_of_mem (h : before ++ [p] <+: usedIn word) : ∀ q ∈ before, q ≠ .encoding := by
  have horder : Placeholder.all.Pairwise fun q _ => q ≠ .encoding := by decide
  have hbefore := horder.sublist (h.sublist.trans List.filter_sublist)
  exact fun q hq => (List.pairwise_append.1 hbefore).2.2 q hq p List.mem_cons_self

/-- Absolute paths without braces make no placeholder, whatever the encoding is. -/
theorem undisturbed_of_rooted (h : ∀ p ∈ usedIn word, p ≠ .encoding → Rooted (p.value r).toList) :
    r.Undisturbed word := by
  have hcount : ∀ before p, before ++ [p] <+: usedIn word →
      (r.fillSome before word).toList = shown (r.filled before) (pieces word.toList) →
      occurrences p.text.toList (r.fillSome before word).toList = occurrences p.text.toList word.toList := by
    intro before p hprefix hsofar
    rw [hsofar]
    refine occurrences_shown (fun q => ?_) (filled_of_next hprefix) _
    by_cases hq : q ∈ before
    · have hused := hprefix.subset (List.mem_append_left _ hq)
      right
      rw [filled, if_pos hq]
      exact h q hused (ne_encoding_of_mem hprefix q hq)
    · exact .inl (if_neg hq)
  intro before p hprefix
  exact hcount before p hprefix (toList_fillSome hcount ((List.prefix_append _ _).trans hprefix))

/-- Each word of a command line is the configured one with its placeholders replaced all at once, unless one arises
from what was put in for another. None does where there is one kind of placeholder only, or where what is put in for
others than the encoding are absolute paths without braces. -/
theorem commandLine_literal (r : Request) (command : List String) :
    r.commandLine command = r.program command ++ r.files.map FilePath.text ∧
      ∀ word, (r.Undisturbed word → r.fill word = r.literal word) ∧
        ((usedIn word).length ≤ 1 ∨ (∀ p ∈ usedIn word, p ≠ .encoding → Rooted (p.value r).toList) →
          r.Undisturbed word) := by
  refine ⟨r.commandLine_eq_program command, fun word => ⟨fill_eq_literal, ?_⟩⟩
  rintro (hone | hrooted)
  · exact undisturbed_of_length hone
  · exact undisturbed_of_rooted hrooted

def bracedRequest : Request where
  target := FilePath.ofText "/w/out"
  classPath := ["/lib/a.jar", "/lib/b.jar"]
  options := [(sourceEncodingKey, "\x7btarget\x7d\x7bclasspath\x7d")]
  files := [FilePath.ofText "/w/A.groovy"]

theorem literal_of_bracedRequest : (∀ p ∈ usedIn "\x7bencoding\x7d:\x7bclasspath\x7d", p ≠ .encoding →
      Rooted (p.value bracedRequest).toList) ∧
    bracedRequest.fill "\x7bencoding\x7d:\x7bclasspath\x7d" =
      bracedRequest.literal "\x7bencoding\x7d:\x7bclasspath\x7d" ∧
    bracedRequest.commandLine ["stubc", "\x7bencoding\x7d:\x7bclasspath\x7d"] =
      ["stubc", "\x7btarget\x7d\x7bclasspath\x7d:/lib/a.jar:/lib/b.jar", "/w/A.groovy"] := by
  have hrooted : ∀ p ∈ usedIn "\x7bencoding\x7d:\x7bclasspath\x7d", p ≠ .encoding →
      Rooted (p.value bracedRequest).toList := by decide +kernel
  obtain ⟨hline, hwords⟩ := bracedRequest.commandLine_literal ["stubc", "\x7bencoding\x7d:\x7bclasspath\x7d"]
  obtain ⟨hliteral, hundisturbed⟩ := hwords "\x7bencoding\x7d:\x7bclasspath\x7d"
  refine ⟨hrooted, hliteral (hundisturbed (.inr hrooted)), ?_⟩
  rw [hline]
  decide +kernel

def nestedRequest : Request :=
  { bracedRequest with classPath := ["/lib/\x7bencoding\x7d.jar"], options := [(sourceEncodingKey, "UTF-8")] }

/-- A placeholder in a directory of the class path is replaced if the word uses the encoding too. -/
theorem value_may_be_substituted :
    ¬∀ (r : Request) (word : String), r.lacks word = false → r.fill word = r.literal word := by
  intro h
  have hnested := h nestedRequest "\x7bclasspath\x7d:\x7bencoding\x7d" (by decide +kernel)
  revert hnested
  decide +kernel

end Request

end JavaStubs
