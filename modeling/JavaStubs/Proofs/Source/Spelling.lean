import JavaStubs.Source.Pattern
import Mathlib.Logic.Relation

/-! How a pattern may be spelled. What counts are the words between its slashes, and whether it says what is asked
below them: a slash at its end and no word at all both stand for `**`. -/
namespace JavaStubs.Pattern

open Text

def IsSlash (c : Char) : Prop :=
  c = '/' ∨ c = '\\'

/-- One change in the spelling of a pattern. -/
inductive Respells : List Char → List Char → Prop
  /-- A slash becomes one of either kind. -/
  | exchange {c c' : Char} (front back : List Char) (hc : IsSlash c) (hc' : IsSlash c') :
    Respells (front ++ c :: back) (front ++ c' :: back)
  /-- A slash comes in front. -/
  | lead {c : Char} (cs : List Char) (hc : IsSlash c) : Respells cs (c :: cs)
  /-- A slash is repeated. -/
  | again {c : Char} (front back : List Char) (hc : IsSlash c) : Respells (front ++ c :: back) (front ++ c :: c :: back)
  /-- What a final slash stands for is written out. -/
  | writeOut {c : Char} (front : List Char) (hc : IsSlash c) : Respells (front ++ [c]) (front ++ '/' :: doubleStar)

variable {c : Char} {cs front back : List Char}

theorem IsSlash.not_blank (h : IsSlash c) : isBlank c = false := by
  rcases h with rfl | rfl <;> decide

/-! ### Blanks at the ends -/

def StartsTidy (cs : List Char) : Prop :=
  ∀ c ∈ cs.head?, isBlank c = false

def EndsTidy (cs : List Char) : Prop :=
  ∀ c ∈ cs.getLast?, isBlank c = false

theorem endsTidy_doubleStar : EndsTidy doubleStar := by
  rintro c ⟨⟩
  decide

theorem dropWhile_isBlank_eq_self_iff : cs.dropWhile isBlank = cs ↔ StartsTidy cs := by
  cases cs with
  | nil => simp [StartsTidy]
  | cons c cs =>
    cases hc : isBlank c with
    | false => simp [StartsTidy, List.dropWhile, hc]
    | true =>
      have hshort : (cs.dropWhile isBlank).length ≤ cs.length := (List.dropWhile_sublist _).length_le
      have hne : cs.dropWhile isBlank ≠ c :: cs := by
        intro heq
        rw [heq, List.length_cons] at hshort
        omega
      simp [StartsTidy, List.dropWhile, hc, hne]

/-- A text without blanks at its ends is one that trimming leaves alone. -/
theorem trimChars_eq_self_iff : trimChars cs = cs ↔ StartsTidy cs ∧ EndsTidy cs := by
  have hends : EndsTidy cs ↔ trimEndChars cs = cs := by
    rw [trimEndChars, List.reverse_eq_iff, dropWhile_isBlank_eq_self_iff, StartsTidy, List.head?_reverse, EndsTidy]
  rw [hends, ← dropWhile_isBlank_eq_self_iff]
  constructor
  · intro h
    -- trimming never makes a text longer, so that neither end can have lost anything
    have hstart : trimStartChars cs = cs := by
      have hend : (trimChars cs).length ≤ (trimStartChars cs).length := by
        rw [trimChars, trimEndChars, List.length_reverse]
        simpa using (List.dropWhile_sublist isBlank (l := (trimStartChars cs).reverse)).length_le
      rw [h] at hend
      exact (List.dropWhile_sublist isBlank).eq_of_length_le hend
    rw [trimChars, hstart] at h
    exact ⟨hstart, h⟩
  · rintro ⟨hstart, hend⟩
    rw [trimChars, trimStartChars, hstart, hend]

theorem tidy_append_slash (front back : List Char) (hc : IsSlash c) :
    StartsTidy (front ++ c :: back) ∧ EndsTidy (front ++ c :: back) ↔ StartsTidy front ∧ EndsTidy back := by
  have hstart : StartsTidy (front ++ c :: back) ↔ StartsTidy front := by
    cases front with
    | nil => simp [StartsTidy, hc.not_blank]
    | cons d front => rfl
  have hend : EndsTidy (front ++ c :: back) ↔ EndsTidy back := by
    cases back with
    | nil => simp [EndsTidy, hc.not_blank]
    | cons d back => simp [EndsTidy, List.getLast?_append, List.getLast?_cons_cons]
  rw [hstart, hend]

theorem Respells.tidy {cs' : List Char} (h : Respells cs cs') (htidy : StartsTidy cs ∧ EndsTidy cs) :
    StartsTidy cs' ∧ EndsTidy cs' := by
  cases h with
  | exchange front back hc hc' => exact (tidy_append_slash front back hc').2 ((tidy_append_slash front back hc).1 htidy)
  | lead cs hc => exact (tidy_append_slash [] cs hc).2 ⟨nofun, htidy.2⟩
  | @again c front back hc =>
    obtain ⟨hfront, hback⟩ := (tidy_append_slash front back hc).1 htidy
    exact (tidy_append_slash front (c :: back) hc).2 ⟨hfront, ((tidy_append_slash [] back hc).2 ⟨nofun, hback⟩).2⟩
  | writeOut front hc =>
    have hfront := ((tidy_append_slash front [] hc).1 htidy).1
    exact (tidy_append_slash front doubleStar (.inl rfl)).2 ⟨hfront, endsTidy_doubleStar⟩

/-! ### Words between slashes -/

def slashed (cs : List Char) : List Char :=
  cs.map fun c => if c = '\\' then '/' else c

/-- The parts of a text with forward slashes that has nothing to be written out. -/
def wordsOf (cs : List Char) : List (List Char) :=
  (cutChars '/' cs).filter (!·.isEmpty)

/-- The text ends where one more word would begin. -/
def isOpen (cs : List Char) : Bool :=
  cs.getLast?.all (· == '/')

/-- The words of a text, and `**` below them if it is open. -/
def told (cs : List Char) : List (List Char) :=
  wordsOf cs ++ if isOpen cs then [doubleStar] else []

theorem slashed_append_slash (front back : List Char) (hc : IsSlash c) :
    slashed (front ++ c :: back) = slashed front ++ '/' :: slashed back := by
  rcases hc with rfl | rfl <;> simp [slashed]

theorem wordsOf_append_slash : wordsOf (front ++ '/' :: back) = wordsOf front ++ wordsOf back := by
  rw [wordsOf, cutChars_append_sep, List.filter_append]
  rfl

theorem isOpen_append_slash : isOpen (front ++ '/' :: back) = isOpen back := by
  cases back with
  | nil => simp [isOpen]
  | cons d back =>
    have hlast := List.getLast?_eq_some_getLast (List.cons_ne_nil d back)
    simp [isOpen, List.getLast?_append, List.getLast?_cons_cons, hlast]

/-- A slash parts what a text tells. What is in front of it is not open any more. -/
theorem told_append_slash (front back : List Char) : told (front ++ '/' :: back) = wordsOf front ++ told back := by
  rw [told, wordsOf_append_slash, isOpen_append_slash, List.append_assoc, told]

theorem told_slash : told ('/' :: cs) = told cs := by
  have hnone : wordsOf [] = [] := rfl
  have hfront := told_append_slash [] cs
  rwa [hnone, List.nil_append, List.nil_append] at hfront

theorem told_nil : told [] = [doubleStar] := rfl

theorem told_doubleStar : told doubleStar = [doubleStar] := rfl

theorem told_dropWhile : told (cs.dropWhile (· == '/')) = told cs := by
  induction cs with
  | nil => rfl
  | cons c cs ih =>
    by_cases hc : c = '/'
    · rw [hc, told_slash, ← ih]
      rfl
    · rw [List.dropWhile_cons_of_neg (by simpa using hc)]

/-- An open text tells what is left when its end is written out. -/
theorem told_writeOut (h : isOpen cs = true) : wordsOf (cs ++ doubleStar) = told cs := by
  rcases List.eq_nil_or_concat cs with rfl | ⟨front, last, rfl⟩
  · rfl
  · obtain rfl : last = '/' := by simpa [isOpen] using h
    rw [List.concat_eq_append, List.append_assoc, List.singleton_append, wordsOf_append_slash, told_append_slash, told_nil]
    rfl

/-- The parts of a pattern without blanks at its ends are what it tells with forward slashes. -/
theorem parts_eq_told (h : StartsTidy cs ∧ EndsTidy cs) : parts cs = told (slashed cs) := by
  have hopen : (((slashed cs).dropWhile (· == '/')).isEmpty ||
      ((slashed cs).dropWhile (· == '/')).getLast? == some '/') = isOpen ((slashed cs).dropWhile (· == '/')) := by
    rcases List.eq_nil_or_concat ((slashed cs).dropWhile (· == '/')) with hrest | ⟨front, last, hrest⟩
    · simp [hrest, isOpen]
    · simp [hrest, isOpen]
  rw [parts, normalize, trimChars_eq_self_iff.2 h, ← told_dropWhile]
  change wordsOf (if _ then _ else _) = _
  split
  · next hend => exact told_writeOut (hopen.symm.trans hend)
  · next hend =>
    rw [told, if_neg (hopen ▸ hend), List.append_nil]
    rfl

theorem Respells.parts_eq {cs' : List Char} (h : Respells cs cs') (htidy : StartsTidy cs ∧ EndsTidy cs) :
    parts cs' = parts cs := by
  rw [parts_eq_told htidy, parts_eq_told (h.tidy htidy)]
  cases h with
  | exchange front back hc hc' => rw [slashed_append_slash front back hc, slashed_append_slash front back hc']
  | lead cs hc =>
    have hlead := slashed_append_slash [] cs hc
    exact (congrArg told hlead).trans told_slash
  | again front back hc =>
    have hback := slashed_append_slash [] back hc
    rw [slashed_append_slash front _ hc, slashed_append_slash front _ hc, told_append_slash, told_append_slash]
    exact congrArg _ ((congrArg told hback).trans told_slash)
  | writeOut front hc =>
    rw [slashed_append_slash front _ hc, slashed_append_slash front _ (.inl rfl), told_append_slash, told_append_slash]
    exact congrArg _ told_doubleStar

theorem parts_of_respelled {cs' : List Char} (h : Relation.ReflTransGen Respells cs cs')
    (htidy : StartsTidy cs ∧ EndsTidy cs) : (StartsTidy cs' ∧ EndsTidy cs') ∧ parts cs' = parts cs := by
  induction h with
  | refl => exact ⟨htidy, rfl⟩
  | tail _ hstep ih => exact ⟨hstep.tidy ih.1, (hstep.parts_eq ih.1).trans ih.2⟩

/-- A pattern without blanks at its ends picks the same paths however it is spelled. -/
theorem picks_of_respelled {p q : String} (htidy : trim p = p) (h : Relation.ReflTransGen Respells p.toList q.toList)
    (path : String) : picks p path = picks q path := by
  have hself : trimChars p.toList = p.toList := by
    rw [← String.toList_ofList (l := trimChars p.toList)]
    exact congrArg String.toList htidy
  obtain ⟨-, hparts⟩ := parts_of_respelled h (trimChars_eq_self_iff.1 hself)
  rw [picks, picks, atoms, atoms, hparts]

theorem respelled_sample : Relation.ReflTransGen Respells "a\\b\\".toList "/a//b/**".toList := by
  have h₁ : Respells "a\\b\\".toList "a/b\\".toList := .exchange ['a'] ['b', '\\'] (.inr rfl) (.inl rfl)
  have h₂ : Respells "a/b\\".toList "a//b\\".toList := .again ['a'] ['b', '\\'] (.inl rfl)
  have h₃ : Respells "a//b\\".toList "/a//b\\".toList := .lead _ (.inl rfl)
  have h₄ : Respells "/a//b\\".toList "/a//b/**".toList := .writeOut ['/', 'a', '/', '/', 'b'] (.inr rfl)
  exact .tail (.tail (.tail (.single h₁) h₂) h₃) h₄

theorem picks_of_respelled_sample : trim "a\\b\\" = "a\\b\\" ∧
    Relation.ReflTransGen Respells "a\\b\\".toList "/a//b/**".toList ∧
    picks "a\\b\\" "a/b/c.groovy" = picks "/a//b/**" "a/b/c.groovy" := by
  have htidy : trim "a\\b\\" = "a\\b\\" := by decide
  exact ⟨htidy, respelled_sample, picks_of_respelled htidy respelled_sample "a/b/c.groovy"⟩

end JavaStubs.Pattern
