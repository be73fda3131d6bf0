import JavaStubs.Compiler.Template
import Mathlib.Data.List.Chain
import Mathlib.Data.List.FinRange

/-! Which words of a command come into the command line. -/
namespace JavaStubs.Request

variable (r : Request)

def isVoid (word : String) : Bool :=
  r.lacks word && Placeholder.isBare word

def isOption (word : String) : Bool :=
  !r.lacks word && Text.startsWith (r.fill word) "-"

/-- How many of the options in front of some words these take out, if there are as many. -/
def reach (r : Request) : List String → Nat
  | [] => 0
  | word :: rest =>
    if r.isVoid word then r.reach rest + 1
    else if r.lacks word then r.reach rest
    else if r.isOption word then r.reach rest - 1
    else 0

/-- The words that come into the command line, each judged by the words behind it. -/
def kept (r : Request) : List String → List String
  | [] => []
  | word :: rest =>
    if r.lacks word || (r.isOption word && decide (0 < r.reach rest)) then r.kept rest
    else r.fill word :: r.kept rest

variable {r} {word : String} {rest rendered words command : List String}

theorem isVoid_eq_of_not_lacks (h : r.lacks word = false) : r.isVoid word = false := by
  rw [isVoid, h, Bool.false_and]

theorem isOption_eq_of_lacks (h : r.lacks word = true) : r.isOption word = false := by
  rw [isOption, h]
  rfl

theorem isOption_eq (h : r.lacks word = false) : r.isOption word = Text.startsWith (r.fill word) "-" := by
  rw [isOption, h]
  rfl

theorem dropOption_concat (h : r.lacks word = false) :
    dropOption (rendered ++ [r.fill word]) =
      if r.isOption word then rendered else rendered ++ [r.fill word] := by
  rw [dropOption, List.getLast?_concat, isOption_eq h]
  dsimp only
  rw [List.dropLast_concat]

/-- A word that stays and is no option bars the way to what stands in front of it. -/
theorem iterate_dropOption_concat (h : r.lacks word = false) (hplain : r.isOption word = false) (n : Nat) :
    dropOption^[n] (rendered ++ [r.fill word]) = rendered ++ [r.fill word] := by
  have hfixed : dropOption (rendered ++ [r.fill word]) = rendered ++ [r.fill word] := by
    rw [dropOption_concat h, hplain]
    rfl
  exact Function.iterate_fixed hfixed n

/-- Rendering words after others takes out options of those, and adds what is kept. -/
theorem foldl_renderWord (words rendered : List String) :
    words.foldl r.renderWord rendered = dropOption^[r.reach words] rendered ++ r.kept words := by
  induction words generalizing rendered with
  | nil => simp [reach, kept]
  | cons word rest ih =>
    rw [List.foldl_cons, ih]
    cases hlacks : r.lacks word with
    | true =>
      have hkept : r.kept (word :: rest) = r.kept rest := by simp [kept, hlacks]
      rw [hkept]
      cases hbare : Placeholder.isBare word with
      | true =>
        have hreach : r.reach (word :: rest) = r.reach rest + 1 := by simp [reach, isVoid, hlacks, hbare]
        rw [hreach, Function.iterate_succ_apply]
        simp [renderWord, hlacks, hbare]
      | false =>
        have hreach : r.reach (word :: rest) = r.reach rest := by simp [reach, isVoid, hlacks, hbare]
        rw [hreach]
        simp [renderWord, hlacks, hbare]
    | false =>
      have hvoid := isVoid_eq_of_not_lacks hlacks
      have hword : r.renderWord rendered word = rendered ++ [r.fill word] := by simp [renderWord, hlacks]
      rw [hword]
      cases hoption : r.isOption word with
      | false =>
        have hreach : r.reach (word :: rest) = 0 := by simp [reach, hlacks, hvoid, hoption]
        have hkept : r.kept (word :: rest) = r.fill word :: r.kept rest := by simp [kept, hlacks, hoption]
        rw [hreach, hkept, iterate_dropOption_concat hlacks hoption, Function.iterate_zero, id]
        simp
      | true =>
        cases hrest : r.reach rest with
        | zero =>
          have hreach : r.reach (word :: rest) = 0 := by simp [reach, hlacks, hvoid, hoption, hrest]
          have hkept : r.kept (word :: rest) = r.fill word :: r.kept rest := by simp [kept, hlacks, hrest]
          rw [hreach, hkept]
          simp
        | succ n =>
          -- the last of those that the rest takes out is this very word
          have hreach : r.reach (word :: rest) = n := by simp [reach, hlacks, hvoid, hoption, hrest]
          have hkept : r.kept (word :: rest) = r.kept rest := by simp [kept, hoption, hrest]
          have hdrop : dropOption (rendered ++ [r.fill word]) = rendered := by
            rw [dropOption_concat hlacks, hoption, if_pos rfl]
          rw [hreach, hkept, Function.iterate_succ_apply, hdrop]

theorem iterate_dropOption_nil (n : Nat) : dropOption^[n] [] = [] :=
  Function.iterate_fixed rfl n

variable (r)

/-- Words that take out `n` options in front of them: none of them stays unless it is an option, and for each of these
there is a bare placeholder without a value, and for `n` more. -/
structure TakesOut (words : List String) (n : Nat) : Prop where
  noPlain : ∀ word ∈ words, r.lacks word = true ∨ r.isOption word = true
  enough : words.countP r.isOption + n ≤ words.countP r.isVoid

/-- The word at a position comes into the command line: it lacks no value, and it is no option that words right behind
it take out. -/
def Stays (command : List String) (i : Fin command.length) : Prop :=
  r.lacks command[i] = false ∧
    ¬(r.isOption command[i] = true ∧ ∃ behind, behind <+: command.drop (i + 1) ∧ r.TakesOut behind 1)

/-- The word at a position lacks no value, and it is no option right in front of a bare placeholder without one. -/
def StaysBySight (command : List String) (i : Fin command.length) : Prop :=
  r.lacks command[i] = false ∧ ¬(r.isOption command[i] = true ∧ (command[i.val + 1]?).any r.isVoid = true)

instance (command : List String) (i : Fin command.length) : Decidable (r.StaysBySight command i) :=
  inferInstanceAs (Decidable (_ ∧ _))

/-- No bare placeholder without a value stands right behind a word that lacks a value. -/
def Spaced (command : List String) : Prop :=
  command.IsChain fun word next => r.lacks word = true → r.isVoid next = false

instance (command : List String) : Decidable (r.Spaced command) :=
  inferInstanceAs (Decidable (List.IsChain _ _))

variable {r}

theorem takesOut_zero : r.TakesOut [] 0 where
  noPlain := by simp
  enough := by simp

theorem TakesOut.eq_zero {n : Nat} (h : r.TakesOut [] n) : n = 0 := by
  have := h.enough
  simpa using this

theorem takesOut_cons {m n : Nat} (hword : r.lacks word = true ∨ r.isOption word = true)
    (hcount : (if r.isOption word then 1 else 0) + n = m + if r.isVoid word then 1 else 0) :
    r.TakesOut (word :: words) n ↔ r.TakesOut words m := by
  constructor
  · intro h
    have henough := h.enough
    rw [List.countP_cons, List.countP_cons] at henough
    exact ⟨fun w hw => h.noPlain w (List.mem_cons_of_mem _ hw), by omega⟩
  · intro h
    have henough := h.enough
    constructor
    · intro w hw
      cases hw with
      | head => exact hword
      | tail _ hw => exact h.noPlain w hw
    · rw [List.countP_cons, List.countP_cons]
      omega

theorem not_takesOut_cons {n : Nat} (hlacks : r.lacks word = false) (hoption : r.isOption word = false) :
    ¬r.TakesOut (word :: words) n := by
  intro h
  have := h.noPlain word List.mem_cons_self
  simp [hlacks, hoption] at this

theorem exists_takesOut_zero : ∃ behind, behind <+: words ∧ r.TakesOut behind 0 :=
  ⟨[], List.nil_prefix, takesOut_zero⟩

theorem exists_takesOut_cons {m n : Nat} (hm : m ≠ 0)
    (h : ∀ behind : List String, r.TakesOut (word :: behind) m ↔ r.TakesOut behind n) :
    (∃ behind, behind <+: word :: rest ∧ r.TakesOut behind m) ↔ ∃ behind, behind <+: rest ∧ r.TakesOut behind n := by
  constructor
  · intro ⟨behind, hprefix, htakes⟩
    cases List.prefix_cons_iff.mp hprefix with
    | inl hnil =>
      subst hnil
      exact absurd htakes.eq_zero hm
    | inr hcons =>
      have ⟨further, hbehind, hfurther⟩ := hcons
      subst hbehind
      exact ⟨further, hfurther, (h further).mp htakes⟩
  · intro ⟨behind, hprefix, htakes⟩
    exact ⟨word :: behind, (List.prefix_cons_inj word).mpr hprefix, (h behind).mpr htakes⟩

/-- Words reach as far as those at their beginning take out. -/
theorem le_reach_iff (n : Nat) : n ≤ r.reach words ↔ ∃ behind, behind <+: words ∧ r.TakesOut behind n := by
  induction words generalizing n with
  | nil =>
    constructor
    · intro h
      rw [Nat.le_zero.mp h]
      exact exists_takesOut_zero
    · intro ⟨behind, hprefix, htakes⟩
      rw [List.prefix_nil.mp hprefix] at htakes
      rw [htakes.eq_zero]
      exact Nat.zero_le _
  | cons word rest ih =>
    cases n with
    | zero => simp only [Nat.zero_le, exists_takesOut_zero]
    | succ n =>
      cases hlacks : r.lacks word with
      | true =>
        have hoption := isOption_eq_of_lacks hlacks
        cases hvoid : r.isVoid word with
        | true =>
          have hcons : ∀ behind, r.TakesOut (word :: behind) (n + 1) ↔ r.TakesOut behind n := fun _ =>
            takesOut_cons (.inl hlacks) (by simp [hoption, hvoid])
          rw [exists_takesOut_cons (Nat.succ_ne_zero n) hcons, ← ih]
          simp [reach, hvoid]
        | false =>
          have hcons : ∀ behind, r.TakesOut (word :: behind) (n + 1) ↔ r.TakesOut behind (n + 1) := fun _ =>
            takesOut_cons (.inl hlacks) (by simp [hoption, hvoid])
          rw [exists_takesOut_cons (Nat.succ_ne_zero n) hcons, ← ih]
          simp [reach, hvoid, hlacks]
      | false =>
        have hvoid := isVoid_eq_of_not_lacks hlacks
        cases hoption : r.isOption word with
        | true =>
          have hcons : ∀ behind, r.TakesOut (word :: behind) (n + 1) ↔ r.TakesOut behind (n + 2) := fun _ =>
            takesOut_cons (.inr hoption) (by simp [hoption, hvoid]; omega)
          rw [exists_takesOut_cons (Nat.succ_ne_zero n) hcons, ← ih]
          simp [reach, hvoid, hlacks, hoption]
          omega
        | false =>
          have hnone : ¬∃ behind, behind <+: word :: rest ∧ r.TakesOut behind (n + 1) := by
            intro ⟨behind, hprefix, htakes⟩
            cases List.prefix_cons_iff.mp hprefix with
            | inl hnil =>
              subst hnil
              exact absurd htakes.eq_zero (Nat.succ_ne_zero n)
            | inr hcons =>
              have ⟨further, hbehind, _⟩ := hcons
              subst hbehind
              exact not_takesOut_cons hlacks hoption htakes
          simp [reach, hvoid, hlacks, hoption, hnone]

theorem stays_iff {i : Fin command.length} : r.Stays command i ↔
    r.lacks command[i] = false ∧ ¬(r.isOption command[i] = true ∧ 0 < r.reach (command.drop (i + 1))) := by
  rw [Stays, ← le_reach_iff]
  rfl

instance (command : List String) (i : Fin command.length) : Decidable (r.Stays command i) :=
  decidable_of_iff _ stays_iff.symm

theorem kept_eq (words : List String) : r.kept words =
    ((List.finRange words.length).filter fun i => r.Stays words i).map fun i => r.fill words[i] := by
  induction words with
  | nil => rfl
  | cons word rest ih =>
    have hpositions : List.finRange (word :: rest).length = ⟨0, by simp⟩ :: (List.finRange rest.length).map Fin.succ :=
      List.finRange_succ
    have hbehind : (((List.finRange rest.length).map Fin.succ).filter fun i => r.Stays (word :: rest) i).map
        (fun i => r.fill (word :: rest)[i]) = r.kept rest := by
      rw [List.filter_map, List.map_map, ih]
      rfl
    have hfirst : r.Stays (word :: rest) ⟨0, by simp⟩ ↔
        r.lacks word = false ∧ ¬(r.isOption word = true ∧ 0 < r.reach rest) := stays_iff
    rw [hpositions, List.filter_cons, kept]
    by_cases hstays : r.Stays (word :: rest) ⟨0, by simp⟩
    · have hword := hfirst.mp hstays
      have hkept : ¬(r.lacks word || (r.isOption word && decide (0 < r.reach rest))) = true := by
        simpa [hword.1] using hword.2
      rw [if_pos (decide_eq_true hstays), List.map_cons, hbehind, if_neg hkept]
      rfl
    · have hkept : (r.lacks word || (r.isOption word && decide (0 < r.reach rest))) = true := by
        rw [hfirst, not_and_or, not_not, Bool.not_eq_false] at hstays
        simpa using hstays
      have hfirstNot : ¬decide (r.Stays (word :: rest) ⟨0, by simp⟩) = true := by
        rw [decide_eq_true_iff]
        exact hstays
      rw [if_neg hfirstNot, hbehind, if_pos hkept]

def program (r : Request) (command : List String) : List String :=
  ((List.finRange command.length).filter fun i => r.Stays command i).map fun i => r.fill command[i]

theorem commandLine_eq_program (r : Request) (command : List String) :
    r.commandLine command = r.program command ++ r.files.map FilePath.text := by
  rw [commandLine, foldl_renderWord, iterate_dropOption_nil, List.nil_append, kept_eq]
  rfl

theorem Spaced.reach_eq (h : r.Spaced words) : r.reach words = if words.head?.any r.isVoid then 1 else 0 := by
  induction words with
  | nil => rfl
  | cons word rest ih =>
    have hrest : r.reach rest = if rest.head?.any r.isVoid then 1 else 0 := ih h.tail
    have hbehind : r.lacks word = true → r.reach rest = 0 := by
      intro hlacks
      cases rest with
      | nil => rfl
      | cons next rest =>
        have hnext : r.isVoid next = false := (List.isChain_cons_cons.mp h).1 hlacks
        simpa [hnext] using hrest
    cases hlacks : r.lacks word with
    | true =>
      have hzero : r.reach rest = 0 := hbehind hlacks
      cases hvoid : r.isVoid word <;> simp [reach, hlacks, hvoid, hzero]
    | false =>
      have hvoid := isVoid_eq_of_not_lacks hlacks
      have hle : r.reach rest ≤ 1 := by
        rw [hrest]
        split <;> omega
      simp [reach, hlacks, hvoid]
      omega

theorem Spaced.drop (h : r.Spaced command) (n : Nat) : r.Spaced (command.drop n) :=
  List.IsChain.drop h n

theorem Spaced.stays_iff_staysBySight (h : r.Spaced command) (i : Fin command.length) :
    r.Stays command i ↔ r.StaysBySight command i := by
  rw [stays_iff, StaysBySight, (h.drop (i + 1)).reach_eq, List.head?_drop]
  cases (command[i.val + 1]?).any r.isVoid <;> simp

variable (r)

/-- The command line has, in order, the words of the command that stay at their positions, with their placeholders
replaced, and then the files. Which words stay can be told from the next word alone if the command is spaced. -/
theorem commandLine_stays (command : List String) :
    r.commandLine command =
      ((List.finRange command.length).filter fun i => r.Stays command i).map (fun i => r.fill command[i]) ++
        r.files.map FilePath.text ∧
      (r.Spaced command → ∀ i, r.Stays command i ↔ r.StaysBySight command i) := by
  constructor
  · rw [commandLine, foldl_renderWord, iterate_dropOption_nil, List.nil_append, kept_eq]
  · intro hspaced i
    exact hspaced.stays_iff_staysBySight i

variable {r}

def sparseRequest : Request where
  target := FilePath.ofText "/w/out"
  classPath := []
  options := []
  files := [FilePath.ofText "/w/A.groovy"]

/-- An option with an empty value, a word with an empty value inside, and an option with a value. -/
def spacedCommand : List String :=
  ["stubc", "-cp", "\x7bclasspath\x7d", "-e=\x7bencoding\x7d", "-d", "\x7btarget\x7d"]

theorem stays_of_spacedCommand : sparseRequest.Spaced spacedCommand ∧
    (sparseRequest.commandLine spacedCommand = ["stubc", "-d", "/w/out", "/w/A.groovy"] ∧
      ∀ i, sparseRequest.Stays spacedCommand i ↔ sparseRequest.StaysBySight spacedCommand i) := by
  have hspaced : sparseRequest.Spaced spacedCommand := by decide +kernel
  have hlaw := sparseRequest.commandLine_stays spacedCommand
  refine ⟨hspaced, ?_, hlaw.2 hspaced⟩
  rw [hlaw.1]
  decide +kernel

/-- A second placeholder without a value takes out a further option, which does not stand in front of it. -/
theorem option_may_be_lost : ¬∀ (r : Request) (command : List String), r.commandLine command =
    ((List.finRange command.length).filter fun i => r.StaysBySight command i).map (fun i => r.fill command[i]) ++
      r.files.map FilePath.text := by
  intro h
  have hlost := h sparseRequest ["stubc", "-v", "-cp", "\x7bclasspath\x7d", "\x7bencoding\x7d"]
  revert hlost
  decide +kernel

end JavaStubs.Request
