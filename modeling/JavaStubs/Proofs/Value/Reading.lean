import JavaStubs.Charset.Encode
import JavaStubs.Value.Json
import Mathlib.Data.List.Basic
import Mathlib.Tactic.SplitIfs

/-! A reader of JSON texts. It reads whole numbers only, as no report has others, and no object in which a key occurs
twice. -/
namespace JavaStubs.Json

def isBlank (c : Char) : Bool :=
  c = ' ' || c = '\t' || c = '\n' || c = '\r'

def dropBlanks (cs : List Char) : List Char :=
  cs.dropWhile isBlank

/-- The character that a letter after a backslash stands for. -/
def escaped? (c : Char) : Option Char :=
  [('"', '"'), ('\\', '\\'), ('/', '/'), ('n', '\n'), ('r', '\r'), ('t', '\t'), ('b', '\x08'), ('f', '\x0c')].lookup c

def code? (digits : List Char) : Option Nat := do
  let values ← digits.mapM Text.hexValue?
  return values.foldl (fun n d => 16 * n + d) 0

/-- Reads the characters of a string and its closing quote. Escapes stand for units of UTF-16. -/
def readUnits : List Char → Option (List Nat × List Char)
  | [] => none
  | c :: cs =>
    if c = '"' then some ([], cs)
    else if c = '\\' then
      match cs with
      | [] => none
      | e :: cs =>
        if e = 'u' then
          match cs with
          | d₁ :: d₂ :: d₃ :: d₄ :: cs => do
            let n ← code? [d₁, d₂, d₃, d₄]
            let (units, rest) ← readUnits cs
            return (n :: units, rest)
          | _ => none
        else do
          let c ← escaped? e
          let (units, rest) ← readUnits cs
          return (Charset.utf16Units c ++ units, rest)
    else if c.toNat < 0x20 then none
    else do
      let (units, rest) ← readUnits cs
      return (Charset.utf16Units c ++ units, rest)

/-- The characters of units. Surrogates count only in pairs. -/
def charsOf? : List Nat → Option (List Char)
  | [] => some []
  | u :: us =>
    if u < 0xd800 ∨ 0xe000 ≤ u then (charsOf? us).map (Char.ofNat u :: ·)
    else match us with
      | [] => none
      | v :: us =>
        if u < 0xdc00 ∧ 0xdc00 ≤ v ∧ v < 0xe000 then
          (charsOf? us).map (Char.ofNat (0x10000 + (u - 0xd800) * 0x400 + (v - 0xdc00)) :: ·)
        else none

def readText (cs : List Char) : Option (String × List Char) := do
  let (units, rest) ← readUnits cs
  let chars ← charsOf? units
  return (String.ofList chars, rest)

def isWordChar (c : Char) : Bool :=
  c.isAlphanum || c = '-' || c = '+' || c = '.'

def number : List Char → Int
  | '-' :: cs => -Nat.ofDigitChars 10 cs 0
  | cs => Nat.ofDigitChars 10 cs 0

/-- The value of a word that is no string. A number is read if it is whole and in its usual form. -/
def wordValue? (word : String) : Option Value :=
  if word = "null" then some .null
  else if word = "true" then some (.bool true)
  else if word = "false" then some (.bool false)
  else if toString (number word.toList) = word then some (.int (number word.toList))
  else none

def readWord (cs : List Char) : Option (Value × List Char) :=
  (wordValue? (String.ofList (cs.takeWhile isWordChar))).map (·, cs.dropWhile isWordChar)

/-- Reads members, at least one, with commas between them and a closing bracket after the last. -/
def readMembers {α : Type} (readOne : List Char → Option (α × List Char)) (closing : Char) :
    Nat → List Char → Option (List α × List Char)
  | 0, _ => none
  | fuel + 1, cs => do
    let (member, rest) ← readOne cs
    match dropBlanks rest with
    | [] => none
    | c :: rest =>
      if c = closing then return ([member], rest)
      else if c = ',' then
        let (members, rest) ← readMembers readOne closing fuel rest
        return (member :: members, rest)
      else none

def readBracket {α : Type} (readOne : List Char → Option (α × List Char)) (closing : Char) (fuel : Nat)
    (cs : List Char) : Option (List α × List Char) :=
  match dropBlanks cs with
  | [] => none
  | c :: rest => if c = closing then some ([], rest) else readMembers readOne closing fuel (c :: rest)

def readField (readOne : List Char → Option (Value × List Char)) (cs : List Char) :
    Option ((String × Value) × List Char) :=
  match dropBlanks cs with
  | '"' :: cs => do
    let (key, rest) ← readText cs
    match dropBlanks rest with
    | ':' :: rest => (readOne rest).map fun (v, rest) => ((key, v), rest)
    | _ => none
  | _ => none

/-- Reads a value from the beginning of a text, which must not be nested deeper than the fuel lasts. -/
def readValue : Nat → List Char → Option (Value × List Char)
  | 0, _ => none
  | fuel + 1, cs =>
    match dropBlanks cs with
    | '"' :: cs => (readText cs).map fun (s, rest) => (.text s, rest)
    | '[' :: cs => (readBracket (readValue fuel) ']' fuel cs).map fun (items, rest) => (.array items, rest)
    | '\x7b' :: cs => do
      let (fields, rest) ← readBracket (readField (readValue fuel)) '\x7d' fuel cs
      if (fields.map (·.1)).Nodup then return (.table fields, rest) else none
    | cs => readWord cs

/-- The value of a text that holds nothing else. A text is at least as long as it is deep. -/
def read (s : String) : Option Value := do
  let (v, rest) ← readValue (s.toList.length + 1) s.toList
  if dropBlanks rest = [] then return v else none

section Texts

theorem hexValue?_hexDigit (n : Nat) : Text.hexValue? (Text.hexDigit n) = some (n % 16) := by
  have hall : ∀ d < 16, Text.hexValue? (Text.hexDigit d) = some d := by decide
  have hmod : Text.hexDigit n = Text.hexDigit (n % 16) := by rw [Text.hexDigit, Text.hexDigit, Nat.mod_mod]
  rw [hmod, hall _ (Nat.mod_lt _ (by decide))]

theorem code?_hexDigits {n : Nat} (h : n < 0x10000) : code? (Text.hexDigits 4 n) = some n := by
  simp only [Text.hexDigits, List.nil_append, List.cons_append, code?, List.mapM_cons, List.mapM_nil, hexValue?_hexDigit,
    Option.bind_eq_bind, Option.bind_some, Option.pure_def, List.foldl_cons, List.foldl_nil, Option.some.injEq]
  omega

theorem readUnits_code {n : Nat} (h : n < 0x10000) (cs : List Char) :
    readUnits ('\\' :: 'u' :: Text.hexDigits 4 n ++ cs) = (readUnits cs).map fun x => (n :: x.1, x.2) := by
  have hcode := code?_hexDigits h
  simp only [Text.hexDigits, List.nil_append, List.cons_append] at hcode ⊢
  rw [readUnits.eq_def]
  dsimp only
  rw [if_neg (by decide), if_pos rfl, if_pos rfl, hcode]
  cases readUnits cs <;> rfl

theorem readUnits_escaped {e c : Char} (h : escaped? e = some c) (hu : e ≠ 'u') (cs : List Char) :
    readUnits ('\\' :: e :: cs) = (readUnits cs).map fun x => (Charset.utf16Units c ++ x.1, x.2) := by
  rw [readUnits.eq_def]
  dsimp only
  rw [if_neg (by decide), if_pos rfl, if_neg hu, h]
  cases readUnits cs <;> rfl

theorem readUnits_shown {c : Char} (hquote : c ≠ '"') (hslash : c ≠ '\\') (h : 0x20 ≤ c.toNat) (cs : List Char) :
    readUnits (c :: cs) = (readUnits cs).map fun x => (Charset.utf16Units c ++ x.1, x.2) := by
  rw [readUnits.eq_def]
  dsimp only
  rw [if_neg hquote, if_neg hslash, if_neg (Nat.not_lt.2 h)]
  cases readUnits cs <;> rfl

theorem readUnits_quotedChar (c : Char) (cs : List Char) :
    readUnits (quotedChar c ++ cs) = (readUnits cs).map fun x => (Charset.utf16Units c ++ x.1, x.2) := by
  unfold quotedChar
  split_ifs with hquote hslash hn hr ht hb hf hshown
  · subst hquote
    exact readUnits_escaped rfl (by decide) cs
  · subst hslash
    exact readUnits_escaped rfl (by decide) cs
  · subst hn
    exact readUnits_escaped rfl (by decide) cs
  · subst hr
    exact readUnits_escaped rfl (by decide) cs
  · subst ht
    exact readUnits_escaped rfl (by decide) cs
  · subst hb
    exact readUnits_escaped rfl (by decide) cs
  · subst hf
    exact readUnits_escaped rfl (by decide) cs
  · exact readUnits_shown hquote hslash hshown.1 cs
  · unfold escapeCode
    split_ifs with hsmall
    · rw [readUnits_code hsmall, Charset.utf16Units_of_lt hsmall]
      rfl
    · have hbounds := Charset.toNat_bounds c
      dsimp only
      rw [List.append_assoc, readUnits_code (by omega), readUnits_code (by omega), Charset.utf16Units_of_le hsmall, Option.map_map]
      rfl

theorem charsOf?_utf16Units (c : Char) (us : List Nat) :
    charsOf? (Charset.utf16Units c ++ us) = (charsOf? us).map (c :: ·) := by
  have hbounds := Charset.toNat_bounds c
  by_cases hsmall : c.toNat < 0x10000
  · rw [Charset.utf16Units_of_lt hsmall, List.singleton_append, charsOf?.eq_def]
    dsimp only
    rw [if_pos (by omega), Char.ofNat_toNat]
  · rw [Charset.utf16Units_of_le hsmall, List.cons_append, List.singleton_append, charsOf?.eq_def]
    dsimp only
    have hcode : 0x10000 + (0xd800 + (c.toNat - 0x10000) / 0x400 - 0xd800) * 0x400 +
        (0xdc00 + (c.toNat - 0x10000) % 0x400 - 0xdc00) = c.toNat := by
      omega
    rw [if_neg (by omega), if_pos (by omega), hcode, Char.ofNat_toNat]

theorem charsOf?_flatMap (cs : List Char) : charsOf? (cs.flatMap Charset.utf16Units) = some cs := by
  induction cs with
  | nil => rfl
  | cons c cs ih =>
    rw [List.flatMap_cons, charsOf?_utf16Units, ih]
    rfl

theorem readUnits_quotedChars (cs rest : List Char) :
    readUnits (cs.flatMap quotedChar ++ '"' :: rest) = some (cs.flatMap Charset.utf16Units, rest) := by
  induction cs with
  | nil =>
    rw [List.flatMap_nil, List.nil_append, readUnits.eq_def]
    rfl
  | cons c cs ih =>
    rw [List.flatMap_cons, List.append_assoc, readUnits_quotedChar, ih]
    rfl

theorem quotedChars_append (cs rest : List Char) :
    quotedChars cs ++ rest = '"' :: (cs.flatMap quotedChar ++ '"' :: rest) := by
  rw [quotedChars, List.cons_append, List.cons_append, List.append_assoc, List.singleton_append]

theorem readText_quoted (s : String) (rest : List Char) :
    readText (s.toList.flatMap quotedChar ++ '"' :: rest) = some (s, rest) := by
  rw [readText, readUnits_quotedChars]
  simp only [Option.bind_eq_bind, Option.bind_some, charsOf?_flatMap, Option.pure_def, String.ofList_toList]

end Texts

section Words

def Ends (rest : List Char) : Prop :=
  ∀ c ∈ rest.head?, isWordChar c = false

theorem ends_cons {c : Char} (h : isWordChar c = false) (cs : List Char) : Ends (c :: cs) := by
  rintro _ ⟨⟩
  exact h

theorem readWord_append {word : String} {v : Value} {rest : List Char} (h : ∀ c ∈ word.toList, isWordChar c = true)
    (hv : wordValue? word = some v) (hrest : Ends rest) : readWord (word.toList ++ rest) = some (v, rest) := by
  have hnone : rest.takeWhile isWordChar = [] ∧ rest.dropWhile isWordChar = rest := by
    cases rest with
    | nil => exact ⟨rfl, rfl⟩
    | cons c cs =>
      have hc : ¬isWordChar c = true := by simp [hrest c rfl]
      exact ⟨List.takeWhile_cons_of_neg hc, List.dropWhile_cons_of_neg hc⟩
  rw [readWord, List.takeWhile_append_of_pos h, List.dropWhile_append_of_pos h, hnone.1, hnone.2, List.append_nil,
    String.ofList_toList, hv]
  rfl

theorem dropBlanks_cons {c : Char} (h : isBlank c = false) (cs : List Char) : dropBlanks (c :: cs) = c :: cs :=
  List.dropWhile_cons_of_neg (by simp [h])

theorem dropBlanks_blank (cs : List Char) : dropBlanks (' ' :: cs) = dropBlanks cs :=
  List.dropWhile_cons_of_pos rfl

theorem not_blank_of_isWordChar {c : Char} (h : isWordChar c = true) : isBlank c = false := by
  rw [Bool.eq_false_iff]
  intro hb
  simp only [isBlank, Bool.or_eq_true, decide_eq_true_eq] at hb
  rcases hb with ((rfl | rfl) | rfl) | rfl <;> exact absurd h (by decide)

theorem readValue_word {word : String} {v : Value} {rest : List Char} (hne : word.toList ≠ [])
    (h : ∀ c ∈ word.toList, isWordChar c = true) (hv : wordValue? word = some v) (hrest : Ends rest) (fuel : Nat) :
    readValue (fuel + 1) (word.toList ++ rest) = some (v, rest) := by
  have hread := readWord_append h hv hrest
  obtain ⟨c, cs, hcs⟩ := List.exists_cons_of_ne_nil hne
  have hc : isWordChar c = true := h c (hcs ▸ List.mem_cons_self)
  rw [hcs, List.cons_append] at hread ⊢
  rw [readValue, dropBlanks_cons (not_blank_of_isWordChar hc)]
  split
  · next heq => exact absurd ((List.cons.inj heq).1 ▸ hc) (by decide)
  · next heq => exact absurd ((List.cons.inj heq).1 ▸ hc) (by decide)
  · next heq => exact absurd ((List.cons.inj heq).1 ▸ hc) (by decide)
  · exact hread

theorem mem_toString {n : Int} {c : Char} (h : c ∈ (toString n).toList) : c.isDigit = true ∨ c = '-' := by
  have hdigits : ∀ m : Nat, c ∈ m.repr.toList → c.isDigit = true := fun m hm =>
    Nat.isDigit_of_mem_toDigits (by decide) (by decide) (Nat.toList_repr ▸ hm)
  rw [Int.toString_eq_repr, Int.repr_eq_if] at h
  split_ifs at h
  · exact .inl (hdigits _ h)
  · rw [String.toList_append, List.mem_append] at h
    exact h.symm.imp (hdigits _) List.mem_singleton.1

theorem number_toString (n : Int) : number (toString n).toList = n := by
  rw [Int.toString_eq_repr, Int.repr_eq_if]
  split_ifs with h
  · rw [Nat.toList_repr]
    unfold number
    split
    · next cs heq =>
      have hdash : '-' ∈ Nat.toDigits 10 n.toNat := heq ▸ List.mem_cons_self
      exact absurd (Nat.isDigit_of_mem_toDigits (by decide) (by decide) hdash) (by decide)
    · rw [Nat.ofDigitChars_ten_toDigits, Int.toNat_of_nonneg h]
  · rw [String.toList_append, Nat.toList_repr]
    change -(Nat.ofDigitChars 10 (Nat.toDigits 10 (-n).toNat) 0 : Int) = n
    rw [Nat.ofDigitChars_ten_toDigits, Int.toNat_of_nonneg (by omega), Int.neg_neg]

theorem wordValue?_toString (n : Int) : wordValue? (toString n) = some (.int n) := by
  have hno : ∀ s : String, ∀ c ∈ s.toList, ¬(c.isDigit = true ∨ c = '-') → toString n ≠ s :=
    fun s c hc hnot heq => hnot (mem_toString (heq ▸ hc))
  rw [wordValue?, if_neg (hno _ 'n' (by decide) (by decide)), if_neg (hno _ 't' (by decide) (by decide)),
    if_neg (hno _ 'f' (by decide) (by decide)), number_toString, if_pos rfl]

theorem toString_ne_nil (n : Int) : (toString n).toList ≠ [] := by
  have hnat : ∀ m : Nat, m.repr.toList ≠ [] := by
    intro m h
    rw [Nat.toList_repr] at h
    exact Nat.toDigits_ne_nil h
  rw [Int.toString_eq_repr, Int.repr_eq_if]
  split_ifs
  · exact hnat _
  · rw [String.toList_append]
    exact List.append_ne_nil_of_left_ne_nil (by decide) _

end Words

section Members

variable {α β : Type} {readOne : List Char → Option (α × List Char)} {closing : Char} {text : β → List Char} {value : β → α}

/-- Some texts are read back one by one, whatever follows them. -/
structure ReadsEach (readOne : List Char → Option (α × List Char)) (text : β → List Char) (value : β → α)
    (members : List β) : Prop where
  blank : ∀ cs, readOne (' ' :: cs) = readOne cs
  read : ∀ x ∈ members, ∀ rest, Ends rest → readOne (text x ++ rest) = some (value x, rest)

structure Closes (closing : Char) : Prop where
  ne : closing ≠ ','
  blank : isBlank closing = false
  word : isWordChar closing = false

theorem readMembers_blank (hblank : ∀ cs, readOne (' ' :: cs) = readOne cs) (fuel : Nat) (cs : List Char) :
    readMembers readOne closing fuel (' ' :: cs) = readMembers readOne closing fuel cs := by
  cases fuel with
  | zero => rfl
  | succ fuel => rw [readMembers, readMembers, hblank]

/-- Members with commas between them are read back in order. -/
theorem readMembers_intercalate (hclosing : Closes closing) {x : β} {xs : List β}
    (h : ReadsEach readOne text value (x :: xs)) {fuel : Nat} (hfuel : xs.length < fuel) (rest : List Char) :
    readMembers readOne closing fuel ([',', ' '].intercalate ((x :: xs).map text) ++ closing :: rest) =
      some ((x :: xs).map value, rest) := by
  induction xs generalizing x fuel with
  | nil =>
    obtain ⟨fuel, rfl⟩ := Nat.exists_eq_add_one_of_ne_zero (Nat.ne_zero_of_lt hfuel)
    rw [List.map_singleton, List.intercalate_singleton, readMembers,
      h.read x List.mem_cons_self _ (ends_cons hclosing.word _)]
    simp only [Option.bind_eq_bind, Option.bind_some, dropBlanks_cons hclosing.blank, if_true]
    rfl
  | cons y ys ih =>
    obtain ⟨fuel, rfl⟩ := Nat.exists_eq_add_one_of_ne_zero (Nat.ne_zero_of_lt hfuel)
    have hrest := @ih y ⟨h.blank, fun z hz => h.read z (List.mem_cons_of_mem _ hz)⟩ fuel (Nat.lt_of_succ_lt_succ hfuel)
    rw [List.map_cons, List.map_cons, List.intercalate_cons_cons, ← List.map_cons, List.append_assoc, List.append_assoc,
      readMembers, List.cons_append, List.cons_append, List.nil_append,
      h.read x List.mem_cons_self _ (@ends_cons ',' (by decide) _)]
    simp only [Option.bind_eq_bind, Option.bind_some]
    rw [dropBlanks_cons (by decide)]
    dsimp only
    rw [if_neg hclosing.ne.symm, if_pos rfl, readMembers_blank h.blank, hrest]
    rfl

theorem readBracket_intercalate (hclosing : Closes closing) {xs : List β} (h : ReadsEach readOne text value xs)
    (hheads : ∀ x ∈ xs, ∃ c cs, text x = c :: cs ∧ isBlank c = false ∧ c ≠ closing) {fuel : Nat}
    (hfuel : xs.length ≤ fuel) (rest : List Char) :
    readBracket readOne closing fuel ([',', ' '].intercalate (xs.map text) ++ closing :: rest) =
      some (xs.map value, rest) := by
  cases xs with
  | nil =>
    rw [List.map_nil, List.intercalate_nil, List.nil_append, readBracket, dropBlanks_cons hclosing.blank]
    dsimp only
    rw [if_pos rfl]
    rfl
  | cons x xs =>
    have hmembers := readMembers_intercalate hclosing h (Nat.lt_of_succ_le hfuel) rest
    obtain ⟨c, cs, htext, hblank, hne⟩ := hheads x List.mem_cons_self
    obtain ⟨ds, hds⟩ : ∃ ds, [',', ' '].intercalate ((x :: xs).map text) = c :: ds := by
      cases xs with
      | nil => exact ⟨cs, by rw [List.map_singleton, List.intercalate_singleton, htext]⟩
      | cons y ys =>
        rw [List.map_cons, List.map_cons, List.intercalate_cons_cons, htext]
        exact ⟨_, rfl⟩
    rw [hds, List.cons_append] at hmembers ⊢
    rw [readBracket, dropBlanks_cons hblank]
    dsimp only
    rw [if_neg hne, hmembers]

theorem length_intercalate (sep : List Char) (hsep : sep ≠ []) {l : List (List Char)} :
    l.length ≤ (sep.intercalate l).length + 1 ∧ ∀ t ∈ l, t.length ≤ (sep.intercalate l).length := by
  induction l with
  | nil => simp
  | cons t ts ih =>
    cases ts with
    | nil => simp
    | cons u us =>
      have hpos := List.length_pos_of_ne_nil hsep
      rw [List.intercalate_cons_cons, List.length_append, List.length_append]
      refine ⟨?_, fun x hx => ?_⟩
      · rw [List.length_cons]
        omega
      · rcases List.mem_cons.1 hx with rfl | hx
        · omega
        · have := ih.2 x hx
          omega

end Members

end JavaStubs.Json
