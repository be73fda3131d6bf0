/-! Cutting text at a separator character, joining pieces, and a few tests on the ends of a text. All are defined on
lists of characters; the versions on strings are wrappers. -/

namespace JavaStubs

/-- Whether a text holds a NUL, the only character with a zero byte. -/
def holdsNul (s : String) : Bool :=
  s.toByteArray.data.toList.contains 0

namespace Text

/-- Cuts at every `sep`. There is always a first piece, and no piece holds `sep`. -/
def cutChars (sep : Char) : List Char → List (List Char)
  | [] => [[]]
  | c :: cs =>
    if c = sep then [] :: cutChars sep cs
    else match cutChars sep cs with
      | [] => [[c]]
      | p :: ps => (c :: p) :: ps

/-- Puts pieces together with one `sep` between neighbours. -/
def joinChars (sep : Char) : List (List Char) → List Char
  | [] => []
  | [p] => p
  | p :: ps => p ++ sep :: joinChars sep ps

def cut (sep : Char) (s : String) : List String :=
  (cutChars sep s.toList).map String.ofList

/-- The pieces of a text that hold at least one character. -/
def words (sep : Char) (s : String) : List String :=
  (cut sep s).filter (· ≠ "")

def join (sep : String) (parts : List String) : String :=
  sep.intercalate parts

def startsWith (s : String) (head : String) : Bool :=
  head.toList.isPrefixOf s.toList

def endsWith (s : String) (tail : String) : Bool :=
  tail.toList.isSuffixOf s.toList

def dropEnd (s : String) (n : Nat) : String :=
  String.ofList (s.toList.take (s.toList.length - n))

/-- Whether `part` stands somewhere in the list. -/
def infixChars (part : List Char) : List Char → Bool
  | [] => part.isEmpty
  | c :: cs => part.isPrefixOf (c :: cs) || infixChars part cs

def contains (s part : String) : Bool :=
  infixChars part.toList s.toList

theorem cutChars_ne_nil (sep : Char) (cs : List Char) : cutChars sep cs ≠ [] := by
  cases cs with
  | nil => simp [cutChars]
  | cons c cs =>
    rw [cutChars]
    split
    · simp
    · split <;> simp

theorem joinChars_cons {sep : Char} {p : List Char} {ps : List (List Char)} (h : ps ≠ []) :
    joinChars sep (p :: ps) = p ++ sep :: joinChars sep ps := by
  cases ps with
  | nil => contradiction
  | cons q qs => rfl

theorem joinChars_cutChars (sep : Char) (cs : List Char) : joinChars sep (cutChars sep cs) = cs := by
  induction cs with
  | nil => rfl
  | cons c cs ih =>
    rw [cutChars]
    split
    · next h => rw [joinChars_cons (cutChars_ne_nil sep cs), ih, h]; rfl
    · split
      · next h => exact absurd h (cutChars_ne_nil sep cs)
      · next p ps h =>
        rw [h] at ih
        cases ps with
        | nil => simpa [joinChars] using ih
        | cons q qs => simpa [joinChars] using ih

theorem not_mem_of_mem_cutChars {sep : Char} {cs p : List Char} (h : p ∈ cutChars sep cs) : sep ∉ p := by
  induction cs generalizing p with
  | nil => simp_all [cutChars]
  | cons c cs ih =>
    rw [cutChars] at h
    split at h
    · rcases List.mem_cons.1 h with rfl | h
      · simp
      · exact ih h
    · next hc =>
      split at h
      · next hn => exact absurd hn (cutChars_ne_nil sep cs)
      · next q qs hq =>
        rcases List.mem_cons.1 h with rfl | h
        · have := ih (p := q) (by simp [hq])
          simp [this, Ne.symm hc]
        · exact ih (by simp [hq, h])

theorem dropEnd_append (s tail : String) : dropEnd (s ++ tail) tail.toList.length = s := by
  rw [dropEnd, String.toList_append, List.length_append, Nat.add_sub_cancel, List.take_left, String.ofList_toList]

variable {sep : Char} {cs p : List Char} {ps : List (List Char)}

/-- A separator between two texts parts their pieces. -/
theorem cutChars_append_sep (cs rest : List Char) :
    cutChars sep (cs ++ sep :: rest) = cutChars sep cs ++ cutChars sep rest := by
  induction cs with
  | nil => simp [cutChars]
  | cons c cs ih =>
    rw [List.cons_append, cutChars, cutChars, ih]
    split
    · rfl
    · cases hcs : cutChars sep cs with
      | nil => exact absurd hcs (cutChars_ne_nil sep cs)
      | cons p ps => rfl

theorem cutChars_of_not_mem (h : sep ∉ cs) : cutChars sep cs = [cs] := by
  induction cs with
  | nil => rfl
  | cons c cs ih =>
    obtain ⟨hc, hcs⟩ := List.ne_and_not_mem_of_not_mem_cons h
    rw [cutChars, if_neg (Ne.symm hc), ih hcs]

theorem cutChars_append (h : sep ∉ cs) (rest : List Char) : cutChars sep (cs ++ sep :: rest) = cs :: cutChars sep rest := by
  rw [cutChars_append_sep, cutChars_of_not_mem h, List.singleton_append]

/-- The pieces after the first are those of the text behind the first separator. -/
theorem of_cutChars_cons (h : cutChars sep cs = p :: ps) :
    sep ∉ p ∧ (ps = [] ∧ cs = p ∨ ∃ rest, cs = p ++ sep :: rest ∧ cutChars sep rest = ps) := by
  have hp : sep ∉ p := not_mem_of_mem_cutChars (h ▸ List.mem_cons_self)
  refine ⟨hp, ?_⟩
  have hjoin : joinChars sep (p :: ps) = cs := h ▸ joinChars_cutChars sep cs
  cases ps with
  | nil => exact .inl ⟨rfl, hjoin.symm⟩
  | cons q qs =>
    rw [joinChars_cons (List.cons_ne_nil q qs)] at hjoin
    have hcut : p :: cutChars sep (joinChars sep (q :: qs)) = p :: q :: qs := by
      rw [← cutChars_append hp, hjoin, h]
    exact .inr ⟨_, hjoin.symm, List.tail_eq_of_cons_eq hcut⟩

theorem mem_joinChars {c : Char} (h : c ∈ joinChars sep ps) : c = sep ∨ ∃ p ∈ ps, c ∈ p := by
  induction ps with
  | nil => cases h
  | cons p ps ih =>
    cases ps with
    | nil => exact .inr ⟨p, List.mem_cons_self, h⟩
    | cons q qs =>
      rw [joinChars_cons (List.cons_ne_nil q qs), List.mem_append, List.mem_cons] at h
      rcases h with h | h | h
      · exact .inr ⟨p, List.mem_cons_self, h⟩
      · exact .inl h
      · exact (ih h).imp_right fun ⟨r, hr, hc⟩ => ⟨r, List.mem_cons_of_mem p hr, hc⟩

/-- Parts without slashes are found again in the path made of them. -/
theorem cutChars_join {parts : List String} (hne : parts ≠ []) (h : ∀ p ∈ parts, '/' ∉ p.toList) :
    cutChars '/' (join "/" parts).toList = parts.map String.toList := by
  induction parts with
  | nil => contradiction
  | cons p ps ih =>
    have hp := h p List.mem_cons_self
    cases ps with
    | nil => simp [join, cutChars_of_not_mem hp]
    | cons q qs =>
      have hrest := ih (List.cons_ne_nil q qs) fun x hx => h x (List.mem_cons_of_mem _ hx)
      have hjoin : (join "/" (p :: q :: qs)).toList = p.toList ++ '/' :: (join "/" (q :: qs)).toList := by
        simp [join, String.intercalate_cons_cons]
      rw [hjoin, cutChars_append hp, hrest]
      rfl

theorem join_inj {ps qs : List String} (hps : ps ≠ []) (hqs : qs ≠ []) (hp : ∀ p ∈ ps, '/' ∉ p.toList)
    (hq : ∀ q ∈ qs, '/' ∉ q.toList) (h : join "/" ps = join "/" qs) : ps = qs := by
  have hcut := cutChars_join hps hp
  rw [h, cutChars_join hqs hq] at hcut
  exact ((List.map_inj_right fun _ _ => String.toList_inj.1).1 hcut).symm

end Text

end JavaStubs
