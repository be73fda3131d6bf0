import JavaStubs.Number.Shortest

/-! The characters of which numbers are written. -/
namespace JavaStubs.Number

/-- A digit, a point, a sign, or the mark of an exponent. -/
def IsNumeral (c : Char) : Prop :=
  c.isDigit = true ∨ c ∈ ['.', '-', '+', 'e']

instance : DecidablePred IsNumeral :=
  fun c => inferInstanceAs (Decidable (c.isDigit = true ∨ c ∈ ['.', '-', '+', 'e']))

def AreNumerals (cs : List Char) : Prop :=
  ∀ c ∈ cs, IsNumeral c

theorem AreNumerals.append {cs ds : List Char} (hc : AreNumerals cs) (hd : AreNumerals ds) : AreNumerals (cs ++ ds) :=
  List.forall_mem_append.2 ⟨hc, hd⟩

theorem AreNumerals.cons {c : Char} {cs : List Char} (hc : IsNumeral c) (hcs : AreNumerals cs) : AreNumerals (c :: cs) :=
  List.forall_mem_cons.2 ⟨hc, hcs⟩

theorem AreNumerals.sublist {cs ds : List Char} (h : AreNumerals ds) (hs : cs.Sublist ds) : AreNumerals cs :=
  fun c hc => h c (hs.subset hc)

theorem areNumerals_nil : AreNumerals [] :=
  nofun

theorem areNumerals_zeros (n : Nat) : AreNumerals (List.replicate n '0') := by
  intro c hc
  rw [List.eq_of_mem_replicate hc]
  decide

theorem areNumerals_toDigits (n : Nat) : AreNumerals (Nat.toDigits 10 n) :=
  fun _ hc => .inl (Nat.isDigit_of_mem_toDigits (by decide) (by decide) hc)

theorem areNumerals_shortest (m : Nat) (e : Int) : AreNumerals (shortest m e).digits := by
  unfold shortest
  dsimp only
  split
  · exact .cons (by decide) areNumerals_nil
  · exact areNumerals_toDigits _

theorem areNumerals_write (f : RealFormat) {d : Decimal} (h : AreNumerals d.digits) : AreNumerals (d.write f) := by
  unfold Decimal.write
  split
  · split
    · exact .cons (by decide) (.cons (by decide) ((areNumerals_zeros _).append h))
    · have hrest : AreNumerals (d.digits.drop d.place.toNat) := h.sublist (List.drop_sublist _ _)
      refine .append ((h.sublist (List.take_sublist _ _)).append (areNumerals_zeros _)) (.cons (by decide) ?_)
      split
      · exact .cons (by decide) areNumerals_nil
      · exact hrest
  · have hfraction : AreNumerals (if d.digits.length ≤ 1 then [] else '.' :: d.digits.drop 1) := by
      split
      · exact areNumerals_nil
      · exact .cons (by decide) (h.sublist (List.drop_sublist _ _))
    have hsign : IsNumeral (if d.place - 1 < 0 then '-' else '+') := by
      split <;> decide
    refine .append (.append (.append (h.sublist (List.take_sublist _ _)) hfraction) ?_) (areNumerals_toDigits _)
    exact .cons (by decide) (.cons hsign (areNumerals_zeros _))

theorem Real64.mem_text {names : SpecialNames} {x : Real64} {c : Char} (h : c ∈ (x.text names).toList) :
    IsNumeral c ∨ c ∈ names.infinity.toList ∨ c ∈ names.nan.toList := by
  have hsign : ∀ negative : Bool, AreNumerals (if negative then "-" else "").toList := by
    intro negative
    cases negative with
    | false => exact areNumerals_nil
    | true => exact .cons (by decide) areNumerals_nil
  cases x with
  | nan => exact .inr (.inr h)
  | infinite negative =>
    rw [text, String.toList_append, List.mem_append] at h
    exact h.imp (hsign negative c) .inl
  | finite negative m e =>
    rw [text, String.toList_append, List.mem_append] at h
    refine .inl (h.elim (hsign negative c) fun hmagnitude => ?_)
    split at hmagnitude
    · have hzero : AreNumerals "0.0".toList :=
        .cons (by decide) (.cons (by decide) (.cons (by decide) areNumerals_nil))
      exact hzero c hmagnitude
    · rw [String.toList_ofList] at hmagnitude
      exact areNumerals_write plainFormat (areNumerals_shortest m e) c hmagnitude

end JavaStubs.Number
