import JavaStubs.Text.UpperCase

/-! Upper-casing puts letters in place of letters: what it makes is no ASCII character but a capital letter. -/
namespace JavaStubs.Text

def isLetterOrBeyond (c : Char) : Bool :=
  c.isUpper || decide (0x80 ≤ c.toNat)

theorem letters_of_capitalTexts : ∀ e ∈ capitalTexts, ∀ n ∈ e.2, isLetterOrBeyond (Char.ofNat n) = true := by
  decide +kernel

theorem letters_of_capitalRuns : ∀ r ∈ capitalRuns,
    (r.1 = r.2.1 ∧ isLetterOrBeyond (Char.ofNat ((r.1 : Int) + r.2.2.2).toNat) = true) ∨
      (0x80 ≤ (r.1 : Int) + r.2.2.2 ∧
        ((r.2.1 : Int) + r.2.2.2 < 0xd800 ∨ (0xdfff < (r.1 : Int) + r.2.2.2 ∧ (r.2.1 : Int) + r.2.2.2 < 0x110000))) := by
  decide +kernel

theorem toUpper_ascii : ∀ n < 0x80, (Char.ofNat n).toUpper = Char.ofNat n ∨
    isLetterOrBeyond (Char.ofNat n).toUpper = true := by
  decide +kernel

theorem isLetterOrBeyond_ofNat {n : Nat} (h : 0x80 ≤ n) (hv : n.isValidChar) : isLetterOrBeyond (Char.ofNat n) = true := by
  have hn : (Char.ofNat n).toNat = n := by
    rw [Char.ofNat, dif_pos hv]
    rfl
  rw [isLetterOrBeyond, hn, decide_eq_true h, Bool.or_true]

theorem eq_or_isLetterOrBeyond_of_mem_capital {c x : Char} (h : x ∈ capital c) : x = c ∨ isLetterOrBeyond x = true := by
  unfold capital at h
  dsimp only at h
  split at h
  · next hlt =>
    have hupper := toUpper_ascii c.toNat hlt
    rw [Char.ofNat_toNat] at hupper
    rwa [List.mem_singleton.1 h]
  · split at h
    · next codes hl =>
      obtain ⟨before, after, heq, -⟩ := List.lookup_eq_some_iff.1 hl
      obtain ⟨n, hn, rfl⟩ := List.mem_map.1 h
      exact .inr (letters_of_capitalTexts (c.toNat, codes) (heq ▸ List.mem_append_right _ List.mem_cons_self) n hn)
    · split at h
      · next lo hi step d hr =>
        obtain rfl := List.mem_singleton.1 h
        have hwithin := List.find?_some hr
        simp only [Bool.and_eq_true, decide_eq_true_eq] at hwithin
        obtain ⟨⟨hlo, hhi⟩, -⟩ := hwithin
        right
        rcases letters_of_capitalRuns _ (List.mem_of_find?_eq_some hr) with ⟨hone, hletter⟩ | ⟨hbeyond, hvalid⟩
        · dsimp only at hone hletter
          rwa [show c.toNat = lo by omega]
        · dsimp only at hbeyond hvalid
          refine isLetterOrBeyond_ofNat (by omega) ?_
          unfold Nat.isValidChar
          omega
      · exact .inl (List.mem_singleton.1 h)

/-- An ASCII character that is no letter is in a text in capitals only if it was there before. -/
theorem mem_of_mem_upper {x : Char} (hx : isLetterOrBeyond x = false) {s : String} (h : x ∈ (upper s).toList) :
    x ∈ s.toList := by
  rw [upper, String.toList_ofList, upperChars, List.mem_flatMap] at h
  obtain ⟨c, hc, hmem⟩ := h
  rcases eq_or_isLetterOrBeyond_of_mem_capital hmem with rfl | hletter
  · exact hc
  · cases hx.symm.trans hletter

theorem not_mem_upper {x : Char} (hx : isLetterOrBeyond x = false) (hcapital : x ∉ capital x) (s : String) :
    x ∉ (upper s).toList := by
  intro h
  rw [upper, String.toList_ofList, upperChars, List.mem_flatMap] at h
  obtain ⟨c, hc, hmem⟩ := h
  rcases eq_or_isLetterOrBeyond_of_mem_capital hmem with rfl | hletter
  · exact hcapital hmem
  · cases hx.symm.trans hletter

end JavaStubs.Text
