import JavaStubs.Proofs.Charset.RoundTrip

/-! A file that could be read block after block has the text that its bytes have together, wherever the blocks end. -/
namespace JavaStubs.Charset

/-- A reader needs no byte behind a character to tell it. -/
def Prompt (step : UInt8 → List UInt8 → Step) : Prop :=
  ∀ b rest c more, step b rest = .char c more → more ≤ rest.length ∧ Reads step c (b :: rest.take more)

section

variable {step : UInt8 → List UInt8 → Step} {codec : String} {final : Bool} {cs cs' : List Char}
variable {bytes bytes' waiting : List UInt8} {position : Nat}

theorem Written.append (h : Written step cs bytes) (h' : Written step cs' bytes') :
    Written step (cs ++ cs') (bytes ++ bytes') := by
  induction h with
  | nil => exact h'
  | cons hreads _ ih =>
    rw [List.append_assoc, List.cons_append]
    exact .cons hreads ih

/-- What was read of some bytes is what they begin with, and the other bytes wait. -/
theorem Prompt.written_of_decodeBy (hstep : Prompt step)
    (h : decodeBy step codec final position bytes = .ok (cs, waiting)) :
    (∃ read, bytes = read ++ waiting ∧ Written step cs read) ∧ (final = true → waiting = []) := by
  fun_induction decodeBy step codec final position bytes generalizing cs with
  | case1 =>
    cases h
    exact ⟨⟨[], rfl, .nil⟩, fun _ => rfl⟩
  | case2 position b rest c more hchar cs₁ waiting₁ hrest ih =>
    cases h
    have ⟨⟨read, hread, hwritten⟩, hfinal⟩ := ih hrest
    have ⟨_, hreads⟩ := hstep b rest c more hchar
    refine ⟨⟨(b :: rest.take more) ++ read, ?_, .cons hreads hwritten⟩, hfinal⟩
    rw [List.append_assoc, ← hread, List.cons_append, List.take_append_drop]
  | case3 => cases h
  | case4 => cases h
  | case5 => cases h
  | case6 position b rest reason hshort hfinal =>
    cases h
    exact ⟨⟨[], rfl, .nil⟩, fun htrue => absurd htrue hfinal⟩

/-- Bytes can be read to their end just if they are those of characters. -/
theorem Prompt.decoded_iff (hstep : Prompt step) (codec : String) (position : Nat) (next : Charset) :
    ((Charset.decodeBy step codec true position bytes).map fun (cs, waiting) => (cs, waiting, next)).map (·.1) =
      .ok cs ↔ Written step cs bytes := by
  constructor
  · intro h
    cases hread : Charset.decodeBy step codec true position bytes with
    | error e =>
      rw [hread] at h
      cases h
    | ok result =>
      have ⟨⟨read, hbytes, hwritten⟩, hwaiting⟩ := hstep.written_of_decodeBy hread
      rw [hread] at h
      cases h
      rw [hwaiting rfl, List.append_nil] at hbytes
      rw [hbytes]
      exact hwritten
  · intro h
    exact h.decoded codec position next

end

theorem prompt_utf8 : Prompt utf8Step := by
  intro b rest c more h
  unfold utf8Step at h
  simp only [UInt8.lt_iff_toNat_lt, UInt8.reduceToNat] at h
  split at h
  · next hone =>
    cases h
    exact ⟨Nat.zero_le _, b, [], rfl, fun _ => utf8Step_one hone⟩
  split at h
  · cases h
  · next hvalid =>
    split at h
    · next htwo =>
      split at h
      · cases h
      · next b₁ rest =>
        split at h
        · next h₁ =>
          cases h
          exact ⟨by simp, b, [b₁], rfl, fun _ => utf8Step_two (by omega) htwo h₁⟩
        · cases h
    split at h
    · next hthree =>
      split at h
      · cases h
      · next b₁ rest =>
        split at h
        · cases h
        · next h₁ =>
          rw [Bool.not_eq_true', Bool.not_eq_false] at h₁
          split at h
          · cases h
          · next b₂ rest =>
            split at h
            · next h₂ =>
              cases h
              exact ⟨by simp, b, [b₁, b₂], rfl, fun _ => utf8Step_three (by omega) hthree h₁ h₂⟩
            · cases h
    · split at h
      · cases h
      · next b₁ rest =>
        split at h
        · cases h
        · next h₁ =>
          rw [Bool.not_eq_true', Bool.not_eq_false] at h₁
          split at h
          · cases h
          · next b₂ rest =>
            split at h
            · cases h
            · next h₂ =>
              rw [Bool.not_eq_true', Bool.not_eq_false] at h₂
              split at h
              · cases h
              · next b₃ rest =>
                split at h
                · next h₃ =>
                  cases h
                  exact ⟨by simp, b, [b₁, b₂, b₃], rfl, fun _ => utf8Step_four (by omega) (by omega) h₁ h₂ h₃⟩
                · cases h

theorem prompt_utf16 (little : Bool) : Prompt (utf16Step little) := by
  intro b rest c more h
  unfold utf16Step at h
  split at h
  · cases h
  · next b₁ rest =>
    dsimp only at h
    split at h
    · next hone =>
      cases h
      refine ⟨by simp, b, [b₁], rfl, fun rest => ?_⟩
      unfold utf16Step
      exact if_pos hone
    · next hone =>
      split at h
      · cases h
      · next htwo =>
        split at h
        · next b₂ b₃ rest =>
          by_cases hlow : 0xdc00 ≤ unit little b₂ b₃ ∧ unit little b₂ b₃ ≤ 0xdfff
          · rw [if_pos hlow] at h
            injection h with hc hmore
            subst hc hmore
            refine ⟨by simp, b, [b₁, b₂, b₃], rfl, fun rest => ?_⟩
            unfold utf16Step
            exact (if_neg hone).trans ((if_neg htwo).trans (if_pos hlow))
          · rw [if_neg hlow] at h
            cases h
        · cases h

theorem prompt_low (limit : Nat) (reason : String) : Prompt (lowStep limit reason) := by
  intro b rest c more h
  rw [lowStep] at h
  split at h
  · next hb =>
    cases h
    exact ⟨Nat.zero_le _, b, [], rfl, fun _ => if_pos hb⟩
  · cases h

theorem prompt_shiftJis : Prompt shiftJisStep := by
  intro b rest c more h
  unfold shiftJisStep at h
  dsimp only at h
  split_ifs at h with hascii hhalf hother
  · cases h
    exact ⟨Nat.zero_le _, b, [], rfl, fun _ => if_pos hascii⟩
  · injection h with hc hmore
    subst hc hmore
    exact ⟨Nat.zero_le _, b, [], rfl, fun _ => (if_neg hascii).trans (if_pos hhalf)⟩
  · cases rest with
    | nil => cases h
    | cons b₁ rest =>
      dsimp only at h
      cases hchar : tableChar? b.toNat b₁.toNat with
      | none =>
        rw [hchar] at h
        cases h
      | some c' =>
        rw [hchar] at h
        cases h
        refine ⟨by simp, b, [b₁], rfl, fun rest => ?_⟩
        unfold shiftJisStep
        dsimp only [List.singleton_append]
        rw [if_neg hascii, if_neg hhalf, if_neg hother, hchar]
        rfl

theorem prompt_windows : Prompt windowsStep := by
  intro b rest c more h
  have hmore : more = 0 := by
    rw [windowsStep] at h
    split at h
    · cases h
      rfl
    · split at h
      · cases h
        rfl
      · cases h
  subst hmore
  exact ⟨Nat.zero_le _, b, [], rfl, fun _ => h⟩

section

variable {step : UInt8 → List UInt8 → Step} {codec : String} {charset next next' : Charset} {cs cs' : List Char}
variable {bytes waiting ext : List UInt8} {position : Nat}

/-- A block whose waiting bytes are read on with what follows is read on as a whole. -/
theorem Prompt.written_append (hstep : Prompt step)
    (hblock : (decodeBy step codec false position bytes).map (fun (cs, waiting) => (cs, waiting, next')) =
      .ok (cs, waiting, next))
    (hrest : next = next' → Written step cs' (waiting ++ ext)) : Written step (cs ++ cs') (bytes ++ ext) := by
  cases hread : decodeBy step codec false position bytes with
  | error e =>
    rw [hread] at hblock
    cases hblock
  | ok result =>
    have ⟨⟨read, hbytes, hwritten⟩, _⟩ := hstep.written_of_decodeBy hread
    rw [hread] at hblock
    cases hblock
    rw [hbytes, List.append_assoc]
    exact hwritten.append (hrest rfl)

theorem decodeAll_utf8 : utf8.decodeAll bytes = .ok cs ↔ Written utf8Step cs bytes :=
  prompt_utf8.decoded_iff "utf-8" 0 utf8

theorem decodeAll_utf16Little : utf16Little.decodeAll bytes = .ok cs ↔ Written (utf16Step true) cs bytes :=
  (prompt_utf16 true).decoded_iff (utf16Codec true) 0 utf16Little

theorem decodeAll_utf16Big : utf16Big.decodeAll bytes = .ok cs ↔ Written (utf16Step false) cs bytes :=
  (prompt_utf16 false).decoded_iff (utf16Codec false) 0 utf16Big

theorem decodeAll_latin1 : latin1.decodeAll bytes = .ok cs ↔ Written (lowStep 0x100 "") cs bytes :=
  (prompt_low _ _).decoded_iff "latin-1" 0 latin1

theorem decodeAll_ascii :
    ascii.decodeAll bytes = .ok cs ↔ Written (lowStep 0x80 "ordinal not in range(128)") cs bytes :=
  (prompt_low _ _).decoded_iff "ascii" 0 ascii

theorem decodeAll_shiftJis : shiftJis.decodeAll bytes = .ok cs ↔ Written shiftJisStep cs bytes :=
  prompt_shiftJis.decoded_iff "shift_jis" 0 shiftJis

theorem decodeAll_windows1252 : windows1252.decodeAll bytes = .ok cs ↔ Written windowsStep cs bytes :=
  prompt_windows.decoded_iff "charmap" 0 windows1252

theorem decodeAll_utf8Marked (hlong : ¬(bytes.length < 3 ∧ bytes.isPrefixOf utf8Mark = true)) :
    utf8Marked.decodeAll bytes = utf8.decodeAll (bytes.drop (if utf8Mark.isPrefixOf bytes then 3 else 0)) := by
  rw [decodeAll, decodeBlock]
  dsimp only
  rw [if_neg hlong]
  rfl

/-- Whether there is a mark can be told from a block that is no part of a mark. -/
theorem mark_isPrefixOf_append (hlong : ¬(bytes.length < 3 ∧ bytes.isPrefixOf utf8Mark = true)) :
    utf8Mark.isPrefixOf (bytes ++ ext) = utf8Mark.isPrefixOf bytes := by
  rw [Bool.eq_iff_iff, List.isPrefixOf_iff_prefix, List.isPrefixOf_iff_prefix]
  rw [List.isPrefixOf_iff_prefix] at hlong
  have hmark : utf8Mark.length = 3 := rfl
  constructor
  · intro h
    by_cases hlength : bytes.length < 3
    · have hshort := List.prefix_of_prefix_length_le (List.prefix_append bytes ext) h (by omega)
      exact absurd ⟨hlength, hshort⟩ hlong
    · exact List.prefix_of_prefix_length_le h (List.prefix_append bytes ext) (by omega)
  · intro h
    exact h.trans (List.prefix_append bytes ext)

theorem decodeAll_append_of_utf8Marked (h : utf8Marked.decodeBlock false bytes = .ok (cs, waiting, next))
    (hrest : next.decodeAll (waiting ++ ext) = .ok cs') : utf8Marked.decodeAll (bytes ++ ext) = .ok (cs ++ cs') := by
  rw [decodeBlock] at h
  dsimp only at h
  by_cases hlong : bytes.length < 3 ∧ bytes.isPrefixOf utf8Mark = true
  · -- the mark is not whole yet, and all bytes wait
    rw [if_pos hlong] at h
    cases h
    exact hrest
  · rw [if_neg hlong] at h
    have hlong' : ¬((bytes ++ ext).length < 3 ∧ (bytes ++ ext).isPrefixOf utf8Mark = true) := by
      rintro ⟨hlength, hprefix⟩
      rw [List.isPrefixOf_iff_prefix] at hlong hprefix
      rw [List.length_append] at hlength
      exact hlong ⟨by omega, (List.prefix_append bytes ext).trans hprefix⟩
    have hskip : (if utf8Mark.isPrefixOf bytes then 3 else 0) ≤ bytes.length := by
      split
      · next hmark => exact (List.isPrefixOf_iff_prefix.mp hmark).length_le
      · exact Nat.zero_le _
    rw [decodeAll_utf8Marked hlong', mark_isPrefixOf_append hlong, List.drop_append_of_le_length hskip, decodeAll_utf8]
    exact prompt_utf8.written_append h fun hnext => decodeAll_utf8.mp (hnext ▸ hrest)

theorem eq_nil_of_written_utf16 {little : Bool} (h : Written (utf16Step little) cs bytes) (hshort : bytes.length < 2) :
    cs = [] ∧ bytes = [] := by
  cases h with
  | nil => exact ⟨rfl, rfl⟩
  | cons hreads _ =>
    have ⟨b, more, hbytes, hstep⟩ := hreads
    subst hbytes
    cases more with
    | nil =>
      have hnone := hstep []
      cases hnone
    | cons b₁ more =>
      simp only [List.cons_append, List.length_cons] at hshort
      omega

theorem decodeAll_append_of_utf16 (h : utf16.decodeBlock false bytes = .ok (cs, waiting, next))
    (hrest : next.decodeAll (waiting ++ ext) = .ok cs') : utf16.decodeAll (bytes ++ ext) = .ok (cs ++ cs') := by
  unfold decodeBlock at h
  dsimp only at h
  split at h
  · next tail =>
    have hwritten := (prompt_utf16 true).written_append h fun hnext => decodeAll_utf16Little.mp (hnext ▸ hrest)
    exact hwritten.decoded (utf16Codec true) 2 utf16Little
  · next tail =>
    have hwritten := (prompt_utf16 false).written_append h fun hnext => decodeAll_utf16Big.mp (hnext ▸ hrest)
    exact hwritten.decoded (utf16Codec false) 2 utf16Big
  · -- without a mark nothing was read, or else that is an error
    split at h
    · next cs₁ waiting₁ next₁ hplain =>
      split at h
      · cases h
      · next hshort =>
        cases h
        cases hread : decodeBy (utf16Step true) (utf16Codec true) false 0 bytes with
        | error e =>
          rw [List.drop_zero, hread] at hplain
          cases hplain
        | ok result =>
          have ⟨⟨read, hbytes, hwritten⟩, _⟩ := (prompt_utf16 true).written_of_decodeBy hread
          rw [List.drop_zero, hread] at hplain
          cases hplain
          have hlength : read.length < 2 := by
            rw [hbytes, List.length_append] at hshort
            omega
          have ⟨hcs, hnil⟩ := eq_nil_of_written_utf16 hwritten hlength
          rw [hbytes, hnil, hcs]
          exact hrest
    · cases h

/-- If a block was read, and its waiting bytes with what follows have a text, all of the bytes have a text. -/
theorem decodeAll_append (h : charset.decodeBlock false bytes = .ok (cs, waiting, next))
    (hrest : next.decodeAll (waiting ++ ext) = .ok cs') : charset.decodeAll (bytes ++ ext) = .ok (cs ++ cs') := by
  cases charset with
  | utf8 =>
    rw [decodeAll_utf8]
    exact prompt_utf8.written_append h fun hnext => decodeAll_utf8.mp (hnext ▸ hrest)
  | utf8Marked => exact decodeAll_append_of_utf8Marked h hrest
  | utf16 => exact decodeAll_append_of_utf16 h hrest
  | utf16Little =>
    rw [decodeAll_utf16Little]
    exact (prompt_utf16 true).written_append h fun hnext => decodeAll_utf16Little.mp (hnext ▸ hrest)
  | utf16Big =>
    rw [decodeAll_utf16Big]
    exact (prompt_utf16 false).written_append h fun hnext => decodeAll_utf16Big.mp (hnext ▸ hrest)
  | latin1 =>
    rw [decodeAll_latin1]
    exact (prompt_low _ _).written_append h fun hnext => decodeAll_latin1.mp (hnext ▸ hrest)
  | ascii =>
    rw [decodeAll_ascii]
    exact (prompt_low _ _).written_append h fun hnext => decodeAll_ascii.mp (hnext ▸ hrest)
  | windows1252 =>
    rw [decodeAll_windows1252]
    exact prompt_windows.written_append h fun hnext => decodeAll_windows1252.mp (hnext ▸ hrest)
  | shiftJis =>
    rw [decodeAll_shiftJis]
    exact prompt_shiftJis.written_append h fun hnext => decodeAll_shiftJis.mp (hnext ▸ hrest)

theorem decodeAll_of_decodeBlocks {blocks : List (List UInt8)} (h : charset.decodeBlocks waiting blocks = .ok cs) :
    charset.decodeAll (waiting ++ blocks.flatten) = .ok cs := by
  induction blocks generalizing charset waiting cs with
  | nil => simpa [decodeBlocks] using h
  | cons block blocks ih =>
    rw [decodeBlocks] at h
    cases hblock : charset.decodeBlock false (waiting ++ block) with
    | error e =>
      rw [hblock] at h
      cases h
    | ok result =>
      rw [hblock] at h
      dsimp only at h
      cases hrest : result.2.2.decodeBlocks result.2.1 blocks with
      | error e =>
        rw [hrest] at h
        cases h
      | ok read =>
        rw [hrest] at h
        cases h
        rw [List.flatten_cons, ← List.append_assoc]
        exact decodeAll_append hblock (ih hrest)

theorem flatten_blocks (bytes : List UInt8) : (blocks bytes).flatten = bytes := by
  fun_induction blocks bytes with
  | case1 bytes hempty => simpa using hempty.symm
  | case2 bytes hne ih => rw [List.flatten_cons, ih, List.take_append_drop]

theorem decodeAll_of_decodeFile (h : charset.decodeFile bytes = .ok cs) : charset.decodeAll bytes = .ok cs := by
  have hall := decodeAll_of_decodeBlocks h
  rwa [List.nil_append, flatten_blocks] at hall

end

end JavaStubs.Charset
