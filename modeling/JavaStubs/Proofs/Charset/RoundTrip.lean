import JavaStubs.Charset.Decode
import Mathlib.Tactic.SplitIfs

/-! Text that was written in a character set is read back as it was. A reader that takes each character from its
bytes, whatever stands behind them, reads whole texts. -/
namespace JavaStubs.Charset

theorem toNat_byte {n : Nat} (h : n < 0x100) : (byte n).toNat = n := by
  rw [byte, UInt8.toNat_ofNat']
  exact Nat.mod_eq_of_lt h

/-- A reader takes the character from the beginning of all bytes that begin so. -/
def Reads (step : UInt8 → List UInt8 → Step) (c : Char) (bytes : List UInt8) : Prop :=
  ∃ b more, bytes = b :: more ∧ ∀ rest, step b (more ++ rest) = .char c more.length

/-- Bytes from which a reader takes one character of a text after the other. -/
inductive Written (step : UInt8 → List UInt8 → Step) : List Char → List UInt8 → Prop
  | nil : Written step [] []
  | cons {c cs bytes rest} : Reads step c bytes → Written step cs rest → Written step (c :: cs) (bytes ++ rest)

section

variable {step : UInt8 → List UInt8 → Step} {codec : String} {final : Bool} {cs : List Char} {bytes : List UInt8}

theorem Written.decodeBy (h : Written step cs bytes) (position : Nat) :
    decodeBy step codec final position bytes = .ok (cs, []) := by
  induction h generalizing position with
  | nil => rw [Charset.decodeBy]
  | @cons c cs bytes rest hreads _ ih =>
    obtain ⟨b, more, rfl, hstep⟩ := hreads
    rw [List.cons_append, Charset.decodeBy, hstep]
    dsimp only
    rw [List.drop_left, ih]

theorem written_flatMap {encode : Char → List UInt8} (h : ∀ c, Reads step c (encode c)) (cs : List Char) :
    Written step cs (cs.flatMap encode) := by
  induction cs with
  | nil => exact .nil
  | cons c cs ih => exact .cons (h c) ih

theorem written_of_encode {set : PartialSet} (h : ∀ c ∈ cs, ∀ bytes, set.bytes? c = some bytes → Reads step c bytes)
    {position : Nat} (hbytes : set.encode position cs = .ok bytes) : Written step cs bytes := by
  induction cs generalizing position bytes with
  | nil =>
    cases hbytes
    exact .nil
  | cons c cs ih =>
    rw [PartialSet.encode] at hbytes
    cases hfirst : set.bytes? c with
    | none =>
      rw [hfirst] at hbytes
      cases hbytes
    | some first =>
      rw [hfirst] at hbytes
      cases hrest : set.encode (position + 1) cs with
      | error e =>
        rw [hrest] at hbytes
        cases hbytes
      | ok rest =>
        rw [hrest] at hbytes
        cases hbytes
        have hreads : Reads step c first := h c List.mem_cons_self first hfirst
        exact .cons hreads (ih (fun c hc => h c (List.mem_cons_of_mem _ hc)) hrest)

theorem reads_one {byte? : Char → Option UInt8} (h : ∀ c b, byte? c = some b → ∀ rest, step b rest = .char c 0)
    (c : Char) (hbytes : (byte? c).map ([·]) = some bytes) : Reads step c bytes := by
  have ⟨b, hb, heq⟩ := Option.map_eq_some_iff.mp hbytes
  subst heq
  exact ⟨b, [], rfl, h c b hb⟩

end

section

variable {b b₁ b₂ b₃ : UInt8} {rest : List UInt8}

theorem isContinuation_iff : isContinuation b = true ↔ 0x80 ≤ b.toNat ∧ b.toNat < 0xc0 := by
  simp [isContinuation, UInt8.le_iff_toNat_le, UInt8.lt_iff_toNat_lt]

theorem isSecond_iff : isSecond b b₁ = true ↔ isContinuation b₁ = true ∧ (b.toNat = 0xe0 → 0xa0 ≤ b₁.toNat) ∧
    (b.toNat = 0xed → b₁.toNat < 0xa0) ∧ (b.toNat = 0xf0 → 0x90 ≤ b₁.toNat) ∧ (b.toNat = 0xf4 → b₁.toNat < 0x90) := by
  simp [isSecond, UInt8.le_iff_toNat_le, UInt8.lt_iff_toNat_lt, ← UInt8.toNat_inj, and_assoc, Decidable.imp_iff_not_or]

theorem utf8Step_one (h : b.toNat < 0x80) : utf8Step b rest = .char (Char.ofNat b.toNat) 0 :=
  if_pos (UInt8.lt_iff_toNat_lt.mpr h)

theorem utf8Step_two (hlow : 0xc2 ≤ b.toNat) (hhigh : b.toNat < 0xe0) (h₁ : isContinuation b₁ = true) :
    utf8Step b (b₁ :: rest) = .char (charOfBits [b.toNat % 0x20, low6 b₁]) 1 := by
  unfold utf8Step
  simp only [UInt8.lt_iff_toNat_lt, UInt8.reduceToNat]
  rw [if_neg (by omega), if_neg (by omega), if_pos hhigh, if_pos h₁]

theorem utf8Step_three (hlow : 0xe0 ≤ b.toNat) (hhigh : b.toNat < 0xf0) (h₁ : isSecond b b₁ = true)
    (h₂ : isContinuation b₂ = true) :
    utf8Step b (b₁ :: b₂ :: rest) = .char (charOfBits [b.toNat % 0x10, low6 b₁, low6 b₂]) 2 := by
  unfold utf8Step
  simp only [UInt8.lt_iff_toNat_lt, UInt8.reduceToNat, h₁, h₂]
  rw [if_neg (by omega), if_neg (by omega), if_neg (by omega), if_pos hhigh]
  rfl

theorem utf8Step_four (hlow : 0xf0 ≤ b.toNat) (hhigh : b.toNat ≤ 0xf4) (h₁ : isSecond b b₁ = true)
    (h₂ : isContinuation b₂ = true) (h₃ : isContinuation b₃ = true) :
    utf8Step b (b₁ :: b₂ :: b₃ :: rest) = .char (charOfBits [b.toNat % 0x8, low6 b₁, low6 b₂, low6 b₃]) 3 := by
  unfold utf8Step
  simp only [UInt8.lt_iff_toNat_lt, UInt8.reduceToNat, h₁, h₂, h₃]
  rw [if_neg (by omega), if_neg (by omega), if_neg (by omega), if_neg (by omega)]
  rfl

end

theorem isContinuation_byte {n : Nat} (h : n < 0x40) : isContinuation (byte (0x80 + n)) = true := by
  rw [isContinuation_iff, toNat_byte (by omega)]
  omega

theorem low6_byte {n : Nat} (h : n < 0x40) : low6 (byte (0x80 + n)) = n := by
  rw [low6, toNat_byte (by omega)]
  omega

theorem reads_utf8 (c : Char) : Reads utf8Step c (utf8Bytes c) := by
  have hbounds := toNat_bounds c
  unfold utf8Bytes
  dsimp only
  split_ifs with hone htwo hthree
  · refine ⟨_, [], rfl, fun rest => ?_⟩
    have hb : (byte c.toNat).toNat = c.toNat := toNat_byte (by omega)
    rw [utf8Step_one (by omega), hb, Char.ofNat_toNat]
    rfl
  · refine ⟨_, [_], rfl, fun rest => ?_⟩
    have hb : (byte (0xc0 + c.toNat / 0x40)).toNat = 0xc0 + c.toNat / 0x40 := toNat_byte (by omega)
    have hbits : ((0xc0 + c.toNat / 0x40) % 0x20) * 0x40 + c.toNat % 0x40 = c.toNat := by omega
    rw [List.singleton_append, utf8Step_two (by omega) (by omega) (isContinuation_byte (by omega)), hb,
      low6_byte (by omega)]
    simp only [charOfBits, List.foldl_cons, List.foldl_nil, Nat.zero_mul, Nat.zero_add, hbits, Char.ofNat_toNat]
    rfl
  · refine ⟨_, [_, _], rfl, fun rest => ?_⟩
    have hb : (byte (0xe0 + c.toNat / 0x1000)).toNat = 0xe0 + c.toNat / 0x1000 := toNat_byte (by omega)
    have hb₁ : (byte (0x80 + c.toNat / 0x40 % 0x40)).toNat = 0x80 + c.toNat / 0x40 % 0x40 := toNat_byte (by omega)
    have hsecond : isSecond (byte (0xe0 + c.toNat / 0x1000)) (byte (0x80 + c.toNat / 0x40 % 0x40)) = true := by
      rw [isSecond_iff, hb, hb₁]
      exact ⟨isContinuation_byte (by omega), by omega, by omega, by omega, by omega⟩
    have hbits : ((0xe0 + c.toNat / 0x1000) % 0x10 * 0x40 + c.toNat / 0x40 % 0x40) * 0x40 + c.toNat % 0x40 = c.toNat := by
      omega
    rw [List.cons_append, List.singleton_append,
      utf8Step_three (by omega) (by omega) hsecond (isContinuation_byte (by omega)), hb, low6_byte (by omega),
      low6_byte (by omega)]
    simp only [charOfBits, List.foldl_cons, List.foldl_nil, Nat.zero_mul, Nat.zero_add, hbits, Char.ofNat_toNat]
    rfl
  · refine ⟨_, [_, _, _], rfl, fun rest => ?_⟩
    have hb : (byte (0xf0 + c.toNat / 0x40000)).toNat = 0xf0 + c.toNat / 0x40000 := toNat_byte (by omega)
    have hb₁ : (byte (0x80 + c.toNat / 0x1000 % 0x40)).toNat = 0x80 + c.toNat / 0x1000 % 0x40 := toNat_byte (by omega)
    have hsecond : isSecond (byte (0xf0 + c.toNat / 0x40000)) (byte (0x80 + c.toNat / 0x1000 % 0x40)) = true := by
      rw [isSecond_iff, hb, hb₁]
      exact ⟨isContinuation_byte (by omega), by omega, by omega, by omega, by omega⟩
    have hbits : (((0xf0 + c.toNat / 0x40000) % 0x8 * 0x40 + c.toNat / 0x1000 % 0x40) * 0x40 + c.toNat / 0x40 % 0x40) *
        0x40 + c.toNat % 0x40 = c.toNat := by
      omega
    rw [List.cons_append, List.cons_append, List.singleton_append,
      utf8Step_four (by omega) (by omega) hsecond (isContinuation_byte (by omega)) (isContinuation_byte (by omega)), hb,
      low6_byte (by omega), low6_byte (by omega), low6_byte (by omega)]
    simp only [charOfBits, List.foldl_cons, List.foldl_nil, Nat.zero_mul, Nat.zero_add, hbits, Char.ofNat_toNat]
    rfl

theorem unit_of_unitBytes (little : Bool) {u : Nat} (h : u < 0x10000) :
    ∃ a b, unitBytes little u = [a, b] ∧ unit little a b = u := by
  have hlow : (byte (u % 0x100)).toNat = u % 0x100 := toNat_byte (by omega)
  have hhigh : (byte (u / 0x100)).toNat = u / 0x100 := toNat_byte (by omega)
  cases little with
  | true =>
    refine ⟨_, _, rfl, ?_⟩
    rw [unit, if_pos rfl, hlow, hhigh]
    omega
  | false =>
    refine ⟨_, _, rfl, ?_⟩
    rw [unit, if_neg Bool.false_ne_true, hlow, hhigh]
    omega

theorem reads_utf16 (little : Bool) (c : Char) : Reads (utf16Step little) c (utf16Bytes little c) := by
  have hbounds := toNat_bounds c
  by_cases hsmall : c.toNat < 0x10000
  · have ⟨a, b, hbytes, hunit⟩ := unit_of_unitBytes little hsmall
    refine ⟨a, [b], by simp [utf16Bytes, utf16Units_of_lt hsmall, hbytes], fun rest => ?_⟩
    unfold utf16Step
    rw [List.singleton_append]
    dsimp only
    rw [hunit, if_pos (by omega), Char.ofNat_toNat]
    rfl
  · have ⟨a, b, hbytes, hunit⟩ := unit_of_unitBytes little
      (show 0xd800 + (c.toNat - 0x10000) / 0x400 < 0x10000 by omega)
    have ⟨a', b', hbytes', hunit'⟩ := unit_of_unitBytes little
      (show 0xdc00 + (c.toNat - 0x10000) % 0x400 < 0x10000 by omega)
    refine ⟨a, [b, a', b'], by simp [utf16Bytes, utf16Units_of_le hsmall, hbytes, hbytes'], fun rest => ?_⟩
    have hcode : 0x10000 + (0xd800 + (c.toNat - 0x10000) / 0x400 - 0xd800) * 0x400 +
        (0xdc00 + (c.toNat - 0x10000) % 0x400 - 0xdc00) = c.toNat := by
      omega
    unfold utf16Step
    rw [List.cons_append, List.cons_append, List.singleton_append]
    dsimp only
    rw [hunit, hunit', if_neg (by omega), if_neg (by omega), if_pos (by omega), hcode, Char.ofNat_toNat]
    rfl

theorem lowStep_of_lowByte? {limit : Nat} (hlimit : limit ≤ 0x100) (reason : String) {c : Char} {b : UInt8}
    (h : lowByte? limit c = some b) (rest : List UInt8) : lowStep limit reason b rest = .char c 0 := by
  rw [lowByte?] at h
  split at h
  · next hlt =>
    cases h
    rw [lowStep, toNat_byte (by omega), if_pos hlt, Char.ofNat_toNat]
  · cases h

theorem windowsExtras_lookup : ∀ row ∈ windowsExtras, 0x80 ≤ row.1 ∧ row.1 < 0xa0 ∧
    windowsExtras.lookup row.1 = some row.2 := by
  decide

theorem windowsStep_of_windowsByte? {c : Char} {b : UInt8} (h : windowsByte? c = some b) (rest : List UInt8) :
    windowsStep b rest = .char c 0 := by
  rw [windowsByte?] at h
  split at h
  · next hrange =>
    cases h
    rw [windowsStep, toNat_byte (by omega), if_pos (by omega), Char.ofNat_toNat]
  · have ⟨row, hrow, hb⟩ := Option.map_eq_some_iff.mp h
    have hcode : row.2 = c.toNat := by simpa using List.find?_some hrow
    have ⟨hlow, hhigh, hlookup⟩ := windowsExtras_lookup row (List.mem_of_find?_eq_some hrow)
    subst hb
    rw [windowsStep, toNat_byte (by omega), if_neg (by omega), hlookup, hcode]
    dsimp only
    rw [Char.ofNat_toNat]

theorem tableBytes_eq {place : Nat} (h : place < 42 * 188) : ∃ b b₁, tableBytes place = [b, b₁] ∧
    (0x81 ≤ b.toNat ∧ b.toNat < 0xa0 ∨ 0xe0 ≤ b.toNat ∧ b.toNat < 0xeb) ∧
    tableChar? b.toNat b₁.toNat = (jisTable[place]?).filter (· ≠ ' ') := by
  refine ⟨_, _, rfl, ?_⟩
  have hfirst : (byte (if place / 188 < 31 then 0x81 + place / 188 else 0xc1 + place / 188)).toNat =
      if place / 188 < 31 then 0x81 + place / 188 else 0xc1 + place / 188 := toNat_byte (by split <;> omega)
  have hsecond : (byte (if place % 188 < 63 then 0x40 + place % 188 else 0x41 + place % 188)).toNat =
      if place % 188 < 63 then 0x40 + place % 188 else 0x41 + place % 188 := toNat_byte (by split <;> omega)
  rw [hfirst, hsecond]
  refine ⟨by split <;> omega, ?_⟩
  unfold tableChar?
  rw [if_neg (by split <;> omega)]
  dsimp only
  congr 2
  split_ifs <;> omega

/-- Shift JIS reads a character from its bytes, but for the two that share theirs with characters of ASCII. -/
theorem reads_shiftJis {c : Char} (hyen : c ≠ '¥') (hline : c ≠ '‾') {bytes : List UInt8}
    (h : shiftJisBytes? c = some bytes) : Reads shiftJisStep c bytes := by
  unfold shiftJisBytes? at h
  dsimp only at h
  split_ifs at h with hascii hyen' hline' hhalf
  · cases h
    refine ⟨_, [], rfl, fun rest => ?_⟩
    unfold shiftJisStep
    rw [toNat_byte (by omega)]
    dsimp only
    rw [if_pos hascii, Char.ofNat_toNat]
    rfl
  · exact absurd (Char.toNat_inj.mp hyen') hyen
  · exact absurd (Char.toNat_inj.mp hline') hline
  · cases h
    refine ⟨_, [], rfl, fun rest => ?_⟩
    have hback : c.toNat - 0xff61 + 0xa1 - 0xa1 + 0xff61 = c.toNat := by omega
    unfold shiftJisStep
    rw [toNat_byte (by omega)]
    dsimp only
    rw [if_neg (by omega), if_pos (by omega), hback, Char.ofNat_toNat]
    rfl
  · have ⟨place, hplace, heq⟩ := Option.map_eq_some_iff.mp h
    have ⟨hlt, hthere, _⟩ := List.idxOf?_eq_some_iff.mp hplace
    have hlength : jisTable.length ≤ 42 * 188 := List.length_take_le _ _
    have ⟨b, b₁, hbytes, hrange, hchar⟩ := tableBytes_eq (show place < 42 * 188 by omega)
    have hspace : c ≠ ' ' := by
      intro hsame
      rw [hsame] at hascii
      exact hascii (by decide)
    rw [List.getElem?_eq_getElem hlt, hthere, Option.filter_some, if_pos (by simpa using hspace)] at hchar
    rw [← heq, hbytes]
    refine ⟨b, [b₁], rfl, fun rest => ?_⟩
    unfold shiftJisStep
    dsimp only
    rw [if_neg (by omega), if_neg (by omega), if_neg (by omega)]
    dsimp only [List.singleton_append]
    rw [hchar]
    rfl

section

variable {cs : List Char} {bytes : List UInt8}

/-- A character set gives a text back if it has bytes of its own for each character. Shift JIS has none for two of them. -/
def GivesBack (charset : Charset) (cs : List Char) : Prop :=
  charset = .shiftJis → '¥' ∉ cs ∧ '‾' ∉ cs

/-- Text of which all characters were written is what comes of reading it to its end. -/
theorem Written.decoded {step : UInt8 → List UInt8 → Step} (h : Written step cs bytes) (codec : String)
    (position : Nat) (next : Charset) :
    ((Charset.decodeBy step codec true position bytes).map fun (cs, waiting) => (cs, waiting, next)).map (·.1) =
      .ok cs := by
  rw [h.decodeBy]
  rfl

/-- What a character set makes of a text that it gives back, it reads as that text. -/
theorem decodeAll_of_encodeChars {charset : Charset} (hback : charset.GivesBack cs) (h : charset.encodeChars cs = .ok bytes) :
    charset.decodeAll bytes = .ok cs := by
  cases charset with
  | utf8 =>
    cases h
    exact (written_flatMap reads_utf8 cs).decoded "utf-8" 0 utf8
  | utf8Marked =>
    cases h
    have hmark : utf8Mark.isPrefixOf (utf8Mark ++ cs.flatMap utf8Bytes) = true := by simp [utf8Mark]
    have hlong : ¬((utf8Mark ++ cs.flatMap utf8Bytes).length < 3 ∧
        (utf8Mark ++ cs.flatMap utf8Bytes).isPrefixOf utf8Mark = true) := by
      simp only [utf8Mark, List.cons_append, List.length_cons]
      omega
    rw [decodeAll, decodeBlock]
    dsimp only
    rw [if_neg hlong, if_pos hmark]
    exact (written_flatMap reads_utf8 cs).decoded "utf-8" 0 utf8
  | utf16 =>
    cases h
    exact (written_flatMap (reads_utf16 true) cs).decoded (utf16Codec true) 2 utf16Little
  | utf16Little =>
    cases h
    exact (written_flatMap (reads_utf16 true) cs).decoded (utf16Codec true) 0 utf16Little
  | utf16Big =>
    cases h
    exact (written_flatMap (reads_utf16 false) cs).decoded (utf16Codec false) 0 utf16Big
  | latin1 =>
    have hwritten := written_of_encode (fun c _ _ => reads_one (fun _ _ => lowStep_of_lowByte? (Nat.le_refl _) "") c) h
    exact hwritten.decoded "latin-1" 0 latin1
  | ascii =>
    have hwritten := written_of_encode (fun c _ _ => reads_one (fun _ _ => lowStep_of_lowByte? (by decide) "ordinal not in range(128)") c) h
    exact hwritten.decoded "ascii" 0 ascii
  | windows1252 =>
    have hwritten := written_of_encode (fun c _ _ => reads_one (fun _ _ => windowsStep_of_windowsByte?) c) h
    exact hwritten.decoded "charmap" 0 windows1252
  | shiftJis =>
    have ⟨hyen, hline⟩ := hback rfl
    have hreads : ∀ c ∈ cs, ∀ bytes, shiftJisBytes? c = some bytes → Reads shiftJisStep c bytes :=
      fun c hc bytes => reads_shiftJis (fun heq => hyen (heq ▸ hc)) (fun heq => hline (heq ▸ hc))
    have hwritten := written_of_encode hreads h
    exact hwritten.decoded "shift_jis" 0 shiftJis

theorem named_of_named {writing : Bool} {name : String} {charset : Charset} (h : named writing name = .ok charset)
    (writing' : Bool) : named writing' name = .ok charset := by
  unfold named at h ⊢
  split at h
  · cases h
  · next hnul =>
    rw [if_neg hnul]
    split at h
    · exact h
    · split at h <;> cases h

/-- What was written in a named character set is read back in it, if it is given back. -/
theorem exists_decodeAll_of_encodeAs {name text : String} (h : encodeAs name text = .ok bytes) :
    ∃ charset, named false name = .ok charset ∧
      (charset.GivesBack text.toList → charset.decodeAll bytes = .ok text.toList) := by
  unfold encodeAs at h
  split at h
  · next charset hnamed =>
    exact ⟨charset, named_of_named hnamed false, fun hback => decodeAll_of_encodeChars hback h⟩
  · cases h

end

end JavaStubs.Charset
