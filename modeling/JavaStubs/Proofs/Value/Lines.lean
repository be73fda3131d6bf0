import JavaStubs.Proofs.Number.Written
import JavaStubs.Proofs.Value.Reading
import Mathlib.Data.List.Nodup

/-! Values on one line of JSON. Whatever texts a value is made of, the line consists of printable characters, and the
reader gets the value back with its fields in order. -/
namespace JavaStubs

namespace Value

/-- Values of which reports consist: no fractions and no times, and tables in which every key occurs once. -/
inductive Plain : Value → Prop
  | null : Plain .null
  | bool (b : Bool) : Plain (.bool b)
  | int (n : Int) : Plain (.int n)
  | text (s : String) : Plain (.text s)
  | array {items : List Value} (h : ∀ x ∈ items, Plain x) : Plain (.array items)
  | table {fields : List (String × Value)} (h : ∀ f ∈ fields, Plain f.2) (nodup : (fields.map (·.1)).Nodup) :
    Plain (.table fields)

mutual

def sorted : Value → Value
  | .array items => .array (sortedItems items)
  | .table fields => .table (Json.sortFields (sortedFields fields))
  | v => v

def sortedItems : List Value → List Value
  | [] => []
  | v :: vs => sorted v :: sortedItems vs

def sortedFields : List (String × Value) → List (String × Value)
  | [] => []
  | (key, v) :: rest => (key, sorted v) :: sortedFields rest

end

theorem sortedItems_eq (items : List Value) : sortedItems items = items.map sorted := by
  induction items with
  | nil => rfl
  | cons v vs ih => rw [sortedItems, ih, List.map_cons]

theorem sortedFields_eq (fields : List (String × Value)) :
    sortedFields fields = fields.map fun f => (f.1, f.2.sorted) := by
  induction fields with
  | nil => rfl
  | cons f fs ih => rw [sortedFields, ih, List.map_cons]

end Value

namespace Json

theorem mem_sortFields {α : Type} {fields : List (String × α)} {f : String × α} : f ∈ sortFields fields ↔ f ∈ fields :=
  (List.mergeSort_perm _ _).mem_iff

theorem sortFields_map {α β : Type} (g : α → β) (fields : List (String × α)) :
    sortFields (fields.map fun f => (f.1, g f.2)) = (sortFields fields).map fun f => (f.1, g f.2) := by
  unfold sortFields
  rw [List.map_mergeSort]
  intro _ _ _ _
  rfl

section Rendering

variable {v : Value} {depth : Nat}

theorem renderItems_eq (depth : Nat) (items : List Value) :
    renderItems .line depth items = items.map (render .line depth) := by
  induction items with
  | nil => rfl
  | cons v vs ih => rw [renderItems, ih, List.map_cons]

theorem renderFields_eq (depth : Nat) (fields : List (String × Value)) :
    renderFields .line depth fields = fields.map fun f => (f.1, render .line depth f.2) := by
  induction fields with
  | nil => rfl
  | cons f fs ih => rw [renderFields, ih, List.map_cons]

theorem toList_bracket (depth : Nat) (opening closing : String) (entries : List String) :
    (bracket .line depth opening closing entries).toList =
      opening.toList ++ ([',', ' '].intercalate (entries.map String.toList) ++ closing.toList) := by
  cases entries with
  | nil => simp [bracket]
  | cons e es =>
    rw [bracket, String.toList_append, String.toList_append, String.toList_intercalate, List.append_assoc]
    · rfl
    · simp

theorem toList_array (depth : Nat) (items : List Value) : (render .line depth (.array items)).toList =
    '[' :: ([',', ' '].intercalate (items.map fun x => (render .line (depth + 1) x).toList) ++ [']']) := by
  rw [render, toList_bracket, renderItems_eq, List.map_map]
  rfl

def fieldText (depth : Nat) (f : String × Value) : List Char :=
  quotedChars f.1.toList ++ ':' :: ' ' :: (render .line depth f.2).toList

theorem toList_table (depth : Nat) (fields : List (String × Value)) : (render .line depth (.table fields)).toList =
    '\x7b' :: ([',', ' '].intercalate ((sortFields fields).map (fieldText (depth + 1))) ++ ['\x7d']) := by
  have hfield : ∀ f : String × Value,
      (quoted f.1 ++ ": " ++ render .line (depth + 1) f.2).toList = fieldText (depth + 1) f := by
    intro f
    simp [quoted, fieldText]
  rw [render, toList_bracket, renderFields_eq, sortFields_map, List.map_map, List.map_map]
  simp only [Function.comp_def, hfield]
  rfl

def Opens (c : Char) : Prop :=
  c = '"' ∨ c = '[' ∨ c = '\x7b' ∨ isWordChar c = true

theorem Opens.not_blank {c : Char} (h : Opens c) : isBlank c = false := by
  rcases h with rfl | rfl | rfl | h
  · rfl
  · rfl
  · rfl
  · exact not_blank_of_isWordChar h

theorem Opens.ne {c closing : Char} (h : Opens c) (hclosing : closing = ']' ∨ closing = '\x7d') : c ≠ closing := by
  rintro rfl
  rcases hclosing with rfl | rfl <;> revert h <;> unfold Opens <;> decide

theorem opens_of_word {word : List Char} (hne : word ≠ []) (h : ∀ c ∈ word, isWordChar c = true) :
    ∃ c cs, word = c :: cs ∧ Opens c := by
  obtain ⟨c, cs, rfl⟩ := List.exists_cons_of_ne_nil hne
  exact ⟨c, cs, rfl, .inr (.inr (.inr (h c List.mem_cons_self)))⟩

theorem isWordChar_of_mem_toString {n : Int} {c : Char} (h : c ∈ (toString n).toList) : isWordChar c = true := by
  rcases mem_toString h with hdigit | rfl
  · have halnum : c.isAlphanum = true := by rw [Char.isAlphanum, hdigit, Bool.or_true]
    rw [isWordChar, halnum]
    rfl
  · rfl

theorem opens_render (h : v.Plain) (depth : Nat) : ∃ c cs, (render .line depth v).toList = c :: cs ∧ Opens c := by
  cases h with
  | null =>
    rw [render]
    exact opens_of_word (by decide) (List.all_eq_true.1 (by decide))
  | bool b =>
    rw [render]
    cases b <;> exact opens_of_word (by decide) (List.all_eq_true.1 (by decide))
  | int n =>
    rw [render]
    exact opens_of_word (toString_ne_nil n) fun c hc => isWordChar_of_mem_toString hc
  | text s =>
    rw [render]
    exact ⟨'"', _, String.toList_ofList, .inl rfl⟩
  | array => exact ⟨'[', _, toList_array _ _, .inr (.inl rfl)⟩
  | table => exact ⟨'\x7b', _, toList_table _ _, .inr (.inr (.inl rfl))⟩

theorem readValue_blank (fuel : Nat) (cs : List Char) : readValue fuel (' ' :: cs) = readValue fuel cs := by
  cases fuel with
  | zero => rfl
  | succ fuel => rw [readValue, readValue, dropBlanks_blank]

theorem readValue_text (fuel : Nat) (cs : List Char) :
    readValue (fuel + 1) ('"' :: cs) = (readText cs).map fun x => (.text x.1, x.2) :=
  rfl

theorem readValue_array (fuel : Nat) (cs : List Char) : readValue (fuel + 1) ('[' :: cs) =
    (readBracket (readValue fuel) ']' fuel cs).map fun x => (.array x.1, x.2) :=
  rfl

theorem readValue_table {fuel : Nat} {cs rest : List Char} {fields : List (String × Value)}
    (h : readBracket (readField (readValue fuel)) '\x7d' fuel cs = some (fields, rest))
    (nodup : (fields.map (·.1)).Nodup) : readValue (fuel + 1) ('\x7b' :: cs) = some (.table fields, rest) := by
  change (readBracket (readField (readValue fuel)) '\x7d' fuel cs).bind _ = _
  rw [h, Option.bind_some]
  exact if_pos nodup

theorem readField_fieldText {readOne : List Char → Option (Value × List Char)} {key : String} {w : Value}
    {rest : List Char} (hblank : ∀ cs, readOne (' ' :: cs) = readOne cs)
    (h : readOne ((render .line depth v).toList ++ rest) = some (w, rest)) :
    readField readOne (fieldText depth (key, v) ++ rest) = some ((key, w), rest) := by
  rw [fieldText, List.append_assoc, quotedChars_append]
  change (readText _).bind _ = _
  rw [readText_quoted, Option.bind_some, List.cons_append, List.cons_append]
  change (readOne (' ' :: ((render .line depth v).toList ++ rest))).map _ = _
  rw [hblank, h]
  rfl

theorem readValue_items {items : List Value} {fuel : Nat} (hitems : ∀ x ∈ items, x.Plain)
    (hread : ∀ x ∈ items, (render .line (depth + 1) x).toList.length < fuel → ∀ rest, Ends rest →
      readValue fuel ((render .line (depth + 1) x).toList ++ rest) = some (x.sorted, rest))
    (hfuel : (render .line depth (.array items)).toList.length < fuel + 1) (rest : List Char) :
    readValue (fuel + 1) ((render .line depth (.array items)).toList ++ rest) =
      some ((Value.array items).sorted, rest) := by
  rw [toList_array] at hfuel ⊢
  have hbounds := length_intercalate [',', ' '] (by decide) (l := items.map fun x => (render .line (depth + 1) x).toList)
  simp only [List.length_cons, List.length_append, List.length_map, List.length_nil, List.forall_mem_map] at hfuel hbounds
  have heach : ReadsEach (readValue fuel) (fun x => (render .line (depth + 1) x).toList) Value.sorted items := by
    refine ⟨readValue_blank fuel, fun x hx rest hrest => hread x hx ?_ rest hrest⟩
    have hlength := hbounds.2 x hx
    omega
  have hheads : ∀ x ∈ items, ∃ c cs, (render .line (depth + 1) x).toList = c :: cs ∧ isBlank c = false ∧ c ≠ ']' := by
    intro x hx
    obtain ⟨c, cs, hcs, hopens⟩ := opens_render (hitems x hx) (depth + 1)
    exact ⟨c, cs, hcs, hopens.not_blank, hopens.ne (.inl rfl)⟩
  have hclosing : Closes ']' := ⟨by decide, rfl, rfl⟩
  have hcount : items.length ≤ fuel := by omega
  have hbracket := readBracket_intercalate hclosing heach hheads hcount rest
  rw [List.cons_append, List.append_assoc, List.singleton_append, readValue_array, hbracket, Value.sorted,
    Value.sortedItems_eq]
  rfl

theorem readValue_fields {fields : List (String × Value)} {fuel : Nat} (nodup : (fields.map (·.1)).Nodup)
    (hread : ∀ f ∈ fields, (render .line (depth + 1) f.2).toList.length < fuel → ∀ rest, Ends rest →
      readValue fuel ((render .line (depth + 1) f.2).toList ++ rest) = some (f.2.sorted, rest))
    (hfuel : (render .line depth (.table fields)).toList.length < fuel + 1) (rest : List Char) :
    readValue (fuel + 1) ((render .line depth (.table fields)).toList ++ rest) =
      some ((Value.table fields).sorted, rest) := by
  rw [toList_table] at hfuel ⊢
  have hbounds := length_intercalate [',', ' '] (by decide) (l := (sortFields fields).map (fieldText (depth + 1)))
  simp only [List.length_cons, List.length_append, List.length_map, List.length_nil, List.forall_mem_map] at hfuel hbounds
  have heach : ReadsEach (readField (readValue fuel)) (fieldText (depth + 1)) (fun f => (f.1, f.2.sorted))
      (sortFields fields) := by
    refine ⟨fun cs => ?_, fun f hf rest hrest => readField_fieldText (readValue_blank fuel) ?_⟩
    · rw [readField, readField, dropBlanks_blank]
    · refine hread f (mem_sortFields.1 hf) ?_ rest hrest
      have hlength := hbounds.2 f hf
      rw [fieldText, List.length_append, List.length_cons, List.length_cons] at hlength
      omega
  have hclosing : Closes '\x7d' := ⟨by decide, rfl, rfl⟩
  have hcount : (sortFields fields).length ≤ fuel := by omega
  have hbracket := readBracket_intercalate hclosing heach (fun f _ => ⟨'"', _, rfl, rfl, by decide⟩) hcount rest
  have hkeys : (((sortFields fields).map fun f => (f.1, f.2.sorted)).map (·.1)).Nodup := by
    rw [List.map_map]
    exact ((List.mergeSort_perm _ _).map _).nodup_iff.2 nodup
  rw [List.cons_append, List.append_assoc, List.singleton_append, readValue_table hbracket hkeys, Value.sorted,
    Value.sortedFields_eq, sortFields_map]

theorem readValue_render (h : v.Plain) {fuel : Nat} (hfuel : (render .line depth v).toList.length < fuel)
    {rest : List Char} (hrest : Ends rest) :
    readValue fuel ((render .line depth v).toList ++ rest) = some (v.sorted, rest) := by
  -- What is inside of brackets is read with one less of fuel, and it lies one level deeper.
  induction h generalizing depth fuel rest with
  | null =>
    obtain ⟨fuel, rfl⟩ := Nat.exists_eq_add_one_of_ne_zero (Nat.ne_zero_of_lt hfuel)
    rw [render]
    exact readValue_word (by decide) (List.all_eq_true.1 (by decide)) rfl hrest fuel
  | bool b =>
    obtain ⟨fuel, rfl⟩ := Nat.exists_eq_add_one_of_ne_zero (Nat.ne_zero_of_lt hfuel)
    rw [render]
    cases b <;> exact readValue_word (by decide) (List.all_eq_true.1 (by decide)) rfl hrest fuel
  | int n =>
    obtain ⟨fuel, rfl⟩ := Nat.exists_eq_add_one_of_ne_zero (Nat.ne_zero_of_lt hfuel)
    rw [render]
    exact readValue_word (toString_ne_nil n) (fun c hc => isWordChar_of_mem_toString hc) (wordValue?_toString n) hrest fuel
  | text s =>
    obtain ⟨fuel, rfl⟩ := Nat.exists_eq_add_one_of_ne_zero (Nat.ne_zero_of_lt hfuel)
    rw [render, quoted, String.toList_ofList, quotedChars_append, readValue_text, readText_quoted]
    rfl
  | array hitems ih =>
    obtain ⟨fuel, rfl⟩ := Nat.exists_eq_add_one_of_ne_zero (Nat.ne_zero_of_lt hfuel)
    exact readValue_items hitems (fun x hx hlength _ hends => ih x hx hlength hends) hfuel rest
  | table hfields nodup ih =>
    obtain ⟨fuel, rfl⟩ := Nat.exists_eq_add_one_of_ne_zero (Nat.ne_zero_of_lt hfuel)
    exact readValue_fields nodup (fun f hf hlength _ hends => ih f hf hlength hends) hfuel rest

theorem read_json (h : v.Plain) : read (v.json .line) = some v.sorted := by
  have hend : Ends [] := nofun
  have hread := readValue_render h (Nat.lt_succ_self (render .line 0 v).toList.length) hend
  rw [List.append_nil] at hread
  rw [read, Value.json, hread]
  rfl

/-- A character of ASCII that can be seen, or a blank. -/
def Printable (c : Char) : Prop :=
  0x20 ≤ c.toNat ∧ c.toNat < 0x7f

instance : DecidablePred Printable :=
  fun _ => inferInstanceAs (Decidable (_ ∧ _))

theorem printable_of_all {cs : List Char} (h : (cs.all fun c => decide (Printable c)) = true) : ∀ c ∈ cs, Printable c :=
  fun c hc => of_decide_eq_true (List.all_eq_true.1 h c hc)

theorem printable_of_isDigit {c : Char} (h : c.isDigit = true) : Printable c := by
  simp only [Char.isDigit, Bool.and_eq_true, decide_eq_true_eq, UInt32.le_iff_toNat_le] at h
  have hzero : ('0' : Char).val.toNat = 48 := rfl
  have hnine : ('9' : Char).val.toNat = 57 := rfl
  have hc : c.toNat = c.val.toNat := rfl
  exact ⟨by omega, by omega⟩

theorem printable_hexDigits (width n : Nat) : ∀ c ∈ Text.hexDigits width n, Printable c := by
  have hall : ∀ d < 16, Printable (Text.hexDigit d) := by decide
  induction width generalizing n with
  | zero => nofun
  | succ width ih =>
    intro c hc
    rw [Text.hexDigits, List.mem_append, List.mem_singleton] at hc
    rcases hc with hc | rfl
    · exact ih _ c hc
    · have hmod : Text.hexDigit n = Text.hexDigit (n % 16) := by rw [Text.hexDigit, Text.hexDigit, Nat.mod_mod]
      exact hmod ▸ hall _ (Nat.mod_lt _ (by decide))

theorem printable_quotedChar (c : Char) : ∀ d ∈ quotedChar c, Printable d := by
  have hcode : ∀ n, ∀ d ∈ '\\' :: 'u' :: Text.hexDigits 4 n, Printable d := by
    intro n d hd
    rw [List.mem_cons, List.mem_cons] at hd
    rcases hd with rfl | rfl | hd
    · decide
    · decide
    · exact printable_hexDigits 4 n d hd
  unfold quotedChar
  split_ifs with h₁ h₂ h₃ h₄ h₅ h₆ h₇ hshown
  · exact printable_of_all (by decide)
  · exact printable_of_all (by decide)
  · exact printable_of_all (by decide)
  · exact printable_of_all (by decide)
  · exact printable_of_all (by decide)
  · exact printable_of_all (by decide)
  · exact printable_of_all (by decide)
  · intro d hd
    exact List.mem_singleton.1 hd ▸ hshown
  · unfold escapeCode
    split_ifs
    · exact hcode _
    · intro d hd
      exact (List.mem_append.1 hd).elim (hcode _ d) (hcode _ d)

theorem printable_quotedChars (cs : List Char) : ∀ c ∈ quotedChars cs, Printable c := by
  intro c hc
  simp only [quotedChars, List.mem_cons, List.mem_append, List.mem_flatMap, List.not_mem_nil, or_false] at hc
  rcases hc with (rfl | ⟨d, -, hd⟩) | rfl
  · decide
  · exact printable_quotedChar d c hd
  · decide

theorem printable_intercalate {ts : List (List Char)} (h : ∀ t ∈ ts, ∀ c ∈ t, Printable c) :
    ∀ c ∈ [',', ' '].intercalate ts, Printable c := by
  induction ts with
  | nil => nofun
  | cons t ts ih =>
    have hrest := ih fun u hu => h u (List.mem_cons_of_mem _ hu)
    cases ts with
    | nil => simpa using h t List.mem_cons_self
    | cons u us =>
      intro c hc
      rw [List.intercalate_cons_cons, List.mem_append, List.mem_append] at hc
      rcases hc with (hc | hc) | hc
      · exact h t List.mem_cons_self c hc
      · exact printable_of_all (by decide) c hc
      · exact hrest c hc

theorem printable_of_isNumeral {c : Char} (h : Number.IsNumeral c) : Printable c := by
  have hall : ∀ c ∈ ['.', '-', '+', 'e'], Printable c := printable_of_all (by decide)
  exact h.elim printable_of_isDigit (hall c)

theorem printable_real {names : Number.SpecialNames}
    (hnames : ∀ c ∈ names.infinity.toList ++ names.nan.toList, Printable c) (x : Number.Real64) :
    ∀ c ∈ (x.text names).toList, Printable c :=
  fun c hc => (Number.Real64.mem_text hc).elim printable_of_isNumeral fun hname => hnames c (List.mem_append.2 hname)

/-- A line of JSON is made of printable characters, whatever value it shows. -/
theorem printable_render (v : Value) (depth : Nat) : ∀ c ∈ (render .line depth v).toList, Printable c := by
  have hwrap : ∀ {opening closing : Char} {cs : List Char}, Printable opening → Printable closing →
      (∀ c ∈ cs, Printable c) → ∀ c ∈ opening :: (cs ++ [closing]), Printable c := by
    intro opening closing cs hopening hclosing hcs c hc
    rw [List.mem_cons, List.mem_append, List.mem_singleton] at hc
    rcases hc with rfl | hc | rfl
    · exact hopening
    · exact hcs c hc
    · exact hclosing
  induction v using Value.induction generalizing depth with
  | null =>
    rw [render]
    exact printable_of_all (by decide)
  | bool b =>
    rw [render]
    cases b <;> exact printable_of_all (by decide)
  | int n =>
    rw [render]
    intro c hc
    rcases mem_toString hc with hdigit | rfl
    · exact printable_of_isDigit hdigit
    · decide
  | real x =>
    rw [render]
    exact printable_real (printable_of_all (by decide)) x
  | text s =>
    rw [render, quoted, String.toList_ofList]
    exact printable_quotedChars _
  | date | time | dateTime =>
    rw [render, quoted, String.toList_ofList]
    exact printable_quotedChars _
  | array items ih =>
    rw [toList_array]
    refine hwrap (by decide) (by decide) (printable_intercalate ?_)
    intro t ht
    obtain ⟨x, hx, rfl⟩ := List.mem_map.1 ht
    exact ih x hx (depth + 1)
  | table fields ih =>
    rw [toList_table]
    refine hwrap (by decide) (by decide) (printable_intercalate ?_)
    intro t ht c hc
    obtain ⟨f, hf, rfl⟩ := List.mem_map.1 ht
    rw [fieldText, List.mem_append, List.mem_cons, List.mem_cons] at hc
    rcases hc with hc | rfl | rfl | hc
    · exact printable_quotedChars _ c hc
    · decide
    · decide
    · exact ih f (mem_sortFields.1 hf) (depth + 1) c hc

structure Holds (line : String) (v : Value) : Prop where
  printable : ∀ c ∈ line.toList, Printable c
  read : read line = some v

theorem holds_json (h : v.Plain) : Holds (v.json .line) v.sorted :=
  ⟨printable_render v 0, read_json h⟩

end Rendering

end Json

namespace Value

/-- Where keys occur once, looking one up does not depend on the order of the fields. -/
theorem lookup_of_perm {fields fields' : List (String × Value)} (h : fields.Perm fields')
    (nodup : (fields.map (·.1)).Nodup) (key : String) : fields.lookup key = fields'.lookup key := by
  induction h with
  | nil => rfl
  | cons f h ih =>
    rw [List.map_cons, List.nodup_cons] at nodup
    rw [List.lookup_cons, List.lookup_cons, ih nodup.2]
  | swap f g fs =>
    rw [List.map_cons, List.map_cons, List.nodup_cons, List.mem_cons, not_or] at nodup
    rw [List.lookup_cons, List.lookup_cons, List.lookup_cons, List.lookup_cons]
    split
    · next hg =>
      have hf : (key == f.1) = false := by
        rw [beq_iff_eq] at hg
        rw [beq_eq_false_iff_ne, hg]
        exact nodup.1.1
      rw [hf]
    · rfl
  | trans h _ ih ih' => rw [ih nodup, ih' ((h.map _).nodup_iff.1 nodup)]

theorem lookup_map_sorted (fields : List (String × Value)) (key : String) :
    (fields.map fun f => (f.1, f.2.sorted)).lookup key = (fields.lookup key).map sorted := by
  induction fields with
  | nil => rfl
  | cons f fs ih =>
    rw [List.map_cons, List.lookup_cons, List.lookup_cons, ih]
    split <;> rfl

theorem field?_sorted {fields : List (String × Value)} (nodup : (fields.map (·.1)).Nodup) (key : String) :
    (table fields).sorted.field? key = ((table fields).field? key).map sorted := by
  have hperm : (fields.map fun f => (f.1, f.2.sorted)).Perm (Json.sortFields (fields.map fun f => (f.1, f.2.sorted))) :=
    (List.mergeSort_perm _ _).symm
  rw [sorted, sortedFields_eq, field?, field?, ← lookup_map_sorted]
  refine (lookup_of_perm hperm ?_ key).symm
  rwa [List.map_map]

end Value

end JavaStubs
