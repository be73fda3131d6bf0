import JavaStubs.Proofs.Text.Lines
import JavaStubs.Proofs.Value.Lines
import JavaStubs.Value.Shown

/-! Which values are shown on one line. A value in words is, as a text in it is quoted and what could break the line
is escaped; only a text that stands for itself brings its own line breaks along. -/
namespace JavaStubs

namespace Text

variable {s : String}

theorem onOneLine_of_printable (h : ∀ c ∈ s.toList, Json.Printable c) : OnOneLine s :=
  fun hmem => absurd (h _ hmem) (by decide)

theorem onOneLine_ofList {cs : List Char} (h : Number.AreNumerals cs) : OnOneLine (String.ofList cs) := by
  refine onOneLine_of_printable fun c hc => Json.printable_of_isNumeral (h c ?_)
  rwa [String.toList_ofList] at hc

theorem onOneLine_nat (n : Nat) : OnOneLine (toString n) :=
  onOneLine_ofList (Number.areNumerals_toDigits n)

theorem onOneLine_padded (width n : Nat) : OnOneLine (padded width n) :=
  onOneLine_ofList ((Number.areNumerals_zeros _).append (Number.areNumerals_toDigits n))

/-- Numbers of fixed widths, as dates and times are made of them. -/
theorem onOneLine_parts {sep : String} (hsep : OnOneLine sep) (parts : List (Nat × Nat)) :
    OnOneLine (sep.intercalate (parts.map fun p => padded p.1 p.2)) :=
  (onOneLine_intercalate hsep).2 (List.forall_mem_map.2 fun p _ => onOneLine_padded p.1 p.2)

theorem onOneLine_fraction (n : Nat) : OnOneLine (if n = 0 then "" else "." ++ padded 6 n) := by
  split
  · decide
  · exact onOneLine_append.2 ⟨by decide, onOneLine_padded _ _⟩

theorem onOneLine_int (n : Int) : OnOneLine (toString n) := by
  refine onOneLine_of_printable fun c hc => ?_
  rcases Json.mem_toString hc with hdigit | rfl
  · exact Json.printable_of_isDigit hdigit
  · decide

theorem not_break_quotedChar {quote : Char} (hquote : quote ≠ '\n') (c : Char) : '\n' ∉ quotedChar quote c := by
  have hcode : ∀ width n mark, mark ≠ '\n' → '\n' ∉ '\\' :: mark :: hexDigits width n := by
    intro width n mark hmark hmem
    rw [List.mem_cons, List.mem_cons] at hmem
    rcases hmem with hmem | hmem | hmem
    · cases hmem
    · exact hmark hmem.symm
    · exact absurd (Json.printable_hexDigits width n _ hmem) (by decide)
  unfold quotedChar
  split_ifs with hself htab hline hreturn hshown
  · rcases hself with rfl | rfl
    · simp [Ne.symm hquote]
    · decide
  · decide
  · decide
  · decide
  · exact fun hmem => hline (List.mem_singleton.1 hmem).symm
  · unfold escapeCode
    split_ifs
    · exact hcode _ _ _ (by decide)
    · exact hcode _ _ _ (by decide)
    · exact hcode _ _ _ (by decide)

theorem onOneLine_quoted (s : String) : OnOneLine (quoted s) := by
  have hquote : quoteFor s.toList ≠ '\n' := by
    unfold quoteFor
    split <;> decide
  simp only [OnOneLine, quoted, String.toList_ofList, List.mem_append, List.mem_cons, List.mem_flatMap, List.not_mem_nil,
    or_false, not_or, not_exists, not_and]
  exact ⟨⟨hquote.symm, fun c _ => not_break_quotedChar hquote c⟩, hquote.symm⟩

end Text

open Text

theorem onOneLine_callText {name : String} {args : List String} (hname : OnOneLine name) (hargs : ∀ a ∈ args, OnOneLine a) :
    OnOneLine (callText name args) := by
  unfold callText
  simp only [onOneLine_append, onOneLine_intercalate (show OnOneLine ", " by decide)]
  exact ⟨⟨⟨hname, by decide⟩, hargs⟩, by decide⟩

theorem onOneLine_numbers (ns : List Nat) : ∀ a ∈ ns.map toString, OnOneLine a :=
  List.forall_mem_map.2 fun n _ => onOneLine_nat n

theorem onOneLine_offsetText (minutes : Int) : OnOneLine (offsetText minutes) := by
  have hpart : ∀ (label : String) (n : Int), OnOneLine label → ∀ a ∈ (if n = 0 then [] else [label ++ toString n]),
      OnOneLine a := by
    intro label n hlabel a ha
    split at ha
    · cases ha
    · rw [List.mem_singleton.1 ha, onOneLine_append]
      exact ⟨hlabel, onOneLine_int n⟩
  unfold offsetText
  split
  · decide
  · refine onOneLine_callText (by decide) (List.forall_mem_singleton.2 (onOneLine_callText (by decide) ?_))
    exact List.forall_mem_append.2 ⟨hpart "days=" _ (by decide), hpart "seconds=" _ (by decide)⟩

theorem DateTime.onOneLine_shown (t : DateTime) : OnOneLine t.shown := by
  refine onOneLine_callText (by decide) (List.forall_mem_append.2 ⟨onOneLine_numbers _, ?_⟩)
  cases t.offset? with
  | none => nofun
  | some minutes => exact List.forall_mem_singleton.2 (onOneLine_append.2 ⟨by decide, onOneLine_offsetText minutes⟩)

theorem Date.onOneLine_iso (d : Date) : OnOneLine d.iso :=
  onOneLine_parts (by decide) [(4, d.year), (2, d.month), (2, d.day)]

theorem TimeOfDay.onOneLine_iso (t : TimeOfDay) : OnOneLine t.iso := by
  have hclock := onOneLine_parts (show OnOneLine ":" by decide) [(2, t.hour), (2, t.minute), (2, t.second)]
  exact onOneLine_append.2 ⟨hclock, onOneLine_fraction _⟩

theorem DateTime.onOneLine_iso (t : DateTime) : OnOneLine t.iso := by
  have hoffset : ∀ minutes, OnOneLine (isoOffset minutes) := by
    intro minutes
    have hparts := onOneLine_parts (show OnOneLine ":" by decide) [(2, minutes.natAbs / 60), (2, minutes.natAbs % 60)]
    refine onOneLine_append.2 ⟨?_, hparts⟩
    split <;> decide
  unfold iso
  simp only [onOneLine_append]
  refine ⟨⟨⟨t.date.onOneLine_iso, by decide⟩, t.time.onOneLine_iso⟩, ?_⟩
  cases t.offset? with
  | none => decide
  | some minutes => exact hoffset minutes

namespace Value

theorem shownItems_eq (items : List Value) : shownItems items = items.map shown := by
  induction items with
  | nil => rfl
  | cons v vs ih => rw [shownItems, ih, List.map_cons]

theorem shownFields_eq (fields : List (String × Value)) :
    shownFields fields = fields.map fun f => quoted f.1 ++ ": " ++ f.2.shown := by
  induction fields with
  | nil => rfl
  | cons f fs ih => rw [shownFields, ih, List.map_cons]

theorem onOneLine_shown (v : Value) : OnOneLine v.shown := by
  have hbetween : OnOneLine ", " := by decide
  induction v using Value.induction with
  | null => decide
  | bool b => cases b <;> decide
  | int n =>
    rw [shown]
    exact onOneLine_int n
  | real x =>
    rw [shown]
    exact onOneLine_of_printable (Json.printable_real (Json.printable_of_all (by decide)) x)
  | text s =>
    rw [shown]
    exact onOneLine_quoted s
  | date d =>
    rw [shown]
    exact onOneLine_callText (by decide) (onOneLine_numbers _)
  | time t =>
    rw [shown]
    exact onOneLine_callText (by decide) (onOneLine_numbers _)
  | dateTime t =>
    rw [shown]
    exact t.onOneLine_shown
  | array items ih =>
    rw [shown, shownItems_eq, onOneLine_append, onOneLine_append, onOneLine_intercalate hbetween]
    exact ⟨⟨by decide, List.forall_mem_map.2 ih⟩, by decide⟩
  | table fields ih =>
    rw [shown, shownFields_eq, onOneLine_append, onOneLine_append, onOneLine_intercalate hbetween]
    refine ⟨⟨by decide, List.forall_mem_map.2 fun f hf => ?_⟩, by decide⟩
    rw [onOneLine_append, onOneLine_append]
    exact ⟨⟨onOneLine_quoted _, by decide⟩, ih f hf⟩

theorem onOneLine_plain_iff (v : Value) : OnOneLine v.plain ↔ ∀ s ∈ v.text?, OnOneLine s := by
  cases v with
  | text s => simp [plain, text?]
  | date d => exact iff_of_true d.onOneLine_iso nofun
  | time t => exact iff_of_true t.onOneLine_iso nofun
  | dateTime t => exact iff_of_true t.onOneLine_iso nofun
  | _ => exact iff_of_true (onOneLine_shown _) nofun

theorem onOneLine_json (v : Value) : OnOneLine (v.json .line) :=
  onOneLine_of_printable (Json.printable_render v 0)

end Value

end JavaStubs
