import JavaStubs.Proofs.Run.Outcomes
import JavaStubs.Proofs.Value.OnOneLine

/-! What a log event adds to the standard error. In JSON it is one line whatever the event says. In words it is one
line exactly if none of the texts that it is made of has a line break. -/
namespace JavaStubs

open Text

theorem Moment.onOneLine_iso (m : Moment) : OnOneLine m.iso := by
  have hdate := onOneLine_parts (show OnOneLine "-" by decide) [(4, m.year), (2, m.month), (2, m.day)]
  have htime := onOneLine_parts (show OnOneLine ":" by decide) [(2, m.hour), (2, m.minute), (2, m.second)]
  unfold iso
  simp only [onOneLine_append]
  exact ⟨⟨⟨⟨hdate, by decide⟩, htime⟩, onOneLine_fraction _⟩, by decide⟩

namespace Log

theorem Level.word_ofWord (word : String) : (ofWord word).word = word := by
  unfold ofWord
  split_ifs with hdebug hinfo
  · exact hdebug.symm
  · exact hinfo.symm
  · rfl

/-- The settings keep events of this level back. -/
def Withheld (s : Settings) (word : String) : Prop :=
  word = "debug" ∧ s.verbose = false ∨ word = "info" ∧ s.quiet = true

theorem isShown_iff {s : Settings} {word : String} : isShown s (.ofWord word) = true ↔ ¬Withheld s word := by
  unfold Level.ofWord Withheld
  split_ifs with hdebug hinfo
  · simp [isShown, hdebug]
  · simp [isShown, hinfo]
  · simp [isShown, hdebug, hinfo]

/-- The texts of which an event is made: the name of the run, the level, the component, the action, and of each field the
key, and the value if it is a text. -/
def Event.texts (e : Event) (s : Settings) : List String :=
  [s.runId, e.level.word, e.component, e.action] ++ e.fields.flatMap fun f => f.1 :: f.2.text?.toList

theorem Event.forall_texts_iff {e : Event} {s : Settings} {P : String → Prop} : (∀ t ∈ e.texts s, P t) ↔
    (P s.runId ∧ P e.level.word ∧ P e.component ∧ P e.action) ∧ ∀ f ∈ e.fields, P f.1 ∧ ∀ t ∈ f.2.text?, P t := by
  unfold texts
  rw [List.forall_mem_append, List.forall_mem_flatMap]
  refine and_congr (by simp) (forall₂_congr fun f _ => ?_)
  rw [List.forall_mem_cons]
  simp

theorem onOneLine_extras_iff (fields : List (String × Value)) :
    OnOneLine (" ".intercalate ((Json.sortFields fields).map fun (k, v) => k ++ "=" ++ v.plain)) ↔
      ∀ f ∈ fields, OnOneLine f.1 ∧ ∀ t ∈ f.2.text?, OnOneLine t := by
  rw [onOneLine_intercalate (by decide), List.forall_mem_map]
  have hfield : ∀ f : String × Value, OnOneLine (f.1 ++ "=" ++ f.2.plain) ↔
      OnOneLine f.1 ∧ ∀ t ∈ f.2.text?, OnOneLine t := by
    intro f
    rw [onOneLine_append, onOneLine_append, Value.onOneLine_plain_iff]
    exact and_congr_left fun _ => and_iff_left (by decide)
  refine ⟨fun h f hf => (hfield f).1 (h f ?_), fun h f hf => (hfield f).2 (h f ?_)⟩
  · exact Json.mem_sortFields.2 hf
  · exact Json.mem_sortFields.1 hf

theorem onOneLine_time {fields : List (String × Value)} (h : ∀ f ∈ fields, ∀ t ∈ f.2.text?, OnOneLine t) (moment : Moment) :
    OnOneLine (((fields.lookup "ts").map Value.plain).getD moment.iso) := by
  cases hgiven : fields.lookup "ts" with
  | none => exact moment.onOneLine_iso
  | some v =>
    obtain ⟨before, after, rfl, -⟩ := List.lookup_eq_some_iff.1 hgiven
    exact v.onOneLine_plain_iff.2 (h ("ts", v) (List.mem_append_right _ List.mem_cons_self))

theorem Event.onOneLine_text_iff (e : Event) (s : Settings) (moment : Moment) :
    OnOneLine (e.text s moment) ↔ ∀ t ∈ e.texts s, OnOneLine t := by
  have hjoined : ∀ core extras : String, OnOneLine (if extras = "" then core else core ++ " " ++ extras) ↔
      OnOneLine core ∧ OnOneLine extras := by
    intro core extras
    split_ifs with hnone
    · rw [hnone]
      exact (and_iff_left (by decide)).symm
    · rw [onOneLine_append, onOneLine_append]
      exact and_congr_left fun _ => and_iff_left (by decide)
  have hcore : ∀ ts : String, OnOneLine ("ts=" ++ ts ++ " level=" ++ e.level.word ++ " run_id=" ++ s.runId ++
      " component=" ++ e.component ++ " action=" ++ e.action) ↔
        OnOneLine ts ∧ OnOneLine s.runId ∧ OnOneLine e.level.word ∧ OnOneLine e.component ∧ OnOneLine e.action := by
    intro ts
    obtain ⟨hts, hlevel, hrun, hcomponent, haction⟩ : OnOneLine "ts=" ∧ OnOneLine " level=" ∧ OnOneLine " run_id=" ∧
        OnOneLine " component=" ∧ OnOneLine " action=" := by decide
    simp only [onOneLine_append, hts, hlevel, hrun, hcomponent, haction, true_and, and_true, and_assoc]
    tauto
  rw [forall_texts_iff, ← onOneLine_extras_iff]
  refine (hjoined _ _).trans (and_congr_left fun hextras => ?_)
  refine (hcore _).trans (and_iff_right ?_)
  exact onOneLine_time (fun f hf => ((onOneLine_extras_iff e.fields).1 hextras f hf).2) moment

theorem Event.onOneLine_line_iff (e : Event) (s : Settings) (moment : Moment) :
    ∃ line, e.line s moment = line ++ "\n" ∧ (OnOneLine line ↔ s.logJson = true ∨ ∀ t ∈ e.texts s, OnOneLine t) := by
  refine ⟨_, rfl, ?_⟩
  split_ifs with hjson
  · exact iff_of_true (Value.onOneLine_json _) (.inl hjson)
  · rw [e.onOneLine_text_iff s moment]
    exact (or_iff_right hjson).symm

/-- What an event adds to the standard error ends in a line break. In JSON there is no other, and in words there is none
exactly if no text of the event has one. Events of a level that is withheld add nothing. -/
theorem write_lines (s : Settings) (word component action : String) (fields : List (String × Value)) (w : World) :
    ∃ log, (write s ⟨.ofWord word, component, action, fields⟩).runFrom w =
        (.ok (), { w with stderr := w.stderr ++ log }) ∧
      (Withheld s word → log = "") ∧
      (¬Withheld s word → ∃ line, log = line ++ "\n" ∧ (OnOneLine line ↔ s.logJson = true ∨
        ∀ t ∈ s.runId :: word :: component :: action :: fields.flatMap fun f => f.1 :: f.2.text?.toList, OnOneLine t)) := by
  unfold write
  by_cases hshown : isShown s (.ofWord word) = true
  · have hlet : ¬Withheld s word := isShown_iff.1 hshown
    obtain ⟨line, hline, hiff⟩ := Event.onOneLine_line_iff ⟨.ofWord word, component, action, fields⟩ s w.moment
    rw [if_pos hshown]
    refine ⟨line ++ "\n", ?_, fun hheld => absurd hheld hlet, fun _ => ⟨line, rfl, ?_⟩⟩
    · rw [← hline]
      rfl
    · rw [hiff, Event.texts, Level.word_ofWord]
      rfl
  · have hheld : Withheld s word := not_not.1 (mt isShown_iff.2 hshown)
    rw [if_neg hshown]
    refine ⟨"", ?_, fun _ => rfl, fun hlet => absurd hheld hlet⟩
    rw [String.append_empty]
    rfl

/-- A field with a line break in its value breaks an event in words. -/
theorem event_may_break : ¬∀ (s : Settings) (word component action : String) (fields : List (String × Value)) (w : World),
    ¬Withheld s word → ∃ line, (write s ⟨.ofWord word, component, action, fields⟩).runFrom w =
      (.ok (), { w with stderr := w.stderr ++ (line ++ "\n") }) ∧ OnOneLine line := by
  intro hall
  let s : Settings := { runId := "r1", root := default }
  let e : Event := ⟨.ofWord "info", "c", "a", [("path", .text "a\nb")]⟩
  have hlet : ¬Withheld s "info" := by
    rintro (⟨hdebug, -⟩ | ⟨-, hquiet⟩)
    · exact absurd hdebug (by decide)
    · exact absurd hquiet (by decide)
  obtain ⟨line, hrun, hline⟩ := hall s "info" "c" "a" [("path", .text "a\nb")] default hlet
  obtain ⟨line', hshown, hiff⟩ := e.onOneLine_line_iff s (default : World).moment
  have herr : "" ++ e.line s (default : World).moment = "" ++ (line ++ "\n") := congrArg (fun r => r.2.stderr) hrun
  have hsame : line' = line := by
    rw [hshown, String.empty_append, String.empty_append] at herr
    exact String.append_left_inj "\n" |>.1 herr
  rcases hiff.1 (hsame ▸ hline) with hjson | htexts
  · exact absurd hjson (by decide)
  · exact absurd (htexts "a\nb" (by simp [Event.texts, e, Value.text?])) (by decide)

end Log

end JavaStubs
