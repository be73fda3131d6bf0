import JavaStubs.Proofs.Config.Reading

/-! Which encoding a configuration settles on: the one asked for last on the command line, else the one of the
sources, else the one of the project. -/
namespace JavaStubs.Config

variable {c : Config} {os : List Override} {v : Value}

theorem nonEmpty?_ne_empty (s? : Option String) : nonEmpty? s? ≠ some "" := by
  intro h
  unfold nonEmpty? at h
  split at h
  · cases h
  · next hne => exact hne h

theorem nonEmpty?_of_ne {s? : Option String} (h : s? ≠ some "") : nonEmpty? s? = s? := by
  unfold nonEmpty?
  split
  · exact absurd rfl h
  · rfl

/-- The last encoding that some overrides ask for. An empty one asks for nothing. -/
def lastEncoding? (os : List Override) : Option String :=
  (os.filterMap fun o => nonEmpty? o.sourceEncoding).getLast?

def askedEncoding? (v : Value) (os : List Override) : Option String :=
  (lastEncoding? os).orElse fun _ => (textAt "source-encoding" v).orElse fun _ => textAt "project-encoding" v

theorem orElse_ne_empty {a b : Option String} (ha : a ≠ some "") (hb : b ≠ some "") : (a.orElse fun _ => b) ≠ some "" := by
  cases a with
  | none => exact hb
  | some e => exact ha

theorem encodings_override (c : Config) (o : Override) :
    (c.override o).sourceEncoding = ((nonEmpty? o.sourceEncoding).orElse fun _ => c.sourceEncoding) ∧
      (c.override o).projectEncoding = c.projectEncoding := by
  unfold override
  cases nonEmpty? o.sourceEncoding <;> cases nonEmpty? o.outputDirectory <;> cases o.scope <;> exact ⟨rfl, rfl⟩

theorem lastEncoding?_cons (o : Override) (os : List Override) :
    lastEncoding? (o :: os) = (lastEncoding? os).orElse fun _ => nonEmpty? o.sourceEncoding := by
  unfold lastEncoding?
  rw [List.filterMap_cons]
  cases nonEmpty? o.sourceEncoding with
  | none => cases (os.filterMap fun o => nonEmpty? o.sourceEncoding).getLast? <;> rfl
  | some e =>
    dsimp only
    rw [List.getLast?_cons]
    cases (os.filterMap fun o => nonEmpty? o.sourceEncoding).getLast? <;> rfl

/-- Overrides one after the other put the last encoding that they ask for in the place of the configured one. -/
theorem encodings_foldl (c : Config) (os : List Override) :
    (os.foldl override c).sourceEncoding = ((lastEncoding? os).orElse fun _ => c.sourceEncoding) ∧
      (os.foldl override c).projectEncoding = c.projectEncoding := by
  induction os generalizing c with
  | nil => exact ⟨rfl, rfl⟩
  | cons o os ih =>
    obtain ⟨hsource, hproject⟩ := encodings_override c o
    obtain ⟨hsources, hprojects⟩ := ih (c.override o)
    rw [List.foldl_cons, hsources, hprojects, hsource, hproject, lastEncoding?_cons]
    refine ⟨?_, rfl⟩
    cases lastEncoding? os <;> rfl

theorem lastEncoding?_ne_empty (os : List Override) : lastEncoding? os ≠ some "" := by
  intro h
  obtain ⟨o, -, ho⟩ := List.mem_filterMap.1 (List.mem_of_getLast? h)
  exact nonEmpty?_ne_empty _ ho

theorem textAt_ne_empty {key : String} (h : At key FilledText v) : textAt key v ≠ some "" := by
  intro heq
  unfold textAt at heq
  obtain ⟨x, hx, htext⟩ := Option.bind_eq_some_iff.1 heq
  obtain ⟨s, rfl, hs⟩ := h x hx
  exact hs (Option.some.inj htext)

/-- A configuration settles on what was asked for, and it reads and writes in UTF-8 if nothing was. -/
theorem encoding_of_parse {origin : String} (h : parse v origin = .ok c) (os : List Override) :
    (os.foldl override c).effectiveEncoding = askedEncoding? v os ∧
      (os.foldl override c).readEncoding = (askedEncoding? v os).getD "utf-8" := by
  have hdocumented : Documented v := documented_of_parse h
  obtain rfl : ofValue v origin = c := Except.ok.inj ((parse_of_documented hdocumented origin).symm.trans h)
  have hsource : (os.foldl override (ofValue v origin)).sourceEncoding =
      ((lastEncoding? os).orElse fun _ => textAt "source-encoding" v) := (encodings_foldl _ os).1
  have hproject : (os.foldl override (ofValue v origin)).projectEncoding = textAt "project-encoding" v :=
    (encodings_foldl _ os).2
  have hkey : textAt "source-encoding" v ≠ some "" := textAt_ne_empty hdocumented.sourceEncoding
  have hasked : askedEncoding? v os ≠ some "" :=
    orElse_ne_empty (lastEncoding?_ne_empty os) (orElse_ne_empty hkey (textAt_ne_empty hdocumented.projectEncoding))
  have heffective : (os.foldl override (ofValue v origin)).effectiveEncoding = askedEncoding? v os := by
    rw [effectiveEncoding, hsource, hproject, nonEmpty?_of_ne (orElse_ne_empty (lastEncoding?_ne_empty os) hkey)]
    unfold askedEncoding?
    cases lastEncoding? os <;> rfl
  refine ⟨heffective, ?_⟩
  rw [readEncoding, heffective, nonEmpty?_of_ne hasked]
  rfl

end JavaStubs.Config
