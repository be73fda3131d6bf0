import JavaStubs.CommandLine.Arguments

/-! Which commands arguments can name: one of the program, with one of its own below `config`. -/
namespace JavaStubs.CommandLine

variable {c : Command} {a a' : Arguments}

theorem applyValue_cases {s : Switch} {f : Field} {choices : List String} {value : String}
    (h : applyValue c a s f choices value = .ok a') : a' = a.give f value := by
  unfold applyValue at h
  split at h
  · exact (Except.ok.inj h).symm
  · cases h

theorem applyPlain_cases {s : Switch} (h : applyPlain c a s = .ok a') :
    ∃ f, a' = a.give f "" ∧ (s.effect = .mark f ∨ ∃ choices, s.effect = .take f choices) := by
  unfold applyPlain at h
  split at h
  · cases h
  · cases h
  · next f choices heffect => exact ⟨f, (Except.ok.inj h).symm, .inr ⟨choices, heffect⟩⟩
  · next f heffect =>
    split at h
    · cases h
    · exact ⟨f, (Except.ok.inj h).symm, .inl heffect⟩

/-- An option that is accepted takes its argument, which is in its own word or the next one, or is noted as given. -/
theorem applyOption_cases {hit : Hit} {rest rest' : List Token} (h : applyOption c a hit rest = .ok (a', rest')) :
    (∃ f choices value, hit.switch.effect = .take f choices ∧ a' = a.give f value ∧
        (hit.rest? = some value ∧ rest' = rest ∨ hit.rest? = none ∧ rest = .plain value :: rest')) ∨
      ∃ f, hit.switch.effect = .mark f ∧ a' = a.give f "" ∧ rest' = rest ∧
        (hit.rest? = none ∨ Text.startsWith hit.name "--" = false) := by
  have hmap : ∀ {x : Except Halt Arguments} {ts : List Token}, x.map (·, ts) = .ok (a', rest') →
      x = .ok a' ∧ rest' = ts := by
    intro x ts hx
    cases x with
    | error e => cases hx
    | ok v =>
      cases hx
      exact ⟨rfl, rfl⟩
  unfold applyOption at h
  split at h
  · next f choices value heffect hrest =>
    obtain ⟨hvalue, rfl⟩ := hmap h
    exact .inl ⟨f, choices, value, heffect, applyValue_cases hvalue, .inl ⟨hrest, rfl⟩⟩
  · next f choices heffect hrest =>
    split at h
    · next value _ =>
      obtain ⟨hvalue, rfl⟩ := hmap h
      exact .inl ⟨f, choices, value, heffect, applyValue_cases hvalue, .inr ⟨hrest, rfl⟩⟩
    · cases h
  · next hrest hnot =>
    obtain ⟨hplain, rfl⟩ := hmap h
    obtain ⟨f, rfl, heffect | ⟨choices, heffect⟩⟩ := applyPlain_cases hplain
    · exact .inr ⟨f, heffect, rfl, rfl, .inl hrest⟩
    · exact absurd heffect (hnot f choices)
  · next hnot =>
    dsimp only at h
    split at h
    · cases h
    · next hunused =>
      obtain ⟨hplain, rfl⟩ := hmap h
      obtain ⟨f, rfl, heffect | ⟨choices, heffect⟩⟩ := applyPlain_cases hplain
      · refine .inr ⟨f, heffect, rfl, rfl, .inr ?_⟩
        cases hlong : Text.startsWith hit.name "--" with
        | false => rfl
        | true =>
          rw [hlong] at hunused
          cases hunused
      · exact absurd heffect (hnot f choices)

theorem commands_of_applyOption {hit : Hit} {rest rest' : List Token} (h : applyOption c a hit rest = .ok (a', rest')) :
    a'.commands = a.commands := by
  obtain ⟨f, _, value, -, rfl, -⟩ | ⟨f, -, rfl, -, -⟩ := applyOption_cases h
  · rfl
  · rfl

theorem commands_of_read {ts : List Token} {words : List String} (h : read c a ts = .ok (a', words)) :
    a'.commands = a.commands := by
  fun_induction read c a ts <;> grind [commands_of_applyOption, Arguments.addExtra, Arguments.give]

def Command.IsLeaf (c : Command) : Prop :=
  ∀ label choices, c.positional ≠ .command label choices

/-- What reading accepted arguments comes to: a command without commands of its own has read all of them, and another one
has handed what stands behind the name of a command to that command. -/
theorem parse_cases {args : List String} (h : parse c args = .ok a) :
    ∃ ts a₀ words, tokens c args = .ok ts ∧ read c {} ts = .ok (a₀, words) ∧
      (c.IsLeaf ∧ a = a₀ ∨
        ∃ label choices word sub rest b, c.positional = .command label choices ∧ words = word :: rest ∧
          choices.lookup word = some sub ∧ parse sub rest = .ok b ∧ a = a₀.absorb sub b) := by
  rw [parse] at h
  split at h
  · cases h
  next ts htokens =>
  split at h
  · cases h
  next a₀ words hread =>
  refine ⟨ts, a₀, words, htokens, hread, ?_⟩
  -- Left are: no word for a command that needs one, a word, and a command that has none of its own.
  split at h
  · cases h
  · rename_i label choices word rest _ hpositional
    split at h
    · cases h
    · rename_i sub hlookup
      cases hsub : parse sub rest with
      | error e =>
        rw [hsub] at h
        cases h
      | ok b =>
        rw [hsub] at h
        cases h
        exact .inr ⟨label, choices, word, sub, rest, b, hpositional, rfl, hlookup, hsub, rfl⟩
  · rename_i rest _ _ _ hempty hmore
    cases h
    refine .inl ⟨fun label choices hpositional => ?_, rfl⟩
    cases rest with
    | nil => exact hempty label choices hread hpositional rfl (proof_irrel_heq _ _)
    | cons word words' => exact hmore label choices word words' hread hpositional rfl (proof_irrel_heq _ _)

/-- How arguments are accepted: a command without commands of its own reads them all, and another one reads them up to the
name of a command that accepts the words behind it. -/
inductive Accepts : Command → List String → Arguments → Prop
  | all {c args ts a words} : c.IsLeaf → tokens c args = .ok ts → read c {} ts = .ok (a, words) → Accepts c args a
  | down {c args ts a word rest label choices sub b} : tokens c args = .ok ts → read c {} ts = .ok (a, word :: rest) →
      c.positional = .command label choices → choices.lookup word = some sub → Accepts sub rest b →
      Accepts c args (a.absorb sub b)

theorem accepts_of_parse {c : Command} {args : List String} {a : Arguments} (h : parse c args = .ok a) :
    Accepts c args a := by
  obtain ⟨ts, a₀, words, htokens, hread, ⟨hleaf, rfl⟩ | ⟨label, choices, word, sub, rest, b, hpositional, rfl, hlookup,
    hsub, rfl⟩⟩ := parse_cases h
  · exact .all hleaf htokens hread
  · exact .down htokens hread hpositional hlookup (accepts_of_parse hsub)
termination_by args.length
decreasing_by
  have := length_tokens htokens
  have := length_read hread
  simp only [List.length_cons] at this
  omega

/-- A command that has commands of its own names one of them, and another command names none. -/
theorem commands_of_parse {args : List String} (h : parse c args = .ok a) :
    (c.IsLeaf ∧ a.commands = []) ∨
      ∃ label choices word sub words b, c.positional = .command label choices ∧ choices.lookup word = some sub ∧
        parse sub words = .ok b ∧ a.commands = sub :: b.commands := by
  obtain ⟨ts, a₀, words, -, hread, ⟨hleaf, rfl⟩ | ⟨label, choices, word, sub, rest, b, hpositional, -, hlookup, hsub,
    rfl⟩⟩ := parse_cases h
  · exact .inl ⟨hleaf, commands_of_read hread⟩
  · exact .inr ⟨label, choices, word, sub, rest, b, hpositional, hlookup, hsub, rfl⟩

theorem commands_of_parse_leaf {args : List String} (hleaf : c.IsLeaf)
    (h : parse c args = .ok a) : a.commands = [] := by
  obtain ⟨-, hnone⟩ | ⟨label, choices, _, _, _, _, hpositional, -⟩ := commands_of_parse h
  · exact hnone
  · exact absurd hpositional (hleaf label choices)

theorem pair_mem_of_lookup {β : Type} {pairs : List (String × β)} {key : String} {value : β}
    (h : pairs.lookup key = some value) : (key, value) ∈ pairs := by
  obtain ⟨before, after, rfl, -⟩ := List.lookup_eq_some_iff.mp h
  simp

theorem mem_of_lookup {choices : List (String × Command)} {word : String} {sub : Command}
    (h : choices.lookup word = some sub) : sub ∈ choices.map (·.2) :=
  List.mem_map_of_mem (f := (·.2)) (pair_mem_of_lookup h)

theorem commands_of_parse_config {args : List String} (h : parse .config args = .ok a) :
    a.commands = [.dump] ∨ a.commands = [.validate] := by
  obtain ⟨hno, -⟩ | ⟨label, choices, word, sub, words, b, hpositional, hlookup, hsub, hcommands⟩ := commands_of_parse h
  · exact absurd rfl (hno _ _)
  cases hpositional
  have hmem : sub = .dump ∨ sub = .validate := by simpa using mem_of_lookup hlookup
  rw [hcommands]
  rcases hmem with rfl | rfl
  · exact .inl (by rw [commands_of_parse_leaf (by rintro _ _ ⟨⟩) hsub])
  · exact .inr (by rw [commands_of_parse_leaf (by rintro _ _ ⟨⟩) hsub])

def performable : List (List Command) :=
  [[.version], [.generate], [.scan], [.normalize], [.config, .dump], [.config, .validate]]

/-- Accepted arguments name a command that can be performed. -/
theorem commands_of_parseAll {args : List String} (h : parseAll args = .ok a) : a.commands ∈ performable := by
  unfold parseAll at h
  split at h
  · cases h
  split at h
  case isFalse => cases h
  cases h
  rename_i hparse _
  obtain ⟨hno, -⟩ | ⟨label, choices, word, sub, words, b, hpositional, hlookup, hsub, hcommands⟩ :=
    commands_of_parse hparse
  · exact absurd rfl (hno _ _)
  cases hpositional
  have hmem : sub = .version ∨ sub = .generate ∨ sub = .scan ∨ sub = .normalize ∨ sub = .config := by
    simpa using mem_of_lookup hlookup
  rw [hcommands]
  by_cases hconfig : sub = .config
  · subst hconfig
    obtain hb | hb := commands_of_parse_config hsub <;> simp [hb, performable]
  · have hleaf : b.commands = [] := by
      rcases hmem with rfl | rfl | rfl | rfl | rfl
      · exact commands_of_parse_leaf (by rintro _ _ ⟨⟩) hsub
      · exact commands_of_parse_leaf (by rintro _ _ ⟨⟩) hsub
      · exact commands_of_parse_leaf (by rintro _ _ ⟨⟩) hsub
      · exact commands_of_parse_leaf (by rintro _ _ ⟨⟩) hsub
      · exact absurd rfl hconfig
    rw [hleaf]
    rcases hmem with rfl | rfl | rfl | rfl | rfl <;> simp [performable] at hconfig ⊢

end JavaStubs.CommandLine
