import Mathlib.Data.List.Basic
import Mathlib.Tactic.Tauto
import JavaStubs.Proofs.CommandLine.Commands

/-! How words are read: before the first `--` as options of the command that reads them, or else as arguments, and
otherwise handed to another command. -/
namespace JavaStubs.CommandLine

def Effect.field? : Effect → Option Field
  | mark f | take f _ => some f
  | help | version => none

section Words

variable {c : Command} {text : String} {hit : Hit}

theorem splitEquals_of_none {start : String} (h : splitEquals text = (start, none)) : start = text := by
  unfold splitEquals at h
  dsimp only at h
  split at h
  · exact (congrArg Prod.fst h).symm
  · cases h

theorem mem_candidates {names : List (String × Switch)} (h : hit ∈ candidates names text) :
    (hit.name, hit.switch) ∈ names ∧ (hit.rest? = none → Text.startsWith hit.name text = true) := by
  unfold candidates at h
  split at h
  · rcases hsplit : splitEquals text with ⟨start, rest?⟩
    rw [hsplit] at h
    obtain ⟨⟨n, s⟩, hmem, rfl⟩ := List.mem_map.1 h
    obtain ⟨hmem, hstarts⟩ := List.mem_filter.1 hmem
    refine ⟨hmem, ?_⟩
    rintro rfl
    rwa [splitEquals_of_none hsplit] at hstarts
  · obtain ⟨⟨n, s⟩, hmem, hhit⟩ := List.mem_filterMap.1 h
    dsimp only at hhit
    split at hhit
    · cases hhit
      exact ⟨hmem, nofun⟩
    · split at hhit
      · next hstarts =>
        cases hhit
        exact ⟨hmem, fun _ => hstarts⟩
      · cases hhit
  · cases h

/-- A word that is taken for an option is a beginning of its name, unless it also holds an argument. -/
theorem hit_of_classify {t : String} (h : classify c text = .ok (.option t (some hit))) :
    t = text ∧ (hit.name, hit.switch) ∈ namedSwitches c.switches ∧
      (hit.rest? = none → Text.startsWith hit.name text = true) := by
  unfold classify at h
  dsimp only at h
  split at h
  · cases h
  split at h
  · next s hlookup =>
    cases h
    exact ⟨rfl, pair_mem_of_lookup hlookup, fun _ => by simp [Text.startsWith]⟩
  split at h
  · cases h
  split at h
  · next hlookup =>
    cases h
    exact ⟨rfl, pair_mem_of_lookup hlookup, nofun⟩
  · split at h
    · next hcandidates =>
      cases h
      obtain ⟨hname, hstarts⟩ := mem_candidates (hcandidates ▸ List.mem_singleton_self _)
      exact ⟨rfl, hname, hstarts⟩
    · split at h
      · cases h
      · cases h
    · cases h

theorem text_of_classify {t : Token} (h : classify c text = .ok t) : t.text = text := by
  unfold classify at h
  grind [Token.text]

end Words

variable {c : Command} {args : List String} {a a' : Arguments} {ts : List Token} {words : List String}

section Tokens

theorem tokens_cons {text : String} (htext : text ≠ "--") (h : tokens c (text :: args) = .ok ts) :
    ∃ t ts', ts = t :: ts' ∧ classify c text = .ok t ∧ tokens c args = .ok ts' := by
  rw [tokens, if_neg htext] at h
  cases hclassify : classify c text with
  | error halt =>
    rw [hclassify] at h
    cases h
  | ok t =>
    rw [hclassify] at h
    cases hrest : tokens c args with
    | error halt =>
      rw [hrest] at h
      cases h
    | ok ts' =>
      rw [hrest] at h
      cases h
      exact ⟨t, ts', rfl, rfl, rfl⟩

theorem tokens_dashes (h : tokens c ("--" :: args) = .ok ts) : ts = .dashes :: args.map .plain := by
  rw [tokens, if_pos rfl] at h
  exact (Except.ok.inj h).symm

theorem texts_of_tokens (h : tokens c args = .ok ts) : ts.map Token.text = args := by
  induction args generalizing ts with
  | nil =>
    cases h
    rfl
  | cons text rest ih =>
    by_cases htext : text = "--"
    · subst htext
      rw [tokens_dashes h]
      simp [Token.text, Function.comp_def]
    · obtain ⟨t, ts', rfl, hclassify, hrest⟩ := tokens_cons htext h
      rw [List.map_cons, text_of_classify hclassify, ih hrest]

theorem not_mem_of_tokens (h : tokens c args = .ok ts) {front back : List Token} (hts : ts = front ++ back)
    (hno : .dashes ∉ front) : "--" ∉ front.map Token.text := by
  induction args generalizing ts front with
  | nil =>
    cases h
    simp_all
  | cons text rest ih =>
    by_cases htext : text = "--"
    · subst htext
      cases front with
      | nil => simp
      | cons t front =>
        obtain ⟨rfl, -⟩ := List.cons.inj ((tokens_dashes h).symm.trans hts)
        exact absurd List.mem_cons_self hno
    · obtain ⟨t, ts', rfl, hclassify, hrest⟩ := tokens_cons htext h
      cases front with
      | nil => simp
      | cons t front =>
        cases hts
        rw [List.map_cons, List.mem_cons, text_of_classify hclassify, not_or]
        exact ⟨Ne.symm htext, ih hrest rfl fun hmem => hno (List.mem_cons_of_mem _ hmem)⟩

theorem mem_tokens_of_mem (h : tokens c args = .ok ts) {text : String} (hmem : text ∈ args) :
    text ∈ args.takeWhile (· ≠ "--") ∨ text = "--" ∧ .dashes ∈ ts ∨ .dashes ∈ ts ∧ .plain text ∈ ts := by
  induction args generalizing ts with
  | nil => cases hmem
  | cons first rest ih =>
    by_cases hfirst : first = "--"
    · subst hfirst
      rw [tokens_dashes h]
      rcases List.mem_cons.1 hmem with rfl | hmem
      · exact .inr (.inl ⟨rfl, List.mem_cons_self⟩)
      · exact .inr (.inr ⟨List.mem_cons_self, List.mem_cons_of_mem _ (List.mem_map_of_mem hmem)⟩)
    · obtain ⟨t, ts', rfl, -, hrest⟩ := tokens_cons hfirst h
      rw [List.takeWhile_cons, if_pos (by simpa using hfirst)]
      rcases List.mem_cons.1 hmem with rfl | hmem
      · exact .inl List.mem_cons_self
      · have := ih hrest hmem
        simp only [List.mem_cons]
        tauto

theorem option_mem_tokens (h : tokens c args = .ok ts) {t : Token} (ht : t.isOption = true) :
    t ∈ ts ↔ ∃ word ∈ args.takeWhile (· ≠ "--"), classify c word = .ok t := by
  induction args generalizing ts with
  | nil =>
    cases h
    simp
  | cons text rest ih =>
    by_cases htext : text = "--"
    · subst htext
      rw [tokens_dashes h]
      refine iff_of_false ?_ (by simp)
      rintro (_ | ⟨_, hmem⟩)
      · cases ht
      · obtain ⟨word, -, rfl⟩ := List.mem_map.1 hmem
        cases ht
    · obtain ⟨t₀, ts', rfl, hclassify, hrest⟩ := tokens_cons htext h
      rw [List.takeWhile_cons, if_pos (by simpa using htext), List.mem_cons, ih hrest, List.exists_mem_cons_iff, hclassify,
        Except.ok.injEq, eq_comm]

theorem switch_of_tokens (h : tokens c args = .ok ts) {text : String} {hit : Hit} (hmem : .option text (some hit) ∈ ts) :
    hit.switch ∈ c.switches := by
  obtain ⟨word, -, hclassify⟩ := (option_mem_tokens h rfl).1 hmem
  obtain ⟨-, hname, -⟩ := hit_of_classify hclassify
  obtain ⟨s, hs, hpair⟩ := List.mem_flatMap.1 hname
  obtain ⟨n, -, heq⟩ := List.mem_map.1 hpair
  cases heq
  exact hs

end Tokens

section Given

variable {f : Field}

@[simp] theorem has_give (g : Field) (value : String) : (a.give g value).has f = true ↔ a.has f = true ∨ g = f := by
  simp [Arguments.has, Arguments.give]

@[simp] theorem has_addExtra (text : String) : (a.addExtra text).has f = a.has f := rfl

end Given

theorem field_of_applyOption {hit : Hit} {rest rest' : List Token} (h : applyOption c a hit rest = .ok (a', rest')) :
    (∃ f value, hit.switch.effect.field? = some f ∧ a' = a.give f value) ∧
      (rest' = rest ∨ ∃ value, rest = .plain value :: rest') := by
  obtain ⟨f, choices, value, heffect, rfl, ⟨-, rfl⟩ | ⟨-, rfl⟩⟩ | ⟨f, heffect, rfl, rfl, -⟩ := applyOption_cases h
  · exact ⟨⟨f, value, by rw [heffect]; rfl, rfl⟩, .inl rfl⟩
  · exact ⟨⟨f, value, by rw [heffect]; rfl, rfl⟩, .inr ⟨value, rfl⟩⟩
  · exact ⟨⟨f, "", by rw [heffect]; rfl, rfl⟩, .inl rfl⟩

theorem mem_dropDashes {t : Token} (ht : t ≠ .dashes) : t ∈ dropDashes ts ↔ t ∈ ts := by
  unfold dropDashes
  induction ts with
  | nil => rfl
  | cons t₀ ts ih =>
    rw [List.dropWhile_cons]
    split
    · next hdashes =>
      obtain rfl : t₀ = .dashes := by simpa using hdashes
      rw [ih, List.mem_cons, or_iff_right ht]
    · rfl

theorem options_of_read (hleaf : c.IsLeaf) (h : read c a ts = .ok (a', words)) :
    (∀ f, (∀ name help, c.positional ≠ .optional f name help) →
      (a'.has f = true ↔ a.has f = true ∨ ∃ text hit, .option text (some hit) ∈ ts ∧ hit.switch.effect.field? = some f)) ∧
      ∀ text hit, .option text (some hit) ∈ ts → ∃ a rest r, applyOption c a hit rest = .ok r := by
  fun_induction read c a ts
  case case1 =>
    cases h
    simp
  case case2 ih => grind [has_addExtra]
  case case3 => cases h
  case case4 happly _ ih => grind [field_of_applyOption, has_give]
  -- The other tokens are no options.
  all_goals grind [has_addExtra, has_give, mem_dropDashes, Command.IsLeaf]

theorem kept_of_read (h : read c a ts = .ok (a', words)) :
    (∀ text ∈ a.extras, text ∈ a'.extras) ∧ ∀ g ∈ a.given, g ∈ a'.given := by
  fun_induction read c a ts
  case case4 happly _ ih =>
    obtain ⟨⟨f, value, -, rfl⟩, -⟩ := field_of_applyOption happly
    exact ⟨(ih h).1, fun x hx => (ih h).2 x (List.mem_append_left _ hx)⟩
  all_goals grind [Arguments.addExtra, Arguments.give]

/-- Where nothing may stand beside the options, a `--` is not understood. -/
theorem dashes_of_read (hpositional : c.positional = .nothing) (h : read c a ts = .ok (a', words))
    (hmem : .dashes ∈ ts) : "--" ∈ a'.extras := by
  fun_induction read c a ts
  case case4 happly _ ih =>
    obtain ⟨-, rfl | ⟨value, rfl⟩⟩ := field_of_applyOption happly
    · exact ih h (by simpa using hmem)
    · exact ih h (by simpa using hmem)
  case case11 => exact (kept_of_read h).1 _ (by simp [Arguments.addExtra])
  all_goals grind

theorem given_of_read {f : Field} {name help value : String} (hpositional : c.positional = .optional f name help)
    (hnone : ∀ text hit, .option text (some hit) ∈ ts → ∀ g choices, hit.switch.effect ≠ .take g choices)
    (h : read c a ts = .ok (a', words)) (hmem : .plain value ∈ ts) :
    (f, value) ∈ a'.given ∨ value ∈ a'.extras := by
  fun_induction read c a ts
  case case4 happly _ ih =>
    obtain ⟨g, choices, _, heffect, -⟩ | ⟨_, -, -, rfl, -⟩ := applyOption_cases happly
    · exact absurd heffect (hnone _ _ List.mem_cons_self g choices)
    · exact ih (fun text hit hhit => hnone text hit (List.mem_cons_of_mem _ hhit)) h (by simpa using hmem)
  all_goals grind [kept_of_read, Arguments.addExtra, Arguments.give, mem_dropDashes]

/-- A field that no option decides was given by a word that stands beside them. -/
theorem plain_of_given {f : Field} {value : String} (h : read c a ts = .ok (a', words)) (hmem : (f, value) ∈ a'.given) :
    (f, value) ∈ a.given ∨ (∃ text hit, .option text (some hit) ∈ ts ∧ hit.switch.effect.field? = some f) ∨
      .plain value ∈ ts := by
  fun_induction read c a ts
  case case4 happly _ ih =>
    obtain ⟨⟨g, value', hfield, rfl⟩, hrest⟩ := field_of_applyOption happly
    grind [Arguments.give]
  all_goals grind [Arguments.addExtra, Arguments.give, mem_dropDashes]

theorem front_of_read {label : String} {choices : List (String × Command)} {word : String}
    (hpositional : c.positional = .command label choices) (h : read c a ts = .ok (a', word :: words)) (hword : word ≠ "--") :
    ∃ front t back, ts = front ++ t :: back ∧ t.text = word ∧ back.map Token.text = words ∧ .dashes ∉ front ++ [t] := by
  fun_induction read c a ts
  case case2 ih =>
    obtain ⟨front, t, back, hrest, htext, hback, hno⟩ := ih h
    exact ⟨_ :: front, t, back, by rw [hrest]; rfl, htext, hback, by simpa using hno⟩
  case case4 happly _ ih =>
    obtain ⟨front, t, back, hrest, htext, hback, hno⟩ := ih h
    obtain ⟨-, rfl | ⟨value, rfl⟩⟩ := field_of_applyOption happly
    · exact ⟨_ :: front, t, back, by rw [hrest]; rfl, htext, hback, by simpa using hno⟩
    · exact ⟨_ :: _ :: front, t, back, by rw [hrest]; rfl, htext, hback, by simpa using hno⟩
  case case6 ts _ _ _ =>
    cases h
    exact ⟨[], _, ts, rfl, rfl, rfl, by simp⟩
  case case10 =>
    cases h
    exact absurd rfl hword
  all_goals grind

theorem split_of_read {label name : String} {choices : List (String × Command)} {sub : Command}
    (htokens : tokens c args = .ok ts) (hread : read c a ts = .ok (a', name :: words))
    (hpositional : c.positional = .command label choices) (hlookup : choices.lookup name = some sub) :
    ∃ outer, args = outer ++ words ∧ "--" ∉ outer := by
  have hname : name ≠ "--" := by
    rintro rfl
    cases c with
    | top | config =>
      cases hpositional
      cases hlookup
    | version | generate | scan | normalize | dump | validate => cases hpositional
  obtain ⟨front, t, back, rfl, rfl, rfl, hno⟩ := front_of_read hpositional hread hname
  refine ⟨(front ++ [t]).map Token.text, ?_, not_mem_of_tokens htokens (List.append_cons front t back) hno⟩
  rw [← texts_of_tokens htokens, ← List.map_append, List.append_assoc]
  rfl

end JavaStubs.CommandLine
