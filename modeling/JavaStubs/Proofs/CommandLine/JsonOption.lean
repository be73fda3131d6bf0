import Mathlib.Data.List.Infix
import JavaStubs.CommandLine.Program
import JavaStubs.Proofs.CommandLine.Reading
import JavaStubs.Proofs.Run.Outcomes

/-! When a run answers in JSON. The option for it may be shortened, and it may stand before a command or behind it,
but what stands before is forgotten when the command has read its own arguments. -/
namespace JavaStubs.CommandLine

/-- The words that are taken for the JSON option: its name, and the beginnings of it that are no other option's. -/
def jsonSpellings : List String :=
  ["--j", "--js", "--jso", "--json"]

def SpellsJson (words : List String) : Prop :=
  ∃ word ∈ words.takeWhile (· ≠ "--"), word ∈ jsonSpellings

instance (words : List String) : Decidable (SpellsJson words) :=
  inferInstanceAs (Decidable (∃ word ∈ words.takeWhile (· ≠ "--"), word ∈ jsonSpellings))

/-- The token is an option that decides a field, whatever follows its name in the same word. -/
def Token.decides (f : Field) : Token → Bool
  | option _ (some hit) => hit.switch.effect.field? = some f
  | _ => false

def jsonToken (word : String) : Token :=
  .option word (some ⟨.jsonSwitch, "--json", false, none⟩)

section Words

variable {c : Command} {text : String} {hit : Hit}

theorem classify_of_spelling (hc : .jsonSwitch ∈ c.switches) (hspelled : text ∈ jsonSpellings) :
    classify c text = .ok (jsonToken text) := by
  have hall : ∀ word ∈ jsonSpellings, (classify c word).toOption = some (jsonToken word) := by
    cases c with
    | config => exact absurd hc (by decide)
    | top | version | generate | scan | normalize | dump | validate => decide +kernel
  exact ok_of_toOption (hall text hspelled)

theorem spelling_of_classify {t : String} (h : classify c text = .ok (.option t (some hit)))
    (hfield : hit.switch.effect.field? = some .json) :
    hit.name = "--json" ∧ hit.switch = .jsonSwitch ∧ (hit.rest? = none → text ∈ jsonSpellings) := by
  obtain ⟨-, hmem, hstarts⟩ := hit_of_classify h
  have hnames : ∀ p ∈ namedSwitches c.switches, p.2.effect.field? = some .json →
      p.1 = "--json" ∧ p.2 = .jsonSwitch ∧ .jsonSwitch ∈ c.switches := by
    cases c <;> decide
  obtain ⟨hname, hswitch, hc⟩ := hnames _ hmem hfield
  refine ⟨hname, hswitch, fun hrest => ?_⟩
  have hbegins : text.toList ∈ "--json".toList.inits := by
    rw [List.mem_inits, ← List.isPrefixOf_iff_prefix]
    exact hname ▸ hstarts hrest
  have hinits : "--json".toList.inits = (["", "-", "--"] ++ jsonSpellings).map String.toList := by decide
  rw [hinits] at hbegins
  obtain ⟨word, hword, htext⟩ := List.mem_map.1 hbegins
  obtain rfl := String.toList_inj.1 htext
  -- The beginnings that are too short are plain, or they are beginnings of other names as well.
  have hshort : ∀ word ∈ ["", "-", "--"], (classify c word).toOption.any (Token.decides .json) = false := by
    cases c with
    | config => exact absurd hc (by decide)
    | top | version | generate | scan | normalize | dump | validate => decide +kernel
  refine (List.mem_append.1 hword).resolve_left fun hmem => ?_
  have hnot := hshort word hmem
  rw [h] at hnot
  exact of_decide_eq_false hnot hfield

end Words

section Leaf

variable {c : Command} {args words : List String} {a : Arguments} {ts : List Token}

theorem Command.jsonSwitch_mem_of_isLeaf (hleaf : c.IsLeaf) : .jsonSwitch ∈ c.switches := by
  cases c with
  | top | config => exact absurd rfl (hleaf _ _)
  | version | generate | scan | normalize | dump | validate => decide

/-- A command without commands of its own is asked for JSON if a word before the first `--` spells the option. -/
theorem has_json_of_leaf (hleaf : c.IsLeaf) (htokens : tokens c args = .ok ts) (hread : read c {} ts = .ok (a, words)) :
    a.has .json = true ↔ SpellsJson args := by
  have hbeside : ∀ name help, c.positional ≠ .optional .json name help := by
    cases c <;> rintro _ _ ⟨⟩
  obtain ⟨hhas, happlied⟩ := options_of_read hleaf hread
  rw [hhas .json hbeside, or_iff_right (by decide)]
  constructor
  · rintro ⟨text, hit, hmem, hfield⟩
    obtain ⟨word, hword, hclassify⟩ := (option_mem_tokens htokens rfl).1 hmem
    obtain ⟨hname, hswitch, hspelled⟩ := spelling_of_classify hclassify hfield
    refine ⟨word, hword, hspelled ?_⟩
    obtain ⟨a₁, rest, ⟨a₂, rest'⟩, happly⟩ := happlied _ _ hmem
    obtain ⟨_, _, _, heffect, -⟩ | ⟨_, -, -, -, hrest | hshort⟩ := applyOption_cases happly
    · rw [hswitch] at heffect
      cases heffect
    · exact hrest
    · rw [hname] at hshort
      cases hshort
  · rintro ⟨word, hword, hspelled⟩
    exact ⟨word, _, (option_mem_tokens htokens rfl).2
      ⟨word, hword, classify_of_spelling (Command.jsonSwitch_mem_of_isLeaf hleaf) hspelled⟩, rfl⟩

/-- A word that is accepted by a command without commands of its own can be an option, or it is the directory. -/
theorem mem_of_leaf (hleaf : c.IsLeaf) (htokens : tokens c args = .ok ts) (hread : read c {} ts = .ok (a, words))
    (hextras : a.extras = []) {word : String} (hword : word ≠ "--") (hmem : word ∈ args) :
    word ∈ args.takeWhile (· ≠ "--") ∨ (.directory, word) ∈ a.given := by
  obtain hbefore | ⟨rfl, -⟩ | ⟨hdashes, hplain⟩ := mem_tokens_of_mem htokens hmem
  · exact .inl hbefore
  · exact absurd rfl hword
  right
  cases hpositional : c.positional with
  | command label choices => exact absurd hpositional (hleaf label choices)
  | nothing =>
    have hextra := dashes_of_read hpositional hread hdashes
    rw [hextras] at hextra
    cases hextra
  | optional f name help =>
    obtain ⟨rfl, hnone⟩ : f = .directory ∧ ∀ s ∈ c.switches, ∀ g choices, s.effect ≠ .take g choices := by
      cases c with
      | normalize =>
        cases hpositional
        exact ⟨rfl, by simp [Command.switches, Switch.helpSwitch, Switch.jsonSwitch]⟩
      | top | version | generate | scan | config | dump | validate => cases hpositional
    refine (given_of_read hpositional (fun text hit hhit => hnone _ (switch_of_tokens htokens hhit)) hread
      hplain).resolve_right fun hextra => ?_
    rw [hextras] at hextra
    cases hextra

end Leaf

/-- Reading the arguments of a command hands the words behind the name of another command to that one, and so on down. -/
inductive Hands : Command → List String → Command → List String → Prop
  | own {c args} : Hands c args c args
  | down {c args ts a word words label choices sub inner own} : tokens c args = .ok ts →
      read c {} ts = .ok (a, word :: words) → c.positional = .command label choices → choices.lookup word = some sub →
      Hands sub words inner own → Hands c args inner own

section Chain

variable {c : Command} {args : List String} {a : Arguments}

theorem Hands.unique {inner inner' : Command} {own own' : List String} (h : Hands c args inner own)
    (h' : Hands c args inner' own') (hleaf : inner.IsLeaf) (hleaf' : inner'.IsLeaf) : inner = inner' ∧ own = own' := by
  induction h with
  | own =>
    cases h' with
    | own => exact ⟨rfl, rfl⟩
    | down _ _ hpositional => exact absurd hpositional (hleaf _ _)
  | down htokens hread hpositional hlookup _ ih =>
    cases h' with
    | own => exact absurd hpositional (hleaf' _ _)
    | down htokens' hread' hpositional' hlookup' hhands' =>
      cases htokens.symm.trans htokens'
      cases hread.symm.trans hread'
      cases hpositional.symm.trans hpositional'
      cases hlookup.symm.trans hlookup'
      exact ih hhands' hleaf

theorem has_absorb {sub : Arguments} {f : Field} (h : ∃ c' ∈ c :: sub.commands, f ∈ c'.fields) :
    (a.absorb c sub).has f = sub.has f := by
  obtain ⟨c', hc', hf⟩ := h
  have hdecided : ((c :: sub.commands).any fun c' => c'.fields.contains f) = true :=
    List.any_eq_true.2 ⟨c', hc', List.contains_iff_mem.2 hf⟩
  have hnone : (a.given.any fun g => !((c :: sub.commands).any fun c' => c'.fields.contains g.1) && g.1 = f) = false := by
    rw [List.any_eq_false]
    rintro ⟨g, value⟩ - hg
    simp only [Bool.and_eq_true, decide_eq_true_eq] at hg
    obtain ⟨hg, rfl⟩ := hg
    rw [hdecided] at hg
    cases hg
  unfold Arguments.has Arguments.absorb
  rw [List.any_append, List.any_filter, hnone, Bool.false_or]

theorem has_json_of_accepts (h : Accepts c args a) :
    ∃ inner own, Hands c args inner own ∧ inner.IsLeaf ∧ (c :: a.commands).getLast? = some inner ∧
      (a.has .json = true ↔ SpellsJson own) := by
  induction h with
  | all hleaf htokens hread =>
    refine ⟨_, _, .own, hleaf, ?_, has_json_of_leaf hleaf htokens hread⟩
    rw [commands_of_read hread]
    rfl
  | down htokens hread hpositional hlookup _ ih =>
    obtain ⟨inner, own, hhands, hleaf, hlast, hjson⟩ := ih
    refine ⟨inner, own, .down htokens hread hpositional hlookup hhands, hleaf, hlast, ?_⟩
    rw [has_absorb ⟨inner, List.mem_of_getLast? hlast, ?_⟩, hjson]
    cases inner with
    | top | config => exact absurd rfl (hleaf _ _)
    | version | generate | scan | normalize | dump | validate => decide

theorem mem_of_accepts (h : Accepts c args a) (hextras : a.extras = []) {word : String} (hword : word ≠ "--")
    (hmem : word ∈ args) : word ∈ args.takeWhile (· ≠ "--") ∨ (.directory, word) ∈ a.given := by
  induction h with
  | all hleaf htokens hread => exact mem_of_leaf hleaf htokens hread hextras hword hmem
  | down htokens hread hpositional hlookup _ ih =>
    obtain ⟨outer, rfl, houter⟩ := split_of_read htokens hread hpositional hlookup
    have hbelow := (List.append_eq_nil_iff.1 hextras).2
    rw [List.takeWhile_append_of_pos fun text htext => by simpa using ne_of_mem_of_not_mem htext houter]
    rcases List.mem_append.1 hmem with hmem | hmem
    · exact .inl (List.mem_append_left _ hmem)
    · exact (ih hbelow hmem).imp (List.mem_append_right _) (List.mem_append_right _)

theorem mem_of_directory (h : Accepts c args a) {value : String} (hmem : (.directory, value) ∈ a.given) :
    value ∈ args := by
  have hown : ∀ {c : Command} {args words : List String} {a : Arguments} {ts : List Token}, tokens c args = .ok ts →
      read c {} ts = .ok (a, words) → (.directory, value) ∈ a.given → value ∈ args := by
    intro c args words a ts htokens hread hgiven
    obtain hnone | ⟨text, hit, hhit, hfield⟩ | hplain := plain_of_given hread hgiven
    · cases hnone
    · have hswitches : ∀ s ∈ c.switches, s.effect.field? ≠ some .directory := by
        cases c <;> decide
      exact absurd hfield (hswitches _ (switch_of_tokens htokens hhit))
    · rw [← texts_of_tokens htokens]
      exact List.mem_map_of_mem (f := Token.text) hplain
  induction h with
  | all _ htokens hread => exact hown htokens hread hmem
  | down htokens hread hpositional hlookup _ ih =>
    rcases List.mem_append.1 hmem with hmem | hmem
    · exact hown htokens hread (List.mem_of_mem_filter hmem)
    · obtain ⟨outer, rfl, -⟩ := split_of_read htokens hread hpositional hlookup
      exact List.mem_append_right _ (ih hmem)

end Chain

def answer (a : Arguments) (asJson : Bool) : Action Exit := do
  if a.commands = [.version] then
    printLine (if asJson then versionReport.json .line else versionLine)
    return ⟨0, false⟩
  match Settings.ofRequest (← get) (request a asJson) with
  | .error f => report asJson "" f
  | .ok s =>
    try
      performLogged s a
      return ⟨0, false⟩
    catch f => report asJson s.runId f

section Runs

variable {args : List String} {a : Arguments}

theorem run_eq_answer (h : parseAll args = .ok a) : run args = answer a (a.has .json || args.contains "--json") := by
  unfold run
  rw [h]
  rfl

theorem accepts_of_parseAll (h : parseAll args = .ok a) : Accepts .top args a ∧ a.extras = [] := by
  unfold parseAll at h
  split at h
  · cases h
  · next hparse =>
    split at h
    · next hextras =>
      cases h
      exact ⟨accepts_of_parse hparse, List.isEmpty_iff.1 hextras⟩
    · cases h

/-- A run with accepted arguments is treated as JSON if the innermost command was given the option, in any spelling, or if
its name stands written out before a `--`, or if the directory has that name. -/
theorem run_json_iff (h : parseAll args = .ok a) :
    ∃ inner own asJson, Hands .top args inner own ∧ inner.IsLeaf ∧ a.commands.getLast? = some inner ∧
      run args = answer a asJson ∧
      (asJson = true ↔
        SpellsJson own ∨ "--json" ∈ args.takeWhile (· ≠ "--") ∨ (.directory, "--json") ∈ a.given) := by
  obtain ⟨haccepts, hextras⟩ := accepts_of_parseAll h
  obtain ⟨inner, own, hhands, hleaf, hlast, hjson⟩ := has_json_of_accepts haccepts
  refine ⟨inner, own, _, hhands, hleaf, ?_, run_eq_answer h, ?_⟩
  · cases hcommands : a.commands with
    | nil =>
      rw [hcommands] at hlast
      cases hlast
      exact absurd rfl (hleaf _ _)
    | cons c rest =>
      rw [hcommands, List.getLast?_cons_cons] at hlast
      exact hlast
  · rw [Bool.or_eq_true, hjson, List.contains_iff_mem]
    refine or_congr_right ⟨mem_of_accepts haccepts hextras (by decide), ?_⟩
    rintro (hmem | hmem)
    · exact List.takeWhile_subset _ hmem
    · exact mem_of_directory haccepts hmem

end Runs

/-- Behind the command, the option may be shortened. -/
theorem json_of_shortened :
    parseAll ["--quiet", "scan", "--js"] = .ok ⟨[(.quiet, ""), (.json, "")], [], [.scan]⟩ ∧
      run ["--quiet", "scan", "--js"] = answer ⟨[(.quiet, ""), (.json, "")], [], [.scan]⟩ true := by
  have hargs : parseAll ["--quiet", "scan", "--js"] = .ok ⟨[(.quiet, ""), (.json, "")], [], [.scan]⟩ :=
    ok_of_toOption (by decide +kernel)
  refine ⟨hargs, ?_⟩
  have htokens : tokens .top ["--quiet", "scan", "--js"] = .ok ((tokens .top ["--quiet", "scan", "--js"]).toOption.getD []) :=
    ok_of_toOption (by decide +kernel)
  have hread : read .top {} ((tokens .top ["--quiet", "scan", "--js"]).toOption.getD []) =
      .ok (⟨[(.quiet, "")], [], []⟩, ["scan", "--js"]) := ok_of_toOption (by decide +kernel)
  have hhands : Hands .top ["--quiet", "scan", "--js"] .scan ["--js"] := .down htokens hread rfl (by decide) .own
  obtain ⟨inner, own, asJson, hhands', hleaf, hlast, hrun, hjson⟩ := run_json_iff hargs
  obtain rfl : Command.scan = inner := Option.some.inj hlast
  obtain ⟨-, rfl⟩ := hhands.unique hhands' hleaf hleaf
  rwa [hjson.2 (.inl (by decide))] at hrun

/-- The option is forgotten if it stands shortened before the command, and it is seen in a directory of that name. -/
theorem json_missed_and_mistaken :
    (∃ a, parseAll ["--js", "version"] = .ok a ∧ SpellsJson ["--js", "version"] ∧
      run ["--js", "version"] = answer a false ∧
      ∀ w, ((run ["--js", "version"]).runFrom w).2.stdout = w.stdout ++ (versionLine ++ "\n")) ∧
    ∃ a, parseAll ["normalize", "--", "--json"] = .ok a ∧ ¬SpellsJson ["normalize", "--", "--json"] ∧
      a.value? .directory = some "--json" ∧ run ["normalize", "--", "--json"] = answer a true := by
  have hbefore : parseAll ["--js", "version"] = .ok ⟨[], [], [.version]⟩ := ok_of_toOption (by decide +kernel)
  have hdirectory : parseAll ["normalize", "--", "--json"] = .ok ⟨[(.directory, "--json")], [], [.normalize]⟩ :=
    ok_of_toOption (by decide +kernel)
  refine ⟨⟨_, hbefore, by decide, run_eq_answer hbefore, fun w => ?_⟩,
    ⟨_, hdirectory, by decide, by decide, run_eq_answer hdirectory⟩⟩
  rw [run_eq_answer hbefore]
  rfl

end JavaStubs.CommandLine
