import Mathlib.Data.List.Forall2
import JavaStubs.Failure
import JavaStubs.Proofs.Run.Outcomes
import JavaStubs.Proofs.Source.Settled

/-! Which lists of declarations are accepted, and what is made of them. A list that was settled is settled to itself.
-/
namespace JavaStubs.SourceSet

def Blank (s : String) : Prop :=
  ∀ c ∈ s.toList, Text.isBlank c = true

def NoPattern (v : Value) : Prop :=
  ∀ s, v = .text s → Blank s

/-- A declaration of a library: it says so, or it leaves its mode open and its directory is called like one. -/
def DeclaresLibrary (root : FilePath) (d : Declaration) : Prop :=
  d.mode = .globalVars ∨ d.mode = .auto ∧ (place root d.directory).parts.getLast? = some "vars"

/-- What is wrong with a list of declarations. Of two declarations, one stands before the other. -/
inductive IllFormed (root : FilePath) (ds : List Declaration) : Prop where
  | blankDirectory {d} (mem : d ∈ ds) (blank : Blank d.directory.text)
  | unknownMode {d} (mem : d ∈ ds) (unknown : d.mode ∉ [Mode.auto, .plain, .globalVars])
  | badPattern {d v} (mem : d ∈ ds) (pattern : v ∈ d.includes ∨ v ∈ d.excludes) (bad : NoPattern v)
  | sameDirectory {a b} (two : [a, b].Sublist ds) (same : place root a.directory = place root b.directory)
  | twoLibraries {a b} (two : [a, b].Sublist ds) (first : DeclaresLibrary root a) (second : DeclaresLibrary root b)

/-- What is made of a declaration. Only its directory and its mode may become others. -/
structure Settles (root : FilePath) (d : Declaration) (s : SourceSet) : Prop where
  directory : s.directory = place root d.directory
  isAbsolute : s.directory.isAbsolute = true
  declaredMode : d.mode ≠ .auto → s.mode = d.mode
  inferredMode : d.mode = .auto → s.mode = if s.directory.parts.getLast? = some "vars" then .globalVars else .plain
  includes : s.includes.map .text = d.includes
  excludes : s.excludes.map .text = d.excludes
  lineEnding : s.lineEnding = d.lineEnding
  modelEncoding : s.modelEncoding = d.modelEncoding

/-- A declaration with which nothing is wrong by itself. -/
structure Sound (d : Declaration) : Prop where
  directory : ¬Blank d.directory.text
  mode : d.mode ∈ [Mode.auto, .plain, .globalVars]
  includes : ∀ v ∈ d.includes, ¬NoPattern v
  excludes : ∀ v ∈ d.excludes, ¬NoPattern v

def settled (root : FilePath) (d : Declaration) : SourceSet :=
  { d with
    directory := place root d.directory
    includes := d.includes.filterMap Value.text?
    excludes := d.excludes.filterMap Value.text?
    mode := d.mode.settle (place root d.directory) }

def Compatible (a b : SourceSet) : Prop :=
  a.directory ≠ b.directory ∧ ¬(a.isLibrary = true ∧ b.isLibrary = true)

section Patterns

variable {v : Value} {vs : List Value}

theorem isBlankText_iff {s : String} : Text.isBlankText s = true ↔ Blank s :=
  List.all_eq_true

theorem pattern?_eq_none_iff : pattern? v = none ↔ NoPattern v := by
  cases v with
  | text s =>
    have hblank : NoPattern (.text s) ↔ Blank s := by simp [NoPattern]
    rw [hblank, ← isBlankText_iff, pattern?]
    split <;> simp_all
  | _ => simp [pattern?, NoPattern]

theorem pattern?_eq_text? (h : ¬NoPattern v) : pattern? v = v.text? := by
  rw [← pattern?_eq_none_iff] at h
  cases v with
  | text s =>
    simp only [pattern?] at h ⊢
    split
    · next hblank => simp [hblank] at h
    · rfl
  | _ => exact absurd rfl h

theorem exists_text (h : ¬NoPattern v) : ∃ s, v = .text s := by
  unfold NoPattern at h
  push Not at h
  obtain ⟨s, hs, -⟩ := h
  exact ⟨s, hs⟩

theorem mapM_pattern? (h : ∀ v ∈ vs, ¬NoPattern v) : vs.mapM pattern? = some (vs.filterMap Value.text?) := by
  induction vs with
  | nil => rfl
  | cons v vs ih =>
    obtain ⟨hv, hvs⟩ := List.forall_mem_cons.1 h
    obtain ⟨s, rfl⟩ := exists_text hv
    have hhead : pattern? (.text s) = some s := pattern?_eq_text? hv
    simp [hhead, ih hvs, Value.text?]

theorem mapM_pattern?_eq_none (h : ¬∀ v ∈ vs, ¬NoPattern v) : vs.mapM pattern? = none := by
  induction vs with
  | nil => exact absurd (by simp) h
  | cons v vs ih =>
    by_cases hv : NoPattern v
    · have hhead : pattern? v = none := pattern?_eq_none_iff.2 hv
      simp [hhead]
    · have hrest : vs.mapM pattern? = none := ih fun hvs => h (List.forall_mem_cons.2 ⟨hv, hvs⟩)
      simp [hrest]

/-- Patterns come out as they were declared. -/
theorem map_text_filterMap (h : ∀ v ∈ vs, ¬NoPattern v) : (vs.filterMap Value.text?).map Value.text = vs := by
  induction vs with
  | nil => rfl
  | cons v vs ih =>
    obtain ⟨hv, hvs⟩ := List.forall_mem_cons.1 h
    obtain ⟨s, rfl⟩ := exists_text hv
    simp [Value.text?, ih hvs]

end Patterns

section One

variable {root cwd : FilePath} {d : Declaration} {s : SourceSet}

theorem isUnknown_eq_false_iff {mode : Mode} : isUnknown mode = false ↔ mode ∈ [Mode.auto, .plain, .globalVars] := by
  cases mode <;> simp [isUnknown]

theorem settleOne_eq_ok_iff (habs : (place root d.directory).isAbsolute = true) :
    settleOne root cwd d = .ok s ↔ Sound d ∧ s = settled root d := by
  unfold settleOne
  split
  · next hblank =>
    have hnot : ¬Sound d := fun h => h.directory (isBlankText_iff.1 hblank)
    simp [hnot]
  next hblank =>
  split
  · next hmode =>
    have hnot : ¬Sound d := fun h => by simp [isUnknown_eq_false_iff.2 h.mode] at hmode
    simp [hnot]
  next hmode =>
  rw [FilePath.absolute_of_isAbsolute habs]
  dsimp only
  by_cases hincludes : ∀ v ∈ d.includes, ¬NoPattern v
  · rw [mapM_pattern? hincludes]
    dsimp only
    by_cases hexcludes : ∀ v ∈ d.excludes, ¬NoPattern v
    · rw [mapM_pattern? hexcludes]
      have hsound : Sound d :=
        ⟨fun h => hblank (isBlankText_iff.2 h), isUnknown_eq_false_iff.1 (by simpa using hmode), hincludes, hexcludes⟩
      simp only [hsound, true_and, Except.ok.injEq]
      exact eq_comm
    · rw [mapM_pattern?_eq_none hexcludes]
      have hnot : ¬Sound d := fun h => hexcludes h.excludes
      simp [hnot]
  · rw [mapM_pattern?_eq_none hincludes]
    have hnot : ¬Sound d := fun h => hincludes h.includes
    simp [hnot]

theorem infer_eq (directory : FilePath) :
    Mode.infer directory = if directory.parts.getLast? = some "vars" then .globalVars else .plain := by
  have hname : directory.name = Mode.libraryName ↔ directory.parts.getLast? = some "vars" := by
    unfold FilePath.name Mode.libraryName
    cases directory.parts.getLast? <;> simp
  simp only [Mode.infer, hname]

theorem isLibrary_settled : (settled root d).isLibrary = true ↔ DeclaresLibrary root d := by
  unfold DeclaresLibrary isLibrary settled
  cases d.mode with
  | auto =>
    simp only [Mode.settle, infer_eq]
    split <;> simp_all
  | _ => simp [Mode.settle]

theorem settles_settled (habs : (place root d.directory).isAbsolute = true) (h : Sound d) :
    Settles root d (settled root d) where
  directory := rfl
  isAbsolute := habs
  declaredMode hmode := by
    unfold settled
    cases hd : d.mode with
    | auto => exact absurd hd hmode
    | _ => rfl
  inferredMode hmode := by
    simp only [settled, hmode, Mode.settle, infer_eq]
  includes := map_text_filterMap h.includes
  excludes := map_text_filterMap h.excludes
  lineEnding := rfl
  modelEncoding := rfl

theorem settled_declaration (habs : s.directory.isAbsolute = true) (hmode : s.mode ≠ .auto) :
    settled root s.declaration = s := by
  have hplace : place root s.directory = s.directory := FilePath.absolute_of_isAbsolute habs root
  have hsettle : s.mode.settle s.directory = s.mode := by
    cases hs : s.mode with
    | auto => exact absurd hs hmode
    | _ => rfl
  have htexts : ∀ ss : List String, (ss.map Value.text).filterMap Value.text? = ss := fun ss => by
    rw [List.filterMap_map]
    exact List.filterMap_some
  unfold settled declaration
  simp only [hplace, hsettle, htexts]

theorem sound_declaration_settled (habs : (place root d.directory).isAbsolute = true) (h : Sound d) :
    Sound (settled root d).declaration where
  directory hblank := by
    have hall : Text.isBlankText (place root d.directory).text = true := isBlankText_iff.2 hblank
    rw [FilePath.not_isBlankText_of_isAbsolute habs] at hall
    cases hall
  mode := by
    have hmode := h.mode
    unfold declaration settled
    cases hd : d.mode with
    | auto =>
      simp only [Mode.settle, infer_eq]
      split <;> simp
    | _ => simp_all [Mode.settle]
  includes v hv := h.includes v (map_text_filterMap h.includes ▸ hv)
  excludes v hv := h.excludes v (map_text_filterMap h.excludes ▸ hv)

end One

section All

variable {root cwd : FilePath} {ds : List Declaration} {before sets : List SourceSet} {s : SourceSet}

theorem conflict?_eq_none_iff : conflict? before s = none ↔ ∀ b ∈ before, Compatible b s := by
  unfold conflict? Compatible
  by_cases hsame : ∃ b ∈ before, b.directory = s.directory
  · obtain ⟨b, hb, heq⟩ := hsame
    have hany : (before.any fun b => b.directory = s.directory) = true := by
      simp only [List.any_eq_true, decide_eq_true_eq]
      exact ⟨b, hb, heq⟩
    rw [if_pos hany]
    simp only [reduceCtorEq, false_iff]
    exact fun h => (h b hb).1 heq
  · push Not at hsame
    have hany : (before.any fun b => b.directory = s.directory) = false := by simpa using hsame
    rw [if_neg (by simp [hany])]
    by_cases hlib : s.isLibrary = true
    · simp only [hlib, if_true, Option.map_eq_none_iff, List.find?_eq_none, and_true]
      exact ⟨fun h b hb => ⟨hsame b hb, h b hb⟩, fun h b hb => (h b hb).2⟩
    · simp only [hlib, Bool.false_eq_true, if_false, and_false, not_false_eq_true, and_true, true_iff]
      exact hsame

/-- The sets that are settled already stay in front, and each new one must be compatible with all before it. -/
theorem settleAll_eq_ok_iff (habs : ∀ d ∈ ds, (place root d.directory).isAbsolute = true) :
    settleAll root cwd before ds = .ok sets ↔
      (∀ d ∈ ds, Sound d) ∧ (ds.map (settled root)).Pairwise Compatible ∧
        (∀ b ∈ before, ∀ s ∈ ds.map (settled root), Compatible b s) ∧ sets = before ++ ds.map (settled root) := by
  induction ds generalizing before with
  | nil => simp [settleAll, eq_comm]
  | cons d ds ih =>
    obtain ⟨hd, hds⟩ := List.forall_mem_cons.1 habs
    rw [settleAll]
    cases hone : settleOne root cwd d with
    | error problem =>
      have hnot : ¬Sound d := by
        intro h
        have hsettled : settleOne root cwd d = .ok (settled root d) := (settleOne_eq_ok_iff hd).2 ⟨h, rfl⟩
        rw [hsettled] at hone
        cases hone
      simp [hnot]
    | ok s =>
      obtain ⟨hsound, rfl⟩ := (settleOne_eq_ok_iff hd).1 hone
      dsimp only
      cases hconflict : conflict? before (settled root d) with
      | some problem =>
        have hnot : ¬∀ b ∈ before, Compatible b (settled root d) := by
          rw [← conflict?_eq_none_iff, hconflict]
          exact Option.some_ne_none problem
        simp only [reduceCtorEq, false_iff]
        rintro ⟨-, -, hbefore, -⟩
        exact hnot fun b hb => hbefore b hb _ List.mem_cons_self
      | none =>
        have hbefore := conflict?_eq_none_iff.1 hconflict
        dsimp only
        -- the new set counts among those before the rest, which makes up the condition on pairs
        rw [ih hds, List.forall_mem_append, List.forall_mem_singleton, List.forall_mem_cons, List.map_cons,
          List.pairwise_cons, List.append_assoc, List.singleton_append]
        simp only [List.forall_mem_cons]
        constructor
        · rintro ⟨hsounds, hpairs, ⟨hold, hnew⟩, hsets⟩
          exact ⟨⟨hsound, hsounds⟩, ⟨hnew, hpairs⟩, fun b hb => ⟨hbefore b hb, hold b hb⟩, hsets⟩
        · rintro ⟨⟨-, hsounds⟩, ⟨hnew, hpairs⟩, hold, hsets⟩
          exact ⟨hsounds, hpairs, ⟨fun b hb => (hold b hb).2, hnew⟩, hsets⟩

theorem normalize_eq_ok_iff (habs : ∀ d ∈ ds, (place root d.directory).isAbsolute = true) :
    normalize root cwd ds = .ok sets ↔
      (∀ d ∈ ds, Sound d) ∧ (ds.map (settled root)).Pairwise Compatible ∧ sets = ds.map (settled root) := by
  rw [normalize, settleAll_eq_ok_iff habs]
  simp

/-- A list is well-formed if each declaration is sound and the sets made of them are compatible. -/
theorem not_illFormed_iff :
    ¬IllFormed root ds ↔ (∀ d ∈ ds, Sound d) ∧ (ds.map (settled root)).Pairwise Compatible := by
  rw [List.pairwise_map, List.pairwise_iff_forall_sublist]
  constructor
  · intro h
    refine ⟨fun d hd => ⟨?_, ?_, ?_, ?_⟩, fun {a b} htwo => ⟨?_, ?_⟩⟩
    · exact fun hblank => h (.blankDirectory hd hblank)
    · exact not_not.1 fun hunknown => h (.unknownMode hd hunknown)
    · exact fun v hv hbad => h (.badPattern hd (.inl hv) hbad)
    · exact fun v hv hbad => h (.badPattern hd (.inr hv) hbad)
    · exact fun hsame => h (.sameDirectory htwo hsame)
    · exact fun ⟨ha, hb⟩ => h (.twoLibraries htwo (isLibrary_settled.1 ha) (isLibrary_settled.1 hb))
  · rintro ⟨hsound, hpairs⟩ hill
    cases hill with
    | blankDirectory hd hblank => exact (hsound _ hd).directory hblank
    | unknownMode hd hunknown => exact hunknown (hsound _ hd).mode
    | badPattern hd hv hbad =>
      rcases hv with hv | hv
      · exact (hsound _ hd).includes _ hv hbad
      · exact (hsound _ hd).excludes _ hv hbad
    | sameDirectory htwo hsame => exact (hpairs htwo).1 hsame
    | twoLibraries htwo ha hb => exact (hpairs htwo).2 ⟨isLibrary_settled.2 ha, isLibrary_settled.2 hb⟩

/-- What was settled is settled to itself, whatever project it is seen from. -/
theorem normalize_settled (habs : ∀ d ∈ ds, (place root d.directory).isAbsolute = true) (hsound : ∀ d ∈ ds, Sound d)
    (hpairs : (ds.map (settled root)).Pairwise Compatible) (root' cwd' : FilePath) :
    normalize root' cwd' ((ds.map (settled root)).map declaration) = .ok (ds.map (settled root)) := by
  have habsolute : ∀ s ∈ ds.map (settled root), s.directory.isAbsolute = true := List.forall_mem_map.2 habs
  have hself : ((ds.map (settled root)).map declaration).map (settled root') = ds.map (settled root) := by
    rw [List.map_map]
    refine (List.map_congr_left fun s hs => ?_).trans (List.map_id _)
    have hmode : s.mode ≠ .auto := by
      obtain ⟨d, -, rfl⟩ := List.mem_map.1 hs
      exact settle_ne_auto _ _
    exact settled_declaration (habsolute s hs) hmode
  rw [normalize_eq_ok_iff, hself]
  · refine ⟨?_, hpairs, rfl⟩
    rw [List.map_map, List.forall_mem_map]
    exact fun d hd => sound_declaration_settled (habs d hd) (hsound d hd)
  · rw [List.forall_mem_map]
    intro s hs
    have hplace : place root' s.directory = s.directory := FilePath.absolute_of_isAbsolute (habsolute s hs) root'
    rw [declaration, hplace]
    exact habsolute s hs

/-- Source sets are refused if and only if the list is ill-formed, and then as a wrong configuration. Otherwise each one
is settled by itself and in its place, and settling the result again changes nothing. -/
theorem normalize_accepts (hroot : root.isAbsolute = true) (cwd : FilePath) (ds : List Declaration) :
    ((∃ problem, normalize root cwd ds = .error problem ∧
        (StubError.sourceSets problem).errorClass = .configuration) ↔ IllFormed root ds) ∧
      (¬IllFormed root ds → ∃ sets, normalize root cwd ds = .ok sets ∧ List.Forall₂ (Settles root) ds sets ∧
        ∀ root' cwd', normalize root' cwd' (sets.map declaration) = .ok sets) := by
  have habs : ∀ d ∈ ds, (place root d.directory).isAbsolute = true :=
    fun d _ => FilePath.isAbsolute_append hroot d.directory
  have haccepted : ¬IllFormed root ds → normalize root cwd ds = .ok (ds.map (settled root)) := fun h =>
    (normalize_eq_ok_iff habs).2 ⟨(not_illFormed_iff.1 h).1, (not_illFormed_iff.1 h).2, rfl⟩
  refine ⟨⟨?_, ?_⟩, fun h => ⟨_, haccepted h, ?_, ?_⟩⟩
  · rintro ⟨problem, hproblem, -⟩
    by_contra h
    rw [haccepted h] at hproblem
    cases hproblem
  · intro hill
    cases hrun : normalize root cwd ds with
    | error problem => exact ⟨problem, rfl, rfl⟩
    | ok sets =>
      obtain ⟨hsound, hpairs, -⟩ := (normalize_eq_ok_iff habs).1 hrun
      exact absurd hill (not_illFormed_iff.2 ⟨hsound, hpairs⟩)
  · obtain ⟨hsound, -⟩ := not_illFormed_iff.1 h
    rw [List.forall₂_map_right_iff, List.forall₂_same]
    exact fun d hd => settles_settled (habs d hd) (hsound d hd)
  · obtain ⟨hsound, hpairs⟩ := not_illFormed_iff.1 h
    exact normalize_settled habs hsound hpairs

/-- A library that is found by its name, and a directory of the same name that is declared to be none. -/
def mixedSample : List Declaration :=
  [{ directory := .ofText "vars", includes := [.text "**/*.groovy"], excludes := [], lineEnding := some "unix"
     modelEncoding := none, mode := .auto },
    { directory := .ofText "/lib/vars", includes := [], excludes := [.text " old/** "], lineEnding := none
      modelEncoding := some "UTF-8", mode := .plain }]

/-- The sample with one of its directories once more, in another spelling. -/
def clashingSample : List Declaration :=
  mixedSample ++
    [{ directory := .ofText "/lib//vars/.", includes := [], excludes := [], lineEnding := none, modelEncoding := none
       mode := .plain }]

/-- The first sample is accepted, and its sets stay the same from a project elsewhere; the second one is refused. -/
theorem accepts_mixedSample :
    (FilePath.ofText "/p").isAbsolute = true ∧ IllFormed (.ofText "/p") clashingSample ∧
      ¬IllFormed (.ofText "/p") mixedSample ∧
      ∃ sets, normalize (.ofText "/p") .root mixedSample = .ok sets ∧
        sets.map (·.mode) = [.globalVars, .plain] ∧ List.Forall₂ (Settles (.ofText "/p")) mixedSample sets ∧
        normalize (.ofText "elsewhere") .root (sets.map declaration) = .ok sets := by
  have hroot : (FilePath.ofText "/p").isAbsolute = true := by decide +kernel
  have hclash : IllFormed (.ofText "/p") clashingSample := by
    obtain ⟨problem, hproblem⟩ : ∃ problem, normalize (.ofText "/p") .root clashingSample = .error problem :=
      error_of_toOption (by decide +kernel)
    exact (normalize_accepts hroot .root clashingSample).1.1 ⟨problem, hproblem, rfl⟩
  obtain ⟨hrefused, haccepted⟩ := normalize_accepts hroot .root mixedSample
  have hmodes : (normalize (.ofText "/p") .root mixedSample).toOption.map (List.map (·.mode)) =
      some [.globalVars, .plain] := by decide +kernel
  have hwell : ¬IllFormed (.ofText "/p") mixedSample := by
    intro hill
    obtain ⟨problem, hproblem, -⟩ := hrefused.2 hill
    rw [hproblem] at hmodes
    cases hmodes
  obtain ⟨sets, hsets, hsettles, hagain⟩ := haccepted hwell
  rw [hsets] at hmodes
  exact ⟨hroot, hclash, hwell, sets, hsets, Option.some.inj hmodes, hsettles, hagain _ _⟩

end All

end JavaStubs.SourceSet
