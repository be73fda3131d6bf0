import JavaStubs.Proofs.Charset.RoundTrip
import JavaStubs.Proofs.Library.Collisions
import JavaStubs.Proofs.Library.LastRun
import JavaStubs.Proofs.Library.Names
import JavaStubs.Proofs.Text.Lines

/-! A library, its wrappers and its registry tell of the same variables. What the registry lists is told by its file
too: it can be read line by line, whatever stands in the names. -/
namespace JavaStubs.Library

open FileTree Text

def between? (head tail line : List Char) : Option (List Char) :=
  let middle := (line.drop head.length).take (line.length - (head.length + tail.length))
  if line = head ++ middle ++ tail then some middle else none

/-- An entry told by a comment, which ends with the variable, and a field, which has the class before the variable. -/
def readPair? (comment field : List Char) : Option (String × String) := do
  let name ← between? "/** Global variable ".toList " */".toList comment
  let className ← between? "globalvars.".toList (' ' :: name) field
  return (String.ofList name, String.ofList className)

def readEntries? : List (List Char) → Option (List (String × String))
  | [] => none
  | [line] => if line = ['\x7d'] then some [] else none
  | comment :: field :: lines => do
    let entry ← readPair? comment field
    let entries ← readEntries? lines
    return entry :: entries

def readClass? : List (List Char) → Option (List (String × String))
  | [] => none
  | line :: lines => if line = "class GlobalVars \x7b".toList then readEntries? lines else none

section

variable {head tail line v : List Char} {lines : List (List Char)} {e : String × String} {entries : List (String × String)}

theorem between?_eq_some_iff : between? head tail line = some v ↔ line = head ++ v ++ tail := by
  unfold between?
  dsimp only
  constructor
  · intro h
    split at h
    · next hline =>
      cases h
      exact hline
    · cases h
  · intro hline
    have hlength : line.length - (head.length + tail.length) = v.length := by
      rw [hline]
      simp only [List.length_append]
      omega
    have hmiddle : (line.drop head.length).take (line.length - (head.length + tail.length)) = v := by
      rw [hlength, hline, List.append_assoc, List.drop_left, List.take_left]
    rw [hmiddle, if_pos hline]

theorem toList_registryEntry (name className : String) : (registryEntry name className).map String.toList =
    ["/** Global variable ".toList ++ name.toList ++ " */".toList,
      "globalvars.".toList ++ className.toList ++ ' ' :: name.toList] := by
  have hpackage : (package ++ ".").toList = "globalvars.".toList := by decide
  have hspace : " ".toList = [' '] := by decide
  unfold registryEntry
  rw [List.map_cons, List.map_cons, List.map_nil, String.toList_append, String.toList_append, String.toList_append,
    String.toList_append, String.toList_append, hpackage, hspace, List.append_assoc _ [' '], List.singleton_append]

theorem toList_registryLines (entries : List (String × String)) : (registryLines entries).map String.toList =
    "class GlobalVars \x7b".toList ::
      ((entries.flatMap fun e => (registryEntry e.1 e.2).map String.toList) ++ [['\x7d']]) := by
  have hopening : ("class " ++ registryClass ++ " \x7b").toList = "class GlobalVars \x7b".toList := by decide
  have hclosing : "\x7d".toList = ['\x7d'] := by decide
  unfold registryLines
  rw [List.cons_append, List.map_cons, List.map_append, List.map_flatMap, List.map_cons, List.map_nil, hopening, hclosing]

theorem readPair?_eq_some_iff {comment field : List Char} :
    readPair? comment field = some e ↔ [comment, field] = (registryEntry e.1 e.2).map String.toList := by
  rw [toList_registryEntry, List.cons.injEq, List.cons.injEq]
  constructor
  · intro h
    have ⟨name, hname, hrest⟩ := Option.bind_eq_some_iff.mp h
    have ⟨className, hclass, hentry⟩ := Option.bind_eq_some_iff.mp hrest
    cases hentry
    have hnameOf : (String.ofList name).toList = name := String.toList_ofList
    have hclassOf : (String.ofList className).toList = className := String.toList_ofList
    dsimp only
    rw [hnameOf, hclassOf]
    exact ⟨between?_eq_some_iff.mp hname, between?_eq_some_iff.mp hclass, rfl⟩
  · intro ⟨hcomment, hfield, _⟩
    refine Option.bind_eq_some_iff.mpr ⟨_, between?_eq_some_iff.mpr hcomment, ?_⟩
    refine Option.bind_eq_some_iff.mpr ⟨_, between?_eq_some_iff.mpr hfield, ?_⟩
    rw [String.ofList_toList, String.ofList_toList]
    rfl

theorem readEntries?_eq_some_iff : readEntries? lines = some entries ↔
    lines = (entries.flatMap fun e => (registryEntry e.1 e.2).map String.toList) ++ [['\x7d']] := by
  fun_induction readEntries? lines generalizing entries with
  | case1 => simp
  | case2 =>
    cases entries with
    | nil => simp
    | cons e entries => simp [registryEntry]
  | case3 line hline =>
    cases entries with
    | nil => simp [hline]
    | cons e entries => simp [registryEntry]
  | case4 comment field lines ih =>
    constructor
    · intro h
      have ⟨e, he, hrest⟩ := Option.bind_eq_some_iff.mp h
      have ⟨es, hes, hentries⟩ := Option.bind_eq_some_iff.mp hrest
      cases hentries
      rw [List.flatMap_cons, ← readPair?_eq_some_iff.mp he, List.append_assoc, ← ih.mp hes]
      rfl
    · intro h
      cases entries with
      | nil => simp at h
      | cons e es =>
        have hsplit : [comment, field] ++ lines = (registryEntry e.1 e.2).map String.toList ++
            ((es.flatMap fun e => (registryEntry e.1 e.2).map String.toList) ++ [['\x7d']]) := by
          rw [← List.append_assoc]
          exact h
        have ⟨hentry, hrest⟩ := List.append_inj hsplit rfl
        refine Option.bind_eq_some_iff.mpr ⟨e, readPair?_eq_some_iff.mpr hentry, ?_⟩
        exact Option.bind_eq_some_iff.mpr ⟨es, ih.mpr hrest, rfl⟩

theorem readClass?_eq_some_iff :
    readClass? lines = some entries ↔ lines = (registryLines entries).map String.toList := by
  rw [toList_registryLines]
  cases lines with
  | nil => simp [readClass?]
  | cons line lines =>
    rw [List.cons.injEq, readClass?]
    constructor
    · intro h
      split at h
      · next hline => exact ⟨hline, readEntries?_eq_some_iff.mp h⟩
      · cases h
    · intro ⟨hline, hrest⟩
      rw [if_pos hline]
      exact readEntries?_eq_some_iff.mpr hrest

theorem toList_registryText (entries : List (String × String)) :
    (registryText entries).toList = ((registryLines entries).map String.toList).flatMap (· ++ ['\n']) := by
  have hfeed : "\n".toList = ['\n'] := by decide
  rw [registryText, String.toList_join, List.flatMap_map, List.flatMap_map]
  refine List.flatMap_congr fun line _ => ?_
  rw [String.toList_append, hfeed]

def Plain (entries : List (String × String)) : Prop :=
  ∀ e ∈ entries, '\n' ∉ e.1.toList ∧ '\n' ∉ e.2.toList

theorem Plain.unbroken (h : Plain entries) : ∀ line ∈ (registryLines entries).map String.toList, '\n' ∉ line := by
  have hopening : '\n' ∉ "class GlobalVars \x7b".toList := by decide
  have hclosing : '\n' ∉ ['\x7d'] := by decide
  have hcomment : '\n' ∉ "/** Global variable ".toList ∧ '\n' ∉ " */".toList := by decide
  have hpackage : '\n' ∉ "globalvars.".toList := by decide
  have hspace : '\n' ≠ ' ' := by decide
  intro line hline
  rw [toList_registryLines, List.mem_cons, List.mem_append, List.mem_singleton, List.mem_flatMap] at hline
  cases hline with
  | inl hfirst => rwa [hfirst]
  | inr hrest =>
    cases hrest with
    | inr hlast => rwa [hlast]
    | inl hentry =>
      have ⟨e, he, hmem⟩ := hentry
      have ⟨hname, hclass⟩ := h e he
      rw [toList_registryEntry, List.mem_pair] at hmem
      cases hmem with
      | inl hcommentLine =>
        rw [hcommentLine, List.mem_append, List.mem_append, not_or, not_or]
        exact ⟨⟨hcomment.1, hname⟩, hcomment.2⟩
      | inr hfieldLine =>
        rw [hfieldLine, List.mem_append, List.mem_append, List.mem_cons, not_or, not_or, not_or]
        exact ⟨⟨hpackage, hclass⟩, hspace, hname⟩

theorem readClass?_registryText (h : Plain entries) :
    readClass? (cutLines (registryText entries).toList) = some entries := by
  rw [readClass?_eq_some_iff, toList_registryText, cutLines_flatMap h.unbroken]

end

section

variable {settings : Settings} {s : SourceSet} {intermediate : FilePath} {encoding : String} {scripts : List Script}
  {w w' : World} {p : Published}

/-- The wrappers are those of the scripts, in their order, and nothing of a wrapper is also another one's. The registry
lists the variables and classes of the wrappers, in the order of the variables. -/
structure OneToOne (scripts : List Script) (p : Published) : Prop where
  sources : p.wrappers.map (·.source) = scripts.map (·.path)
  names : p.wrappers.map (·.name) = scripts.map fun x => variableName x.baseName
  distinctSources : (p.wrappers.map (·.source)).Nodup
  distinctNames : (p.wrappers.map (·.name)).Nodup
  distinctClasses : (p.wrappers.map (·.className)).Nodup
  distinctFiles : (p.wrappers.map (·.generated)).Nodup
  listed : ∀ e, e ∈ p.registry.entries ↔ ∃ x ∈ p.wrappers, e = (x.name, x.className)
  sorted : p.registry.entries.Pairwise fun a b => a.1 < b.1

theorem nodup_variables (h : (scripts.map classOf).Nodup) : (scripts.map fun x => variableName x.baseName).Nodup := by
  have hclasses : scripts.map classOf = (scripts.map fun x => variableName x.baseName).map className := by
    rw [List.map_map]
    rfl
  rw [hclasses] at h
  exact h.of_map className

theorem nodup_classPaths (h : (scripts.map classOf).Nodup) :
    (scripts.map fun x => classPath intermediate (classOf x)).Nodup := by
  have hpaths : (scripts.map fun x => classPath intermediate (classOf x)) =
      (scripts.map classOf).map (classPath intermediate) := by
    rw [List.map_map]
    rfl
  rw [hpaths]
  refine h.map fun c c' heq => ?_
  rwa [classPath, classPath, child_inj, String.append_left_inj] at heq

theorem pairwise_mergeSort_entryLess {entries : List (String × String)} (h : (entries.map (·.1)).Nodup) :
    (entries.mergeSort entryLess).Pairwise fun a b => a.1 < b.1 := by
  have htrans : ∀ a b c, entryLess a b = true → entryLess b c = true → entryLess a c = true :=
    fun _ _ _ => entryLess_trans
  have hsorted : (entries.mergeSort entryLess).Pairwise fun a b => entryLess a b = true :=
    List.pairwise_mergeSort htrans entryLess_total entries
  have hnodup : ((entries.mergeSort entryLess).map (·.1)).Nodup :=
    ((List.mergeSort_perm entries entryLess).map _).nodup_iff.mpr h
  refine (hsorted.and (List.pairwise_map.mp hnodup)).imp fun ⟨hless, hne⟩ => ?_
  exact (entryLess_iff.mp hless).resolve_right fun hsame => hne hsame.1

theorem plain_of_scripts (h : ∀ x ∈ scripts, '\n' ∉ x.baseName.toList) :
    Plain (registryOf intermediate (scripts.map (wrapperOf intermediate))).entries := by
  intro e he
  rw [registryOf, List.mem_mergeSort, List.map_map, List.mem_map] at he
  obtain ⟨x, hx, rfl⟩ := he
  have hname : '\n' ∉ (variableName x.baseName).toList := fun hmem => h x hx (mem_of_mem_stem hmem)
  have hclass : '\n' ∉ (classOf x).toList := by
    rw [classOf, className, String.toList_append, List.mem_append, not_or]
    exact ⟨by decide, fun hmem => hname (mem_of_mem_upper (by decide) hmem)⟩
  exact ⟨hname, hclass⟩

theorem oneToOne_of_scan {sourceSet : SourceSet} {count : Nat} (hscan : w.disk.scan s = .ok scripts)
    (hnodup : (scripts.map classOf).Nodup) :
    OneToOne scripts ⟨sourceSet, scripts.map (wrapperOf intermediate),
      registryOf intermediate (scripts.map (wrapperOf intermediate)), count⟩ where
  sources := by
    rw [List.map_map]
    rfl
  names := by
    rw [List.map_map]
    rfl
  distinctSources := by
    rw [List.map_map]
    exact Disk.nodup_paths_of_scan hscan
  distinctNames := by
    rw [List.map_map]
    exact nodup_variables hnodup
  distinctClasses := by
    rw [List.map_map]
    exact hnodup
  distinctFiles := by
    rw [List.map_map]
    exact nodup_classPaths hnodup
  listed e := by
    rw [registryOf, List.mem_mergeSort, List.mem_map]
    simp only [eq_comm]
  sorted := by
    refine pairwise_mergeSort_entryLess ?_
    rw [List.map_map, List.map_map]
    exact nodup_variables hnodup

/-- What a run publishes has one wrapper for each script of the library and one entry for each wrapper. Its registry can be
read back from the disk if no name of a script breaks a line and the encoding gives the text of the registry back. -/
theorem publish_one_to_one (h : (publish settings s intermediate encoding).runFrom w = (.ok p, w')) :
    p.registry.path = intermediate.child "Vars.groovy" ∧
    ∃ scripts, w.disk.scan s = .ok scripts ∧ OneToOne scripts p ∧
      ((∀ x ∈ scripts, '\n' ∉ x.baseName.toList) →
        ∃ data charset, w'.disk.read p.registry.path = .ok data ∧ Charset.named false encoding = .ok charset ∧
          (charset.GivesBack (registryText p.registry.entries).toList →
            ∃ text, charset.decodeAll data = .ok text ∧ readClass? (cutLines text) = some p.registry.entries)) := by
  have ⟨scripts, count, w₁, changed, w₂, text, hscan, hnodup, _, ⟨P, m, hdir⟩, hwrite, hp, hw⟩ := publish_ok h
  subst hp hw
  refine ⟨rfl, scripts, hscan, oneToOne_of_scan hscan hnodup, fun hplain => ?_⟩
  have ⟨_, l, data, _, hdata, _, ⟨m', a', hstat⟩, _⟩ := publishRegistry_ok hdir hwrite
  have ⟨charset, hnamed, hdecoded⟩ := Charset.exists_decodeAll_of_encodeAs hdata
  refine ⟨data, charset, Disk.read_of_stat hstat, hnamed, fun hback => ?_⟩
  exact ⟨_, hdecoded hback, readClass?_registryText (plain_of_scripts hplain)⟩

end

/-- A project with a script of which the name looks like the end of a comment. -/
def commentTree : FileTree where
  entries := [([], .dir .now), (["p"], .dir .now), (["vars", "p"], .dir .now),
    (["a */ b.groovy", "vars", "p"], .file [35, 10] .now .now)]
  nodup := by decide

theorem entries_of_commentTree : ∃ p w' data text, (sampleRun commentTree "utf-8").outcome = (.ok p, w') ∧
    p.registry.entries = [("a */ b", "VarA */ B")] ∧ w'.disk.read p.registry.path = .ok data ∧
    Charset.utf8.decodeAll data = .ok text ∧ readClass? (cutLines text) = some p.registry.entries := by
  have hentries : (sampleRun commentTree "utf-8").result.toOption.map (·.registry.entries) =
      some [("a */ b", "VarA */ B")] := by
    decide +kernel
  have hnames : ((sampleRun commentTree "utf-8").world.disk.scan (sampleRun commentTree "utf-8").library).toOption.map
      (fun scripts => scripts.map (·.baseName)) = some ["a */ b.groovy"] := by
    decide +kernel
  have ⟨p, hp, hlisted⟩ := Option.map_eq_some_iff.mp hentries
  have hrun := (sampleRun commentTree "utf-8").outcome_eq
  rw [ok_of_toOption hp] at hrun
  have ⟨_, scripts, hscan, _, hread⟩ := publish_one_to_one hrun
  have hplain : ∀ x ∈ scripts, '\n' ∉ x.baseName.toList := by
    intro x hx
    rw [hscan] at hnames
    have hbase : scripts.map (·.baseName) = ["a */ b.groovy"] := Option.some.inj hnames
    have hmem : x.baseName ∈ ["a */ b.groovy"] := hbase ▸ List.mem_map_of_mem hx
    rw [List.mem_singleton.mp hmem]
    decide
  have ⟨data, charset, hdata, hnamed, hback⟩ := hread hplain
  have hutf8 : (Charset.named false (sampleRun commentTree "utf-8").encoding).toOption = some .utf8 := by decide +kernel
  cases hnamed.symm.trans (ok_of_toOption hutf8)
  have ⟨text, hdecoded, hentries⟩ := hback fun hshift => nomatch hshift
  exact ⟨p, _, data, text, hrun, hlisted, hdata, hdecoded, hentries⟩

def yenTree : FileTree where
  entries := [([], .dir .now), (["p"], .dir .now), (["vars", "p"], .dir .now),
    (["a¥.groovy", "vars", "p"], .file [35, 10] .now .now)]
  nodup := by decide

/-- The registry of a run that succeeds can be read back if no name of a script breaks a line. -/
def ReadsBack : Prop :=
  ∀ settings s intermediate encoding w p w', (publish settings s intermediate encoding).runFrom w = (.ok p, w') →
    ∀ scripts, w.disk.scan s = .ok scripts → (∀ x ∈ scripts, '\n' ∉ x.baseName.toList) →
      ∃ data charset text, w'.disk.read p.registry.path = .ok data ∧ Charset.named false encoding = .ok charset ∧
        charset.decodeAll data = .ok text ∧ readClass? (cutLines text) = some p.registry.entries

/-- In Shift JIS, the yen sign is read back as a backslash. -/
theorem registry_may_not_read_back : ¬ReadsBack := by
  intro h
  have hentries : (sampleRun yenTree "shift_jis").result.toOption.map (fun p => (p.registry.path, p.registry.entries)) =
      some (⟨.slash, ["p", "out", "Vars.groovy"]⟩, [("a¥", "VarA¥")]) := by
    decide +kernel
  have hnames : ((sampleRun yenTree "shift_jis").world.disk.scan (sampleRun yenTree "shift_jis").library).toOption.map
      (fun scripts => scripts.map (·.baseName)) = some ["a¥.groovy"] := by
    decide +kernel
  have hback : ((sampleRun yenTree "shift_jis").outcome.2.disk.read ⟨.slash, ["p", "out", "Vars.groovy"]⟩).toOption.bind
      (fun data => (Charset.shiftJis.decodeAll data).toOption.bind fun text => readClass? (cutLines text)) =
        some [("a\\", "VarA\\")] := by
    decide +kernel
  have ⟨p, hp, hlisted⟩ := Option.map_eq_some_iff.mp hentries
  have ⟨hpath, hregistered⟩ := Prod.mk.inj hlisted
  have hrun := (sampleRun yenTree "shift_jis").outcome_eq
  rw [ok_of_toOption hp] at hrun
  have ⟨scripts, hscan, hbase⟩ := Option.map_eq_some_iff.mp hnames
  have hplain : ∀ x ∈ scripts, '\n' ∉ x.baseName.toList := by
    intro x hx
    have hmem : x.baseName ∈ ["a¥.groovy"] := hbase ▸ List.mem_map_of_mem hx
    rw [List.mem_singleton.mp hmem]
    decide
  have ⟨data, charset, text, hdata, hnamed, hdecoded, hread⟩ := h _ _ _ _ _ _ _ hrun scripts (ok_of_toOption hscan) hplain
  have hshift : (Charset.named false (sampleRun yenTree "shift_jis").encoding).toOption = some .shiftJis := by decide +kernel
  cases hnamed.symm.trans (ok_of_toOption hshift)
  rw [hpath] at hdata
  rw [hdata] at hback
  simp only [Except.toOption, Option.bind_some, hdecoded, hread, hregistered] at hback
  exact absurd hback (by decide)

end JavaStubs.Library
