import JavaStubs.Proofs.Charset.Blocks
import JavaStubs.Proofs.Library.Found
import JavaStubs.Proofs.Library.History
import JavaStubs.Proofs.Text.Lines

/-! What is in a wrapper: the lines of its script, each as it is or as a comment. The wrapper stays as it was written
unless its path and that of another generated file lead to one file, or to none. -/
namespace JavaStubs

def Disk.ends? (d : Disk) (p : FilePath) : Option Loc :=
  (d.stat p).toOption.map (·.1)

structure Disk.LeadsApart (d : Disk) (paths : List FilePath) : Prop where
  files : ∀ p ∈ paths, d.isFile? p = .ok true
  apart : ∀ p ∈ paths, ∀ q ∈ paths, d.ends? p = d.ends? q → p = q

theorem Disk.ends?_of_stat {d : Disk} {p : FilePath} {l : Loc} {e : Entry} (h : d.stat p = .ok (l, e)) :
    d.ends? p = some l := by
  rw [ends?, h]
  rfl

/-- A path that leads to a file led to it before, if no directory or link has come in since and the file was there. -/
theorem Disk.stat_before {d d' : Disk} {p : FilePath} {l : Loc} {data : List UInt8} {m a : Stamp}
    (h : d'.stat p = .ok (l, .file data m a)) (hkept : d'.Changes FileTree.Kept d) (hdata : d.tree.data? l = some data) :
    ∃ m a, d.stat p = .ok (l, .file data m a) := by
  have ⟨m', a', hentry⟩ := FileTree.get?_of_data? hdata
  exact ⟨m', a', stat_eq_ok_iff.mpr (locate_of_kept (stat_eq_ok_iff.mp h) hkept hentry rfl id)⟩

namespace Library

open FileTree Text

def commented (line : List Char) : List Char :=
  (if line.head? = some '#' then ['/', '/', ' '] else []) ++ line

def wrapperContent (className : String) (lines : List (List Char)) : String :=
  "package globalvars\n\nclass " ++ className ++ " \x7b\n" ++
    String.ofList (lines.flatMap fun line => commented line ++ ['\n']) ++ "\n\x7d\n"

/-- The bytes of a wrapper are those that the bytes of its script ask for: they are the text of the wrapper for the lines
between the breaks of the script's text, all in one character set, and each line of the script is a line of the body. -/
def Wraps (encoding className : String) (source data : List UInt8) : Prop :=
  ∃ charset text lines, Charset.named false encoding = .ok charset ∧ charset.decodeAll source = .ok text ∧
    CutAtBreaks text lines ∧ Charset.encodeAs encoding (wrapperContent className lines) = .ok data ∧
    cutLines (lines.flatMap fun line => commented line ++ ['\n']) = lines.map commented

theorem commented_eq (line : List Char) : commented line = bodyLine line := by
  unfold commented bodyLine
  split <;> rfl

theorem wrapperText_eq (className : String) (lines : List (List Char)) :
    wrapperText className (lines.map fun line => String.ofList (bodyLine line)) = wrapperContent className lines := by
  have hbody : (lines.map fun line => String.ofList (bodyLine line)).map String.toList = lines.map commented := by
    rw [List.map_map]
    refine List.map_congr_left fun line _ => ?_
    rw [Function.comp_apply, String.toList_ofList, commented_eq]
  have hhead : ("package " ++ package ++ "\n\nclass ") = "package globalvars\n\nclass " := by decide
  have hparts : ∀ (head name opening closing : String) (body : List Char),
      String.ofList (head.toList ++ name.toList ++ opening.toList ++ body ++ closing.toList) =
        head ++ name ++ opening ++ String.ofList body ++ closing := by
    intro head name opening closing body
    rw [← String.toList_inj]
    simp
  unfold wrapperText wrapperChars wrapperContent
  rw [hbody, hhead, List.flatMap_map]
  exact hparts "package globalvars\n\nclass " className " \x7b\n" "\n\x7d\n" _

theorem cutLines_commented {lines : List (List Char)} (h : ∀ line ∈ lines, Unbroken line) :
    cutLines (lines.flatMap fun line => commented line ++ ['\n']) = lines.map commented := by
  have hfeed : ∀ line ∈ lines.map commented, '\n' ∉ line := by
    intro line hline
    have ⟨line', hmem, heq⟩ := List.mem_map.mp hline
    subst heq
    have hnone := (h line' hmem).noFeed
    unfold commented
    split <;> simpa using hnone
  have hcut := cutLines_flatMap hfeed
  rwa [List.flatMap_map] at hcut

theorem wraps_of_wrapperData {encoding className : String} {source data : List UInt8}
    (h : wrapperData encoding className source = .ok data) : Wraps encoding className source data := by
  have ⟨body, hbody, hdata⟩ := wrapperData_ok h
  have ⟨charset, hnamed, htext⟩ := ok_of_bind hbody
  have ⟨text, hdecoded, hlines⟩ := ok_of_bind htext
  cases hlines
  have hcut : CutAtBreaks text (linesOf text) := linesOf_eq_iff.mp rfl
  rw [wrapperText_eq] at hdata
  exact ⟨charset, text, linesOf text, hnamed, Charset.decodeAll_of_decodeFile hdecoded, hcut, hdata,
    cutLines_commented hcut.unbroken⟩

section

variable {settings : Settings} {encoding : String} {intermediate : FilePath} {scripts : List Script} {w w' : World}
  {count : Nat}

def LedTo (d : Disk) (intermediate : FilePath) (scripts : List Script) (l : Loc) : Prop :=
  ∃ y ∈ scripts, ∃ e, d.stat (classPath intermediate (classOf y)) = .ok (l, e)

theorem LedTo.mono {d : Disk} {l : Loc} {scripts' : List Script} (h : LedTo d intermediate scripts l)
    (hsub : ∀ y ∈ scripts, y ∈ scripts') : LedTo d intermediate scripts' l := by
  have ⟨y, hy, hstat⟩ := h
  exact ⟨y, hsub y hy, hstat⟩

/-- Nothing but directories is new where no path of a wrapper leads. -/
theorem gains_of_publishWrappers
    (h : (publishWrappers settings encoding (scripts.map (wrapperOf intermediate))).runFrom w = (.ok count, w')) :
    w.disk.Changes (Gains (LedTo w'.disk intermediate scripts)) w'.disk := by
  induction scripts generalizing w count with
  | nil =>
    cases h
    exact ⟨.refl _, rfl, rfl⟩
  | cons x xs ih =>
    have ⟨w₁, count₁, l, data, hwrites, ⟨m, a, hstat⟩, _, hrest⟩ := publishWrappers_cons_ok _ _ _ h
    have hlater := ih hrest
    have ⟨data', m', a', hstat'⟩ := Disk.stat_file_of_gains hstat hlater
    have hfirst : w.disk.Changes (Gains (LedTo w'.disk intermediate (x :: xs))) w₁.disk := by
      refine hwrites.imp fun _ _ h => h.gains.mono fun l' hl' => ?_
      rw [hl']
      exact ⟨x, List.mem_cons_self, _, hstat'⟩
    have hothers : w₁.disk.Changes (Gains (LedTo w'.disk intermediate (x :: xs))) w'.disk :=
      hlater.imp fun _ _ h => h.mono fun l' hl' => hl'.mono fun y hy => List.mem_cons_of_mem x hy
    exact hfirst.comp hothers Gains.trans

/-- The turn of a script: its wrapper is written from the bytes that the script has then. Before it, nothing but
directories and other wrappers came in, and after it nothing is written but through the paths of other wrappers. -/
structure TurnOf (encoding : String) (intermediate : FilePath) (scripts : List Script) (before after : Disk) (x : Script)
    (moment turn : Disk) (source data : List UInt8) : Prop where
  earlier : before.Changes (Gains (LedTo moment intermediate scripts)) moment
  read : moment.read x.path = .ok source
  wrapped : wrapperData encoding (classOf x) source = .ok data
  written : ∃ l m a, moment.Changes (Writes l data) turn ∧
    turn.stat (classPath intermediate (classOf x)) = .ok (l, .file data m a)
  later : turn.Changes (Gains (LedTo after intermediate (scripts.filter fun y => classOf y ≠ classOf x))) after

theorem turns_of_publishWrappers (hnodup : (scripts.map classOf).Nodup)
    (h : (publishWrappers settings encoding (scripts.map (wrapperOf intermediate))).runFrom w = (.ok count, w')) :
    ∀ x ∈ scripts, ∃ moment turn source data,
      TurnOf encoding intermediate scripts w.disk w'.disk x moment turn source data := by
  induction scripts generalizing w count with
  | nil => simp
  | cons x xs ih =>
    have ⟨w₁, count₁, l, data, hwrites, ⟨m, a, hstat⟩, ⟨l₀, source, m₀, a₀, hsource, hdata⟩, hrest⟩ :=
      publishWrappers_cons_ok _ _ _ h
    rw [List.map_cons, List.nodup_cons] at hnodup
    intro y hy
    cases hy with
    | head =>
      refine ⟨w.disk, w₁.disk, source, data, ⟨.refl _, rfl, rfl⟩, Disk.read_of_stat hsource, hdata,
        ⟨l, m, a, hwrites, hstat⟩, (gains_of_publishWrappers hrest).imp fun _ _ h => h.mono fun l' hl' => ?_⟩
      refine hl'.mono fun z hz => List.mem_filter.mpr ⟨List.mem_cons_of_mem x hz, ?_⟩
      rw [decide_eq_true_eq]
      intro heq
      exact hnodup.1 (heq ▸ List.mem_map_of_mem hz)
    | tail _ hy =>
      have ⟨moment, turn, source', data', hturn⟩ := ih hnodup.2 hrest y hy
      have ⟨data₁, m₁, a₁, hstat₁⟩ := Disk.stat_file_of_gains hstat hturn.earlier
      have hfirst : w.disk.Changes (Gains (LedTo moment intermediate (x :: xs))) w₁.disk := by
        refine hwrites.imp fun _ _ h => h.gains.mono fun l' hl' => ?_
        rw [hl']
        exact ⟨x, List.mem_cons_self, _, hstat₁⟩
      have hothers : w₁.disk.Changes (Gains (LedTo moment intermediate (x :: xs))) moment :=
        hturn.earlier.imp fun _ _ h => h.mono fun l' hl' => hl'.mono fun z hz => List.mem_cons_of_mem x hz
      have hsub := ((List.sublist_cons_self x xs).filter fun z => classOf z ≠ classOf y).subset
      have hlater := hturn.later.imp fun _ _ h => h.mono fun l' hl' => hl'.mono fun z hz => hsub hz
      exact ⟨moment, turn, source', data',
        ⟨hfirst.comp hothers Gains.trans, hturn.read, hturn.wrapped, hturn.written, hlater⟩⟩

/-- Paths that lead to files after the registry was written, but not to the registry, led to them before. -/
theorem stat_before_publishRegistry {changed : Bool} {P : Loc} {m : Stamp}
    (hdir : w.disk.stat (packageDir intermediate) = .ok (P, .dir m))
    (h : (publishRegistry settings intermediate encoding (scripts.map (wrapperOf intermediate))).runFrom w =
      (.ok changed, w')) :
    ∃ l e, w'.disk.stat (registryPath intermediate) = .ok (l, e) ∧
      ∀ {p l' data m a}, w'.disk.stat p = .ok (l', .file data m a) → l' ≠ l →
        ∃ m a, w.disk.stat p = .ok (l', .file data m a) := by
  have ⟨d, l, _, hloses, _, hwrites, ⟨m₁, a₁, hstat⟩, _⟩ := publishRegistry_ok hdir h
  have hkept : w'.disk.Changes Kept w.disk :=
    ⟨publishRegistry_kept hdir h, (hwrites.cwd.trans hloses.cwd).symm, (hwrites.rules.trans hloses.rules).symm⟩
  refine ⟨l, _, hstat, fun {p l' data m a} hp hne => Disk.stat_before hp hkept ?_⟩
  have hdata : d.tree.data? l' = some data := by
    have hthere := hwrites.tree.data? l'
    rwa [if_neg hne, Disk.data?_of_stat hp, eq_comm] at hthere
  cases hloses.data? l' with
  | inl hsame => rw [← hsame, hdata]
  | inr hlost =>
    rw [hlost.2] at hdata
    cases hdata

theorem registryPath_ne_classPath {c : String} : registryPath intermediate ≠ classPath intermediate c := by
  intro h
  have hlength := congrArg (·.parts.length) h
  simp [registryPath, classPath, packageDir, FilePath.child] at hlength

/-- What was written through a path in its turn is there in the end, if the paths of all generated files lead apart. -/
theorem read_of_turn {x : Script} {moment turn : Disk} {source data : List UInt8} {changed : Bool} {P : Loc} {m : Stamp}
    {w₁ w₂ : World} (hx : x ∈ scripts)
    (hturn : TurnOf encoding intermediate scripts w.disk w₁.disk x moment turn source data)
    (hdir : w₁.disk.stat (packageDir intermediate) = .ok (P, .dir m))
    (hregistry : (publishRegistry settings intermediate encoding (scripts.map (wrapperOf intermediate))).runFrom w₁ =
      (.ok changed, w₂))
    (hapart : w₂.disk.LeadsApart
      (registryPath intermediate :: scripts.map fun y => classPath intermediate (classOf y))) :
    w₂.disk.read (classPath intermediate (classOf x)) = .ok data := by
  have ⟨lr, er, hstatr, hbefore⟩ := stat_before_publishRegistry hdir hregistry
  have hends : ∀ y ∈ scripts, ∃ l data m a, w₂.disk.stat (classPath intermediate (classOf y)) = .ok (l, .file data m a) ∧
      ∃ m a, w₁.disk.stat (classPath intermediate (classOf y)) = .ok (l, .file data m a) := by
    intro y hy
    have hmem : classPath intermediate (classOf y) ∈ scripts.map fun y => classPath intermediate (classOf y) :=
      List.mem_map_of_mem hy
    have ⟨l, data, m, a, hstat⟩ := Disk.stat_of_isFile? (hapart.files _ (List.mem_cons_of_mem _ hmem))
    refine ⟨l, data, m, a, hstat, hbefore hstat ?_⟩
    intro heq
    have hboth : w₂.disk.ends? (registryPath intermediate) = w₂.disk.ends? (classPath intermediate (classOf y)) := by
      rw [Disk.ends?_of_stat hstatr, Disk.ends?_of_stat hstat, heq]
    have hpath := hapart.apart _ List.mem_cons_self _ (List.mem_cons_of_mem _ hmem) hboth
    exact registryPath_ne_classPath hpath
  have ⟨l, data', m', a', hend, m₁, a₁, hthen⟩ := hends x hx
  have ⟨lt, mt, at', _, hwritten⟩ := hturn.written
  have ⟨data₁, m₂, a₂, hkept⟩ := Disk.stat_file_of_gains hwritten hturn.later
  cases hthen.symm.trans hkept
  have hsame : w₁.disk.tree.data? l = turn.tree.data? l := by
    refine (hturn.later.tree.data? l).resolve_right ?_
    intro ⟨⟨y, hy, e, hled⟩, _⟩
    have ⟨hmem, hclass⟩ := List.mem_filter.mp hy
    have ⟨l', data', m', a', hend', m'', a'', hthen'⟩ := hends y hmem
    cases hthen'.symm.trans hled
    have hboth : w₂.disk.ends? (classPath intermediate (classOf y)) = w₂.disk.ends? (classPath intermediate (classOf x)) := by
      rw [Disk.ends?_of_stat hend, Disk.ends?_of_stat hend']
    have hpath := hapart.apart _ (List.mem_cons_of_mem _ (List.mem_map_of_mem hmem)) _
      (List.mem_cons_of_mem _ (List.mem_map_of_mem hx)) hboth
    rw [classPath, classPath, child_inj, String.append_left_inj] at hpath
    exact of_decide_eq_true hclass hpath
  rw [Disk.data?_of_stat hkept, Disk.data?_of_stat hwritten, Option.some.injEq] at hsame
  rw [Disk.read_of_stat hend, hsame]

/-- Each wrapper of a run that succeeds is written in its turn, with the bytes that those of its script ask for, which are
read when nothing but directories and wrappers is new. In the end it still has them if the paths of all generated files
lead to files, each to another one. -/
theorem publish_wraps {s : SourceSet} {p : Published}
    (h : (publish settings s intermediate encoding).runFrom w = (.ok p, w')) :
    (∃ scripts, w.disk.scan s = .ok scripts ∧ p.wrappers = scripts.map (wrapperOf intermediate)) ∧
      ∀ x ∈ p.wrappers, ∃ moment turn source data,
        w.disk.Changes (Gains fun l => ∃ y ∈ p.wrappers, ∃ e, moment.stat y.generated = .ok (l, e)) moment ∧
        moment.read x.source = .ok source ∧ Wraps encoding x.className source data ∧
        (∃ l, moment.Changes (Writes l data) turn) ∧ turn.read x.generated = .ok data ∧
        (w'.disk.LeadsApart (p.registry.path :: p.wrappers.map (·.generated)) → w'.disk.read x.generated = .ok data) := by
  have ⟨scripts, count, w₁, changed, w₂, text, hscan, hnodup, hclasses, ⟨P, m, hdir⟩, hwrite, hp, hw⟩ := publish_ok h
  subst hp hw
  refine ⟨⟨scripts, hscan, rfl⟩, fun x hx => ?_⟩
  have ⟨y, hy, hxy⟩ := List.mem_map.mp hx
  subst hxy
  have ⟨scripts', w₀, hscan', _, _, hmore, _, hwrappers⟩ := publishClasses_ok hclasses
  cases hscan.symm.trans hscan'
  have ⟨moment, turn, source, data, hturn⟩ := turns_of_publishWrappers hnodup hwrappers y hy
  have ⟨l, mt, at', hwrites, hstat⟩ := hturn.written
  have hbefore : w.disk.Changes
      (Gains fun l => ∃ x ∈ scripts.map (wrapperOf intermediate), ∃ e, moment.stat x.generated = .ok (l, e)) moment := by
    refine (hmore.imp fun _ _ h => h.gains).comp (hturn.earlier.imp fun _ _ h => h.mono fun l' hl' => ?_) Gains.trans
    have ⟨z, hz, hled⟩ := hl'
    exact ⟨_, List.mem_map_of_mem hz, hled⟩
  refine ⟨moment, turn, source, data, hbefore, hturn.read, wraps_of_wrapperData hturn.wrapped, ⟨l, hwrites⟩,
    Disk.read_of_stat hstat, fun hapart => ?_⟩
  have hpaths : (scripts.map (wrapperOf intermediate)).map (·.generated) =
      scripts.map fun y => classPath intermediate (classOf y) := by
    rw [List.map_map]
    rfl
  rw [hpaths] at hapart
  have hread := read_of_turn hy hturn hdir hwrite hapart
  exact hread

end

/-- A project with a script in which there is each kind of line break, and none at its end. -/
def brokenTree : FileTree where
  entries := [([], .dir .now), (["p"], .dir .now), (["vars", "p"], .dir .now),
    (["a.groovy", "vars", "p"], .file [35, 97, 13, 10, 98, 13, 13, 10, 10, 35, 99] .now .now)]
  nodup := by decide

def brokenPaths : List FilePath :=
  [⟨.slash, ["p", "out", "Vars.groovy"]⟩, ⟨.slash, ["p", "out", "globalvars", "VarA.groovy"]⟩]

theorem wraps_of_brokenTree : ∃ p w', (sampleRun brokenTree "utf-8").outcome = (.ok p, w') ∧
    w'.disk.LeadsApart (p.registry.path :: p.wrappers.map (·.generated)) ∧
    ∀ x ∈ p.wrappers, ∃ source data, Wraps "utf-8" x.className source data ∧ w'.disk.read x.generated = .ok data := by
  have hpaths : (sampleRun brokenTree "utf-8").result.toOption.map
      (fun p => p.registry.path :: p.wrappers.map (·.generated)) = some brokenPaths := by
    decide +kernel
  have ⟨p, hp, hlisted⟩ := Option.map_eq_some_iff.mp hpaths
  have hrun := (sampleRun brokenTree "utf-8").outcome_eq
  rw [ok_of_toOption hp] at hrun
  have hapart : (sampleRun brokenTree "utf-8").outcome.2.disk.LeadsApart
      (p.registry.path :: p.wrappers.map (·.generated)) := by
    rw [hlisted]
    exact ⟨fun q hq => ok_of_toOption (by revert q; decide +kernel), by decide +kernel⟩
  refine ⟨p, _, hrun, hapart, fun x hx => ?_⟩
  have ⟨_, _, source, data, _, _, hwraps, _, _, hread⟩ := (publish_wraps hrun).2 x hx
  exact ⟨source, data, hwraps, hread hapart⟩

/-- A project in which a link to the registry stands where the wrapper of the script will be. -/
def linkedTree : FileTree where
  entries := [([], .dir .now), (["p"], .dir .now), (["vars", "p"], .dir .now),
    (["a.groovy", "vars", "p"], .file [35, 10] .now .now), (["out", "p"], .dir .now),
    (["globalvars", "out", "p"], .dir .now), (["VarA.groovy", "globalvars", "out", "p"], .link "../Vars.groovy")]
  nodup := by decide

theorem head?_of_wraps {className : String} {source data : List UInt8} (h : Wraps "utf-8" className source data) :
    data.head? = some 112 := by
  have ⟨_, _, lines, _, _, _, hdata, _⟩ := h
  rw [← wrapperText_eq] at hdata
  exact head?_of_wrapperText hdata

/-- A run that succeeds leaves each wrapper with the bytes that its script asks for. -/
def WrapsInTheEnd : Prop :=
  ∀ settings s intermediate encoding w p w', (publish settings s intermediate encoding).runFrom w = (.ok p, w') →
    ∀ x ∈ p.wrappers, ∃ source data, w.disk.read x.source = .ok source ∧ Wraps encoding x.className source data ∧
      w'.disk.read x.generated = .ok data

/-- Through the link, the registry is written over the wrapper. -/
theorem wrapper_may_be_overwritten : ¬WrapsInTheEnd := by
  intro h
  have hwrappers : (sampleRun linkedTree "utf-8").result.toOption.map (fun p => p.wrappers.map (·.generated)) =
      some [⟨.slash, ["p", "out", "globalvars", "VarA.groovy"]⟩] := by
    decide +kernel
  have ⟨p, hp, hgenerated⟩ := Option.map_eq_some_iff.mp hwrappers
  have hrun := (sampleRun linkedTree "utf-8").outcome_eq
  rw [ok_of_toOption hp] at hrun
  have ⟨x, hx, hpath⟩ := List.mem_map.mp (hgenerated ▸ List.mem_cons_self)
  have ⟨source, data, _, hwraps, hread⟩ := h _ _ _ _ _ _ _ hrun x hx
  have hhead : ((sampleRun linkedTree "utf-8").outcome.2.disk.read
      ⟨.slash, ["p", "out", "globalvars", "VarA.groovy"]⟩).toOption.bind List.head? = some 99 := by
    decide +kernel
  rw [← hpath, hread] at hhead
  cases (head?_of_wraps hwraps).symm.trans hhead

end Library

end JavaStubs
