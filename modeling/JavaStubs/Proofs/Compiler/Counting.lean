import JavaStubs.Proofs.Compiler.Endings
import JavaStubs.Proofs.Disk.StubTimes

/-! The count that a command gives back: of the stubs below its target directory, those that are new after the run or
have another time than before. -/
namespace JavaStubs

open Disk

/-- A Java file below a directory afterwards that was not there before, or has another time than before. -/
def Generated (before after : Disk) (target q : FilePath) : Prop :=
  ∃ time, after.FileBelow target q time ∧ Text.endsWith q.name ".java" = true ∧
    ∀ earlier, before.FileBelow target q earlier → earlier ≠ time

/-- A program has exited with 0, and what it has put out may not be text. -/
def Ending.ExitedWell (ending : Ending) : Prop :=
  (∃ stdout stderr, ending = .exited 0 stdout stderr) ∨ ∃ e, ending = .broken (.charset e)

/-- What keeps a command that exits with 0 from being counted: a look at its target that is refused, before the run or
after it, or output that is not text. -/
inductive Uncounted (before after : Disk) (ending : Ending) (target : FilePath) : Failure → Prop
  | before {f} : before.Unseen target Compiler.stubEndings f → Uncounted before after ending target f
  | output {e} : ending = .broken (.charset e) → Uncounted before after ending target (.charset e)
  | after {f} : after.Unseen target Compiler.stubEndings f → Uncounted before after ending target f

/-- What compiling to a target gives back after a run that has made one disk of another. -/
structure Counts (before after : Disk) (ending : Ending) (target : FilePath) (result : Except Failure Int) : Prop where
  counted : (∀ f, ¬Uncounted before after ending target f) →
    ∃ paths : List FilePath, paths.Nodup ∧ (∀ q, q ∈ paths ↔ Generated before after target q) ∧ result = .ok paths.length
  refused : (∃ f, Uncounted before after ending target f) → ∃ f, Uncounted before after ending target f ∧ result = .error f

theorem Compiler.any_stubEndings (name : String) :
    stubEndings.any (Text.endsWith name ·) = Text.endsWith name ".java" :=
  Bool.or_false _

/-- The count is the number of stubs that were generated, no stub being counted twice. -/
theorem countChanged_of_times {d d' : Disk} {p : FilePath} {before after : Times} (hnodup : (before.map (·.1)).Nodup)
    (hbefore : ∀ q time, (q, time) ∈ before ↔ d.FileBelow p q time ∧ Text.endsWith q.name ".java" = true)
    (hnodup' : (after.map (·.1)).Nodup)
    (hafter : ∀ q time, (q, time) ∈ after ↔ d'.FileBelow p q time ∧ Text.endsWith q.name ".java" = true) :
    ∃ paths : List FilePath, paths.Nodup ∧ (∀ q, q ∈ paths ↔ Generated d d' p q) ∧
      countChanged before after = paths.length := by
  refine ⟨(after.filter fun x => x ∉ before).map (·.1), (List.filter_sublist.map _).nodup hnodup', fun q => ?_, ?_⟩
  · have hchanged : q ∈ (after.filter fun x => x ∉ before).map (·.1) ↔
        ∃ time, (q, time) ∈ after ∧ (q, time) ∉ before := by
      simp
    rw [hchanged]
    refine exists_congr fun time => ?_
    rw [hafter, hbefore, and_assoc, and_congr_right_iff]
    intro _
    rw [and_congr_right_iff]
    intro hends
    constructor
    · rintro hnot earlier hearlier rfl
      exact hnot ⟨hearlier, hends⟩
    · exact fun hnone hboth => hnone time hboth.1 rfl
  · rw [countChanged_eq hnodup, List.length_map]

namespace Compiler

variable {spec : CommandSpec} {r : Request} {w : World} {x : Behaviour} {xs : List Behaviour} {before : Times}
  {out err : String}

theorem runCommand_of_refused {e : Failure} (hfiles : r.files ≠ []) (h : w.disk.times r.target stubEndings = .error e) :
    ((runCommand spec r).runFrom w).1 = .error e := by
  unfold runCommand
  rw [if_neg (by simpa using hfiles), Acting.runFrom_bind, Action.runFrom_look, h]

theorem runCommand_of_unread (spec : CommandSpec) (hfiles : r.files ≠ [])
    (hbefore : w.disk.times r.target stubEndings = .ok before) (hnext : w.behaviours = x :: xs) {e : CharsetError}
    (hbroken : x.ending = .broken (.charset e)) : ((runCommand spec r).runFrom w).1 = .error (.charset e) := by
  have hrun : ((Action.run (r.commandLine spec.command) spec.directory spec.timeout spec.log?).runFrom w).1 =
      .error (.charset e) := Action.run_of_broken _ _ _ hnext hbroken
  unfold runCommand
  rw [if_neg (by simpa using hfiles), Acting.runFrom_bind, Action.runFrom_look, hbefore]
  dsimp only
  rw [Acting.runFrom_bind, Acting.runFrom_mapFailure]
  generalize (Action.run (r.commandLine spec.command) spec.directory spec.timeout spec.log?).runFrom w = ran at hrun ⊢
  obtain ⟨result, w'⟩ := ran
  cases hrun
  rfl

theorem runCommand_of_success (spec : CommandSpec) (hfiles : r.files ≠ []) (hbefore : w.disk.times r.target stubEndings = .ok before)
    (hnext : w.behaviours = x :: xs) (hexit : x.ending = .exited 0 out err) :
    ((runCommand spec r).runFrom w).1 = ((x.leave w.disk).times r.target stubEndings).map fun after =>
      (countChanged before after : Int) := by
  have hresult : ∀ ms, x.ending.result? spec.timeout ms = some ⟨0, out, err, ms⟩ := fun ms => by
    rw [hexit]
    rfl
  obtain ⟨ms, hrun⟩ := runCommand_of_ended hfiles hbefore hnext hresult
  have hjudged : judge spec.timeout ⟨0, out, err, ms⟩ = .ok () := rfl
  rw [hrun, hjudged]
  rfl

end Compiler

namespace BuildAction

variable {b : Build} {spec : CommandSpec} {x : Behaviour} {xs : List Behaviour} {target : FilePath}

end BuildAction

/-- A compiler that was given the file and is about to start a program that makes another tree of the project. -/
def countingSample (after : FileTree) : Build where
  world :=
    { disk := { tree := barrenTree, cwd := .root }
      moment := ⟨2024, 1, 2, 3, 4, 5, 0⟩
      behaviours := [⟨fun _ => after, .exited 0 "" ""⟩] }
  compiler :=
    { engine := .command { command := ["stubc"], directory := ⟨.slash, ["p"]⟩ }
      target? := some ⟨.slash, ["p", "out"]⟩
      files := [⟨.slash, ["p", "A.groovy"]⟩] }
  host := default

/-- A stub in a package and a file of another kind beside the package. -/
def stubbedTree : FileTree where
  entries :=
    [([], .dir .now), (["p"], .dir .now), (["out", "p"], .dir .now), (["a", "out", "p"], .dir .now),
      (["A.java", "a", "out", "p"], .file [65] (.known 7) .now), (["log.txt", "out", "p"], .file [65] (.known 7) .now)]
  nodup := by decide

def longName : String :=
  String.ofList (List.replicate 300 'x')

theorem linkParts_longName : FileTree.linkParts longName = [longName] := by
  have hchars : longName.toList = List.replicate 300 'x' := String.toList_ofList
  have hslash : '/' ∉ longName.toList := by
    rw [hchars]
    exact fun h => absurd (List.eq_of_mem_replicate h) (by decide)
  have hends : Text.endsWith longName "/" = false := by
    rw [Text.endsWith, hchars]
    decide +kernel
  have hne : longName ≠ "" := by
    intro h
    cases hchars.symm.trans (congrArg String.toList h)
  rw [FileTree.linkParts, hends, Text.words, Text.cut, Text.cutChars_of_not_mem hslash]
  simp [hne]

def longLinkTree : FileTree where
  entries := [([], .dir .now), (["p"], .dir .now), (["out", "p"], .link longName)]
  nodup := by decide

theorem refuses_longLinkTree :
    ({ tree := longLinkTree, cwd := .root } : Disk).Refuses ⟨.slash, ["p", "out"]⟩ .ENAMETOOLONG := by
  have hname : ∀ {c : String}, FileName c → EntryName c := FileName.toEntryName
  have hlong : maxName < longName.utf8ByteSize := by decide +kernel
  have hdots : longName ≠ "." ∧ longName ≠ ".." := by
    constructor
    all_goals
      intro h
      cases (String.toList_ofList (l := List.replicate 300 'x')).symm.trans (congrArg String.toList h)
  have hstart : longLinkTree.isDir (if FileTree.isAbsoluteText longName then [] else ["p"]) = true := by
    split
    · rfl
    · rfl
  have hwalk : longLinkTree.walk true maxLinks [] ["p", "out"] = .error .ENAMETOOLONG := by
    rw [FileTree.walk_down rfl (hname (by decide)) rfl rfl, maxLinks,
      FileTree.walk_jump rfl (hname (by decide)) rfl (.inr rfl), linkParts_longName, List.append_nil, FileTree.walk,
      if_pos hstart, if_neg hdots.1, if_neg hdots.2, if_pos hlong]
  exact refuses_of_walk (by decide +kernel) (by decide +kernel) hwalk

end JavaStubs
