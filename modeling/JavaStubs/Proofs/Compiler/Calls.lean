import Mathlib.Data.List.Induction
import JavaStubs.Proofs.Compiler.Changes

/-! The life of a compiler. Whatever it is asked to do, and in whatever order, it generates once at most, and then
from exactly what it was given before. -/
namespace JavaStubs

inductive Compiler.Call where
  | target (directory : FilePath)
  | classPath (entries : List String)
  | option (key value : String)
  | add (file : FilePath)
  | request
  | compile
  deriving DecidableEq

inductive Compiler.Answer where
  | done
  | request (r : Request)
  | count (n : Int)

/-- The part of compiling before the generation: it gives the request and uses up the run. -/
def BuildAction.enter : BuildAction Request := do
  let b ← get
  let c := b.compiler
  if c.ran then throw (.stub .alreadyRan)
  match c.request with
  | .error e => throw (.stub e)
  | .ok r =>
    set { b with compiler := { c with ran := true, noted? := if c.engine.notes then some r else c.noted? } }
    return r

theorem BuildAction.runFrom_compile (b : Build) :
    compile.runFrom b = (enter >>= fun r => onWorld (b.compiler.engine.generate r)).runFrom b := by
  unfold compile enter
  simp only [bind_assoc, Acting.runFrom_bind, Acting.runFrom_get]
  split
  · rfl
  · cases b.compiler.request <;> rfl

theorem Compiler.options_of_request {c : Compiler} {r : Request} (h : c.request = .ok r) : r.options = c.options := by
  unfold Compiler.request at h
  split at h
  · cases h
  · cases h
    rfl

namespace Compiler.Call

def perform : Call → BuildAction Answer
  | target directory => do
    BuildAction.onCompiler fun c => .ok { c with target? := some directory }
    return .done
  | classPath entries => do
    BuildAction.onCompiler fun c => .ok { c with classPath := entries }
    return .done
  | option key value => do
    BuildAction.onCompiler (·.setOption key value)
    return .done
  | add file => do
    BuildAction.onCompiler (·.add file)
    return .done
  | request => do
    match (← get).compiler.request with
    | .ok r => return .request r
    | .error e => throw (.stub e)
  | compile => return .count (← BuildAction.compile)

/-- What calls leave, one after the other, each going on whether the ones before it failed or not. -/
def after (calls : List Call) (b : Build) : Build :=
  calls.foldl (fun b call => (call.perform.runFrom b).2) b

def entered? (b : Build) : Call → Option Request
  | compile => (BuildAction.enter.runFrom b).1.toOption
  | _ => none

def entries (b : Build) : List Call → List Request
  | [] => []
  | call :: rest => (call.entered? b).toList ++ entries (call.perform.runFrom b).2 rest

/-! What calls tell a compiler. -/

def target? (calls : List Call) : Option FilePath :=
  (calls.filterMap fun | target directory => some directory | _ => none).getLast?

def lastClassPath (calls : List Call) : List String :=
  (calls.filterMap fun | classPath entries => some entries | _ => none).getLast?.getD []

def value? (key : String) (calls : List Call) : Option String :=
  (calls.filterMap fun | option k value => if k = key then some value else none | _ => none).getLast?

def added (calls : List Call) : List FilePath :=
  calls.filterMap fun | add file => some file | _ => none

def asked (directory : FilePath) (calls : List Call) : Request where
  target := directory
  classPath := lastClassPath calls
  options := (value? sourceEncodingKey calls).toList.map fun value => (sourceEncodingKey, value)
  files := added calls

/-- The first call to compile with a target directory comes after some calls and before others. -/
structure RunAt (calls before rest : List Call) : Prop where
  eq : calls = before ++ compile :: rest
  target : (target? before).isSome
  first : ∀ pre post, before = pre ++ compile :: post → target? pre = none

/-- No call to compile comes after a target directory was set. -/
def Idle (calls : List Call) : Prop :=
  ∀ before rest, calls = before ++ compile :: rest → target? before = none

def Refused (cls : ErrorClass) (call : Call) (b : Build) : Prop :=
  ∃ e, e.errorClass = cls ∧ call.perform.runFrom b = (.error (.stub e), b)

section Told

variable (calls : List Call)

theorem target?_append (call : Call) : target? (calls ++ [call]) =
    match call with | target directory => some directory | _ => target? calls := by
  unfold target?
  cases call <;> simp

theorem lastClassPath_append (call : Call) : lastClassPath (calls ++ [call]) =
    match call with | classPath entries => entries | _ => lastClassPath calls := by
  unfold lastClassPath
  cases call <;> simp

theorem value?_append (key : String) (call : Call) : value? key (calls ++ [call]) =
    match call with | option k value => if k = key then some value else value? key calls | _ => value? key calls := by
  unfold value?
  cases call with
  | option k value => by_cases hk : k = key <;> simp [hk]
  | _ => simp

theorem added_append (call : Call) : added (calls ++ [call]) =
    match call with | add file => added calls ++ [file] | _ => added calls := by
  unfold added
  cases call <;> simp

theorem after_append (more : List Call) (b : Build) : after (calls ++ more) b = after more (after calls b) :=
  List.foldl_append

theorem entries_append (more : List Call) (b : Build) :
    entries b (calls ++ more) = entries b calls ++ entries (after calls b) more := by
  induction calls generalizing b with
  | nil => rfl
  | cons call rest ih => rw [List.cons_append, entries, entries, ih, List.append_assoc]; rfl

end Told

theorem idle_nil : Idle [] := by
  intro before rest h
  simp at h

theorem idle_append {calls : List Call} {call : Call} :
    Idle (calls ++ [call]) ↔ Idle calls ∧ (call = compile → target? calls = none) := by
  constructor
  · intro h
    refine ⟨fun before rest heq => h before (rest ++ [call]) (by simp [heq]), ?_⟩
    rintro rfl
    exact h calls [] rfl
  · rintro ⟨h, hcall⟩ before rest heq
    rcases List.eq_nil_or_concat rest with rfl | ⟨rest, last, rfl⟩
    · obtain ⟨rfl, hc⟩ := List.append_inj' heq rfl
      exact hcall (List.cons.inj hc).1
    · have heq' : calls ++ [call] = (before ++ compile :: rest) ++ [last] := by simpa using heq
      exact h before rest (List.append_inj' heq' rfl).1

/-- Either no call may run the compiler, or one is the first that does. -/
theorem idle_or_runAt (calls : List Call) : Idle calls ∨ ∃ before rest, RunAt calls before rest := by
  induction calls using List.reverseRecOn with
  | nil => exact .inl idle_nil
  | append_singleton calls call ih =>
    rcases ih with hidle | ⟨before, rest, rfl, htarget, hfirst⟩
    · by_cases hcall : call = compile → target? calls = none
      · exact .inl (idle_append.2 ⟨hidle, hcall⟩)
      · obtain ⟨rfl, htarget⟩ := Classical.not_imp.1 hcall
        exact .inr ⟨calls, [], rfl, Option.isSome_iff_ne_none.2 htarget, hidle⟩
    · exact .inr ⟨before, rest ++ [call], by simp, htarget, hfirst⟩

theorem RunAt.not_idle {calls before rest : List Call} (h : RunAt calls before rest) : ¬Idle calls := by
  intro hidle
  have htarget := h.target
  rw [hidle before rest h.eq] at htarget
  cases htarget

theorem RunAt.not_longer {calls before rest more rest' : List Call} {call : Call} (h : RunAt calls before rest) :
    ¬RunAt calls (before ++ call :: more) rest' := by
  intro h'
  have htarget := h.target
  have heq := h.eq.symm.trans h'.eq
  rw [List.append_assoc, List.append_cancel_left_eq, List.cons_append, List.cons.injEq] at heq
  rw [h'.first before more (by rw [heq.1])] at htarget
  cases htarget

theorem RunAt.unique {calls before before' rest rest' : List Call} (h : RunAt calls before rest)
    (h' : RunAt calls before' rest') : before = before' := by
  rcases List.append_eq_append_iff.1 (h.eq.symm.trans h'.eq) with ⟨more, rfl, -⟩ | ⟨more, rfl, -⟩
  · cases more with
    | nil => exact (List.append_nil before).symm
    | cons call more => exact absurd h' h.not_longer
  · cases more with
    | nil => exact List.append_nil before'
    | cons call more => exact absurd h h'.not_longer

section Steps

variable (b : Build)

theorem runFrom_changing (f : Compiler → Except StubError Compiler) :
    (do BuildAction.onCompiler f; return Answer.done : BuildAction Answer).runFrom b =
      match f b.compiler with
      | .ok c => (.ok .done, { b with compiler := c })
      | .error e => (.error (.stub e), b) := by
  rw [Acting.runFrom_bind, BuildAction.runFrom_onCompiler]
  cases f b.compiler <;> rfl

theorem runFrom_option (key value : String) : (option key value).perform.runFrom b =
    match b.compiler.setOption key value with
    | .ok c => (.ok .done, { b with compiler := c })
    | .error e => (.error (.stub e), b) :=
  runFrom_changing b _

theorem runFrom_add (file : FilePath) : (add file).perform.runFrom b =
    match b.compiler.add file with
    | .ok c => (.ok .done, { b with compiler := c })
    | .error e => (.error (.stub e), b) :=
  runFrom_changing b _

theorem runFrom_request : request.perform.runFrom b =
    ((b.compiler.request.mapError Failure.stub).map Answer.request, b) := by
  unfold perform
  rw [Acting.runFrom_bind, Acting.runFrom_get]
  dsimp only
  cases b.compiler.request <;> rfl

theorem runFrom_compile : compile.perform.runFrom b =
    ((BuildAction.compile.runFrom b).1.map .count, (BuildAction.compile.runFrom b).2) := by
  unfold perform
  rw [Acting.runFrom_bind]
  rcases BuildAction.compile.runFrom b with ⟨_ | n, b'⟩ <;> rfl

theorem refused_option {key : String} (value : String) (hkey : key ≠ sourceEncodingKey) :
    Refused .configuration (option key value) b := by
  refine ⟨.unknownOption key, rfl, ?_⟩
  rw [runFrom_option, setOption, if_neg hkey]

variable {b}

theorem refused_add (hran : b.compiler.ran = true) (file : FilePath) : Refused .compiler (add file) b := by
  refine ⟨.addedAfterRun file, rfl, ?_⟩
  rw [runFrom_add, Compiler.add, if_pos hran]

theorem enter_of_ran (hran : b.compiler.ran = true) :
    BuildAction.enter.runFrom b = (.error (.stub .alreadyRan), b) := by
  unfold BuildAction.enter
  rw [Acting.runFrom_bind, Acting.runFrom_get]
  dsimp only
  rw [if_pos hran]
  rfl

theorem enter_of_error {e : StubError} (hran : b.compiler.ran = false) (h : b.compiler.request = .error e) :
    BuildAction.enter.runFrom b = (.error (.stub e), b) := by
  unfold BuildAction.enter
  rw [Acting.runFrom_bind, Acting.runFrom_get]
  dsimp only
  rw [if_neg (by simp [hran]), h]
  rfl

theorem enter_of_ok {r : Request} (hran : b.compiler.ran = false) (h : b.compiler.request = .ok r) :
    BuildAction.enter.runFrom b = (.ok r, { b with compiler := { b.compiler with
      ran := true, noted? := if b.compiler.engine.notes then some r else b.compiler.noted? } }) := by
  unfold BuildAction.enter
  rw [Acting.runFrom_bind, Acting.runFrom_get]
  dsimp only
  rw [if_neg (by simp [hran]), h]
  rfl

/-- If the generation is not entered, compiling fails as it was refused entry. -/
theorem refused_compile {e : StubError} (h : BuildAction.enter.runFrom b = (.error (.stub e), b))
    (he : e.errorClass = .compiler) : Refused .compiler compile b := by
  refine ⟨e, he, ?_⟩
  rw [runFrom_compile, BuildAction.runFrom_compile, Acting.runFrom_bind, h]
  rfl

end Steps

end Compiler.Call
end JavaStubs
