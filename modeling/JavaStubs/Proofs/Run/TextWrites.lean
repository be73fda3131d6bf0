import JavaStubs.Proofs.Disk.Updating
import JavaStubs.Proofs.Run.Refusals
import JavaStubs.Proofs.Run.Writing

/-! Texts that are written one after the other, each unless the file holds it already, and whether the ones before
succeeded or not. -/
namespace JavaStubs

open FileTree

namespace Charset

theorem encodeAs_of_holdsNul {name : String} (h : holdsNul name = true) (s : String) :
    encodeAs name s = .error .nulInName := by
  have hnamed : named true name = .error .nulInName := if_pos h
  rw [encodeAs, hnamed]

theorem eq_nulInName_iff {name s : String} {e : CharsetError} (h : encodeAs name s = .error e) :
    e = .nulInName ↔ holdsNul name = true := by
  constructor
  · rintro rfl
    exact holdsNul_of_encodeAs h
  · intro hnul
    rw [encodeAs_of_holdsNul hnul] at h
    cases h
    rfl

end Charset

structure TextWrite where
  path : FilePath
  content : String
  encoding : String

namespace TextWrite

def encoded (x : TextWrite) : Except CharsetError (List UInt8) :=
  Charset.encodeAs x.encoding x.content

/-- A text that was written or refused, between two worlds. -/
structure Call where
  text : TextWrite
  before : World
  result : Except Failure Bool
  after : World

def call (x : TextWrite) (w : World) : Call :=
  let (result, after) := (Action.writeText x.path x.content x.encoding).runFrom w
  ⟨x, w, result, after⟩

def calls : World → List TextWrite → List Call
  | _, [] => []
  | w, x :: xs => x.call w :: calls (x.call w).after xs

def afterAll (w : World) (xs : List TextWrite) : World :=
  xs.foldl (fun w x => (x.call w).after) w

namespace Call

/-- The call has written to the location, which its path leads to. A refusal that names no path is one of writing that had
begun. -/
def Wrote (c : Call) (l : Loc) : Prop :=
  (c.result = .ok true ∨ ∃ errno, c.result = .error (.stub (.cannotWrite c.text.path ⟨errno, none⟩))) ∧
    c.after.disk.Names c.text.path l

/-- What a call may do. -/
structure Lawful (c : Call) : Prop where
  /-- Only the tree can change. -/
  alone : c.after = { c.before with disk := { c.before.disk with tree := c.after.disk.tree } }
  /-- If the call returns, the file holds the text. -/
  holds : ∀ changed, c.result = .ok changed →
    ∃ data, c.text.encoded = .ok data ∧ c.after.disk.read c.text.path = .ok data
  /-- That nothing was written is said exactly if the file held the text before. -/
  unchanged_iff : c.result = .ok false ↔ ∃ data, c.text.encoded = .ok data ∧ c.before.disk.read c.text.path = .ok data
  unchanged : c.result = .ok false → c.after = c.before
  /-- Text that cannot be encoded is refused before anything is done. -/
  refused : ∀ e, c.text.encoded = .error e → c.after = c.before ∧
    c.result = .error (if holdsNul c.text.encoding = true then .charset .nulInName
      else .stub (.cannotEncode c.text.path c.text.encoding e))
  /-- All else stays as it is, but for directories. -/
  spared : ∀ l, ¬c.Wrote l → Undisturbed c.before.disk.tree c.after.disk.tree l

end Call

variable {w : World} {x : TextWrite} {xs : List TextWrite}

/-- Text that cannot be encoded is refused at once; the bytes of another one go to the file. -/
theorem call_cases (x : TextWrite) (w : World) :
    (∃ e, x.encoded = .error e ∧ x.call w = ⟨x, w, .error (Action.encodeFailure x.path x.encoding e), w⟩) ∨
      ∃ data, x.encoded = .ok data ∧ x.call w = ⟨x, w,
        ((w.disk.update x.path data).2.mapError .access).mapError (Failure.refused (.cannotWrite x.path)),
        { w with disk := (w.disk.update x.path data).1 }⟩ := by
  unfold call encoded Action.writeText
  cases Charset.encodeAs x.encoding x.content with
  | error e => exact .inl ⟨e, rfl, rfl⟩
  | ok data =>
    refine .inr ⟨data, rfl, ?_⟩
    simp only [Acting.runFrom_mapFailure, Action.runFrom_alter]

theorem encodeFailure_eq {e : CharsetError} (h : x.encoded = .error e) : Action.encodeFailure x.path x.encoding e =
    if holdsNul x.encoding = true then .charset .nulInName else .stub (.cannotEncode x.path x.encoding e) := by
  have hnul := Charset.eq_nulInName_iff h
  by_cases hname : holdsNul x.encoding = true
  · rw [if_pos hname, hnul.2 hname]
    rfl
  · rw [if_neg hname]
    cases e with
    | nulInName => exact absurd (hnul.1 rfl) hname
    | _ => rfl

theorem lawful_call (x : TextWrite) (w : World) : (x.call w).Lawful := by
  rcases x.call_cases w with ⟨e, henc, hcall⟩ | ⟨data, henc, hcall⟩
  · rw [hcall]
    exact {
      alone := rfl
      holds := nofun
      unchanged_iff := ⟨nofun, fun ⟨_, hdata, _⟩ => nomatch henc.symm.trans hdata⟩
      unchanged := nofun
      refused := by
        intro e' he'
        cases henc.symm.trans he'
        exact ⟨rfl, congrArg _ (encodeFailure_eq henc)⟩
      spared := fun l _ => .refl _ l }
  have hencoded : ∀ {e}, x.encoded ≠ .error e := fun he => nomatch henc.symm.trans he
  have halone := w.disk.update_alone x.path data
  rcases w.disk.update_cases x.path data with ⟨hread, hkeeps⟩ | ⟨hread, d₁, hdirs, hends⟩
  · rw [hcall, hkeeps]
    exact {
      alone := rfl
      holds := fun _ _ => ⟨data, henc, hread⟩
      unchanged_iff := ⟨fun _ => ⟨data, henc, hread⟩, fun _ => rfl⟩
      unchanged := fun _ => rfl
      refused := fun e he => absurd he hencoded
      spared := fun l _ => .refl _ l }
  have hother : ¬∃ data, x.encoded = .ok data ∧ w.disk.read x.path = .ok data := by
    rintro ⟨data', hdata, hheld⟩
    cases henc.symm.trans hdata
    exact hread hheld
  rcases hends with ⟨e, hfails⟩ | ⟨d₂, hwrite, hwrites⟩ | ⟨d₂, errno, arrived, hwrite, hbreaks⟩
  · rw [hfails] at halone
    rw [hcall, hfails]
    exact {
      alone := congrArg (fun d => { w with disk := d }) halone
      holds := nofun
      unchanged_iff := ⟨nofun, fun hheld => absurd hheld hother⟩
      unchanged := nofun
      refused := fun e he => absurd he hencoded
      spared := fun l _ => hdirs l }
  · obtain ⟨_, _, _, _, hfile⟩ := Disk.write_ok hwrite
    obtain ⟨l₀, hnames, helsewhere⟩ := Disk.write_undisturbed hwrite
    rw [hwrites] at halone
    rw [hcall, hwrites]
    exact {
      alone := congrArg (fun d => { w with disk := d }) halone
      holds := fun _ _ => ⟨data, henc, Disk.read_of_stat hfile⟩
      unchanged_iff := ⟨nofun, fun hheld => absurd hheld hother⟩
      unchanged := nofun
      refused := fun e he => absurd he hencoded
      spared := by
        intro l hl
        have hne : l ≠ l₀ := fun heq => hl ⟨.inl rfl, heq ▸ hnames⟩
        exact (hdirs l).trans (helsewhere l hne) }
  · obtain ⟨l₀, hnames, helsewhere⟩ := Disk.write_undisturbed hwrite
    rw [hbreaks] at halone
    rw [hcall, hbreaks]
    exact {
      alone := congrArg (fun d => { w with disk := d }) halone
      holds := nofun
      unchanged_iff := ⟨nofun, fun hheld => absurd hheld hother⟩
      unchanged := nofun
      refused := fun e he => absurd he hencoded
      spared := by
        intro l hl
        have hne : l ≠ l₀ := fun heq => hl ⟨.inr ⟨errno, rfl⟩, heq ▸ hnames⟩
        exact (hdirs l).trans (helsewhere l hne) }

theorem lawful_of_mem_calls {c : Call} (h : c ∈ calls w xs) : c.Lawful := by
  induction xs generalizing w with
  | nil => cases h
  | cons x xs ih =>
    rcases List.mem_cons.1 h with rfl | hrest
    · exact lawful_call x w
    · exact ih hrest

theorem undisturbed_afterAll {l : Loc} (h : ∀ c ∈ calls w xs, ¬c.Wrote l) :
    Undisturbed w.disk.tree (afterAll w xs).disk.tree l := by
  induction xs generalizing w with
  | nil => exact .refl _ _
  | cons x xs ih =>
    obtain ⟨hfirst, hrest⟩ := List.forall_mem_cons.1 h
    exact ((lawful_call x w).spared l hfirst).trans (ih hrest)

/-- In any sequence of calls, each one obeys the law in the world that those before it have left, and what none of them
writes to is spared by the whole sequence. -/
theorem calls_lawful (w : World) (xs : List TextWrite) :
    (∀ c ∈ calls w xs, c.Lawful) ∧
      ∀ l, (∀ c ∈ calls w xs, ¬c.Wrote l) → Undisturbed w.disk.tree (afterAll w xs).disk.tree l :=
  ⟨fun _ => lawful_of_mem_calls, fun _ => undisturbed_afterAll⟩

/-- A NUL in the name of the encoding is no error of the file system. -/
theorem unencodable_may_be_unclassed : ¬∀ (x : TextWrite) (w : World) (e : CharsetError), x.encoded = .error e →
    ∃ cause : StubError, (x.call w).result = .error (.stub cause) ∧ cause.errorClass = .fileSystem := by
  intro hall
  let x : TextWrite := ⟨.ofText "/p/a", "x", "a\x00b"⟩
  have henc : x.encoded = .error .nulInName := Charset.encodeAs_of_holdsNul (by decide) _
  obtain ⟨cause, hfails, -⟩ := hall x default .nulInName henc
  have hunclassed := ((lawful_call x default).refused .nulInName henc).2
  rw [if_pos (by decide)] at hunclassed
  cases hunclassed.symm.trans hfails

end TextWrite

end JavaStubs
