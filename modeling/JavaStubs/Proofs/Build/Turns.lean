import JavaStubs.Build.Sources
import JavaStubs.Proofs.Library.Publishing
import JavaStubs.Proofs.Library.Steady
import JavaStubs.Proofs.Source.Leaves

/-! Source sets taken one after the other, with nothing kept but what each turn comes to. Handing over source sets
keeps several books at once; here they are compared with the turns. -/
namespace JavaStubs

/-- What the turn of a source set comes to: the set that stands for it, what was published for it, and the scripts
that a scan finds then. -/
structure Turn where
  effective : SourceSet
  published? : Option Library.Published
  scripts : List Script

namespace Turn

section

variable (settings : Settings) (intermediate : FilePath) (encoding : String)

def standIn (s : SourceSet) : Action (SourceSet × Option Library.Published) := do
  if s.isLibrary then
    let published ← Library.publish settings s intermediate encoding
    return (published.sourceSet, some published)
  else return (s, none)

/-- The turn of one set: a library is published, then the set that stands for it is scanned. -/
def take (s : SourceSet) : Action Turn := do
  let (effective, published?) ← standIn settings intermediate encoding s
  let scripts ← Action.look fun d => d.scan effective
  return { effective, published?, scripts }

/-- The turns of some sets in order, up to the first that fails. -/
def takeAll : List SourceSet → Action (List Turn)
  | [] => return []
  | s :: ss => do
    let t ← take settings intermediate encoding s
    let ts ← takeAll ss
    return t :: ts

end

def paths (ts : List Turn) : List FilePath :=
  ts.flatMap fun t => t.scripts.map (·.path)

/-- The source roots that some sets stand for: for each its directory, followed by the intermediate root for a
library. -/
def roots (intermediate : FilePath) (sets : List SourceSet) : List FilePath :=
  sets.flatMap fun s => s.directory :: if s.isLibrary then [intermediate] else []

variable {settings : Settings} {intermediate : FilePath} {encoding : String} {w w' : World}

theorem steady_take (s : SourceSet) : (take settings intermediate encoding s).Steady := by
  refine .bind ?_ fun _ => .bind (.look _) fun _ => .pure _
  unfold standIn
  split
  · exact .bind (Library.steady_publish _ _ _ _) fun _ => .pure _
  · exact .pure _

theorem steady_takeAll (sets : List SourceSet) : (takeAll settings intermediate encoding sets).Steady := by
  induction sets with
  | nil => exact .pure _
  | cons s ss ih => exact .bind (steady_take s) fun _ => .bind ih fun _ => .pure _

theorem publish_of_standIn {s : SourceSet} {x : SourceSet × Option Library.Published} {w w' : World}
    (hlib : s.isLibrary = true) (h : (standIn settings intermediate encoding s).runFrom w = (.ok x, w')) :
    ∃ p, (Library.publish settings s intermediate encoding).runFrom w = (.ok p, w') ∧ x.1 = p.sourceSet := by
  rw [standIn, if_pos hlib] at h
  obtain ⟨p, w₁, hpublish, hpure⟩ := Acting.bind_ok h
  cases hpure
  exact ⟨p, hpublish, rfl⟩

theorem standIn_ok {s : SourceSet} {x : SourceSet × Option Library.Published} {w w' : World}
    (h : (standIn settings intermediate encoding s).runFrom w = (.ok x, w')) :
    (s.isLibrary = true ∧ w'.disk.cwd = w.disk.cwd ∧ s.directory.isAbsolute = true ∧
        x.1.directory = intermediate.absolute w.disk.cwd) ∨
      (s.isLibrary = false ∧ w' = w ∧ x = (s, none)) := by
  cases hlib : s.isLibrary with
  | true =>
    obtain ⟨p, hpublish, hx⟩ := publish_of_standIn hlib h
    obtain ⟨hset, scripts, hscan⟩ := Library.publish_sourceSet hpublish
    have hcwd := Library.publish_cwd settings s intermediate encoding w
    rw [hpublish] at hcwd
    exact .inl ⟨rfl, hcwd, (Disk.scan_ok hscan).1, by rw [hx, hset]; rfl⟩
  | false =>
    rw [standIn, hlib] at h
    cases h
    exact .inr ⟨rfl, rfl, rfl⟩

/-- The turn of a set that does not fail scans what stands for the set. Directories are absolute then. -/
theorem take_ok {s : SourceSet} {t : Turn} {w w' : World}
    (h : (take settings intermediate encoding s).runFrom w = (.ok t, w')) :
    (standIn settings intermediate encoding s).runFrom w = (.ok (t.effective, t.published?), w') ∧
      w'.disk.scan t.effective = .ok t.scripts ∧ w'.disk.cwd = w.disk.cwd ∧ s.directory.isAbsolute = true ∧
      (s.isLibrary = true → t.effective.directory = intermediate.absolute w.disk.cwd) := by
  obtain ⟨⟨effective, published?⟩, w₁, hstand, hrest⟩ := Acting.bind_ok h
  obtain ⟨scripts, w₂, hlook, hpure⟩ := Acting.bind_ok hrest
  cases hpure
  obtain ⟨hscan, rfl⟩ := Prod.mk.inj hlook
  rcases standIn_ok hstand with ⟨-, hcwd, habs, hdir⟩ | ⟨hlib, rfl, hx⟩
  · exact ⟨hstand, hscan, hcwd, habs, fun _ => hdir⟩
  · cases hx
    exact ⟨hstand, hscan, rfl, (Disk.scan_ok hscan).1, fun h => absurd (hlib.symm.trans h) (by simp)⟩

theorem take_of_scan {s : SourceSet} {scripts : List Script} (hlib : s.isLibrary = false)
    (h : w.disk.scan s = .ok scripts) :
    (take settings intermediate encoding s).runFrom w = (.ok ⟨s, none, scripts⟩, w) := by
  have hstand : (standIn settings intermediate encoding s).runFrom w = (.ok (s, none), w) := by
    rw [standIn, hlib]
    rfl
  have hlook : (Action.look fun d => d.scan s).runFrom w = (.ok scripts, w) := by
    rw [Action.runFrom_look, h]
  rw [take, Acting.runFrom_bind_of_ok hstand, Acting.runFrom_bind_of_ok hlook]
  rfl

theorem take_of_publish {s : SourceSet} {p : Library.Published} {scripts : List Script} (hlib : s.isLibrary = true)
    (hpublish : (Library.publish settings s intermediate encoding).runFrom w = (.ok p, w'))
    (h : w'.disk.scan p.sourceSet = .ok scripts) :
    (take settings intermediate encoding s).runFrom w = (.ok ⟨p.sourceSet, some p, scripts⟩, w') := by
  have hstand : (standIn settings intermediate encoding s).runFrom w = (.ok (p.sourceSet, some p), w') := by
    rw [standIn, if_pos hlib, Acting.runFrom_bind_of_ok hpublish]
    rfl
  have hlook : (Action.look fun d => d.scan p.sourceSet).runFrom w' = (.ok scripts, w') := by
    rw [Action.runFrom_look, h]
  rw [take, Acting.runFrom_bind_of_ok hstand, Acting.runFrom_bind_of_ok hlook]
  rfl

theorem take_plain {s : SourceSet} {t : Turn} {w w' : World} (hlib : ¬s.isLibrary = true)
    (h : (take settings intermediate encoding s).runFrom w = (.ok t, w')) : w' = w := by
  rcases standIn_ok (take_ok h).1 with ⟨hlib', -⟩ | ⟨-, hw, -⟩
  · exact absurd hlib' hlib
  · exact hw

theorem takeAll_cons_ok {s : SourceSet} {ss : List SourceSet} {ts : List Turn} {w w' : World}
    (h : (takeAll settings intermediate encoding (s :: ss)).runFrom w = (.ok ts, w')) :
    ∃ t ts' w₁, (take settings intermediate encoding s).runFrom w = (.ok t, w₁) ∧
      (takeAll settings intermediate encoding ss).runFrom w₁ = (.ok ts', w') ∧ ts = t :: ts' := by
  rw [takeAll] at h
  obtain ⟨t, w₁, ht, h⟩ := Acting.bind_ok h
  obtain ⟨ts', w₂, hts, h⟩ := Acting.bind_ok h
  cases h
  exact ⟨t, ts', w₁, ht, hts, rfl⟩

theorem takeAll_append {pre post : List SourceSet} {ts us : List Turn} {w w₁ w₂ : World}
    (hpre : (takeAll settings intermediate encoding pre).runFrom w = (.ok ts, w₁))
    (hpost : (takeAll settings intermediate encoding post).runFrom w₁ = (.ok us, w₂)) :
    (takeAll settings intermediate encoding (pre ++ post)).runFrom w = (.ok (ts ++ us), w₂) := by
  induction pre generalizing w ts with
  | nil =>
    cases hpre
    exact hpost
  | cons s ss ih =>
    obtain ⟨t, ts', w', ht, hts, rfl⟩ := takeAll_cons_ok hpre
    rw [List.cons_append, takeAll, Acting.runFrom_bind_of_ok ht, Acting.runFrom_bind_of_ok (ih hts)]
    rfl

theorem takeAll_plain {sets : List SourceSet} {ts : List Turn} {w w' : World} (hlib : ∀ s ∈ sets, ¬s.isLibrary = true)
    (h : (takeAll settings intermediate encoding sets).runFrom w = (.ok ts, w')) : w' = w := by
  induction sets generalizing w ts with
  | nil =>
    cases h
    rfl
  | cons s ss ih =>
    obtain ⟨t, ts', w₁, ht, hts, -⟩ := takeAll_cons_ok h
    rw [ih (fun x hx => hlib x (List.mem_cons_of_mem _ hx)) hts, take_plain (hlib s List.mem_cons_self) ht]

theorem take_of_takeAll {sets : List SourceSet} {ts : List Turn} {w w' : World}
    (hone : sets.Pairwise fun a b => a.isLibrary = true → ¬b.isLibrary = true)
    (h : (takeAll settings intermediate encoding sets).runFrom w = (.ok ts, w')) {s : SourceSet} (hs : s ∈ sets)
    (hlib : s.isLibrary = true) : ∃ t ∈ ts, (take settings intermediate encoding s).runFrom w = (.ok t, w') := by
  induction sets generalizing w ts with
  | nil => cases hs
  | cons s₀ ss ih =>
    obtain ⟨t, ts', w₁, ht, hts, rfl⟩ := takeAll_cons_ok h
    rw [List.pairwise_cons] at hone
    rcases List.mem_cons.1 hs with rfl | hs
    · rw [takeAll_plain (fun x hx => hone.1 x hx hlib) hts]
      exact ⟨t, List.mem_cons_self, ht⟩
    · have hplain := take_plain (fun hlib₀ => hone.1 s hs hlib₀ hlib) ht
      obtain ⟨t', ht', htake⟩ := ih hone.2 hts hs
      exact ⟨t', List.mem_cons_of_mem _ ht', hplain ▸ htake⟩

end Turn

end JavaStubs
