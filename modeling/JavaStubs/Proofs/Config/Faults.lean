import JavaStubs.Config.Load
import JavaStubs.Proofs.Disk.Refused
import JavaStubs.Proofs.Run.Failing

/-! How loading a configuration fails: with an error of the configuration, save for a few faults that are handed on as
they are. -/
namespace JavaStubs

def Failure.OfConfiguration (f : Failure) : Prop :=
  ∃ e, f = .stub e ∧ e.errorClass = .configuration

theorem Failure.ofConfiguration_stub {e : StubError} (h : e.errorClass = .configuration) :
    (Failure.stub e).OfConfiguration :=
  ⟨e, rfl, h⟩

namespace Config

variable {d : Disk} {root path : FilePath} {explicit : Option String} {f : Failure} {v : Value}

/-- A path that is asked for when the configuration of a project is looked up: the one that is named, or else the usual ones,
of which the second is asked for only where the first is missing. -/
inductive Asked (d : Disk) (root : FilePath) (explicit : Option String) : FilePath → Prop where
  | named {name : String} (h : nonEmpty? explicit = some name) : Asked d root explicit (root ++ .ofText name)
  | own (h : nonEmpty? explicit = none) : Asked d root explicit (root.child ownFile)
  | common (h : nonEmpty? explicit = none) (hown : d.isFile? (root.child ownFile) = .ok false) :
      Asked d root explicit (root.child commonFile)

def FileHolds (d : Disk) (root : FilePath) (explicit : Option String) (path : FilePath) (data : List UInt8) : Prop :=
  file? d root explicit = .ok (some path) ∧ d.read path = .ok data

def FileSays (d : Disk) (root : FilePath) (explicit : Option String) (path : FilePath) (v : Value) : Prop :=
  ∃ data cs, FileHolds d root explicit path data ∧ Charset.utf8.decodeAll data = .ok cs ∧
    Toml.read (Text.unifyNewlines cs) = .ok v

/-- A message about the settings of a project would show an integer with too many digits. -/
def Unreportable (d : Disk) (root : FilePath) (explicit : Option String) : Prop :=
  ∃ path v given, FileSays d root explicit path v ∧ sectionOf path v = .ok (some given) ∧ reportable given = false

/-- A fault of a project's configuration that is not reported as one, and the failure it comes to. -/
inductive Stray (d : Disk) (root : FilePath) (explicit : Option String) : Failure → Prop where
  | refused {path : FilePath} {errno : Errno} (hasked : Asked d root explicit path) (hrefuses : d.Refuses path errno) :
      Stray d root explicit (.access (.os (.at errno path)))
  | undecodable {path : FilePath} {data : List UInt8} {e : CharsetError} (hfile : FileHolds d root explicit path data)
      (he : Charset.utf8.decodeAll data = .error e) : Stray d root explicit (.charset e)
  | notATable {path : FilePath} {v other : Value} (hsaid : FileSays d root explicit path v)
      (hname : path.name = commonFile) (htool : v.field? "tool" = some other) (hother : table? other = none) :
      Stray d root explicit (.notATable other)
  | overlong {path : FilePath} {data : List UInt8} {cs : List Char} {digits : Nat} {place : Toml.Position}
      (hfile : FileHolds d root explicit path data) (hcs : Charset.utf8.decodeAll data = .ok cs)
      (hread : Toml.read (Text.unifyNewlines cs) = .error ⟨.overlong digits, place⟩) :
      Stray d root explicit (.badValue (Value.overlong (some digits)))
  | unreportable (h : Unreportable d root explicit) : Stray d root explicit (.badValue (Value.overlong none))

theorem Stray.not_ofConfiguration (h : Stray d root explicit f) : ¬f.OfConfiguration := by
  rintro ⟨e, rfl, -⟩
  cases h

def ofDocument (path : FilePath) (v : Value) : Except Failure Config := do
  match ← sectionOf path v with
  | none => return { origin := path.text }
  | some given => interpret given path.text

section Steps

/-- How a document cannot be read: it is malformed, or it has an integer with too many digits. -/
theorem unreadable_cases (path : FilePath) (e : Toml.Error) : (unreadable path e).OfConfiguration ∨
    ∃ digits, e.problem = .overlong digits ∧ unreadable path e = .badValue (Value.overlong (some digits)) := by
  unfold unreadable
  split
  · next digits he => exact .inr ⟨digits, he, by rw [he]; rfl⟩
  · exact .inl (Failure.ofConfiguration_stub rfl)

theorem isFile?_of_usualFile? {names : List String} (h : usualFile? d root names = .ok (some path)) :
    d.isFile? path = .ok true := by
  induction names with
  | nil => cases h
  | cons name names ih =>
    rw [usualFile?] at h
    split at h
    · cases h
    · next hfile =>
      cases h
      exact hfile
    · exact ih h

theorem isFile?_of_file? (h : file? d root explicit = .ok (some path)) : d.isFile? path = .ok true := by
  unfold file? at h
  split at h
  · dsimp only at h
    split at h
    · cases h
    · next hfile =>
      cases h
      exact hfile
    · cases h
  · exact isFile?_of_usualFile? h

theorem nulFree_of_file? (h : file? d root explicit = .ok (some path)) : path.NulFree := by
  obtain ⟨l, data, m, a, hstat⟩ := Disk.stat_of_isFile? (isFile?_of_file? h)
  exact Disk.nulFree_of_stat hstat

theorem readTable_eq_ok_iff : readTable d path = .ok v ↔
    ∃ data cs, d.read path = .ok data ∧ Charset.utf8.decodeAll data = .ok cs ∧
      Toml.read (Text.unifyNewlines cs) = .ok v := by
  constructor
  · intro h
    unfold readTable at h
    split at h
    · cases h
    · cases h
    · next data hdata =>
      split at h
      · cases h
      · next cs hcs => exact ⟨data, cs, hdata, hcs, ok_of_mapError h⟩
  · rintro ⟨data, cs, hread, hcs, hv⟩
    rw [readTable, hread]
    dsimp only
    rw [hcs]
    dsimp only
    rw [hv, mapError_ok]

theorem fileSays_iff : FileSays d root explicit path v ↔
    file? d root explicit = .ok (some path) ∧ readTable d path = .ok v := by
  rw [readTable_eq_ok_iff]
  constructor
  · rintro ⟨data, cs, ⟨hpath, hread⟩, hcs, hv⟩
    exact ⟨hpath, data, cs, hread, hcs, hv⟩
  · rintro ⟨hpath, data, cs, hread, hcs, hv⟩
    exact ⟨data, cs, ⟨hpath, hread⟩, hcs, hv⟩

theorem fileSays_of_reading {α : Type} {g : Value → Option α} {a : α}
    (hfile : (file? d root explicit).toOption = some (some path))
    (hread : (readTable d path).toOption.bind g = some a) : ∃ v, FileSays d root explicit path v ∧ g v = some a := by
  obtain ⟨v, hv, ha⟩ := Option.bind_eq_some_iff.1 hread
  exact ⟨v, fileSays_iff.2 ⟨ok_of_toOption hfile, ok_of_toOption hv⟩, ha⟩

theorem load_of_readTable (hpath : file? d root explicit = .ok (some path)) (h : readTable d path = .error f) :
    load d root explicit = .error f := by
  unfold load
  dsimp only [bind, Except.bind]
  rw [hpath]
  dsimp only
  rw [h]

theorem load_of_undecodable {data : List UInt8} {e : CharsetError} (hfile : FileHolds d root explicit path data)
    (he : Charset.utf8.decodeAll data = .error e) : load d root explicit = .error (.charset e) := by
  obtain ⟨hpath, hread⟩ := hfile
  refine load_of_readTable hpath ?_
  rw [readTable, hread]
  dsimp only
  rw [he]

theorem load_of_overlong {data : List UInt8} {cs : List Char} {digits : Nat} {place : Toml.Position}
    (hfile : FileHolds d root explicit path data) (hcs : Charset.utf8.decodeAll data = .ok cs)
    (hoverlong : Toml.read (Text.unifyNewlines cs) = .error ⟨.overlong digits, place⟩) :
    load d root explicit = .error (.badValue (Value.overlong (some digits))) := by
  obtain ⟨hpath, hread⟩ := hfile
  refine load_of_readTable hpath ?_
  rw [readTable, hread]
  dsimp only
  rw [hcs]
  dsimp only
  rw [hoverlong]
  rfl

/-- Once its file is read, a configuration depends on the table in it and on the path alone. -/
theorem load_eq_ofDocument (h : FileSays d root explicit path v) : load d root explicit = ofDocument path v := by
  obtain ⟨hpath, htable⟩ := fileSays_iff.1 h
  unfold load
  dsimp only [bind, Except.bind]
  rw [hpath]
  dsimp only
  rw [htable]
  rfl

theorem sectionOf_eq_error_iff : sectionOf path v = .error f ↔
    path.name = commonFile ∧ ∃ other, v.field? "tool" = some other ∧ table? other = none ∧ f = .notATable other := by
  unfold sectionOf
  split
  · next hname =>
    unfold commonSection
    cases htool : v.field? "tool" with
    | none => simp
    | some tool => cases tool <;> simp [hname, table?, eq_comm]
  · next hname => simp [hname]

end Steps

def LoadFailure (d : Disk) (root : FilePath) (explicit : Option String) (f : Failure) : Prop :=
  f.OfConfiguration ∨ Stray d root explicit f

namespace LoadFailure

theorem stub {e : StubError} (h : e.errorClass = .configuration) : LoadFailure d root explicit (.stub e) :=
  .inl (Failure.ofConfiguration_stub h)

theorem of_test {e : AccessError} (hasked : Asked d root explicit path) (h : d.isFile? path = .error e) :
    LoadFailure d root explicit (.access e) := by
  obtain ⟨errno, rfl, hrefuses⟩ := Disk.refuses_of_test h
  exact .inr (.refused hasked hrefuses)

theorem of_file? : ErrsBy (LoadFailure d root explicit) (file? d root explicit) := by
  unfold file?
  split
  · next name hname =>
    dsimp only
    split
    · next he => exact .error (of_test (.named hname) he)
    · exact .ok _
    · exact .error (stub rfl)
  · next hnone =>
    unfold usualFile?
    split
    · next he => exact .error (of_test (.own hnone) he)
    · exact .ok _
    · next hown =>
      -- the common file is asked for only now that the tool's own is known to be missing
      unfold usualFile?
      split
      · next he => exact .error (of_test (.common hnone hown) he)
      · exact .ok _
      · exact .ok _

theorem of_readTable (hfile : file? d root explicit = .ok (some path)) :
    ErrsBy (LoadFailure d root explicit) (readTable d path) := by
  unfold readTable
  split
  · exact .error (stub rfl)
  -- a path that was found to be a file holds no NUL
  · next hnul => exact absurd hnul (Disk.not_nul_of_read (nulFree_of_file? hfile))
  · next data hdata =>
    split
    · next he => exact .error (.inr (.undecodable ⟨hfile, hdata⟩ he))
    · next cs hcs =>
      refine .mapError fun e he => ?_
      rcases unreadable_cases path e with hmalformed | ⟨digits, hdigits, hfailure⟩
      · exact .inl hmalformed
      · obtain ⟨problem, place⟩ := e
        cases hdigits
        rw [hfailure]
        exact .inr (.overlong ⟨hfile, hdata⟩ hcs he)

theorem of_ofDocument (hsaid : FileSays d root explicit path v) :
    ErrsBy (LoadFailure d root explicit) (ofDocument path v) := by
  refine .bind (fun f hf => ?_) fun given? hgiven => ?_
  · obtain ⟨hname, other, htool, hother, rfl⟩ := sectionOf_eq_error_iff.1 hf
    exact .inr (.notATable hsaid hname htool hother)
  · cases given? with
    | none => exact .ok _
    | some given =>
      dsimp only
      cases hshown : reportable given with
      | false =>
        rw [interpret_of_not_reportable hshown]
        exact .error (.inr (.unreportable ⟨path, v, given, hsaid, hgiven, hshown⟩))
      | true =>
        rw [interpret_of_reportable hshown]
        refine .mapError fun e he => ?_
        unfold parse at he
        split at he
        · cases he
          exact stub rfl
        · cases he

theorem of_load : ErrsBy (LoadFailure d root explicit) (load d root explicit) := by
  refine .bind of_file? fun path? hfile => ?_
  cases path? with
  | none => exact .ok _
  | some path =>
    refine .bind (of_readTable hfile) fun v hv => ?_
    exact of_ofDocument (fileSays_iff.2 ⟨hfile, hv⟩)

end LoadFailure

theorem file?_of_refuses {errno : Errno} (hasked : Asked d root explicit path) (hrefuses : d.Refuses path errno) :
    file? d root explicit = .error (.access (.os (.at errno path))) := by
  have htest : d.isFile? path = .error (.os (.at errno path)) := Disk.test_of_refuses hrefuses
  unfold file?
  cases hasked with
  | named hname =>
    rw [hname]
    dsimp only
    rw [htest]
  | own hnone =>
    rw [hnone]
    dsimp only
    rw [usualFile?, htest]
  | common hnone hown =>
    rw [hnone]
    dsimp only
    rw [usualFile?, hown]
    dsimp only
    rw [usualFile?, htest]

theorem load_of_stray (h : Stray d root explicit f) : load d root explicit = .error f := by
  cases h with
  | refused hasked hrefuses =>
    unfold load
    rw [file?_of_refuses hasked hrefuses]
    rfl
  | overlong hfile hcs hread => exact load_of_overlong hfile hcs hread
  | unreportable h =>
    obtain ⟨path, v, given, hsaid, hsection, hshown⟩ := h
    rw [load_eq_ofDocument hsaid, ofDocument, hsection]
    exact interpret_of_not_reportable hshown
  | undecodable hfile he => exact load_of_undecodable hfile he
  | notATable hsaid hname htool hother =>
    have hsection := sectionOf_eq_error_iff.2 ⟨hname, _, htool, hother, rfl⟩
    rw [load_eq_ofDocument hsaid, ofDocument, hsection]
    rfl

/-- A project that has a common file and no file of the tool's own. -/
def commonSample (text : String) : Disk where
  tree :=
    { entries := [([], .dir .now), (["p"], .dir .now), ([commonFile, "p"], .file text.toUTF8.data.toList .now .now)]
      nodup := by
        change [[], ["p"], [commonFile, "p"]].Nodup
        decide }
  cwd := ⟨.slash, ["p"]⟩

end Config

end JavaStubs
