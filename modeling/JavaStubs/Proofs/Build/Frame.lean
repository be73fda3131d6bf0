import JavaStubs.Proofs.Build.Timestamps
import JavaStubs.Proofs.Build.Within
import JavaStubs.Proofs.Compiler.Changes

/-! Where a build writes in a tree without links: below the intermediate root and, apart from what the compiler does,
nowhere else but for the times of stubs. -/
namespace JavaStubs.BuildAction

open FileTree

/-- Where the output directory of a build is. -/
def outputLoc (b : Build) : Loc :=
  b.world.disk.place b.host.output

/-- Where the intermediate root of a build is. -/
def intermediateLoc (settings : Settings) (b : Build) : Loc :=
  b.world.disk.place (Config.intermediateFor settings.scope settings.root)

/-- The places at which directories may be made, outside of both. -/
def WayTo (settings : Settings) (b : Build) (l : Loc) : Prop :=
  b.world.disk.OnWay b.host.output l ∨ b.world.disk.OnWay (Config.intermediateFor settings.scope settings.root) l

variable (settings : Settings) (config : Config) (b : Build)

/-- Before compiling, nothing but the intermediate root is written to. -/
theorem prepare_keeping :
    World.Differs (b.world.disk.Keeping (Below (intermediateLoc settings b)) (WayTo settings b)) b.world
        ((prepare settings config).runFrom b).2.world ∧
      ((prepare settings config).runFrom b).2.compiler.engine = b.compiler.engine := by
  apply prepare_differs
  · exact Disk.ensureDirs_keeping fun l hl => .inr (.inl hl)
  · intro s
    have hpublish := Library.within_publish_keeping b.world.disk settings s
      (Config.intermediateFor settings.scope settings.root) config.readEncoding
    exact hpublish.mono fun d d' h => h.mono (fun _ hl => hl) fun _ hl => .inr hl

variable {settings config b} {b' : Build}

theorem straight_self (hfree : b.world.disk.tree.LinkFree) : b.world.disk.Straight b.world.disk :=
  ⟨rfl, hfree⟩

def SameFilesBelow (root : Loc) (t t' : FileTree) : Prop :=
  ∀ l, Below root l → t'.file? l = t.file? l

/-- Before compiling, stubs are left alone and no program is started. -/
theorem sameFiles_of_prepare (hfree : b.world.disk.tree.LinkFree)
    (hapart : ¬Below (outputLoc b) (intermediateLoc settings b)) (hapart' : ¬Below (intermediateLoc settings b) (outputLoc b))
    {r : Except Failure (FilePath × Gathered)} (h : (prepare settings config).runFrom b = (r, b')) :
    b'.world.started = b.world.started ∧ SameFilesBelow (outputLoc b) b.world.disk.tree b'.world.disk.tree := by
  obtain ⟨hdiffers, -⟩ := prepare_keeping settings config b
  rw [h] at hdiffers
  obtain ⟨-, hconf⟩ := hdiffers.disk (straight_self hfree)
  constructor
  · exact hdiffers.started
  · intro l hl
    exact hconf.file? l (not_below_of_apart hapart hapart' hl)

/-- A build that fails before it has compiled leaves the stubs alone: no program was started and they are the same files
as before, or the disk is what the compiler made of one with the same stubs. -/
theorem stubs_of_failed_generate (hfree : b.world.disk.tree.LinkFree)
    (hapart : ¬Below (outputLoc b) (intermediateLoc settings b)) (hapart' : ¬Below (intermediateLoc settings b) (outputLoc b))
    {e : Failure} (h : (generate settings config).runFrom b = (.error e, b'))
    (huncompiled : ∀ x handed count compiled, (prepare settings config).runFrom b = (.ok x, handed) →
      compile.runFrom handed ≠ (.ok count, compiled)) :
    (b'.world.started = b.world.started ∧ SameFilesBelow (outputLoc b) b.world.disk.tree b'.world.disk.tree) ∨
      ∃ x handed r, (prepare settings config).runFrom b = (.ok x, handed) ∧ handed.compiler.request = .ok r ∧
        handed.world.started = b.world.started ∧
        SameFilesBelow (outputLoc b) b.world.disk.tree handed.world.disk.tree ∧
        b'.world.disk = { handed.world.disk with
          tree := b.compiler.engine.change r handed.world handed.world.disk.tree } := by
  generalize hr : (Except.error e : Except Failure Report) = r at h
  cases ends_generate h with
  | unprepared hprepare => exact .inl (sameFiles_of_prepare hfree hapart hapart' hprepare)
  | @uncompiled x handed e' b' hprepare hcompile =>
    obtain ⟨hstarted, hsame⟩ := sameFiles_of_prepare hfree hapart hapart' hprepare
    obtain ⟨-, hengine⟩ := prepare_keeping settings config b
    have hmade := made_of_compile handed
    rw [hprepare] at hengine
    rw [hcompile, hengine] at hmade
    rcases hmade with ⟨r, hrequest, hchanged⟩ | ⟨hstarted', hdisk⟩
    · exact .inr ⟨x, handed, r, hprepare, hrequest, hstarted, hsame, hchanged⟩
    · refine .inl ⟨hstarted'.trans hstarted, ?_⟩
      rw [hdisk]
      exact hsame
  | unreset hprepare hcompile => exact absurd hcompile (huncompiled _ _ _ _ hprepare)
  | done => cases hr

/-- A project without sources that has a stub, and a compiler that writes another one and breaks down. -/
def breakingSample : Build where
  world :=
    { disk :=
        { tree :=
            { entries := [([], .dir .now), (["p"], .dir .now), (["stubs", "p"], .dir .now),
                (["Old.java", "stubs", "p"], .file [35, 10] (.known 5) (.known 7))]
              nodup := by decide }
          cwd := ⟨.slash, ["p"]⟩ }
      moment := ⟨2024, 1, 2, 3, 4, 5, 0⟩ }
  compiler := { engine := .builtin fun _ t =>
    (.error (.runtime "out of memory"), t.create ["New.java", "stubs", "p"] (.file [] .now .now)) }
  host := { output := ⟨.slash, ["p", "stubs"]⟩ }

theorem stubs_of_breakingSample :
    ∃ e b', (generate nestedSettings {}).runFrom breakingSample = (.error e, b') ∧
      ((b'.world.started = breakingSample.world.started ∧
          SameFilesBelow ["stubs", "p"] breakingSample.world.disk.tree b'.world.disk.tree) ∨
        ∃ x handed r, (prepare nestedSettings {}).runFrom breakingSample = (.ok x, handed) ∧
          handed.compiler.request = .ok r ∧ handed.world.started = breakingSample.world.started ∧
          SameFilesBelow ["stubs", "p"] breakingSample.world.disk.tree handed.world.disk.tree ∧
          b'.world.disk = { handed.world.disk with
            tree := breakingSample.compiler.engine.change r handed.world handed.world.disk.tree }) := by
  have hfails : ((prepare nestedSettings {} >>= fun _ => compile).runFrom breakingSample).1.isOk = false := by
    decide +kernel
  have hends : ((generate nestedSettings {}).runFrom breakingSample).1.isOk = false := by
    decide +kernel
  rcases hrun : (generate nestedSettings {}).runFrom breakingSample with ⟨e | r, b'⟩
  · refine ⟨e, b', rfl, stubs_of_failed_generate (by decide) (by decide) (by decide) hrun ?_⟩
    intro x handed count compiled hprepare hcompile
    rw [Acting.runFrom_bind_of_ok hprepare, hcompile] at hfails
    cases hfails
  · rw [hrun] at hends
    cases hends

/-- A change stays inside the output directory if it changes nothing outside of it and does not make the path of the
output directory lead to another one, as a link in its place would. -/
structure StaysInside (output : Loc) (p : FilePath) (d d' : Disk) : Prop where
  content? : ∀ l, ¬Below output l → d'.tree.content? l = d.tree.content? l
  file? : ∀ l, ¬Below output l → d'.tree.file? l = d.tree.file? l
  path : ∀ l m, d'.stat p = .ok (l, .dir m) → l = output

theorem StaysInside.confined {output : Loc} {p : FilePath} {d d' : Disk} {way : Loc → Prop}
    (h : StaysInside output p d d') : Confined (Below output) way d.tree d'.tree :=
  ⟨fun l hl => .inl (h.content? l hl), h.file?⟩

def madeOf (engine : Engine) (r : Request) (w : World) : Disk :=
  { w.disk with tree := engine.change r w w.disk.tree }

/-- The compiler of a build stays inside the output directory when the build comes to it. -/
def CompilesInside (settings : Settings) (config : Config) (b : Build) : Prop :=
  ∀ x handed r, (prepare settings config).runFrom b = (.ok x, handed) → handed.compiler.request = .ok r →
    StaysInside (outputLoc b) b.host.output handed.world.disk (madeOf b.compiler.engine r handed.world)

/-- What a build may write to: the output directory and the intermediate root with all that is below them. -/
def Own (settings : Settings) (b : Build) (l : Loc) : Prop :=
  Below (outputLoc b) l ∨ Below (intermediateLoc settings b) l

theorem confined_of_prepare (hfree : b.world.disk.tree.LinkFree) {r : Except Failure (FilePath × Gathered)}
    (h : (prepare settings config).runFrom b = (r, b')) :
    b.world.disk.Straight b'.world.disk ∧
      Confined (Own settings b) (WayTo settings b) b.world.disk.tree b'.world.disk.tree := by
  obtain ⟨hdiffers, -⟩ := prepare_keeping settings config b
  rw [h] at hdiffers
  exact (hdiffers.disk (straight_self hfree)).imp_right fun hconf => hconf.mono (fun _ hl => .inr hl) fun _ hl => hl

/-- A compiler that changes nothing but what is inside of the output directory stays inside, if the path of that directory
does not go up: then the path goes on to lead there. -/
theorem compilesInside_of_unchanged (hfree : b.world.disk.tree.LinkFree)
    (hup : ".." ∉ (b.host.output.absolute b.world.disk.cwd).parts)
    (hmade : ∀ r w l, ¬Below (outputLoc b) l ∨ l = outputLoc b →
      (madeOf b.compiler.engine r w).tree.content? l = w.disk.tree.content? l ∧
        (madeOf b.compiler.engine r w).tree.file? l = w.disk.tree.file? l) : CompilesInside settings config b := by
  intro x handed r hprepare _
  obtain ⟨hstraight, -⟩ := confined_of_prepare hfree hprepare
  refine ⟨fun l hl => (hmade r handed.world l (.inl hl)).1, fun l hl => (hmade r handed.world l (.inl hl)).2, ?_⟩
  intro l m hs
  have hleads := (Disk.locate_eq_ok_iff.1 (Disk.stat_eq_ok_iff.1 hs)).2
  have hcwd : (madeOf b.compiler.engine r handed.world).cwd = b.world.disk.cwd := hstraight.cwd
  rw [hcwd] at hleads
  apply hleads.loc_eq_descend_of_down hup
  intro above target habove hlink
  have houtside : ¬Below (outputLoc b) above ∨ above = outputLoc b := by
    by_cases hbelow : Below (outputLoc b) above
    · exact .inr (habove.eq_of_length_le hbelow.length_le)
    · exact .inl hbelow
  have hsame := (hmade r handed.world above houtside).1
  rw [content?_of_get? hlink] at hsame
  exact hstraight.linkFree _ _ hsame.symm

/-- Up to the end of compiling a build is confined, and the path of the output directory does not lead elsewhere then. -/
theorem confined_of_compile (hfree : b.world.disk.tree.LinkFree) (hinside : CompilesInside settings config b)
    {x : FilePath × Gathered} {handed compiled : Build} {r : Except Failure Int}
    (hprepare : (prepare settings config).runFrom b = (.ok x, handed)) (h : compile.runFrom handed = (r, compiled)) :
    Confined (Own settings b) (WayTo settings b) b.world.disk.tree compiled.world.disk.tree ∧
      ∀ l m, compiled.world.disk.stat b.host.output = .ok (l, .dir m) → l = outputLoc b := by
  obtain ⟨hstraight, hprepared⟩ := confined_of_prepare hfree hprepare
  obtain ⟨-, hengine⟩ := prepare_keeping settings config b
  have hmade := made_of_compile handed
  rw [hprepare] at hengine
  rw [h, hengine] at hmade
  rcases hmade with ⟨r, hrequest, hdisk⟩ | ⟨-, hdisk⟩
  · have hstays := hinside x handed r hprepare hrequest
    rw [madeOf, ← hdisk] at hstays
    constructor
    · exact hprepared.trans (hstays.confined.mono (fun _ hl => .inl hl) fun _ hl => hl)
    · exact hstays.path
  · rw [hdisk]
    exact ⟨hprepared, fun l m hs => hstraight.loc_of_stat hs⟩

/-- Setting times back changes nothing outside of the output directory. -/
theorem confined_of_resetTimes (hfree : b.world.disk.tree.LinkFree) (hinside : CompilesInside settings config b)
    {x : FilePath × Gathered} {handed compiled : Build} {count : Int}
    (hprepare : (prepare settings config).runFrom b = (.ok x, handed))
    (hcompile : compile.runFrom handed = (.ok count, compiled)) {w : World} (hdisk : w.disk = compiled.world.disk) :
    Confined (Own settings b) (WayTo settings b) b.world.disk.tree
      ((Action.resetTimes x.1).runFrom w).2.disk.tree := by
  obtain ⟨-, -, -, -, houtput, -⟩ := prepare_ok hprepare
  obtain ⟨hcompiled, hpath⟩ := confined_of_compile hfree hinside hprepare hcompile
  rw [← hdisk] at hcompiled hpath
  have hsame : ∀ l, ¬Own settings b l →
      ((Action.resetTimes x.1).runFrom w).2.disk.tree.get? l = w.disk.tree.get? l := by
    intro l hl
    apply Action.resetTimes_elsewhere
    intro root m hs hreal
    rw [houtput] at hs
    have hroot := hpath root m hs
    exact hl (.inl (hroot ▸ hreal.suffix))
  apply hcompiled.trans
  constructor
  · intro l hl
    left
    rw [content?, hsame l hl]
    rfl
  · intro l hl
    exact file?_of_get?_eq (hsame l hl)

/-- A build whose compiler stays inside the output directory is confined to that directory and to the intermediate root,
whether it fails or not: all other files keep their bytes and times, and nothing comes to be elsewhere but directories on
the way there. -/
theorem confined_of_generate (hfree : b.world.disk.tree.LinkFree) (hinside : CompilesInside settings config b)
    {r : Except Failure Report} (h : (generate settings config).runFrom b = (r, b')) :
    Confined (Own settings b) (WayTo settings b) b.world.disk.tree b'.world.disk.tree := by
  cases ends_generate h with
  | unprepared hprepare => exact (confined_of_prepare hfree hprepare).2
  | uncompiled hprepare hcompile => exact (confined_of_compile hfree hinside hprepare hcompile).1
  | @unreset _ _ _ compiled text _ _ hprepare hcompile hreset =>
    have hconf := confined_of_resetTimes hfree hinside hprepare hcompile (w := { compiled.world with stderr := text }) rfl
    rwa [hreset] at hconf
  | @done _ _ _ compiled text _ _ _ hprepare hcompile hreset =>
    have hconf := confined_of_resetTimes hfree hinside hprepare hcompile (w := { compiled.world with stderr := text }) rfl
    rwa [hreset] at hconf

/-- A project without sources, with a file beside its stub directory. -/
def addingSample : Build where
  world :=
    { disk :=
        { tree :=
            { entries := [([], .dir .now), (["p"], .dir .now), (["notes", "p"], .file [35, 10] (.known 5) (.known 7))]
              nodup := by decide }
          cwd := ⟨.slash, ["p"]⟩ }
      moment := ⟨2024, 1, 2, 3, 4, 5, 0⟩ }
  compiler := { engine := .builtin fun _ t => (.ok 1, t.create ["New.java", "stubs", "p"] (.file [] .now .now)) }
  host := { output := ⟨.slash, ["p", "stubs"]⟩ }

theorem confined_of_addingSample :
    addingSample.world.disk.tree.LinkFree ∧ CompilesInside nestedSettings {} addingSample ∧
      ∃ r b', (generate nestedSettings {}).runFrom addingSample = (r, b') ∧
        Confined (Own nestedSettings addingSample) (WayTo nestedSettings addingSample) addingSample.world.disk.tree
          b'.world.disk.tree := by
  have hfree : addingSample.world.disk.tree.LinkFree := by decide
  have houtput : outputLoc addingSample = ["stubs", "p"] := by decide
  have hinside : CompilesInside nestedSettings {} addingSample := by
    apply compilesInside_of_unchanged hfree (by decide)
    intro r w l hl
    have hmade : (madeOf addingSample.compiler.engine r w).tree =
        w.disk.tree.create ["New.java", "stubs", "p"] (.file [] .now .now) := rfl
    have hne : l ≠ ["New.java", "stubs", "p"] := by
      rintro rfl
      rw [houtput] at hl
      exact absurd hl (by decide)
    rw [hmade, content?_create, file?_create, if_neg hne, if_neg hne]
    exact ⟨rfl, rfl⟩
  exact ⟨hfree, hinside, _, _, rfl, confined_of_generate hfree hinside rfl⟩

/-- A build that has the path of its stub directory go into a directory and up again. -/
def windingSample (output : List String) (engine : Engine) : Build where
  world :=
    { disk :=
        { tree :=
            { entries := [([], .dir .now), (["p"], .dir .now), (["stubs", "p"], .dir .now), (["a", "stubs", "p"], .dir .now),
                (["notes", "p"], .dir .now), (["x", "notes", "p"], .dir .now),
                (["Note.java", "x", "notes", "p"], .file [35, 10] (.known 5) (.known 7))]
              nodup := by decide }
          cwd := ⟨.slash, ["p"]⟩ }
      moment := ⟨2024, 1, 2, 3, 4, 5, 0⟩ }
  compiler := { engine }
  host := { output := ⟨.slash, "p" :: output⟩ }

/-- A compiler that puts a link in the place of a directory. -/
def relinking : Engine :=
  .builtin fun _ t => (.ok 0, (t.eraseBelow ["a", "stubs", "p"]).create ["a", "stubs", "p"] (.link "../notes/x"))

/-- What holds of the trees before and after a build, if there are no links before it and its compiler changes nothing outside
of the output directory. -/
def Ensures (Holds : Settings → Build → FileTree → FileTree → Prop) : Prop :=
  ∀ settings config b r b', b.world.disk.tree.LinkFree →
    (∀ r w, Confined (Below (outputLoc b)) (fun _ => False) w.disk.tree (madeOf b.compiler.engine r w).tree) →
    (generate settings config).runFrom b = (r, b') → Holds settings b b.world.disk.tree b'.world.disk.tree

theorem confined_of_relinking {output : Loc} (hbelow : Below output ["a", "stubs", "p"]) (r : Request) (w : World) :
    Confined (Below output) (fun _ => False) w.disk.tree (madeOf relinking r w).tree := by
  have htree : (madeOf relinking r w).tree =
      (w.disk.tree.eraseBelow ["a", "stubs", "p"]).create ["a", "stubs", "p"] (.link "../notes/x") := rfl
  have hsame : ∀ l, ¬Below output l → l ≠ ["a", "stubs", "p"] ∧
      (w.disk.tree.eraseBelow ["a", "stubs", "p"]).get? l = w.disk.tree.get? l := by
    intro l hl
    have hout : ¬Below ["a", "stubs", "p"] l := fun habove => hl (hbelow.trans habove)
    constructor
    · exact fun heq => hl (heq ▸ hbelow)
    · rw [get?_eraseBelow, if_neg hout]
  constructor
  · intro l hl
    obtain ⟨hne, herased⟩ := hsame l hl
    left
    rw [htree, content?_create, if_neg hne]
    exact congrArg (Option.map Entry.content) herased
  · intro l hl
    obtain ⟨hne, herased⟩ := hsame l hl
    rw [htree, file?_create, if_neg hne]
    exact file?_of_get?_eq herased

/-- A build may set back the time of a file that is none of its own: the path of the output directory leads elsewhere after
compiling. And it may make a directory that leads to none of its own, on a way that goes up again. -/
theorem build_may_stray :
    ¬Ensures (fun settings b t t' => ∀ l, ¬Own settings b l → t'.file? l = t.file? l) ∧
      ¬Ensures fun settings b t t' => ∀ l, ¬Own settings b l → t.get? l = none → t'.isDir l = true →
        Below l (outputLoc b) ∨ Below l (intermediateLoc settings b) := by
  constructor
  · intro h
    have hfree : (windingSample ["stubs", "a", ".."] relinking).world.disk.tree.LinkFree := by decide
    have hbelow : Below (outputLoc (windingSample ["stubs", "a", ".."] relinking)) ["a", "stubs", "p"] := by decide
    have hother : ¬(Below (outputLoc (windingSample ["stubs", "a", ".."] relinking)) ["Note.java", "x", "notes", "p"] ∨
        Below (intermediateLoc nestedSettings (windingSample ["stubs", "a", ".."] relinking))
          ["Note.java", "x", "notes", "p"]) := by
      decide
    have hkept := h nestedSettings {} _ _ _ hfree (confined_of_relinking hbelow) rfl _ hother
    revert hkept
    decide +kernel
  · intro h
    have hfree : (windingSample ["b", "..", "stubs"] .dry).world.disk.tree.LinkFree := by decide
    have hother : ¬(Below (outputLoc (windingSample ["b", "..", "stubs"] .dry)) ["b", "p"] ∨
        Below (intermediateLoc nestedSettings (windingSample ["b", "..", "stubs"] .dry)) ["b", "p"]) := by
      decide
    have hleads := h nestedSettings {} _ _ _ hfree (fun _ w => .refl w.disk.tree) rfl ["b", "p"] hother (by decide)
      (by decide +kernel)
    revert hleads
    decide

end JavaStubs.BuildAction
