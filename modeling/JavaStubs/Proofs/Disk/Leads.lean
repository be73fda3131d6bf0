import JavaStubs.Disk.RealPath
import JavaStubs.Proofs.Disk.Contents

/-! Where names lead, as rules: one for each way in which a walk can go on. The rules say what of a tree a walk
depends on, so that a change elsewhere leaves it as it is. -/
namespace JavaStubs

def Place.loc : Place → Loc
  | found l _ => l
  | vacant l => l

def Place.entry? : Place → Option Entry
  | found _ e => some e
  | vacant _ => none

/-- A name that stands for an entry. -/
structure EntryName (c : String) : Prop where
  notHere : c ≠ "."
  notAbove : c ≠ ".."
  short : c.utf8ByteSize ≤ maxName

namespace FileTree

/-- Names lead from a location to a place, with at most `links` links followed. -/
inductive Leads (t : FileTree) (follow : Bool) : Nat → Loc → List String → Place → Prop
  | arrive {links here e} : t.get? here = some e → Leads t follow links here [] (.found here e)
  | stay {links here rest p} : t.isDir here = true → Leads t follow links here rest p →
      Leads t follow links here ("." :: rest) p
  | up {links here rest p} : t.isDir here = true → Leads t follow links here.tail rest p →
      Leads t follow links here (".." :: rest) p
  | free {links here c} : t.isDir here = true → EntryName c → t.get? (c :: here) = none →
      Leads t follow links here [c] (.vacant (c :: here))
  | unfollowed {links here c target} : t.isDir here = true → EntryName c →
      t.get? (c :: here) = some (.link target) → follow = false →
      Leads t follow links here [c] (.found (c :: here) (.link target))
  | jump {links here c rest target p} : t.isDir here = true → EntryName c →
      t.get? (c :: here) = some (.link target) → (rest ≠ [] ∨ follow = true) →
      Leads t follow links (if isAbsoluteText target then [] else here) (linkParts target ++ rest) p →
      Leads t follow (links + 1) here (c :: rest) p
  | down {links here c rest e p} : t.isDir here = true → EntryName c → t.get? (c :: here) = some e →
      e.isLink = false → Leads t follow links (c :: here) rest p → Leads t follow links here (c :: rest) p

variable {t t' : FileTree} {follow : Bool} {links : Nat} {here : Loc} {parts : List String} {p : Place}

theorem leads_of_walk (h : t.walk follow links here parts = .ok p) : Leads t follow links here parts p := by
  fun_induction walk t follow links here parts
  case case1 he =>
    cases h
    exact .arrive he
  case case3 hd ih => exact .stay hd (ih h)
  case case4 hd _ ih => exact .up hd (ih h)
  case case6 rest hd h1 h2 h3 hn hr =>
    cases h
    obtain rfl := List.isEmpty_iff.1 hr
    exact .free hd ⟨h1, h2, by omega⟩ hn
  case case8 rest hd h1 h2 h3 target hl hr =>
    cases h
    obtain rfl := List.isEmpty_iff.1 hr.1
    exact .unfollowed hd ⟨h1, h2, by omega⟩ hl (by simpa using hr.2)
  case case10 rest hd h1 h2 h3 target hl hr links _ ih =>
    refine .jump hd ⟨h1, h2, by omega⟩ hl ?_ (ih h)
    by_cases hn : rest = []
    · simpa [hn] using hr
    · exact .inl hn
  case case11 hd h1 h2 h3 e hl he ih =>
    refine .down hd ⟨h1, h2, by omega⟩ he ?_ (ih h)
    cases e with
    | link target => exact absurd rfl (hl target)
    | file => rfl
    | dir => rfl
  all_goals simp at h

/-- A walk goes on where a link points, if the link is to be followed. -/
theorem walk_jump {c target : String} {rest : List String} (hd : t.isDir here = true) (hc : EntryName c)
    (hl : t.get? (c :: here) = some (.link target)) (hr : rest ≠ [] ∨ follow = true) :
    t.walk follow (links + 1) here (c :: rest) =
      t.walk follow links (if isAbsoluteText target then [] else here) (linkParts target ++ rest) := by
  rw [walk, if_pos hd, if_neg hc.notHere, if_neg hc.notAbove, if_neg (Nat.not_lt.2 hc.short)]
  have hstop : ¬(rest.isEmpty = true ∧ ¬follow = true) := by
    rintro ⟨hn, hf⟩
    exact hr.elim (fun h => h (List.isEmpty_iff.1 hn)) hf
  split
  · simp_all
  · next target' hl' =>
    rw [hl] at hl'
    cases hl'
    rw [if_neg hstop]
  · next e hne he =>
    rw [hl] at he
    cases he
    exact absurd rfl (hne target)

theorem walk_down {c : String} {rest : List String} {e : Entry} (hd : t.isDir here = true) (hc : EntryName c)
    (he : t.get? (c :: here) = some e) (hl : e.isLink = false) :
    t.walk follow links here (c :: rest) = t.walk follow links (c :: here) rest := by
  rw [walk, if_pos hd, if_neg hc.notHere, if_neg hc.notAbove, if_neg (Nat.not_lt.2 hc.short)]
  split
  · simp_all
  · next target hl' =>
    rw [he] at hl'
    cases hl'
    simp [Entry.isLink] at hl
  · rfl

theorem Leads.walk (h : Leads t follow links here parts p) : t.walk follow links here parts = .ok p := by
  induction h with
  | arrive he => rw [FileTree.walk, he]
  | stay hd _ ih => rw [FileTree.walk, if_pos hd, if_pos rfl, ih]
  | up hd _ ih => rw [FileTree.walk, if_pos hd, if_neg (by decide), if_pos rfl, ih]
  | free hd hc hn =>
    rw [FileTree.walk, if_pos hd, if_neg hc.notHere, if_neg hc.notAbove, if_neg (Nat.not_lt.2 hc.short)]
    split <;> simp_all
  | unfollowed hd hc hl hf =>
    rw [FileTree.walk, if_pos hd, if_neg hc.notHere, if_neg hc.notAbove, if_neg (Nat.not_lt.2 hc.short)]
    split <;> simp_all
  | jump hd hc hl hr _ ih => rw [walk_jump hd hc hl hr, ih]
  | down hd hc he hl _ ih => rw [walk_down hd hc he hl, ih]

theorem walk_eq_ok_iff : t.walk follow links here parts = .ok p ↔ Leads t follow links here parts p :=
  ⟨leads_of_walk, Leads.walk⟩

theorem Leads.unique {q : Place} (h : Leads t follow links here parts p) (h' : Leads t follow links here parts q) :
    p = q :=
  Except.ok.inj (h.walk.symm.trans h'.walk)

theorem Leads.get?_loc (h : Leads t follow links here parts p) : t.get? p.loc = p.entry? := by
  induction h with
  | arrive he => exact he
  | stay _ _ ih => exact ih
  | up _ _ ih => exact ih
  | free _ _ hn => exact hn
  | unfollowed _ _ hl => exact hl
  | jump _ _ _ _ _ ih => exact ih
  | down _ _ _ _ _ ih => exact ih

theorem Leads.get?_found {l : Loc} {e : Entry} (h : Leads t follow links here parts (.found l e)) :
    t.get? l = some e :=
  h.get?_loc

theorem Leads.more_links {links' : Nat} (h : Leads t follow links here parts p) (hle : links ≤ links') :
    Leads t follow links' here parts p := by
  induction h generalizing links' with
  | arrive he => exact .arrive he
  | stay hd _ ih => exact .stay hd (ih hle)
  | up hd _ ih => exact .up hd (ih hle)
  | free hd hc hn => exact .free hd hc hn
  | unfollowed hd hc hl hf => exact .unfollowed hd hc hl hf
  | jump hd hc hl hr _ ih =>
    obtain ⟨n, rfl⟩ := Nat.exists_eq_add_of_le hle
    rw [Nat.add_right_comm]
    exact .jump hd hc hl hr (ih (Nat.le_add_right _ _))
  | down hd hc he hl _ ih => exact .down hd hc he hl (ih hle)

/-- Names that lead to an entry still lead to one if a link in the last place is not followed. -/
theorem Leads.unfollow {l : Loc} {e : Entry} (h : Leads t true links here parts (.found l e)) :
    ∃ l' e', Leads t false links here parts (.found l' e') := by
  generalize hp : Place.found l e = p at h
  induction h with
  | arrive he => exact ⟨_, _, .arrive he⟩
  | stay hd _ ih => exact (ih hp).imp fun _ => .imp fun _ hw => .stay hd hw
  | up hd _ ih => exact (ih hp).imp fun _ => .imp fun _ hw => .up hd hw
  | free => cases hp
  | unfollowed _ _ _ hf => cases hf
  | @jump _ _ _ rest _ _ hd hc hl _ _ ih =>
    cases rest with
    | nil => exact ⟨_, _, .unfollowed hd hc hl rfl⟩
    | cons => exact (ih hp).imp fun _ => .imp fun _ hw => .jump hd hc hl (.inl (List.cons_ne_nil _ _)) hw
  | down hd hc he hl _ ih => exact (ih hp).imp fun _ => .imp fun _ hw => .down hd hc he hl hw

theorem Leads.isDir_of_ne_nil (h : Leads t follow links here parts p) (hn : parts ≠ []) : t.isDir here = true := by
  cases h with
  | arrive => contradiction
  | stay hd | up hd | free hd | unfollowed hd | jump hd | down hd => exact hd

/-- A walk along two stretches passes through an entry where the first one ends. -/
theorem Leads.append_inv {ps qs : List String} (h : Leads t follow links here (ps ++ qs) p) (hq : qs ≠ []) :
    ∃ links' ≤ links, ∃ l e, Leads t true links here ps (.found l e) ∧ Leads t follow links' l qs p := by
  -- with no name on the first stretch, the second one begins at once
  have hdone : ∀ {links here parts p}, [] ++ qs = parts → Leads t follow links here parts p →
      ∃ links' ≤ links, ∃ l e, Leads t true links here [] (.found l e) ∧ Leads t follow links' l qs p := by
    rintro links here _ p rfl hw
    obtain ⟨m, hm⟩ := isDir_iff.1 (hw.isDir_of_ne_nil hq)
    exact ⟨links, Nat.le_refl _, here, .dir m, .arrive hm, hw⟩
  have hlast : ∀ {c d : String} {ps : List String}, c :: ps ++ qs ≠ [d] := by
    intro c d ps heq
    exact hq (List.append_eq_nil_iff.1 (List.cons.inj heq).2).2
  generalize hps : ps ++ qs = parts at h
  induction h generalizing ps with
  | arrive => exact absurd (List.append_eq_nil_iff.1 hps).2 hq
  | stay hd hw ih =>
    cases ps with
    | nil => exact hdone hps (.stay hd hw)
    | cons c ps =>
      obtain ⟨rfl, hps'⟩ := List.cons.inj hps
      obtain ⟨links', hle, l, e, h₁, h₂⟩ := ih hps'
      exact ⟨links', hle, l, e, .stay hd h₁, h₂⟩
  | up hd hw ih =>
    cases ps with
    | nil => exact hdone hps (.up hd hw)
    | cons c ps =>
      obtain ⟨rfl, hps'⟩ := List.cons.inj hps
      obtain ⟨links', hle, l, e, h₁, h₂⟩ := ih hps'
      exact ⟨links', hle, l, e, .up hd h₁, h₂⟩
  | free hd hc hn =>
    cases ps with
    | nil => exact hdone hps (.free hd hc hn)
    | cons c ps => exact absurd hps hlast
  | unfollowed hd hc hl hf =>
    cases ps with
    | nil => exact hdone hps (.unfollowed hd hc hl hf)
    | cons c ps => exact absurd hps hlast
  | jump hd hc hl hr hw ih =>
    cases ps with
    | nil => exact hdone hps (.jump hd hc hl hr hw)
    | cons c ps =>
      obtain ⟨rfl, rfl⟩ := List.cons.inj hps
      obtain ⟨links', hle, l, e, h₁, h₂⟩ := ih (List.append_assoc _ _ _)
      exact ⟨links', Nat.le_succ_of_le hle, l, e, .jump hd hc hl (.inr rfl) h₁, h₂⟩
  | down hd hc he hl hw ih =>
    cases ps with
    | nil => exact hdone hps (.down hd hc he hl hw)
    | cons c ps =>
      obtain ⟨rfl, hps'⟩ := List.cons.inj hps
      obtain ⟨links', hle, l, e, h₁, h₂⟩ := ih hps'
      exact ⟨links', hle, l, e, .down hd hc he hl h₁, h₂⟩

theorem Kept.get?_link (h : Kept t t') {l : Loc} {target : String} (hl : t.get? l = some (.link target)) :
    t'.get? l = some (.link target) := by
  obtain ⟨e, he, hc⟩ := get?_of_content? (h l _ (content?_of_get? hl) rfl)
  rw [he, Entry.content_eq_link.1 hc]

/-- A walk depends on directories and links alone: where they are kept, it still arrives, at what is there now. -/
theorem Leads.of_kept {g : Bool} {e : Entry} (h : Leads t follow links here parts p) (hk : Kept t t')
    (he : t'.get? p.loc = some e) (hl : e.isLink = false) (hg : follow = true → g = true) :
    Leads t' g links here parts (.found p.loc e) := by
  induction h with
  | arrive => exact .arrive he
  | stay hd _ ih => exact .stay (hk.isDir hd) (ih he)
  | up hd _ ih => exact .up (hk.isDir hd) (ih he)
  | free hd hc _ => exact .down (hk.isDir hd) hc he hl (.arrive he)
  | unfollowed hd hc htarget _ =>
    cases (hk.get?_link htarget).symm.trans he
    cases hl
  | jump hd hc htarget hr _ ih =>
    exact .jump (hk.isDir hd) hc (hk.get?_link htarget) (hr.imp_right hg) (ih he)
  | @down links here c rest e₀ p hd hc he₀ hl₀ hw ih =>
    by_cases hdir : t.isDir (c :: here) = true
    · obtain ⟨m, hm⟩ := isDir_iff.1 (hk.isDir hdir)
      exact .down (hk.isDir hd) hc hm rfl (ih he)
    · -- a file is where the walk ends
      cases rest with
      | nil =>
        cases hw
        exact .down (hk.isDir hd) hc he hl (.arrive he)
      | cons => exact absurd (hw.isDir_of_ne_nil (List.cons_ne_nil _ _)) hdir

/-- Taking a file away, or a link that leads to no directory, does not bar the way to a directory. -/
theorem Leads.of_removes {c : String} {above l : Loc} {m : Stamp}
    (h : Leads t true links here parts (.found l (.dir m))) (hr : Removes (c :: above) t t')
    (hbar : ∀ links l m, ¬Leads t true links above [c] (.found l (.dir m))) :
    ∃ m', Leads t' true links here parts (.found l (.dir m')) := by
  have hdirs : ∀ {d}, t.isDir d = true → t'.isDir d = true := by
    intro d hd
    refine isDir_iff_content?.2 ((hr.elsewhere d ?_).trans (isDir_iff_content?.1 hd))
    rintro rfl
    rw [hr.before] at hd
    cases hd
  generalize hp : Place.found l (.dir m) = p at h
  induction h with
  | arrive he =>
    cases hp
    obtain ⟨m', hm⟩ := isDir_iff.1 (hdirs (isDir_iff.2 ⟨m, he⟩))
    exact ⟨m', .arrive hm⟩
  | stay hd _ ih => exact (ih hp).imp fun _ hw => .stay (hdirs hd) hw
  | up hd _ ih => exact (ih hp).imp fun _ hw => .up (hdirs hd) hw
  | free => cases hp
  | unfollowed => cases hp
  | @jump links here c' rest target p hd hc hl hrest hw ih =>
    subst hp
    by_cases hx : c' :: here = c :: above
    · obtain ⟨rfl, rfl⟩ := List.cons.inj hx
      cases rest with
      | nil => exact absurd (.jump hd hc hl (.inr rfl) hw) (hbar _ _ _)
      | cons q qs =>
        obtain ⟨links', -, l', e, h₁, h₂⟩ := hw.append_inv (List.cons_ne_nil q qs)
        obtain ⟨m', hm'⟩ := isDir_iff.1 (h₂.isDir_of_ne_nil (List.cons_ne_nil _ _))
        rw [h₁.get?_found, Option.some.injEq] at hm'
        subst hm'
        refine absurd (.jump hd hc hl (.inr rfl) ?_) (hbar (links + 1) l' m')
        rw [List.append_nil]
        exact h₁
    · obtain ⟨e, he, hlink⟩ := get?_of_content? ((hr.elsewhere _ hx).trans (content?_of_get? hl))
      rw [Entry.content_eq_link.1 hlink] at he
      exact (ih rfl).imp fun _ hw => .jump (hdirs hd) hc he hrest hw
  | @down links here c' rest e p hd hc he hl hw ih =>
    subst hp
    by_cases hx : c' :: here = c :: above
    · -- only a directory leads on to one
      have hdir : t.isDir (c' :: here) = true := by
        cases rest with
        | nil =>
          cases hw with
          | arrive hm => exact isDir_iff.2 ⟨m, hm⟩
        | cons => exact hw.isDir_of_ne_nil (List.cons_ne_nil _ _)
      rw [hx, hr.before] at hdir
      cases hdir
    · obtain ⟨e', he', hc'⟩ := get?_of_content? ((hr.elsewhere _ hx).trans (content?_of_get? he))
      have hl' : e'.isLink = false := by
        cases e' with
        | link target => rw [Entry.content_eq_link.1 hc'.symm] at hl; cases hl
        | file => rfl
        | dir => rfl
      exact (ih rfl).imp fun _ hw => .down (hdirs hd) hc he' hl' hw

theorem descend_cons {c : String} (h : EntryName c) (here : Loc) (parts : List String) :
    descend here (c :: parts) = descend (c :: here) parts := by
  simp [descend, h.notHere, h.notAbove]

theorem descend_append (here : Loc) (ps qs : List String) :
    descend here (ps ++ qs) = descend (descend here ps) qs :=
  List.foldl_append

/-- Without links, names lead to what their text says. -/
theorem Leads.loc_eq_descend (h : Leads t follow links here parts p) (ht : t.LinkFree) :
    p.loc = descend here parts := by
  induction h with
  | arrive => rfl
  | stay _ _ ih => exact ih
  | up _ _ ih => exact ih
  | free _ hc _ => exact (descend_cons hc _ []).symm
  | unfollowed _ _ hl _ => exact absurd (content?_of_get? hl) (ht _ _)
  | jump _ _ hl => exact absurd (content?_of_get? hl) (ht _ _)
  | down _ hc _ _ _ ih => exact ih.trans (descend_cons hc _ _).symm

/-- Without a name that goes up, names only lead down. -/
theorem suffix_descend (hup : ".." ∉ parts) : here <:+ descend here parts := by
  induction parts generalizing here with
  | nil => exact List.suffix_refl here
  | cons c rest ih =>
    obtain ⟨hc, hrest⟩ : c ≠ ".." ∧ ".." ∉ rest := by simpa [eq_comm] using hup
    by_cases hdot : c = "."
    · rw [hdot]
      exact ih hrest
    · have hstep : descend here (c :: rest) = descend (c :: here) rest := by simp [descend, hdot, hc]
      rw [hstep]
      exact (List.suffix_cons c here).trans (ih hrest)

/-- Names of which none goes up lead to what their text says, if no link is on the way there. -/
theorem Leads.loc_eq_descend_of_down (h : Leads t follow links here parts p) (hup : ".." ∉ parts)
    (hlink : ∀ l target, l <:+ descend here parts → t.get? l ≠ some (.link target)) :
    p.loc = descend here parts := by
  induction h with
  | arrive => rfl
  | stay _ _ ih => exact ih (fun h => hup (List.mem_cons_of_mem _ h)) hlink
  | up => exact absurd List.mem_cons_self hup
  | free _ hc _ => exact (descend_cons hc _ []).symm
  | unfollowed _ hc hl _ =>
    rw [descend_cons hc] at hlink
    exact absurd hl (hlink _ _ (List.suffix_refl _))
  | jump _ hc hl =>
    have hrest := fun h => hup (List.mem_cons_of_mem _ h)
    rw [descend_cons hc] at hlink
    exact absurd hl (hlink _ _ (suffix_descend hrest))
  | down _ hc _ _ _ ih =>
    have hrest := fun h => hup (List.mem_cons_of_mem _ h)
    rw [descend_cons hc] at hlink ⊢
    exact ih hrest hlink

end FileTree

end JavaStubs
