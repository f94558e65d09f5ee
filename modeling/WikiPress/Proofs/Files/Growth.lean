import WikiPress.Proofs.Files.Tree

/-!
# Proofs/Files/Growth — what is put into a tree of files leaves the rest alone

                 wiki ─ a.md                       wiki ─ a.md
    root  ─┤                  ──put──▸    root  ─┤
                 out                               out ─ a.html

A file or an empty directory is put below a directory (`Put`), never in place of a directory.  So a
directory stays one and what is there stays there, a file keeps its content unless it is written
itself, and whatever stands beside the new entry is as it was.  A location that led somewhere leads
there still (`Grows.follow`).
-/

namespace WikiPress.Files

namespace Entry

variable {e root : Entry} {names rest trail : List Text}

/-! ## Entries by name -/

theorem at?_append (root : Entry) (names rest : List Text) :
    root.at? (names ++ rest) = (root.at? names).bind fun e => e.at? rest := by
  induction names generalizing root with
  | nil => rfl
  | cons name names ih =>
    cases root with
    | file => rfl
    | directory entries =>
      rw [List.cons_append, at?, at?, Option.bind_assoc]
      exact Option.bind_congr fun e _ => ih e

/-- An entry of a directory, by its name. -/
theorem at?_concat {entries : List (Text × Entry)} (h : root.at? trail = some (.directory entries))
    (name : Text) : root.at? (trail ++ [name]) = entries.lookup name := by
  rw [at?_append, h, Option.bind_some, at?]
  cases entries.lookup name <;> rfl

/-- Nothing stands below a file, or below nothing. -/
theorem at?_append_eq_none (h : ∀ entries, root.at? names ≠ some (.directory entries))
    (hrest : rest ≠ []) : root.at? (names ++ rest) = none := by
  obtain ⟨name, rest, rfl⟩ := List.exists_cons_of_ne_nil hrest
  rw [at?_append]
  cases hat : root.at? names with
  | none => rfl
  | some e =>
    cases e with
    | file => rfl
    | directory entries => exact absurd hat (h entries)

theorem lookup_setEntry (name other : Text) (e : Entry) (entries : List (Text × Entry)) :
    (setEntry name e entries).lookup other =
      if other = name then some e else entries.lookup other := by
  induction entries with
  | nil =>
    rw [setEntry, List.lookup_cons]
    split <;> simp_all
  | cons entry rest ih =>
    obtain ⟨first, old⟩ := entry
    rw [setEntry]
    split
    · next hfirst =>
      rw [List.lookup_cons, List.lookup_cons, beq_iff_eq.1 hfirst]
      split <;> simp_all
    · next hfirst =>
      rw [List.lookup_cons, List.lookup_cons, ih]
      split <;> simp_all

/-! ## A tree with one entry replaced -/

/-- The replaced entry is there, -/
theorem at?_setAt_self (e : Entry) (names : List Text) (root : Entry) :
    (setAt e names root).at? names = some e := by
  induction names generalizing root with
  | nil => rfl
  | cons name rest ih =>
    cases root with
    | file =>
      rw [setAt, at?, List.lookup_cons_self, Option.bind_some]
      exact ih _
    | directory entries =>
      rw [setAt, at?, lookup_setEntry, if_pos rfl, Option.bind_some]
      exact ih _

/-- …it stands in directories, -/
theorem exists_directory_setAt (hrest : rest ≠ []) :
    ∃ entries, (setAt e (names ++ rest) root).at? names = some (.directory entries) := by
  by_contra hnone
  have habove := at?_append_eq_none (not_exists.1 hnone) hrest
  rw [at?_setAt_self] at habove
  exact absurd habove nofun

/-- …and what is neither on the way to it nor below it stays as it was. -/
theorem at?_setAt_of_apart (h : ¬ names <+: trail) (h' : ¬ trail <+: names) :
    (setAt e names root).at? trail = root.at? trail := by
  induction names generalizing root trail with
  | nil => exact absurd List.nil_prefix h
  | cons name rest ih =>
    cases trail with
    | nil => exact absurd List.nil_prefix h'
    | cons other trail =>
      rw [List.cons_prefix_cons, not_and] at h h'
      cases root with
      | file =>
        rw [setAt, at?, List.lookup_cons, List.lookup_nil]
        by_cases heq : other = name
        · subst heq
          simp only [beq_self_eq_true, Option.bind_some]
          rw [ih (h rfl) (h' rfl)]
          cases trail with
          | nil => exact absurd List.nil_prefix (h' rfl)
          | cons => rfl
        · simp only [beq_eq_false_iff_ne.2 heq]
          rfl
      | directory entries =>
        rw [setAt, at?, at?, lookup_setEntry]
        by_cases heq : other = name
        · subst heq
          rw [if_pos rfl, Option.bind_some, ih (h rfl) (h' rfl)]
          cases entries.lookup other with
          | some e => rfl
          | none =>
            cases trail with
            | nil => exact absurd List.nil_prefix (h' rfl)
            | cons => rfl
        · rw [if_neg heq]

end Entry

open Entry (at?)

/-! ## Putting -/

/-- **An entry is put into a tree** below a directory: a file, in place of a file or of nothing, or an
empty directory in place of nothing. -/
structure Put (root : Entry) (trail : List Text) (e root' : Entry) : Prop where
  parent : ∃ dir name entries, trail = dir ++ [name] ∧ root.at? dir = some (.directory entries)
  not_directory : ∀ entries, root.at? trail ≠ some (.directory entries)
  entry : (∃ content, e = .file content) ∨ e = .empty ∧ root.at? trail = none
  eq : root' = Entry.setAt e trail root

namespace Put

variable {root root' e : Entry} {trail t : List Text} (h : Put root trail e root')

include h

theorem at?_self : root'.at? trail = some e := by
  rw [h.eq, Entry.at?_setAt_self]

/-- What stood beside the new entry stands there still. -/
theorem at?_of_apart (hne : ¬ trail <+: t) (hne' : ¬ t <+: trail) : root'.at? t = root.at? t := by
  rw [h.eq, Entry.at?_setAt_of_apart hne hne']

/-- Below the new entry there was nothing. -/
theorem at?_below {rest : List Text} (hrest : rest ≠ []) : root.at? (trail ++ rest) = none :=
  Entry.at?_append_eq_none h.not_directory hrest

/-- Above the new entry there are directories, -/
theorem exists_directory_above {rest : List Text} (heq : trail = t ++ rest) (hrest : rest ≠ []) :
    ∃ entries, root'.at? t = some (.directory entries) := by
  rw [h.eq, heq]
  exact Entry.exists_directory_setAt hrest

/-- …and there were before. -/
theorem exists_directory_before {rest : List Text} (heq : trail = t ++ rest) (hrest : rest ≠ []) :
    ∃ entries, root.at? t = some (.directory entries) := by
  obtain ⟨dir, name, entries, hdir, hentries⟩ := h.parent
  obtain ⟨front, last, rfl⟩ := List.eq_nil_or_concat rest |>.resolve_left hrest
  rw [List.concat_eq_append, hdir, ← List.append_assoc] at heq
  obtain ⟨rfl, -⟩ := List.append_inj' heq rfl
  by_cases hfront : front = []
  · rw [hfront, List.append_nil] at hentries
    exact ⟨entries, hentries⟩
  · by_contra hnone
    rw [Entry.at?_append_eq_none (not_exists.1 hnone) hfront] at hentries
    exact absurd hentries nofun

/-- Where the new entry stands, from where something stood before. -/
theorem cases_at? (hsome : (root.at? t).isSome) :
    t = trail ∨ (∃ rest, rest ≠ [] ∧ trail = t ++ rest) ∨ root'.at? t = root.at? t := by
  by_cases hbelow : trail <+: t
  · obtain ⟨rest, rfl⟩ := hbelow
    by_cases hrest : rest = []
    · exact .inl (by rw [hrest, List.append_nil])
    · rw [h.at?_below hrest] at hsome
      exact absurd hsome (by decide)
  by_cases habove : t <+: trail
  · obtain ⟨rest, rfl⟩ := habove
    refine .inr (.inl ⟨rest, ?_, rfl⟩)
    rintro rfl
    rw [List.append_nil] at hbelow
    exact hbelow List.prefix_rfl
  · exact .inr (.inr (h.at?_of_apart hbelow habove))

/-- **A directory stays a directory.** -/
theorem directory {entries : List (Text × Entry)} (ht : root.at? t = some (.directory entries)) :
    ∃ entries', root'.at? t = some (.directory entries') := by
  rcases h.cases_at? (by rw [ht]; rfl) with rfl | ⟨rest, hrest, heq⟩ | hsame
  · exact absurd ht (h.not_directory entries)
  · exact h.exists_directory_above heq hrest
  · exact ⟨entries, hsame.trans ht⟩

/-- **What is there stays there.** -/
theorem isSome (ht : (root.at? t).isSome) : (root'.at? t).isSome := by
  rcases h.cases_at? ht with rfl | ⟨rest, hrest, heq⟩ | hsame
  · rw [h.at?_self]
    rfl
  · obtain ⟨entries, hentries⟩ := h.exists_directory_above heq hrest
    rw [hentries]
    rfl
  · rwa [hsame]

/-- **A file keeps its content** unless it is written itself. -/
theorem file {content : Option Text} (ht : root.at? t = some (.file content))
    (hne : e = .empty ∨ t ≠ trail) : root'.at? t = some (.file content) := by
  rcases h.cases_at? (by rw [ht]; rfl) with rfl | ⟨rest, hrest, heq⟩ | hsame
  · rcases hne with rfl | hne
    · rcases h.entry with ⟨_, hfile⟩ | ⟨-, hnone⟩
      · exact absurd hfile nofun
      · rw [ht] at hnone
        exact absurd hnone nofun
    · exact absurd rfl hne
  · obtain ⟨entries, hentries⟩ := h.exists_directory_before heq hrest
    rw [ht] at hentries
    exact absurd hentries nofun
  · exact hsame.trans ht

end Put

/-! ## Growing -/

/-- **A tree grows into another one** by entries put where they may be put. -/
inductive Grows (allowed : List Text → Entry → Prop) : Entry → Entry → Prop
  | refl {root} : Grows allowed root root
  | put {root trail e root' root''} (hallowed : allowed trail e) (h : Put root trail e root')
      (rest : Grows allowed root' root'') : Grows allowed root root''

namespace Grows

variable {allowed allowed' : List Text → Entry → Prop} {root root' root'' : Entry} {t : List Text}

theorem single {trail : List Text} {e : Entry} (hallowed : allowed trail e)
    (h : Put root trail e root') : Grows allowed root root' := .put hallowed h .refl

theorem trans (h : Grows allowed root root') (h' : Grows allowed root' root'') :
    Grows allowed root root'' := by
  induction h with
  | refl => exact h'
  | put hallowed hput _ ih => exact .put hallowed hput (ih h')

theorem mono (h : Grows allowed root root')
    (hallowed : ∀ trail e, allowed trail e → allowed' trail e) : Grows allowed' root root' := by
  induction h with
  | refl => exact .refl
  | put hput hstep _ ih => exact .put (hallowed _ _ hput) hstep ih

theorem directory (h : Grows allowed root root') {entries : List (Text × Entry)}
    (ht : root.at? t = some (.directory entries)) :
    ∃ entries', root'.at? t = some (.directory entries') := by
  induction h generalizing entries with
  | refl => exact ⟨entries, ht⟩
  | put _ hput _ ih =>
    obtain ⟨entries', hentries'⟩ := hput.directory ht
    exact ih hentries'

theorem isSome (h : Grows allowed root root') (ht : (root.at? t).isSome) : (root'.at? t).isSome := by
  induction h with
  | refl => exact ht
  | put _ hput _ ih => exact ih (hput.isSome ht)

/-- A file keeps its content where none may be written. -/
theorem file (h : Grows allowed root root') {content : Option Text}
    (ht : root.at? t = some (.file content)) (hne : ∀ e, allowed t e → e = .empty) :
    root'.at? t = some (.file content) := by
  induction h with
  | refl => exact ht
  | @put _ trail e _ _ hallowed hput _ ih =>
    refine ih (hput.file ht ?_)
    by_cases heq : t = trail
    · subst heq
      exact .inl (hne e hallowed)
    · exact .inr heq

/-- **Names lead where they led.** -/
theorem follow (h : Grows allowed root root') {trail out names : List Text}
    (hnames : ∀ name ∈ names, name ≠ []) (hfollow : Files.follow root trail names = .ok out) :
    Files.follow root' trail names = .ok out := by
  induction names generalizing trail with
  | nil => exact hfollow
  | cons name rest ih =>
    obtain ⟨hname, hrest⟩ := List.forall_mem_cons.1 hnames
    obtain ⟨entries, hentries⟩ := exists_directory_of_follow hfollow
    obtain ⟨entries', hentries'⟩ := h.directory hentries
    rcases Path.eq_dot_or_climb_or_isName hname with rfl | rfl | hname
    · rw [follow_dot hentries] at hfollow
      rw [follow_dot hentries']
      exact ih hrest hfollow
    · rw [follow_climb hentries] at hfollow
      rw [follow_climb hentries']
      split at hfollow
      · exact absurd hfollow nofun
      · next hne =>
        rw [if_neg hne]
        exact ih hrest hfollow
    · rw [follow_name hentries hname] at hfollow
      rw [follow_name hentries' hname]
      split at hfollow
      · exact absurd hfollow nofun
      next hlong =>
      split at hfollow
      · next hthere =>
        rw [← Entry.at?_concat hentries] at hthere
        rw [if_neg hlong, ← Entry.at?_concat hentries', if_pos (h.isSome hthere)]
        exact ih hrest hfollow
      · exact absurd hfollow nofun

end Grows

/-!
## Reading inside a directory

Names that go down from a directory lead nowhere else, so what is read inside it depends on what
stands at and below it (`readText_congr`).  A tree that grows beside a directory holds the same
inside it (`Grows.sameBelow`).
-/

open Location (pieces)

/-- **Two trees hold the same at a place and below it.** -/
def SameBelow (dir : List Text) (root root' : Entry) : Prop :=
  ∀ trail, dir <+: trail → root.at? trail = root'.at? trail

variable {dir : List Text} {root root' : Entry}

namespace SameBelow

theorem refl (dir : List Text) (root : Entry) : SameBelow dir root root := fun _ _ => rfl

theorem trans {root'' : Entry} (h : SameBelow dir root root') (h' : SameBelow dir root' root'') :
    SameBelow dir root root'' := fun trail htrail => (h trail htrail).trans (h' trail htrail)

/-- **Names that go down** from inside stay inside, and lead to the same in both trees. -/
theorem follow (h : SameBelow dir root root') {trail names : List Text} (htrail : dir <+: trail)
    (hnames : ∀ name ∈ names, name = ['.'] ∨ Path.isName name = true) :
    Files.follow root trail names = Files.follow root' trail names ∧
      ∀ out, Files.follow root trail names = .ok out → dir <+: out := by
  induction names generalizing trail with
  | nil => exact ⟨rfl, fun out hout => Except.ok.inj hout ▸ htrail⟩
  | cons name rest ih =>
    obtain ⟨hname, hrest⟩ := List.forall_mem_cons.1 hnames
    by_cases hdirectory : ∃ entries, root.at? trail = some (.directory entries)
    · obtain ⟨entries, hentries⟩ := hdirectory
      have hentries' : root'.at? trail = some (.directory entries) := h trail htrail ▸ hentries
      rcases hname with rfl | hname
      · rw [follow_dot hentries, follow_dot hentries']
        exact ih htrail hrest
      · rw [follow_name hentries hname, follow_name hentries' hname]
        split
        · exact ⟨rfl, fun _ => nofun⟩
        · split
          · exact ih (htrail.trans (List.prefix_append _ _)) hrest
          · exact ⟨rfl, fun _ => nofun⟩
    · rw [not_exists] at hdirectory
      rw [follow_of_not_directory hdirectory,
        follow_of_not_directory fun entries => h trail htrail ▸ hdirectory entries]
      exact ⟨rfl, fun _ => nofun⟩

end SameBelow

/-! ## Reading -/

/-- **What is read inside a directory depends on what stands there.** -/
theorem readText_congr (h : SameBelow dir root root') {l below : Location}
    (hroot : follow root [] l.pieces = .ok dir) (hroot' : follow root' [] l.pieces = .ok dir)
    (hbelow : below.IsInner) : readText root (l.join below) = readText root' (l.join below) := by
  set slash := if Text.endsWith ['/'] (l.join below) then [['.']] else [] with hslash
  have hdown : ∀ name ∈ below.pieces ++ slash, name = ['.'] ∨ Path.isName name = true := by
    intro name hname
    rcases List.mem_append.1 hname with hname | hname
    · exact .inr (hbelow.isName_of_mem_pieces name hname)
    · rw [hslash] at hname
      split at hname
      · exact .inl (List.mem_singleton.1 hname)
      · exact absurd hname List.not_mem_nil
  obtain ⟨hsame, hinside⟩ := h.follow (List.prefix_refl dir) hdown
  rw [readText_eq, readText_eq, Location.names_eq, Location.pieces_join hbelow.relative,
    List.append_assoc, follow_append root, follow_append root', hroot, hroot']
  refine congrArg (Except.bind (checkLocation (l.join below))) (funext fun _ => ?_)
  change (follow root dir _).bind _ = (follow root' dir _).bind _
  rw [← hsame]
  cases hout : follow root dir (below.pieces ++ slash) with
  | error fault => rfl
  | ok out => exact congrArg textOf (h out (hinside out hout))

/-! ## Growing beside a directory -/

/-- What is put beside an entry leaves it and what stands below it as they were. -/
theorem Put.sameBelow {trail : List Text} {e : Entry} (h : Put root trail e root')
    (hthere : (root.at? dir).isSome)
    (houtside : dir <+: trail → ∃ entries, root.at? trail = some (.directory entries)) :
    SameBelow dir root root' := by
  have hbelow : ¬ dir <+: trail := fun hdir => by
    obtain ⟨entries, hentries⟩ := houtside hdir
    exact h.not_directory entries hentries
  have habove : ¬ trail <+: dir := by
    rintro ⟨rest, rfl⟩
    have hrest : rest ≠ [] := by
      rintro rfl
      rw [List.append_nil] at hbelow
      exact hbelow List.prefix_rfl
    rw [h.at?_below hrest] at hthere
    exact absurd hthere (by decide)
  intro t ht
  refine (h.at?_of_apart (fun hle => ?_) fun hle => hbelow (ht.trans hle)).symm
  rcases List.prefix_or_prefix_of_prefix ht hle with hle | hle
  · exact hbelow hle
  · exact habove hle

/-- **A tree that grows outside a directory holds the same inside it**, if what may be put inside are
directories that are there. -/
theorem Grows.sameBelow {allowed : List Text → Entry → Prop} (h : Grows allowed root root')
    (hthere : (root.at? dir).isSome)
    (houtside : ∀ trail e, allowed trail e → dir <+: trail →
      ∃ entries, root.at? trail = some (.directory entries)) : SameBelow dir root root' := by
  induction h with
  | refl => exact .refl dir _
  | put hallowed hput _ ih =>
    refine (hput.sameBelow hthere (houtside _ _ hallowed)).trans (ih (hput.isSome hthere) ?_)
    intro trail e hallowed hdir
    obtain ⟨entries, hentries⟩ := houtside trail e hallowed hdir
    exact hput.directory hentries

end WikiPress.Files
