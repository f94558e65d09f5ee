import WikiPress.Proofs.Files.Growth

/-!
# Proofs/Files/Writing — where files and directories are put

    out/a/b.html      names  out, a, b.html
    ├ out             made, unless it is there
    ├ out/a           made, unless it is there
    └ out/a/b.html    written

Writing puts a file where the names of the location lead (`exists_put_of_writeText`), and it can be
read from there as long as it is not written again.  Making the directories of a location puts empty
directories on the way there and nothing else (`makeDirectories_grows`), also when it fails.
-/

namespace WikiPress.Files

open Location (pieces)

variable {root root' : Entry} {l : Location} {dir : List Text} {name : Text}

/-! ## Places -/

/-- **The names of a location lead to a place**, by themselves. -/
def Location.LeadsTo (l : Location) (trail : List Text) : Prop :=
  Path.walk? [] l.pieces = some trail.reverse

/-- **A place on the way of a location**: the first of its names lead there. -/
def Location.OnWay (l : Location) (trail : List Text) : Prop :=
  ∃ names, names <+: l.pieces ∧ Path.walk? [] names = some trail.reverse

theorem Location.LeadsTo.onWay {trail : List Text} (h : l.LeadsTo trail) : l.OnWay trail :=
  ⟨l.pieces, List.prefix_rfl, h⟩

theorem Location.ne_nil_of_mem_pieces (hname : name ∈ pieces l) : name ≠ [] := by
  simpa using (List.mem_filter.1 hname).2

theorem Location.ne_nil_of_mem_names (hname : name ∈ l.names) : name ≠ [] := by
  rw [Location.names_eq] at hname
  rcases List.mem_append.1 hname with hname | hname
  · exact Location.ne_nil_of_mem_pieces hname
  · split at hname
    · rw [List.mem_singleton.1 hname]
      exact List.cons_ne_nil _ _
    · exact absurd hname List.not_mem_nil

/-- A location leads where it led. -/
theorem Grows.resolve {allowed : List Text → Entry → Prop} (h : Grows allowed root root')
    (hresolve : Files.resolve root l = .ok dir) : Files.resolve root' l = .ok dir := by
  rw [resolve_eq_ok_iff] at hresolve ⊢
  exact hresolve.imp_right (h.follow fun _ => Location.ne_nil_of_mem_names)

/-- **A location names an entry of a directory** that is there; the entry need not be. -/
structure Names (root : Entry) (l : Location) (dir : List Text) (name : Text) : Prop where
  checked : checkLocation l = .ok ()
  front : ∃ front, l.pieces = front ++ [name] ∧ follow root [] front = .ok dir
  directory : ∃ entries, root.at? dir = some (.directory entries)
  isName : Path.isName name = true
  short : Text.byteLength name ≤ maxName

theorem Names.leadsTo (h : Names root l dir name) : l.LeadsTo (dir ++ [name]) := by
  obtain ⟨front, hfront, hfollow⟩ := h.front
  have hwalk := walk?_of_follow hfollow fun name hname =>
    Location.ne_nil_of_mem_pieces (l := l) (hfront ▸ List.mem_append_left _ hname)
  rw [Location.LeadsTo, hfront, Path.walk?_append, ← List.reverse_nil, hwalk, Option.bind_some,
    Path.walk?_of_isName (by simpa using h.isName)]
  simp

theorem Names.grows {allowed : List Text → Entry → Prop} (h : Names root l dir name)
    (hgrows : Grows allowed root root') : Names root' l dir name where
  checked := h.checked
  front := by
    obtain ⟨front, hfront, hfollow⟩ := h.front
    refine ⟨front, hfront, hgrows.follow (fun name hname => ?_) hfollow⟩
    exact Location.ne_nil_of_mem_pieces (l := l) (hfront ▸ List.mem_append_left _ hname)
  directory := by
    obtain ⟨entries, hentries⟩ := h.directory
    exact hgrows.directory hentries
  isName := h.isName
  short := h.short

/-- A location that is looked at has a name. -/
theorem pieces_ne_nil (h : checkLocation l = .ok ()) : l.pieces ≠ [] := by
  rw [checkLocation] at h
  split at h
  · exact absurd h nofun
  split at h
  · exact absurd h nofun
  · next hshape =>
    rw [Bool.or_eq_true, not_or, Snippet.Directive.beginsWith_iff] at hshape
    obtain ⟨hne, hhead⟩ := hshape
    cases l with
    | nil => exact absurd rfl hne
    | cons c t =>
      have hc : c ≠ '/' := fun heq => hhead (by rw [heq]; rfl)
      obtain ⟨piece, rest, hsplit⟩ := List.exists_cons_of_ne_nil (Text.splitOn_ne_nil '/' t)
      rw [pieces, Text.splitOn_cons_of_ne hc hsplit]
      simp

theorem placeFor_eq (hcheck : checkLocation l = .ok ()) {front : List Text} {last : Text}
    (hpieces : l.pieces = front ++ [last]) :
    placeFor root l = (follow root [] (front ++ [['.']])).bind fun dir =>
      if last == ['.'] || last == ['.', '.'] then .error .occupied
      else if maxName < Text.byteLength last then .error .longName
      else .ok (dir, last) := by
  have hsplit : (Text.splitOn '/' l).filter (fun name => !name.isEmpty) = front ++ [last] := hpieces
  simp only [placeFor, hcheck, hsplit, List.dropLast_concat, List.getLastD_concat]
  refine congrArg (Except.bind (follow root [] (front ++ [['.']]))) (funext fun dir => ?_)
  split
  · rfl
  · split <;> rfl

/-- **A place for something new is an entry of a directory.** -/
theorem names_of_placeFor (h : placeFor root l = .ok (dir, name)) : Names root l dir name := by
  cases hcheck : checkLocation l with
  | error fault =>
    rw [placeFor, hcheck] at h
    cases h
  | ok =>
    obtain ⟨front, last, hpieces⟩ :=
      List.eq_nil_or_concat l.pieces |>.resolve_left (pieces_ne_nil hcheck)
    rw [List.concat_eq_append] at hpieces
    rw [placeFor_eq hcheck hpieces, follow_append] at h
    obtain ⟨out, hout, h⟩ := exists_of_bind_eq_ok h
    obtain ⟨trail, hfront, hdot⟩ := exists_of_bind_eq_ok hout
    obtain ⟨entries, hentries⟩ := exists_directory_of_follow hdot
    rw [follow_dot hentries, follow, Except.ok.injEq] at hdot
    subst hdot
    split at h
    · cases h
    next hplain =>
    split at h
    · cases h
    next hshort =>
    rw [Except.ok.injEq, Prod.mk.injEq] at h
    obtain ⟨rfl, rfl⟩ := h
    refine ⟨hcheck, ⟨front, hpieces, hfront⟩, ⟨entries, hentries⟩, ?_, Nat.le_of_not_lt hshort⟩
    have hne : last ≠ [] := Location.ne_nil_of_mem_pieces (l := l) (by rw [hpieces]; simp)
    rw [Bool.or_eq_true, not_or] at hplain
    exact Path.isName_iff.2 ⟨hne, by simpa using hplain.1, by simpa using hplain.2⟩

/-! ## Writing a file -/

/-- **A file is put where the names of its location lead.** -/
theorem exists_put_of_writeText {content : Text} (h : writeText root l content = .ok root') :
    ∃ dir name, Names root l dir name ∧ Text.endsWith ['/'] l = false ∧
      Put root (dir ++ [name]) (.file (some content)) root' := by
  cases hplace : placeFor root l with
  | error fault => cases fault <;> (simp only [writeText, hplace] at h; exact absurd h nofun)
  | ok place =>
    obtain ⟨dir, name⟩ := place
    have hnames := names_of_placeFor hplace
    obtain ⟨entries, hentries⟩ := hnames.directory
    simp only [writeText, hplace] at h
    by_cases hslash : Text.endsWith ['/'] l = true
    · rw [if_pos hslash] at h
      exact absurd h nofun
    have hnot : ∀ entries, root.at? (dir ++ [name]) ≠ some (.directory entries) := by
      intro entries hat
      rw [if_neg hslash, hat] at h
      exact absurd h nofun
    refine ⟨dir, name, hnames, Bool.eq_false_iff.2 hslash, ⟨dir, name, entries, rfl, hentries⟩,
      hnot, .inl ⟨_, rfl⟩, ?_⟩
    rw [if_neg hslash] at h
    cases hat : root.at? (dir ++ [name]) with
    | none =>
      rw [hat] at h
      exact (Except.ok.inj h).symm
    | some e =>
      rw [hat] at h
      cases e with
      | file => exact (Except.ok.inj h).symm
      | directory entries => exact absurd hat (hnot entries)

/-- **What was written can be read**, as long as it stands in its place. -/
theorem readText_of_names {content : Text} (h : Names root l dir name)
    (hslash : Text.endsWith ['/'] l = false)
    (hat : root.at? (dir ++ [name]) = some (.file (some content))) :
    readText root l = .ok content := by
  obtain ⟨front, hfront, hfollow⟩ := h.front
  obtain ⟨entries, hentries⟩ := h.directory
  refine readText_eq_ok_iff.2 ⟨h.checked, dir ++ [name], ?_, hat⟩
  rw [Location.names_eq, hslash, hfront, if_neg (by decide), List.append_nil, follow_append, hfollow]
  have hthere : (entries.lookup name).isSome := by
    rw [← Entry.at?_concat hentries, hat]
    rfl
  exact (follow_name hentries h.isName []).trans
    (by rw [if_neg (Nat.not_lt.2 h.short), if_pos hthere, follow])

/-! ## Making directories -/

/-- **A directory is made where the names of its location lead.** -/
theorem exists_put_of_makeDirectory (h : makeDirectory root l = .ok root') :
    ∃ dir name, Names root l dir name ∧ Put root (dir ++ [name]) .empty root' := by
  rw [makeDirectory] at h
  obtain ⟨⟨dir, name⟩, hplace, h⟩ := exists_of_bind_eq_ok h
  have hnames := names_of_placeFor hplace
  obtain ⟨entries, hentries⟩ := hnames.directory
  dsimp only at h
  split at h
  · exact absurd h nofun
  next hnone =>
  refine ⟨dir, name, hnames, ⟨dir, name, entries, rfl, hentries⟩, ?_, .inr ⟨rfl, hnone⟩, ?_⟩
  · rw [hnone]
    exact fun _ => nofun
  · exact (Except.ok.inj h).symm

/-- Empty directories on the way of a location. -/
def DirectoryOnWay (l : Location) (trail : List Text) (e : Entry) : Prop := l.OnWay trail ∧ e = .empty

theorem ensureDirectory_grows (root : Entry) (l : Location) :
    Grows (DirectoryOnWay l) root (ensureDirectory root l).2 := by
  rw [ensureDirectory]
  split
  · next root' hmake =>
    obtain ⟨dir, name, hnames, hput⟩ := exists_put_of_makeDirectory hmake
    exact .single ⟨hnames.leadsTo.onWay, rfl⟩ hput
  · exact .refl

theorem makeAllWithin_grows (fuel : Nat) (root : Entry) (l : Location) :
    Grows (DirectoryOnWay l) root (makeAllWithin fuel root l).2 := by
  induction fuel generalizing root l with
  | zero => exact .refl
  | succ fuel ih =>
    rw [makeAllWithin]
    split
    · exact .refl
    · split
      · exact .refl
      · next parent _ hparent =>
        have hbelow : Grows (DirectoryOnWay l) root (makeAllWithin fuel root parent).2 :=
          (ih root parent).mono fun trail e ⟨⟨names, hnames, hwalk⟩, he⟩ =>
            ⟨⟨names, hnames.trans (Location.pieces_parent?_prefix hparent), hwalk⟩, he⟩
        split
        · next hmade =>
          rw [hmade] at hbelow
          exact hbelow
        · next hmade =>
          rw [hmade] at hbelow
          exact hbelow.trans (ensureDirectory_grows _ l)
      · exact ensureDirectory_grows root l

/-- **Making directories puts empty ones on the way**, and nothing else. -/
theorem makeDirectories_grows (root : Entry) (l : Location) :
    Grows (DirectoryOnWay l) root (makeDirectories root l).2 := makeAllWithin_grows _ root l

end WikiPress.Files
