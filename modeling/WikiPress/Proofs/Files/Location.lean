import WikiPress.Files.Location
import WikiPress.Proofs.Path.Canonical

/-!
# Proofs/Files/Location — what stands below a location

    root        below                join root below
    wiki        a/b.md       ──▸     wiki/a/b.md
    wiki/       a/b.md       ──▸     wiki/a/b.md

A location that is written without a slash in front, and without a dot or two dots as a name, stays
inside whatever it is joined to (`Within`): what the whole location says is what the outer one says,
name by name, and then what the inner one says (`parts_join`).  So inner locations that say the same
there say the same by themselves.
-/

namespace WikiPress.Files.Location

open WikiPress.Path (IsProper)

/-- The names between the slashes of a location. -/
def pieces (l : Location) : List Text := (Text.splitOn '/' l).filter fun name => !name.isEmpty

theorem names_eq (l : Location) :
    l.names = l.pieces ++ if Text.endsWith ['/'] l then [['.']] else [] := rfl

/-- **A location stays inside** whatever it is joined to. -/
structure IsInner (below : Location) : Prop where
  relative : below.head? ≠ some '/'
  plain : ∀ segment ∈ Text.splitOn '/' below, segment ≠ ['.'] ∧ segment ≠ ['.', '.']

/-- **A location lies inside another one.** -/
def Within (root l : Location) : Prop := ∃ below, IsInner below ∧ l = join root below

variable {root below : Location}

/-- The names of an inner location lead down. -/
theorem IsInner.isName_of_mem_pieces (h : IsInner below) :
    ∀ name ∈ pieces below, Path.isName name = true := fun name hname => by
  obtain ⟨hsegment, hne⟩ := List.mem_filter.1 hname
  exact Path.isName_iff.2 ⟨by simpa using hne, h.plain name hsegment⟩

/-! ## Joined locations -/

theorem pieces_append_slash (l m : Location) : pieces (l ++ '/' :: m) = pieces l ++ pieces m := by
  rw [pieces, Text.splitOn_append_cons, List.filter_append]
  rfl

/-- A slash and what is joined behind it. -/
theorem join_eq (hroot : root ≠ []) (h : below.head? ≠ some '/') :
    ∃ base, join root below = base ++ '/' :: below ∧ (root = base ∨ root = base ++ ['/']) := by
  have hrelative : Text.beginsWith ['/'] below = false :=
    Bool.eq_false_iff.2 (mt Snippet.Directive.beginsWith_iff.1 h)
  rw [join, hrelative, Bool.false_or, if_neg (by simpa using hroot)]
  split
  · next hend =>
    obtain ⟨base, rfl⟩ := Snippet.Directive.endsWith_iff.1 hend
    exact ⟨base, by simp, .inr rfl⟩
  · exact ⟨root, rfl, .inl rfl⟩

theorem join_nil (below : Location) : join [] below = below := by
  rw [join, List.isEmpty_nil, Bool.or_true, if_pos rfl]

/-- **The names of a joined location** are those of both parts. -/
theorem pieces_join (h : below.head? ≠ some '/') :
    pieces (join root below) = pieces root ++ pieces below := by
  by_cases hroot : root = []
  · rw [hroot, join_nil]
    rfl
  · obtain ⟨base, hjoin, rfl | rfl⟩ := join_eq hroot h
    · rw [hjoin, pieces_append_slash]
    · rw [hjoin, pieces_append_slash, pieces_append_slash]
      simp [pieces]

/-- What is said by the names behind a slash. -/
def said (l : Location) : List Text :=
  (Text.splitOn '/' l).filter fun name => !name.isEmpty && name != ['.']

theorem IsInner.said_eq (h : IsInner below) : said below = pieces below :=
  List.filter_congr fun name hname => by simp [(h.plain name hname).1]

theorem parts_nil : parts [] = [] := rfl

theorem parts_append_slash (l m : Location) :
    parts (l ++ '/' :: m) = (if l = [] then [['/']] else parts l) ++ said m := by
  obtain ⟨first, rest, hsplit⟩ := List.exists_cons_of_ne_nil (Text.splitOn_ne_nil '/' l)
  rw [parts, parts, Text.splitOn_append_cons, hsplit, said]
  by_cases hl : l = []
  · subst hl
    obtain ⟨rfl, rfl⟩ : first = [] ∧ rest = [] := by simpa [eq_comm] using hsplit
    rfl
  · obtain ⟨c, t, rfl⟩ := List.exists_cons_of_ne_nil hl
    simp only [List.cons_append, List.filter_append, List.cons_ne_nil, if_false,
      Snippet.Directive.beginsWith_iff, List.head?_cons]
    split
    · split <;> rfl
    · rfl

/-- **What a location says with an inner one joined to it.** -/
theorem parts_join (h : IsInner below) :
    (join root below).parts = root.parts ++ below.pieces := by
  by_cases hroot : root = []
  · obtain ⟨first, rest, hsplit⟩ := List.exists_cons_of_ne_nil (Text.splitOn_ne_nil '/' below)
    have hsaid := h.said_eq
    have hfirst := (h.plain first (by rw [hsplit]; exact List.mem_cons_self)).1
    have hrelative : Text.beginsWith ['/'] below = false :=
      Bool.eq_false_iff.2 (mt Snippet.Directive.beginsWith_iff.1 h.relative)
    rw [said, hsplit] at hsaid
    rw [hroot, join_nil, parts_nil, List.nil_append, parts, hsplit, hrelative, ← hsaid]
    by_cases hempty : first = []
    · simp [hempty]
    · simp [hempty, hfirst]
  · obtain ⟨base, hjoin, rfl | rfl⟩ := join_eq hroot h.relative
    · rw [hjoin, parts_append_slash, if_neg hroot, h.said_eq]
    · have hend : said [] = [] := rfl
      rw [hjoin, parts_append_slash, parts_append_slash, hend, List.append_nil, h.said_eq]

/-- **Inner locations that say the same below one root have the same names.** -/
theorem pieces_eq_of_same {below' : Location} (h : IsInner below) (h' : IsInner below')
    (hsame : same (join root below) (join root below') = true) : pieces below = pieces below' := by
  rw [same, beq_iff_eq, parts_join h, parts_join h'] at hsame
  exact List.append_cancel_left hsame

/-! ## The directory of a location -/

/-- **A location is what stands in front of its last name, and that name.** -/
theorem exists_front (l : Location) :
    ∃ front, l = front ++ (Text.splitOn '/' l).getLastD [] ∧
      l.take (l.length - ((Text.splitOn '/' l).getLastD []).length) = front ∧
      (front = [] ∨ ∃ base, front = base ++ ['/']) := by
  obtain ⟨init, name, hsplit⟩ :=
    List.eq_nil_or_concat (Text.splitOn '/' l) |>.resolve_left (Text.splitOn_ne_nil '/' l)
  have hjoin := Text.join_splitOn '/' l
  rw [List.concat_eq_append] at hsplit
  have hlast : (Text.splitOn '/' l).getLastD [] = name := by rw [hsplit, List.getLastD_concat]
  have htake (front : Text) : (front ++ name).take ((front ++ name).length - name.length) = front := by
    rw [List.length_append, Nat.add_sub_cancel, List.take_left]
  rw [hsplit] at hjoin
  rw [hlast]
  by_cases hinit : init = []
  · subst hinit
    obtain rfl : name = l := hjoin
    exact ⟨[], rfl, htake [], .inl rfl⟩
  · rw [Text.join_append_singleton _ _ hinit] at hjoin
    exact ⟨_, hjoin.symm, by rw [← hjoin, htake], .inr ⟨_, rfl⟩⟩

theorem pieces_trimReversed_begins (r : Location) :
    pieces (trimReversed r).reverse <+: pieces r.reverse := by
  induction r using trimReversed.induct with
  | case1 r ih =>
    rw [trimReversed, List.reverse_cons, pieces_append_slash]
    exact ih.trans (List.prefix_append _ _)
  | case2 r ih =>
    rw [trimReversed, List.reverse_cons, List.reverse_cons, List.append_assoc, List.singleton_append,
      pieces_append_slash]
    exact ih.trans (List.prefix_append _ _)
  | case3 r hslash hdot =>
    simp only [trimReversed.eq_3 r hslash hdot, List.prefix_rfl]

/-- Trimming takes names from the end only. -/
theorem pieces_trimEnd_begins (l : Location) : pieces (trimEnd l) <+: pieces l := by
  have hroot : pieces ['/'] = [] := rfl
  rw [trimEnd]
  split
  · next r hl =>
    rw [List.reverse_eq_iff, List.reverse_cons] at hl
    split
    · rw [hroot]
      exact List.nil_prefix
    · rw [hl, pieces_append_slash]
      exact (pieces_trimReversed_begins r).trans (List.prefix_append _ _)
  · next r hl =>
    rw [List.reverse_eq_iff, List.reverse_cons, List.reverse_cons, List.append_assoc,
      List.singleton_append] at hl
    split
    · rw [hroot]
      exact List.nil_prefix
    · rw [hl, pieces_append_slash]
      exact (pieces_trimReversed_begins r).trans (List.prefix_append _ _)
  · exact List.prefix_rfl

/-- **The names of the directory that holds a location** are the first of its names. -/
theorem pieces_parent?_prefix {l parent : Location} (h : parent? l = some parent) :
    pieces parent <+: pieces l := by
  refine List.IsPrefix.trans ?_ (pieces_trimEnd_begins l)
  rw [parent?] at h
  split at h
  · exact absurd h nofun
  obtain ⟨front, hl, htake, hfront⟩ := exists_front (trimEnd l)
  dsimp only at h
  rw [htake] at h
  rcases hfront with rfl | ⟨base, rfl⟩
  · obtain rfl := Option.some.inj h
    exact List.nil_prefix
  · have hparent : parent = trimEnd (base ++ ['/']) := by
      split at h
      · next hnil => exact absurd hnil (by simp)
      · exact (Option.some.inj h).symm
    rw [hparent, hl, List.append_assoc, List.singleton_append, pieces_append_slash]
    refine (pieces_trimEnd_begins _).trans ?_
    rw [pieces_append_slash]
    exact (List.prefix_append_right_inj _).2 List.nil_prefix

/-! ## Inner locations from proper names -/

section Names

variable {names : List Text} (h : ∀ name ∈ names, IsProper name) (slash : Bool)

include h

theorem pieces_relative : pieces (Path.relative names slash) = names := by
  rw [Path.relative]
  split
  · rw [pieces_append_slash]
    exact (List.append_nil _).trans (Path.splitOn_join_names h)
  · rw [List.append_nil]
    exact Path.splitOn_join_names h

/-- The path along proper names begins with the first of them. -/
theorem head?_relative : (Path.relative names slash).head? ≠ some '/' := by
  cases names with
  | nil => cases slash <;> exact nofun
  | cons name rest =>
    obtain ⟨hname, -⟩ := List.forall_mem_cons.1 h
    obtain ⟨c, t, rfl⟩ := List.exists_cons_of_ne_nil hname.ne_nil
    have hc : c ≠ '/' := fun heq => hname.2 (heq ▸ List.mem_cons_self)
    have hhead : (Text.join ['/'] ((c :: t) :: rest)).head? = some c := by
      cases rest <;> rfl
    rw [Path.relative, List.head?_append_of_ne_nil _ (by rintro hnil; simp [hnil] at hhead), hhead]
    exact fun heq => hc (Option.some.inj heq)

/-- **Proper names stay inside.** -/
theorem isInner_relative : IsInner (Path.relative names slash) where
  relative := head?_relative h slash
  plain := fun segment hsegment => by
    by_cases hempty : segment = []
    · subst hempty
      exact ⟨nofun, nofun⟩
    · have hmem : segment ∈ pieces (Path.relative names slash) :=
        List.mem_filter.2 ⟨hsegment, by simpa using hempty⟩
      rw [pieces_relative h] at hmem
      exact ⟨(h segment hmem).ne_dot, (h segment hmem).ne_climb⟩

/-- What is written behind the slash in front of a canonical path. -/
theorem dropWhile_relative :
    ('/' :: Path.relative names slash).dropWhile (· == '/') = Path.relative names slash := by
  rw [List.dropWhile_cons_of_pos (by simp)]
  have hhead := head?_relative h slash
  cases hrelative : Path.relative names slash with
  | nil => rfl
  | cons c t =>
    rw [hrelative, List.head?_cons, ne_eq, Option.some.injEq] at hhead
    exact List.dropWhile_cons_of_neg (by simpa using hhead)

end Names

/-! ## Extensions -/

/-- The parts of a name with an extension. -/
theorem eq_of_splitName {name stem extension : Text}
    (h : splitName name = (stem, some extension)) : stem ≠ [] ∧ name = stem ++ '.' :: extension := by
  rw [splitName] at h
  split at h
  · exact absurd (congrArg Prod.snd h) nofun
  · exact absurd (congrArg Prod.snd h) nofun
  · next stem' extension' hne hcut =>
    rw [Prod.mk.injEq, Option.some.injEq] at h
    obtain ⟨rfl, rfl⟩ := h
    exact ⟨hne, Text.eq_of_cutLast? hcut⟩

/-- A location that ends with a name is not trimmed, -/
theorem trimEnd_append {name : Text} (h : IsProper name) (front : Text) :
    trimEnd (front ++ name) = front ++ name := by
  have hreverse : (front ++ name).reverse = name.reverse ++ front.reverse := List.reverse_append
  have hslash : '/' ∉ name.reverse := fun hmem => h.2 (List.mem_reverse.1 hmem)
  rw [trimEnd, hreverse]
  split
  · next heq =>
    cases hname : name.reverse with
    | nil => exact absurd (List.reverse_eq_nil_iff.1 hname) h.ne_nil
    | cons c rest =>
      rw [hname, List.cons_append, List.cons.injEq] at heq
      exact absurd (by rw [hname, heq.1]; exact List.mem_cons_self) hslash
  · next heq =>
    rcases hname : name.reverse with _ | ⟨c, _ | ⟨d, rest⟩⟩
    · exact absurd (List.reverse_eq_nil_iff.1 hname) h.ne_nil
    · rw [hname, List.cons_append, List.cons.injEq] at heq
      rw [heq.1, List.reverse_eq_iff] at hname
      exact absurd hname h.ne_dot
    · rw [hname, List.cons_append, List.cons_append, List.cons.injEq, List.cons.injEq] at heq
      exact absurd (by rw [hname, heq.2.1]; simp) hslash
  · rfl

/-- …and has it as its last. -/
theorem exists_front_join {front : List Text} {name : Text} (hfront : ∀ name ∈ front, IsProper name)
    (h : IsProper name) :
    ∃ base, (∀ last, Text.join ['/'] (front ++ [last]) = base ++ last) ∧
      (Text.splitOn '/' (base ++ name)).getLastD [] = name := by
  have hsplit : (Text.splitOn '/' (Text.join ['/'] (front ++ [name]))).getLastD [] = name := by
    rw [Text.splitOn_join_of_not_mem (by simp) fun piece hpiece => ?_, List.getLastD_concat]
    rcases List.mem_append.1 hpiece with hpiece | hpiece
    · exact (hfront piece hpiece).2
    · exact List.mem_singleton.1 hpiece ▸ h.2
  by_cases hnil : front = []
  · subst hnil
    exact ⟨[], fun _ => rfl, hsplit⟩
  · refine ⟨Text.join ['/'] front ++ ['/'], fun last => Text.join_append_singleton _ _ hnil, ?_⟩
    rwa [← Text.join_append_singleton _ _ hnil]

theorem name?_append {base name : Text} (h : IsProper name)
    (hlast : (Text.splitOn '/' (base ++ name)).getLastD [] = name) :
    name? (base ++ name) = some name := by
  rw [name?, trimEnd_append h, hlast]
  split
  · exact absurd rfl h.ne_nil
  · exact absurd rfl h.ne_dot
  · exact absurd rfl h.ne_climb
  · rfl

/-- **Giving a location another extension** changes its last name. -/
theorem withExtension_append {base name stem old : Text} (extension : Text) (h : IsProper name)
    (hlast : (Text.splitOn '/' (base ++ name)).getLastD [] = name)
    (hname : splitName name = (stem, some old)) :
    withExtension extension (base ++ name) = base ++ (stem ++ '.' :: extension) := by
  rw [withExtension, name?_append h hlast]
  dsimp only
  rw [trimEnd_append h, List.length_append, Nat.add_sub_cancel, List.take_left, hname,
    List.append_assoc]

end WikiPress.Files.Location
