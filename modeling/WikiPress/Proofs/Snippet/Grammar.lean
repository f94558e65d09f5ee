import WikiPress.Proofs.Path
import WikiPress.Proofs.Snippet.Directive

/-!
# Proofs/Snippet/Grammar — the ways to write a directive line

    ## ␣ [+ #body ] (path "title")
    level blanks label    target

A `Spelling` is a line taken apart by the grammar, so every line of a spelling is well formed.
Reading takes a line apart again (`exists_spelling_of_read?`), but it looks for the end of the
parameter body from the right, and a title may hold something that looks like it.  So a line is a
directive exactly if it has a spelling without a body, or one whose title does not end like a link
target behind a `](` (`read?_line_of_not_ambiguous`).
-/

namespace WikiPress.Snippet.Directive

/-! ## Link targets -/

/-- A character that the path of a link target may hold. -/
def isPathChar (c : Char) : Bool := !(Text.isBlank c || c == '(' || c == ')')

/-- A title in a link target, with the blanks in front of it. -/
structure Title where
  blanks : Text
  /-- What stands between the quotes. -/
  words : Text
  blanks_ne : blanks ≠ []
  allBlank : Text.allBlank blanks = true
  quote_not_mem : '"' ∉ words

/-- The title as it is written. -/
def Title.text (t : Title) : Text := t.blanks ++ '"' :: (t.words ++ ['"'])

/-- A link target: a path, and perhaps a title. -/
structure LinkTarget where
  path : Text
  title : Option Title
  path_ne : path ≠ []
  path_chars : ∀ c ∈ path, isPathChar c = true

/-- The link target as it is written. -/
def LinkTarget.text (t : LinkTarget) : Text := '(' :: (t.path ++ t.title.elim [] Title.text ++ [')'])

theorem isBlank_eq_false_of_isPathChar {c : Char} (h : isPathChar c = true) :
    Text.isBlank c = false := by
  rw [isPathChar, Bool.not_eq_true', Bool.or_eq_false_iff, Bool.or_eq_false_iff] at h
  exact h.1.1

/-- Behind the path stands nothing, or a blank. -/
theorem takeWhile_path (t : LinkTarget) :
    (t.path ++ t.title.elim [] Title.text).takeWhile (!Text.isBlank ·) = t.path ∧
      (t.path ++ t.title.elim [] Title.text).dropWhile (!Text.isBlank ·) =
        t.title.elim [] Title.text := by
  have hpath : ∀ c ∈ t.path, (!Text.isBlank c) = true := fun c hc => by
    rw [isBlank_eq_false_of_isPathChar (t.path_chars c hc), Bool.not_false]
  have hbehind : ∀ c ∈ (t.title.elim [] Title.text).head?, (!Text.isBlank c) = false := by
    cases t.title with
    | none => exact nofun
    | some title =>
      obtain ⟨b, blanks, hb⟩ := List.exists_cons_of_ne_nil title.blanks_ne
      have hblank : Text.isBlank b = true :=
        List.all_eq_true.1 title.allBlank b (hb ▸ List.mem_cons_self)
      rw [Option.elim_some, Title.text, hb]
      intro c hc
      obtain rfl : b = c := Option.some.inj hc
      rw [hblank, Bool.not_true]
  obtain ⟨htake, hdrop⟩ := Text.takeWhile_append_of_neg hbehind
  rw [htake, hdrop, List.takeWhile_eq_self_iff.2 hpath, List.dropWhile_eq_nil_iff.2 hpath]
  exact ⟨rfl, rfl⟩

theorem linkPath?_text (t : LinkTarget) : linkPath? t.text = some t.path := by
  have hopen : Text.strip? ['('] t.text = some (t.path ++ t.title.elim [] Title.text ++ [')']) :=
    Text.strip?_eq_some_iff.2 rfl
  have hclose : Text.stripEnd? [')'] (t.path ++ t.title.elim [] Title.text ++ [')']) =
      some (t.path ++ t.title.elim [] Title.text) := Text.stripEnd?_eq_some_iff.2 rfl
  have hplain : (t.path.isEmpty || t.path.any fun c => c == '(' || c == ')') = false := by
    rw [Bool.or_eq_false_iff, List.isEmpty_eq_false_iff, List.any_eq_false]
    refine ⟨t.path_ne, fun c hc hparen => ?_⟩
    have hchar := t.path_chars c hc
    rw [isPathChar, Bool.or_assoc, hparen, Bool.or_true] at hchar
    exact absurd hchar (by decide)
  simp only [linkPath?, hopen, Option.bind_some, hclose, (takeWhile_path t).1,
    (takeWhile_path t).2, hplain]
  cases t.title with
  | none => rfl
  | some title =>
    have htrim : Text.trimStart title.text = '"' :: (title.words ++ ['"']) := by
      rw [Title.text, Text.trimStart_append_of_allBlank title.allBlank]
      exact Text.trimStart_cons_of_not_blank (by decide) _
    have hquote : Text.strip? ['"'] ('"' :: (title.words ++ ['"'])) = some (title.words ++ ['"']) :=
      Text.strip?_eq_some_iff.2 rfl
    have hend : Text.stripEnd? ['"'] (title.words ++ ['"']) = some title.words :=
      Text.stripEnd?_eq_some_iff.2 rfl
    simp [htrim, hquote, hend, title.quote_not_mem]

/-- What is left of a path that holds no parenthesis are path characters. -/
theorem forall_isPathChar_takeWhile {inner : Text}
    (h : ((inner.takeWhile (!Text.isBlank ·)).any fun c => c == '(' || c == ')') = false) :
    ∀ c ∈ inner.takeWhile (!Text.isBlank ·), isPathChar c = true := by
  intro c hc
  have hblank := List.mem_takeWhile_imp hc
  have hparen := List.any_eq_false.1 h c hc
  rw [isPathChar, Bool.or_assoc, Bool.not_or, Bool.and_eq_true]
  exact ⟨hblank, by simpa using hparen⟩

/-- Quoted words behind blanks, where the path ends, are a title. -/
theorem exists_title {inner words : Text}
    (h : Text.trimStart (inner.dropWhile (!Text.isBlank ·)) = '"' :: (words ++ ['"']))
    (hquote : '"' ∉ words) : ∃ title : Title, title.text = inner.dropWhile (!Text.isBlank ·) := by
  set after := inner.dropWhile (!Text.isBlank ·) with hafter
  have hafterEq : after.takeWhile Text.isBlank ++ '"' :: (words ++ ['"']) = after := by
    rw [← h]
    exact List.takeWhile_append_dropWhile
  have hblanks : after.takeWhile Text.isBlank ≠ [] := by
    intro hnil
    rw [hnil, List.nil_append] at hafterEq
    have hhead : ∀ c ∈ after.head?, Text.isBlank c = true := fun c hc => by
      have hkept := List.head?_dropWhile_not (!Text.isBlank ·) inner
      rw [← hafter, hc] at hkept
      simpa using hkept
    exact absurd (hhead '"' (by rw [← hafterEq]; rfl)) (by decide)
  exact ⟨⟨after.takeWhile Text.isBlank, words, hblanks,
    List.all_eq_true.2 fun c hc => List.mem_takeWhile_imp hc, hquote⟩, hafterEq⟩

/-- **What is read as a link target is one.** -/
theorem linkPath?_eq_some_iff {target path : Text} :
    linkPath? target = some path ↔ ∃ t : LinkTarget, t.text = target ∧ t.path = path := by
  constructor
  · intro h
    rw [linkPath?] at h
    split at h
    · exact absurd h (by simp)
    next inner hinner =>
    obtain ⟨opened, hopen, hclose⟩ := Option.bind_eq_some_iff.1 hinner
    rw [Text.strip?_eq_some_iff] at hopen
    rw [Text.stripEnd?_eq_some_iff] at hclose
    subst hopen hclose
    dsimp only at h
    have hsplit : inner.takeWhile (!Text.isBlank ·) ++ inner.dropWhile (!Text.isBlank ·) = inner :=
      List.takeWhile_append_dropWhile
    split at h
    · exact absurd h (by simp)
    next hplain =>
    rw [Bool.or_eq_true, not_or, Bool.not_eq_true, Bool.not_eq_true,
      List.isEmpty_eq_false_iff] at hplain
    have hchars := forall_isPathChar_takeWhile hplain.2
    split at h
    · split at h
      · next hnone =>
        rw [List.isEmpty_iff] at hnone
        refine ⟨⟨_, none, hplain.1, hchars⟩, ?_, Option.some.inj h⟩
        rw [hnone, List.append_nil] at hsplit
        simp [LinkTarget.text, hsplit]
      · exact absurd h (by simp)
    split at h
    · next words hwords =>
      obtain ⟨quoted, hquote, hend⟩ := Option.bind_eq_some_iff.1 hwords
      rw [Text.strip?_eq_some_iff] at hquote
      rw [Text.stripEnd?_eq_some_iff] at hend
      split at h
      · exact absurd h (by simp)
      next hmem =>
      obtain ⟨title, htitle⟩ := exists_title (hend ▸ hquote) (by simpa using hmem)
      refine ⟨⟨_, some title, hplain.1, hchars⟩, ?_, Option.some.inj h⟩
      simp only [LinkTarget.text, Option.elim_some, htitle, hsplit]
      rfl
    · exact absurd h (by simp)
  · rintro ⟨t, rfl, rfl⟩
    exact linkPath?_text t

theorem isSome_linkPath?_iff {target : Text} :
    (linkPath? target).isSome ↔ ∃ t : LinkTarget, t.text = target := by
  simp only [Option.isSome_iff_exists, linkPath?_eq_some_iff]
  constructor
  · rintro ⟨-, t, ht, -⟩
    exact ⟨t, ht⟩
  · rintro ⟨t, ht⟩
    exact ⟨t.path, t, ht, rfl⟩

/-! ## Titles that look like the end of a parameter body -/

/-- Behind a `](` in the title there are path characters only, up to the closing quote. -/
def LinkTarget.TitleEndsLabel (t : LinkTarget) : Prop :=
  ∃ title, t.title = some title ∧ ∃ before after, title.words = before ++ ']' :: '(' :: after ∧
    ∀ c ∈ after, isPathChar c = true

/-- Path characters in front of the closing quote make a path with it. -/
def LinkTarget.ofTitleEnd (after : Text) (h : ∀ c ∈ after, isPathChar c = true) : LinkTarget where
  path := after ++ ['"']
  title := none
  path_ne := by simp
  path_chars := fun c hc => by
    rcases List.mem_append.1 hc with hc | hc
    · exact h c hc
    · rw [List.mem_singleton.1 hc]
      decide

/-- Words in front of a closing quote that end with a link target: it is the quote that ends its
path. -/
theorem forall_isPathChar_of_text_eq {t : LinkTarget} {after : Text} (hquote : '"' ∉ after)
    (h : t.text = '(' :: (after ++ ['"', ')'])) : ∀ c ∈ after, isPathChar c = true := by
  have hinner : t.path ++ t.title.elim [] Title.text = after ++ ['"'] := by
    have hinit := congrArg List.dropLast (List.cons_inj_right _ |>.1 h)
    rw [List.dropLast_concat] at hinit
    rw [hinit]
    simp
  cases htitle : t.title with
  | none =>
    rw [htitle, Option.elim_none, List.append_nil] at hinner
    exact fun c hc => t.path_chars c (hinner ▸ List.mem_append_left _ hc)
  | some title =>
    rw [htitle, Option.elim_some, Title.text, ← List.cons_append, ← List.append_assoc,
      ← List.append_assoc] at hinner
    have hafter := (List.append_inj_left' hinner rfl).symm
    exact absurd (hafter ▸ by simp) hquote

/-- What stands behind a text without `(` can only be cut at a `](` behind it. -/
theorem cut_behind {front back before rest : Text}
    (h : front ++ back = before ++ ']' :: '(' :: rest) (hfront : '(' ∉ front)
    (hback : back.head? ≠ some '(') :
    ∃ between, before = front ++ between ∧ back = between ++ ']' :: '(' :: rest := by
  rcases List.append_eq_append_iff.1 h with ⟨between, hbefore, hbetween⟩ | ⟨cut, hcut, hrest⟩
  · exact ⟨between, hbefore, hbetween⟩
  · match cut with
    | [] => exact ⟨[], by simpa using hcut.symm, by simpa using hrest.symm⟩
    | [_] =>
      obtain ⟨-, rfl⟩ := by simpa using hrest
      exact absurd rfl hback
    | _ :: _ :: _ =>
      obtain ⟨-, rfl, -⟩ := by simpa using hrest
      exact absurd (hcut ▸ by simp) hfront

/-- …and what stands in front of the closing quote, only at a `](` in front of it. -/
theorem cut_in_front {words between rest : Text}
    (h : words ++ ['"', ')'] = between ++ ']' :: '(' :: rest) :
    ∃ after, words = between ++ ']' :: '(' :: after ∧ rest = after ++ ['"', ')'] := by
  rcases List.append_eq_append_iff.1 h with ⟨late, -, hlate⟩ | ⟨cut, hcut, hrest⟩
  · have hmem : ']' ∈ ['"', ')'] := hlate ▸ by simp
    exact absurd hmem (by decide)
  · match cut with
    | [] => simp at hrest
    | [_] => simp at hrest
    | _ :: _ :: after =>
      obtain ⟨rfl, rfl, rfl⟩ := by simpa using hrest
      exact ⟨after, hcut, rfl⟩

/-- **A link target holds another one behind a `]`** exactly if its title ends like one. -/
theorem LinkTarget.titleEndsLabel_iff {t : LinkTarget} :
    t.TitleEndsLabel ↔
      ∃ before target, t.text = before ++ ']' :: target ∧ (linkPath? target).isSome := by
  constructor
  · rintro ⟨title, htitle, before, after, hwords, hafter⟩
    refine ⟨'(' :: (t.path ++ title.blanks ++ '"' :: before), (ofTitleEnd after hafter).text, ?_,
      isSome_linkPath?_iff.2 ⟨_, rfl⟩⟩
    simp [LinkTarget.text, htitle, Title.text, hwords, ofTitleEnd]
  · rintro ⟨before, target, htext, htarget⟩
    obtain ⟨inner, rfl⟩ := isSome_linkPath?_iff.1 htarget
    obtain ⟨u, hu⟩ : ∃ u, inner.text = '(' :: u := ⟨_, rfl⟩
    have hpath : '(' ∉ t.path := fun hc => absurd (t.path_chars _ hc) (by decide)
    -- the first character of the target is its own parenthesis
    obtain ⟨before, rfl⟩ : ∃ tail, before = '(' :: tail := by
      cases before with
      | nil => simp [LinkTarget.text] at htext
      | cons first tail => exact ⟨tail, by simpa [LinkTarget.text] using (List.cons.inj htext).1.symm⟩
    rw [hu, LinkTarget.text, List.cons_append, List.cons.injEq] at htext
    cases htitle : t.title with
    | none =>
      rw [htitle, Option.elim_none, List.append_nil] at htext
      obtain ⟨between, -, hbetween⟩ := cut_behind htext.2 hpath (by simp)
      have hmem : ']' ∈ [')'] := hbetween ▸ by simp
      exact absurd hmem (by decide)
    | some title =>
      have hblanks : '(' ∉ title.blanks := fun hc =>
        absurd (List.all_eq_true.1 title.allBlank _ hc) (by decide)
      have hsplit : (t.path ++ title.blanks) ++ '"' :: (title.words ++ ['"', ')']) =
          before ++ ']' :: '(' :: u := by
        rw [← htext.2, htitle]
        simp [Title.text]
      obtain ⟨between, -, hbetween⟩ := cut_behind hsplit (by simp [hpath, hblanks]) (by simp)
      obtain ⟨between, rfl⟩ : ∃ tail, between = '"' :: tail := by
        cases between with
        | nil => simp at hbetween
        | cons first tail => exact ⟨tail, by simpa using (List.cons.inj hbetween).1.symm⟩
      rw [List.cons_append, List.cons.injEq] at hbetween
      obtain ⟨after, hwords, hafter⟩ := cut_in_front hbetween.2
      have hquote : '"' ∉ after := fun hc => title.quote_not_mem (by simp [hwords, hc])
      exact ⟨title, htitle, between, after, hwords,
        forall_isPathChar_of_text_eq hquote (hu.trans (by rw [hafter]))⟩

/-! ## The end of the parameter body -/

/-- **A text is cut into a label and the link target behind its bracket**; `seen` is the part of the
label in front of the text. -/
structure Cuts (seen text label target : Text) : Prop where
  text_eq : text = label ++ ']' :: target
  nonempty : seen ++ label ≠ []
  target : (linkPath? target).isSome

theorem cuts_cons_iff {seen t label target : Text} {c : Char} :
    Cuts seen (c :: t) label target ↔
      (label = [] ∧ c = ']' ∧ t = target ∧ seen ≠ [] ∧ (linkPath? t).isSome) ∨
        ∃ tail, label = c :: tail ∧ Cuts (c :: seen) t tail target := by
  constructor
  · rintro ⟨htext, hne, htarget⟩
    cases label with
    | nil =>
      obtain ⟨rfl, rfl⟩ := List.cons.inj htext
      exact .inl ⟨rfl, rfl, rfl, by simpa using hne, htarget⟩
    | cons first tail =>
      obtain ⟨rfl, rfl⟩ := List.cons.inj htext
      exact .inr ⟨tail, rfl, rfl, by simp, htarget⟩
  · rintro (⟨rfl, rfl, rfl, hseen, htarget⟩ | ⟨tail, rfl, rfl, -, htarget⟩)
    · exact ⟨rfl, by simpa using hseen, htarget⟩
    · exact ⟨rfl, by simp, htarget⟩

/-- The search goes on to the right, and takes a cut only if there is none. -/
theorem longestLabel?_cons (seen t : Text) (c : Char) :
    longestLabel? seen (c :: t) = (longestLabel? (c :: seen) t).or
      (if c = ']' ∧ seen ≠ [] ∧ (linkPath? t).isSome then some (seen.reverse, t) else none) := by
  rw [longestLabel?.eq_def]
  dsimp only
  cases longestLabel? (c :: seen) t with
  | some found => rfl
  | none =>
    dsimp only [Option.none_or]
    split
    · next target => simp [endsLabel]
    · next hother =>
      rw [if_neg]
      rintro ⟨rfl, -, htarget⟩
      obtain ⟨inner, rfl⟩ := isSome_linkPath?_iff.1 htarget
      exact hother _ rfl rfl

theorem longestLabel?_eq_none_iff {seen t : Text} :
    longestLabel? seen t = none ↔ ∀ label target, ¬ Cuts seen t label target := by
  induction t generalizing seen with
  | nil =>
    refine iff_of_true rfl fun label target h => ?_
    exact absurd h.text_eq (by simp)
  | cons c t ih =>
    rw [longestLabel?_cons, Option.or_eq_none_iff, ih]
    constructor
    · rintro ⟨hlater, hhere⟩ label target hcuts
      rcases cuts_cons_iff.1 hcuts with ⟨-, hc, -, hseen, htarget⟩ | ⟨tail, -, hcuts⟩
      · rw [if_pos ⟨hc, hseen, htarget⟩] at hhere
        exact absurd hhere (by simp)
      · exact hlater _ _ hcuts
    · intro hnone
      refine ⟨fun label target hcuts => hnone _ _ (cuts_cons_iff.2 (.inr ⟨label, rfl, hcuts⟩)), ?_⟩
      rw [if_neg]
      rintro ⟨hc, hseen, htarget⟩
      exact hnone [] t (cuts_cons_iff.2 (.inl ⟨rfl, hc, rfl, hseen, htarget⟩))

/-- **What is found is a cut, and none has a longer label.** -/
theorem exists_cuts_of_longestLabel? {seen t found target : Text}
    (h : longestLabel? seen t = some (found, target)) :
    ∃ label, found = seen.reverse ++ label ∧ Cuts seen t label target ∧
      ∀ label' target', Cuts seen t label' target' → label'.length ≤ label.length := by
  induction t generalizing seen with
  | nil => exact absurd h (by simp [longestLabel?])
  | cons c t ih =>
    rw [longestLabel?_cons, Option.or_eq_some_iff] at h
    rcases h with hlater | ⟨hnone, hhere⟩
    · obtain ⟨tail, hfound, hcuts, hlongest⟩ := ih hlater
      refine ⟨c :: tail, by simpa using hfound, cuts_cons_iff.2 (.inr ⟨tail, rfl, hcuts⟩), ?_⟩
      intro label' target' hcuts'
      rcases cuts_cons_iff.1 hcuts' with ⟨rfl, -⟩ | ⟨tail', rfl, htail⟩
      · exact Nat.zero_le _
      · exact Nat.succ_le_succ (hlongest _ _ htail)
    · split at hhere
      · next hc =>
        obtain ⟨rfl, rfl⟩ := Prod.mk.inj (Option.some.inj hhere)
        refine ⟨[], (List.append_nil _).symm,
          cuts_cons_iff.2 (.inl ⟨rfl, hc.1, rfl, hc.2.1, hc.2.2⟩), fun label' target' hcuts' => ?_⟩
        rcases cuts_cons_iff.1 hcuts' with ⟨rfl, -⟩ | ⟨tail', -, htail⟩
        · exact Nat.le_refl _
        · exact absurd htail (longestLabel?_eq_none_iff.1 hnone _ _)
      · exact absurd hhere (by simp)

/-- **The label that is found**: the longest. -/
theorem longestLabel?_eq_some_iff {t label target : Text} :
    longestLabel? [] t = some (label, target) ↔ Cuts [] t label target ∧
      ∀ label' target', Cuts [] t label' target' → label'.length ≤ label.length := by
  constructor
  · intro h
    obtain ⟨label', rfl, hcuts, hlongest⟩ := exists_cuts_of_longestLabel? h
    exact ⟨hcuts, hlongest⟩
  · rintro ⟨hcuts, hlongest⟩
    cases hfound : longestLabel? [] t with
    | none => exact absurd hcuts (longestLabel?_eq_none_iff.1 hfound _ _)
    | some found =>
      obtain ⟨found, target'⟩ := found
      obtain ⟨_, rfl, hcuts', hlongest'⟩ := exists_cuts_of_longestLabel? hfound
      have hlength : label.length = found.length :=
        Nat.le_antisymm (hlongest' _ _ hcuts) (hlongest _ _ hcuts')
      obtain ⟨rfl, htarget⟩ :=
        List.append_inj (hcuts.text_eq.symm.trans hcuts'.text_eq) hlength
      rw [(List.cons.inj htarget).2]

/-- **A label in front of a link target is found unless the title of that ends like another.** -/
theorem longestLabel?_append_text_iff {body : Text} (hbody : body ≠ []) (t : LinkTarget) :
    longestLabel? [] (body ++ ']' :: t.text) = some (body, t.text) ↔ ¬ t.TitleEndsLabel := by
  have hcuts : Cuts [] (body ++ ']' :: t.text) body t.text :=
    ⟨rfl, by simpa using hbody, isSome_linkPath?_iff.2 ⟨t, rfl⟩⟩
  rw [longestLabel?_eq_some_iff, and_iff_right hcuts, LinkTarget.titleEndsLabel_iff]
  constructor
  · rintro hlongest ⟨before, target, htext, htarget⟩
    have hlater : Cuts [] (body ++ ']' :: t.text) (body ++ ']' :: before) target :=
      ⟨by rw [htext]; simp, by simp, htarget⟩
    have hle := hlongest _ _ hlater
    rw [List.length_append, List.length_cons] at hle
    omega
  · rintro hnone label target ⟨htext, -, htarget⟩
    by_contra hlonger
    rcases List.append_eq_append_iff.1 htext with ⟨late, hlabel, hlate⟩ | ⟨late, hbody', -⟩
    · cases late with
      | nil => simp [hlabel] at hlonger
      | cons c before => exact hnone ⟨before, target, (List.cons.inj hlate).2, htarget⟩
    · exact hlonger (by simp [hbody'])

/-! ## Documents of the wiki -/

/-- A link path without its query and its fragment. -/
def withoutQuery (path : Text) : Text := path.takeWhile fun c => !(c == '?' || c == '#')

/-- **A link path names a document of the wiki**: it has no scheme and is no fragment, and in front
of its query it ends in `.md` and stays below the root. -/
structure IsDocument (path : Text) : Prop where
  no_scheme : Path.hasScheme path = false
  no_fragment : path.head? ≠ some '#'
  extension : lit ".md" <:+ withoutQuery path
  below_root : ¬ Path.EscapesRoot (withoutQuery path)

theorem beginsWith_iff {c : Char} {t : Text} : Text.beginsWith [c] t = true ↔ t.head? = some c := by
  simp only [Text.beginsWith, Option.isSome_iff_exists, Text.strip?_eq_some_iff]
  rw [List.head?_eq_some_iff]
  rfl

theorem endsWith_iff {s t : Text} : Text.endsWith s t = true ↔ s <:+ t := by
  simp only [Text.endsWith, Option.isSome_iff_exists, Text.stripEnd?_eq_some_iff]
  exact exists_congr fun _ => eq_comm

/-- The document that a link path names. -/
theorem documentPath?_of_isDocument {path : Text} (h : IsDocument path) :
    documentPath? path = Path.normalize? (withoutQuery path) := by
  have hfragment : Text.beginsWith ['#'] path = false :=
    Bool.eq_false_iff.2 (mt beginsWith_iff.1 h.no_fragment)
  rw [documentPath?, h.no_scheme, hfragment]
  exact if_pos (endsWith_iff.2 h.extension)

theorem isSome_documentPath?_iff {path : Text} : (documentPath? path).isSome ↔ IsDocument path := by
  constructor
  · intro h
    rw [documentPath?] at h
    split at h
    · exact absurd h (by simp)
    next hplain =>
    rw [Bool.or_eq_true, not_or, Bool.not_eq_true] at hplain
    dsimp only at h
    split at h
    · next hextension =>
      refine ⟨hplain.1, mt beginsWith_iff.2 hplain.2, endsWith_iff.1 hextension, ?_⟩
      rw [← Path.normalize?_eq_none_iff]
      exact Option.isSome_iff_ne_none.1 h
    · exact absurd h (by simp)
  · intro h
    rw [documentPath?_of_isDocument h, Option.isSome_iff_ne_none, ne_eq,
      Path.normalize?_eq_none_iff]
    exact h.below_root

/-! ## Spellings -/

/-- **A directive line by its grammar.** -/
structure Spelling where
  /-- The number of heading marks. -/
  level : Nat
  /-- What stands between them and the bracket. -/
  blanks : Text
  body : Option Text
  target : LinkTarget
  level_eq : level = 0 ∨ 2 ≤ level ∧ level ≤ 6
  allBlank : Text.allBlank blanks = true
  body_ne : body ≠ some []
  isDocument : IsDocument target.path

/-- The heading mark of a level as it is written: with a space behind it. -/
def headingMark (level : Nat) : Text := if level = 0 then [] else List.replicate level '#' ++ [' ']

/-- The rest of the label as it is written, with its closing bracket. -/
def labelEnd : Option Text → Text
  | none => [']']
  | some body => '#' :: (body ++ [']'])

namespace Spelling

/-- The line as it is written. -/
def line (s : Spelling) : Text :=
  headingMark s.level ++ (s.blanks ++ (lit "[+" ++ (labelEnd s.body ++ s.target.text)))

/-- **A spelling is ambiguous**: its title ends like a link target, and there is a parameter body
that could reach up to it. -/
def Ambiguous (s : Spelling) : Prop := s.body ≠ none ∧ s.target.TitleEndsLabel

/-- The directive that a spelling of a document says. -/
def directive (s : Spelling) (document : Text) : Directive :=
  ⟨s.line, document, s.level, (s.body.map Bindings.read).getD []⟩

end Spelling

theorem headingMark?_append {level : Nat} (h : level = 0 ∨ 2 ≤ level ∧ level ≤ 6) {rest : Text}
    (hrest : rest.head? ≠ some '#') :
    headingMark? (headingMark level ++ rest) = some (level, rest) := by
  obtain rfl | hlevel := h
  · have hnone := (Text.takeWhile_replicate_append 0 hrest).1
    rw [List.replicate_zero, List.nil_append] at hnone
    rw [headingMark, if_pos rfl, List.nil_append, headingMark?, hnone]
  · have hspace : (' ' :: rest).head? ≠ some '#' := by simp
    obtain ⟨hmarks, hbehind⟩ := Text.takeWhile_replicate_append level hspace
    obtain ⟨n, rfl⟩ : ∃ n, level = n + 1 := ⟨level - 1, by omega⟩
    rw [headingMark, if_neg (Nat.succ_ne_zero n), List.append_assoc, List.singleton_append,
      headingMark?, hmarks, hbehind, List.replicate_succ]
    simp [hlevel.1, hlevel.2]

theorem exists_headingMark {line rest : Text} {level : Nat}
    (h : headingMark? line = some (level, rest)) :
    (level = 0 ∨ 2 ≤ level ∧ level ≤ 6) ∧ line = headingMark level ++ rest := by
  rcases headingMark?_eq_some h with ⟨rfl, rfl, -⟩ | ⟨hmin, hmax, rfl⟩
  · exact ⟨.inl rfl, rfl⟩
  · rw [headingMark, if_neg (by omega), List.append_assoc]
    exact ⟨.inr ⟨hmin, hmax⟩, rfl⟩

/-- **A label is split off unless the title behind it ends like a link target.** -/
theorem splitLabel?_labelEnd_iff {body : Option Text} (hbody : body ≠ some []) (t : LinkTarget) :
    splitLabel? (labelEnd body ++ t.text) = some (body, t.text) ↔
      ¬ (body ≠ none ∧ t.TitleEndsLabel) := by
  cases body with
  | none => simp [labelEnd, splitLabel?]
  | some body =>
    have hne : body ≠ [] := fun hnil => hbody (congrArg some hnil)
    have hlongest := longestLabel?_append_text_iff hne t
    rw [labelEnd, List.cons_append, List.append_assoc, List.singleton_append, splitLabel?]
    simp [Option.map_eq_some_iff, ← hlongest]

/-- **An unambiguous spelling is read as what it says.** -/
theorem read?_line_of_not_ambiguous {s : Spelling} (h : ¬ s.Ambiguous) :
    ∃ document, documentPath? s.target.path = some document ∧
      read? s.line = some (s.directive document) := by
  obtain ⟨document, hdocument⟩ :=
    Option.isSome_iff_exists.1 (isSome_documentPath?_iff.2 s.isDocument)
  have hbracket : Text.trimStart (lit "[+" ++ (labelEnd s.body ++ s.target.text)) =
      lit "[+" ++ (labelEnd s.body ++ s.target.text) :=
    Text.trimStart_cons_of_not_blank (by decide) _
  have hhead : (s.blanks ++ (lit "[+" ++ (labelEnd s.body ++ s.target.text))).head? ≠
      some '#' := by
    cases hblanks : s.blanks with
    | nil => simp [lit]
    | cons b blanks =>
      have hb : Text.isBlank b = true :=
        List.all_eq_true.1 s.allBlank b (hblanks ▸ List.mem_cons_self)
      rintro heq
      obtain rfl : b = '#' := by simpa using heq
      exact absurd hb (by decide)
  have hmark := headingMark?_append s.level_eq hhead
  have hlabel := (splitLabel?_labelEnd_iff s.body_ne s.target).2 h
  refine ⟨document, hdocument, ?_⟩
  simp only [read?, Spelling.line, hmark, Option.bind_eq_bind, Option.bind_some,
    Text.trimStart_append_of_allBlank s.allBlank, hbracket, Text.strip?_eq_some_iff.2 rfl, hlabel,
    linkPath?_text, hdocument]
  rfl

/-- **What is read has an unambiguous spelling that says it.** -/
theorem exists_spelling_of_read? {line : Text} {d : Directive} (h : read? line = some d) :
    ∃ s : Spelling, s.line = line ∧ ¬ s.Ambiguous := by
  obtain ⟨rest, after, body, target, path, hmark, hafter, hlabel, hpath, hdocument, -⟩ :=
    read?_eq_some h
  obtain ⟨hlevel, rfl⟩ := exists_headingMark hmark
  obtain ⟨t, rfl, rfl⟩ := linkPath?_eq_some_iff.1 hpath
  have hrest : rest.takeWhile Text.isBlank ++ (lit "[+" ++ after) = rest :=
    hafter ▸ List.takeWhile_append_dropWhile
  have hlabelEnd : after = labelEnd body ++ t.text ∧ body ≠ some [] := by
    rw [splitLabel?.eq_def] at hlabel
    split at hlabel
    · obtain ⟨rfl, rfl⟩ := Prod.mk.inj (Option.some.inj hlabel)
      exact ⟨rfl, by simp⟩
    · obtain ⟨⟨label, found⟩, hfound, heq⟩ := Option.map_eq_some_iff.1 hlabel
      obtain ⟨rfl, rfl⟩ := Prod.mk.inj heq
      obtain ⟨hcuts, -⟩ := longestLabel?_eq_some_iff.1 hfound
      refine ⟨by simp [labelEnd, hcuts.text_eq], fun hnil => hcuts.nonempty ?_⟩
      simpa using hnil
    · exact absurd hlabel (by simp)
  have hline : headingMark d.level ++ (rest.takeWhile Text.isBlank ++
      (lit "[+" ++ (labelEnd body ++ t.text))) = headingMark d.level ++ rest := by
    rw [← hlabelEnd.1, hrest]
  refine ⟨⟨d.level, rest.takeWhile Text.isBlank, body, t, hlevel, ?_, hlabelEnd.2, ?_⟩, hline, ?_⟩
  · exact List.all_eq_true.2 fun c hc => List.mem_takeWhile_imp hc
  · exact isSome_documentPath?_iff.1 (Option.isSome_iff_exists.2 ⟨_, hdocument⟩)
  · rw [hlabelEnd.1] at hlabel
    exact (splitLabel?_labelEnd_iff hlabelEnd.2 t).1 hlabel

/-- **A line is a directive exactly if it has an unambiguous spelling.**  So the words of a title
matter only behind a parameter body, and only if they end in `](` and path characters. -/
theorem isSome_read?_iff {line : Text} :
    (read? line).isSome ↔ ∃ s : Spelling, s.line = line ∧ ¬ s.Ambiguous := by
  constructor
  · intro h
    obtain ⟨d, hd⟩ := Option.isSome_iff_exists.1 h
    exact exists_spelling_of_read? hd
  · rintro ⟨s, rfl, hs⟩
    obtain ⟨document, -, hread⟩ := read?_line_of_not_ambiguous hs
    rw [hread]
    rfl

/-- A line that the grammar allows and that is no directive: the body is taken to reach into the
title, where no document is named.  With other words in its title the line is one, and so is the
line without a body. -/
theorem exists_spelling_of_unread :
    (∃ s : Spelling, s.line = lit "[+#a](/x.md \"t](/b.png\")") ∧
      read? (lit "[+#a](/x.md \"t](/b.png\")") = none ∧
      (read? (lit "[+#a](/x.md \"t\")")).isSome ∧
      (read? (lit "[+](/x.md \"t](/b.png\")")).isSome := by
  have hdocument : IsDocument (lit "/x.md") := isSome_documentPath?_iff.1 (by decide +kernel)
  let title : Title := ⟨lit " ", lit "t](/b.png", by decide, by decide, by decide⟩
  let target : LinkTarget :=
    ⟨lit "/x.md", some title, by decide, List.all_eq_true.1 (by decide)⟩
  refine ⟨⟨⟨0, [], some (lit "a"), target, .inl rfl, rfl, nofun, hdocument⟩, rfl⟩, ?_, ?_, ?_⟩ <;>
    decide +kernel

end WikiPress.Snippet.Directive
