import WikiPress.Proofs.Document.Header
import WikiPress.Proofs.Search.Agreement
import WikiPress.Proofs.Text.Separators

/-!
# Proofs/Search/Tags — which tags a search for tags finds

    tag      Lang / Rust     ──lower──▸                         lang / rust
    query    Lang / Rust     ──lower, trim each segment──▸      lang/rust

A query for tags trims the segments of its parameter and leaves out the empty ones
(`Query.tagPath`); the tag of a document is compared as it is, in lower case.  Both readings are put
in lower case segment by segment, so case does not come into it (`tagPath_toLower`), and a tag finds
its documents exactly if its first segments have nothing to trim and whatever follows them is blank
(`IsTidy`).
-/

namespace WikiPress

open Text

/-! ## The tags of documents -/

namespace Flags

variable {t value line : Text} {name : FlagName}

/-- The characters of a value stand in its line. -/
theorem mem_of_line? (h : line? line = some (name, value)) {c : Char} (hc : c ∈ value) :
    c ∈ line := by
  obtain ⟨rest, rfl, rfl⟩ := exists_of_line? h
  have hend : ∀ u : Text, dropEndWhile isSpaceOrTab u ⊆ u := fun u d hd =>
    List.mem_reverse.1 ((List.dropWhile_suffix isSpaceOrTab).subset (List.mem_reverse.1 hd))
  have hreturn : ∀ u : Text, (stripEnd? ['\r'] u).getD u ⊆ u := fun u => by
    cases hu : stripEnd? ['\r'] u with
    | none => exact List.Subset.refl u
    | some before =>
      rw [stripEnd?_eq_some_iff.1 hu]
      exact List.subset_append_left _ _
  have hrest : c ∈ rest := (List.dropWhile_suffix isSpaceOrTab).subset (hreturn _ (hend _ hc))
  exact List.mem_cons_of_mem _ (List.mem_append_right _ hrest)

/-- What is kept of the pieces of a list is one of them, trimmed, and not empty. -/
theorem mem_foldl_addPiece {pieces kept : List Text} (h : t ∈ pieces.foldl addPiece kept) :
    t ∈ kept ∨ ∃ piece ∈ pieces, t = trim piece ∧ t ≠ [] := by
  induction pieces generalizing kept with
  | nil => exact .inl h
  | cons piece pieces ih =>
    rcases ih h with hmem | ⟨later, hlater, ht⟩
    · rw [addPiece] at hmem
      split at hmem
      · exact .inl hmem
      · next hnew =>
        rcases List.mem_append.1 hmem with hmem | hmem
        · exact .inl hmem
        · obtain rfl := List.mem_singleton.1 hmem
          simp only [Bool.or_eq_true, List.isEmpty_iff, not_or] at hnew
          exact .inr ⟨piece, List.mem_cons_self, rfl, hnew.1⟩
    · exact .inr ⟨later, List.mem_cons_of_mem _ hlater, ht⟩

theorem isItem_of_mem_listItems (hvalue : '\n' ∉ value) (h : t ∈ listItems value) : IsItem t := by
  obtain ⟨piece, hpiece, rfl, hne⟩ := (mem_foldl_addPiece h).resolve_left List.not_mem_nil
  have hsub : ∀ {c : Char}, c ∈ trim piece → c ∈ piece := fun hc =>
    (trimStart_suffix piece).subset ((trimEnd_prefix_self _).subset hc)
  exact ⟨hne, trim_trim piece, fun hcomma => not_mem_of_mem_splitOn hpiece (hsub hcomma),
    fun hnewline => hvalue (mem_of_mem_splitOn hpiece (hsub hnewline))⟩

/-- One line keeps the tags items. -/
theorem isItem_of_mem_addLine {flags : Flags} (hflags : ∀ t ∈ flags.tags, IsItem t)
    (hline : '\n' ∉ line) : ∀ t ∈ (flags.addLine line).tags, IsItem t := by
  rw [addLine]
  split
  · exact hflags
  · exact hflags
  · next value heq =>
    exact fun t => isItem_of_mem_listItems fun hmem => hline (mem_of_line? heq hmem)
  · exact hflags
  · split <;> exact hflags

/-- The tags of a description read from a text are items. -/
theorem isItem_of_mem_tags_read (path text : Text) : ∀ t ∈ (read path text).tags, IsItem t := by
  have hlines : ∀ line ∈ splitOn '\n' text, '\n' ∉ line := fun line => not_mem_of_mem_splitOn
  have hfold : ∀ (lines : List Text) (flags : Flags), (∀ line ∈ lines, '\n' ∉ line) →
      (∀ t ∈ flags.tags, IsItem t) → ∀ t ∈ (lines.foldl addLine flags).tags, IsItem t := by
    intro lines
    induction lines with
    | nil => exact fun flags _ hflags => hflags
    | cons line lines ih =>
      intro flags hlines hflags
      obtain ⟨hline, hlines⟩ := List.forall_mem_cons.1 hlines
      exact ih _ hlines (isItem_of_mem_addLine hflags hline)
  rw [read]
  split
  · exact hfold _ {} hlines (by simp)
  · exact hfold _ {} hlines (by simp)

/-- A text that is nothing but one flag line for a tag. -/
theorem tags_read_of_isItem (ht : IsItem t) (path : Text) :
    (read path ('@' :: (FlagName.tags.key ++ t))).tags = [t] := by
  have hlist : Lists [t] t := .last t
  have hitems : ∀ i ∈ [t], IsItem i := by simpa using ht
  have hnone : List.all [] isSpaceOrTab = true := rfl
  have hline := line?_written (hlist.isValue hitems) .tags hnone hnone (.inl rfl)
  rw [List.nil_append, List.append_nil, List.append_nil] at hline
  have hnewline : '\n' ∉ '@' :: (FlagName.tags.key ++ t) := by
    have hkey : '\n' ∉ FlagName.tags.key := by decide
    simp [hkey, ht.one_line]
  have hfold : (splitOn '\n' ('@' :: (FlagName.tags.key ++ t))).foldl addLine {} =
      { tags := [t] } := by
    rw [splitOn_of_not_mem hnewline, List.foldl_cons, List.foldl_nil, addLine, hline]
    dsimp only
    rw [hlist.listItems_eq hitems (List.pairwise_singleton _ t)]
  rw [read, hfold]
  rfl

/-- **The tags of documents** are the items of lists: not empty, without blanks around them, and
without commas and newlines. -/
theorem exists_tag_iff :
    (∃ file : Fetched, file.isError = false ∧ t ∈ (Document.ofFetched file).flags.tags) ↔ IsItem t := by
  constructor
  · rintro ⟨file, hfile, ht⟩
    rw [Document.ofFetched, hfile, if_neg Bool.false_ne_true] at ht
    exact isItem_of_mem_tags_read _ _ t ht
  · intro ht
    refine ⟨⟨lit "/a.md", '@' :: (FlagName.tags.key ++ t), false⟩, rfl, ?_⟩
    rw [Document.ofFetched, if_neg Bool.false_ne_true, tags_read_of_isItem ht]
    exact List.mem_singleton_self t

end Flags

/-! ## Tags above a tag -/

/-- A tag, or a tag above it as it is written: what stands in front of one of its slashes. -/
def AtOrAbove (u t : Text) : Prop := u = t ∨ ∃ v, t = u ++ '/' :: v

section Above

variable {u t : Text}

/-- **A tag lies at or above another** if its segments are the first ones. -/
theorem atOrAbove_iff : AtOrAbove u t ↔ splitOn '/' u <+: splitOn '/' t := by
  constructor
  · rintro (rfl | ⟨v, rfl⟩)
    · exact List.prefix_rfl
    · rw [splitOn_append_cons]
      exact List.prefix_append _ _
  · rintro ⟨rest, hrest⟩
    have ht : t = join ['/'] (splitOn '/' u ++ rest) := by rw [hrest, join_splitOn]
    by_cases hnil : rest = []
    · rw [hnil, List.append_nil, join_splitOn] at ht
      exact .inl ht.symm
    · rw [join_append _ (splitOn_ne_nil _ _) hnil, join_splitOn, List.append_assoc] at ht
      exact .inr ⟨_, ht⟩

theorem AtOrAbove.toLower (h : AtOrAbove u t) : AtOrAbove (Text.toLower u) (Text.toLower t) := by
  have hslash : separates '/' = true := by decide
  rw [atOrAbove_iff, splitOn_toLower hslash, splitOn_toLower hslash]
  exact (atOrAbove_iff.1 h).map _

end Above

/-! ## Queries for tags -/

namespace Text

variable {c : Char} {blanks : Text}

/-- Blanks in front of a text do not matter to its trimmed pieces… -/
theorem map_trim_splitOn_front (hblanks : allBlank blanks = true) (hc : c ∉ blanks) (t : Text) :
    (splitOn c (blanks ++ t)).map trim = (splitOn c t).map trim := by
  obtain ⟨piece, rest, ht⟩ := List.exists_cons_of_ne_nil (splitOn_ne_nil c t)
  have hpiece : trim (blanks ++ (piece ++ [])) = trim piece := trim_around hblanks rfl piece
  rw [List.append_nil] at hpiece
  rw [splitOn_append_of_not_mem hc ht, ht, List.map_cons, List.map_cons, hpiece]

/-- …nor do blanks behind it. -/
theorem map_trim_splitOn_back (hblanks : allBlank blanks = true) (hc : c ∉ blanks) (t : Text) :
    (splitOn c (t ++ blanks)).map trim = (splitOn c t).map trim := by
  obtain ⟨init, last, ht⟩ : ∃ init last, splitOn c t = init ++ [last] :=
    ⟨_, _, (List.dropLast_append_getLast (splitOn_ne_nil c t)).symm⟩
  have hlast : trim ([] ++ (last ++ blanks)) = trim last := trim_around rfl hblanks last
  rw [List.nil_append] at hlast
  rw [splitOn_append_of_not_mem_right hc ht, ht, List.map_append, List.map_append, List.map_singleton,
    List.map_singleton, hlast]

end Text

namespace Query

variable {t u wanted tag parameter : Text}

/-- **Case does not matter** to the segments of a tag. -/
theorem tagPath_toLower (t : Text) : tagPath (toLower t) = toLower (tagPath t) := by
  have hslash : separates '/' = true := by decide
  have htrim : (splitOn '/' (toLower t)).map trim = ((splitOn '/' t).map trim).map toLower := by
    rw [splitOn_toLower hslash, List.map_map, List.map_map]
    exact List.map_congr_left fun s _ => trim_toLower s
  have hempty : ((fun s : Text => !s.isEmpty) ∘ toLower) = fun s => !s.isEmpty := by
    funext s
    rw [Function.comp_apply, Bool.eq_iff_iff]
    simp [toLower_eq_nil_iff]
  rw [tagPath, htrim, List.filter_map, hempty, tagPath, toLower_join hslash]

/-- Blanks around a parameter do not matter. -/
theorem tagPath_trim (t : Text) : tagPath (trim t) = tagPath t := by
  have hslash : ∀ {blanks : Text}, allBlank blanks = true → '/' ∉ blanks := fun hblanks hmem =>
    absurd (List.all_eq_true.1 hblanks _ hmem) (by decide)
  obtain ⟨front, back, ht, hfront, hback⟩ := exists_eq_append_trim t
  have hmap : (splitOn '/' t).map trim = (splitOn '/' (trim t)).map trim := by
    conv_lhs => rw [ht]
    rw [map_trim_splitOn_front hfront (hslash hfront), map_trim_splitOn_back hback (hslash hback)]
  rw [tagPath, tagPath, hmap]

/-- A tag is found if what is wanted lies at or above its lower case. -/
theorem tagMatches_iff : tagMatches wanted tag = true ↔ AtOrAbove wanted (toLower tag) := by
  have hbelow : beginsWith (wanted ++ ['/']) (toLower tag) = true ↔
      ∃ rest, toLower tag = wanted ++ '/' :: rest := by
    rw [beginsWith, Option.isSome_iff_exists]
    refine exists_congr fun rest => strip?_eq_some_iff.trans ?_
    rw [List.append_assoc, List.singleton_append]
  rw [tagMatches, Bool.or_eq_true, beq_iff_eq, hbelow, AtOrAbove, eq_comm (a := toLower tag)]

theorem flagQuery?_tags (h : '\n' ∉ trimStart parameter) :
    flagQuery? [] (lit "tags:" ++ parameter) = some (.flag (lit "tags") (trimStart parameter)) := by
  have hlit : lit "tags:" ++ parameter = 't' :: 'a' :: 'g' :: 's' :: ':' :: parameter := rfl
  have hname : ['t', 'a', 'g', 's'] = lit "tags" := rfl
  rw [hlit]
  simp [flagQuery?, isBlank, h, hname]

/-- A query for tags is trimmed behind its parameter… -/
theorem trim_tagsQuery (front : Text) {back : Text} (hback : allBlank back = true) (hne : t ≠ [])
    (ht : trim t = t) :
    trim (lit "@tags: " ++ (front ++ (t ++ back))) = lit "@tags:" ++ ' ' :: (front ++ t) := by
  obtain ⟨hstart, hend⟩ := trim_eq_self_iff.1 ht
  have hinput : lit "@tags: " ++ (front ++ (t ++ back)) =
      [] ++ ((lit "@tags:" ++ ' ' :: (front ++ t)) ++ back) := by
    rw [List.nil_append, List.append_assoc, List.cons_append, List.append_assoc]
    rfl
  have hbehind : trim ([] ++ ((lit "@tags:" ++ ' ' :: (front ++ t)) ++ back)) =
      trim (lit "@tags:" ++ ' ' :: (front ++ t)) := trim_around rfl hback _
  have hbare : trim ((lit "@tags:" ++ ' ' :: front) ++ t) = (lit "@tags:" ++ ' ' :: front) ++ t := by
    have hblank := allBlank_eq_false_of_trimStart hne hstart
    rw [trim_eq_self_iff, trimEnd_append_of_not_allBlank hblank, hend]
    exact ⟨trimStart_cons_of_not_blank (by decide) _, rfl⟩
  rw [hinput, hbehind, ← List.cons_append, ← List.append_assoc, hbare]

/-- …and behind its colon, if that is blank. -/
theorem trim_tagsQuery_of_allBlank (hu : allBlank u = true) :
    trim (lit "@tags: " ++ u) = lit "@tags:" := by
  have hblank : allBlank (' ' :: u) = true := hu
  have hbehind : trim ([] ++ (lit "@tags:" ++ ' ' :: u)) = trim (lit "@tags:") :=
    trim_around rfl hblank _
  exact hbehind.trans (by decide)

/-- **The query for a tag** is a query for tags, and its parameter is the tag in lower case. -/
theorem read?_tags (hu : '\n' ∉ u) :
    read? (lit "@tags: " ++ u) = some (.flag (lit "tags") (toLower (trim u))) := by
  by_cases hnil : trim u = []
  · rw [read?, trim_tagsQuery_of_allBlank (trim_eq_nil_iff.1 hnil), hnil]
    decide +kernel
  · obtain ⟨front, back, hsplit, hfront, hback⟩ := exists_eq_append_trim u
    have htrim : trim (lit "@tags: " ++ u) = lit "@tags:" ++ ' ' :: (front ++ trim u) := by
      conv_lhs => rw [hsplit]
      exact trim_tagsQuery front hback hnil (trim_trim u)
    have hlower : toLower (lit "@tags:" ++ ' ' :: (front ++ trim u)) =
        '@' :: (lit "tags:" ++ ' ' :: (front ++ toLower (trim u))) := by
      have hkey : toLower (lit "@tags:") = '@' :: lit "tags:" := by decide +kernel
      rw [toLower_append_separator (by decide), hkey, toLower_append_of_allBlank hfront]
      rfl
    have hparameter : trimStart (' ' :: (front ++ toLower (trim u))) = toLower (trim u) := by
      have hblank : allBlank (' ' :: front) = true := hfront
      have hbare : trim (toLower (trim u)) = toLower (trim u) := by rw [trim_toLower, trim_trim]
      rw [← List.cons_append, trimStart_append_of_allBlank hblank, (trim_eq_self_iff.1 hbare).1]
    have hnewline : '\n' ∉ toLower (trim u) := fun hmem =>
      hu ((trimStart_suffix u).subset
        ((trimEnd_prefix_self _).subset (mem_of_mem_lowerAfter (by decide) hmem)))
    have hquery := flagQuery?_tags (by rwa [hparameter])
    rw [hparameter] at hquery
    rw [read?, htrim, hlower]
    show some ((flagQuery? [] _).getD _) = _
    rw [hquery, Option.getD_some]

/-- A document by itself answers the query for a tag if one of its tags matches. -/
theorem answer?_tags_eq_some_iff {d : Document} {excerpt : Option Text} :
    answer? d (.flag (lit "tags") parameter) = some excerpt ↔
      excerpt = none ∧ parameter ≠ [] ∧
        ∃ tag ∈ d.flags.tags, tagMatches (tagPath parameter) tag = true := by
  have hcond : (lit "tags" == lit "tags" && !parameter.isEmpty &&
      d.flags.tags.any (tagMatches (tagPath parameter))) = true ↔
        parameter ≠ [] ∧ ∃ tag ∈ d.flags.tags, tagMatches (tagPath parameter) tag = true := by
    rw [beq_self_eq_true, Bool.true_and, Bool.and_eq_true, List.any_eq_true]
    simp
  rw [answer?, Option.ite_none_right_eq_some, hcond, Option.some.injEq, and_comm, eq_comm]

end Query

/-! ## Which tags find their documents -/

/-- A document among others is found by the query for a tag. -/
def FoundBy (documents : List Document) (d : Document) (tag : Text) : Prop :=
  ∃ name parameter, Query.read? (lit "@tags: " ++ tag) = some (.flag name parameter) ∧
    Hit.ofDocument d none ∈ search documents (.flag name parameter)

/-- **A tidy tag**: the first of its segments are neither empty nor have blanks around them, and
whatever follows them is blank. -/
def IsTidy (t : Text) : Prop :=
  ∃ front back, splitOn '/' t = front ++ back ∧ front ≠ [] ∧
    (∀ s ∈ front, s ≠ [] ∧ trim s = s) ∧ ∀ s ∈ back, allBlank s = true

section Found

variable {d : Document} {documents : List Document} {t u : Text}

/-- What is found by itself is found among others. -/
theorem FoundBy.mono (h : FoundBy [d] d u) (hd : d ∈ documents) : FoundBy documents d u := by
  obtain ⟨name, parameter, hread, hhit⟩ := h
  exact ⟨name, parameter, hread,
    (search_perm documents _).mem_iff.2 (List.mem_flatMap.2 ⟨d, hd, hhit⟩)⟩

theorem foundBy_singleton_iff (hd : d.isError = false) (hu : '\n' ∉ u) :
    FoundBy [d] d u ↔
      trim u ≠ [] ∧ ∃ tag ∈ d.flags.tags, Query.tagMatches (toLower (Query.tagPath u)) tag = true := by
  have hpath : Query.tagPath (toLower (trim u)) = toLower (Query.tagPath u) := by
    rw [Query.tagPath_toLower, Query.tagPath_trim]
  rw [← hpath, ← toLower_eq_nil_iff.ne]
  constructor
  · rintro ⟨name, parameter, hread, hhit⟩
    rw [Query.read?_tags hu, Option.some.injEq, Query.flag.injEq] at hread
    obtain ⟨rfl, rfl⟩ := hread
    rw [search_singleton _ hd, Option.mem_toList, Option.map_eq_some_iff] at hhit
    obtain ⟨excerpt, hanswer, -⟩ := hhit
    exact (Query.answer?_tags_eq_some_iff.1 hanswer).2
  · intro h
    refine ⟨lit "tags", toLower (trim u), Query.read?_tags hu, ?_⟩
    rw [search_singleton _ hd, Query.answer?_tags_eq_some_iff.2 ⟨rfl, h⟩]
    exact List.mem_singleton_self _

/-! ### Tidy tags -/

/-- Segments with nothing to trim all stay… -/
theorem filter_map_trim_of_bare {front : List Text} (hfront : ∀ s ∈ front, s ≠ [] ∧ trim s = s) :
    (front.map trim).filter (!·.isEmpty) = front := by
  have hmap : front.map trim = front := by
    rw [List.map_congr_left (g := id) fun s hs => (hfront s hs).2, List.map_id]
  rw [hmap, List.filter_eq_self]
  exact fun s hs => by simpa using (hfront s hs).1

/-- …and blank ones all go. -/
theorem filter_map_trim_eq_nil_iff {back : List Text} :
    (back.map trim).filter (!·.isEmpty) = [] ↔ ∀ s ∈ back, allBlank s = true := by
  rw [List.filter_eq_nil_iff, List.forall_mem_map]
  exact forall₂_congr fun s _ => by simp [trim_eq_nil_iff]

/-- The first segment of a tag stands in front of the tag and of everything above it. -/
theorem trim_ne_nil_of_mem {s : Text} (hs : s ∈ splitOn '/' u) (hbare : s ≠ [] ∧ trim s = s) :
    trim u ≠ [] := by
  intro hnil
  have hblank : allBlank s = true := List.all_eq_true.2 fun c hc =>
    List.all_eq_true.1 (trim_eq_nil_iff.1 hnil) c (mem_of_mem_splitOn hs hc)
  exact hbare.1 (hbare.2.symm.trans (trim_eq_nil_iff.2 hblank))

/-- The segments of a path are those of the tag that are not blank. -/
theorem splitOn_tagPath (h : ¬ ∀ s ∈ splitOn '/' t, allBlank s = true) :
    splitOn '/' (Query.tagPath t) = ((splitOn '/' t).map trim).filter (!·.isEmpty) := by
  refine splitOn_join_of_not_mem (mt filter_map_trim_eq_nil_iff.1 h) fun s hs hslash => ?_
  obtain ⟨segment, hsegment, rfl⟩ := List.mem_map.1 (List.mem_filter.1 hs).1
  exact not_mem_of_mem_splitOn hsegment
    ((trimStart_suffix segment).subset ((trimEnd_prefix_self _).subset hslash))

/-- **A tag at or above a tidy one** is no blank, and its path lies at or above the tidy one, too. -/
theorem IsTidy.atOrAbove_tagPath (h : IsTidy t) (hu : AtOrAbove u t) :
    trim u ≠ [] ∧ AtOrAbove (Query.tagPath u) t := by
  obtain ⟨front, back, hsplit, hne, hbare, hblank⟩ := h
  obtain ⟨rest, hrest⟩ := atOrAbove_iff.1 hu
  obtain ⟨s, segments, hsegments⟩ := List.exists_cons_of_ne_nil (splitOn_ne_nil '/' u)
  have hfirst : s ∈ front := by
    obtain ⟨f, front, rfl⟩ := List.exists_cons_of_ne_nil hne
    rw [hsegments, hsplit, List.cons_append, List.cons_append, List.cons.injEq] at hrest
    exact hrest.1 ▸ List.mem_cons_self
  have hs : s ∈ splitOn '/' u := hsegments ▸ List.mem_cons_self
  have hnotblank : ¬ ∀ s ∈ splitOn '/' u, allBlank s = true := fun hall =>
    (hbare s hfirst).1 ((hbare s hfirst).2.symm.trans (trim_eq_nil_iff.2 (hall s hs)))
  refine ⟨trim_ne_nil_of_mem hs (hbare s hfirst), ?_⟩
  rw [atOrAbove_iff, splitOn_tagPath hnotblank]
  rw [hsplit] at hrest ⊢
  rcases List.append_eq_append_iff.1 hrest with ⟨more, hfront, -⟩ | ⟨more, hall, hback⟩
  · -- the tag above ends among the bare segments, and is its own path
    have hown : ∀ s ∈ splitOn '/' u, s ≠ [] ∧ trim s = s := fun s hs =>
      hbare s (hfront ▸ List.mem_append_left more hs)
    rw [filter_map_trim_of_bare hown, hfront, List.append_assoc]
    exact List.prefix_append _ _
  · -- it has all of them, and blank ones that are left out
    have hmore : ∀ s ∈ more, allBlank s = true := fun s hs =>
      hblank s (hback ▸ List.mem_append_left _ hs)
    rw [hall, List.map_append, List.filter_append, filter_map_trim_of_bare hbare,
      filter_map_trim_eq_nil_iff.2 hmore, List.append_nil]
    exact List.prefix_append _ _

/-- **A tag that lies at or below its own path**, up to case, and has no blank above it, is tidy. -/
theorem isTidy_of_atOrAbove (hown : AtOrAbove (toLower (Query.tagPath t)) (toLower t))
    (habove : ∀ u, AtOrAbove u t → trim u ≠ []) : IsTidy t := by
  have hslash : separates '/' = true := by decide
  -- the first segment lies above the tag
  have hnotblank : ¬ ∀ s ∈ splitOn '/' t, allBlank s = true := fun hall => by
    obtain ⟨s, rest, hsegments⟩ := List.exists_cons_of_ne_nil (splitOn_ne_nil '/' t)
    have hs : s ∈ splitOn '/' t := hsegments ▸ List.mem_cons_self
    have hfirst : AtOrAbove s t := by
      rw [atOrAbove_iff, splitOn_of_not_mem (not_mem_of_mem_splitOn hs), hsegments]
      exact List.prefix_append [s] rest
    exact habove s hfirst (trim_eq_nil_iff.2 (hall s hs))
  rw [atOrAbove_iff, splitOn_toLower hslash, splitOn_toLower hslash, splitOn_tagPath hnotblank] at hown
  set kept := ((splitOn '/' t).map trim).filter (!·.isEmpty) with hkept
  obtain ⟨rest, hrest⟩ := hown
  obtain ⟨front, back, hsplit, hfront, -⟩ := List.map_eq_append_iff.1 hrest.symm
  have hbare : ∀ s ∈ front, s ≠ [] ∧ trim s = s := by
    intro s hs
    obtain ⟨k, hk, hsame⟩ := List.mem_map.1 (hfront ▸ List.mem_map_of_mem (f := toLower) hs)
    obtain ⟨htrimmed, hne⟩ := List.mem_filter.1 (hkept ▸ hk)
    obtain ⟨segment, -, rfl⟩ := List.mem_map.1 htrimmed
    refine ⟨fun hnil => ?_, trim_eq_self_of_toLower ?_⟩
    · rw [hnil, show toLower [] = [] from rfl, toLower_eq_nil_iff] at hsame
      simp [hsame] at hne
    · rw [← hsame, trim_toLower, trim_trim]
  -- as many segments are kept as stand in front, and these are kept
  have hblank : (back.map trim).filter (!·.isEmpty) = [] := by
    have hlength := congrArg List.length hfront
    rw [List.length_map, List.length_map, hkept, hsplit, List.map_append, List.filter_append,
      filter_map_trim_of_bare hbare, List.length_append] at hlength
    exact List.eq_nil_of_length_eq_zero (by omega)
  refine ⟨front, back, hsplit, fun hnil => ?_, hbare, filter_map_trim_eq_nil_iff.1 hblank⟩
  rw [hsplit, hnil, List.nil_append] at hnotblank
  exact hnotblank (filter_map_trim_eq_nil_iff.1 hblank)

/-- **Which tags find their documents.**  Among all documents that have it, a tag finds each one by the
query for it and by those for what stands in front of its slashes, exactly if it is tidy. -/
theorem tag_finds_iff (ht : Flags.IsItem t) :
    (∀ (file : Fetched) (documents : List Document), file.isError = false →
      t ∈ (Document.ofFetched file).flags.tags → Document.ofFetched file ∈ documents →
        ∀ u, AtOrAbove u t → FoundBy documents (Document.ofFetched file) u) ↔ IsTidy t := by
  have hline : ∀ {u}, AtOrAbove u t → '\n' ∉ u := by
    rintro u (rfl | ⟨v, rfl⟩) hmem
    · exact ht.one_line hmem
    · exact ht.one_line (List.mem_append_left _ hmem)
  constructor
  · intro h
    -- the document that has this tag and says nothing else
    have htags : (Document.ofFetched
        ⟨lit "/a.md", '@' :: (FlagName.tags.key ++ t), false⟩).flags.tags = [t] :=
      Flags.tags_read_of_isItem ht _
    have hfound : ∀ u, AtOrAbove u t →
        trim u ≠ [] ∧ AtOrAbove (toLower (Query.tagPath u)) (toLower t) := by
      intro u hu
      have hown := h ⟨lit "/a.md", '@' :: (FlagName.tags.key ++ t), false⟩ [_] rfl
        (htags ▸ List.mem_singleton_self t) (List.mem_singleton_self _) u hu
      obtain ⟨hne, tag, htag, hmatch⟩ := (foundBy_singleton_iff rfl (hline hu)).1 hown
      rw [htags, List.mem_singleton] at htag
      exact ⟨hne, Query.tagMatches_iff.1 (htag ▸ hmatch)⟩
    exact isTidy_of_atOrAbove (hfound t (.inl rfl)).2 fun u hu => (hfound u hu).1
  · intro h file documents hfile htag hd u hu
    obtain ⟨hne, hpath⟩ := h.atOrAbove_tagPath hu
    refine FoundBy.mono ((foundBy_singleton_iff ?_ (hline hu)).2
      ⟨hne, t, htag, Query.tagMatches_iff.2 hpath.toLower⟩) hd
    exact hfile

/-- A tag in capitals, by what stands in front of its slash. -/
theorem tag_found_by_segment :
    FoundBy [Document.ofFetched ⟨lit "/a.md", lit "@tags: x, Lang/Rust", false⟩]
      (Document.ofFetched ⟨lit "/a.md", lit "@tags: x, Lang/Rust", false⟩) (lit "Lang") := by
  have htidy : IsTidy (lit "Lang/Rust") :=
    ⟨[lit "Lang", lit "Rust"], [], by decide, by decide, by decide, by decide⟩
  have habove : AtOrAbove (lit "Lang") (lit "Lang/Rust") := .inr ⟨lit "Rust", rfl⟩
  exact (tag_finds_iff (by decide)).2 htidy _ _ rfl (by decide +kernel)
    (List.mem_singleton_self _) _ habove

/-- **Blanks around a slash** keep a tag from being found by its own query. -/
theorem spaced_tag_not_found :
    (Document.ofFetched ⟨lit "/a.md", lit "@tags: a / b", false⟩).isError = false ∧
    (Document.ofFetched ⟨lit "/a.md", lit "@tags: a / b", false⟩).flags.tags = [lit "a / b"] ∧
    Query.read? (lit "@tags: " ++ lit "a / b") = some (.flag (lit "tags") (lit "a / b")) ∧
    search [Document.ofFetched ⟨lit "/a.md", lit "@tags: a / b", false⟩]
      (.flag (lit "tags") (lit "a / b")) = [] := by
  refine ⟨rfl, by decide +kernel, by decide +kernel, ?_⟩
  rw [search_singleton _ rfl]
  decide +kernel

end Found

end WikiPress
