import WikiPress.Proofs.Collapsible.RoundTrip
import WikiPress.Proofs.Html.Listing
import WikiPress.Proofs.Markdown.Listing
import WikiPress.Proofs.Page.Anchors
import WikiPress.Proofs.Page.Isolation

/-!
# Proofs/Page/Listing — listings as they are published

    ## lang - ( 1 )                <h2>lang - ( 1 )</h2>
                         ──▸       <ul>
    - [](/a.md "#")                <li><a href="/a.md" title="#"></a></li>
                                   </ul>

Where the headings of listings are shown as texts and the paths are destinations, the source of the
page is that of the listings (`convert_textOf`), which is read as it stands.  So the finished
page has one link for each path, in order (`anchors_textOf`).
-/

namespace WikiPress

/-! ## The source of a page -/

namespace Markdown

variable {hardBreaks tight : Bool} {s : Sheet}

theorem Sheet.put_put (t u : Text) : (s.put t).put u = s.put (t ++ u) := by
  unfold Sheet.put
  rw [List.reverse_append, List.append_assoc]

/-- Behind a line end no further one is written. -/
theorem Sheet.newLine_put {t : Text} (h : t.getLast? = some '\n') : (s.put t).newLine = s.put t := by
  obtain ⟨t, rfl⟩ := List.getLast?_eq_some_iff.1 h
  unfold Sheet.put
  rw [List.reverse_append]
  rfl

theorem writeAll_cons (b : Block (List Inline)) (rest : List (Block (List Inline))) :
    writeAll ⟨hardBreaks, tight, none⟩ (b :: rest) s =
      writeAll ⟨hardBreaks, tight, none⟩ rest (b.write ⟨hardBreaks, tight, none⟩ s) := by
  rw [writeAll]
  split <;> rfl

theorem writeAll_append (first second : List (Block (List Inline))) :
    writeAll ⟨hardBreaks, tight, none⟩ (first ++ second) s =
      writeAll ⟨hardBreaks, tight, none⟩ second (writeAll ⟨hardBreaks, tight, none⟩ first s) := by
  induction first generalizing s with
  | nil => rfl
  | cons b first ih => rw [List.cons_append, writeAll_cons, writeAll_cons, ih]

/-- The item of a link. -/
theorem write_item (hs : s.newLine = s) (p : Text) :
    (Listing.item (linkTo p)).write ⟨hardBreaks, true, none⟩ s = s.put (Html.Listing.itemSource p) := by
  have hwrite : (Listing.item (linkTo p)).write ⟨hardBreaks, true, none⟩ s =
      ((s.newLine.put (lit "<li>")).put (markup hardBreaks (linkTo p))).put (lit "</li>\n") := rfl
  have hmarkup : markup hardBreaks (linkTo p) =
      lit "<a href=\"" ++ (urlAttribute p ++ lit "\" title=\"#\"></a>") := by
    have hlink : markup hardBreaks (linkTo p) = lit "<a href=\"" ++ urlAttribute p ++ ['"']
        ++ titleAttribute ['#'] ++ ['>'] ++ [] ++ lit "</a>" ++ [] := rfl
    have hend : ['"'] ++ (titleAttribute ['#'] ++ (['>'] ++ ([] ++ (lit "</a>" ++ [])))) =
        lit "\" title=\"#\"></a>" := by decide
    simp only [hlink, List.append_assoc, hend]
  rw [hwrite, hs, Sheet.put_put, Sheet.put_put, hmarkup]
  refine congrArg s.put ?_
  simp only [Html.Listing.itemSource, List.append_assoc, List.cons_append]
  rfl

/-- The items of links. -/
theorem writeAll_items (hs : s.newLine = s) (paths : List Text) :
    writeAll ⟨hardBreaks, true, none⟩ (paths.map fun p => Listing.item (linkTo p)) s =
      s.put (paths.flatMap Html.Listing.itemSource) := by
  induction paths generalizing s with
  | nil => rfl
  | cons p paths ih =>
    have hended : (s.put (Html.Listing.itemSource p)).newLine = s.put (Html.Listing.itemSource p) :=
      Sheet.newLine_put (Html.Listing.getLast?_itemSource p)
    rw [List.map_cons, writeAll_cons, write_item hs, ih hended, Sheet.put_put]
    rfl

/-- The list of links. -/
theorem write_list (hs : s.newLine = s) (paths : List Text) :
    (Block.list (.bullet '-') true (paths.map fun p => Listing.item (linkTo p))).write
        ⟨hardBreaks, false, none⟩ s =
      s.put (lit "<ul>" ++
        '\n' :: (paths.flatMap Html.Listing.itemSource ++ (lit "</ul>" ++ ['\n']))) := by
  have hwrite : (Block.list (.bullet '-') true (paths.map fun p => Listing.item (linkTo p))).write
      ⟨hardBreaks, false, none⟩ s =
        (writeAll ⟨hardBreaks, true, none⟩ (paths.map fun p => Listing.item (linkTo p))
          (s.newLine.put (lit "<ul>\n"))).put (lit "</ul>\n") := rfl
  rw [hwrite, hs, writeAll_items (Sheet.newLine_put rfl), Sheet.put_put, Sheet.put_put]
  rfl

/-- A heading that is shown as a text. -/
theorem write_heading (hs : s.newLine = s) (level : Nat) (t : Text) :
    (Block.heading level [.text t]).write ⟨hardBreaks, false, none⟩ s =
      s.put ('<' :: ('h' :: Text.ofNat level) ++ '>' :: (Text.escapeAttribute t
        ++ (lit "</" ++ ('h' :: Text.ofNat level) ++ ['>', '\n']))) := by
  have hwrite : (Block.heading level [.text t]).write ⟨hardBreaks, false, none⟩ s =
      s.newLine.put ('<' :: ('h' :: Text.ofNat level) ++ '>' :: (Text.escapeAttribute t ++ [])
        ++ lit "</" ++ ('h' :: Text.ofNat level) ++ lit ">\n") := rfl
  rw [hwrite, hs]
  refine congrArg s.put ?_
  simp only [List.append_nil, List.append_assoc, List.cons_append]
  rfl

/-- A listing as it is shown, with the text of its heading. -/
def Listing.toHtml (title : Listing → Text) (l : Listing) : Html.Listing := ⟨l.level, title l, l.paths⟩

/-- **A listing is written** at the beginning of a line. -/
theorem writeAll_listing (hs : s.newLine = s) (title : Listing → Text) (l : Listing) :
    writeAll ⟨hardBreaks, false, none⟩ (l.blocks (fun l => [.text (title l)]) linkTo) s =
      s.put (l.toHtml title).source := by
  unfold Listing.blocks Html.Listing.source Listing.toHtml Html.Listing.name
  dsimp only
  rw [writeAll_cons, write_heading hs]
  rcases l.paths with _ | ⟨p, paths⟩
  · rfl
  · dsimp only
    rw [writeAll_cons, write_list, Sheet.put_put]
    · refine congrArg s.put ?_
      simp only [List.append_assoc, List.cons_append, List.nil_append]
    · refine Sheet.newLine_put (List.getLast?_eq_some_iff.2
        ⟨'<' :: ('h' :: Text.ofNat l.level) ++ '>' :: (Text.escapeAttribute (title l)
          ++ (lit "</" ++ ('h' :: Text.ofNat l.level) ++ ['>'])), ?_⟩)
      simp only [List.append_assoc, List.cons_append, List.nil_append]

/-- **Listings are written one after another.** -/
theorem blockMarkup_listings (hardBreaks : Bool) (title : Listing → Text) (ls : List Listing) :
    blockMarkup hardBreaks (ls.flatMap (Listing.blocks (fun l => [.text (title l)]) linkTo)) =
      (ls.map (Listing.toHtml title)).flatMap Html.Listing.source := by
  have hall : ∀ {s : Sheet}, s.newLine = s →
      writeAll ⟨hardBreaks, false, none⟩
          (ls.flatMap (Listing.blocks (fun l => [.text (title l)]) linkTo)) s =
        s.put ((ls.map (Listing.toHtml title)).flatMap Html.Listing.source) := by
    induction ls with
    | nil => exact fun _ => rfl
    | cons l ls ih =>
      intro s hs
      rw [List.flatMap_cons, writeAll_append, writeAll_listing hs,
        ih (Sheet.newLine_put (Html.Listing.getLast?_source _)), Sheet.put_put]
      rfl
  unfold blockMarkup
  dsimp only
  rw [hall rfl, if_neg (by exact Nat.lt_irrefl 0)]
  exact (congrArg List.reverse (List.append_nil _)).trans (List.reverse_reverse _)

end Markdown

namespace Page

open Markdown

/-! ## The lines of listings -/

/-- **A listing whose lines say what it holds**: its title is a line that does not end in a blank, and
its paths are destinations. -/
structure IsPlain (l : Listing) : Prop where
  low : 1 ≤ l.level
  high : l.level ≤ 6
  title : ∀ c ∈ l.title, c ≠ '\n' ∧ c ≠ '\r' ∧ c.toNat ≠ 0
  ends : ∃ front c, l.title = front ++ [c] ∧ Text.isBlank c = false
  paths : ∀ p ∈ l.paths, p.head? = some '/' ∧ IsDestination p

/-- The text of listings. -/
def textOf (ls : List Listing) : Text := Text.join ['\n'] (Listing.allLines ls)

variable {ls : List Listing} {line : Text}

theorem mem_lines {l : Listing} (h : line ∈ l.lines) : line = [] ∨
    line = Listing.headLine l.level l.title ∨ ∃ p ∈ l.paths, line = Listing.linkLine p := by
  unfold Listing.lines at h
  rw [List.mem_cons] at h
  rcases h with hhead | h
  · exact .inr (.inl hhead)
  · rcases hpaths : l.paths with _ | ⟨p, paths⟩
    · rw [hpaths] at h
      cases h
    · rw [hpaths] at h
      dsimp only at h
      rw [List.mem_cons, List.mem_map] at h
      rcases h with hblank | ⟨q, hq, hlink⟩
      · exact .inl hblank
      · exact .inr (.inr ⟨q, hq, hlink.symm⟩)

/-- Every line of listings is blank, a heading or a link. -/
theorem mem_allLines (h : line ∈ Listing.allLines ls) : line = [] ∨
    ∃ l ∈ ls, line = Listing.headLine l.level l.title ∨ ∃ p ∈ l.paths, line = Listing.linkLine p := by
  have hown : ∀ l ∈ ls, line ∈ l.lines → line = [] ∨
      ∃ l ∈ ls, line = Listing.headLine l.level l.title ∨ ∃ p ∈ l.paths, line = Listing.linkLine p :=
    fun l hl hline => (mem_lines hline).imp_right fun h => ⟨l, hl, h⟩
  fun_induction Listing.allLines ls with
  | case1 => cases h
  | case2 l => exact hown l List.mem_cons_self h
  | case3 l rest hrest ih =>
    rw [List.mem_append, List.mem_cons] at h
    rcases h with hfirst | hblank | hbehind
    · exact hown l List.mem_cons_self hfirst
    · exact .inl hblank
    · have hlater := ih hbehind fun l' hl' hline =>
        (mem_lines hline).imp_right fun h => ⟨l', hl', h⟩
      refine hlater.imp_right ?_
      rintro ⟨l', hl', h⟩
      exact ⟨l', List.mem_cons_of_mem _ hl', h⟩

/-- The characters of the lines end no line. -/
theorem mem_line (hls : ∀ l ∈ ls, IsPlain l) (h : line ∈ Listing.allLines ls) :
    ∀ c ∈ line, c ≠ '\n' ∧ c ≠ '\r' ∧ c.toNat ≠ 0 := by
  intro c hc
  obtain rfl | ⟨l, hl, rfl | ⟨p, hp, rfl⟩⟩ := mem_allLines h
  · cases hc
  · rw [Listing.headLine, List.mem_append, List.mem_replicate, List.mem_cons] at hc
    rcases hc with ⟨-, rfl⟩ | rfl | htitle
    · decide
    · decide
    · exact (hls l hl).title c htitle
  · have hfixed : ∀ c ∈ lit "- [](" ++ lit " \"#\")", c ≠ '\n' ∧ c ≠ '\r' ∧ c.toNat ≠ 0 :=
      Text.forall_mem_of_all (by decide)
    have hline : Listing.linkLine p = lit "- [](" ++ (p ++ lit " \"#\")") := rfl
    rw [hline, List.mem_append, List.mem_append] at hc
    rcases hc with hbefore | hpath | hbehind
    · exact hfixed c (List.mem_append_left _ hbefore)
    · have hvisible := ((hls l hl).paths p hp).2.visible c hpath
      refine ⟨?_, ?_, ?_⟩
      · rintro rfl
        exact absurd hvisible (by decide)
      · rintro rfl
        exact absurd hvisible (by decide)
      · exact Nat.ne_of_gt (Nat.lt_of_le_of_lt (Nat.zero_le _) hvisible.1)
    · exact hfixed c (List.mem_append_right _ hbehind)

/-- The last line does not end in a blank. -/
theorem exists_last (hls : ∀ l ∈ ls, IsPlain l) (hne : ls ≠ []) : ∃ front last c,
    Listing.allLines ls = front ++ [last ++ [c]] ∧ Text.isBlank c = false := by
  have hown : ∀ l : Listing, IsPlain l → ∃ front last c,
      l.lines = front ++ [last ++ [c]] ∧ Text.isBlank c = false := by
    intro l hl
    obtain ⟨title, c, htitle, hc⟩ := hl.ends
    unfold Listing.lines
    obtain hpaths | ⟨paths, p, hpaths⟩ := List.eq_nil_or_concat' l.paths
    · rw [hpaths, htitle]
      exact ⟨[], List.replicate l.level '#' ++ ' ' :: title, c, by simp [Listing.headLine], hc⟩
    · have hlink : Listing.linkLine p = (lit "- [](" ++ (p ++ lit " \"#\"")) ++ [')'] := by
        rw [List.append_assoc, List.append_assoc]
        rfl
      refine ⟨Listing.headLine l.level l.title :: [] :: paths.map Listing.linkLine,
        lit "- [](" ++ (p ++ lit " \"#\""), ')', ?_, by decide⟩
      rw [hpaths, ← hlink]
      cases paths with
      | nil => rfl
      | cons q paths => exact congrArg (fun links => _ :: [] :: links) List.map_append
  fun_induction Listing.allLines ls with
  | case1 => exact absurd rfl hne
  | case2 l => exact hown l (hls l List.mem_cons_self)
  | case3 l rest hrest ih =>
    obtain ⟨front, last, c, hlines, hc⟩ :=
      ih (fun l' hl' => hls l' (List.mem_cons_of_mem _ hl')) fun hnil => hrest hnil
    refine ⟨l.lines ++ [] :: front, last, c, ?_, hc⟩
    rw [hlines, List.append_assoc]
    rfl

/-- **The lines of the text of listings.** -/
theorem completeLines_textOf (hls : ∀ l ∈ ls, IsPlain l) (hne : ls ≠ []) : ∃ lines last,
    Listing.allLines ls = lines ++ [last] ∧ last ≠ [] ∧
      Text.completeLines (textOf ls) = lines.map (· ++ ['\n']) ++ [last] := by
  obtain ⟨lines, last, c, hlines, -⟩ := exists_last hls hne
  have hnewline : ∀ line ∈ Listing.allLines ls, '\n' ∉ line :=
    fun line hline hmem => (mem_line hls hline _ hmem).1 rfl
  rw [hlines] at hnewline
  refine ⟨lines, last ++ [c], hlines, by simp, ?_⟩
  rw [textOf, hlines]
  exact Text.completeLines_join (fun line hline => hnewline line (List.mem_append_left _ hline))
    (hnewline _ (List.mem_append_right _ List.mem_cons_self)) (by simp)

theorem head?_textOf {l : Listing} (hl : IsPlain l) (ls : List Listing) :
    (textOf (l :: ls)).head? = some '#' := by
  obtain ⟨level, hlevel⟩ : ∃ n, l.level = n + 1 := ⟨l.level - 1, by have := hl.low; omega⟩
  have hhead : ∀ rest,
      (Text.join ['\n'] (Listing.headLine l.level l.title :: rest)).head? = some '#' := by
    intro rest
    rw [hlevel, Listing.headLine, List.replicate_succ]
    cases rest <;> rfl
  unfold textOf
  rcases ls with _ | ⟨l', ls⟩ <;> exact hhead _

theorem isKept_textOf (hls : ∀ l ∈ ls, IsPlain l) : IsKept (textOf ls) := by
  intro c hc
  rcases Text.mem_join hc with hsep | ⟨line, hline, hc⟩
  · rw [List.mem_singleton.1 hsep]
    decide
  · exact (mem_line hls hline c hc).2

/-- The renderer reads these lines… -/
theorem sourceLines_textOf (hls : ∀ l ∈ ls, IsPlain l) :
    sourceLines (textOf ls) = Listing.allLines ls := by
  rcases ls with _ | ⟨l, ls⟩
  · rfl
  · obtain ⟨lines, last, hlines, -, hcomplete⟩ := completeLines_textOf hls (List.cons_ne_nil _ _)
    obtain ⟨t, ht⟩ := List.head?_eq_some_iff.1 (head?_textOf (hls l List.mem_cons_self) ls)
    have hkept : normalizeChars (textOf (l :: ls)) = textOf (l :: ls) := by
      have happend := normalizeChars_append (isKept_textOf hls) []
      rwa [normalizeChars, List.append_nil] at happend
    have hbare : ∀ line ∈ Listing.allLines (l :: ls), ∀ rest : Text,
        (∀ c ∈ rest.head?, (c != '\n') = false) → (line ++ rest).takeWhile (· != '\n') = line := by
      intro line hline rest hrest
      refine (Text.takeWhile_append_of_all ?_ hrest).1
      rw [List.all_eq_true]
      exact fun c hc => bne_iff_ne.2 (mem_line hls hline c hc).1
    rw [ht, sourceLines_cons (by decide), ← ht, hkept, bareLines, hcomplete, List.map_append,
      List.map_map, hlines]
    rw [hlines] at hbare
    have hfront : lines.map ((fun line => line.takeWhile (· != '\n')) ∘ (· ++ ['\n'])) = lines :=
      (List.map_congr_left fun line hline =>
        hbare line (List.mem_append_left _ hline) ['\n'] (by simp)).trans (List.map_id _)
    have hlast := hbare last (List.mem_append_right _ List.mem_cons_self) [] (by simp)
    rw [List.append_nil] at hlast
    rw [hfront, List.map_singleton, hlast]

/-- …and so does the scanner of collapsible blocks. -/
theorem contents_textOf (hls : ∀ l ∈ ls, IsPlain l) :
    Collapsible.contents (textOf ls) = Listing.allLines ls := by
  rcases ls with _ | ⟨l, ls⟩
  · rfl
  · obtain ⟨lines, last, hlines, hne, hcomplete⟩ := completeLines_textOf hls (List.cons_ne_nil _ _)
    have hplain : ∀ line ∈ lines ++ [last], '\n' ∉ line ∧ line.getLast? ≠ some '\r' := by
      intro line hline
      have hchars := mem_line hls (hlines ▸ hline)
      exact ⟨fun hmem => (hchars _ hmem).1 rfl,
        fun hlast => (hchars _ (List.mem_of_getLast? hlast)).2.1 rfl⟩
    have hfront : lines.map (Collapsible.withoutLineEnd ∘ (· ++ ['\n'])) = lines := by
      refine (List.map_congr_left fun line hline => ?_).trans (List.map_id _)
      obtain ⟨hnewline, hreturn⟩ := hplain line (List.mem_append_left _ hline)
      exact Collapsible.withoutLineEnd_newline hnewline hreturn
    have hlast : Collapsible.withoutLineEnd last = last := by
      obtain ⟨hnewline, hreturn⟩ := hplain last (List.mem_append_right _ List.mem_cons_self)
      obtain rfl | ⟨front, d, rfl⟩ := List.eq_nil_or_concat' last
      · rfl
      · refine Text.dropEndWhile_append_singleton ?_ front
        rw [Bool.or_eq_false_iff, beq_eq_false_iff_ne, beq_eq_false_iff_ne]
        exact ⟨fun heq => hnewline (by simp [heq]), fun heq => hreturn (by simp [heq])⟩
    rw [Collapsible.contents, hcomplete, List.map_append, List.map_map, hfront, List.map_singleton,
      hlast, hlines]

/-- The text of listings is trimmed. -/
theorem trim_textOf (hls : ∀ l ∈ ls, IsPlain l) : Text.trim (textOf ls) = textOf ls := by
  rcases ls with _ | ⟨l, ls⟩
  · rfl
  · obtain ⟨t, ht⟩ := List.head?_eq_some_iff.1 (head?_textOf (hls l List.mem_cons_self) ls)
    obtain ⟨front, last, c, hlines, hc⟩ := exists_last hls (List.cons_ne_nil _ _)
    obtain ⟨s, hs⟩ : ∃ s, textOf (l :: ls) = s ++ [c] := by
      rw [textOf, hlines]
      by_cases hfront : front = []
      · subst hfront
        exact ⟨last, rfl⟩
      · exact ⟨_, by rw [Text.join_append_singleton _ _ hfront, ← List.append_assoc]⟩
    have hstart : Text.trimStart (textOf (l :: ls)) = textOf (l :: ls) := by
      rw [ht]
      exact Text.trimStart_cons_of_not_blank (by decide) t
    rw [Text.trim, hstart, hs]
    exact Text.dropEndWhile_append_singleton hc s

/-- There is no marker line among them. -/
theorem markerLine?_eq_none (hls : ∀ l ∈ ls, IsPlain l) (h : line ∈ Listing.allLines ls) :
    Collapsible.markerLine? line = none := by
  obtain rfl | ⟨l, hl, rfl | ⟨p, -, rfl⟩⟩ := mem_allLines h
  · rfl
  · obtain ⟨hlow, hhigh⟩ := And.intro (hls l hl).low (hls l hl).high
    generalize l.level = level at hlow hhigh
    interval_cases level <;> rfl
  · rfl

theorem assemble_textOf (o : Options) (hls : ∀ l ∈ ls, IsPlain l) :
    o.assemble (Collapsible.passages (textOf ls)) [] = (textOf ls, []) := by
  refine (assemble_of_plain o (fun line hline => ?_) []).1
  have hmem : line ∈ Collapsible.contents (textOf ls) := Fence.mem_of_mem_outside hline
  rw [contents_textOf hls] at hmem
  exact markerLine?_eq_none hls hmem

/-! ## Places -/

/-- Whether `<!` stands in an HTML source. -/
def declares : Text → Bool
  | '<' :: '!' :: _ => true
  | _ :: t => declares t
  | [] => false

theorem declares_append {s : Text} (h : '<' ∉ s) (t : Text) : declares (s ++ t) = declares t := by
  induction s with
  | nil => rfl
  | cons c s ih =>
    rw [List.mem_cons, not_or] at h
    rw [List.cons_append, declares.eq_2 _ _ fun _ heq => absurd heq.symm h.1, ih h.2]

theorem declares_tag {c : Char} (h : c ≠ '!') (t : Text) :
    declares ('<' :: c :: t) = declares (c :: t) :=
  declares.eq_2 _ _ fun _ _ heq => h (List.cons.inj heq).1

/-- A source without `<!` has no places. -/
theorem places_eq_nil {html : Text} (h : declares html = false) : places html = [] := by
  induction html with
  | nil => rfl
  | cons c t ih =>
    have hplace : place? (c :: t) = none := by
      rw [Option.eq_none_iff_forall_ne_some]
      rintro ⟨digits, rest⟩ hplace
      rw [(place?_eq_some_iff.1 hplace).1] at h
      cases h
    have ht : declares t = false := by
      rw [← h, declares.eq_2]
      rintro r rfl rfl
      cases h
    rw [places, reading_of_not_place? hplace]
    exact ih ht

theorem declares_itemSource (p : Text) (t : Text) :
    declares (Html.Listing.itemSource p ++ t) = declares t := by
  have hurl : '<' ∉ urlAttribute p := by
    intro hmem
    rcases mem_urlAttribute hmem with hurl | hamp
    · exact absurd hurl (by decide)
    · exact absurd hamp (by decide)
  have hitem : declares (Html.Listing.itemSource p ++ t) = declares (urlAttribute p ++
      ('"' :: (lit " title=\"#\">" ++ (lit "</a>" ++ (lit "</li>" ++ ['\n'])))) ++ t) := by
    rfl
  rw [hitem, List.append_assoc, declares_append hurl]
  rfl

theorem declares_items (paths : List Text) (t : Text) :
    declares (paths.flatMap Html.Listing.itemSource ++ t) = declares t := by
  induction paths with
  | nil => rfl
  | cons p paths ih => rw [List.flatMap_cons, List.append_assoc, declares_itemSource, ih]

/-- The source of a listing has no `<!`. -/
theorem declares_source {s : Html.Listing} (hs : s.IsWritable) (t : Text) :
    declares (s.source ++ t) = declares t := by
  have hname : '<' ∉ s.name := by
    obtain ⟨hlow, hhigh, -⟩ := hs
    unfold Html.Listing.name
    generalize s.level = level at hlow hhigh
    interval_cases level <;> decide
  have htitle : '<' ∉ Text.escapeAttribute s.title := by
    intro hmem
    rcases Html.Source.mem_escapeAttribute hmem with ⟨-, hbare⟩ | href
    · exact absurd hbare (by decide)
    · exact absurd href (by decide)
  have hopen : ∀ u, declares ('<' :: s.name ++ u) = declares u := fun u =>
    (declares_tag (by decide) (Text.ofNat s.level ++ u)).trans (declares_append hname u)
  have hclose : ∀ u, declares (lit "</" ++ (s.name ++ u)) = declares u := fun u =>
    (declares_tag (by decide) (s.name ++ u)).trans <|
      (declares_append (s := ['/']) (by decide) (s.name ++ u)).trans (declares_append hname u)
  have hlist : ∀ targets : List Text, declares (lit "<ul>" ++ '\n' ::
      (targets.flatMap Html.Listing.itemSource ++ (lit "</ul>" ++ ['\n'])) ++ t) = declares t := by
    intro targets
    simp only [List.append_assoc, List.cons_append, List.nil_append]
    exact declares_items targets (lit "</ul>" ++ '\n' :: t)
  obtain ⟨listed, hsource, hlisted⟩ : ∃ listed, s.source ++ t = '<' :: s.name ++ (['>'] ++
      (Text.escapeAttribute s.title ++ (lit "</" ++ (s.name ++ (lit ">\n" ++ (listed ++ t)))))) ∧
        declares (listed ++ t) = declares t := by
    rcases htargets : s.targets with _ | ⟨target, targets⟩
    · refine ⟨[], ?_, rfl⟩
      simp only [Html.Listing.source, htargets, List.append_assoc, List.cons_append]
      rfl
    · refine ⟨_, ?_, hlist (target :: targets)⟩
      simp only [Html.Listing.source, htargets, List.append_assoc, List.cons_append]
      rfl
  rw [hsource, hopen, declares_append (by decide), declares_append htitle, hclose,
    declares_append (by decide), hlisted]

theorem places_source {ss : List Html.Listing} (hss : ∀ s ∈ ss, s.IsWritable) :
    places (ss.flatMap Html.Listing.source) = [] := by
  refine places_eq_nil ?_
  induction ss with
  | nil => rfl
  | cons s ss ih =>
    obtain ⟨hs, hss⟩ := List.forall_mem_cons.1 hss
    rw [List.flatMap_cons, declares_source hs, ih hss]

/-! ## The finished page -/

/-- The heading of a listing as it is shown, if that is a text that HTML can hold. -/
def Options.title? (o : Options) (l : Listing) : Option Text :=
  match mapTexts o.reword (content o.dialect l.heading) with
  | [.text t] => if t.all fun c => c.toNat != 0 && c != '\r' then some t else none
  | _ => none

/-- The title of a listing as it is shown. -/
def Options.title (o : Options) (l : Listing) : Text := (o.title? l).getD []

/-- **Listings as they are shown.** -/
def Options.shown (o : Options) (ls : List Listing) : List Html.Listing :=
  ls.map (Listing.toHtml o.title)

theorem Options.title_spec {o : Options} {l : Listing} (h : (o.title? l).isSome = true) :
    mapTexts o.reword (content o.dialect l.heading) = [.text (o.title l)] ∧
      ∀ c ∈ o.title l, c.toNat ≠ 0 ∧ c ≠ '\r' := by
  unfold Options.title
  obtain ⟨t, ht⟩ := Option.isSome_iff_exists.1 h
  rw [ht, Option.getD_some]
  unfold Options.title? at ht
  split at ht
  · next u hread =>
    split at ht
    · next hall =>
      cases ht
      refine ⟨hread, fun c hc => ?_⟩
      have hchar := List.all_eq_true.1 hall c hc
      rwa [Bool.and_eq_true, bne_iff_ne, bne_iff_ne] at hchar
    · cases ht
  · cases ht

theorem highlightBlocks_eq_map (blocks : List (Block (List Inline))) :
    highlightBlocks blocks = blocks.map highlightBlock := by
  induction blocks with
  | nil => rfl
  | cons block blocks ih => exact congrArg _ ih

/-- Listings have no code. -/
theorem highlightBlocks_listings (heading : Listing → List Inline) (link : Text → List Inline)
    (ls : List Listing) :
    highlightBlocks (ls.flatMap (Listing.blocks heading link)) =
      ls.flatMap (Listing.blocks heading link) := by
  rw [highlightBlocks_eq_map]
  refine Listing.map_blocks ?_ (fun items => ?_) ?_ ls
  · exact fun _ => rfl
  · rw [← highlightBlocks_eq_map]
    rfl
  · exact fun _ => rfl

/-- **The source of a page of listings.** -/
theorem convert_textOf (o : Options) (hls : ∀ l ∈ ls, IsPlain l)
    (htitles : ∀ l ∈ ls, (o.title? l).isSome = true) :
    o.convert (textOf ls) = (o.shown ls).flatMap Html.Listing.source := by
  have hread : Markdown.blocks o.dialect (textOf ls) =
      ls.flatMap (Listing.blocks (fun l => content o.dialect l.heading) linkTo) :=
    blocks_of_allLines (sourceLines_textOf hls) (fun l hl => ⟨(hls l hl).low, (hls l hl).high⟩)
      fun l hl p hp => (hls l hl).paths p hp
  have hshown :
      ls.flatMap (Listing.blocks (fun l => mapTexts o.reword (content o.dialect l.heading)) linkTo) =
        ls.flatMap (Listing.blocks (fun l => [.text (o.title l)]) linkTo) := by
    refine List.flatMap_congr fun l hl => ?_
    unfold Listing.blocks
    dsimp only
    rw [(Options.title_spec (htitles l hl)).1]
  have hblocks : o.blocks (textOf ls) =
      ls.flatMap (Listing.blocks (fun l => [.text (o.title l)]) linkTo) := by
    rw [Options.blocks, hread, mapContent_listings, highlightBlocks_listings]
    exact hshown
  rw [Options.convert, hblocks, blockMarkup_listings, Options.shown]

theorem isWritable_shown {o : Options} (hls : ∀ l ∈ ls, IsPlain l)
    (htitles : ∀ l ∈ ls, (o.title? l).isSome = true) : ∀ s ∈ o.shown ls, s.IsWritable := by
  intro s hs
  obtain ⟨l, hl, rfl⟩ := List.mem_map.1 hs
  exact ⟨(hls l hl).low, (hls l hl).high, (Options.title_spec (htitles l hl)).2⟩

/-- **The nodes of a page of listings.** -/
theorem nodes_textOf (o : Options) (hls : ∀ l ∈ ls, IsPlain l)
    (htitles : ∀ l ∈ ls, (o.title? l).isSome = true) :
    o.nodes (textOf ls) =
      (decorateHeadings (o.complete ((o.shown ls).flatMap Html.Listing.nodes)) []).1 := by
  have hwritable := isWritable_shown hls htitles
  have hblocks : o.renderBlocks (textOf ls) [] = ((o.shown ls).flatMap Html.Listing.source, []) := by
    unfold Options.renderBlocks
    rw [assemble_textOf o hls]
    dsimp only
    rw [convert_textOf o hls htitles, fillPlaces_of_places (places_source hwritable)]
  rw [Options.nodes, trim_textOf hls, hblocks, Html.fragment_source hwritable]

/-! ## The links of the page -/

/-- The attributes of a link as it is written. -/
def linkAttributes (p : Text) : List Html.Attribute :=
  [⟨lit "href", percentEncoded p⟩, ⟨lit "title", ['#']⟩]

theorem anchors_items (paths : List Text) :
    anchors (paths.flatMap Html.Listing.itemNodes) = paths.map linkAttributes ∧
      anySection (paths.flatMap Html.Listing.itemNodes) = false := by
  induction paths with
  | nil => exact ⟨rfl, rfl⟩
  | cons p paths ih =>
    rw [List.flatMap_cons, anchors_append, anySection_append, ih.1, ih.2]
    exact ⟨rfl, rfl⟩

theorem anchors_heading {level : Nat} (hlow : 1 ≤ level) (hhigh : level ≤ 6) (t : Text)
    (more : List Html.Node) :
    let heading := Html.Node.element .html ('h' :: Text.ofNat level) [] (Html.Forest.joinText [] t)
    anchors (heading :: .text ['\n'] :: more) = anchors more ∧
      anySection (heading :: .text ['\n'] :: more) = anySection more := by
  interval_cases level <;> cases t <;> exact ⟨rfl, rfl⟩

/-- **The links of listings.** -/
theorem anchors_nodes {ss : List Html.Listing} (hss : ∀ s ∈ ss, s.IsWritable) :
    anchors (ss.flatMap Html.Listing.nodes) = ss.flatMap (fun s => s.targets.map linkAttributes) ∧
      anySection (ss.flatMap Html.Listing.nodes) = false := by
  have hlist : ∀ paths : List Text,
      anchors [.element .html (lit "ul") [] (.text ['\n'] :: paths.flatMap Html.Listing.itemNodes),
        .text ['\n']] = paths.map linkAttributes ∧
      anySection [.element .html (lit "ul") [] (.text ['\n'] :: paths.flatMap Html.Listing.itemNodes),
        .text ['\n']] = false := by
    intro paths
    obtain ⟨hanchors, hsection⟩ := anchors_items paths
    rw [anchors, nodeAnchors_element (by decide), anchors, hanchors, anySection, hasSection, anySection,
      hsection]
    exact ⟨List.append_nil _, rfl⟩
  induction ss with
  | nil => exact ⟨rfl, rfl⟩
  | cons s ss ih =>
    obtain ⟨⟨hlow, hhigh, -⟩, hss⟩ := List.forall_mem_cons.1 hss
    obtain ⟨hanchors, hsection⟩ := ih hss
    rw [List.flatMap_cons, List.flatMap_cons, anchors_append, anySection_append, hanchors, hsection,
      Html.Listing.nodes, Html.Listing.name]
    rcases s.targets with _ | ⟨p, paths⟩
    · obtain ⟨hlinks, hnone⟩ := anchors_heading hlow hhigh s.title []
      rw [hlinks, hnone]
      exact ⟨rfl, rfl⟩
    · dsimp only
      obtain ⟨hlinks, hnone⟩ := anchors_heading hlow hhigh s.title
        [.element .html (lit "ul") [] (.text ['\n'] :: (p :: paths).flatMap Html.Listing.itemNodes),
          .text ['\n']]
      rw [hlinks, hnone, (hlist _).1, (hlist _).2]
      exact ⟨rfl, rfl⟩

/-- **A page of listings has one link for each path**, in order. -/
theorem anchors_textOf (o : Options) (hls : ∀ l ∈ ls, IsPlain l)
    (htitles : ∀ l ∈ ls, (o.title? l).isSome = true) : anchors (o.nodes (textOf ls)) =
      ls.flatMap fun l => l.paths.map fun p => linked o.deployment (linkAttributes p) := by
  obtain ⟨hanchors, hsection⟩ := anchors_nodes (isWritable_shown hls htitles)
  rw [nodes_textOf o hls htitles, anchors_complete o [] hsection, hanchors, Options.shown,
    List.flatMap_map, List.map_flatMap]
  exact List.flatMap_congr fun l _ => List.map_map

theorem endsWith_percentEncoded {p : Text} (hmd : Text.endsWith (lit ".md") p = true) :
    Text.endsWith (lit ".md") (percentEncoded p) = true := by
  obtain ⟨rest, hrest⟩ := Option.isSome_iff_exists.1 hmd
  have hencoded : percentEncoded p = percentEncoded rest ++ lit ".md" := by
    rw [Text.stripEnd?_eq_some_iff.1 hrest, percentEncoded, List.flatMap_append]
    rfl
  exact Option.isSome_iff_exists.2 ⟨_, Text.stripEnd?_eq_some_iff.2 hencoded⟩

/-- **The path of a document is linked by its hash route.** -/
theorem linked_linkAttributes (site : Deployment) {p : Text} (hp : p.head? = some '/')
    (hmd : Text.endsWith (lit ".md") p = true) :
    linked site (linkAttributes p) = [⟨lit "href", '#' :: Path.shorten (percentEncoded p)⟩] := by
  have hend := endsWith_percentEncoded hmd
  obtain ⟨q, rfl⟩ := List.head?_eq_some_iff.1 hp
  have hslash : percentEncoded ('/' :: q) = '/' :: percentEncoded q := rfl
  rw [hslash] at hend
  have hroute : hashRoute? ('/' :: percentEncoded q) ['#'] =
      some ('#' :: Path.shorten ('/' :: percentEncoded q), []) := by
    have hread : hashRoute? ('/' :: percentEncoded q) ['#'] =
        if true && (Text.endsWith (lit ".md") ('/' :: percentEncoded q)
          || Text.endsWith ['/'] ('/' :: percentEncoded q)) then
          some ('#' :: Path.shorten ('/' :: percentEncoded q) ++ [] ++ [], [])
        else none := rfl
    rw [hread, hend, List.append_nil, List.append_nil]
    rfl
  have hlinked : linked site (linkAttributes ('/' :: q)) =
      internalLink site ('/' :: percentEncoded q) (linkAttributes ('/' :: q)) := rfl
  have hget : Html.Attribute.get? (lit "title") (linkAttributes ('/' :: q)) = some ['#'] := rfl
  rw [hlinked, internalLink, hget, Option.bind_some, hroute]
  rfl

end Page

end WikiPress
