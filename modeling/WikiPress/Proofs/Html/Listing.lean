import WikiPress.Proofs.Html.Source

/-!
# Proofs/Html/Listing — a page of headings with lists of links

    <h2>lang - ( 2 )</h2>
    <ul>
    <li><a href="/a.md" title="#"></a></li>
    <li><a href="/b.md" title="#"></a></li>
    </ul>

A listing is a sequence of headings, each with a list of links without content.  Its source is read
as it stands (`fragment_source`).
-/

namespace WikiPress.Html

open Markdown (urlAttribute percentEncoded)

/-- A heading and the targets of the links listed under it. -/
structure Listing where
  level : Nat
  title : Text
  targets : List Text

namespace Listing

/-- The name of the heading. -/
def name (s : Listing) : Text := 'h' :: Text.ofNat s.level

theorem role_name {s : Listing} (hlow : 1 ≤ s.level) (hhigh : s.level ≤ 6) :
    Role.ofName s.name = .heading := by
  unfold name
  generalize s.level = level at hlow hhigh
  interval_cases level <;> decide

/-- A heading that HTML has, with a title that it can hold. -/
structure IsWritable (s : Listing) : Prop where
  low : 1 ≤ s.level
  high : s.level ≤ 6
  title : ∀ c ∈ s.title, c.toNat ≠ 0 ∧ c ≠ '\r'

theorem isUrlChar_ne {c d : Char} (hc : Markdown.isUrlChar c = true)
    (hd : Markdown.isUrlChar d = false) : c ≠ d := by
  rintro rfl
  rw [hc] at hd
  cases hd

theorem quote_not_mem (target : Text) : '"' ∉ urlAttribute target := by
  intro hmem
  rcases Markdown.mem_urlAttribute hmem with hurl | hamp
  · exact absurd hurl (by decide)
  · exact absurd hamp (by decide)

/-- **The URL of a link** is the encoded target. -/
theorem replaceNull_urlAttribute (target : Text) :
    Source.replaceNull (resolveReferences true (urlAttribute target)) = percentEncoded target := by
  rw [Markdown.resolveReferences_urlAttribute, Source.replaceNull]
  refine (List.map_congr_left fun c hc => ?_).trans (List.map_id _)
  have hnull : c ≠ Char.ofNat 0 := by
    rcases Markdown.mem_percentEncoded hc with hurl | rfl | rfl
    · exact isUrlChar_ne hurl (by decide)
    · decide
    · decide
  have hzero : (c.toNat == 0) = false := by
    rw [beq_eq_false_iff_ne]
    intro hzero
    exact hnull (Char.toNat_inj.1 hzero)
  rw [hzero, if_neg Bool.false_ne_true]
  rfl

/-- The source of an item. -/
def itemSource (target : Text) : Text :=
  lit "<li>" ++ (lit "<a href=" ++ ('"' :: urlAttribute target ++ '"' :: (lit " title=\"#\">" ++
    (lit "</a>" ++ (lit "</li>" ++ ['\n'])))))

/-- **The source of a listing.** -/
def source (s : Listing) : Text :=
  '<' :: s.name ++ '>' :: (Text.escapeAttribute s.title ++ (lit "</" ++ s.name ++ '>' :: '\n' ::
    match s.targets with
    | [] => []
    | targets => lit "<ul>" ++ '\n' :: (targets.flatMap itemSource ++ (lit "</ul>" ++ ['\n']))))

theorem getLast?_itemSource (target : Text) : (itemSource target).getLast? = some '\n' :=
  List.getLast?_eq_some_iff.2
    ⟨lit "<li>" ++ (lit "<a href=" ++ ('"' :: urlAttribute target ++ '"' :: (lit " title=\"#\">" ++
      (lit "</a>" ++ lit "</li>")))), by simp only [itemSource, List.append_assoc, List.cons_append]⟩

/-- A listing ends with a line. -/
theorem getLast?_source (s : Listing) : s.source.getLast? = some '\n' := by
  unfold source
  rcases s.targets with _ | ⟨target, targets⟩
  · exact List.getLast?_eq_some_iff.2
      ⟨'<' :: s.name ++ '>' :: (Text.escapeAttribute s.title ++ (lit "</" ++ s.name ++ ['>'])),
        by simp only [List.append_assoc, List.cons_append, List.nil_append]⟩
  · exact List.getLast?_eq_some_iff.2
      ⟨'<' :: s.name ++ '>' :: (Text.escapeAttribute s.title ++ (lit "</" ++ s.name ++ '>' :: '\n' ::
        (lit "<ul>" ++ '\n' :: ((target :: targets).flatMap itemSource ++ lit "</ul>")))),
        by simp only [List.append_assoc, List.cons_append]⟩

/-- The link of an item. -/
def link (target : Text) : Node :=
  .element .html (lit "a") [⟨lit "href", percentEncoded target⟩, ⟨lit "title", ['#']⟩] []

/-- The nodes of an item. -/
def itemNodes (target : Text) : List Node :=
  [.element .html (lit "li") [] [link target], .text ['\n']]

/-- **The nodes of a listing.** -/
def nodes (s : Listing) : List Node :=
  .element .html s.name [] (Forest.joinText [] s.title) :: .text ['\n'] ::
    match s.targets with
    | [] => []
    | targets =>
      [.element .html (lit "ul") [] (.text ['\n'] :: targets.flatMap itemNodes), .text ['\n']]

end Listing

namespace Builder

variable {rest : Text} {b b' : Builder} {l l' : Forest.Level} {ls : List Forest.Level}
  {nodes items : List Node}

/-- A line end before a tag or at the end of the source. -/
theorem Reading.reaches_newLine (h : Reading b (l :: ls) []) {rest : Text}
    (hrest : ∀ c ∈ rest.head?, Source.isSpace c = false) :
    Reaches ('\n' :: rest) b rest (b.readToken (.text ['\n'])) ∧
      Reading (b.readToken (.text ['\n']))
        ({ l with done := Forest.joinText l.done ['\n'] } :: ls) [] := by
  have hnext : Source.ofMarkup false ('\n' :: rest) = (.text ['\n'], rest) := by
    obtain ⟨htake, -⟩ :=
      Text.takeWhile_append_of_all (p := Source.isSpace) (t := ['\n']) (by decide) hrest
    have hrun : Source.plainRun ('\n' :: rest) = (['\n'], rest) := by
      unfold Source.plainRun
      rw [show '\n' :: rest = ['\n'] ++ rest from rfl, htake]
      rfl
    have hread : Source.ofMarkup false ('\n' :: rest) =
        (.text (Source.plainRun ('\n' :: rest)).1, (Source.plainRun ('\n' :: rest)).2) := rfl
    rw [hread, hrun]
  exact ⟨h.reaches hnext (by simp) (by simp), h.readToken_text (by simp)⟩

theorem joinText_append_element (nodes : List Node) (space : Namespace) (name : Text)
    (attributes : List Attribute) (children : List Node) (c : Char) (t : Text) :
    Forest.joinText (nodes ++ [.element space name attributes children]) (c :: t) =
      nodes ++ [.element space name attributes children, .text (c :: t)] := by
  rw [Forest.joinText_of_getLast? (List.cons_ne_nil _ _) (by simp), List.append_assoc]
  rfl

/-- **An item** is added to its list. -/
theorem Reading.reaches_item (h : Reading b (⟨lit "ul", [], items⟩ :: bodyLevels nodes) [])
    (target : Text) (hrest : ∀ c ∈ rest.head?, Source.isSpace c = false) :
    ∃ b', Reaches (Listing.itemSource target ++ rest) b rest b' ∧
      Reading b' (⟨lit "ul", [], items ++ Listing.itemNodes target⟩ :: bodyLevels nodes) [] := by
  have hsource : Listing.itemSource target ++ rest =
      lit "<li>" ++ (lit "<a href=" ++ ('"' :: urlAttribute target ++ '"' :: (lit " title=\"#\">" ++
        (lit "</a>" ++ (lit "</li>" ++ '\n' :: rest))))) := by
    simp only [Listing.itemSource, List.append_assoc, List.cons_append, List.nil_append]
  have hopen := Source.ofMarkup_openLink (Listing.quote_not_mem target)
    (lit "</a>" ++ (lit "</li>" ++ '\n' :: rest))
  rw [Listing.replaceNull_urlAttribute] at hopen
  have hitem := h.openItem
  have hlink := hitem.openLink [⟨lit "href", percentEncoded target⟩, ⟨lit "title", ['#']⟩]
  have hlinked := hlink.closeLink
  have hdone := hlinked.closeItem
  obtain ⟨hreach, hline⟩ := hdone.reaches_newLine hrest
  have hnodes : Forest.joinText (items ++ [.element .html (lit "li") [] [Listing.link target]]) ['\n'] =
      items ++ Listing.itemNodes target := joinText_append_element ..
  refine ⟨_, ?_, hnodes ▸ hline⟩
  rw [hsource]
  exact (h.reaches_tag Source.ofMarkup_openItem (by simp) (by decide)).trans <|
    (hitem.reaches hopen (by simp)
      (by simp; omega)).trans <|
    (hlink.reaches_tag Source.ofMarkup_closeLink (by simp) (by decide)).trans <|
    (hlinked.reaches_tag Source.ofMarkup_closeItem (by simp) (by decide)).trans hreach

/-- **The items of a list.** -/
theorem Reading.reaches_items (targets : List Text)
    (h : Reading b (⟨lit "ul", [], items⟩ :: bodyLevels nodes) [])
    (hrest : ∀ c ∈ rest.head?, Source.isSpace c = false) :
    ∃ b', Reaches (targets.flatMap Listing.itemSource ++ rest) b rest b' ∧
      Reading b' (⟨lit "ul", [], items ++ targets.flatMap Listing.itemNodes⟩ :: bodyLevels nodes)
        [] := by
  induction targets generalizing items b with
  | nil => exact ⟨b, .refl, (List.append_nil items).symm ▸ h⟩
  | cons target targets ih =>
    have hbehind : ∀ c ∈ (targets.flatMap Listing.itemSource ++ rest).head?,
        Source.isSpace c = false := by
      cases targets with
      | nil => exact hrest
      | cons target targets =>
        intro c hc
        cases hc
        rfl
    obtain ⟨b', hreach, hb'⟩ := h.reaches_item target hbehind
    obtain ⟨b'', hreach', hb''⟩ := ih hb'
    refine ⟨b'', ?_, ?_⟩
    · rw [List.flatMap_cons, List.append_assoc]
      exact hreach.trans hreach'
    · rw [List.flatMap_cons, ← List.append_assoc]
      exact hb''

/-- The heading of a listing. -/
theorem Reading.reaches_heading (h : Reading b (bodyLevels nodes) []) {s : Listing} (hs : s.IsWritable)
    (hrest : ∀ c ∈ rest.head?, Source.isSpace c = false) :
    ∃ b', Reaches ('<' :: s.name ++ '>' :: (Text.escapeAttribute s.title ++
        (lit "</" ++ s.name ++ '>' :: '\n' :: rest))) b rest b' ∧
      Reading b' (bodyLevels (nodes ++
        [.element .html s.name [] (Forest.joinText [] s.title), .text ['\n']])) [] := by
  obtain ⟨hlow, hhigh, htitle⟩ := hs
  have hopened := h.openHeading (Listing.role_name hlow hhigh)
  obtain ⟨b', hreach, htitled⟩ :=
    hopened.reaches_written (Source.writes_escapeAttribute fun c hc => (htitle c hc).1)
      ('/' :: s.name ++ '>' :: '\n' :: rest)
  have hclosed := htitled.closeHeading (Listing.role_name hlow hhigh)
  obtain ⟨hreach', hline⟩ := hclosed.reaches_newLine hrest
  have hnodes : Forest.joinText
      (nodes ++ [.element .html s.name [] (Forest.joinText [] s.title)]) ['\n'] =
      nodes ++ [.element .html s.name [] (Forest.joinText [] s.title), .text ['\n']] :=
    joinText_append_element ..
  refine ⟨_, ?_, hnodes ▸ hline⟩
  exact (h.reaches (Source.ofMarkup_openHeading hlow hhigh) (by simp) (by simp; omega)).trans <|
    hreach.trans <|
    (htitled.reaches (Source.ofMarkup_closeHeading hlow hhigh) (by simp) (by simp; omega)).trans hreach'

/-- The list of a listing. -/
theorem Reading.reaches_list (h : Reading b (bodyLevels nodes) []) (targets : List Text)
    (hrest : ∀ c ∈ rest.head?, Source.isSpace c = false) :
    ∃ b', Reaches (lit "<ul>" ++ '\n' :: (targets.flatMap Listing.itemSource ++
        (lit "</ul>" ++ '\n' :: rest))) b rest b' ∧
      Reading b' (bodyLevels (nodes ++
        [.element .html (lit "ul") [] (.text ['\n'] :: targets.flatMap Listing.itemNodes),
          .text ['\n']])) [] := by
  have hopened := h.openList
  have hend : ∀ c ∈ (lit "</ul>" ++ '\n' :: rest).head?, Source.isSpace c = false := by
    intro c hc
    cases hc
    rfl
  have hbehind : ∀ c ∈ (targets.flatMap Listing.itemSource ++ (lit "</ul>" ++ '\n' :: rest)).head?,
      Source.isSpace c = false := by
    cases targets <;> (intro c hc; cases hc; rfl)
  obtain ⟨hreach, hline⟩ := hopened.reaches_newLine hbehind
  obtain ⟨b', hreach', hitems⟩ := hline.reaches_items targets hend
  have hclosed := hitems.closeList
  obtain ⟨hreach'', hended⟩ := hclosed.reaches_newLine hrest
  have hnodes := joinText_append_element nodes .html (lit "ul") []
    (.text ['\n'] :: targets.flatMap Listing.itemNodes) '\n' []
  refine ⟨_, ?_, hnodes ▸ hended⟩
  exact (h.reaches_tag Source.ofMarkup_openList (by simp) (by decide)).trans <|
    hreach.trans <| hreach'.trans <|
    (hitems.reaches_tag Source.ofMarkup_closeList (by simp) (by decide)).trans hreach''

/-- **A listing** is added to the body. -/
theorem Reading.reaches_listing (h : Reading b (bodyLevels nodes) []) {s : Listing} (hs : s.IsWritable)
    (hrest : ∀ c ∈ rest.head?, Source.isSpace c = false) :
    ∃ b', Reaches (s.source ++ rest) b rest b' ∧ Reading b' (bodyLevels (nodes ++ s.nodes)) [] := by
  unfold Listing.source Listing.nodes
  rcases htargets : s.targets with _ | ⟨target, targets⟩
  · obtain ⟨b', hreach, hb'⟩ := h.reaches_heading hs hrest
    refine ⟨b', ?_, hb'⟩
    simpa only [List.append_assoc, List.cons_append, List.nil_append] using hreach
  · have hlist : ∀ c ∈ (lit "<ul>" ++ '\n' :: ((target :: targets).flatMap Listing.itemSource ++
        (lit "</ul>" ++ '\n' :: rest))).head?, Source.isSpace c = false := by
      intro c hc
      cases hc
      rfl
    obtain ⟨b', hreach, hb'⟩ := h.reaches_heading hs hlist
    obtain ⟨b'', hreach', hb''⟩ := hb'.reaches_list (target :: targets) hrest
    refine ⟨b'', ?_, ?_⟩
    · have hboth := hreach.trans hreach'
      simpa only [List.append_assoc, List.cons_append, List.nil_append] using hboth
    · rw [List.append_assoc] at hb''
      exact hb''

/-- **Listings** are added to the body one after another. -/
theorem Reading.reaches_listings (ss : List Listing) (h : Reading b (bodyLevels nodes) [])
    (hss : ∀ s ∈ ss, s.IsWritable) :
    ∃ b', Reaches (ss.flatMap Listing.source) b [] b' ∧
      Reading b' (bodyLevels (nodes ++ ss.flatMap Listing.nodes)) [] := by
  induction ss generalizing nodes b with
  | nil => exact ⟨b, .refl, (List.append_nil nodes).symm ▸ h⟩
  | cons s ss ih =>
    obtain ⟨hs, hss⟩ := List.forall_mem_cons.1 hss
    have hbehind : ∀ c ∈ (ss.flatMap Listing.source).head?, Source.isSpace c = false := by
      cases ss <;> (intro c hc; cases hc; try rfl)
    obtain ⟨b', hreach, hb'⟩ := h.reaches_listing hs hbehind
    obtain ⟨b'', hreach', hb''⟩ := ih hb' hss
    refine ⟨b'', hreach.trans hreach', ?_⟩
    rw [List.flatMap_cons, ← List.append_assoc]
    exact hb''

/-! ## The whole page -/

/-- The builder of a page that begins with content, before its first element. -/
def atContent : Builder :=
  ({ ((({ initial with quirks := true, mode := .beforeHtml } : Builder).openPage []).openHead []).pop
    with mode := .afterHead } : Builder).openBody []

theorem reading_atContent : Reading atContent (Reading.bodyLevels []) [] where
  mode := rfl
  content := rfl
  foster := rfl
  skipNewline := rfl
  templateModes := rfl
  formatting := rfl
  spine := by
    have hopened : atContent.opened = [3, 1] := rfl
    have hpage : atContent.forest.slot? 0 = some ⟨.page, none, [1]⟩ := rfl
    have hhtml : atContent.forest.slot? 1 =
        some ⟨.element .html (lit "html") [], some 0, [2] ++ [3]⟩ := rfl
    have hhead : atContent.forest.slot? 2 = some ⟨.element .html (lit "head") [], some 1, []⟩ := rfl
    have hbody : atContent.forest.slot? 3 =
        some ⟨.element .html (lit "body") [], some 1, [] ++ []⟩ := rfl
    have hnext : atContent.forest.nextId = 4 := rfl
    rw [hopened, hnext]
    exact .level (.level (.page hpage) hhtml (.cons (.element hhead .nil) .nil)) hbody .nil

/-- **The first heading** opens the page and its body. -/
theorem readToken_initial {level : Nat} (hlow : 1 ≤ level) (hhigh : level ≤ 6) :
    initial.readToken (.opening ⟨'h' :: Text.ofNat level, [], false⟩) =
      atContent.readToken (.opening ⟨'h' :: Text.ofNat level, [], false⟩) := by
  interval_cases level <;> rfl

/-- **The source ends** with the page that is open. -/
theorem Reading.readSource_nil (h : Reading b (l :: ls) []) {fuel : Nat} (hfuel : 0 < fuel) :
    b.readSource fuel [] = b := by
  obtain ⟨fuel, rfl⟩ : ∃ n, fuel = n + 1 := ⟨fuel - 1, by omega⟩
  have hstep : b.inBodyStep .eof = .done b := by
    unfold inBodyStep
    dsimp only
    rw [h.templateModes]
    rfl
  rw [h.readSource]
  exact h.readToken hstep

/-- **A page with nothing but its body open.** -/
theorem Reading.toNodes (h : Reading b (bodyLevels nodes) []) :
    b.forest.toNodes = [.element .html (lit "html") []
      [.element .html (lit "head") [] [], .element .html (lit "body") [] nodes]] := by
  have hspine := h.spine
  rcases hopened : b.opened with _ | ⟨id, _ | ⟨j, _ | ⟨k, outer⟩⟩⟩
  all_goals rw [hopened] at hspine
  · cases hspine
  · cases hspine with
    | level houter => cases houter
  · exact hspine.close.toNodes
  · cases hspine with
    | level houter =>
      cases houter with
      | level houter => cases houter

end Builder

/-! ## Line ends -/

theorem Source.lineEnds_eq_self {t : Text} (h : '\r' ∉ t) : Source.normalize.lineEnds t = t := by
  induction t with
  | nil => rfl
  | cons c t ih =>
    rw [List.mem_cons, not_or] at h
    obtain ⟨hc, ht⟩ := h
    rw [Source.normalize.lineEnds.eq_4 _ _ fun heq => hc heq.symm, ih ht]

namespace Listing

theorem carriage_not_mem_itemSource (target : Text) : '\r' ∉ itemSource target := by
  have hurl : '\r' ∉ urlAttribute target := by
    intro hmem
    rcases Markdown.mem_urlAttribute hmem with hurl | hamp
    · exact absurd hurl (by decide)
    · exact absurd hamp (by decide)
  simp only [itemSource, List.mem_append, List.mem_cons, not_or]
  exact ⟨by decide, by decide, ⟨by decide, hurl⟩, by decide, by decide, by decide, by decide, by decide⟩

theorem carriage_not_mem_source {s : Listing} (hs : s.IsWritable) : '\r' ∉ s.source := by
  have hname : '\r' ∉ s.name := by
    obtain ⟨hlow, hhigh, -⟩ := hs
    unfold name
    generalize s.level = level at hlow hhigh
    interval_cases level <;> decide
  have htitle : '\r' ∉ Text.escapeAttribute s.title := by
    intro hmem
    rcases Source.mem_escapeAttribute hmem with ⟨hmem, -⟩ | href
    · exact (hs.title _ hmem).2 rfl
    · exact absurd href (by decide)
  have hlist : ∀ targets : List Text, '\r' ∉ targets.flatMap itemSource := by
    intro targets hmem
    obtain ⟨target, -, hmem⟩ := List.mem_flatMap.1 hmem
    exact carriage_not_mem_itemSource target hmem
  have hlisted : '\r' ∉ (match s.targets with
      | [] => []
      | targets => lit "<ul>" ++ '\n' :: (targets.flatMap itemSource ++ (lit "</ul>" ++ ['\n']))) := by
    split
    · exact List.not_mem_nil
    · simp only [List.mem_append, List.mem_cons, not_or]
      exact ⟨by decide, by decide, hlist _, by decide, by decide, by decide⟩
  simp only [source, List.mem_append, List.mem_cons, not_or]
  exact ⟨⟨by decide, hname⟩, by decide, htitle, ⟨by decide, hname⟩, by decide, by decide, hlisted⟩

end Listing

/-- A source that begins with an element of the body is read as content from the beginning. -/
theorem Builder.readSource_initial {tag : Tag} {source rest : Text}
    (hnext : Source.ofMarkup false source = (.opening tag, rest))
    (hopen : initial.readToken (.opening tag) = atContent.readToken (.opening tag)) (fuel : Nat) :
    initial.readSource (fuel + 1) source = atContent.readSource (fuel + 1) source := by
  have hcurrent : initial.current? = none := rfl
  have hfirst : Source.next initial.content false source = (.opening tag, rest) := hnext
  rw [reading_atContent.readSource, hnext, readSource, hcurrent]
  dsimp only
  rw [hfirst]
  exact congrArg (readSource fuel rest) hopen

/-- **A source is read to what its content is read to**, if it begins with an element of the body. -/
theorem fragment_of_reaches {tag : Tag} {source rest : Text} {b : Builder} {nodes : List Node}
    (hnext : Source.ofMarkup false (Source.normalize source) = (.opening tag, rest))
    (hopen : Builder.initial.readToken (.opening tag) = Builder.atContent.readToken (.opening tag))
    (hreach : Builder.Reaches (Source.normalize source) Builder.atContent [] b)
    (hb : Builder.Reading b (Builder.Reading.bodyLevels nodes) []) : fragment source = nodes := by
  obtain ⟨fuel, hfuel, hread⟩ := hreach _ (Nat.lt_succ_self _)
  have hwhole : Builder.initial.readSource ((Source.normalize source).length + 1)
      (Source.normalize source) = b := by
    rw [Builder.readSource_initial hnext hopen, hread, hb.readSource_nil hfuel]
  unfold fragment parse
  dsimp only
  rw [hwhole, hb.toNodes]
  rfl

/-- **Listings are read as they are written.** -/
theorem fragment_source {ss : List Listing} (hss : ∀ s ∈ ss, s.IsWritable) :
    fragment (ss.flatMap Listing.source) = ss.flatMap Listing.nodes := by
  rcases ss with _ | ⟨s, ss⟩
  · rfl
  have hclean : '\r' ∉ (s :: ss).flatMap Listing.source := by
    intro hmem
    obtain ⟨s', hs, hmem⟩ := List.mem_flatMap.1 hmem
    exact Listing.carriage_not_mem_source (hss s' hs) hmem
  have hnormal : Source.normalize ((s :: ss).flatMap Listing.source) =
      (s :: ss).flatMap Listing.source := Source.lineEnds_eq_self hclean
  obtain ⟨hlow, hhigh, -⟩ := hss s List.mem_cons_self
  obtain ⟨b, hreach, hb⟩ := Builder.reading_atContent.reaches_listings (s :: ss) hss
  obtain ⟨rest, hrest⟩ : ∃ rest, (s :: ss).flatMap Listing.source =
      '<' :: ('h' :: Text.ofNat s.level) ++ '>' :: rest :=
    ⟨_, by simp only [List.flatMap_cons, Listing.source, Listing.name, List.append_assoc,
      List.cons_append]; rfl⟩
  have hnext : Source.ofMarkup false (Source.normalize ((s :: ss).flatMap Listing.source)) =
      (.opening ⟨'h' :: Text.ofNat s.level, [], false⟩, rest) := by
    rw [hnormal, hrest]
    exact Source.ofMarkup_openHeading hlow hhigh
  exact fragment_of_reaches hnext (Builder.readToken_initial hlow hhigh) (hnormal.symm ▸ hreach) hb

end WikiPress.Html
