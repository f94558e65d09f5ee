import WikiPress.Proofs.Page.Listing
import WikiPress.Proofs.TagIndex.Completeness

/-!
# Proofs/TagIndex/Links — the links of the rendered index

    /a.md   ──▸   - [](/a.md "#")      ──▸   <a href="#/a.md">
    /a b.md ──▸   - [](/a b.md "#")    ──▸   [](/a b.md “#”)

The index is written as Markdown with the paths as they are, and read again when it is rendered.  Where
every path is a destination, each link line becomes one link to the hash route of its document, and
there are no other links; a link line whose path is none leads nowhere (`anchors_render`).
-/

namespace WikiPress

namespace Text

/-- Lines with a blank line between them. -/
theorem join_blankLine {ts us : List Text} (hts : ts ≠ []) (hus : us ≠ []) :
    join ['\n'] (ts ++ [] :: us) = join ['\n'] ts ++ lit "\n\n" ++ join ['\n'] us := by
  rw [join_append _ hts (List.cons_ne_nil _ _), join_cons_of_ne_nil _ _ hus]
  simp only [List.append_assoc]
  rfl

end Text

namespace TagIndex

open Markdown (Listing IsDestination linkTargets)
open Markdown.Span (hashLink)

/-! ## The documents of the hierarchy -/

namespace Node

variable {P : Document → Prop} {n : Node}

/-- **A node whose documents satisfy a property**, and so do those below. -/
inductive Holds (P : Document → Prop) : Node → Prop
  | node {documents : List Document} {children : List (Text × Node)}
      (hdocuments : ∀ d ∈ documents, P d) (hchildren : ∀ child ∈ children, Holds P child.2) :
      Holds P (.node documents children)

theorem holds_empty : Holds P empty := .node nofun nofun

theorem Holds.insert (h : n.Holds P) {d : Document} (hd : P d) (path : List Text) :
    (n.insert d path).Holds P := by
  induction path generalizing n with
  | nil =>
    obtain ⟨hdocuments, hchildren⟩ := h
    refine .node (fun d' hd' => ?_) hchildren
    unfold addDocument at hd'
    split at hd'
    · exact hdocuments d' hd'
    · rw [List.mem_append, List.mem_singleton] at hd'
      rcases hd' with hold | rfl
      · exact hdocuments d' hold
      · exact hd
  | cons segment rest ih =>
    obtain ⟨hdocuments, hchildren⟩ := h
    refine .node hdocuments fun c hc => ?_
    rcases mem_updateChild hc with hmem | hchanged | ⟨child, hmem, hchanged⟩
    · exact hchildren c hmem
    · rw [hchanged]
      exact ih holds_empty
    · rw [hchanged]
      exact ih (hchildren _ hmem)

end Node

open Node (Holds holds_empty)

variable {P : Document → Prop} {documents : List Document} {untagged : Text}

theorem holds_hierarchy (h : ∀ d ∈ documents, P d) : (hierarchy documents).Holds P := by
  have htags : ∀ (d : Document) (tags : List Text) (n : Node), P d → n.Holds P →
      (tags.foldl (fun root tag => root.insert d (Text.splitOn '/' tag)) n).Holds P := by
    intro d tags n hd hn
    induction tags generalizing n with
    | nil => exact hn
    | cons tag tags ih => exact ih _ (hn.insert hd _)
  have hall : ∀ n : Node, n.Holds P → (documents.foldl (fun root d =>
      d.flags.tags.foldl (fun root tag => root.insert d (Text.splitOn '/' tag)) root) n).Holds P := by
    induction documents with
    | nil => exact fun _ hn => hn
    | cons d documents ih =>
      obtain ⟨hd, hdocuments⟩ := List.forall_mem_cons.1 h
      exact fun n hn => ih hdocuments _ (htags d _ n hd hn)
  exact hall _ holds_empty

mutual

/-- The sections of a node are not above its level, and show documents of it. -/
theorem mem_sections {label : Text} {level : Nat} : ∀ {n : Node}, n.Holds P →
    ∀ s ∈ sections label level n, level ≤ s.level ∧ ∀ d ∈ s.documents, P d
  | .node _ children, .node hdocuments hchildren, s, hs => by
    rw [sections, List.mem_cons] at hs
    rcases hs with rfl | hs
    · exact ⟨Nat.le_refl _, fun d hd => hdocuments d ((Document.sorted_perm _).mem_iff.1 hd)⟩
    · obtain ⟨hlevel, hshown⟩ := mem_sectionsBelow hchildren s hs
      exact ⟨Nat.le_of_succ_le hlevel, hshown⟩

theorem mem_sectionsBelow {level : Nat} : ∀ {children : List (Text × Node)},
    (∀ child ∈ children, child.2.Holds P) → ∀ s ∈ sectionsBelow level children,
      level ≤ s.level ∧ ∀ d ∈ s.documents, P d
  | [], _, s, hs => by cases hs
  | (label, child) :: rest, h, s, hs => by
    rw [sectionsBelow, List.mem_append] at hs
    rcases hs with hs | hs
    · exact mem_sections (h (label, child) List.mem_cons_self) s hs
    · exact mem_sectionsBelow (fun c hc => h c (List.mem_cons_of_mem _ hc)) s hs

end

/-- **The sections of the index** have levels below the first, and show documents that could be had. -/
theorem mem_index {s : Section} (hs : s ∈ index documents untagged) :
    2 ≤ s.level ∧ ∀ d ∈ s.documents, d ∈ documents ∧ d.isError = false := by
  have havailable : ∀ d ∈ documents.filter (!·.isError), d ∈ documents ∧ d.isError = false := by
    intro d hd
    rw [List.mem_filter, Bool.not_eq_true'] at hd
    exact hd
  unfold index at hs
  rw [List.mem_append] at hs
  rcases hs with hs | hs
  · have hholds := holds_hierarchy havailable
    cases hhierarchy : hierarchy (documents.filter (!·.isError)) with
    | node ds children =>
      rw [hhierarchy] at hholds hs
      obtain ⟨-, hchildren⟩ := hholds
      exact mem_sectionsBelow hchildren s hs
  · split at hs
    · cases hs
    · exact mem_sections (.node (fun d hd => havailable d (List.mem_of_mem_filter hd))
        fun c hc => absurd hc List.not_mem_nil) s hs

/-! ## The index as listings -/

/-- A section as a listing. -/
def Section.listing (s : Section) : Listing :=
  ⟨min s.level 6, s.label ++ (lit " - ( " ++ (Text.ofNat s.count ++ lit " )")),
    s.documents.map Document.path⟩

theorem linkLine_eq (d : Document) : linkLine d = Listing.linkLine d.path :=
  (List.append_assoc _ _ _ : lit "- [](" ++ d.path ++ lit " \"#\")" = _)

theorem render_section (s : Section) : s.render = Text.join ['\n'] s.listing.lines := by
  have hheading : List.replicate (min s.level 6) '#' ++ ' ' :: s.label ++ lit " - ( "
      ++ Text.ofNat s.count ++ lit " )" = Listing.headLine s.listing.level s.listing.title := by
    simp only [Section.listing, Listing.headLine, List.append_assoc, List.cons_append]
  have hlinks : ∀ ds : List Document,
      ds.map linkLine = (ds.map Document.path).map Listing.linkLine := by
    intro ds
    rw [List.map_map]
    exact List.map_congr_left fun d _ => linkLine_eq d
  unfold Section.render
  dsimp only
  rw [hheading]
  cases hdocuments : s.documents with
  | nil =>
    have hpaths : s.listing.paths = [] := by rw [Section.listing, hdocuments]; rfl
    rw [Listing.lines, hpaths]
    rfl
  | cons d ds =>
    have hpaths : s.listing.paths = d.path :: ds.map Document.path := by
      rw [Section.listing, hdocuments]; rfl
    rw [Listing.lines, hpaths]
    dsimp only
    rw [hlinks]
    exact (Text.join_blankLine (List.cons_ne_nil _ []) (List.cons_ne_nil _ _)).symm

/-- **The index is a text of listings.** -/
theorem render_eq (documents : List Document) (untagged : Text) :
    render documents untagged = Page.textOf ((index documents untagged).map Section.listing) := by
  have hne : ∀ l : Listing, l.lines ≠ [] := fun l => List.cons_ne_nil _ _
  unfold render Page.textOf
  induction index documents untagged with
  | nil => rfl
  | cons s ss ih =>
    cases ss with
    | nil => exact render_section s
    | cons s' ss =>
      have hrest : Listing.allLines ((s' :: ss).map Section.listing) ≠ [] := by
        cases ss
        · exact hne _
        · exact List.append_ne_nil_of_left_ne_nil (hne _) _
      have hothers : (s' :: ss).map Section.render ≠ [] := List.cons_ne_nil _ _
      rw [List.map_cons, Text.join_cons_of_ne_nil _ _ hothers, ih, render_section]
      exact (Text.join_blankLine (hne _) hrest).symm

/-- **Labels that are shown as they are**: as the text of a heading. -/
def IsShown (o : Page.Options) (s : Section) : Prop :=
  (∀ c ∈ s.label, c ≠ '\n' ∧ c ≠ '\r' ∧ c.toNat ≠ 0) ∧ (o.title? s.listing).isSome = true

instance (o : Page.Options) (s : Section) : Decidable (IsShown o s) :=
  decidable_of_iff ((s.label.all fun c => decide (c ≠ '\n' ∧ c ≠ '\r' ∧ c.toNat ≠ 0)) = true ∧
      (o.title? s.listing).isSome = true) <| by
    simp only [IsShown, List.all_eq_true, decide_eq_true_eq]

theorem isPlain_listing {o : Page.Options} {s : Section} (hshown : IsShown o s) (hlevel : 2 ≤ s.level)
    (hpaths : ∀ d ∈ s.documents, d.path.head? = some '/' ∧ IsDestination d.path) :
    Page.IsPlain s.listing where
  low := by
    have : s.listing.level = min s.level 6 := rfl
    omega
  high := Nat.min_le_right _ _
  title := by
    have hcount : ∀ c ∈ Text.ofNat s.count, c ≠ '\n' ∧ c ≠ '\r' ∧ c.toNat ≠ 0 := by
      intro c hc
      have hdigit := List.all_eq_true.1 (Text.all_isDigit_ofNat s.count) c hc
      have hother : ∀ d, Text.isDigit d = false → c ≠ d := by
        rintro d hd rfl
        rw [hdigit] at hd
        cases hd
      exact ⟨hother _ (by decide), hother _ (by decide),
        fun hzero => hother (Char.ofNat 0) (by decide) (Char.toNat_inj.1 hzero)⟩
    have hfixed : ∀ c ∈ lit " - ( " ++ lit " )", c ≠ '\n' ∧ c ≠ '\r' ∧ c.toNat ≠ 0 :=
      Text.forall_mem_of_all (by decide)
    intro c hc
    rw [Section.listing, List.mem_append, List.mem_append, List.mem_append] at hc
    rcases hc with hlabel | hopen | hnumber | hclose
    · exact hshown.1 c hlabel
    · exact hfixed c (List.mem_append_left _ hopen)
    · exact hcount c hnumber
    · exact hfixed c (List.mem_append_right _ hclose)
  ends := ⟨s.label ++ (lit " - ( " ++ (Text.ofNat s.count ++ [' '])), ')', by
    simp only [Section.listing, List.append_assoc]; rfl, by decide⟩
  paths := by
    intro p hp
    obtain ⟨d, hd, rfl⟩ := List.mem_map.1 hp
    exact hpaths d hd

/-! ## The links of the index -/

/-- The link to a document, by its hash route. -/
def routeLink (d : Document) : List Html.Attribute :=
  [⟨lit "href", '#' :: Path.shorten (Markdown.percentEncoded d.path)⟩]

/-- **The rendered index has one link for each link line**, in order, if the paths of the documents that
could be had are destinations and the labels are shown as they are.  A link line leads to its path only
if that is a destination. -/
theorem anchors_render (o : Page.Options) (documents : List Document) (untagged : Text)
    (hpaths : ∀ d ∈ documents, d.isError = false →
      d.path.head? = some '/' ∧ Text.endsWith (lit ".md") d.path = true) :
    ((∀ d ∈ documents, d.isError = false → IsDestination d.path) →
      (∀ s ∈ index documents untagged, IsShown o s) →
        (o.render (render documents untagged)).html =
          Text.trim (Html.render (o.nodes (render documents untagged))) ∧
        Page.anchors (o.nodes (render documents untagged)) =
          (index documents untagged).flatMap fun s => s.documents.map routeLink) ∧
    ∀ d ∈ documents, d.isError = false → linkLine d = lit "- " ++ hashLink d.path ∧
      (⟨d.path, ['#']⟩ ∈ linkTargets (Markdown.Span.inlines o.dialect [] (hashLink d.path)) ↔
        IsDestination d.path) := by
  constructor
  · intro hdestinations hshown
    have hdocuments : ∀ s ∈ index documents untagged, ∀ d ∈ s.documents,
        (d.path.head? = some '/' ∧ Text.endsWith (lit ".md") d.path = true) ∧ IsDestination d.path := by
      intro s hs d hd
      obtain ⟨hmem, herror⟩ := (mem_index hs).2 d hd
      exact ⟨hpaths d hmem herror, hdestinations d hmem herror⟩
    have hplain : ∀ l ∈ (index documents untagged).map Section.listing, Page.IsPlain l := by
      intro l hl
      obtain ⟨s, hs, rfl⟩ := List.mem_map.1 hl
      exact isPlain_listing (hshown s hs) (mem_index hs).1
        fun d hd => ⟨(hdocuments s hs d hd).1.1, (hdocuments s hs d hd).2⟩
    have htitles : ∀ l ∈ (index documents untagged).map Section.listing,
        (o.title? l).isSome = true := by
      intro l hl
      obtain ⟨s, hs, rfl⟩ := List.mem_map.1 hl
      exact (hshown s hs).2
    refine ⟨Page.html_render o _, ?_⟩
    rw [render_eq, Page.anchors_textOf o hplain htitles, List.flatMap_map]
    refine List.flatMap_congr fun s hs => ?_
    rw [Section.listing, List.map_map]
    exact List.map_congr_left fun d hd =>
      Page.linked_linkAttributes _ (hdocuments s hs d hd).1.1 (hdocuments s hs d hd).1.2
  · intro d hd herror
    exact ⟨linkLine_eq d, Markdown.Span.mem_linkTargets_hashLink_iff (hpaths d hd herror).1 o.dialect⟩

/-- A tagged document with parentheses and an ampersand in its name, an index document without tags, and
one with a blank in its name that could not be had. -/
theorem anchors_render_of_three :
    Page.anchors (({} : Page.Options).nodes (render
      [⟨lit "/a_(1)&b.md", [], { title := [], tags := [lit "lang"] }, false⟩,
        ⟨lit "/notes/index.md", [], { title := [] }, false⟩, ⟨lit "/c d.md", [], { title := [] }, true⟩]
      (lit "Untagged"))) =
    [[⟨lit "href", lit "#/a_(1)&b.md"⟩], [⟨lit "href", lit "#/notes/"⟩]] := by
  have hpaths : ∀ d ∈ ([⟨lit "/a_(1)&b.md", [], { title := [], tags := [lit "lang"] }, false⟩,
      ⟨lit "/notes/index.md", [], { title := [] }, false⟩,
      ⟨lit "/c d.md", [], { title := [] }, true⟩] : List Document), d.isError = false →
        d.path.head? = some '/' ∧ Text.endsWith (lit ".md") d.path = true := by decide +kernel
  obtain ⟨hrender, -⟩ := anchors_render {} _ (lit "Untagged") hpaths
  obtain ⟨-, hanchors⟩ := hrender (by decide +kernel) (by decide +kernel)
  exact hanchors.trans (by decide +kernel)

/-- **A document with a blank in its name is listed without a link.** -/
theorem anchors_render_of_blank :
    (index [⟨lit "/a b.md", [], { title := [] }, false⟩] (lit "Untagged")).flatMap Section.documents =
      [⟨lit "/a b.md", [], { title := [] }, false⟩] ∧
    Page.anchors (({} : Page.Options).nodes
      (render [⟨lit "/a b.md", [], { title := [] }, false⟩] (lit "Untagged"))) = [] := by
  constructor <;> decide +kernel

end TagIndex

end WikiPress
