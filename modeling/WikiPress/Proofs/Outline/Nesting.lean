import WikiPress.Proofs.Outline.Flags
import WikiPress.Proofs.Outline.Owners

/-!
# Proofs/Outline/Nesting — every heading stands under the nearest one of a smaller level

    ## a
    #### b      under a
      text      under b
    ### c       under a, though after b

Whatever is hidden and folded, an outline has the rows of its article (`Outlines.map_seat_rows`), and
its entries are its rows read by owner.  So the entries nest as the owners of the rows do
(`nested_build`).
-/

namespace WikiPress.Outline

/-! ## Outlines of an article -/

/-- **An outline of an article**, with whatever hidden and folded. -/
def Outlines (elements : List ArticleElement) (items : List Item) : Prop :=
  bare items = bare (ofElements elements)

theorem outlines_build (elements : List ArticleElement) : Outlines elements (build elements) :=
  bare_foldInitially _

/-- What a row is about, and what owns it. -/
def Row.seat (r : Row) : Option Nat × Place := (r.owner, r.place)

theorem Row.seat_bare (r : Row) : r.bare.seat = r.seat := by
  rw [Row.seat, Row.owner_bare]
  rfl

theorem map_seat_bare (rs : List Row) : (rs.map Row.bare).map Row.seat = rs.map Row.seat := by
  rw [List.map_map]
  exact List.map_congr_left fun r _ => r.seat_bare

theorem Fits.congr {heads : List Heading} {r r' : Row} (h : r'.seat = r.seat)
    (hr : Fits heads r') : Fits heads r := by
  obtain ⟨howner, hplace⟩ := Prod.mk.inj h
  rw [Fits] at hr ⊢
  rwa [← howner, ← hplace]

/-- The position of what a reference refers to. -/
def position (es : List Entry) : Ref → Nat
  | .element index => index
  | .heading number => (es[number]?.map (·.head.element)).getD 0

namespace Outlines

variable {elements : List ArticleElement} {items : List Item}

/-- **An outline has the rows of its article.** -/
theorem map_seat_rows (h : Outlines elements items) :
    (rows [] 0 items).map Row.seat = (readRows 0 [] 0 elements).map Row.seat := by
  rw [← rows_ofElements, ← map_seat_bare, ← map_seat_bare (rows [] 0 (ofElements elements)),
    map_bare_rows, map_bare_rows, h]

theorem exists_readRow (h : Outlines elements items) {r : Row} (hr : r ∈ rows [] 0 items) :
    ∃ r' ∈ readRows 0 [] 0 elements, r'.seat = r.seat := by
  have hmem := List.mem_map_of_mem (f := Row.seat) hr
  rwa [h.map_seat_rows, List.mem_map] at hmem

theorem exists_row (h : Outlines elements items) {r' : Row}
    (hr' : r' ∈ readRows 0 [] 0 elements) : ∃ r ∈ rows [] 0 items, r.seat = r'.seat := by
  have hmem := List.mem_map_of_mem (f := Row.seat) hr'
  rwa [← h.map_seat_rows, List.mem_map] at hmem

theorem fits (h : Outlines elements items) {r : Row} (hr : r ∈ rows [] 0 items) :
    Fits (headings elements) r := by
  obtain ⟨r', hr', hseat⟩ := h.exists_readRow hr
  exact (fits_readRows .nil (fun h hh => absurd hh List.not_mem_nil) r' hr').congr hseat

theorem pairwise_index (h : Outlines elements items) :
    ((rows [] 0 items).map (·.place.index)).Pairwise (· < ·) := by
  have hindex := congrArg (List.map fun seat => seat.2.index) h.map_seat_rows
  rw [List.map_map, List.map_map] at hindex
  have hpairwise := pairwise_index_readRows 0 [] 0 elements
  exact hindex ▸ hpairwise

/-- **The entries are the headings of the article.** -/
theorem map_head_entries (h : Outlines elements items) :
    (entries none 0 items).map Entry.head = headings elements := by
  have hnode (r : Row) : r.node?.map (·.1.2) = r.place.head? := by
    obtain ⟨above, place, hidden⟩ := r
    cases place <;> rfl
  have hentries : (entries none 0 items).map Entry.head =
      (rows [] 0 items).filterMap (·.place.head?) := by
    have hnodes := congrArg (List.map fun node => node.1.2) (filterMap_node?_rows [] 0 items)
    rw [List.map_filterMap] at hnodes
    simp only [hnode] at hnodes
    have hheads (nodes : List (Option Nat × Heading)) :
        nodes.zipIdx.map (Prod.snd ∘ Prod.fst) = nodes.map Prod.snd := by
      rw [← List.map_map, List.zipIdx_map_fst]
    exact (hnodes.trans (hheads _)).trans (List.map_map ..) |>.symm
  have hseats := congrArg (List.filterMap fun seat => seat.2.head?) h.map_seat_rows
  rw [List.filterMap_map, List.filterMap_map] at hseats
  exact hentries.trans (hseats.trans (filterMap_head?_readRows 0 [] 0 elements))

/-- The position of a row's reference is that of the row. -/
theorem position_ref {r : Row} (hr : r ∈ rows [] 0 items) :
    position (entries none 0 items) r.place.ref = r.place.index := by
  cases hplace : r.place with
  | element index => rfl
  | heading number head =>
    obtain ⟨e, he, rfl, -⟩ := exists_heading_row_iff.1 ⟨r, hr, hplace, rfl⟩
    rw [Place.ref, position, he]
    rfl

/-- …so every reference has one row. -/
theorem nodup_ref (h : Outlines elements items) :
    ((rows [] 0 items).map (·.place.ref)).Nodup := by
  refine List.Nodup.of_map (position (entries none 0 items)) ?_
  have hindex : ((rows [] 0 items).map (·.place.ref)).map (position (entries none 0 items)) =
      (rows [] 0 items).map (·.place.index) := by
    rw [List.map_map]
    exact List.map_congr_left fun r hr => position_ref hr
  rw [hindex]
  exact h.pairwise_index.imp Nat.ne_of_lt

end Outlines

/-! ## The nesting -/

/-- **The headings of an article nest as they should.**  `top` refers to the headings without a
parent, and `es` are all headings with their parents and children. -/
structure Nested (elements : List ArticleElement) (top : List Ref) (es : List Entry) : Prop where
  /-- The entries are the headings before the footnotes, in order. -/
  heads : es.map Entry.head = headings elements
  /-- A parent is the nearest heading before of a smaller level. -/
  parent_iff : ∀ (i : Nat) (e : Entry), es[i]? = some e → ∀ j, e.parent = some j ↔
    IsGreatest {j | j < i ∧ ∃ c : Entry, es[j]? = some c ∧ c.head.level < e.head.level} j
  /-- There is none exactly if no heading before has a smaller level. -/
  root_iff : ∀ (i : Nat) (e : Entry), es[i]? = some e →
    (e.parent = none ↔
      ∀ (j : Nat) (c : Entry), j < i → es[j]? = some c → e.head.level ≤ c.head.level)
  /-- The headings among the children of a heading are those it is the parent of. -/
  heading_mem_iff : ∀ (i : Nat) (e : Entry), es[i]? = some e → ∀ j,
    Ref.heading j ∈ e.children ↔
    ∃ c : Entry, es[j]? = some c ∧ c.parent = some i
  /-- The other children are the elements before the footnotes that it is the nearest heading
  before. -/
  element_mem_iff : ∀ (i : Nat) (e : Entry), es[i]? = some e → ∀ x,
    Ref.element x ∈ e.children ↔
    (inside elements)[x]? = some ArticleElement.body ∧
      IsGreatest {j | ∃ c : Entry, es[j]? = some c ∧ c.head.element < x} i
  /-- On top stand the headings without a parent, and nothing else. -/
  top_mem_iff : ∀ ref, ref ∈ top ↔
    ∃ (j : Nat) (c : Entry), ref = .heading j ∧ es[j]? = some c ∧ c.parent = none
  /-- All lists of children are in the order of the article. -/
  ordered : ∀ children ∈ top :: es.map Entry.children,
    (children.map (position es)).Pairwise (· < ·)
  /-- Nothing is a child twice. -/
  once : (top ++ es.flatMap Entry.children).Nodup

namespace Outlines

variable {elements : List ArticleElement} {items : List Item}

/-- What a heading of an article says is what the entry of its number says. -/
theorem exists_entry_iff (h : Outlines elements items) {j : Nat} {P : Heading → Prop} :
    (∃ head, (headings elements)[j]? = some head ∧ P head) ↔
      ∃ c, (entries none 0 items)[j]? = some c ∧ P c.head := by
  rw [← h.map_head_entries, List.getElem?_map]
  constructor
  · rintro ⟨head, hhead, hP⟩
    obtain ⟨c, hc, rfl⟩ := Option.map_eq_some_iff.1 hhead
    exact ⟨c, hc, hP⟩
  · rintro ⟨c, hc, hP⟩
    exact ⟨c.head, Option.map_eq_some_iff.2 ⟨c, hc, rfl⟩, hP⟩

theorem parent_iff (h : Outlines elements items) {i : Nat} {e : Entry}
    (he : (entries none 0 items)[i]? = some e) (j : Nat) :
    e.parent = some j ↔ IsGreatest
      {j | j < i ∧ ∃ c, (entries none 0 items)[j]? = some c ∧ c.head.level < e.head.level} j := by
  obtain ⟨r, hr, hplace, howner⟩ := exists_heading_row_iff.2 ⟨e, he, rfl, rfl⟩
  have hfits := h.fits hr
  rw [Fits, hplace] at hfits
  rw [← howner, hfits.2 j]
  simp only [h.exists_entry_iff (P := fun head => head.level < e.head.level)]

/-- A heading has no parent exactly if none before it has a smaller level. -/
theorem parent_eq_none_iff (h : Outlines elements items) {i : Nat} {e : Entry}
    (he : (entries none 0 items)[i]? = some e) :
    e.parent = none ↔ ∀ (j : Nat) (c : Entry), j < i → (entries none 0 items)[j]? = some c →
      e.head.level ≤ c.head.level := by
  rw [Option.eq_none_iff_forall_ne_some]
  constructor
  · intro hnone j c hlt hc
    by_contra hlevel
    obtain ⟨k, hk⟩ : ∃ k, IsGreatest {j | j < i ∧ ∃ c, (entries none 0 items)[j]? = some c ∧
        c.head.level < e.head.level} k :=
      exists_isGreatest_of_lt ⟨j, hlt, c, hc, Nat.not_le.1 hlevel⟩ fun k hk => hk.1
    exact hnone k ((h.parent_iff he k).2 hk)
  · intro hall j hparent
    obtain ⟨hlt, c, hc, hlevel⟩ := ((h.parent_iff he j).1 hparent).1
    exact absurd (hall j c hlt hc) (Nat.not_le.2 hlevel)

/-- A child list holds the references to the rows that the heading owns. -/
theorem mem_children_iff {i : Nat} {e : Entry} (he : (entries none 0 items)[i]? = some e)
    {ref : Ref} :
    ref ∈ e.children ↔ ∃ r ∈ rows [] 0 items, r.place.ref = ref ∧ r.owner = some i := by
  rw [children_eq_ownedBy (before_nil 0) he, Nat.zero_add, List.mem_map]
  simp only [mem_ownedBy]
  refine exists_congr fun r => ?_
  rw [and_assoc, and_comm (a := r.owner = some i)]

/-- …and on top stand the references to the rows that none owns. -/
theorem mem_refs_iff {ref : Ref} :
    ref ∈ refs 0 items ↔ ∃ r ∈ rows [] 0 items, r.place.ref = ref ∧ r.owner = none := by
  rw [refs_eq_ownedBy (before_nil 0), List.mem_map]
  simp only [mem_ownedBy]
  refine exists_congr fun r => ?_
  rw [and_assoc, and_comm (a := r.owner = nearest [])]
  rfl

/-- Headings are owned by their parents. -/
theorem heading_row_iff {j : Nat} {owner : Option Nat} :
    (∃ r ∈ rows [] 0 items, r.place.ref = .heading j ∧ r.owner = owner) ↔
      ∃ c, (entries none 0 items)[j]? = some c ∧ c.parent = owner := by
  constructor
  · rintro ⟨r, hr, href, howner⟩
    cases hplace : r.place with
    | element index => exact absurd (hplace ▸ href) nofun
    | heading number head =>
      rw [hplace, Place.ref, Ref.heading.injEq] at href
      obtain ⟨c, hc, -, hparent⟩ := exists_heading_row_iff.1 ⟨r, hr, href ▸ hplace, howner⟩
      exact ⟨c, hc, hparent⟩
  · rintro ⟨c, hc, hparent⟩
    obtain ⟨r, hr, hplace, howner⟩ := exists_heading_row_iff.2 ⟨c, hc, rfl, hparent⟩
    exact ⟨r, hr, by rw [hplace, Place.ref], howner⟩

/-- **An element is owned by the nearest heading before it.** -/
theorem element_row_iff (h : Outlines elements items) {x i : Nat} :
    (∃ r ∈ rows [] 0 items, r.place.ref = .element x ∧ r.owner = some i) ↔
      (inside elements)[x]? = some .body ∧
        IsGreatest {j | ∃ c, (entries none 0 items)[j]? = some c ∧ c.head.element < x} i := by
  simp only [← h.exists_entry_iff (P := fun head => head.element < x)]
  constructor
  · rintro ⟨r, hr, href, howner⟩
    have hplace : r.place = .element x := by
      cases hplace : r.place with
      | element index =>
        rw [hplace, Place.ref, Ref.element.injEq] at href
        rw [href]
      | heading number head => exact absurd (hplace ▸ href) nofun
    obtain ⟨r', hr', hseat⟩ := h.exists_readRow hr
    have hfits := h.fits hr
    rw [Fits, hplace] at hfits
    refine ⟨body_of_mem_readRows hr' ?_, (hfits.2 i).1 howner⟩
    rw [(Prod.mk.inj hseat).2, hplace, Nat.zero_add]
  · rintro ⟨hbody, hgreatest⟩
    obtain ⟨head, hhead, hlt⟩ := hgreatest.1
    obtain ⟨r', hr', hplace⟩ := exists_row_of_body hbody (.inr ⟨head,
      List.mem_of_getElem? hhead, by rwa [Nat.zero_add]⟩)
    obtain ⟨r, hr, hseat⟩ := h.exists_row hr'
    rw [Nat.zero_add, ← (Prod.mk.inj hseat).2] at hplace
    have hfits := h.fits hr
    rw [Fits, hplace] at hfits
    exact ⟨r, hr, by rw [hplace, Place.ref], (hfits.2 i).2 hgreatest⟩

/-- **On top stand the headings without a parent.** -/
theorem mem_top_iff (h : Outlines elements items) {ref : Ref} :
    ref ∈ refs 0 items ↔
      ∃ j c, ref = .heading j ∧ (entries none 0 items)[j]? = some c ∧ c.parent = none := by
  rw [mem_refs_iff]
  constructor
  · rintro ⟨r, hr, rfl, howner⟩
    cases hplace : r.place with
    | element index =>
      have hfits := h.fits hr
      rw [Fits, hplace] at hfits
      exact absurd howner hfits.1
    | heading number head =>
      obtain ⟨c, hc, -, hparent⟩ := exists_heading_row_iff.1 ⟨r, hr, hplace, howner⟩
      exact ⟨number, c, rfl, hc, hparent⟩
  · rintro ⟨j, c, rfl, hc, hparent⟩
    exact heading_row_iff.2 ⟨c, hc, hparent⟩

/-- The references to the rows with one owner are in the order of the article. -/
theorem pairwise_ownedBy (h : Outlines elements items) (owner : Option Nat) :
    (((ownedBy owner (rows [] 0 items)).map (·.place.ref)).map
      (position (entries none 0 items))).Pairwise (· < ·) := by
  have hindex : ((ownedBy owner (rows [] 0 items)).map (·.place.ref)).map
      (position (entries none 0 items)) =
        (ownedBy owner (rows [] 0 items)).map (·.place.index) := by
    rw [List.map_map]
    exact List.map_congr_left fun r hr => position_ref (mem_ownedBy.1 hr).1
  rw [hindex]
  exact h.pairwise_index.sublist (List.filter_sublist.map _)

/-- A reference has one owner. -/
theorem owner_unique (h : Outlines elements items) {ref : Ref} {owner owner' : Option Nat}
    (hr : ∃ r ∈ rows [] 0 items, r.place.ref = ref ∧ r.owner = owner)
    (hr' : ∃ r ∈ rows [] 0 items, r.place.ref = ref ∧ r.owner = owner') : owner = owner' := by
  obtain ⟨r, hr, rfl, rfl⟩ := hr
  obtain ⟨r', hr', href, rfl⟩ := hr'
  rw [List.inj_on_of_nodup_map h.nodup_ref hr' hr href]

/-- Nothing stands in two places. -/
theorem nodup_children (h : Outlines elements items) :
    (refs 0 items ++ (entries none 0 items).flatMap Entry.children).Nodup := by
  have hnodup (owner : Option Nat) :
      ((ownedBy owner (rows [] 0 items)).map (·.place.ref)).Nodup :=
    h.nodup_ref.sublist (List.filter_sublist.map _)
  refine List.nodup_append.2 ⟨?_, List.nodup_flatMap.2 ⟨fun e he => ?_, ?_⟩, ?_⟩
  · rw [refs_eq_ownedBy (before_nil 0)]
    exact hnodup none
  · obtain ⟨i, hi⟩ := List.mem_iff_getElem?.1 he
    rw [children_eq_ownedBy (before_nil 0) hi]
    exact hnodup _
  · refine List.pairwise_iff_getElem.2 fun i j hi hj hlt ref href href' => ?_
    have heq := h.owner_unique ((mem_children_iff (List.getElem?_eq_getElem hi)).1 href)
      ((mem_children_iff (List.getElem?_eq_getElem hj)).1 href')
    exact absurd (Option.some.inj heq) (Nat.ne_of_lt hlt)
  · rintro ref htop _ hchild rfl
    obtain ⟨e, he, href⟩ := List.mem_flatMap.1 hchild
    obtain ⟨i, hi⟩ := List.mem_iff_getElem?.1 he
    exact absurd (h.owner_unique (mem_refs_iff.1 htop) ((mem_children_iff hi).1 href)) nofun

end Outlines

/-- **The headings of an article nest as they should**, whatever their levels: every heading stands
under the nearest one before it of a smaller level, every other element before the footnotes under
the nearest heading, both in the order of the article, and nothing stands in two places. -/
theorem nested_build (elements : List ArticleElement) :
    Nested elements (refs 0 (build elements)) (entries none 0 (build elements)) := by
  have h := outlines_build elements
  set items := build elements
  refine ⟨h.map_head_entries, fun i e he j => h.parent_iff he j,
    fun i e he => h.parent_eq_none_iff he,
    fun i e he j => ?_, fun i e he x => ?_, fun ref => h.mem_top_iff, ?_, h.nodup_children⟩
  · rw [Outlines.mem_children_iff he, Outlines.heading_row_iff]
  · rw [Outlines.mem_children_iff he, h.element_row_iff]
  · rw [List.forall_mem_cons]
    refine ⟨?_, fun children hchildren => ?_⟩
    · rw [refs_eq_ownedBy (before_nil 0)]
      exact h.pairwise_ownedBy none
    · obtain ⟨e, he, rfl⟩ := List.mem_map.1 hchildren
      obtain ⟨i, hi⟩ := List.mem_iff_getElem?.1 he
      rw [children_eq_ownedBy (before_nil 0) hi]
      exact h.pairwise_ownedBy _

end WikiPress.Outline
