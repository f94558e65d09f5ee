import WikiPress.Proofs.Outline.Folding

/-!
# Proofs/Outline/Clicks — hidden is what stands below a folded heading

    a, b shown  ──click b──▸  text below b hidden  ──click a──▸  b hidden too: no click on b

A reader clicks headings that are not hidden (`Clicked`).  Each such click keeps hidden what should
be hidden (`conceal_press`), so an element is hidden exactly if some heading above it is folded,
however often a reader has clicked (`hidden_iff_folded_above`).
-/

namespace WikiPress.Outline

/-! ## Clicks -/

/-- The first heading with an id is not hidden, or there is none. -/
def clickable (items : List Item) (id : Text) : Bool :=
  ((entries none 0 items).find? (·.head.id == id)).all fun e => !isHidden items e.head.element

/-- **The outlines a reader comes to**, who toggles headings that are not hidden. -/
inductive Clicked (elements : List ArticleElement) : List Item → Prop
  | build : Clicked elements (build elements)
  | press {items : List Item} {id : Text} (h : Clicked elements items)
    (hclickable : clickable items id = true) : Clicked elements (press items id)

theorem Clicked.outlines {elements : List ArticleElement} {items : List Item}
    (h : Clicked elements items) : Outlines elements items := by
  induction h with
  | build => exact outlines_build elements
  | press _ _ ih => exact (bare_press _ _).trans ih

/-- The heading with the number of an id is the first one with it. -/
theorem find?_eq_getElem? {id : Text} {items : List Item} {k : Nat}
    (hk : number? id items = some k) :
    (entries none 0 items).find? (·.head.id == id) = (entries none 0 items)[k]? := by
  obtain ⟨hlt, hid, hbefore⟩ := List.findIdx?_eq_some_iff_getElem.1 hk
  rw [List.getElem?_eq_getElem hlt, List.find?_eq_some_iff_getElem]
  exact ⟨hid, k, hlt, rfl, fun j hj => by simpa using hbefore j hj⟩

/-- A heading that can be clicked has a row that is not hidden. -/
theorem hidden_eq_false_of_clickable {items : List Item} {id : Text} {k : Nat}
    (hclickable : clickable items id = true) (hk : number? id items = some k) :
    ∀ r ∈ rows [] 0 items, r.place.ref = .heading (0 + k) → r.hidden = false := by
  intro r hr href
  rw [Nat.zero_add] at href
  obtain ⟨e, he, -⟩ := Outlines.heading_row_iff.1 ⟨r, hr, href, rfl⟩
  have hposition := Outlines.position_ref hr
  rw [href, position, he, Option.map_some, Option.getD_some] at hposition
  rw [clickable, find?_eq_getElem? hk, he, Option.all_some, Bool.not_eq_true',
    ← Bool.not_eq_true, isHidden_iff] at hclickable
  exact Bool.eq_false_iff.2 fun hhidden => hclickable ⟨r, hr, hposition.symm, hhidden⟩

/-- **A click keeps hidden what should be hidden**, -/
theorem conceal_press {items : List Item} {id : Text} (hitems : conceal false items = items)
    (hclickable : clickable items id = true) :
    conceal false (press items id) = press items id := by
  cases hk : number? id items with
  | none => rw [press_of_number?_eq_none hk, hitems]
  | some k =>
    rw [press_of_number?_eq_some hk]
    exact conceal_updateAt_of_visible conceal_toggle hitems
      (hidden_eq_false_of_clickable hclickable hk)

/-- …and so do all clicks of a reader. -/
theorem Clicked.conceal_eq_self {elements : List ArticleElement} {items : List Item}
    (h : Clicked elements items) : conceal false items = items := by
  induction h with
  | build => exact conceal_build elements
  | press _ hclickable ih => exact conceal_press ih hclickable

/-- The rows of what a reader sees are hidden below folded headings. -/
theorem Clicked.hidden_eq {elements : List ArticleElement} {items : List Item}
    (h : Clicked elements items) {r : Row} (hr : r ∈ rows [] 0 items) :
    r.hidden = r.above.any Prod.snd := by
  have hrows := rows_conceal [] 0 items
  rw [List.any_nil, h.conceal_eq_self] at hrows
  rw [hrows] at hr
  obtain ⟨r', -, rfl⟩ := List.mem_map.1 hr
  rfl

/-- What is outside the outline is not hidden. -/
theorem Outlines.isHidden_eq_false {elements : List ArticleElement} {items : List Item}
    {index : Nat} (h : Outlines elements items)
    (houtside : ∀ e ∈ entries none 0 items, e.head.element ≠ index ∧
      Ref.element index ∉ e.children) : isHidden items index = false := by
  rw [← Bool.not_eq_true, isHidden_iff]
  rintro ⟨r, hr, rfl, -⟩
  cases hplace : r.place with
  | element index =>
    have hfits := h.fits hr
    rw [Fits, hplace] at hfits
    rcases above_of_mem_rows hr with hnil | ⟨e, j, he, r', hr', href, habove⟩
    · rw [Row.owner, hnil] at hfits
      exact hfits.1 rfl
    · have hchild := (h.ref_mem_children_iff hr (List.mem_zipIdx_iff_getElem?.1 he)).2
        ⟨r', hr', href, habove⟩
      rw [hplace] at houtside hchild
      exact (houtside e (List.fst_mem_of_mem_zipIdx he)).2 hchild
  | heading number head =>
    obtain ⟨e, he, rfl, -⟩ := exists_heading_row_iff.1 ⟨r, hr, hplace, rfl⟩
    exact (houtside e (List.mem_of_getElem? he)).1 (by rw [hplace, Place.index])

/-- With an id that no heading has, there is nothing to toggle. -/
theorem toggleId?_eq_none {items : List Item} {id : Text}
    (h : ∀ e ∈ entries none 0 items, e.head.id ≠ id) : toggleId? id items = none := by
  have hnone : (entries none 0 items).findIdx? (·.head.id == id) = none :=
    List.findIdx?_eq_none_iff.2 fun e he => beq_false_of_ne (h e he)
  rw [← Option.map_eq_none_iff (f := Prod.snd), map_snd_toggleId? id none 0, hnone,
    Option.map_none]

/-- **What a reader does not see is what stands below a folded heading**, after any number of
clicks on headings that can be seen; what is outside the outline is always seen.  A toggle folds or
unfolds the first heading with the id, and with an id that no heading has changes nothing. -/
theorem hidden_iff_folded_above {elements : List ArticleElement} {items : List Item}
    (h : Clicked elements items) :
    (∀ index, isHidden items index = true ↔ ∃ k e ref, (entries none 0 items)[k]? = some e ∧
      e.folded = true ∧ Above (entries none 0 items) k ref ∧
        position (entries none 0 items) ref = index) ∧
    (∀ index, (∀ e ∈ entries none 0 items, e.head.element ≠ index ∧
      Ref.element index ∉ e.children) → isHidden items index = false) ∧
    (∀ id, (∀ e ∈ entries none 0 items, e.head.id ≠ id) →
      toggleId? id items = none ∧ press items id = items) ∧
    ∀ id k, number? id items = some k →
      entries none 0 (press items id) = (entries none 0 items).modify k Entry.toggle := by
  have houtlines := h.outlines
  refine ⟨fun index => ⟨fun hhidden => ?_, ?_⟩,
    fun index houtside => houtlines.isHidden_eq_false houtside, fun id hid => ?_,
    fun id k hk => by rw [press_of_number?_eq_some hk, entries_updateAt_toggle]⟩
  · obtain ⟨r, hr, rfl, hflag⟩ := isHidden_iff.1 hhidden
    rw [h.hidden_eq hr, houtlines.any_folded_iff hr] at hflag
    obtain ⟨k, e, he, hfolded, habove⟩ := hflag
    exact ⟨k, e, r.place.ref, he, hfolded, habove, Outlines.position_ref hr⟩
  · rintro ⟨k, e, ref, he, hfolded, habove, rfl⟩
    obtain ⟨r, hr, rfl⟩ := Outlines.exists_row_of_descends habove
    rw [Outlines.position_ref hr, houtlines.isHidden_eq hr, h.hidden_eq hr,
      houtlines.any_folded_iff hr]
    exact ⟨k, e, he, hfolded, habove⟩
  · have hnone := toggleId?_eq_none hid
    exact ⟨hnone, by rw [press, hnone, Option.map_none, Option.getD_none]⟩

/-- Unfolding an inner heading and folding the outer one hides what is below both. -/
theorem hidden_iff_folded_above_of_clicks :
    let items := press (press (build [.heading 2 (lit "a") (lit "a") false,
      .heading 3 (lit "b") (lit "b") true, .body]) (lit "b")) (lit "a")
    isHidden items 2 = true ∧ ∃ k e ref, (entries none 0 items)[k]? = some e ∧ e.folded = true ∧
      Above (entries none 0 items) k ref ∧ position (entries none 0 items) ref = 2 := by
  intro items
  have hclicked : Clicked _ items := .press (.press .build (by decide)) (by decide)
  have hhidden : isHidden items 2 = true := by decide
  exact ⟨hhidden, ((hidden_iff_folded_above hclicked).1 2).1 hhidden⟩

/-!
## A heading that is toggled twice

    ## a     folded              a       shown
    ### b                        b       hidden
      text                       text    hidden, but shown once `b` is toggled twice

Toggled twice, a heading is folded or unfolded as before.  What it reaches is then hidden if it is
folded and shown if it is not (`rows_updateAt_spread`), whatever was hidden before: so everything is
as before exactly if that was so (`Twice`), as it is for a heading that a reader sees.
-/

/-- Give what a heading reaches the state of the heading. -/
def Item.spread : Item → Item
  | .element index hidden => .element index hidden
  | .heading head hidden folded items =>
    .heading head hidden folded (Outline.setHidden folded items)

/-! ## Toggling twice -/

theorem setHidden_setHidden (hidden hidden' : Bool) (items : List Item) :
    setHidden hidden (setHidden hidden' items) = setHidden hidden items := by
  induction items using forest_induction with
  | nil => rfl
  | element index _ rest ih => rw [setHidden_element, setHidden_element, setHidden_element, ih]
  | heading head _ folded inner rest ihInner ih =>
    rw [setHidden_heading, setHidden_heading, setHidden_heading, ih]
    cases folded with
    | true => rfl
    | false =>
      rw [if_neg Bool.false_ne_true, if_neg Bool.false_ne_true, ihInner]
      rfl

/-- **A heading toggled twice gives what it reaches its own state.** -/
theorem updateAt_toggle_toggle (k : Nat) (items : List Item) :
    updateAt Item.toggle k (updateAt Item.toggle k items) = updateAt Item.spread k items := by
  induction k, items using number_induction with
  | nil k => rw [updateAt_nil, updateAt_nil, updateAt_nil]
  | element index hidden rest k ih =>
    rw [updateAt_element, updateAt_element, updateAt_element, ih]
  | self head hidden folded inner rest =>
    rw [updateAt_heading_zero, updateAt_heading_zero, Item.toggle, updateAt_heading_zero,
      Item.toggle, Item.spread, Bool.not_not, setHidden_setHidden]
  | inner head hidden folded inner rest k hk ih =>
    have hsizes := sizes_congr (bare_updateAt Item.bare_toggle k inner)
    rw [updateAt_heading_inner hk, updateAt_heading_inner hk, updateAt_heading_inner (hsizes ▸ hk),
      ih]
  | later head hidden folded inner rest k ih =>
    rw [updateAt_heading_later, updateAt_heading_later, updateAt_heading_later, ih]

theorem press_press_of_number?_eq_some {id : Text} {items : List Item} {k : Nat}
    (hk : number? id items = some k) :
    press (press items id) id = updateAt Item.spread k items := by
  have hagain : number? id (press items id) = some k := by
    rw [number?_congr (bare_press items id), hk]
  rw [press_of_number?_eq_some hagain, press_of_number?_eq_some hk, updateAt_toggle_toggle]

/-! ## What is folded -/

theorem conceal_updateAt {f : Item → Item}
    (hf : ∀ covered item, (f item).conceal covered = item.conceal covered) (covered : Bool)
    (k : Nat) (items : List Item) : conceal covered (updateAt f k items) = conceal covered items := by
  induction k, items using number_induction generalizing covered with
  | nil k => rw [updateAt_nil]
  | element index hidden rest k ih => rw [updateAt_element, conceal_element, conceal_element, ih]
  | self head hidden folded inner rest => rw [updateAt_heading_zero, conceal, hf, conceal]
  | inner head hidden folded inner rest k hk ih =>
    rw [updateAt_heading_inner hk, conceal_heading, conceal_heading, ih]
  | later head hidden folded inner rest k ih =>
    rw [updateAt_heading_later, conceal_heading, conceal_heading, ih]

theorem Item.conceal_spread (covered : Bool) (item : Item) :
    item.spread.conceal covered = item.conceal covered := by
  cases item with
  | element index hidden => rfl
  | heading head hidden folded items =>
    rw [Item.spread, Item.conceal, Item.conceal, conceal_setHidden]

theorem Item.bare_spread (item : Item) : item.spread.bare = item.bare := by
  cases item with
  | element index hidden => rfl
  | heading head hidden folded items => rw [Item.spread, Item.bare, Item.bare, bare_setHidden]

/-- **What is folded is as before.** -/
theorem entries_updateAt_spread (k : Nat) (items : List Item) :
    entries none 0 (updateAt Item.spread k items) = entries none 0 items := by
  rw [← entries_conceal false, conceal_updateAt Item.conceal_spread, entries_conceal]

/-! ## What is hidden -/

/-- A row with the given flag, if a heading reaches it. -/
def Row.touch (k : Nat) (hidden : Bool) (r : Row) : Row :=
  if descends not k r.above then { r with hidden } else r

section Touch

variable {above : List (Nat × Bool)} {n k : Nat} {items : List Item} {hidden : Bool} {r : Row}

theorem Row.touch_of_reached (h : descends not k above = true) (place : Place)
    (hidden hidden' : Bool) : Row.touch k hidden ⟨above, place, hidden'⟩ = ⟨above, place, hidden⟩ :=
  if_pos h

theorem Row.touch_of_not_reached (h : descends not k above = false) (place : Place)
    (hidden hidden' : Bool) : Row.touch k hidden ⟨above, place, hidden'⟩ = ⟨above, place, hidden'⟩ :=
  if_neg (Bool.eq_false_iff.1 h)

@[simp] theorem Row.place_touch (k : Nat) (hidden : Bool) (r : Row) :
    (r.touch k hidden).place = r.place := by
  rw [Row.touch]
  split <;> rfl

/-- A heading elsewhere touches no rows. -/
theorem map_touch_eq_self (habove : descends not k above = false)
    (hk : k < n ∨ n + sizes items ≤ k) :
    (rows above n items).map (Row.touch k hidden) = rows above n items :=
  (List.map_congr_left fun r hr =>
    Row.touch_of_not_reached (descends_rows_eq_false habove hk hr) r.place hidden r.hidden).trans
      (List.map_id _)

/-- **Hiding or showing what is below a heading touches the rows it reaches.** -/
theorem rows_setHidden (habove : descends not k above = true) (hk : k < n) :
    rows above n (setHidden hidden items) = (rows above n items).map (Row.touch k hidden) := by
  induction items using forest_induction generalizing above n with
  | nil => rfl
  | element index hidden' rest ih =>
    rw [setHidden_element, rows_element, rows_element, List.map_cons, ih habove hk,
      Row.touch_of_reached habove]
  | heading head hidden' folded inner rest ihInner ih =>
    have hne : (n == k) = false := beq_eq_false_iff_ne.2 (Nat.ne_of_gt hk)
    have hsizes : sizes (if folded then inner else setHidden hidden inner) = sizes inner := by
      split
      · rfl
      · exact sizes_congr (bare_setHidden hidden inner)
    have hinner : rows ((n, folded) :: above) (n + 1)
          (if folded then inner else setHidden hidden inner) =
        (rows ((n, folded) :: above) (n + 1) inner).map (Row.touch k hidden) := by
      cases folded with
      | true =>
        -- Neither the traversal nor the descent goes below a folded heading.
        have hstop : descends not k ((n, true) :: above) = false := by rw [descends, hne]; rfl
        rw [if_pos rfl, map_touch_eq_self hstop (.inl (Nat.lt_succ_of_lt hk))]
      | false =>
        have hpass : descends not k ((n, false) :: above) = true := by
          rw [descends, hne, habove]
          rfl
        rw [if_neg Bool.false_ne_true, ihInner hpass (Nat.lt_succ_of_lt hk)]
    rw [setHidden_heading, rows_heading, rows_heading, List.map_cons, List.map_append,
      Row.touch_of_reached habove, hsizes, hinner, ih habove (by omega)]

/-- **A heading toggled twice touches the rows it reaches** with its own state. -/
theorem rows_updateAt_spread {e : Entry} (habove : descends not (n + k) above = false)
    (he : (entries (nearest above) n items)[k]? = some e) :
    rows above n (updateAt Item.spread k items) =
      (rows above n items).map (Row.touch (n + k) e.folded) := by
  induction k, items using number_induction generalizing above n with
  | nil k => exact absurd he (by simp)
  | element index hidden' rest k ih =>
    rw [entries_element] at he
    rw [updateAt_element, rows_element, rows_element, List.map_cons, ih habove he,
      Row.touch_of_not_reached habove]
  | self head hidden' folded inner rest =>
    rw [entries_heading] at he
    obtain rfl := Option.some.inj he
    have hself : descends not n ((n, folded) :: above) = true := by
      rw [descends, beq_self_eq_true, Bool.true_or]
    have hsizes := sizes_congr (bare_setHidden folded inner)
    rw [Nat.add_zero n] at habove
    rw [Nat.add_zero n, updateAt_heading_zero, Item.spread, rows_heading, rows_heading,
      List.map_cons, List.map_append, Row.touch_of_not_reached habove, hsizes,
      rows_setHidden hself (Nat.lt_succ_self n), map_touch_eq_self habove (.inl (by omega))]
  | inner head hidden' folded inner rest k hk ih =>
    have hnumber : n + (k + 1) = n + 1 + k := by omega
    have hsizes := sizes_congr (bare_updateAt Item.bare_spread k inner)
    rw [getElem?_entries_inner hk] at he
    rw [hnumber] at habove ⊢
    rw [updateAt_heading_inner hk, rows_heading, rows_heading, List.map_cons, List.map_append,
      Row.touch_of_not_reached habove, hsizes, map_touch_eq_self habove (.inl (by omega)),
      ih (descends_cons_eq_false habove (by omega)) he]
  | later head hidden' folded inner rest k ih =>
    have hnumber : n + (k + sizes inner + 1) = n + (1 + sizes inner) + k := by omega
    rw [getElem?_entries_later] at he
    rw [hnumber] at habove ⊢
    rw [updateAt_heading_later, rows_heading, rows_heading, List.map_cons, List.map_append,
      Row.touch_of_not_reached habove,
      map_touch_eq_self (descends_cons_eq_false habove (by omega)) (.inr (by omega)),
      ih habove he]

end Touch

/-! ## As before -/

/-- **What toggling a heading twice does**: `items` is the outline before and `again` the one
after. -/
structure Twice (items again : List Item) (id : Text) : Prop where
  /-- What is folded is as before, and so is everything else but what is hidden. -/
  entries_eq : entries none 0 again = entries none 0 items
  /-- What the heading reaches is hidden if it is folded, and shown if it is not. -/
  reached : ∀ (k : Nat) (e : Entry) (ref : Ref), number? id items = some k →
    (entries none 0 items)[k]? = some e → Reaches (entries none 0 items) k ref →
      isHidden again (position (entries none 0 items) ref) = e.folded
  /-- The rest is hidden or shown as before. -/
  rest : ∀ index, (∀ k ref, number? id items = some k → Reaches (entries none 0 items) k ref →
    position (entries none 0 items) ref ≠ index) → isHidden again index = isHidden items index
  /-- So all is as before exactly if what the heading reaches was hidden as the heading says. -/
  restored_iff : (∀ index, isHidden again index = isHidden items index) ↔
    ∀ (k : Nat) (e : Entry) (ref : Ref), number? id items = some k →
      (entries none 0 items)[k]? = some e → Reaches (entries none 0 items) k ref →
        isHidden items (position (entries none 0 items) ref) = e.folded

/-- A heading that is not hidden gives what it reaches the state that should be. -/
theorem conceal_spread (head : Heading) (folded : Bool) (inner : List Item)
    (hinner : conceal folded inner = inner) :
    (Item.heading head false folded inner).spread.conceal false =
      (Item.heading head false folded inner).spread := by
  rw [Item.spread, Item.conceal, Bool.false_or, conceal_setHidden, ← hinner, setHidden_conceal,
    conceal_conceal]

/-- All is as before if a heading that can be clicked is clicked twice, after clicks of a reader. -/
theorem press_press_eq_self {elements : List ArticleElement} {items : List Item} {id : Text}
    (h : Clicked elements items) (hclickable : clickable items id = true) :
    press (press items id) id = items := by
  cases hk : number? id items with
  | none => rw [press_of_number?_eq_none hk, press_of_number?_eq_none hk]
  | some k =>
    -- What is hidden afterwards and what was hidden before can be told from what is folded.
    have hshown := conceal_updateAt_of_visible conceal_spread h.conceal_eq_self
      (hidden_eq_false_of_clickable hclickable hk)
    rw [press_press_of_number?_eq_some hk, ← hshown, conceal_updateAt Item.conceal_spread,
      h.conceal_eq_self]

section Twice

variable {elements : List ArticleElement} {items : List Item} {id : Text} {k : Nat} {e : Entry}

/-- The rows after a heading is toggled twice. -/
theorem rows_press_press (hk : number? id items = some k)
    (he : (entries none 0 items)[k]? = some e) :
    rows [] 0 (press (press items id) id) = (rows [] 0 items).map (Row.touch k e.folded) := by
  rw [press_press_of_number?_eq_some hk, rows_updateAt_spread rfl he, Nat.zero_add]

theorem exists_entry_of_number? (hk : number? id items = some k) :
    ∃ e, (entries none 0 items)[k]? = some e :=
  ⟨_, List.getElem?_eq_getElem (List.findIdx?_eq_some_iff_getElem.1 hk).1⟩

theorem Outlines.isHidden_of_reached (h : Outlines elements items)
    (hk : number? id items = some k) (he : (entries none 0 items)[k]? = some e) {ref : Ref}
    (hreaches : Reaches (entries none 0 items) k ref) :
    isHidden (press (press items id) id) (position (entries none 0 items) ref) = e.folded := by
  have hagain : Outlines elements (press (press items id) id) :=
    (bare_press _ id).trans ((bare_press items id).trans h)
  obtain ⟨r, hr, rfl⟩ := exists_row_of_descends hreaches
  have hmem : r.touch k e.folded ∈ rows [] 0 (press (press items id) id) :=
    rows_press_press hk he ▸ List.mem_map_of_mem hr
  have htouch : (r.touch k e.folded).hidden = e.folded := by
    rw [Row.touch, if_pos ((h.descends_iff hr).1 hreaches)]
  rw [position_ref hr, ← r.place_touch k e.folded, hagain.isHidden_eq hmem, htouch]

theorem Outlines.isHidden_of_not_reached (h : Outlines elements items)
    (hk : number? id items = some k) {index : Nat}
    (hrest : ∀ ref, Reaches (entries none 0 items) k ref →
      position (entries none 0 items) ref ≠ index) :
    isHidden (press (press items id) id) index = isHidden items index := by
  obtain ⟨e, he⟩ := exists_entry_of_number? hk
  have hsame : ∀ r ∈ rows [] 0 items, r.place.index = index → r.touch k e.folded = r := by
    rintro r hr rfl
    have hnot : ¬ descends not k r.above = true := fun hdescends =>
      hrest r.place.ref ((h.descends_iff hr).2 hdescends) (position_ref hr)
    rw [Row.touch, if_neg hnot]
  rw [Bool.eq_iff_iff, isHidden_iff, isHidden_iff, rows_press_press hk he]
  constructor
  · rintro ⟨_, hmem, hindex, hhidden⟩
    obtain ⟨r, hr, rfl⟩ := List.mem_map.1 hmem
    rw [r.place_touch] at hindex
    exact ⟨r, hr, hindex, hsame r hr hindex ▸ hhidden⟩
  · rintro ⟨r, hr, hindex, hhidden⟩
    exact ⟨r, hsame r hr hindex ▸ List.mem_map_of_mem hr, hindex, hhidden⟩

/-- **Toggling a heading twice** does so in every outline of an article. -/
theorem Outlines.twice (h : Outlines elements items) (id : Text) :
    Twice items (press (press items id) id) id := by
  cases hk : number? id items with
  | none =>
    have hagain : press (press items id) id = items := by
      rw [press_of_number?_eq_none hk, press_of_number?_eq_none hk]
    rw [hagain]
    have hno {k : Nat} : number? id items ≠ some k := hk ▸ (Option.some_ne_none k).symm
    exact ⟨rfl, fun k e ref hk' => absurd hk' hno, fun _ _ => rfl,
      iff_of_true (fun _ => rfl) fun k e ref hk' => absurd hk' hno⟩
  | some k =>
    have hreached : ∀ (k : Nat) (e : Entry) (ref : Ref), number? id items = some k →
        (entries none 0 items)[k]? = some e → Reaches (entries none 0 items) k ref →
          isHidden (press (press items id) id) (position (entries none 0 items) ref) = e.folded :=
      fun k e ref hk he hreaches => h.isHidden_of_reached hk he hreaches
    refine ⟨?_, hreached, fun index hrest => h.isHidden_of_not_reached hk fun ref => hrest k ref hk,
      fun hall k e ref hk he hreaches => ?_, fun hall index => ?_⟩
    · rw [press_press_of_number?_eq_some hk, entries_updateAt_spread]
    · rw [← hall, hreached k e ref hk he hreaches]
    · by_cases hindex : ∃ ref, Reaches (entries none 0 items) k ref ∧
          position (entries none 0 items) ref = index
      · obtain ⟨ref, hreaches, rfl⟩ := hindex
        obtain ⟨e, he⟩ := exists_entry_of_number? hk
        rw [hreached k e ref hk he hreaches, hall k e ref hk he hreaches]
      · exact h.isHidden_of_not_reached hk fun ref hreaches hposition =>
          hindex ⟨ref, hreaches, hposition⟩

end Twice

/-- **Toggling a heading twice restores what is folded**, in every outline that toggles of any
headings come to, and what is hidden but for what the heading reaches; for a reader, who clicks
headings that are not hidden, it restores everything. -/
theorem press_press (elements : List ArticleElement) (ids : List Text) (id : Text) :
    let items := pressAll (build elements) ids
    Twice items (press (press items id) id) id ∧
      (Clicked elements items → clickable items id = true → press (press items id) id = items) := by
  intro items
  have houtlines : Outlines elements items := (bare_pressAll _ ids).trans (outlines_build elements)
  exact ⟨houtlines.twice id, fun hclicked => press_press_eq_self hclicked⟩

/-- Toggling `b` twice shows the text below it, though `a` is folded. -/
theorem not_press_press_of_hidden :
    ¬ ∀ (elements : List ArticleElement) (ids : List Text) (id : Text),
      let items := pressAll (build elements) ids
      (∀ index, isHidden (press (press items id) id) index = isHidden items index) ∧
        (entries none 0 (press (press items id) id)).map Entry.folded =
          (entries none 0 items).map Entry.folded := by
  intro h
  have hhidden := (h [.heading 2 (lit "a") (lit "a") true, .heading 3 (lit "b") (lit "b") false,
    .body] [] (lit "b")).1 2
  exact absurd hhidden (by decide)

end WikiPress.Outline
