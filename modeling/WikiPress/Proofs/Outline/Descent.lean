import WikiPress.Proofs.Outline.Nesting

/-!
# Proofs/Outline/Descent — what lies below a heading

    ## a
    ### b
    #### c          above: b, a

From `a` a descent comes to `c` through `b`, if it passes `b` at all: a reader who looks for what
belongs to `a` passes every heading, and folding passes the unfolded ones only (`Descends`).  In the
list of rows a descent is a walk along the headings above a row (`Outlines.descends_iff`).
-/

namespace WikiPress.Outline

/-! ## Descents -/

/-- **What a descent from a heading comes to**: its children, and the children of the headings it
comes to and passes.  Whether it passes a heading depends on whether that is folded. -/
inductive Descends (es : List Entry) (pass : Bool → Bool) (k : Nat) : Ref → Prop
  | child {e : Entry} {ref : Ref} (he : es[k]? = some e) (h : ref ∈ e.children) :
    Descends es pass k ref
  | inner {j : Nat} {e : Entry} {ref : Ref} (hj : Descends es pass k (.heading j))
    (he : es[j]? = some e) (hpass : pass e.folded = true) (h : ref ∈ e.children) :
    Descends es pass k ref

/-- **A heading stands above** everything below it. -/
def Above (es : List Entry) (k : Nat) (ref : Ref) : Prop := Descends es (fun _ => true) k ref

/-- **A heading reaches** what is below it with no folded heading in between. -/
def Reaches (es : List Entry) (k : Nat) (ref : Ref) : Prop := Descends es not k ref

/-- Whether a descent from a heading comes to what has some headings above it. -/
def descends (pass : Bool → Bool) (k : Nat) : List (Nat × Bool) → Bool
  | [] => false
  | (j, folded) :: outer => j == k || (pass folded && descends pass k outer)

section Rows

variable {above : List (Nat × Bool)} {n k : Nat} {items : List Item} {pass : Bool → Bool} {r : Row}

/-- **The headings above a row** are those above its owner and the owner. -/
theorem above_of_mem_rows (hr : r ∈ rows above n items) :
    r.above = above ∨ ∃ e j, (e, j) ∈ (entries (nearest above) n items).zipIdx n ∧
      ∃ r' ∈ rows above n items, r'.place.ref = .heading j ∧ r.above = (j, e.folded) :: r'.above := by
  induction items using forest_induction generalizing above n with
  | nil => exact absurd hr List.not_mem_nil
  | element index hidden rest ih =>
    rw [rows_element, List.mem_cons] at hr
    rw [entries_element, rows_element]
    rcases hr with rfl | hr
    · exact .inl rfl
    · refine (ih hr).imp_right fun ⟨e, j, he, r', hr', href, habove⟩ => ?_
      exact ⟨e, j, he, r', List.mem_cons_of_mem _ hr', href, habove⟩
  | heading head hidden folded inner rest ihInner ih =>
    rw [rows_heading, List.mem_cons, List.mem_append] at hr
    rw [entries_heading, rows_heading, List.zipIdx_cons, List.zipIdx_append, length_entries,
      Nat.add_assoc n]
    rcases hr with rfl | hr | hr
    · exact .inl rfl
    · refine .inr ?_
      rcases ihInner hr with habove | ⟨e, j, he, r', hr', href, habove⟩
      · exact ⟨_, n, List.mem_cons_self, _, List.mem_cons_self, rfl, habove⟩
      · exact ⟨e, j, List.mem_cons_of_mem _ (List.mem_append_left _ he), r',
          List.mem_cons_of_mem _ (List.mem_append_left _ hr'), href, habove⟩
    · refine (ih hr).imp_right fun ⟨e, j, he, r', hr', href, habove⟩ => ?_
      exact ⟨e, j, List.mem_cons_of_mem _ (List.mem_append_right _ he), r',
        List.mem_cons_of_mem _ (List.mem_append_right _ hr'), href, habove⟩

theorem eq_cons_of_mem_rows {j : Nat} {folded : Bool} {outer : List (Nat × Bool)}
    (hr : r ∈ rows [] 0 items) (habove : r.above = (j, folded) :: outer) :
    ∃ e, (entries none 0 items)[j]? = some e ∧ e.folded = folded ∧
      ∃ r' ∈ rows [] 0 items, r'.place.ref = .heading j ∧ r'.above = outer := by
  rcases above_of_mem_rows hr with hnil | ⟨e, i, he, r', hr', href, hcons⟩
  · exact absurd (habove.symm.trans hnil) (List.cons_ne_nil _ _)
  · obtain ⟨hfirst, rfl⟩ := List.cons.inj (habove.symm.trans hcons)
    obtain ⟨rfl, rfl⟩ := Prod.mk.inj hfirst
    exact ⟨e, List.mem_zipIdx_iff_getElem?.1 he, rfl, r', hr', href, rfl⟩

/-- A descent that does not come to a heading does not come to what is right below it. -/
theorem descends_cons_eq_false {j : Nat} {folded : Bool} (habove : descends pass k above = false)
    (hne : j ≠ k) : descends pass k ((j, folded) :: above) = false := by
  rw [descends, habove, Bool.and_false, Bool.or_false, beq_eq_false_iff_ne]
  exact hne

/-- No descent from a heading elsewhere comes to the rows of an outline. -/
theorem descends_rows_eq_false (habove : descends pass k above = false)
    (hk : k < n ∨ n + sizes items ≤ k) (hr : r ∈ rows above n items) :
    descends pass k r.above = false := by
  induction items using forest_induction generalizing above n with
  | nil => exact absurd hr List.not_mem_nil
  | element index hidden rest ih =>
    rw [rows_element, List.mem_cons] at hr
    rw [sizes_element] at hk
    rcases hr with rfl | hr
    · exact habove
    · exact ih habove hk hr
  | heading head hidden folded inner rest ihInner ih =>
    rw [rows_heading, List.mem_cons, List.mem_append] at hr
    rw [sizes_heading] at hk
    rcases hr with rfl | hr | hr
    · exact habove
    · exact ihInner (descends_cons_eq_false habove (by omega)) (by omega) hr
    · exact ih habove (by omega) hr

end Rows

namespace Outlines

variable {elements : List ArticleElement} {items : List Item} {pass : Bool → Bool} {k : Nat}
  {r : Row}

theorem eq_of_ref (h : Outlines elements items) {r' : Row} (hr : r ∈ rows [] 0 items)
    (hr' : r' ∈ rows [] 0 items) (href : r.place.ref = r'.place.ref) : r = r' :=
  List.inj_on_of_nodup_map h.nodup_ref hr hr' href

/-- A row is a child of a heading that stands first above it. -/
theorem ref_mem_children_iff (h : Outlines elements items) (hr : r ∈ rows [] 0 items) {j : Nat}
    {e : Entry} (he : (entries none 0 items)[j]? = some e) :
    r.place.ref ∈ e.children ↔ ∃ r' ∈ rows [] 0 items, r'.place.ref = .heading j ∧
      r.above = (j, e.folded) :: r'.above := by
  rw [mem_children_iff he]
  constructor
  · rintro ⟨r', hr', href, howner⟩
    obtain rfl := h.eq_of_ref hr' hr href
    rw [Row.owner, nearest, Option.map_eq_some_iff] at howner
    obtain ⟨⟨i, folded⟩, hfirst, rfl⟩ := howner
    obtain ⟨outer, habove⟩ := List.head?_eq_some_iff.1 hfirst
    obtain ⟨e', he', rfl, r'', hr'', href', rfl⟩ := eq_cons_of_mem_rows hr habove
    obtain rfl := Option.some.inj (he.symm.trans he')
    exact ⟨r'', hr'', href', habove⟩
  · rintro ⟨r', -, -, habove⟩
    exact ⟨r, hr, rfl, by rw [Row.owner, habove]; rfl⟩

/-- **A descent is a walk along the headings above a row.** -/
theorem descends_iff (h : Outlines elements items) (hr : r ∈ rows [] 0 items) :
    Descends (entries none 0 items) pass k r.place.ref ↔ descends pass k r.above = true := by
  constructor
  · generalize href : r.place.ref = ref
    intro hdescends
    induction hdescends generalizing r with
    | child he hchild =>
      obtain ⟨r', -, -, habove⟩ := (h.ref_mem_children_iff hr he).1 (href ▸ hchild)
      rw [habove, descends, beq_self_eq_true, Bool.true_or]
    | inner _ he hpass hchild ih =>
      obtain ⟨r', hr', href', habove⟩ := (h.ref_mem_children_iff hr he).1 (href ▸ hchild)
      rw [habove, descends, hpass, ih hr' href', Bool.and_true, Bool.or_true]
  · intro hdescends
    generalize habove : r.above = above at hdescends
    induction above generalizing r with
    | nil => exact absurd hdescends nofun
    | cons m outer ih =>
      obtain ⟨j, folded⟩ := m
      obtain ⟨e, he, rfl, r', hr', href', rfl⟩ := eq_cons_of_mem_rows hr habove
      have hchild := (h.ref_mem_children_iff hr he).2 ⟨r', hr', href', habove⟩
      rw [descends, Bool.or_eq_true, Bool.and_eq_true, beq_iff_eq] at hdescends
      rcases hdescends with rfl | ⟨hpass, hdescends⟩
      · exact .child he hchild
      · exact .inner (href' ▸ ih hr' rfl hdescends) he hpass hchild

/-- What a descent comes to has a row. -/
theorem exists_row_of_descends {ref : Ref}
    (hdescends : Descends (entries none 0 items) pass k ref) :
    ∃ r ∈ rows [] 0 items, r.place.ref = ref := by
  cases hdescends with
  | child he hchild | inner _ he _ hchild =>
    obtain ⟨r, hr, href, -⟩ := (mem_children_iff he).1 hchild
    exact ⟨r, hr, href⟩

/-- **A row is below a folded heading** exactly if one of the headings above it is folded. -/
theorem any_folded_iff (h : Outlines elements items) (hr : r ∈ rows [] 0 items) :
    r.above.any Prod.snd = true ↔ ∃ k e, (entries none 0 items)[k]? = some e ∧ e.folded = true ∧
      Above (entries none 0 items) k r.place.ref := by
  simp only [Above, h.descends_iff hr]
  generalize habove : r.above = above
  induction above generalizing r with
  | nil => simp [descends]
  | cons m outer ih =>
    obtain ⟨j, folded⟩ := m
    obtain ⟨e, he, rfl, r', hr', -, rfl⟩ := eq_cons_of_mem_rows hr habove
    rw [List.any_cons, Bool.or_eq_true, ih hr' rfl]
    constructor
    · rintro (hfolded | ⟨k, c, hc, hfolded, hdescends⟩)
      · exact ⟨j, e, he, hfolded, by rw [descends, beq_self_eq_true, Bool.true_or]⟩
      · exact ⟨k, c, hc, hfolded, by rw [descends, hdescends, Bool.and_true, Bool.or_true]⟩
    · rintro ⟨k, c, hc, hfolded, hdescends⟩
      rw [descends, Bool.true_and, Bool.or_eq_true, beq_iff_eq] at hdescends
      rcases hdescends with rfl | hdescends
      · exact .inl (Option.some.inj (he.symm.trans hc) ▸ hfolded)
      · exact .inr ⟨k, c, hc, hfolded, hdescends⟩

/-- **The flag of a row** is that of the element at its position. -/
theorem isHidden_eq (h : Outlines elements items) (hr : r ∈ rows [] 0 items) :
    isHidden items r.place.index = r.hidden := by
  rw [Bool.eq_iff_iff, isHidden_iff]
  constructor
  · rintro ⟨r', hr', hindex, hhidden⟩
    rw [List.inj_on_of_nodup_map (h.pairwise_index.imp Nat.ne_of_lt) hr hr' hindex.symm]
    exact hhidden
  · exact fun hhidden => ⟨r, hr, rfl, hhidden⟩

end Outlines

end WikiPress.Outline
