import WikiPress.Outline.Contents
import WikiPress.Proofs.Outline.Nesting
import Mathlib.Algebra.Order.Floor.Div
import Mathlib.Data.List.Chain

/-!
# Proofs/Outline/Contents — the columns of the table of contents

    weights   3 4 │ 2 1 2 │ 5 1 1        nineteen headings: the target is a third of them, 7
              ≤ 7 │ ≤ 7   │ the rest     3 + 4 + 2 and 2 + 1 + 2 + 5 are above it

The columns hold the entries of the headings on top in order, each with those of the headings below
it (`showsAll_contents`), so they show every heading once, in order (`labels_contents`).  A column
ends where the next entry would make it heavier than the target, unless it is the last one there may
be; the weight of the column that is being filled is kept beside it (`Filling.laidOut`).
-/

namespace WikiPress.Outline

/-! ## What entries show -/

mutual

/-- The ids and texts that an entry shows, its own first. -/
def ContentsEntry.labels : ContentsEntry → List (Text × Text)
  | .entry id text children => (id, text) :: labels children

/-- **The ids and texts that entries show**, in the order of reading. -/
def labels : List ContentsEntry → List (Text × Text)
  | [] => []
  | e :: rest => e.labels ++ labels rest

end

/-- The id and the text of a heading. -/
def Heading.label (head : Heading) : Text × Text := (head.id, head.text)

mutual

/-- **An entry of the table of contents shows the heading with a number**, and its children show the
headings right below it. -/
inductive Shows (es : List Entry) : Nat → ContentsEntry → Prop
  | entry {k : Nat} {e : Entry} {children : List ContentsEntry} (he : es[k]? = some e)
      (hchildren : ShowsAll es e.children children) :
      Shows es k (.entry e.head.id e.head.text children)

/-- Entries show the headings among some references, and nothing for the other elements. -/
inductive ShowsAll (es : List Entry) : List Ref → List ContentsEntry → Prop
  | nil : ShowsAll es [] []
  | element {index : Nat} {rest : List Ref} {shown : List ContentsEntry}
      (hrest : ShowsAll es rest shown) : ShowsAll es (.element index :: rest) shown
  | heading {k : Nat} {c : ContentsEntry} {rest : List Ref} {shown : List ContentsEntry}
      (hfirst : Shows es k c) (hrest : ShowsAll es rest shown) :
      ShowsAll es (.heading k :: rest) (c :: shown)

end

theorem contents_nil : contents [] = [] := by rw [contents]

theorem contents_element (index : Nat) (hidden : Bool) (rest : List Item) :
    contents (.element index hidden :: rest) = contents rest := by rw [contents]

theorem contents_heading (head : Heading) (hidden folded : Bool) (inner rest : List Item) :
    contents (.heading head hidden folded inner :: rest) =
      .entry head.id head.text (contents inner) :: contents rest := by rw [contents]

/-- **The entries show the headings of the outline** in order, -/
theorem labels_contents (parent : Option Nat) (n : Nat) (items : List Item) :
    labels (contents items) = (entries parent n items).map (·.head.label) := by
  induction items using forest_induction generalizing parent n with
  | nil => rw [contents_nil, labels, entries_nil, List.map_nil]
  | element index hidden rest ih => rw [contents_element, entries_element, ih parent n]
  | heading head hidden folded inner rest ihInner ih =>
    rw [contents_heading, entries_heading, labels, ContentsEntry.labels,
      ihInner (some n) (n + 1), ih parent (n + (1 + sizes inner)), List.map_cons, List.map_append]
    rfl

/-- …as many as it has, -/
theorem weights_contents (items : List Item) : weights (contents items) = sizes items := by
  induction items using forest_induction with
  | nil => rw [contents_nil, weights, sizes_nil]
  | element index hidden rest ih => rw [contents_element, sizes_element, ih]
  | heading head hidden folded inner rest ihInner ih =>
    rw [contents_heading, weights, ContentsEntry.weight, ihInner, ih, sizes_heading]

/-- …and nested as it is.  The headings are those of `es` from number `n` on. -/
theorem showsAll_contents {es : List Entry} {parent : Option Nat} {n : Nat} {items : List Item}
    (hes : ∀ i < sizes items, es[n + i]? = (entries parent n items)[i]?) :
    ShowsAll es (refs n items) (contents items) := by
  induction items using forest_induction generalizing parent n with
  | nil =>
    rw [contents_nil, refs]
    exact .nil
  | element index hidden rest ih =>
    rw [contents_element, refs_element]
    rw [sizes_element, entries_element] at hes
    exact .element (ih hes)
  | heading head hidden folded inner rest ihInner ih =>
    rw [sizes_heading] at hes
    have hself : es[n]? = some ⟨head, folded, parent, refs (n + 1) inner⟩ := by
      have hfirst := hes 0 (by omega)
      rwa [Nat.add_zero, entries_heading] at hfirst
    have hinner : ∀ i < sizes inner, es[n + 1 + i]? = (entries (some n) (n + 1) inner)[i]? := by
      intro i hi
      have hnext := hes (i + 1) (by omega)
      rwa [getElem?_entries_inner hi, Nat.add_comm i, ← Nat.add_assoc] at hnext
    have hrest : ∀ i < sizes rest, es[n + (1 + sizes inner) + i]? =
        (entries parent (n + (1 + sizes inner)) rest)[i]? := by
      intro i hi
      have hlater := hes (i + sizes inner + 1) (by omega)
      have hnumber : n + (i + sizes inner + 1) = n + (1 + sizes inner) + i := by omega
      rwa [getElem?_entries_later, hnumber] at hlater
    rw [contents_heading, refs_heading]
    exact .heading (.entry hself (ihInner hinner)) (ih hrest)

theorem weights_append (es es' : List ContentsEntry) :
    weights (es ++ es') = weights es + weights es' := by
  induction es with
  | nil => rw [List.nil_append, weights, Nat.zero_add]
  | cons e es ih => rw [List.cons_append, weights, weights, ih, Nat.add_assoc]

theorem weights_flatten (columns : List (List ContentsEntry)) :
    weights columns.flatten = (columns.map weights).sum := by
  induction columns with
  | nil => rfl
  | cons column columns ih => rw [List.flatten_cons, weights_append, ih, List.map_cons, List.sum_cons]

/-! ## Columns -/

/-- A column that is not heavier than it should be, or cannot be lighter. -/
def IsLight (target : Nat) (column : List ContentsEntry) : Prop :=
  weights column ≤ target ∨ column.length = 1

/-- The first entry of a column would have made the column before it too heavy. -/
def Overflows (target : Nat) (column next : List ContentsEntry) : Prop :=
  ∃ e ∈ next.head?, target < weights column + e.weight

/-- **Entries laid out in columns** for a target weight. -/
structure LaidOut (target : Nat) (columns : List (List ContentsEntry)) : Prop where
  /-- There are one to three columns, none of which is empty. -/
  ne_nil : columns ≠ []
  length_le : columns.length ≤ 3
  forall_ne_nil : ∀ column ∈ columns, column ≠ []
  /-- All but the third are not heavier than the target, or hold a single entry. -/
  light : ∀ column ∈ columns.take 2, IsLight target column
  /-- A column follows another one only where its first entry had no room. -/
  overflows : columns.IsChain (Overflows target)

/-- **The columns while they are filled**: `full` are those before the current one, the last first,
and `used` is the weight of the current one as long as another one may follow. -/
structure Filling (target used : Nat) (full : List (List ContentsEntry))
    (current : List ContentsEntry) : Prop where
  length_lt : full.length < 3
  forall_ne_nil : ∀ column ∈ full, column ≠ []
  eq_nil : current = [] → full = []
  light : ∀ column ∈ full, IsLight target column
  used_eq : full.length < 2 → used = weights current.reverse
  current_light : full.length < 2 → IsLight target current.reverse
  overflows : (current.reverse :: full).IsChain fun next column => Overflows target column next

variable {target used : Nat} {full : List (List ContentsEntry)} {current es : List ContentsEntry}
  {e : ContentsEntry}

theorem filling_nil (target : Nat) : Filling target 0 [] [] where
  length_lt := by decide
  forall_ne_nil := nofun
  eq_nil _ := rfl
  light := nofun
  used_eq _ := rfl
  current_light _ := .inl (Nat.zero_le _)
  overflows := List.isChain_singleton _

theorem isLight_singleton (target : Nat) (e : ContentsEntry) : IsLight target [e] := .inr rfl

theorem Overflows.append {column next : List ContentsEntry} (h : Overflows target column next)
    (es : List ContentsEntry) : Overflows target column (next ++ es) := by
  obtain ⟨e, he, hlt⟩ := h
  exact ⟨e, List.mem_head?_append_of_mem_head? he, hlt⟩

namespace Filling

/-- An entry is put into the current column if it has room, -/
theorem put (h : Filling target used full current) (hroom : used + e.weight ≤ target) :
    Filling target (used + e.weight) full (e :: current) where
  length_lt := h.length_lt
  forall_ne_nil := h.forall_ne_nil
  eq_nil := nofun
  light := h.light
  used_eq hlt := by rw [List.reverse_cons, weights_append, ← h.used_eq hlt, weights, weights]; rfl
  current_light hlt := .inl <| by
    rw [List.reverse_cons, weights_append, ← h.used_eq hlt, weights, weights]
    exact hroom
  overflows := by
    rw [List.reverse_cons]
    exact h.overflows.imp_head fun hover => hover.append [e]

/-- …or if there may be no other column; -/
theorem force (h : Filling target used full current) (hlast : current = [] ∨ full.length = 2) :
    Filling target e.weight full (e :: current) where
  length_lt := h.length_lt
  forall_ne_nil := h.forall_ne_nil
  eq_nil := nofun
  light := h.light
  used_eq hlt := by
    obtain rfl := hlast.resolve_right (Nat.ne_of_lt hlt)
    rw [List.reverse_singleton, weights, weights]
    rfl
  current_light hlt := by
    obtain rfl := hlast.resolve_right (Nat.ne_of_lt hlt)
    exact isLight_singleton target e
  overflows := by
    rw [List.reverse_cons]
    exact h.overflows.imp_head fun hover => hover.append [e]

/-- …else it begins the next one. -/
theorem next (h : Filling target used full current) (hroom : target < used + e.weight)
    (hcurrent : current ≠ []) (hlt : full.length < 2) :
    Filling target e.weight (current.reverse :: full) [e] where
  length_lt := Nat.succ_lt_succ hlt
  forall_ne_nil := List.forall_mem_cons.2 ⟨by simpa using hcurrent, h.forall_ne_nil⟩
  eq_nil := nofun
  light := List.forall_mem_cons.2 ⟨h.current_light hlt, h.light⟩
  used_eq _ := by
    rw [List.reverse_singleton, weights, weights]
    rfl
  current_light _ := isLight_singleton target e
  overflows := List.isChain_cons_cons.2
    ⟨⟨e, rfl, by rwa [← h.used_eq hlt]⟩, h.overflows⟩

/-- Columns that are filled are laid out. -/
theorem laidOut_of_ne_nil (h : Filling target used full current) (hcurrent : current ≠ []) :
    LaidOut target (current.reverse :: full).reverse where
  ne_nil := by simp
  length_le := by
    rw [List.length_reverse, List.length_cons]
    exact h.length_lt
  forall_ne_nil column hcolumn := by
    rw [List.mem_reverse, List.mem_cons] at hcolumn
    rcases hcolumn with rfl | hcolumn
    · simpa using hcurrent
    · exact h.forall_ne_nil column hcolumn
  light column hcolumn := by
    rw [List.reverse_cons, List.take_append, List.mem_append] at hcolumn
    rcases hcolumn with hcolumn | hcolumn
    · exact h.light column (List.mem_reverse.1 (List.mem_of_mem_take hcolumn))
    · have hlt : full.length < 2 := by
        have hpos := List.length_pos_of_mem hcolumn
        rw [List.length_take, List.length_reverse] at hpos
        omega
      rw [List.mem_singleton.1 (List.mem_of_mem_take hcolumn)]
      exact h.current_light hlt
  overflows := List.isChain_reverse.2 h.overflows

/-- **Entries put one after the other are laid out.** -/
theorem laidOut (h : Filling target used full current) (hne : current ≠ [] ∨ es ≠ []) :
    LaidOut target (layOut target used full current es) := by
  induction es generalizing used full current with
  | nil => exact h.laidOut_of_ne_nil (hne.resolve_right fun hnil => hnil rfl)
  | cons e es ih =>
    have hiff : (!current.isEmpty && decide (full.length + 1 < maxColumns)) = true ↔
        current ≠ [] ∧ full.length < 2 := by
      rw [Bool.and_eq_true, Bool.not_eq_true', List.isEmpty_eq_false_iff, decide_eq_true_iff,
        maxColumns, Nat.succ_lt_succ_iff]
    rw [layOut]
    split_ifs with hroom hnext
    · obtain ⟨hcurrent, hlt⟩ := hiff.1 hnext
      exact ih (h.next hroom hcurrent hlt) (.inl (List.cons_ne_nil _ _))
    · have hlast : current = [] ∨ full.length = 2 := by
        have hlt := h.length_lt
        by_contra hnot
        rw [not_or] at hnot
        exact hnext (hiff.2 ⟨hnot.1, by omega⟩)
      exact ih (h.force hlast) (.inl (List.cons_ne_nil _ _))
    · exact ih (h.put (Nat.not_lt.1 hroom)) (.inl (List.cons_ne_nil _ _))

end Filling

/-- Laying out keeps the entries in order. -/
theorem flatten_layOut (target used : Nat) (full : List (List ContentsEntry))
    (current es : List ContentsEntry) : (layOut target used full current es).flatten =
      full.reverse.flatten ++ current.reverse ++ es := by
  induction es generalizing used full current with
  | nil => simp [layOut]
  | cons e es ih =>
    rw [layOut]
    split_ifs <;> simp [ih]

/-! ## The table of contents -/

/-- The target is all, a half or a third of the headings, rounded up. -/
theorem columnTarget_eq (n : Nat) :
    columnTarget n = if n ≤ 7 then n else if n ≤ 11 then n ⌈/⌉ 2 else n ⌈/⌉ 3 := by
  rw [columnTarget, Nat.ceilDiv_eq_add_pred_div, Nat.ceilDiv_eq_add_pred_div]
  rfl

/-- The entries of the columns. -/
theorem map_entries_columns {items : List Item} (h : sizes items ≠ 0) :
    (columns items).map Column.entries =
      layOut (columnTarget (sizes items)) 0 [] [] (contents items) := by
  have htotal : (weights (contents items) == 0) = false := by
    rw [weights_contents]
    exact beq_false_of_ne h
  rw [columns, htotal, if_neg Bool.false_ne_true, List.map_map, weights_contents]
  exact List.zipIdx_map_fst 0 _

/-- **The layout of the table of contents.**  The headings of an article, folded and unfolded in
whatever way, are laid out in columns for a target that their number tells.  The columns hold the
entries of the headings on top in order, and show every heading once, in the order of the article. -/
theorem columns_laidOut (elements : List ArticleElement) (ids : List Text)
    (h : entries none 0 (pressAll (build elements) ids) ≠ []) :
    let items := pressAll (build elements) ids
    let es := entries none 0 items
    let n := es.length
    let shown := (columns items).map Column.entries
    LaidOut (if n ≤ 7 then n else if n ≤ 11 then n ⌈/⌉ 2 else n ⌈/⌉ 3) shown ∧
      ShowsAll es (refs 0 items) shown.flatten ∧
      labels shown.flatten = es.map (·.head.label) ∧
      (shown.map weights).sum = n ∧
      es.map Entry.head = headings elements := by
  intro items es n shown
  have houtlines : Outlines elements items := (bare_pressAll _ ids).trans (outlines_build elements)
  have hn : n = sizes items := length_entries none 0 items
  have hpos : sizes items ≠ 0 := hn ▸ fun hzero => h (List.length_eq_zero_iff.1 hzero)
  have hshown : shown = layOut (columnTarget n) 0 [] [] (contents items) := by
    rw [hn]
    exact map_entries_columns hpos
  have hflatten : shown.flatten = contents items := by
    rw [hshown, flatten_layOut]
    rfl
  have hne : contents items ≠ [] := fun hnil => hpos (by rw [← weights_contents, hnil, weights])
  refine ⟨?_, ?_, ?_, ?_, houtlines.map_head_entries⟩
  · rw [hshown, ← columnTarget_eq]
    exact (filling_nil _).laidOut (.inr hne)
  · rw [hflatten]
    exact showsAll_contents fun i _ => by rw [Nat.zero_add]
  · rw [hflatten]
    exact labels_contents none 0 items
  · rw [← weights_flatten, hflatten, weights_contents, hn]

/-- Nine headings, four of them on top, for columns of five. -/
theorem columns_laidOut_of_nine :
    let elements := [2, 3, 3, 2, 2, 3, 4, 3, 2].map fun level =>
      ArticleElement.heading level (Text.ofNat level) [] false
    let items := pressAll (build elements) [lit "2"]
    entries none 0 items ≠ [] ∧ LaidOut 5 ((columns items).map Column.entries) ∧
      (((columns items).map Column.entries).map weights).sum = 9 := by
  intro elements items
  have hne : entries none 0 items ≠ [] := by decide +kernel
  have hcount : (entries none 0 items).length = 9 := by decide +kernel
  obtain ⟨hlaidOut, -, -, hsum, -⟩ := columns_laidOut elements [lit "2"] hne
  rw [← columnTarget_eq, hcount] at hlaidOut
  exact ⟨hne, hlaidOut, hsum.trans hcount⟩

end WikiPress.Outline
