import Mathlib.Order.Lattice.Nat
import WikiPress.Proofs.Outline.Rows

/-!
# Proofs/Outline/Owners — what owns the elements of an article

    ## a   #### b   text   ### c           open: a         open: b, a        open: c, a

While an article is read, the sections that have not ended are kept from the inside out.  All that
matters of them are their numbers and levels (`marks`): a heading goes under the innermost mark of a
smaller level, and any other element under the innermost mark (`rows_ofElements`).

A heading is ended by the next heading of its level or of a smaller one.  So the marks are the
headings that no later one has ended (`Standing`), and the innermost mark of a smaller level is the
nearest heading of a smaller level (`Standing.nearest_iff`).  With that, each row of an article has
the owner it should have (`fits_readRows`).
-/

namespace WikiPress.Outline

/-! ## Open sections -/

/-- The number of headings read so far. -/
def headingCount (done : List Item) : List Open → Nat
  | [] => sizes done.reverse
  | o :: outer => headingCount done outer + (1 + sizes o.items.reverse)

/-- **The open sections from the inside out**: number and level. -/
def marks (done : List Item) : List Open → List (Nat × Nat)
  | [] => []
  | o :: outer => (headingCount done outer, o.head.level) :: marks done outer

/-- The headings above what comes next, none of them folded. -/
def unfolded (marks : List (Nat × Nat)) : List (Nat × Bool) := marks.map fun m => (m.1, false)

/-- The rows of what was read so far. -/
def grownRows (done : List Item) : List Open → List Row
  | [] => rows [] 0 done.reverse
  | o :: outer =>
    grownRows done outer ++
      ⟨unfolded (marks done outer), .heading (headingCount done outer) o.head, false⟩ ::
        rows (unfolded (marks done (o :: outer))) (headingCount done outer + 1) o.items.reverse

namespace Growing

/-- **What is known of an outline that grows**: its rows, their number of headings, and the open
sections. -/
def view (g : Growing) : List Row × Nat × List (Nat × Nat) :=
  (grownRows g.done g.opened, headingCount g.done g.opened, marks g.done g.opened)

/-- **An item that is added has its rows below the innermost section.** -/
theorem view_add (g : Growing) (item : Item) :
    (g.add item).view = (g.view.1 ++ rows (unfolded g.view.2.2) g.view.2.1 [item],
      g.view.2.1 + item.size, g.view.2.2) := by
  obtain ⟨opened, done⟩ := g
  cases opened with
  | nil =>
    simp only [add, view, grownRows, headingCount, marks, List.reverse_cons, rows_append,
      sizes_append, sizes, unfolded, List.map_nil, Nat.zero_add, Nat.add_zero]
  | cons o outer =>
    simp only [add, view, grownRows, headingCount, marks, List.reverse_cons, rows_append,
      sizes_append, sizes, List.append_assoc, List.cons_append, Nat.add_assoc, Nat.add_zero]

/-- Ending the innermost section adds its item to the section outside. -/
theorem view_add_close (o : Open) (outer : List Open) (done : List Item) :
    (add ⟨outer, done⟩ o.close).view = (grownRows done (o :: outer),
      headingCount done (o :: outer), marks done outer) := by
  rw [view_add]
  simp only [view, Open.close, rows_heading, rows_nil, List.append_nil, Item.size, grownRows,
    headingCount, marks]
  rfl

end Growing

/-- Put an item that has ended, if there is one, into the innermost section. -/
def Growing.put (inner : Option Item) (g : Growing) : Growing := inner.elim g g.add

/-- **Ending sections keeps the rows and ends the marks** of the level and below. -/
theorem view_closeWith (level : Nat) (opened : List Open) (inner : Option Item)
    (done : List Item) :
    (closeWith level opened inner done).view =
      ((Growing.put inner ⟨opened, done⟩).view.1, (Growing.put inner ⟨opened, done⟩).view.2.1,
        (marks done opened).dropWhile (level ≤ ·.2)) := by
  induction opened generalizing inner with
  | nil => cases inner <;> rfl
  | cons o outer ih =>
    have hput : Growing.put inner ⟨o :: outer, done⟩ =
        ⟨{ o with items := inner.toList ++ o.items } :: outer, done⟩ := by
      cases inner <;> rfl
    rw [closeWith, hput]
    set ended : Open := { o with items := inner.toList ++ o.items }
    by_cases hlevel : o.head.level < level
    · have hdrop : (marks done (o :: outer)).dropWhile (level ≤ ·.2) = marks done (o :: outer) := by
        rw [marks, List.dropWhile_cons_of_neg (by simpa using hlevel)]
      rw [if_pos hlevel, hdrop]
      rfl
    · have hdrop : (marks done (o :: outer)).dropWhile (level ≤ ·.2) =
          (marks done outer).dropWhile (level ≤ ·.2) := by
        rw [marks, List.dropWhile_cons_of_pos (by simpa using hlevel)]
      have hclose : Growing.put (some ended.close) ⟨outer, done⟩ =
          Growing.add ⟨outer, done⟩ ended.close := rfl
      rw [if_neg hlevel, ih (some ended.close), hclose, Growing.view_add_close, hdrop]
      rfl

theorem view_closeFrom (level : Nat) (g : Growing) :
    (closeFrom level g.opened g.done).view =
      (g.view.1, g.view.2.1, g.view.2.2.dropWhile (level ≤ ·.2)) :=
  view_closeWith level g.opened none g.done

/-- At the end of an article all sections end. -/
theorem opened_closeWith_zero (opened : List Open) (inner : Option Item) (done : List Item) :
    (closeWith 0 opened inner done).opened = [] := by
  induction opened generalizing inner with
  | nil => rfl
  | cons o outer ih => rw [closeWith, if_neg (Nat.not_lt_zero _), ih]

/-! ## The rows of an article -/

/-- **The rows of the rest of an article**, from a position and a heading number on, by the open
sections. -/
def readRows : (index : Nat) → (marks : List (Nat × Nat)) → (count : Nat) →
    List ArticleElement → List Row
  | _, _, _, [] => []
  | _, _, _, .footnotes :: _ => []
  | index, marks, count, .body :: rest =>
    (if marks.isEmpty then [] else [⟨unfolded marks, .element index, false⟩]) ++
      readRows (index + 1) marks count rest
  | index, marks, count, .heading level id text foldable :: rest =>
    let outer := marks.dropWhile (level ≤ ·.2)
    ⟨unfolded outer, .heading count ⟨index, level, id, text, foldable⟩, false⟩ ::
      readRows (index + 1) ((count, level) :: outer) (count + 1) rest

/-- **Reading adds the rows of what is read.** -/
theorem view_grow (index : Nat) (g : Growing) (elements : List ArticleElement) :
    (grow index g elements).view.1 =
      g.view.1 ++ readRows index g.view.2.2 g.view.2.1 elements := by
  induction elements generalizing index g with
  | nil => exact (List.append_nil _).symm
  | cons element rest ih =>
    cases element with
    | footnotes => exact (List.append_nil _).symm
    | body =>
      obtain ⟨opened, done⟩ := g
      cases opened with
      | nil => exact ih (index + 1) ⟨[], done⟩
      | cons o outer =>
        change (grow (index + 1) (Growing.add ⟨o :: outer, done⟩ (.element index false)) rest).view.1
          = _
        rw [ih, Growing.view_add, rows_element, rows_nil, List.append_assoc, readRows]
        rfl
    | heading level id text foldable =>
      have hopen (g : Growing) (head : Heading) :
          (Growing.mk (⟨head, []⟩ :: g.opened) g.done).view =
            (g.view.1 ++ [⟨unfolded g.view.2.2, .heading g.view.2.1 head, false⟩],
              g.view.2.1 + 1, (g.view.2.1, head.level) :: g.view.2.2) := rfl
      rw [grow, ih, hopen, view_closeFrom, List.append_assoc, readRows]
      rfl

/-- **The rows of an outline are read off the article.** -/
theorem rows_ofElements (elements : List ArticleElement) :
    rows [] 0 (ofElements elements) = readRows 0 [] 0 elements := by
  set g := grow 0 ⟨[], []⟩ elements with hg
  have hrows : (closeFrom 0 g.opened g.done).view.1 = readRows 0 [] 0 elements := by
    rw [view_closeFrom, hg]
    exact view_grow 0 ⟨[], []⟩ elements
  have hopened : (closeFrom 0 g.opened g.done).opened = [] := opened_closeWith_zero ..
  rw [Growing.view, hopened] at hrows
  exact hrows

/-! ## Standing headings -/

/-- **The headings that are not ended**: those before all of which only greater levels follow. -/
structure Standing (seen : List Heading) (marks : List (Nat × Nat)) : Prop where
  mem_iff : ∀ j level, (j, level) ∈ marks ↔ ∃ h, seen[j]? = some h ∧ h.level = level ∧
    ∀ k h', j < k → seen[k]? = some h' → level < h'.level
  sorted : marks.Pairwise fun m m' => m'.1 < m.1

theorem getElem?_concat_eq_some_iff {α : Type} {l : List α} {a b : α} {j : Nat} :
    (l ++ [a])[j]? = some b ↔ l[j]? = some b ∨ j = l.length ∧ b = a := by
  rw [List.getElem?_append, List.getElem?_singleton]
  split
  · next hlt => exact (or_iff_left fun h => absurd h.1 (Nat.ne_of_lt hlt)).symm
  · next hge =>
    rw [List.getElem?_eq_none (Nat.not_lt.1 hge), Option.ite_none_right_eq_some]
    simp only [reduceCtorEq, false_or, Option.some.injEq, eq_comm (a := a)]
    exact and_congr_left fun _ => by omega

/-- The headings with a level of some kind. -/
def withLevel (P : Nat → Bool) (heads : List Heading) : Set Nat :=
  {j | ∃ h, heads[j]? = some h ∧ P h.level = true}

theorem exists_isGreatest_of_lt {S : Set Nat} {n : Nat} (h : S.Nonempty) (hlt : ∀ j ∈ S, j < n) :
    ∃ j, IsGreatest S j :=
  have hbound : BddAbove S := ⟨n, fun j hj => Nat.le_of_lt (hlt j hj)⟩
  ⟨_, Nat.sSup_mem h hbound, fun _ hj => le_csSup hbound hj⟩

theorem exists_isGreatest_withLevel {P : Nat → Bool} {heads : List Heading}
    (h : (withLevel P heads).Nonempty) : ∃ j, IsGreatest (withLevel P heads) j := by
  refine exists_isGreatest_of_lt (n := heads.length) h ?_
  rintro j ⟨head, hhead, -⟩
  exact (List.getElem?_eq_some_iff.1 hhead).1

namespace Standing

variable {seen : List Heading} {marks : List (Nat × Nat)}

theorem nil : Standing [] [] where
  mem_iff := fun j level => by simp
  sorted := .nil

/-- Inner sections have greater levels. -/
theorem sorted_levels (h : Standing seen marks) : marks.Pairwise fun m m' => m'.2 < m.2 := by
  refine h.sorted.imp_of_mem fun {m m'} hm hm' hlt => ?_
  obtain ⟨head, hhead, hlevel, -⟩ := (h.mem_iff m.1 m.2).1 hm
  obtain ⟨-, -, -, hlater⟩ := (h.mem_iff m'.1 m'.2).1 hm'
  exact hlevel ▸ hlater m.1 head hlt hhead

/-- **Ending sections keeps the marks of smaller levels.** -/
theorem dropWhile_eq_filter (h : Standing seen marks) (level : Nat) :
    marks.dropWhile (level ≤ ·.2) = marks.filter (·.2 < level) := by
  have hsorted := h.sorted_levels
  clear h
  induction marks with
  | nil => rfl
  | cons m marks ih =>
    obtain ⟨hm, hsorted⟩ := List.pairwise_cons.1 hsorted
    by_cases hlevel : level ≤ m.2
    · rw [List.dropWhile_cons_of_pos (by simpa using hlevel), ih hsorted,
        List.filter_cons_of_neg (by simpa using hlevel)]
    · have hall : ∀ m' ∈ m :: marks, decide (m'.2 < level) = true := by
        refine List.forall_mem_cons.2 ⟨by simpa using hlevel, fun m' hm' => ?_⟩
        have := hm m' hm'
        exact decide_eq_true (by omega)
      rw [List.dropWhile_cons_of_neg (by simpa using hlevel), List.filter_eq_self.2 hall]

/-- **A heading ends those of its level or a greater one**, and stands itself. -/
theorem push (h : Standing seen marks) (head : Heading) :
    Standing (seen ++ [head])
      ((seen.length, head.level) :: marks.dropWhile (head.level ≤ ·.2)) where
  mem_iff := fun j level => by
    rw [h.dropWhile_eq_filter, List.mem_cons, List.mem_filter, h.mem_iff, decide_eq_true_iff,
      Prod.mk.injEq]
    simp only [getElem?_concat_eq_some_iff]
    constructor
    · rintro (⟨rfl, rfl⟩ | ⟨⟨h', hhead, rfl, hlater⟩, hlevel⟩)
      · refine ⟨head, .inr ⟨rfl, rfl⟩, rfl, ?_⟩
        rintro k h' hlt (hk | ⟨rfl, -⟩)
        · exact absurd (List.getElem?_eq_some_iff.1 hk).1 (Nat.lt_asymm hlt)
        · exact absurd hlt (Nat.lt_irrefl _)
      · refine ⟨h', .inl hhead, rfl, ?_⟩
        rintro k h'' hlt (hk | ⟨-, rfl⟩)
        · exact hlater k h'' hlt hk
        · exact hlevel
    · rintro ⟨h', hhead | ⟨rfl, rfl⟩, rfl, hlater⟩
      · have hlt := (List.getElem?_eq_some_iff.1 hhead).1
        exact .inr ⟨⟨h', hhead, rfl, fun k h'' hk hh => hlater k h'' hk (.inl hh)⟩,
          hlater _ head hlt (.inr ⟨rfl, rfl⟩)⟩
      · exact .inl ⟨rfl, rfl⟩
  sorted := by
    rw [h.dropWhile_eq_filter, List.pairwise_cons]
    refine ⟨fun m hm => ?_, h.sorted.filter _⟩
    obtain ⟨head', hhead, -⟩ := (h.mem_iff m.1 m.2).1 (List.mem_filter.1 hm).1
    exact (List.getElem?_eq_some_iff.1 hhead).1

theorem mem_withLevel (h : Standing seen marks) {P : Nat → Bool} {m : Nat × Nat}
    (hm : m ∈ marks.filter (P ·.2)) : m.1 ∈ withLevel P seen := by
  obtain ⟨hm, hlevel⟩ := List.mem_filter.1 hm
  obtain ⟨head, hhead, hsame, -⟩ := (h.mem_iff m.1 m.2).1 hm
  exact ⟨head, hhead, hsame ▸ hlevel⟩

/-- **The innermost mark of some kind is the nearest heading of that kind**, where the smaller
levels are. -/
theorem nearest_iff (h : Standing seen marks) {P : Nat → Bool}
    (hP : ∀ a b, b ≤ a → P a = true → P b = true) (j : Nat) :
    nearest (unfolded (marks.filter (P ·.2))) = some j ↔ IsGreatest (withLevel P seen) j := by
  have hnearest (j : Nat) (hj : IsGreatest (withLevel P seen) j) :
      nearest (unfolded (marks.filter (P ·.2))) = some j := by
    obtain ⟨⟨head, hhead, hlevel⟩, hmax⟩ := hj
    have hmem : (j, head.level) ∈ marks.filter (P ·.2) := by
      refine List.mem_filter.2 ⟨(h.mem_iff j head.level).2 ⟨head, hhead, rfl, ?_⟩, hlevel⟩
      intro k head' hlt hhead'
      by_contra hle
      have hk := hmax ⟨head', hhead', hP _ _ (Nat.not_lt.1 hle) hlevel⟩
      exact absurd hlt (Nat.not_lt.2 hk)
    cases hmarks : marks.filter (P ·.2) with
    | nil => exact absurd (hmarks ▸ hmem) List.not_mem_nil
    | cons m rest =>
      have hfirst : m ∈ marks.filter (P ·.2) := hmarks ▸ List.mem_cons_self
      have hle : m.1 ≤ j := hmax (h.mem_withLevel hfirst)
      have hsorted := h.sorted.filter (P ·.2)
      rw [hmarks] at hmem hsorted
      rcases List.mem_cons.1 hmem with rfl | hrest
      · rfl
      · exact absurd ((List.pairwise_cons.1 hsorted).1 _ hrest) (Nat.not_lt.2 hle)
  refine ⟨fun hj => ?_, hnearest j⟩
  obtain ⟨m, hm, rfl⟩ : ∃ m ∈ marks.filter (P ·.2), m.1 = j := by
    cases hmarks : marks.filter (P ·.2) with
    | nil =>
      rw [hmarks] at hj
      exact absurd hj (by simp [unfolded, nearest])
    | cons m rest =>
      rw [hmarks] at hj
      exact ⟨m, List.mem_cons_self, Option.some.inj hj⟩
  obtain ⟨k, hk⟩ := exists_isGreatest_withLevel ⟨m.1, h.mem_withLevel hm⟩
  rw [hnearest k hk, Option.some.injEq] at hj
  exact hj ▸ hk

end Standing

/-! ## Articles -/

/-- The elements before the footnotes. -/
def inside (elements : List ArticleElement) : List ArticleElement :=
  elements.takeWhile (· ≠ .footnotes)

/-- What a heading at a position says. -/
def heading? : ArticleElement × Nat → Option Heading
  | (.heading level id text foldable, index) => some ⟨index, level, id, text, foldable⟩
  | _ => none

/-- The headings before the footnotes, from a position on. -/
def headingsFrom (index : Nat) (elements : List ArticleElement) : List Heading :=
  ((inside elements).zipIdx index).filterMap heading?

/-- **The headings of an article** before the footnotes, in order. -/
def headings (elements : List ArticleElement) : List Heading := headingsFrom 0 elements

section Articles

variable {index : Nat} {rest : List ArticleElement}

theorem headingsFrom_body : headingsFrom index (.body :: rest) = headingsFrom (index + 1) rest :=
  rfl

theorem headingsFrom_heading {level : Nat} {id text : Text} {foldable : Bool} :
    headingsFrom index (.heading level id text foldable :: rest) =
      ⟨index, level, id, text, foldable⟩ :: headingsFrom (index + 1) rest := rfl

theorem le_element_of_mem_headingsFrom {elements : List ArticleElement} {h : Heading}
    (hh : h ∈ headingsFrom index elements) : index ≤ h.element := by
  obtain ⟨⟨element, position⟩, hmem, hhead⟩ := List.mem_filterMap.1 hh
  have hle := (List.mem_zipIdx hmem).1
  cases element with
  | heading => exact (Option.some.inj hhead) ▸ hle
  | body => exact absurd hhead (by simp [heading?])
  | footnotes => exact absurd hhead (by simp [heading?])

end Articles

/-! ## The rows of an article -/

/-- The heading of a place. -/
def Place.head? : Place → Option Heading
  | element _ => none
  | heading _ head => some head

section ReadRows

variable {index : Nat} {marks : List (Nat × Nat)} {count : Nat} {elements : List ArticleElement}

theorem readRows_body {rest : List ArticleElement} :
    readRows index marks count (.body :: rest) =
      (if marks.isEmpty then [] else [⟨unfolded marks, .element index, false⟩]) ++
        readRows (index + 1) marks count rest := rfl

theorem readRows_heading {rest : List ArticleElement} {level : Nat} {id text : Text}
    {foldable : Bool} :
    readRows index marks count (.heading level id text foldable :: rest) =
      ⟨unfolded (marks.dropWhile (level ≤ ·.2)),
          .heading count ⟨index, level, id, text, foldable⟩, false⟩ ::
        readRows (index + 1) ((count, level) :: marks.dropWhile (level ≤ ·.2)) (count + 1) rest :=
  rfl

/-- The row of an element without a heading of its own, if it has one. -/
theorem mem_bodyRow {r : Row}
    (h : r ∈ if marks.isEmpty then [] else [(⟨unfolded marks, .element index, false⟩ : Row)]) :
    r = ⟨unfolded marks, .element index, false⟩ ∧ marks ≠ [] := by
  split at h
  · exact absurd h List.not_mem_nil
  · next hmarks => exact ⟨List.mem_singleton.1 h, by simpa using hmarks⟩

/-- **The headings of the rows are those of the article.** -/
theorem filterMap_head?_readRows (index : Nat) (marks : List (Nat × Nat)) (count : Nat)
    (elements : List ArticleElement) :
    (readRows index marks count elements).filterMap (·.place.head?) =
      headingsFrom index elements := by
  induction elements generalizing index marks count with
  | nil => rfl
  | cons element rest ih =>
    cases element with
    | footnotes => rfl
    | body =>
      rw [readRows_body, headingsFrom_body, List.filterMap_append, ih]
      split <;> rfl
    | heading level id text foldable =>
      rw [readRows_heading, headingsFrom_heading, ← ih]
      rfl

theorem le_index_of_mem_readRows {r : Row} (hr : r ∈ readRows index marks count elements) :
    index ≤ r.place.index := by
  induction elements generalizing index marks count with
  | nil => exact absurd hr List.not_mem_nil
  | cons element rest ih =>
    cases element with
    | footnotes => exact absurd hr List.not_mem_nil
    | body =>
      rcases List.mem_append.1 (readRows_body ▸ hr) with hr | hr
      · rw [(mem_bodyRow hr).1]
        exact Nat.le_refl index
      · exact Nat.le_of_succ_le (ih hr)
    | heading level id text foldable =>
      rcases List.mem_cons.1 (readRows_heading ▸ hr) with rfl | hr
      · exact Nat.le_refl index
      · exact Nat.le_of_succ_le (ih hr)

/-- **The rows stand in the order of the article**, one for each position at most. -/
theorem pairwise_index_readRows (index : Nat) (marks : List (Nat × Nat)) (count : Nat)
    (elements : List ArticleElement) :
    ((readRows index marks count elements).map (·.place.index)).Pairwise (· < ·) := by
  have hlater {marks : List (Nat × Nat)} {count index : Nat} {rest : List ArticleElement} :
      ∀ x ∈ (readRows (index + 1) marks count rest).map (·.place.index), index < x := by
    intro x hx
    obtain ⟨r, hr, rfl⟩ := List.mem_map.1 hx
    exact le_index_of_mem_readRows hr
  induction elements generalizing index marks count with
  | nil => exact .nil
  | cons element rest ih =>
    cases element with
    | footnotes => exact .nil
    | body =>
      rw [readRows_body]
      split
      · exact ih ..
      · exact List.pairwise_cons.2 ⟨hlater, ih ..⟩
    | heading level id text foldable =>
      rw [readRows_heading]
      exact List.pairwise_cons.2 ⟨hlater, ih ..⟩

/-- A row without a heading is that of an element before the footnotes. -/
theorem body_of_mem_readRows {r : Row} {x : Nat} (hr : r ∈ readRows index marks count elements)
    (hplace : r.place = .element (index + x)) : (inside elements)[x]? = some .body := by
  induction elements generalizing index marks count x with
  | nil => exact absurd hr List.not_mem_nil
  | cons element rest ih =>
    have hrest {marks : List (Nat × Nat)} {count : Nat}
        (hr : r ∈ readRows (index + 1) marks count rest) (helement : element ≠ .footnotes) :
        (inside (element :: rest))[x]? = some .body := by
      have hle := le_index_of_mem_readRows hr
      rw [hplace, Place.index] at hle
      obtain ⟨x, rfl⟩ : ∃ k, x = k + 1 := ⟨x - 1, by omega⟩
      rw [inside, List.takeWhile_cons_of_pos (by simpa using helement), List.getElem?_cons_succ]
      exact ih hr (by rw [hplace, Nat.add_right_comm, Nat.add_assoc])
    cases element with
    | footnotes => exact absurd hr List.not_mem_nil
    | body =>
      rcases List.mem_append.1 (readRows_body ▸ hr) with hr | hr
      · rw [(mem_bodyRow hr).1, Place.element.injEq] at hplace
        obtain rfl : x = 0 := by omega
        rfl
      · exact hrest hr (by simp)
    | heading level id text foldable =>
      rcases List.mem_cons.1 (readRows_heading ▸ hr) with rfl | hr
      · exact absurd hplace (by simp)
      · exact hrest hr (by simp)

/-- …and such an element has one, if a heading comes before it. -/
theorem exists_row_of_body {x : Nat} (hbody : (inside elements)[x]? = some .body)
    (hhead : marks ≠ [] ∨ ∃ h ∈ headingsFrom index elements, h.element < index + x) :
    ∃ r ∈ readRows index marks count elements, r.place = .element (index + x) := by
  induction elements generalizing index marks count x with
  | nil => exact absurd hbody (by simp [inside])
  | cons element rest ih =>
    cases element with
    | footnotes => exact absurd hbody (by simp [inside])
    | body =>
      rw [readRows_body]
      cases x with
      | zero =>
        have hmarks : marks ≠ [] := hhead.resolve_right fun ⟨h, hh, hlt⟩ =>
          absurd (le_element_of_mem_headingsFrom hh) (Nat.not_le.2 hlt)
        rw [if_neg (by simpa using hmarks)]
        exact ⟨_, List.mem_cons_self, rfl⟩
      | succ x =>
        rw [headingsFrom_body, ← Nat.add_assoc, Nat.add_right_comm] at hhead
        obtain ⟨r, hr, hplace⟩ := ih hbody hhead
        exact ⟨r, List.mem_append_right _ hr, by rw [hplace, Nat.add_right_comm, Nat.add_assoc]⟩
    | heading level id text foldable =>
      rw [readRows_heading]
      cases x with
      | zero => exact absurd hbody (by simp [inside])
      | succ x =>
        obtain ⟨r, hr, hplace⟩ := ih hbody (.inl (List.cons_ne_nil _ _))
        exact ⟨r, List.mem_cons_of_mem _ hr, by rw [hplace, Nat.add_right_comm, Nat.add_assoc]⟩

end ReadRows

/-! ## Owners -/

/-- **A row has the owner it should have**: a heading the nearest heading of a smaller level before
it, any other element the nearest heading before it. -/
def Fits (heads : List Heading) (r : Row) : Prop :=
  match r.place with
  | .heading i head => heads[i]? = some head ∧ ∀ j, r.owner = some j ↔
      IsGreatest {j | j < i ∧ ∃ h, heads[j]? = some h ∧ h.level < head.level} j
  | .element x => r.owner ≠ none ∧ ∀ j, r.owner = some j ↔
      IsGreatest {j | ∃ h, heads[j]? = some h ∧ h.element < x} j

section Before

variable {index : Nat} {seen later : List Heading}

/-- The headings before a position are those seen before it. -/
theorem setOf_before_eq (hseen : ∀ h ∈ seen, h.element < index)
    (hlater : ∀ h ∈ later, index ≤ h.element) :
    {j | ∃ h, (seen ++ later)[j]? = some h ∧ h.element < index} =
      withLevel (fun _ => true) seen := by
  ext j
  refine exists_congr fun h => ?_
  rw [List.getElem?_append]
  split
  · exact and_congr_right fun hh => iff_of_true (hseen h (List.mem_of_getElem? hh)) rfl
  · next hge =>
    refine iff_of_false (fun ⟨hh, hlt⟩ => ?_) fun ⟨hh, _⟩ => ?_
    · exact absurd (hlater h (List.mem_of_getElem? hh)) (Nat.not_le.2 hlt)
    · exact hge (List.getElem?_eq_some_iff.1 hh).1

/-- …and so are those of smaller levels. -/
theorem setOf_smaller_eq (level : Nat) :
    {j | j < seen.length ∧ ∃ h, (seen ++ later)[j]? = some h ∧ h.level < level} =
      withLevel (· < level) seen := by
  ext j
  constructor
  · rintro ⟨hlt, h, hh, hlevel⟩
    exact ⟨h, List.getElem?_append_left hlt ▸ hh, decide_eq_true hlevel⟩
  · rintro ⟨h, hh, hlevel⟩
    have hlt := (List.getElem?_eq_some_iff.1 hh).1
    exact ⟨hlt, h, (List.getElem?_append_left hlt).trans hh, of_decide_eq_true hlevel⟩

end Before

namespace Standing

variable {seen later : List Heading} {marks : List (Nat × Nat)}

/-- An element goes under the innermost mark. -/
theorem fits_element (h : Standing seen marks) (hmarks : marks ≠ []) {index : Nat}
    (hseen : ∀ h ∈ seen, h.element < index) (hlater : ∀ h ∈ later, index ≤ h.element) :
    Fits (seen ++ later) ⟨unfolded marks, .element index, false⟩ := by
  have hall : marks.filter (fun _ => true) = marks := List.filter_eq_self.2 fun _ _ => rfl
  have hnearest := h.nearest_iff (P := fun _ => true) fun _ _ _ h => h
  rw [hall] at hnearest
  obtain ⟨m, outer, rfl⟩ := List.exists_cons_of_ne_nil hmarks
  change nearest (unfolded (m :: outer)) ≠ none ∧
    ∀ j, nearest (unfolded (m :: outer)) = some j ↔ _
  rw [setOf_before_eq hseen hlater]
  exact ⟨Option.some_ne_none m.1, hnearest⟩

/-- A heading goes under the innermost mark of a smaller level. -/
theorem fits_heading (h : Standing seen marks) (head : Heading) :
    Fits (seen ++ head :: later)
      ⟨unfolded (marks.dropWhile (head.level ≤ ·.2)), .heading seen.length head, false⟩ := by
  refine ⟨by rw [List.getElem?_append_right (Nat.le_refl _), Nat.sub_self]; rfl, fun j => ?_⟩
  rw [setOf_smaller_eq, ← h.nearest_iff
    fun a b hle ha => decide_eq_true (Nat.lt_of_le_of_lt hle (of_decide_eq_true ha)),
    ← h.dropWhile_eq_filter]
  rfl

end Standing

/-- **The rows of an article have the owners they should have.** -/
theorem fits_readRows {index : Nat} {marks : List (Nat × Nat)} {elements : List ArticleElement}
    {seen : List Heading} (hstanding : Standing seen marks)
    (hseen : ∀ h ∈ seen, h.element < index) :
    ∀ r ∈ readRows index marks seen.length elements,
      Fits (seen ++ headingsFrom index elements) r := by
  induction elements generalizing index marks seen with
  | nil => exact fun r hr => absurd hr List.not_mem_nil
  | cons element rest ih =>
    cases element with
    | footnotes => exact fun r hr => absurd hr List.not_mem_nil
    | body =>
      intro r hr
      rw [headingsFrom_body]
      rcases List.mem_append.1 (readRows_body ▸ hr) with hr | hr
      · obtain ⟨rfl, hmarks⟩ := mem_bodyRow hr
        exact hstanding.fits_element hmarks hseen fun h hh =>
          Nat.le_of_succ_le (le_element_of_mem_headingsFrom hh)
      · exact ih hstanding (fun h hh => Nat.lt_succ_of_lt (hseen h hh)) r hr
    | heading level id text foldable =>
      intro r hr
      set head : Heading := ⟨index, level, id, text, foldable⟩
      rw [headingsFrom_heading]
      rcases List.mem_cons.1 (readRows_heading ▸ hr) with rfl | hr
      · exact hstanding.fits_heading head
      · have hlength : (seen ++ [head]).length = seen.length + 1 := by
          rw [List.length_append, List.length_singleton]
        rw [← hlength] at hr
        rw [List.append_cons]
        refine ih (hstanding.push head) (fun h hh => ?_) r hr
        rcases List.mem_append.1 hh with hh | hh
        · exact Nat.lt_succ_of_lt (hseen h hh)
        · rw [List.mem_singleton.1 hh]
          exact Nat.lt_succ_self index

end WikiPress.Outline
