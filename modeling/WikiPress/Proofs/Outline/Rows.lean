import WikiPress.Outline.Basic
import Mathlib.Data.List.Basic
import Mathlib.Data.List.Nodup

/-!
# Proofs/Outline/Rows — an outline written out in document order

    ## a          row: nothing above
      text        row: a
      ### b       row: a
        text      row: b, a

An outline is read off in several ways: as entries with parents and children, as references to the
top-level items, as positions of hidden elements.  All of them are ways to read one list, in which
every element of the outline has a row with the headings above it (`rows`).
-/

namespace WikiPress.Outline

/-! ## Forests -/

/-- **Induction on the items of an outline**, with the items below a heading. -/
@[elab_as_elim]
theorem forest_induction {P : List Item → Prop} (nil : P [])
    (element : ∀ index hidden rest, P rest → P (.element index hidden :: rest))
    (heading : ∀ head hidden folded items rest, P items → P rest →
      P (.heading head hidden folded items :: rest)) : ∀ items, P items
  | [] => nil
  | .element index hidden :: rest =>
    element index hidden rest (forest_induction nil element heading rest)
  | .heading head hidden folded items :: rest =>
    heading head hidden folded items rest (forest_induction nil element heading items)
      (forest_induction nil element heading rest)

/-- **Induction along the way to a heading**: it is the first one, or one below the first, or one
after those. -/
@[elab_as_elim]
theorem number_induction {P : Nat → List Item → Prop} (nil : ∀ k, P k [])
    (element : ∀ index hidden rest k, P k rest → P k (.element index hidden :: rest))
    (self : ∀ head hidden folded items rest, P 0 (.heading head hidden folded items :: rest))
    (inner : ∀ head hidden folded items rest k, k < sizes items → P k items →
      P (k + 1) (.heading head hidden folded items :: rest))
    (later : ∀ head hidden folded items rest k, P k rest →
      P (k + sizes items + 1) (.heading head hidden folded items :: rest)) (k : Nat)
    (items : List Item) : P k items := by
  induction items using forest_induction generalizing k with
  | nil => exact nil k
  | element index hidden rest ih => exact element index hidden rest k (ih k)
  | heading head hidden folded items rest ihInner ih =>
    cases k with
    | zero => exact self head hidden folded items rest
    | succ k =>
      rcases Nat.lt_or_ge k (sizes items) with hlt | hge
      · exact inner head hidden folded items rest k hlt (ihInner k)
      · obtain ⟨k, rfl⟩ := Nat.exists_eq_add_of_le' hge
        exact later head hidden folded items rest k (ih k)

section Equations

variable {index n : Nat} {hidden folded : Bool} {head : Heading} {items rest : List Item}
  {parent : Option Nat}

@[simp] theorem sizes_nil : sizes [] = 0 := rfl

@[simp] theorem sizes_element : sizes (.element index hidden :: rest) = sizes rest := by
  rw [sizes, Item.size, Nat.zero_add]

@[simp] theorem sizes_heading :
    sizes (.heading head hidden folded items :: rest) = 1 + sizes items + sizes rest := by
  rw [sizes, Item.size]

@[simp] theorem entries_nil : entries parent n [] = [] := rfl

@[simp] theorem entries_element :
    entries parent n (.element index hidden :: rest) = entries parent n rest := by
  rw [entries, Item.entries, Item.size, List.nil_append, Nat.add_zero]

@[simp] theorem entries_heading :
    entries parent n (.heading head hidden folded items :: rest) =
      ⟨head, folded, parent, refs (n + 1) items⟩ :: (entries (some n) (n + 1) items ++
        entries parent (n + (1 + sizes items)) rest) := by
  rw [entries, Item.entries, Item.size, List.cons_append]

@[simp] theorem refs_element :
    refs n (.element index hidden :: rest) = .element index :: refs n rest := rfl

@[simp] theorem refs_heading :
    refs n (.heading head hidden folded items :: rest) =
      .heading n :: refs (n + (1 + sizes items)) rest := by
  rw [refs, Item.size]

@[simp] theorem hiddenElements_element :
    hiddenElements (.element index hidden :: rest) =
      (if hidden then [index] else []) ++ hiddenElements rest := by
  rw [hiddenElements, Item.hiddenElements]

@[simp] theorem hiddenElements_heading :
    hiddenElements (.heading head hidden folded items :: rest) =
      (if hidden then [head.element] else []) ++ hiddenElements items ++ hiddenElements rest := by
  rw [hiddenElements, Item.hiddenElements]

end Equations

theorem sizes_append (items rest : List Item) : sizes (items ++ rest) = sizes items + sizes rest := by
  induction items with
  | nil => rw [List.nil_append, sizes_nil, Nat.zero_add]
  | cons item items ih => rw [List.cons_append, sizes, sizes, ih, Nat.add_assoc]

/-! ## Rows -/

/-- What a row is about: an element of the article, or a heading with its number. -/
inductive Place
  | element (index : Nat)
  | heading (number : Nat) (head : Heading)
deriving DecidableEq, Repr

namespace Place

/-- The position in the article. -/
def index : Place → Nat
  | element index => index
  | heading _ head => head.element

/-- The reference to it. -/
def ref : Place → Ref
  | element index => .element index
  | heading number _ => .heading number

end Place

/-- An element of an outline, or a heading, with the headings above it. -/
structure Row where
  /-- The numbers of the headings above, the nearest first, and whether they are folded. -/
  above : List (Nat × Bool)
  place : Place
  hidden : Bool
deriving DecidableEq, Repr

/-- The nearest of the headings above. -/
def nearest (above : List (Nat × Bool)) : Option Nat := above.head?.map Prod.fst

/-- The headings above come before the `n`-th. -/
def Before (above : List (Nat × Bool)) (n : Nat) : Prop := ∀ j, nearest above = some j → j < n

theorem Before.ne {above : List (Nat × Bool)} {n j : Nat} (h : Before above n) (hj : n ≤ j) :
    nearest above ≠ some j := fun hnearest => absurd (h j hnearest) (Nat.not_lt.2 hj)

theorem Before.mono {above : List (Nat × Bool)} {n m : Nat} (h : Before above n) (hle : n ≤ m) :
    Before above m := fun j hj => Nat.lt_of_lt_of_le (h j hj) hle

theorem before_cons (n : Nat) (folded : Bool) (above : List (Nat × Bool)) :
    Before ((n, folded) :: above) (n + 1) := by
  rintro j ⟨⟩
  exact Nat.lt_succ_self n

theorem before_nil (n : Nat) : Before [] n := nofun

/-- **The heading that owns a row.** -/
def Row.owner (r : Row) : Option Nat := nearest r.above

mutual

/-- The rows of an item below some headings, in document order; its first heading has the given
number. -/
def Item.rows (above : List (Nat × Bool)) (number : Nat) : Item → List Row
  | .element index hidden => [⟨above, .element index, hidden⟩]
  | .heading head hidden folded items =>
    ⟨above, .heading number head, hidden⟩ :: rows ((number, folded) :: above) (number + 1) items

/-- **The rows of an outline** below some headings, in document order; its first heading has the
given number. -/
def rows (above : List (Nat × Bool)) (number : Nat) : List Item → List Row
  | [] => []
  | item :: rest => item.rows above number ++ rows above (number + item.size) rest

end

section Rows

variable {above : List (Nat × Bool)} {n : Nat} {items : List Item}

@[simp] theorem rows_nil : rows above n [] = [] := rfl

@[simp] theorem rows_element {index : Nat} {hidden : Bool} :
    rows above n (.element index hidden :: items) =
      ⟨above, .element index, hidden⟩ :: rows above n items := by
  rw [rows, Item.rows, Item.size, List.singleton_append, Nat.add_zero]

@[simp] theorem rows_heading {head : Heading} {hidden folded : Bool} {inner : List Item} :
    rows above n (.heading head hidden folded inner :: items) =
      ⟨above, .heading n head, hidden⟩ :: (rows ((n, folded) :: above) (n + 1) inner ++
        rows above (n + (1 + sizes inner)) items) := by
  rw [rows, Item.rows, Item.size, List.cons_append]

theorem rows_append (above : List (Nat × Bool)) (n : Nat) (items rest : List Item) :
    rows above n (items ++ rest) = rows above n items ++ rows above (n + sizes items) rest := by
  induction items using forest_induction generalizing n with
  | nil => rfl
  | element index hidden items ih =>
    rw [List.cons_append, rows_element, rows_element, ih, sizes_element, List.cons_append]
  | heading head hidden folded inner items _ ih =>
    rw [List.cons_append, rows_heading, rows_heading, ih, sizes_heading, List.cons_append,
      List.append_assoc, Nat.add_assoc n]

/-- A row is owned from outside, or by one of the headings of the outline. -/
theorem owner_of_mem_rows {r : Row} (hr : r ∈ rows above n items) :
    r.owner = nearest above ∨ ∃ j, r.owner = some j ∧ n ≤ j ∧ j < n + sizes items := by
  induction items using forest_induction generalizing above n with
  | nil => exact absurd hr List.not_mem_nil
  | element index hidden rest ih =>
    rw [rows_element, List.mem_cons] at hr
    rw [sizes_element]
    rcases hr with rfl | hr
    · exact .inl rfl
    · exact ih hr
  | heading head hidden folded inner rest ihInner ih =>
    rw [rows_heading, List.mem_cons, List.mem_append] at hr
    rw [sizes_heading]
    rcases hr with rfl | hr | hr
    · exact .inl rfl
    · rcases ihInner hr with howner | ⟨j, howner, hle, hlt⟩
      · exact .inr ⟨n, howner, by omega, by omega⟩
      · exact .inr ⟨j, howner, by omega, by omega⟩
    · rcases ih hr with howner | ⟨j, howner, hle, hlt⟩
      · exact .inl howner
      · exact .inr ⟨j, howner, by omega, by omega⟩

/-- The rows a heading owns. -/
def ownedBy (owner : Option Nat) (rs : List Row) : List Row := rs.filter (·.owner = owner)

theorem ownedBy_append (owner : Option Nat) (rs rs' : List Row) :
    ownedBy owner (rs ++ rs') = ownedBy owner rs ++ ownedBy owner rs' := List.filter_append ..

theorem mem_ownedBy {owner : Option Nat} {rs : List Row} {r : Row} :
    r ∈ ownedBy owner rs ↔ r ∈ rs ∧ r.owner = owner := by
  rw [ownedBy, List.mem_filter, decide_eq_true_iff]

theorem ownedBy_cons_self (above : List (Nat × Bool)) (place : Place) (hidden : Bool)
    (rs : List Row) :
    ownedBy (nearest above) (⟨above, place, hidden⟩ :: rs) =
      ⟨above, place, hidden⟩ :: ownedBy (nearest above) rs :=
  List.filter_cons_of_pos (decide_eq_true rfl)

theorem ownedBy_cons_of_ne {owner : Option Nat} (h : nearest above ≠ owner) (place : Place)
    (hidden : Bool) (rs : List Row) :
    ownedBy owner (⟨above, place, hidden⟩ :: rs) = ownedBy owner rs :=
  List.filter_cons_of_neg (mt of_decide_eq_true h)

/-- A heading of another part of the outline owns none of the rows. -/
theorem ownedBy_rows_eq_nil {j : Nat} (hnearest : nearest above ≠ some j)
    (hj : j < n ∨ n + sizes items ≤ j) : ownedBy (some j) (rows above n items) = [] := by
  rw [List.eq_nil_iff_forall_not_mem]
  intro r hr
  obtain ⟨hr, howner⟩ := mem_ownedBy.1 hr
  rcases owner_of_mem_rows hr with h | ⟨k, h, hle, hlt⟩
  · exact hnearest (h ▸ howner)
  · rw [howner, Option.some.injEq] at h
    omega

/-- **The top-level references are those to the rows owned from outside.** -/
theorem refs_eq_ownedBy (habove : Before above n) :
    refs n items = (ownedBy (nearest above) (rows above n items)).map (·.place.ref) := by
  induction items using forest_induction generalizing n with
  | nil => rfl
  | element index hidden rest ih =>
    rw [refs_element, rows_element, ownedBy_cons_self, ih habove, List.map_cons]
    rfl
  | heading head hidden folded inner rest _ ih =>
    have hinner : ownedBy (nearest above) (rows ((n, folded) :: above) (n + 1) inner) = [] := by
      rw [List.eq_nil_iff_forall_not_mem]
      intro r hr
      obtain ⟨hr, howner⟩ := mem_ownedBy.1 hr
      rcases owner_of_mem_rows hr with h | ⟨k, h, hle, -⟩
      · exact habove.ne (Nat.le_refl n) (howner ▸ h)
      · exact habove.ne (Nat.le_of_succ_le hle) (howner ▸ h)
    rw [refs_heading, rows_heading, ownedBy_cons_self, ownedBy_append, hinner, List.nil_append,
      ih (habove.mono (Nat.le_add_right _ _)), List.map_cons]
    rfl

theorem length_entries (parent : Option Nat) (n : Nat) (items : List Item) :
    (entries parent n items).length = sizes items := by
  induction items using forest_induction generalizing parent n with
  | nil => rfl
  | element index hidden rest ih => rw [entries_element, ih, sizes_element]
  | heading head hidden folded inner rest ihInner ih =>
    rw [entries_heading, List.length_cons, List.length_append, ihInner, ih, sizes_heading]
    omega

section Entries

variable {parent : Option Nat} {head : Heading} {hidden folded : Bool} {inner rest : List Item}
  {i : Nat}

/-- The entries of the headings below a heading come right after its own, -/
theorem getElem?_entries_inner (hi : i < sizes inner) :
    (entries parent n (.heading head hidden folded inner :: rest))[i + 1]? =
      (entries (some n) (n + 1) inner)[i]? := by
  rw [entries_heading, List.getElem?_cons_succ, List.getElem?_append_left]
  rwa [length_entries]

/-- …and then those of the headings after it. -/
theorem getElem?_entries_later :
    (entries parent n (.heading head hidden folded inner :: rest))[i + sizes inner + 1]? =
      (entries parent (n + (1 + sizes inner)) rest)[i]? := by
  have hle : (entries (some n) (n + 1) inner).length ≤ i + sizes inner := by
    rw [length_entries]
    exact Nat.le_add_left _ _
  rw [entries_heading, List.getElem?_cons_succ, List.getElem?_append_right hle, length_entries,
    Nat.add_sub_cancel]

end Entries

/-- **The children of an entry are the references to the rows it owns.** -/
theorem children_eq_ownedBy (habove : Before above n) {i : Nat} {e : Entry}
    (he : (entries (nearest above) n items)[i]? = some e) :
    e.children = (ownedBy (some (n + i)) (rows above n items)).map (·.place.ref) := by
  induction i, items using number_induction generalizing above n with
  | nil i => exact absurd he (by simp)
  | element index hidden rest i ih =>
    rw [entries_element] at he
    rw [rows_element, ownedBy_cons_of_ne (habove.ne (Nat.le_add_right n i))]
    exact ih habove he
  | self head hidden folded inner rest =>
    have hrest : ownedBy (some n) (rows above (n + (1 + sizes inner)) rest) = [] :=
      ownedBy_rows_eq_nil (habove.ne (Nat.le_refl n)) (.inl (by omega))
    rw [entries_heading] at he
    obtain rfl := Option.some.inj he
    rw [Nat.add_zero n, rows_heading, ownedBy_cons_of_ne (habove.ne (Nat.le_refl n)),
      ownedBy_append, hrest, List.append_nil]
    exact refs_eq_ownedBy (before_cons n folded above)
  | inner head hidden folded inner rest i hi ih =>
    have hne := habove.ne (Nat.le_add_right n (i + 1))
    have hrest : ownedBy (some (n + (i + 1))) (rows above (n + (1 + sizes inner)) rest) = [] :=
      ownedBy_rows_eq_nil hne (.inl (by omega))
    rw [getElem?_entries_inner hi] at he
    rw [rows_heading, ownedBy_cons_of_ne hne, ownedBy_append, hrest, List.append_nil,
      ih (before_cons n folded above) he, Nat.add_right_comm, Nat.add_assoc]
  | later head hidden folded inner rest i ih =>
    have hnumber : n + (i + sizes inner + 1) = n + (1 + sizes inner) + i := by omega
    have hne := habove.ne (Nat.le_add_right n (i + sizes inner + 1))
    have hself : nearest ((n, folded) :: above) ≠ some (n + (i + sizes inner + 1)) := fun h => by
      have := Option.some.inj h
      omega
    have hinner : ownedBy (some (n + (i + sizes inner + 1)))
        (rows ((n, folded) :: above) (n + 1) inner) = [] :=
      ownedBy_rows_eq_nil hself (.inr (by omega))
    rw [getElem?_entries_later] at he
    rw [rows_heading, ownedBy_cons_of_ne hne, ownedBy_append, hinner, List.nil_append, hnumber]
    exact ih (habove.mono (Nat.le_add_right _ _)) he

end Rows

/-! ## Headings -/

/-- The heading of a row, with its owner and its number. -/
def Row.node? (r : Row) : Option ((Option Nat × Heading) × Nat) :=
  match r.place with
  | .element _ => none
  | .heading number head => some ((r.owner, head), number)

/-- **The rows of headings are the entries in order.** -/
theorem filterMap_node?_rows (above : List (Nat × Bool)) (n : Nat) (items : List Item) :
    (rows above n items).filterMap Row.node? =
      ((entries (nearest above) n items).map fun e => (e.parent, e.head)).zipIdx n := by
  induction items using forest_induction generalizing above n with
  | nil => rfl
  | element index hidden rest ih =>
    rw [rows_element, entries_element, List.filterMap_cons_none rfl, ih]
  | heading head hidden folded inner rest ihInner ih =>
    have hnode : Row.node? ⟨above, .heading n head, hidden⟩ = some ((nearest above, head), n) := rfl
    rw [rows_heading, entries_heading, List.filterMap_cons_some hnode, List.filterMap_append,
      ihInner, ih, List.map_cons, List.map_append, List.zipIdx_cons, List.zipIdx_append,
      List.length_map, length_entries, Nat.add_assoc]
    rfl

/-- A heading has a row with its owner and number. -/
theorem exists_heading_row_iff {items : List Item} {j : Nat} {owner : Option Nat}
    {head : Heading} :
    (∃ r ∈ rows [] 0 items, r.place = .heading j head ∧ r.owner = owner) ↔
      ∃ e, (entries none 0 items)[j]? = some e ∧ e.head = head ∧ e.parent = owner := by
  have hnode (r : Row) : r.place = .heading j head ∧ r.owner = owner ↔
      r.node? = some ((owner, head), j) := by
    obtain ⟨above, place, hidden⟩ := r
    cases place with
    | element index => simp [Row.node?]
    | heading number head' =>
      simp only [Row.node?, Place.heading.injEq, Option.some.injEq, Prod.mk.injEq]
      tauto
  have hnodes := filterMap_node?_rows [] 0 items
  simp only [hnode, ← List.mem_filterMap, hnodes]
  rw [List.mem_zipIdx_iff_getElem?, List.getElem?_map, Option.map_eq_some_iff]
  simp only [Prod.mk.injEq, and_comm]
  rfl

/-! ## Hidden elements -/

/-- **The hidden elements are those of the hidden rows.** -/
theorem hiddenElements_eq_rows (above : List (Nat × Bool)) (n : Nat) (items : List Item) :
    hiddenElements items = ((rows above n items).filter (·.hidden)).map (·.place.index) := by
  induction items using forest_induction generalizing above n with
  | nil => rfl
  | element index hidden rest ih =>
    rw [hiddenElements_element, rows_element, List.filter_cons, ih above n]
    cases hidden <;> rfl
  | heading head hidden folded inner rest ihInner ih =>
    rw [hiddenElements_heading, rows_heading, List.filter_cons, List.filter_append,
      ihInner ((n, folded) :: above) (n + 1), ih above (n + (1 + sizes inner))]
    cases hidden <;> simp [Place.index]

theorem isHidden_iff {items : List Item} {index : Nat} :
    isHidden items index = true ↔
      ∃ r ∈ rows [] 0 items, r.place.index = index ∧ r.hidden = true := by
  rw [isHidden, List.contains_iff_mem, hiddenElements_eq_rows [] 0, List.mem_map]
  refine exists_congr fun r => ?_
  rw [List.mem_filter, and_assoc, and_comm (a := r.hidden = true)]

end WikiPress.Outline
