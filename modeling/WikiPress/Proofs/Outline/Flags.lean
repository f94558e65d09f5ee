import WikiPress.Outline.Folding
import WikiPress.Proofs.Outline.Rows

/-!
# Proofs/Outline/Flags — what folding leaves alone

Folding a section changes what is hidden and what is folded, and nothing else: without these flags
an outline stays the same (`bare`).  A heading that is toggled by its id is toggled by its number,
which is the number of the first entry with that id (`map_snd_toggleId?`).
-/

namespace WikiPress.Outline

/-! ## Equations -/

section Equations

variable {hidden hidden' folded : Bool} {index : Nat} {head : Heading} {items rest : List Item}

@[simp] theorem setHidden_element :
    setHidden hidden (.element index hidden' :: rest) =
      .element index hidden :: setHidden hidden rest := by
  rw [setHidden, Item.setHidden]

@[simp] theorem setHidden_heading :
    setHidden hidden (.heading head hidden' folded items :: rest) =
      .heading head hidden folded (if folded then items else setHidden hidden items) ::
        setHidden hidden rest := by
  rw [setHidden, Item.setHidden]

@[simp] theorem toggleId?_element {id : Text} :
    toggleId? id (.element index hidden :: rest) =
      (toggleId? id rest).map fun (state, rest) => (state, .element index hidden :: rest) := by
  rw [toggleId?, Item.toggleId?]

theorem toggleId?_heading_self {id : Text} (h : (head.id == id) = true) :
    toggleId? id (.heading head hidden folded items :: rest) =
      some (!folded, (Item.heading head hidden folded items).toggle :: rest) := by
  rw [toggleId?, Item.toggleId?, if_pos h]

theorem toggleId?_heading_inner {id : Text} (h : (head.id == id) = false) {state : Bool}
    {inner : List Item} (hinner : toggleId? id items = some (state, inner)) :
    toggleId? id (.heading head hidden folded items :: rest) =
      some (state, .heading head hidden folded inner :: rest) := by
  rw [toggleId?, Item.toggleId?, if_neg (Bool.eq_false_iff.1 h), hinner, Option.map_some]

theorem toggleId?_heading_later {id : Text} (h : (head.id == id) = false)
    (hinner : toggleId? id items = none) :
    toggleId? id (.heading head hidden folded items :: rest) =
      (toggleId? id rest).map fun (state, rest) =>
        (state, .heading head hidden folded items :: rest) := by
  rw [toggleId?, Item.toggleId?, if_neg (Bool.eq_false_iff.1 h), hinner, Option.map_none]

@[simp] theorem foldInitially_element :
    foldInitially (.element index hidden :: rest) = .element index hidden :: foldInitially rest := by
  rw [foldInitially, Item.foldInitially]

@[simp] theorem foldInitially_heading :
    foldInitially (.heading head hidden folded items :: rest) =
      (if head.foldable then (Item.heading head hidden folded (foldInitially items)).toggle
        else .heading head hidden folded (foldInitially items)) :: foldInitially rest := by
  rw [foldInitially, Item.foldInitially]

end Equations

/-! ## Outlines without flags -/

mutual

/-- An item with nothing hidden and nothing folded. -/
def Item.bare : Item → Item
  | .element index _ => .element index false
  | .heading head _ _ items => .heading head false false (bare items)

/-- **An outline with nothing hidden and nothing folded.** -/
def bare : List Item → List Item
  | [] => []
  | item :: rest => item.bare :: bare rest

end

/-- A row without its flags. -/
def Row.bare (r : Row) : Row := ⟨r.above.map fun a => (a.1, false), r.place, false⟩

@[simp] theorem Row.owner_bare (r : Row) : r.bare.owner = r.owner := by
  rw [Row.owner, Row.owner, nearest, nearest, Row.bare, List.head?_map, Option.map_map]
  rfl

section Bare

variable {hidden folded : Bool} {index : Nat} {head : Heading} {items rest : List Item}

@[simp] theorem bare_element :
    bare (.element index hidden :: rest) = .element index false :: bare rest := by
  rw [bare, Item.bare]

@[simp] theorem bare_heading :
    bare (.heading head hidden folded items :: rest) =
      .heading head false false (bare items) :: bare rest := by
  rw [bare, Item.bare]

theorem sizes_bare (items : List Item) : sizes (bare items) = sizes items := by
  induction items using forest_induction with
  | nil => rfl
  | element index hidden rest ih => rw [bare_element, sizes_element, sizes_element, ih]
  | heading head hidden folded inner rest ihInner ih =>
    rw [bare_heading, sizes_heading, sizes_heading, ihInner, ih]

/-- Outlines that differ in flags only have as many headings. -/
theorem sizes_congr {items items' : List Item} (h : bare items = bare items') :
    sizes items = sizes items' := by
  rw [← sizes_bare, h, sizes_bare]

/-- **The rows without flags are those of the outline without flags.** -/
theorem map_bare_rows (above : List (Nat × Bool)) (n : Nat) (items : List Item) :
    (rows above n items).map Row.bare = rows (above.map fun a => (a.1, false)) n (bare items) := by
  induction items using forest_induction generalizing above n with
  | nil => rfl
  | element index hidden rest ih =>
    rw [bare_element, rows_element, rows_element, List.map_cons, ih]
    rfl
  | heading head hidden folded inner rest ihInner ih =>
    rw [bare_heading, rows_heading, rows_heading, List.map_cons, List.map_append, ihInner, ih,
      sizes_bare]
    rfl

/-- …and so are the references, -/
theorem refs_bare (n : Nat) (items : List Item) : refs n (bare items) = refs n items := by
  induction items using forest_induction generalizing n with
  | nil => rfl
  | element index hidden rest ih => rw [bare_element, refs_element, refs_element, ih]
  | heading head hidden folded inner rest _ ih =>
    rw [bare_heading, refs_heading, refs_heading, sizes_bare, ih]

theorem refs_congr {items items' : List Item} (h : bare items = bare items') (n : Nat) :
    refs n items = refs n items' := by
  rw [← refs_bare, h, refs_bare]

/-- …and what the headings say. -/
theorem map_head_entries_bare (parent : Option Nat) (n : Nat) (items : List Item) :
    (entries parent n (bare items)).map Entry.head = (entries parent n items).map Entry.head := by
  induction items using forest_induction generalizing parent n with
  | nil => rfl
  | element index hidden rest ih => rw [bare_element, entries_element, entries_element, ih]
  | heading head hidden folded inner rest ihInner ih =>
    rw [bare_heading, entries_heading, entries_heading, List.map_cons, List.map_cons,
      List.map_append, List.map_append, ihInner, sizes_bare, ih]

/-- An outline without flags is one of items without flags. -/
theorem bare_eq_self_iff {items : List Item} :
    bare items = items ↔ ∀ item ∈ items, item.bare = item := by
  induction items with
  | nil => exact iff_of_true rfl (List.forall_mem_nil _)
  | cons item rest ih => rw [bare, List.cons.injEq, ih, List.forall_mem_cons]

end Bare

/-- Nothing is hidden or folded in what was read so far. -/
structure Growing.IsBare (g : Growing) : Prop where
  opened : ∀ o ∈ g.opened, ∀ item ∈ o.items, item.bare = item
  done : ∀ item ∈ g.done, item.bare = item

namespace Growing.IsBare

theorem bare_close {o : Open} (ho : ∀ item ∈ o.items, item.bare = item) :
    o.close.bare = o.close := by
  have hitems : bare o.items.reverse = o.items.reverse :=
    bare_eq_self_iff.2 fun item hitem => ho item (List.mem_reverse.1 hitem)
  rw [Open.close, Item.bare, hitems]

theorem bare_put {inner : Option Item} {items : List Item}
    (hinner : ∀ item ∈ inner, item.bare = item) (hitems : ∀ item ∈ items, item.bare = item) :
    ∀ item ∈ inner.toList ++ items, item.bare = item :=
  List.forall_mem_append.2 ⟨fun item hitem => hinner item (Option.mem_toList.1 hitem), hitems⟩

theorem closeWith {level : Nat} {opened : List Open} {inner : Option Item} {done : List Item}
    (h : IsBare ⟨opened, done⟩) (hinner : ∀ item ∈ inner, item.bare = item) :
    (closeWith level opened inner done).IsBare := by
  induction opened generalizing inner with
  | nil => exact ⟨List.forall_mem_nil _, bare_put hinner h.done⟩
  | cons o outer ih =>
    obtain ⟨ho, houter⟩ := List.forall_mem_cons.1 h.opened
    rw [Outline.closeWith]
    split
    · exact ⟨List.forall_mem_cons.2 ⟨bare_put hinner ho, houter⟩, h.done⟩
    · refine ih ⟨houter, h.done⟩ ?_
      rintro item ⟨⟩
      exact bare_close (bare_put hinner ho)

theorem closeFrom {g : Growing} (h : g.IsBare) (level : Nat) :
    (closeFrom level g.opened g.done).IsBare :=
  closeWith h (by rintro item ⟨⟩)

theorem grow {g : Growing} (h : g.IsBare) (index : Nat) (elements : List ArticleElement) :
    (grow index g elements).IsBare := by
  induction elements generalizing index g with
  | nil => exact h
  | cons element rest ih =>
    cases element with
    | footnotes => exact h
    | body =>
      obtain ⟨opened, done⟩ := g
      cases opened with
      | nil => exact ih h (index + 1)
      | cons o outer =>
        obtain ⟨ho, houter⟩ := List.forall_mem_cons.1 h.opened
        have hadd : ∀ item ∈ Item.element index false :: o.items, item.bare = item :=
          List.forall_mem_cons.2 ⟨rfl, ho⟩
        have hgrown : IsBare ⟨{ o with items := .element index false :: o.items } :: outer, done⟩ :=
          ⟨List.forall_mem_cons.2 ⟨hadd, houter⟩, h.done⟩
        exact ih hgrown (index + 1)
    | heading level id text foldable =>
      obtain ⟨hopened, hdone⟩ := h.closeFrom level
      exact ih (g := ⟨⟨⟨index, level, id, text, foldable⟩, []⟩ :: _, _⟩)
        ⟨List.forall_mem_cons.2 ⟨List.forall_mem_nil _, hopened⟩, hdone⟩ (index + 1)

end Growing.IsBare

/-- **An outline is read with nothing hidden and nothing folded.** -/
theorem bare_ofElements (elements : List ArticleElement) :
    bare (ofElements elements) = ofElements elements := by
  have hnone : Growing.IsBare ⟨[], []⟩ := ⟨List.forall_mem_nil _, List.forall_mem_nil _⟩
  have hgrown := (hnone.grow 0 elements).closeFrom 0
  exact bare_eq_self_iff.2 fun item hitem => hgrown.done item (List.mem_reverse.1 hitem)

/-! ## Toggling keeps the rest -/

theorem bare_setHidden (hidden : Bool) (items : List Item) :
    bare (setHidden hidden items) = bare items := by
  induction items using forest_induction with
  | nil => rfl
  | element index hidden' rest ih => rw [setHidden_element, bare_element, bare_element, ih]
  | heading head hidden' folded inner rest ihInner ih =>
    rw [setHidden_heading, bare_heading, bare_heading, ih]
    split
    · rfl
    · rw [ihInner]

theorem Item.bare_toggle (item : Item) : item.toggle.bare = item.bare := by
  cases item with
  | element index hidden => rfl
  | heading head hidden folded items =>
    rw [Item.toggle, Item.bare, Item.bare, bare_setHidden]

/-- **Folding the headings that start folded keeps everything else.** -/
theorem bare_foldInitially (items : List Item) : bare (foldInitially items) = bare items := by
  induction items using forest_induction with
  | nil => rfl
  | element index hidden rest ih => rw [foldInitially_element, bare_element, bare_element, ih]
  | heading head hidden folded inner rest ihInner ih =>
    rw [foldInitially_heading, bare, ih, bare_heading]
    split
    · rw [Item.bare_toggle, Item.bare, ihInner]
    · rw [Item.bare, ihInner]

/-! ## Headings by number -/

mutual

/-- An item with the heading of the given number changed; the first heading has number `0`. -/
def Item.updateAt (f : Item → Item) : (number : Nat) → Item → Item
  | _, .element index hidden => .element index hidden
  | 0, .heading head hidden folded items => f (.heading head hidden folded items)
  | k + 1, .heading head hidden folded items => .heading head hidden folded (updateAt f k items)

/-- **An outline with the heading of the given number changed**; the first heading has number
`0`. -/
def updateAt (f : Item → Item) : (number : Nat) → List Item → List Item
  | _, [] => []
  | k, item :: rest =>
    if k < item.size then item.updateAt f k :: rest else item :: updateAt f (k - item.size) rest

end

section UpdateAt

variable {f : Item → Item} {k index : Nat} {hidden folded : Bool} {head : Heading}
  {items rest : List Item}

@[simp] theorem updateAt_nil : updateAt f k [] = [] := by rw [updateAt]

@[simp] theorem updateAt_element :
    updateAt f k (.element index hidden :: rest) = .element index hidden :: updateAt f k rest := by
  rw [updateAt, Item.size, if_neg (Nat.not_lt_zero k), Nat.sub_zero]

@[simp] theorem updateAt_heading_zero :
    updateAt f 0 (.heading head hidden folded items :: rest) =
      f (.heading head hidden folded items) :: rest := by
  rw [updateAt, Item.size, if_pos (by omega), Item.updateAt]

theorem updateAt_heading_inner (h : k < sizes items) :
    updateAt f (k + 1) (.heading head hidden folded items :: rest) =
      .heading head hidden folded (updateAt f k items) :: rest := by
  rw [updateAt, Item.size, if_pos (by omega), Item.updateAt]

theorem updateAt_heading_later :
    updateAt f (k + sizes items + 1) (.heading head hidden folded items :: rest) =
      .heading head hidden folded items :: updateAt f k rest := by
  have hnumber : k + sizes items + 1 - (1 + sizes items) = k := by omega
  rw [updateAt, Item.size, if_neg (by omega), hnumber]

end UpdateAt

/-- The number of the first heading with an id. -/
def number? (id : Text) (items : List Item) : Option Nat :=
  (entries none 0 items).findIdx? (·.head.id == id)

/-- **The first heading with an id is toggled by its number.** -/
theorem map_snd_toggleId? (id : Text) (parent : Option Nat) (n : Nat) (items : List Item) :
    (toggleId? id items).map Prod.snd =
      ((entries parent n items).findIdx? (·.head.id == id)).map (updateAt Item.toggle · items) := by
  induction items using forest_induction generalizing parent n with
  | nil => rfl
  | element index hidden rest ih =>
    have hrest := congrArg (Option.map (Item.element index hidden :: ·)) (ih parent n)
    simp only [Option.map_map] at hrest
    simp only [toggleId?_element, entries_element, updateAt_element, Option.map_map]
    exact hrest
  | heading head hidden folded inner rest ihInner ih =>
    have hinner := ihInner (some n) (n + 1)
    have hrest := ih parent (n + (1 + sizes inner))
    rw [entries_heading, List.findIdx?_cons]
    cases hid : head.id == id with
    | true =>
      rw [toggleId?_heading_self hid, if_pos rfl, Option.map_some, Option.map_some,
        updateAt_heading_zero]
    | false =>
      rw [if_neg Bool.false_ne_true, List.findIdx?_append]
      cases htoggle : toggleId? id inner with
      | some found =>
        rw [htoggle, Option.map_some, eq_comm, Option.map_eq_some_iff] at hinner
        obtain ⟨k, hk, hfound⟩ := hinner
        have hlt : k < sizes inner :=
          length_entries (some n) (n + 1) inner ▸ (List.findIdx?_eq_some_iff_getElem.1 hk).1
        rw [toggleId?_heading_inner hid htoggle, hk, Option.some_or, Option.map_some,
          Option.map_some, Option.map_some, updateAt_heading_inner hlt, hfound]
      | none =>
        rw [htoggle, Option.map_none, eq_comm, Option.map_eq_none_iff] at hinner
        have hlater := congrArg (Option.map (Item.heading head hidden folded inner :: ·)) hrest
        rw [toggleId?_heading_later hid htoggle, hinner, Option.none_or, length_entries]
        simp only [Option.map_map] at hlater ⊢
        refine hlater.trans (congrFun (congrArg Option.map (funext fun k => ?_)) _)
        exact updateAt_heading_later.symm

/-- Updates of headings that keep everything but the flags keep everything but the flags. -/
theorem bare_updateAt {f : Item → Item} (hf : ∀ item, (f item).bare = item.bare) (k : Nat)
    (items : List Item) : bare (updateAt f k items) = bare items := by
  induction k, items using number_induction with
  | nil k => rw [updateAt_nil]
  | element index hidden rest k ih => rw [updateAt_element, bare_element, bare_element, ih]
  | self head hidden folded inner rest => rw [updateAt_heading_zero, bare, hf, bare]
  | inner head hidden folded inner rest k hk ih =>
    rw [updateAt_heading_inner hk, bare_heading, bare_heading, ih]
  | later head hidden folded inner rest k ih =>
    rw [updateAt_heading_later, bare_heading, bare_heading, ih]

/-! ## Toggling by id -/

/-- **Toggle the first heading with an id**; with an id that no heading has, nothing changes. -/
def press (items : List Item) (id : Text) : List Item :=
  ((toggleId? id items).map Prod.snd).getD items

/-- Toggle headings by their ids, one after the other. -/
def pressAll (items : List Item) (ids : List Text) : List Item := ids.foldl press items

theorem press_of_number?_eq_none {id : Text} {items : List Item} (h : number? id items = none) :
    press items id = items := by
  rw [press, map_snd_toggleId? id none 0, ← number?, h, Option.map_none, Option.getD_none]

theorem press_of_number?_eq_some {id : Text} {items : List Item} {k : Nat}
    (h : number? id items = some k) : press items id = updateAt Item.toggle k items := by
  rw [press, map_snd_toggleId? id none 0, ← number?, h, Option.map_some, Option.getD_some]

theorem bare_press (items : List Item) (id : Text) : bare (press items id) = bare items := by
  cases h : number? id items with
  | none => rw [press_of_number?_eq_none h]
  | some k => rw [press_of_number?_eq_some h, bare_updateAt Item.bare_toggle]

/-- **No toggle changes anything but the flags.** -/
theorem bare_pressAll (items : List Item) (ids : List Text) :
    bare (pressAll items ids) = bare items := by
  induction ids generalizing items with
  | nil => rfl
  | cons id ids ih => exact (ih (press items id)).trans (bare_press items id)

/-- The number of a heading does not depend on flags. -/
theorem number?_congr {items items' : List Item} (h : bare items = bare items') (id : Text) :
    number? id items = number? id items' := by
  have hnumber (items : List Item) :
      number? id items = ((entries none 0 items).map Entry.head).findIdx? (·.id == id) := by
    rw [number?, List.findIdx?_map]
    rfl
  rw [hnumber, hnumber, ← map_head_entries_bare, h, map_head_entries_bare]

end WikiPress.Outline
