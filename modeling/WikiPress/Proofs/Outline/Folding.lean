import WikiPress.Proofs.Outline.Descent

/-!
# Proofs/Outline/Folding — what should be hidden

    ## a     folded            a       shown
      text                     text    hidden
    ### b    folded            b       hidden
      text                     text    hidden: unfolding `a` leaves it so

Nothing looks up at the headings above when a heading is folded or unfolded: it overwrites the flags
it comes to.  What should be hidden can be told from the folded headings alone (`conceal`).  An
outline starts that way (`conceal_foldInitially`), in whatever order its headings are folded
(`build_eq_foldl`), and a heading that is not hidden itself keeps it so when it is toggled
(`conceal_updateAt_of_visible`).
-/

namespace WikiPress.Outline

/-! ## What should be hidden -/

mutual

/-- An item with hidden what is below its folded headings, and all of it if `covered`. -/
def Item.conceal (covered : Bool) : Item → Item
  | .element index _ => .element index covered
  | .heading head _ folded items => .heading head covered folded (conceal (covered || folded) items)

/-- **An outline with hidden what is below its folded headings**, and all of it if `covered`. -/
def conceal (covered : Bool) : List Item → List Item
  | [] => []
  | item :: rest => item.conceal covered :: conceal covered rest

end

section Conceal

variable {covered covered' hidden folded : Bool} {index : Nat} {head : Heading}
  {items rest : List Item}

@[simp] theorem conceal_nil : conceal covered [] = [] := rfl

@[simp] theorem conceal_element :
    conceal covered (.element index hidden :: rest) =
      .element index covered :: conceal covered rest := by
  rw [conceal, Item.conceal]

@[simp] theorem conceal_heading :
    conceal covered (.heading head hidden folded items :: rest) =
      .heading head covered folded (conceal (covered || folded) items) :: conceal covered rest := by
  rw [conceal, Item.conceal]

/-- An outline that starts with an element hides what it should. -/
theorem conceal_element_eq_self_iff :
    conceal covered (.element index hidden :: rest) = .element index hidden :: rest ↔
      hidden = covered ∧ conceal covered rest = rest := by
  rw [conceal_element, List.cons.injEq, Item.element.injEq, eq_comm (a := covered)]
  simp only [true_and]

/-- An outline that starts with a heading hides what it should. -/
theorem conceal_heading_eq_self_iff :
    conceal covered (.heading head hidden folded items :: rest) =
        .heading head hidden folded items :: rest ↔
      hidden = covered ∧ conceal (covered || folded) items = items ∧
        conceal covered rest = rest := by
  rw [conceal_heading, List.cons.injEq, Item.heading.injEq, eq_comm (a := covered)]
  simp only [true_and, and_assoc]

theorem conceal_conceal (covered covered' : Bool) (items : List Item) :
    conceal covered (conceal covered' items) = conceal covered items := by
  induction items using forest_induction generalizing covered covered' with
  | nil => rfl
  | element index hidden rest ih => rw [conceal_element, conceal_element, conceal_element, ih]
  | heading head hidden folded inner rest ihInner ih =>
    rw [conceal_heading, conceal_heading, conceal_heading, ihInner, ih]

theorem bare_conceal (covered : Bool) (items : List Item) :
    bare (conceal covered items) = bare items := by
  induction items using forest_induction generalizing covered with
  | nil => rfl
  | element index hidden rest ih => rw [conceal_element, bare_element, bare_element, ih]
  | heading head hidden folded inner rest ihInner ih =>
    rw [conceal_heading, bare_heading, bare_heading, ihInner, ih]

/-- Where nothing is folded nothing should be hidden. -/
theorem conceal_bare (items : List Item) : conceal false (bare items) = bare items := by
  induction items using forest_induction with
  | nil => rfl
  | element index hidden rest ih => rw [bare_element, conceal_element, ih]
  | heading head hidden folded inner rest ihInner ih =>
    rw [bare_heading, conceal_heading, Bool.or_self, ihInner, ih]

/-- **Hiding and showing agree with what should be hidden**: the descent stops where everything is
hidden already. -/
theorem setHidden_conceal (hidden covered : Bool) (items : List Item) :
    setHidden hidden (conceal covered items) = conceal hidden items := by
  induction items using forest_induction with
  | nil => rfl
  | element index hidden' rest ih =>
    rw [conceal_element, setHidden_element, conceal_element, ih]
  | heading head hidden' folded inner rest ihInner ih =>
    rw [conceal_heading, setHidden_heading, conceal_heading, ih]
    cases folded with
    | true => rw [if_pos rfl, Bool.or_true, Bool.or_true]
    | false => rw [if_neg Bool.false_ne_true, Bool.or_false, Bool.or_false, ihInner]

/-- What should be hidden does not depend on what is hidden. -/
theorem conceal_setHidden (covered hidden : Bool) (items : List Item) :
    conceal covered (setHidden hidden items) = conceal covered items := by
  induction items using forest_induction generalizing covered with
  | nil => rfl
  | element index hidden' rest ih =>
    rw [setHidden_element, conceal_element, conceal_element, ih]
  | heading head hidden' folded inner rest ihInner ih =>
    rw [setHidden_heading, conceal_heading, conceal_heading, ih]
    cases folded with
    | true => rw [if_pos rfl]
    | false => rw [if_neg Bool.false_ne_true, ihInner]

/-- The entries say nothing of what is hidden. -/
theorem entries_conceal (covered : Bool) (parent : Option Nat) (n : Nat) (items : List Item) :
    entries parent n (conceal covered items) = entries parent n items := by
  induction items using forest_induction generalizing covered parent n with
  | nil => rfl
  | element index hidden rest ih => rw [conceal_element, entries_element, entries_element, ih]
  | heading head hidden folded inner rest ihInner ih =>
    have hinner := bare_conceal (covered || folded) inner
    rw [conceal_heading, entries_heading, entries_heading, refs_congr hinner, sizes_congr hinner,
      ihInner, ih]

theorem entries_setHidden (hidden : Bool) (parent : Option Nat) (n : Nat) (items : List Item) :
    entries parent n (setHidden hidden items) = entries parent n items := by
  rw [← entries_conceal false, conceal_setHidden, entries_conceal]

/-- **The rows of what should be hidden** are those below a folded heading. -/
theorem rows_conceal (above : List (Nat × Bool)) (n : Nat) (items : List Item) :
    rows above n (conceal (above.any Prod.snd) items) =
      (rows above n items).map fun r => { r with hidden := r.above.any Prod.snd } := by
  induction items using forest_induction generalizing above n with
  | nil => rfl
  | element index hidden rest ih =>
    rw [conceal_element, rows_element, rows_element, ih, List.map_cons]
  | heading head hidden folded inner rest ihInner ih =>
    have hinner : (above.any Prod.snd || folded) = List.any ((n, folded) :: above) Prod.snd :=
      Bool.or_comm ..
    rw [conceal_heading, rows_heading, rows_heading, sizes_congr (bare_conceal _ inner), ih, hinner,
      ihInner, List.map_cons, List.map_append]

/-- A change of a heading that leaves alone what should be hidden. -/
theorem conceal_updateAt_of_visible {f : Item → Item}
    (hf : ∀ head folded inner, conceal folded inner = inner →
      (f (.heading head false folded inner)).conceal false = f (.heading head false folded inner))
    {covered : Bool} {above : List (Nat × Bool)} {n k : Nat} {items : List Item}
    (hitems : conceal covered items = items)
    (hvisible : ∀ r ∈ rows above n items, r.place.ref = .heading (n + k) → r.hidden = false) :
    conceal covered (updateAt f k items) = updateAt f k items := by
  induction k, items using number_induction generalizing covered above n with
  | nil k => rw [updateAt_nil, conceal_nil]
  | element index hidden rest k ih =>
    obtain ⟨rfl, hrest⟩ := conceal_element_eq_self_iff.1 hitems
    rw [rows_element, List.forall_mem_cons] at hvisible
    rw [updateAt_element, conceal_element, ih hrest hvisible.2]
  | self head hidden folded inner rest =>
    obtain ⟨rfl, hinner, hrest⟩ := conceal_heading_eq_self_iff.1 hitems
    rw [rows_heading, List.forall_mem_cons] at hvisible
    obtain rfl : hidden = false := hvisible.1 rfl
    rw [updateAt_heading_zero, conceal, hrest, hf head folded inner hinner]
  | inner head hidden folded inner rest k hk ih =>
    obtain ⟨rfl, hinner, hrest⟩ := conceal_heading_eq_self_iff.1 hitems
    have hnumber : n + (k + 1) = n + 1 + k := by omega
    rw [rows_heading, List.forall_mem_cons, List.forall_mem_append, hnumber] at hvisible
    rw [updateAt_heading_inner hk, conceal_heading, ih hinner hvisible.2.1, hrest]
  | later head hidden folded inner rest k ih =>
    obtain ⟨rfl, hinner, hrest⟩ := conceal_heading_eq_self_iff.1 hitems
    have hnumber : n + (k + sizes inner + 1) = n + (1 + sizes inner) + k := by omega
    rw [rows_heading, List.forall_mem_cons, List.forall_mem_append, hnumber] at hvisible
    rw [updateAt_heading_later, conceal_heading, hinner, ih hrest hvisible.2.2]

/-- **Toggling a heading that is not hidden** hides what should be hidden. -/
theorem conceal_toggle (head : Heading) (folded : Bool) (inner : List Item)
    (hinner : conceal folded inner = inner) :
    (Item.heading head false folded inner).toggle.conceal false =
      (Item.heading head false folded inner).toggle := by
  rw [Item.toggle, Item.conceal, Bool.false_or, conceal_setHidden, ← hinner, setHidden_conceal,
    conceal_conceal]

end Conceal

/-! ## The outline as it is first shown -/

/-- **An outline is first shown with hidden what should be hidden.** -/
theorem conceal_foldInitially (items : List Item) :
    conceal false (foldInitially (bare items)) = foldInitially (bare items) := by
  induction items using forest_induction with
  | nil => rfl
  | element index hidden rest ih =>
    rw [bare_element, foldInitially_element, conceal_element, ih]
  | heading head hidden folded inner rest ihInner ih =>
    rw [bare_heading, foldInitially_heading, conceal, ih]
    split
    · rw [conceal_toggle head false _ ihInner]
    · rw [Item.conceal, Bool.or_self, ihInner]

theorem conceal_build (elements : List ArticleElement) :
    conceal false (build elements) = build elements := by
  rw [build, ← bare_ofElements, conceal_foldInitially]

/-! ### One heading after the other

The headings that start folded may as well be toggled in the order of the article: an inner one is
then hidden already when its turn comes, and what it hides is hidden too. -/

/-- Toggle a heading that starts folded; `n` is the number of the first heading. -/
def foldAt (n : Nat) (items : List Item) (entry : Entry × Nat) : List Item :=
  if entry.1.head.foldable then updateAt Item.toggle (entry.2 - n) items else items

section FoldAt

variable {n index : Nat} {head : Heading} {hidden folded : Bool} {inner rest : List Item}
  {es : List (Entry × Nat)}

theorem foldl_foldAt_element :
    es.foldl (foldAt n) (.element index hidden :: rest) =
      .element index hidden :: es.foldl (foldAt n) rest := by
  induction es generalizing rest with
  | nil => rfl
  | cons entry es ih =>
    rw [List.foldl_cons, List.foldl_cons, ← ih, foldAt, foldAt, updateAt_element]
    split <;> rfl

theorem sizes_foldAt (entry : Entry × Nat) (items : List Item) :
    sizes (foldAt n items entry) = sizes items := by
  rw [foldAt]
  split
  · exact sizes_congr (bare_updateAt Item.bare_toggle _ items)
  · rfl

theorem foldl_foldAt_inner (hes : ∀ entry ∈ es, n < entry.2 ∧ entry.2 ≤ n + sizes inner) :
    es.foldl (foldAt n) (.heading head hidden folded inner :: rest) =
      .heading head hidden folded (es.foldl (foldAt (n + 1)) inner) :: rest := by
  induction es generalizing inner with
  | nil => rfl
  | cons entry es ih =>
    obtain ⟨⟨hlt, hle⟩, hes⟩ := List.forall_mem_cons.1 hes
    have hnumber : entry.2 - n = entry.2 - (n + 1) + 1 := by omega
    have hfirst : foldAt n (.heading head hidden folded inner :: rest) entry =
        .heading head hidden folded (foldAt (n + 1) inner entry) :: rest := by
      rw [foldAt, foldAt, hnumber, updateAt_heading_inner (by omega)]
      split <;> rfl
    rw [List.foldl_cons, List.foldl_cons, hfirst, ih]
    rwa [sizes_foldAt]

theorem foldl_foldAt_later (hes : ∀ entry ∈ es, n + (1 + sizes inner) ≤ entry.2) :
    es.foldl (foldAt n) (.heading head hidden folded inner :: rest) =
      .heading head hidden folded inner :: es.foldl (foldAt (n + (1 + sizes inner))) rest := by
  induction es generalizing rest with
  | nil => rfl
  | cons entry es ih =>
    obtain ⟨hle, hes⟩ := List.forall_mem_cons.1 hes
    have hnumber : entry.2 - n = entry.2 - (n + (1 + sizes inner)) + sizes inner + 1 := by omega
    have hfirst : foldAt n (.heading head hidden folded inner :: rest) entry =
        .heading head hidden folded inner :: foldAt (n + (1 + sizes inner)) rest entry := by
      rw [foldAt, foldAt, hnumber, updateAt_heading_later]
      split <;> rfl
    rw [List.foldl_cons, List.foldl_cons, hfirst, ih hes]

end FoldAt

section InOrder

variable {covered : Bool} {n : Nat} {head : Heading} {inner rest : List Item}

/-- A heading that starts folded is folded, and hides what is below it. -/
theorem foldAt_conceal {folded : Bool} {parent : Option Nat} {children : List Ref} :
    foldAt n (.heading head covered false (conceal covered inner) :: rest)
        (⟨head, folded, parent, children⟩, n) =
      .heading head covered head.foldable (conceal (covered || head.foldable) inner) :: rest := by
  rw [foldAt, Nat.sub_self, updateAt_heading_zero, Item.toggle]
  cases head.foldable with
  -- Whatever is hidden already, all below the heading is hidden now.
  | true => rw [if_pos rfl, Bool.not_false, setHidden_conceal, Bool.or_true]
  | false => rw [if_neg Bool.false_ne_true, Bool.or_false]

theorem conceal_foldInitially_heading :
    conceal covered (foldInitially (.heading head false false inner :: rest)) =
      .heading head covered head.foldable
          (conceal (covered || head.foldable) (foldInitially inner)) ::
        conceal covered (foldInitially rest) := by
  rw [foldInitially_heading, conceal, Item.toggle]
  cases head.foldable with
  | true => rw [if_pos rfl, Bool.not_false, Item.conceal, conceal_setHidden]
  | false => rw [if_neg Bool.false_ne_true, Item.conceal]

end InOrder

/-- Toggling one heading after the other hides what should be hidden, also where all of it is. -/
theorem foldl_foldAt_conceal (covered : Bool) (parent : Option Nat) (n : Nat)
    (items : List Item) :
    ((entries parent n items).zipIdx n).foldl (foldAt n) (conceal covered (bare items)) =
      conceal covered (foldInitially (bare items)) := by
  induction items using forest_induction generalizing covered parent n with
  | nil => rfl
  | element index hidden rest ih =>
    rw [entries_element, bare_element, conceal_element, foldl_foldAt_element, ih,
      foldInitially_element, conceal_element]
  | heading head hidden folded inner rest ihInner ih =>
    have hsizes : sizes (conceal (covered || head.foldable) (bare inner)) = sizes inner := by
      rw [sizes_congr (bare_conceal _ _), sizes_bare]
    have hsizes' : sizes (conceal (covered || head.foldable) (foldInitially (bare inner))) =
        sizes inner := by
      rw [sizes_congr (bare_conceal _ _), sizes_congr (bare_foldInitially _), sizes_bare]
    have hinner : ∀ entry ∈ (entries (some n) (n + 1) inner).zipIdx (n + 1),
        n < entry.2 ∧
          entry.2 ≤ n + sizes (conceal (covered || head.foldable) (bare inner)) := by
      intro entry hentry
      have hbounds := List.mem_zipIdx hentry
      rw [length_entries] at hbounds
      rw [hsizes]
      omega
    have hlater : ∀ entry ∈ (entries parent (n + (1 + sizes inner)) rest).zipIdx
          (n + (1 + sizes inner)),
        n + (1 + sizes (conceal (covered || head.foldable) (foldInitially (bare inner)))) ≤
          entry.2 :=
      fun entry hentry => hsizes' ▸ (List.mem_zipIdx hentry).1
    rw [bare_heading, conceal_foldInitially_heading, conceal_heading, Bool.or_false,
      entries_heading, List.zipIdx_cons, List.zipIdx_append, List.foldl_cons, List.foldl_append,
      foldAt_conceal, foldl_foldAt_inner hinner, ihInner, length_entries, Nat.add_assoc n,
      foldl_foldAt_later hlater, hsizes', ih]

/-- **The headings that start folded are toggled in the order of the article.** -/
theorem build_eq_foldl (elements : List ArticleElement) :
    build elements = (entries none 0 (ofElements elements)).zipIdx.foldl (foldAt 0)
      (ofElements elements) := by
  have hfold := foldl_foldAt_conceal false none 0 (ofElements elements)
  rw [conceal_bare, conceal_foldInitially, bare_ofElements] at hfold
  exact hfold.symm

/-- **The headings that start folded are folded.** -/
theorem map_folded_foldInitially (parent : Option Nat) (n : Nat) (items : List Item) :
    (entries parent n (foldInitially (bare items))).map Entry.folded =
      (entries parent n items).map (·.head.foldable) := by
  induction items using forest_induction generalizing parent n with
  | nil => rfl
  | element index hidden rest ih =>
    rw [bare_element, foldInitially_element, entries_element, entries_element, ih]
  | heading head hidden folded inner rest ihInner ih =>
    have hsizes : sizes (conceal (false || head.foldable) (foldInitially (bare inner))) =
        sizes inner := by
      rw [sizes_congr (bare_conceal _ _), sizes_congr (bare_foldInitially _), sizes_bare]
    rw [← entries_conceal false, bare_heading, conceal_foldInitially_heading, entries_heading,
      entries_heading, List.map_cons, List.map_cons, List.map_append, List.map_append, hsizes,
      entries_conceal, entries_conceal, ihInner, ih]

theorem map_folded_build (elements : List ArticleElement) :
    (entries none 0 (build elements)).map Entry.folded =
      (headings elements).map Heading.foldable := by
  have hread : Outlines elements (ofElements elements) := rfl
  have hfolded := map_folded_foldInitially none 0 (ofElements elements)
  rw [bare_ofElements, ← build] at hfolded
  rw [hfolded, ← hread.map_head_entries, List.map_map]
  rfl

/-! ## What a toggle folds -/

theorem modify_append_of_lt {α : Type} {f : α → α} {k : Nat} {l l' : List α} (h : k < l.length) :
    (l ++ l').modify k f = l.modify k f ++ l' := by
  induction l generalizing k with
  | nil => exact absurd h (Nat.not_lt_zero k)
  | cons a l ih =>
    cases k with
    | zero => rfl
    | succ k =>
      rw [List.cons_append, List.modify_succ_cons, List.modify_succ_cons, List.cons_append,
        ih (Nat.lt_of_succ_lt_succ h)]

theorem modify_append_add_length {α : Type} {f : α → α} (k : Nat) (l l' : List α) :
    (l ++ l').modify (k + l.length) f = l ++ l'.modify k f := by
  induction l with
  | nil => rfl
  | cons a l ih =>
    rw [List.cons_append, List.length_cons, ← Nat.add_assoc, List.modify_succ_cons, ih,
      List.cons_append]

/-- The entry of a heading that is toggled. -/
def Entry.toggle (e : Entry) : Entry := { e with folded := !e.folded }

/-- **A toggle folds or unfolds one heading** and changes nothing else of the entries. -/
theorem entries_updateAt_toggle (parent : Option Nat) (n k : Nat) (items : List Item) :
    entries parent n (updateAt Item.toggle k items) =
      (entries parent n items).modify k Entry.toggle := by
  induction k, items using number_induction generalizing parent n with
  | nil k => rw [updateAt_nil, entries_nil, List.modify_nil]
  | element index hidden rest k ih => rw [updateAt_element, entries_element, entries_element, ih]
  | self head hidden folded inner rest =>
    have hinner := bare_setHidden (!folded) inner
    rw [updateAt_heading_zero, Item.toggle, entries_heading, entries_heading,
      List.modify_zero_cons, refs_congr hinner, sizes_congr hinner, entries_setHidden]
    rfl
  | inner head hidden folded inner rest k hk ih =>
    have hinner := bare_updateAt Item.bare_toggle k inner
    have hlt : k < (entries (some n) (n + 1) inner).length := by rwa [length_entries]
    rw [updateAt_heading_inner hk, entries_heading, entries_heading, List.modify_succ_cons,
      modify_append_of_lt hlt, refs_congr hinner, sizes_congr hinner, ih]
  | later head hidden folded inner rest k ih =>
    have hlater := modify_append_add_length (f := Entry.toggle) k
      (entries (some n) (n + 1) inner) (entries parent (n + (1 + sizes inner)) rest)
    rw [length_entries] at hlater
    rw [updateAt_heading_later, entries_heading, entries_heading, List.modify_succ_cons, hlater, ih]

end WikiPress.Outline
