import WikiPress.Html.Forest
import Mathlib.Tactic.Common

/-!
# Proofs/Html/Forest — a page that grows at its end

    0 page ── 1 html ─┬─ 2 head
                      └─ 3 body ─┬─ 4 h2 ── 5 text
                                 └─ 6 ul ── 7 li …

As long as nodes are only added behind all others, every node has the number after its last
predecessor in the order of the source.  So what is shown from a number on up to another one is a
matter of the slots between them (`ShowsAll.congr`), and the open elements divide the numbers into what
is finished at each of them (`Spine`).  An element opened, an element closed and a text added change the
innermost levels only (`Spine.open`, `Spine.close`, `Spine.addText`).
-/

namespace WikiPress.Html

namespace Forest

/-! ## Slots -/

/-- The slot of a number. -/
def slot? (f : Forest) (id : Nat) : Option Slot := f.slots[id]?

variable {f f' : Forest} {id parent j : Nat}

theorem lt_nextId {slot : Slot} (h : f.slot? id = some slot) : id < f.nextId := by
  by_contra hle
  rw [slot?, Array.getElem?_eq_none (Nat.le_of_not_lt hle)] at h
  cases h

theorem slot?_change (g : Slot → Slot) :
    (f.change id g).slot? j = if j = id then (f.slot? id).map g else f.slot? j := by
  unfold change slot?
  rcases hslot : f.slots[id]? with _ | slot
  · dsimp only
    by_cases h : j = id
    · rw [if_pos h, h, hslot]; rfl
    · rw [if_neg h]
  · have hlt : id < f.slots.size := lt_nextId hslot
    dsimp only
    rw [Array.set!_eq_setIfInBounds, Array.getElem?_setIfInBounds, if_pos hlt]
    by_cases h : j = id
    · rw [if_pos h, if_pos h.symm]; rfl
    · rw [if_neg h, if_neg (Ne.symm h)]

@[simp] theorem nextId_change (g : Slot → Slot) : (f.change id g).nextId = f.nextId := by
  unfold change nextId
  split
  · exact Array.size_setIfInBounds ..
  · rfl

theorem slot?_create (kind : NodeKind) :
    (f.create kind).slot? j = if j = f.nextId then some ⟨kind, none, []⟩ else f.slot? j :=
  Array.getElem?_push

@[simp] theorem nextId_create (kind : NodeKind) : (f.create kind).nextId = f.nextId + 1 :=
  Array.size_push _

/-- Add a node at the end of another one. -/
def addChild (f : Forest) (parent : Nat) (kind : NodeKind) : Forest :=
  (f.create kind).append parent f.nextId

theorem addChild_eq (kind : NodeKind) : f.addChild parent kind =
    ((f.create kind).change parent fun slot =>
      { slot with children := slot.children ++ [f.nextId] }).change f.nextId
        fun slot => { slot with parent := some parent } := by
  have hparent : (f.create kind).parent? f.nextId = none := by
    have hslot := slot?_create (f := f) (j := f.nextId) kind
    rw [if_pos rfl] at hslot
    unfold parent?
    rw [← slot?, hslot]
    rfl
  unfold addChild append detach
  rw [hparent]

@[simp] theorem nextId_addChild (kind : NodeKind) :
    (f.addChild parent kind).nextId = f.nextId + 1 := by
  rw [addChild_eq, nextId_change, nextId_change, nextId_create]

/-- **A node that is added** has the next number, and its parent is the only other one to change. -/
theorem slot?_addChild (kind : NodeKind) (hparent : parent < f.nextId) :
    (f.addChild parent kind).slot? j =
      if j = f.nextId then some ⟨kind, some parent, []⟩
      else if j = parent then
        (f.slot? parent).map fun slot => { slot with children := slot.children ++ [f.nextId] }
      else f.slot? j := by
  have hne : parent ≠ f.nextId := Nat.ne_of_lt hparent
  rw [addChild_eq, slot?_change, slot?_change, slot?_change, slot?_create, slot?_create, slot?_create]
  rw [if_neg hne.symm, if_neg hne, if_pos rfl]
  by_cases hj : j = f.nextId
  · rw [if_pos hj, if_pos hj]
    rfl
  · rw [if_neg hj, if_neg hj, if_neg hj]

/-! ## What is shown -/

mutual

/-- A node that is finished: it and those inside have the numbers from `lo` up to, but not including,
`hi`. -/
inductive Shows (f : Forest) : (lo : Nat) → Node → (hi : Nat) → Prop
  | text {lo t parent} (h : f.slot? lo = some ⟨.text t, parent, []⟩) :
    Shows f lo (.text t) (lo + 1)
  | element {lo hi space name attributes children parent ids}
    (h : f.slot? lo = some ⟨.element space name attributes, parent, ids⟩)
    (hchildren : ShowsAll f (lo + 1) children ids hi) :
    Shows f lo (.element space name attributes children) hi

/-- **Finished nodes**, one after another from `lo` up to `hi`, with their numbers. -/
inductive ShowsAll (f : Forest) : (lo : Nat) → List Node → (ids : List Nat) → (hi : Nat) → Prop
  | nil {lo} : ShowsAll f lo [] [] lo
  | cons {lo mid hi node rest ids} (h : Shows f lo node mid) (hrest : ShowsAll f mid rest ids hi) :
    ShowsAll f lo (node :: rest) (lo :: ids) hi

end

variable {lo mid hi : Nat} {node : Node} {nodes more : List Node} {ids ids' : List Nat}

mutual

theorem Shows.lt : ∀ {lo hi : Nat} {node : Node}, Shows f lo node hi → lo < hi
  | lo, _, _, .text _ => Nat.lt_succ_self lo
  | lo, _, _, .element _ hchildren => Nat.lt_of_lt_of_le (Nat.lt_succ_self lo) hchildren.le

theorem ShowsAll.le : ∀ {lo hi : Nat} {nodes : List Node} {ids : List Nat},
    ShowsAll f lo nodes ids hi → lo ≤ hi
  | lo, _, _, _, .nil => Nat.le_refl lo
  | _, _, _, _, .cons h hrest => Nat.le_trans (Nat.le_of_lt h.lt) hrest.le

end

mutual

theorem Shows.congr : ∀ {lo hi : Nat} {node : Node}, Shows f lo node hi →
    (∀ j, lo ≤ j → j < hi → f'.slot? j = f.slot? j) → Shows f' lo node hi
  | lo, _, _, .text h, hsame => .text (by rw [hsame lo (Nat.le_refl _) (Nat.lt_succ_self _), h])
  | lo, _, _, .element h hchildren, hsame =>
    .element
      (by rw [hsame lo (Nat.le_refl _) (Nat.lt_of_lt_of_le (Nat.lt_succ_self lo) hchildren.le), h])
      (hchildren.congr fun j hlo hhi => hsame j (Nat.le_of_succ_le hlo) hhi)

/-- **What is shown depends on the slots in between.** -/
theorem ShowsAll.congr : ∀ {lo hi : Nat} {nodes : List Node} {ids : List Nat},
    ShowsAll f lo nodes ids hi → (∀ j, lo ≤ j → j < hi → f'.slot? j = f.slot? j) →
      ShowsAll f' lo nodes ids hi
  | _, _, _, _, .nil, _ => .nil
  | _, _, _, _, .cons h hrest, hsame =>
    .cons (h.congr fun j hlo hhi => hsame j hlo (Nat.lt_of_lt_of_le hhi hrest.le))
      (hrest.congr fun j hlo hhi => hsame j (Nat.le_trans (Nat.le_of_lt h.lt) hlo) hhi)

end

theorem ShowsAll.append (h : ShowsAll f lo nodes ids mid) (hmore : ShowsAll f mid more ids' hi) :
    ShowsAll f lo (nodes ++ more) (ids ++ ids') hi := by
  induction nodes generalizing lo ids with
  | nil => cases h; exact hmore
  | cons node nodes ih =>
    cases h with
    | cons h hrest => exact .cons h (ih hrest)

theorem ShowsAll.of_append (h : ShowsAll f lo (nodes ++ more) ids hi) : ∃ ids₁ ids₂ mid,
    ids = ids₁ ++ ids₂ ∧ ShowsAll f lo nodes ids₁ mid ∧ ShowsAll f mid more ids₂ hi := by
  induction nodes generalizing lo ids with
  | nil => exact ⟨[], ids, lo, rfl, .nil, h⟩
  | cons node nodes ih =>
    cases h with
    | cons h hrest =>
      obtain ⟨ids₁, ids₂, mid, rfl, hnodes, hmore⟩ := ih hrest
      exact ⟨_ :: ids₁, ids₂, mid, rfl, .cons h hnodes, hmore⟩

theorem ShowsAll.snoc (h : ShowsAll f lo nodes ids mid) (hnode : Shows f mid node hi) :
    ShowsAll f lo (nodes ++ [node]) (ids ++ [mid]) hi := h.append (.cons hnode .nil)

theorem kind_of_slot? {slot : Slot} (h : f.slot? id = some slot) : f.kind id = slot.kind := by
  unfold kind
  rw [← slot?, h]

theorem children_of_slot? {slot : Slot} (h : f.slot? id = some slot) :
    f.children id = slot.children := by
  unfold children
  rw [← slot?, h]

mutual

/-- What is shown is the tree that is read off the forest. -/
theorem Shows.toNode : ∀ {lo hi : Nat} {node : Node}, Shows f lo node hi → ∀ {depth : Nat},
    hi ≤ lo + depth → f.toNode depth lo = node
  | _, _, _, h, 0, hdepth => absurd h.lt (Nat.not_lt.2 hdepth)
  | _, _, _, .text h, depth + 1, _ => by
    unfold Forest.toNode
    rw [kind_of_slot? h]
  | lo, hi, _, .element h hchildren, depth + 1, hdepth => by
    unfold Forest.toNode
    rw [kind_of_slot? h, children_of_slot? h]
    exact congrArg _ (hchildren.map_toNode (by omega))

theorem ShowsAll.map_toNode : ∀ {lo hi : Nat} {nodes : List Node} {ids : List Nat},
    ShowsAll f lo nodes ids hi → ∀ {depth : Nat}, hi ≤ lo + depth → ids.map (f.toNode depth) = nodes
  | _, _, _, _, .nil, _, _ => rfl
  | lo, _, _, _, .cons h hrest, depth, hdepth => by
    have hlt := h.lt
    have hle := hrest.le
    rw [List.map_cons, h.toNode (by omega), hrest.map_toNode (by omega)]

end

/-! ## The open elements -/

/-- An open element of HTML with what is finished in it. -/
structure Level where
  name : Text
  attributes : List Attribute
  done : List Node

/-- The element that ends. -/
def Level.close (l : Level) : Node := .element .html l.name l.attributes l.done

/-- A level with a further node. -/
def Level.add (l : Level) (node : Node) : Level := { l with done := l.done ++ [node] }

/-- **The open elements**, the innermost first, divide the numbers up to `next` into what is finished
in each of them; `inner` is the number of the element that is open inside. -/
inductive Spine (f : Forest) :
    (opened : List Nat) → List Level → (next : Nat) → (inner : List Nat) → Prop
  | page {inner} (h : f.slot? 0 = some ⟨.page, none, inner⟩) : Spine f [] [] 1 inner
  | level {id outer l ls parent ids next inner} (houter : Spine f outer ls id [id])
    (h : f.slot? id = some ⟨.element .html l.name l.attributes, parent, ids ++ inner⟩)
    (hdone : ShowsAll f (id + 1) l.done ids next) : Spine f (id :: outer) (l :: ls) next inner

variable {opened outer : List Nat} {l l' : Level} {ls : List Level} {next : Nat} {inner : List Nat}

theorem Spine.congr (h : Spine f opened ls next inner)
    (hsame : ∀ j, j < next → f'.slot? j = f.slot? j) : Spine f' opened ls next inner := by
  induction h with
  | page h => exact .page (by rw [hsame 0 Nat.zero_lt_one, h])
  | level houter h hdone ih =>
    have hle := hdone.le
    exact .level (ih fun j hj => hsame j (by omega)) (by rw [hsame _ (by omega), h])
      (hdone.congr fun j _ hj => hsame j hj)

theorem Spine.slot? (h : Spine f (id :: outer) (l :: ls) next inner) : ∃ parent children,
    f.slot? id = some ⟨.element .html l.name l.attributes, parent, children⟩ := by
  cases h with
  | level _ h _ => exact ⟨_, _, h⟩

/-- **The innermost element ends** and is finished in the one around it. -/
theorem Spine.close (h : Spine f (id :: j :: outer) (l :: l' :: ls) next []) :
    Spine f (j :: outer) (l'.add l.close :: ls) next [] := by
  cases h with
  | level houter h hdone =>
    rw [List.append_nil] at h
    cases houter with
    | level houter' h' hdone' =>
      exact .level houter' (by rw [List.append_nil]; exact h') (hdone'.snoc (.element h hdone))

/-- The spine of a forest with a further node at its end. -/
theorem Spine.addChild (h : Spine f (id :: outer) (l :: ls) f.nextId []) (kind : NodeKind) :
    Spine (f.addChild id kind) (id :: outer) (l :: ls) f.nextId [f.nextId] := by
  cases h with
  | level houter h hdone =>
    rename_i parent ids
    have hlt := lt_nextId h
    have hsame : ∀ j, j < f.nextId → j ≠ id → (f.addChild id kind).slot? j = f.slot? j := by
      intro j hj hne
      rw [slot?_addChild kind hlt, if_neg (Nat.ne_of_lt hj), if_neg hne]
    have hslot : (f.addChild id kind).slot? id =
        some ⟨.element .html l.name l.attributes, parent, ids ++ [f.nextId]⟩ := by
      rw [slot?_addChild kind hlt, if_neg (Nat.ne_of_lt hlt), if_pos rfl, h, List.append_nil]
      rfl
    exact .level (houter.congr fun j hj => hsame j (by omega) (by omega)) hslot
      (hdone.congr fun j hlo hhi => hsame j hhi (by omega))

theorem slot?_addChild_nextId (kind : NodeKind) (hparent : parent < f.nextId) :
    (f.addChild parent kind).slot? f.nextId = some ⟨kind, some parent, []⟩ := by
  rw [slot?_addChild kind hparent, if_pos rfl]

theorem Spine.id_lt (h : Spine f (id :: outer) (l :: ls) next inner) : id < f.nextId := by
  obtain ⟨_, _, hslot⟩ := h.slot?
  exact lt_nextId hslot

/-- **An element is opened** at the end. -/
theorem Spine.open (h : Spine f (id :: outer) (l :: ls) f.nextId []) (name : Text)
    (attributes : List Attribute) :
    Spine (f.addChild id (.element .html name attributes)) (f.nextId :: id :: outer)
      (⟨name, attributes, []⟩ :: l :: ls) (f.nextId + 1) [] :=
  .level (h.addChild _) (slot?_addChild_nextId _ h.id_lt) .nil

/-! ## Texts -/

/-- Nodes with a text behind them, which joins a text that is the last node. -/
def joinText (nodes : List Node) (t : Text) : List Node :=
  match t, nodes.getLast? with
  | [], _ => nodes
  | _, some (.text old) => nodes.dropLast ++ [.text (old ++ t)]
  | _, _ => nodes ++ [.text t]

theorem joinText_append_text (nodes : List Node) (old t : Text) :
    joinText (nodes ++ [.text old]) t = nodes ++ [.text (old ++ t)] := by
  unfold joinText
  rw [List.getLast?_concat, List.dropLast_concat]
  cases t with
  | nil => rw [List.append_nil]
  | cons c t => rfl

theorem joinText_nil (nodes : List Node) : joinText nodes [] = nodes := rfl

theorem joinText_of_getLast? {t : Text} (ht : t ≠ [])
    (h : ∀ old, nodes.getLast? ≠ some (.text old)) : joinText nodes t = nodes ++ [.text t] := by
  unfold joinText
  split
  · exact absurd rfl ht
  next heq => exact absurd heq (h _)
  · rfl

/-- **Texts that are added one after another** are one text. -/
theorem joinText_joinText (nodes : List Node) (s t : Text) :
    joinText (joinText nodes s) t = joinText nodes (s ++ t) := by
  by_cases hs : s = []
  · rw [hs, joinText_nil, List.nil_append]
  · have hst : s ++ t ≠ [] := fun h => hs (List.append_eq_nil_iff.1 h).1
    rcases List.eq_nil_or_concat nodes with rfl | ⟨front, last, rfl⟩
    · rw [joinText_of_getLast? hs (by simp), joinText_append_text, joinText_of_getLast? hst (by simp)]
    · rw [List.concat_eq_append]
      by_cases hlast : ∃ old, last = .text old
      · obtain ⟨old, rfl⟩ := hlast
        rw [joinText_append_text, joinText_append_text, joinText_append_text, List.append_assoc]
      · have hno : ∀ old, (front ++ [last]).getLast? ≠ some (.text old) := by
          intro old h
          rw [List.getLast?_concat] at h
          exact hlast ⟨old, Option.some.inj h⟩
        rw [joinText_of_getLast? hs hno, joinText_append_text, joinText_of_getLast? hst hno]

/-- The last number of finished nodes is that of the last node. -/
theorem ShowsAll.getLast? (h : ShowsAll f lo nodes ids hi) :
    (nodes = [] ∧ ids = []) ∨ ∃ front last frontIds id, nodes = front ++ [last] ∧
      ids = frontIds ++ [id] ∧ ShowsAll f lo front frontIds id ∧ Shows f id last hi := by
  rcases List.eq_nil_or_concat nodes with rfl | ⟨front, last, rfl⟩
  · cases h
    exact .inl ⟨rfl, rfl⟩
  · rw [List.concat_eq_append] at h ⊢
    obtain ⟨frontIds, _, mid, rfl, hfront, hlast⟩ := h.of_append
    cases hlast with
    | cons hlast hrest =>
      cases hrest
      exact .inr ⟨front, last, frontIds, mid, rfl, rfl, hfront, hlast⟩

/-- A text that joins no other one is a node of its own… -/
theorem Spine.addText (h : Spine f (id :: outer) (l :: ls) f.nextId []) (t : Text) :
    Spine (f.addChild id (.text t)) (id :: outer) (l.add (.text t) :: ls) (f.nextId + 1) [] := by
  have hadded := h.addChild (.text t)
  cases hadded with
  | level houter hslot hdone =>
    exact .level houter (by rw [List.append_nil]; exact hslot)
      (hdone.snoc (.text (slot?_addChild_nextId _ h.id_lt)))

/-- …and one that joins the last node of the innermost element changes that node. -/
theorem Spine.changeText {parent around : Option Nat} {front : List Node} {frontIds : List Nat}
    {k : Nat} {old : Text} (houter : Spine f outer ls id [id])
    (hslot : f.slot? id = some ⟨.element .html l.name l.attributes, around, frontIds ++ [k]⟩)
    (hfront : ShowsAll f (id + 1) front frontIds k)
    (hk : f.slot? k = some ⟨.text old, parent, []⟩) (t : Text) :
    Spine (f.change k fun slot => { slot with kind := .text (old ++ t) }) (id :: outer)
      ({ l with done := front ++ [.text (old ++ t)] } :: ls) (k + 1) [] := by
  have hid : id < k := hfront.le
  have hsame : ∀ j, j < k →
      (f.change k fun slot => { slot with kind := .text (old ++ t) }).slot? j = f.slot? j := by
    intro j hj
    rw [slot?_change, if_neg (Nat.ne_of_lt hj)]
  have hk' : (f.change k fun slot => { slot with kind := .text (old ++ t) }).slot? k =
      some ⟨.text (old ++ t), parent, []⟩ := by
    rw [slot?_change, if_pos rfl, hk]
    rfl
  exact .level (houter.congr fun j hj => hsame j (by omega))
    (by rw [hsame id hid, hslot, List.append_nil])
    ((hfront.congr fun j _ hj => hsame j hj).snoc (.text hk'))

theorem appendText_eq_addChild {t : Text} (h : f.extendText? (f.children id).getLast? t = none) :
    f.appendText id t = f.addChild id (.text t) := by
  rw [Forest.appendText, h]
  rfl

theorem appendText_eq_change {ids : List Nat} {k : Nat} {old : Text}
    (hchildren : f.children id = ids ++ [k]) (hk : f.kind k = .text old) (t : Text) :
    f.appendText id t = f.change k fun slot => { slot with kind := .text (old ++ t) } := by
  rw [Forest.appendText, hchildren, List.getLast?_concat, extendText?, hk]

/-- **Text is added** at the end of the innermost element. -/
theorem Spine.appendText (h : Spine f (id :: outer) (l :: ls) f.nextId []) {t : Text}
    (ht : t ≠ []) :
    Spine (f.appendText id t) (id :: outer) ({ l with done := joinText l.done t } :: ls)
      (f.appendText id t).nextId [] := by
  have hadd := h.addText t
  -- without a text at the end a node is added
  have hnew : f.extendText? (f.children id).getLast? t = none →
      (∀ old, l.done.getLast? ≠ some (.text old)) →
      Spine (f.appendText id t) (id :: outer) ({ l with done := joinText l.done t } :: ls)
        (f.appendText id t).nextId [] := by
    intro hextend hlast
    rw [joinText_of_getLast? ht hlast, appendText_eq_addChild hextend, nextId_addChild]
    exact hadd
  cases h with
  | level houter hslot hdone =>
    rename_i parent ids
    rw [List.append_nil] at hslot
    have hchildren : f.children id = ids := children_of_slot? hslot
    rw [hchildren] at hnew
    obtain ⟨hnodes, rfl⟩ | ⟨front, last, frontIds, k, hnodes, rfl, hfront, hlast⟩ := hdone.getLast?
    · exact hnew rfl (by rw [hnodes]; simp)
    · rw [List.getLast?_concat] at hnew
      generalize hnext : f.nextId = next at hlast
      cases hlast with
      | element hk hinside =>
        refine hnew ?_ (by rw [hnodes]; simp)
        rw [extendText?, kind_of_slot? hk]
      | text hk =>
        rw [hnodes, joinText_append_text, appendText_eq_change hchildren (kind_of_slot? hk),
          nextId_change, hnext]
        exact houter.changeText hslot hfront hk t

/-! ## The finished page -/

/-- **With one element open the page is that element**, ended. -/
theorem Spine.toNodes (h : Spine f [id] [l] f.nextId []) : f.toNodes = [l.close] := by
  cases h with
  | level houter h hdone =>
    rw [List.append_nil] at h
    cases houter with
    | page hpage =>
      have hshown : Shows f 1 l.close f.nextId := .element h hdone
      have hdepth : f.toNode f.slots.size 1 = l.close := hshown.toNode (Nat.le_add_left _ _)
      unfold Forest.toNodes
      rw [children_of_slot? hpage]
      exact congrArg (fun node => [node]) hdepth

end Forest

end WikiPress.Html
