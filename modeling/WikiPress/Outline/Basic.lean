import WikiPress.Text.Basic

/-!
# Outline/Basic — the headings of an article, nested by level

An article is a flat list of elements.  Reading it from the start, a heading is put under the nearest
heading before it of a smaller level, and any other element under the last heading.  The elements
from the footnotes on stay outside.  Headings and elements carry their visibility, so that folding
is a change of the tree.
-/

namespace WikiPress

/-- A top-level element of an article. -/
inductive ArticleElement
  /-- A heading; `foldable` tells whether it starts folded. -/
  | heading (level : Nat) (id text : Text) (foldable : Bool)
  /-- Any other element. -/
  | body
  /-- The footnotes. -/
  | footnotes
deriving DecidableEq, Repr

namespace Outline

/-- What a heading says. -/
structure Heading where
  /-- The position of the heading in the article. -/
  element : Nat
  level : Nat
  id : Text
  text : Text
  /-- Whether the heading starts folded. -/
  foldable : Bool
deriving DecidableEq, Repr

/-- An item of the outline: an element without a heading of its own, or a heading with the items
below it. -/
inductive Item
  /-- The element at a position of the article. -/
  | element (index : Nat) (hidden : Bool)
  /-- A heading with the items below it. -/
  | heading (head : Heading) (hidden folded : Bool) (items : List Item)
deriving Repr

/-- A heading whose section has not ended, with the items below it so far, the last first. -/
structure Open where
  head : Heading
  items : List Item
deriving Repr

/-- The item of a section that ends. -/
def Open.close (o : Open) : Item := .heading o.head false false o.items.reverse

/-- The outline under construction: the open sections from the inside out, and the finished items
outside them, the last first. -/
structure Growing where
  opened : List Open
  done : List Item
deriving Repr

/-- Put an item into the innermost open section. -/
def Growing.add (g : Growing) (item : Item) : Growing :=
  match g.opened with
  | [] => { g with done := item :: g.done }
  | o :: outer => { g with opened := { o with items := item :: o.items } :: outer }

/-- End the sections of the given level and below; `inner` is the section inside them that has
ended, if there is one. -/
def closeWith (level : Nat) : List Open → (inner : Option Item) → List Item → Growing
  | [], inner, done => ⟨[], inner.toList ++ done⟩
  | o :: outer, inner, done =>
    let o := { o with items := inner.toList ++ o.items }
    if o.head.level < level then ⟨o :: outer, done⟩ else closeWith level outer (some o.close) done

/-- End the sections of the given level and below. -/
def closeFrom (level : Nat) (opened : List Open) (done : List Item) : Growing :=
  closeWith level opened none done

/-- Read the elements of an article from position `index` on. -/
def grow : (index : Nat) → Growing → List ArticleElement → Growing
  | _, g, [] => g
  | _, g, .footnotes :: _ => g
  | index, g, .body :: rest =>
    match g.opened with
    | [] => grow (index + 1) g rest
    | _ => grow (index + 1) (g.add (.element index false)) rest
  | index, g, .heading level id text foldable :: rest =>
    let g := closeFrom level g.opened g.done
    grow (index + 1) { g with opened := ⟨⟨index, level, id, text, foldable⟩, []⟩ :: g.opened } rest

/-- The outline of an article with nothing hidden: its top-level headings. -/
def ofElements (elements : List ArticleElement) : List Item :=
  let g := grow 0 ⟨[], []⟩ elements
  (closeFrom 0 g.opened g.done).done.reverse

/-! ## Views -/

mutual

/-- The number of headings of an item. -/
def Item.size : Item → Nat
  | .element .. => 0
  | .heading _ _ _ items => 1 + sizes items

/-- The number of headings of items. -/
def sizes : List Item → Nat
  | [] => 0
  | item :: rest => item.size + sizes rest

end

/-- A reference to an item: the number of a heading in document order, or the position of an
element. -/
inductive Ref
  | heading (number : Nat)
  | element (index : Nat)
deriving DecidableEq, Repr

/-- A heading with its place in the outline. -/
structure Entry where
  head : Heading
  folded : Bool
  /-- The number of the heading above. -/
  parent : Option Nat
  children : List Ref
deriving DecidableEq, Repr

/-- References to items whose first heading has the given number. -/
def refs : (number : Nat) → List Item → List Ref
  | _, [] => []
  | number, .element index _ :: rest => .element index :: refs number rest
  | number, .heading head hidden folded items :: rest =>
    .heading number :: refs (number + (Item.heading head hidden folded items).size) rest

mutual

/-- The headings of an item in document order, the first of which has the given number. -/
def Item.entries (parent : Option Nat) (number : Nat) : Item → List Entry
  | .element .. => []
  | .heading head _ folded items =>
    ⟨head, folded, parent, refs (number + 1) items⟩ :: entries (some number) (number + 1) items

/-- The headings of items in document order, the first of which has the given number. -/
def entries (parent : Option Nat) (number : Nat) : List Item → List Entry
  | [] => []
  | item :: rest => item.entries parent number ++ entries parent (number + item.size) rest

end

mutual

/-- The positions of the hidden elements of an item, headings included. -/
def Item.hiddenElements : Item → List Nat
  | .element index hidden => if hidden then [index] else []
  | .heading head hidden _ items =>
    (if hidden then [head.element] else []) ++ hiddenElements items

/-- The positions of the hidden elements of items, headings included. -/
def hiddenElements : List Item → List Nat
  | [] => []
  | item :: rest => item.hiddenElements ++ hiddenElements rest

end

/-- Whether the element at a position is hidden.  Elements outside the outline never are. -/
def isHidden (items : List Item) (index : Nat) : Bool := (hiddenElements items).contains index

end Outline

end WikiPress
