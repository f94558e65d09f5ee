import WikiPress.Html.Builder

/-!
# Html/Formatting — restoring and closing elements for the look of text

A formatting element that is still open when its block ends goes on in the next block, as a copy.
The closing tag of a formatting element ends it even where other elements were opened inside and are
still open: these keep their content, and what they hold is put into copies.
-/

namespace WikiPress.Html.Builder

/-- Replace an entry of a list. -/
def replaceEntry {α : Type} [BEq α] (old new : α) (xs : List α) : List α :=
  xs.map fun x => if x == old then new else x

/-- A copy of an element, without content and place. -/
def copyOf (id : Nat) (b : Builder) : Builder := b.create (b.forest.kind id)

/-- Restore formatting elements, given with the first one first. -/
def restore : List Nat → Builder → Builder
  | [], b => b
  | id :: rest, b =>
    let (space, name) := b.element id
    let new := b.forest.nextId
    let b := b.insertElement space name (b.attributes id)
    restore rest { b with formatting := replaceEntry (some id) (some new) b.formatting }

/-- **Restore the formatting elements** that ended with their block. -/
def restoreFormatting (b : Builder) : Builder :=
  let ended := b.formatting.takeWhile fun entry =>
    match entry with
    | some id => !b.opened.contains id
    | none => false
  b.restore (ended.filterMap id).reverse

/-- Whether two elements have the same name and the same attributes in any order. -/
def sameElement (b : Builder) (x y : Nat) : Bool :=
  b.element x == b.element y && (b.attributes x).length == (b.attributes y).length
    && (b.attributes x).all (b.attributes y).contains

/-- Note that the innermost open element is a formatting element.  Of more than three alike in one
scope the first one is forgotten. -/
def pushFormatting (b : Builder) : Builder :=
  match b.current? with
  | none => b
  | some id =>
    let inScope := (b.formatting.takeWhile Option.isSome).filterMap fun entry => entry
    let alike := inScope.filter (b.sameElement id)
    let formatting := match alike.drop 2 with
      | [] => b.formatting
      | _ => b.formatting.filter fun entry => entry != alike.getLast?
    { b with formatting := some id :: formatting }

/-- The formatting element with a name in the current scope. -/
def formattingNamed? (b : Builder) (name : Text) : Option Nat :=
  ((b.formatting.takeWhile Option.isSome).filterMap fun entry => entry).find? (b.isNamed name)

/-- End the innermost open element with a name, unless a part of the structure of the page was opened
inside it. -/
def closeAny (name : Text) (b : Builder) : Builder :=
  go b.opened
where
  /-- The search along the open elements. -/
  go : List Nat → Builder
    | [] => b
    | id :: rest =>
      if b.isNamed name id then (b.impliedEnds name).popThrough (· == id)
      else if b.isSpecial id then b
      else go rest

/-- Put an entry before another one in a list, or at the end. -/
def insertBeforeEntry {α : Type} [BEq α] (mark new : α) (xs : List α) : List α :=
  if xs.contains mark then xs.flatMap fun x => if x == mark then [new, x] else [x] else xs ++ [new]

/-- The state of the walk from the inner block to the formatting element that ends. -/
structure Adoption where
  builder : Builder
  /-- The node that the next copy takes in. -/
  last : Nat
  /-- The entry of the formatting list after which the copy of the ending element will stand. -/
  bookmark : Option Nat

/-- Walk over the open elements between the inner block and the formatting element: formatting
elements are copied around what came before, and others end. -/
def adoptInner (block : Nat) : (count : Nat) → List Nat → Adoption → Adoption
  | _, [], a => a
  | count, node :: rest, a =>
    let b := a.builder
    let isFormatting := b.formatting.contains (some node)
    if !isFormatting || 3 ≤ count then
      let b := { b with
        opened := b.opened.filter (· != node)
        formatting := if isFormatting then b.formatting.filter (· != some node) else b.formatting }
      adoptInner block (count + 1) rest { a with builder := b }
    else
      let copy := b.forest.nextId
      let b := b.copyOf node
      let b := { b with
        opened := replaceEntry node copy b.opened
        formatting := replaceEntry (some node) (some copy) b.formatting
        forest := b.forest.append copy a.last }
      let bookmark := if a.last == block then some copy else a.bookmark
      adoptInner block (count + 1) rest ⟨b, copy, bookmark⟩

/-- One round of closing a formatting element: the builder afterwards, and whether another round may
follow. -/
def adoptOnce (name : Text) (b : Builder) : Builder × Bool :=
  match b.formattingNamed? name with
  | none => (b.closeAny name, false)
  | some element =>
    let inner := b.opened.takeWhile (· != element)
    if !b.opened.contains element then
      ({ b with formatting := b.formatting.filter (· != some element) }, false)
    else if !elementInScope b element b.opened then (b, false)
    else
      match (inner.filter b.isSpecial).getLast? with
      | none =>
        let b := b.popThrough (· == element)
        ({ b with formatting := b.formatting.filter (· != some element) }, false)
      | some block =>
        let outer := (b.opened.dropWhile (· != element)).drop 1
        let ancestor := outer.head?.getD 0
        let between := (inner.dropWhile (· != block)).drop 1
        let a := adoptInner block 0 between ⟨b, block, none⟩
        let b := a.builder
        let b := { b with forest := b.forest.detach a.last }
        let b := b.put (b.placeIn ancestor) a.last
        let copy := b.forest.nextId
        let b := b.copyOf element
        let forest := (b.forest.moveChildren block copy).append block copy
        let formatting := match a.bookmark with
          | some mark =>
            insertBeforeEntry (some mark) (some copy) (b.formatting.filter (· != some element))
          | none => replaceEntry (some element) (some copy) b.formatting
        let opened := insertBeforeEntry block copy (b.opened.filter (· != element))
        ({ b with forest := forest, formatting := formatting, opened := opened }, true)
where
  /-- Whether an element is in scope. -/
  elementInScope (b : Builder) (target : Nat) : List Nat → Bool
    | [] => false
    | id :: rest =>
      let (space, name) := b.element id
      if id == target then true
      else if Scope.standard.endsAt space name then false
      else elementInScope b target rest

/-- Rounds of closing a formatting element. -/
def adoptRounds (name : Text) : (rounds : Nat) → Builder → Builder
  | 0, b => b
  | rounds + 1, b =>
    match b.adoptOnce name with
    | (b, true) => adoptRounds name rounds b
    | (b, false) => b

/-- **The closing tag of a formatting element.** -/
def closeFormatting (name : Text) (b : Builder) : Builder :=
  match b.current? with
  | some id =>
    if b.isNamed name id && !b.formatting.contains (some id) then b.pop
    else b.adoptRounds name 8
  | none => b

end WikiPress.Html.Builder
