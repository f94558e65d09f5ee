import WikiPress.Html.Node

/-!
# Html/Forest — a page under construction

While a page is read, nodes are moved between parents, and elements are referred to from several
lists.  A forest gives every node a number; a node knows its parent and its children.  Node zero is
the page itself.  `toNodes` gives the finished page as a tree.
-/

namespace WikiPress.Html

/-- What a node is, apart from its place. -/
inductive NodeKind
  | page
  | text (t : Text)
  | comment (t : Text)
  | doctype (name : Text)
  | element (space : Namespace) (name : Text) (attributes : List Attribute)
deriving DecidableEq, Repr

/-- A node and its place. -/
structure Slot where
  kind : NodeKind
  parent : Option Nat
  children : List Nat
deriving Repr

/-- Nodes by number. -/
structure Forest where
  slots : Array Slot
deriving Repr

namespace Forest

/-- The forest of an empty page. -/
def empty : Forest := ⟨#[⟨.page, none, []⟩]⟩

/-- The kind of a node. -/
def kind (f : Forest) (id : Nat) : NodeKind :=
  match f.slots[id]? with
  | some slot => slot.kind
  | none => .page

/-- The parent of a node. -/
def parent? (f : Forest) (id : Nat) : Option Nat := f.slots[id]?.bind Slot.parent

/-- The children of a node. -/
def children (f : Forest) (id : Nat) : List Nat :=
  match f.slots[id]? with
  | some slot => slot.children
  | none => []

/-- Change a node. -/
def change (f : Forest) (id : Nat) (g : Slot → Slot) : Forest :=
  match f.slots[id]? with
  | some slot => ⟨f.slots.set! id (g slot)⟩
  | none => f

/-- Add a node without a place, whose number is the size of the forest before. -/
def create (f : Forest) (kind : NodeKind) : Forest := ⟨f.slots.push ⟨kind, none, []⟩⟩

/-- The number of the next node. -/
def nextId (f : Forest) : Nat := f.slots.size

/-- Take a node from its parent. -/
def detach (f : Forest) (id : Nat) : Forest :=
  match f.parent? id with
  | none => f
  | some parent =>
    let f := f.change parent fun slot => { slot with children := slot.children.filter (· != id) }
    f.change id fun slot => { slot with parent := none }

/-- Make a node the last child of another one. -/
def append (f : Forest) (parent id : Nat) : Forest :=
  let f := f.detach id
  let f := f.change parent fun slot => { slot with children := slot.children ++ [id] }
  f.change id fun slot => { slot with parent := some parent }

/-- Put a node before another one. -/
def insertBefore (f : Forest) (sibling id : Nat) : Forest :=
  match f.parent? sibling with
  | none => f
  | some parent =>
    let f := f.detach id
    let f := f.change parent fun slot =>
      { slot with children := slot.children.flatMap fun c => if c == sibling then [id, c] else [c] }
    f.change id fun slot => { slot with parent := some parent }

/-- Extend a text node, if the node is one. -/
def extendText? (f : Forest) (id : Option Nat) (t : Text) : Option Forest :=
  match id with
  | none => none
  | some id =>
    match f.kind id with
    | .text old => some (f.change id fun slot => { slot with kind := .text (old ++ t) })
    | _ => none

/-- Add text at the end of a node. -/
def appendText (f : Forest) (parent : Nat) (t : Text) : Forest :=
  match f.extendText? (f.children parent).getLast? t with
  | some f => f
  | none => (f.create (.text t)).append parent f.nextId

/-- The node before another one in a list. -/
def before? (id : Nat) : List Nat → Option Nat
  | a :: b :: rest => if b == id then some a else before? id (b :: rest)
  | _ => none

/-- Add text before a node. -/
def insertTextBefore (f : Forest) (sibling : Nat) (t : Text) : Forest :=
  let previous := (f.parent? sibling).bind fun parent => before? sibling (f.children parent)
  match f.extendText? previous t with
  | some f => f
  | none => (f.create (.text t)).insertBefore sibling f.nextId

/-- Move all children of a node to the end of another one. -/
def moveChildren (f : Forest) (source target : Nat) : Forest :=
  (f.children source).foldl (fun f id => f.append target id) f

/-- A node as a tree, down to a depth. -/
def toNode (f : Forest) : (depth : Nat) → (id : Nat) → Node
  | 0, _ => .text []
  | depth + 1, id =>
    match f.kind id with
    | .page => .text []
    | .text t => .text t
    | .comment t => .comment t
    | .doctype name => .doctype name
    | .element space name attributes =>
      .element space name attributes ((f.children id).map (toNode f depth))

/-- **The page as a list of trees.** -/
def toNodes (f : Forest) : List Node := (f.children 0).map (f.toNode f.slots.size)

end Forest

end WikiPress.Html
