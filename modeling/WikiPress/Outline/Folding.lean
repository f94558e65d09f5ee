import WikiPress.Outline.Basic

/-!
# Outline/Folding — folding and unfolding sections

Toggling a heading hides or shows everything below it.  The descent stops at headings that are
folded themselves: what is below them is hidden already and stays so.
-/

namespace WikiPress.Outline

mutual

/-- Hide or show an item below a heading that is toggled. -/
def Item.setHidden (hidden : Bool) : Item → Item
  | .element index _ => .element index hidden
  | .heading head _ folded items =>
    .heading head hidden folded (if folded then items else setHidden hidden items)

/-- Hide or show the items below a heading that is toggled. -/
def setHidden (hidden : Bool) : List Item → List Item
  | [] => []
  | item :: rest => item.setHidden hidden :: setHidden hidden rest

end

/-- Fold a heading that is unfolded, or the other way round. -/
def Item.toggle : Item → Item
  | .element index hidden => .element index hidden
  | .heading head hidden folded items =>
    .heading head hidden (!folded) (Outline.setHidden (!folded) items)

mutual

/-- Toggle the first heading with an id in an item; gives its new state. -/
def Item.toggleId? (id : Text) : Item → Option (Bool × Item)
  | .element .. => none
  | .heading head hidden folded items =>
    if head.id == id then some (!folded, (Item.heading head hidden folded items).toggle)
    else (toggleId? id items).map fun (state, items) => (state, .heading head hidden folded items)

/-- **Toggle the first heading with an id**; gives its new state and the outline.  There is none when
no heading has the id. -/
def toggleId? (id : Text) : List Item → Option (Bool × List Item)
  | [] => none
  | item :: rest =>
    match item.toggleId? id with
    | some (state, item) => some (state, item :: rest)
    | none => (toggleId? id rest).map fun (state, rest) => (state, item :: rest)

end

mutual

/-- Fold the headings of an item that start folded, the inner ones first. -/
def Item.foldInitially : Item → Item
  | .element index hidden => .element index hidden
  | .heading head hidden folded items =>
    let item := Item.heading head hidden folded (foldInitially items)
    if head.foldable then item.toggle else item

/-- Fold the headings of items that start folded, the inner ones first. -/
def foldInitially : List Item → List Item
  | [] => []
  | item :: rest => item.foldInitially :: foldInitially rest

end

/-- **The outline of an article as it is first shown.** -/
def build (elements : List ArticleElement) : List Item := foldInitially (ofElements elements)

end WikiPress.Outline
