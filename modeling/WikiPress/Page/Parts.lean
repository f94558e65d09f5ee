import WikiPress.Page.Classes
import WikiPress.Html.Page
import WikiPress.Text.Escape

/-!
# Page/Parts — the tables and footnotes of a page

The head of a table is hidden if all its cells are empty.  The first section of footnotes begins with
a label, and its list has a class of its own.
-/

namespace WikiPress.Page

open Html

mutual

/-- Whether all the head cells in a node are empty. -/
def headCellsEmpty : Node → Bool
  | .element space name _ children =>
    if space == .html && name == lit "template" then true
    else
      (name != lit "th" || children.all fun child =>
        match child with
        | .text t => Text.allBlank t
        | _ => false) && allHeadCellsEmpty children
  | _ => true

/-- Whether all the head cells in nodes are empty. -/
def allHeadCellsEmpty : List Node → Bool
  | [] => true
  | node :: rest => headCellsEmpty node && allHeadCellsEmpty rest

end

mutual

/-- A node with the empty table heads in it hidden. -/
def hideEmptyHead : Node → Node
  | .element space name attributes children =>
    if space == .html && name == lit "template" then .element space name attributes children
    else
      let isEmpty := name == lit "thead" && allHeadCellsEmpty children
      .element space name (if isEmpty then addClass (lit "hidden") attributes else attributes)
        (hideEmptyHeads children)
  | node => node

/-- Nodes with the empty table heads among and in them hidden. -/
def hideEmptyHeads : List Node → List Node
  | [] => []
  | node :: rest => hideEmptyHead node :: hideEmptyHeads rest

end

mutual

/-- A node with the first element in it that satisfies `p` replaced; none if there is none. -/
def replaceFirst? (p : Node → Bool) (f : Node → List Node) : Node → Option (List Node)
  | .element space name attributes children =>
    if p (.element space name attributes children) then
      some (f (.element space name attributes children))
    else if space == .html && name == lit "template" then none
    else
      (replaceFirstAmong? p f children).map fun children =>
        [.element space name attributes children]
  | _ => none

/-- Nodes with the first element among and in them that satisfies `p` replaced; none if there is
none. -/
def replaceFirstAmong? (p : Node → Bool) (f : Node → List Node) : List Node → Option (List Node)
  | [] => none
  | node :: rest =>
    match replaceFirst? p f node with
    | some nodes => some (nodes ++ rest)
    | none => (replaceFirstAmong? p f rest).map (node :: ·)

end

/-- Nodes with the first element among and in them that satisfies `p` replaced, if there is one. -/
def replaceFirst (p : Node → Bool) (f : Node → List Node) (nodes : List Node) : List Node :=
  (replaceFirstAmong? p f nodes).getD nodes

/-- Whether a node is a section of footnotes. -/
def isNotes (node : Node) : Bool :=
  node.isNamed (lit "section") && isStyled (lit "footnotes") node

/-- A section of footnotes with its label. -/
def labelNotes (label : Text) (node : Node) : Node :=
  match node with
  | .element space name attributes children =>
    let children := replaceFirst (Node.isNamed (lit "ol"))
      (fun list => [mapAttributes (addClass (lit "footnotes-list")) list]) children
    let head := fragment (lit "<p>" ++ Text.escape label ++ lit "</p>")
    .element space name attributes (head ++ children)
  | node => node

/-- Nodes with the first section of footnotes among and in them labelled. -/
def labelFirstNotes (label : Text) (nodes : List Node) : List Node :=
  replaceFirst isNotes (fun node => [labelNotes label node]) nodes

end WikiPress.Page
