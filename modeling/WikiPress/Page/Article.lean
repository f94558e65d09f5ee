import WikiPress.Html.Node
import WikiPress.Outline.Contents
import WikiPress.Outline.Folding
import WikiPress.Page.Heading
import WikiPress.Page.Parts

/-!
# Page/Article — a page with its table of contents

The element children of a page are the elements of an article.  Its outline decides which of them
are hidden, and fills the place of the table of contents; without headings the place goes.
-/

namespace WikiPress.Page

open Html

/-- The text of a heading without its badge and icon. -/
def headingText (node : Node) : Text :=
  let shown := node.children.filter fun child =>
    !hasClass (lit "heading-tag") child && !hasClass (lit "heading-link") child
  match Text.trim (Node.innerTexts shown) with
  | [] => lit "[null]"
  | text => text

/-- The element of an article that a node is. -/
def articleElement (node : Node) : ArticleElement :=
  if hasClass (lit "footnotes") node then .footnotes
  else
    match headingLevel? node with
    | none => .body
    | some level =>
      if level < 2 then .body
      else
        .heading level ((Attribute.get? (lit "id") node.attributes).getD []) (headingText node)
          (hasClass (lit "fold") node)

/-- The nodes of an article with their visibility; `index` is the position of the first among the
elements, `folded` are the positions of the folded headings. -/
def showFolds (outline : List Outline.Item) (folded : List Nat) : (index : Nat) → List Node → List Node
  | _, [] => []
  | index, node :: rest =>
    if node.isElement then
      let change := if Outline.isHidden outline index then addClass else removeClass
      let node := mapAttributes (change (lit "folded")) node
      let shown := if folded.contains index then
          replaceFirst (isStyled (lit "heading-tag"))
            (fun tag => [mapAttributes (addClass (lit "folding")) tag]) [node]
        else [node]
      shown ++ showFolds outline folded (index + 1) rest
    else node :: showFolds outline folded index rest

mutual

/-- An entry of the table of contents as HTML source. -/
def entryMarkup : Outline.ContentsEntry → Text
  | .entry id text children =>
    lit "<li><a href=\"#" ++ Text.escapeAttribute id ++ lit "\">" ++ Text.escape text ++ lit "</a>"
      ++ (if children.isEmpty then [] else lit "<ul>" ++ entriesMarkup children ++ lit "</ul>")
      ++ lit "</li>"

/-- Entries of the table of contents as HTML source. -/
def entriesMarkup : List Outline.ContentsEntry → Text
  | [] => []
  | e :: rest => entryMarkup e ++ entriesMarkup rest

end

/-- A column of the table of contents as HTML source. -/
def columnMarkup (column : Outline.Column) : Text :=
  lit "<ul" ++ (match column.className with
    | some name => lit " class=\"" ++ name ++ ['"']
    | none => []) ++ '>' :: entriesMarkup column.entries ++ lit "</ul>"

/-- Whether a node is the place of the table of contents. -/
def isContentsPlace (node : Node) : Bool := Attribute.get? (lit "id") node.attributes == some (lit "toc")

/-- The place of the table of contents, filled; it goes if there is nothing to show. -/
def fillContents (outline : List Outline.Item) (node : Node) : List Node :=
  match Outline.columns outline, node with
  | [], _ => []
  | columns, .element space name attributes _ =>
    [.element space name attributes (columns.flatMap fun c => fragment (columnMarkup c))]
  | _, node => [node]

/-- A page with the children of its body changed. -/
def mapBody (f : List Node → List Node) (page : List Node) : List Node :=
  replaceFirst (Node.isNamed (lit "body"))
    (fun body => match body with
      | .element space name attributes children => [.element space name attributes (f children)]
      | node => [node]) page

/-- **A rendered page as an article**: with the sections that start folded hidden, and with its table
of contents. -/
def article (html : Text) : Text :=
  if html.isEmpty then []
  else
    let page := parse html
    let outline := Outline.build
      (((bodyOf page).getD []).filter Node.isElement |>.map articleElement)
    let folded := ((Outline.entries none 0 outline).filter (·.folded)).map (·.head.element)
    let page := mapBody (showFolds outline folded 0) page
    Html.render ((bodyOf (replaceFirst isContentsPlace (fillContents outline) page)).getD [])

end WikiPress.Page
