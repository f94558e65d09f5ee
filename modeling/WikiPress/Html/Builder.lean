import WikiPress.Html.Forest
import WikiPress.Html.Role
import WikiPress.Html.Token

/-!
# Html/Builder — the state of a page that is being read

A builder holds the page so far, the elements whose end has not been read, and the formatting
elements that are to be restored in the next block.  The operations of this module are those that the
rules for tags and texts are made of: finding an element in scope, ending elements, and inserting a
node where it belongs, which inside a table may be before the table.
-/

namespace WikiPress.Html

/-- What part of a page is being read. -/
inductive Mode
  | initial
  | beforeHtml
  | beforeHead
  | inHead
  | afterHead
  | inBody
  /-- The content of an element for raw text. -/
  | rawText
  | inTable
  | inTableText
  | inCaption
  | inColumnGroup
  | inTableBody
  | inRow
  | inCell
  | inTemplate
  | afterBody
  | inFrameset
  | afterFrameset
  | afterAfterBody
  | afterAfterFrameset
deriving DecidableEq, Repr

/-- A page that is being read. -/
structure Builder where
  forest : Forest
  /-- The open elements, the innermost first. -/
  opened : List Nat
  /-- The formatting elements to be restored, the last first, with marks where a scope begins. -/
  formatting : List (Option Nat)
  mode : Mode
  /-- The mode to go back to after raw text or the text of a table. -/
  returnMode : Mode
  /-- The modes of the open templates, the innermost first. -/
  templateModes : List Mode
  head : Option Nat
  /-- The open form. -/
  form : Option Nat
  /-- Whether a frameset may still replace the body. -/
  framesetOk : Bool
  /-- Whether a newline is dropped if it comes next. -/
  skipNewline : Bool
  /-- Whether paragraphs may hold tables, as in pages without a document type. -/
  quirks : Bool
  /-- Whether what does not belong into a table goes before it. -/
  foster : Bool
  /-- The text read directly inside a table. -/
  tableText : Text
  /-- How the source goes on. -/
  content : ContentMode

namespace Builder

/-- The builder of an empty page. -/
def initial : Builder where
  forest := .empty
  opened := []
  formatting := []
  mode := .initial
  returnMode := .initial
  templateModes := []
  head := none
  form := none
  framesetOk := true
  skipNewline := false
  quirks := false
  foster := false
  tableText := []
  content := .markup

/-! ## Looking at elements -/

/-- The language and the name of an element. -/
def element (b : Builder) (id : Nat) : Namespace × Text :=
  match b.forest.kind id with
  | .element space name _ => (space, name)
  | _ => (.html, [])

/-- The attributes of an element. -/
def attributes (b : Builder) (id : Nat) : List Attribute :=
  match b.forest.kind id with
  | .element _ _ attributes => attributes
  | _ => []

/-- Whether a node is an HTML element with the given name. -/
def isNamed (b : Builder) (name : Text) (id : Nat) : Bool := b.element id == (.html, name)

/-- The role of an element; elements of other languages are ordinary. -/
def role (b : Builder) (id : Nat) : Role :=
  match b.element id with
  | (.html, name) => Role.ofName name
  | _ => .ordinary

/-- Whether an element of MathML holds text. -/
def isMathText (name : Text) : Bool :=
  [lit "mi", lit "mo", lit "mn", lit "ms", lit "mtext"].contains name

/-- Whether an element of SVG holds HTML. -/
def isSvgText (name : Text) : Bool :=
  [lit "foreignObject", lit "desc", lit "title"].contains name

/-- Whether an element is a part of the structure of the page. -/
def isSpecial (b : Builder) (id : Nat) : Bool :=
  match b.element id with
  | (.html, name) => (Role.ofName name).isSpecial name
  | (.svg, name) => isSvgText name
  | (.mathml, name) => isMathText name || name == lit "annotation-xml"

/-- The innermost open element. -/
def current? (b : Builder) : Option Nat := b.opened.head?

/-- Whether the innermost open element has one of the roles. -/
def currentIs (b : Builder) (roles : List Role) : Bool :=
  match b.current? with
  | some id => (b.element id).1 == .html && roles.contains (b.role id)
  | none => false

/-- Whether a template is open. -/
def inTemplate (b : Builder) : Bool := b.opened.any fun id => b.isNamed (lit "template") id

/-! ## Scopes -/

/-- Where the search for an open element ends. -/
inductive Scope
  | standard
  | listItem
  | button
  | table
deriving DecidableEq, Repr

/-- Whether an element ends a scope. -/
def Scope.endsAt (scope : Scope) (space : Namespace) (name : Text) : Bool :=
  let role := Role.ofName name
  let tableEnd := role == .html || role == .table || role == .template
  match scope, space with
  | .table, .html => tableEnd
  | .table, _ => false
  | _, .svg => isSvgText name
  | _, .mathml => isMathText name || name == lit "annotation-xml"
  | _, .html =>
    tableEnd || role == .caption || role == .cell || role == .scoped
      || (scope == .listItem && (name == lit "ol" || name == lit "ul"))
      || (scope == .button && role == .button)

/-- Whether the search for an HTML element along the open elements finds one before a scope ends. -/
def findInScope (b : Builder) (scope : Scope) (target : Text → Bool) : List Nat → Bool
  | [] => false
  | id :: rest =>
    let (space, name) := b.element id
    if space == .html && target name then true
    else if scope.endsAt space name then false
    else findInScope b scope target rest

/-- Whether an HTML element is in scope. -/
def inScope (b : Builder) (scope : Scope) (target : Text → Bool) : Bool :=
  b.findInScope scope target b.opened

/-- Whether the HTML element with a name is in scope. -/
def hasInScope (b : Builder) (scope : Scope) (name : Text) : Bool := b.inScope scope (· == name)

/-! ## Ending elements -/

/-- End the innermost element. -/
def pop (b : Builder) : Builder := { b with opened := b.opened.drop 1 }

/-- End elements up to and including the first one that satisfies `p`. -/
def popThrough (p : Nat → Bool) (b : Builder) : Builder :=
  { b with opened := (b.opened.dropWhile fun id => !p id).drop 1 }

/-- End elements up to and including the HTML element with a name. -/
def popNamed (name : Text) (b : Builder) : Builder := b.popThrough (b.isNamed name)

/-- End elements up to one of the given roles, the page or a template. -/
def clearTo (roles : List Role) (b : Builder) : Builder :=
  { b with opened := b.opened.dropWhile fun id =>
      !((b.element id).1 == .html && (b.role id == .html || b.role id == .template
        || roles.contains (b.role id))) }

/-- Whether the end tag of an element may be left out. -/
def hasImpliedEnd (thorough : Bool) (b : Builder) (id : Nat) : Bool :=
  (b.element id).1 == .html &&
    match b.role id with
    | .definition | .listItem | .optionGroup | .option | .paragraph | .rubyBase | .rubyText => true
    | .caption | .columnGroup | .tableSection | .row | .cell => thorough
    | _ => false

/-- End the innermost elements whose end tag may be left out, except those with a name. -/
def impliedEnds (keep : Text) (b : Builder) : Builder :=
  { b with opened := b.opened.dropWhile fun id =>
      b.hasImpliedEnd false id && !b.isNamed keep id }

/-- End the innermost elements whose end tag may be left out, parts of tables included. -/
def allImpliedEnds (b : Builder) : Builder :=
  { b with opened := b.opened.dropWhile (b.hasImpliedEnd true) }

/-- End an element with those inside. -/
def closeNamed (name : Text) (b : Builder) : Builder := (b.impliedEnds []).popNamed name

/-- End a paragraph. -/
def closeParagraph (b : Builder) : Builder := (b.impliedEnds (lit "p")).popNamed (lit "p")

/-- End the paragraph in scope, if there is one. -/
def closeOpenParagraph (b : Builder) : Builder :=
  if b.hasInScope .button (lit "p") then b.closeParagraph else b

/-- Forget the formatting elements since the last mark. -/
def clearFormatting (b : Builder) : Builder :=
  { b with formatting := (b.formatting.dropWhile Option.isSome).drop 1 }

/-- Begin a scope of formatting elements. -/
def markFormatting (b : Builder) : Builder := { b with formatting := none :: b.formatting }

/-- Forget that a frameset may replace the body. -/
def noFrameset (b : Builder) : Builder := { b with framesetOk := false }

/-! ## Inserting nodes -/

/-- A place for a node. -/
inductive Place
  | inside (parent : Nat)
  | before (sibling : Nat)
deriving DecidableEq, Repr

/-- The place before the innermost table or, inside a template, at its end. -/
def fosterPlace (b : Builder) : List Nat → Place
  | [] => .inside 0
  | id :: rest =>
    if b.isNamed (lit "template") id then .inside id
    else if b.isNamed (lit "table") id then
      match b.forest.parent? id with
      | some _ => .before id
      | none => .inside (rest.head?.getD 0)
    else if rest.isEmpty then .inside id
    else fosterPlace b rest

/-- Where a node that comes next belongs, if it is to be put into `target`. -/
def placeIn (b : Builder) (target : Nat) : Place :=
  if b.foster && (b.element target).1 == .html
      && [Role.table, .tableSection, .row].contains (b.role target) then
    b.fosterPlace b.opened
  else .inside target

/-- Where a node that comes next belongs. -/
def place (b : Builder) : Place := b.placeIn (b.current?.getD 0)

/-- Put a node into its place. -/
def put (place : Place) (id : Nat) (b : Builder) : Builder :=
  match place with
  | .inside parent => { b with forest := b.forest.append parent id }
  | .before sibling => { b with forest := b.forest.insertBefore sibling id }

/-- Add a node of a kind without a place. -/
def create (kind : NodeKind) (b : Builder) : Builder := { b with forest := b.forest.create kind }

/-- Insert text. -/
def insertText (t : Text) (b : Builder) : Builder :=
  if t.isEmpty then b
  else
    match b.place with
    | .inside parent => { b with forest := b.forest.appendText parent t }
    | .before sibling => { b with forest := b.forest.insertTextBefore sibling t }

/-- Insert a comment into a node. -/
def insertCommentIn (parent : Nat) (t : Text) (b : Builder) : Builder :=
  let id := b.forest.nextId
  (b.create (.comment t)).put (.inside parent) id

/-- Insert a comment. -/
def insertComment (t : Text) (b : Builder) : Builder :=
  let id := b.forest.nextId
  let place := b.place
  (b.create (.comment t)).put place id

/-- Insert an element of a language and open it. -/
def insertElement (space : Namespace) (name : Text) (attributes : List Attribute) (b : Builder) :
    Builder :=
  let id := b.forest.nextId
  let place := b.place
  let b := (b.create (.element space name attributes)).put place id
  { b with opened := id :: b.opened }

/-- Insert the HTML element of a tag and open it. -/
def insert (tag : Tag) (b : Builder) : Builder := b.insertElement .html tag.name tag.attributes

/-- Insert the HTML element of a tag, which has no content. -/
def insertVoid (tag : Tag) (b : Builder) : Builder := (b.insert tag).pop

/-- Insert the HTML element with a name. -/
def insertNamed (name : Text) (b : Builder) : Builder := b.insertElement .html name []

/-- Insert the element of a tag and read its content as raw text. -/
def insertRaw (content : ContentMode) (tag : Tag) (b : Builder) : Builder :=
  { b.insert tag with returnMode := b.mode, mode := .rawText, content := content }

/-- Give an element the attributes that it does not have. -/
def addAttributes (id : Nat) (attributes : List Attribute) (b : Builder) : Builder :=
  { b with forest := b.forest.change id fun slot =>
      match slot.kind with
      | .element space name old =>
        let fresh := attributes.filter fun a => !old.any (·.name == a.name)
        { slot with kind := .element space name (old ++ fresh) }
      | _ => slot }

/-- The mode in which the content of the innermost open element is read. -/
def modeFor (b : Builder) : List Nat → Mode
  | [] => .inBody
  | id :: rest =>
    if (b.element id).1 != .html then modeFor b rest
    else
      match b.role id with
      | .cell => if rest.isEmpty then .inBody else .inCell
      | .row => .inRow
      | .tableSection => .inTableBody
      | .caption => .inCaption
      | .columnGroup => .inColumnGroup
      | .table => .inTable
      | .template => b.templateModes.head?.getD .inBody
      | .head => if rest.isEmpty then .inBody else .inHead
      | .body => .inBody
      | .frameset => .inFrameset
      | .html => if b.head.isNone then .beforeHead else .afterHead
      | _ => modeFor b rest

/-- Go on in the mode of the innermost open element. -/
def resetMode (b : Builder) : Builder := { b with mode := b.modeFor b.opened }

end Builder

end WikiPress.Html
