import WikiPress.Page.Classes
import WikiPress.TitleDirective

/-!
# Page/Links — where the links and images of a page lead

Links to other hosts open in a new tab and carry an icon.  Links inside the wiki are put below its
base path, and may be hash routes; they open in a new tab unless they lead to the home document or to
an anchor.  Images inside the wiki are put below the base path, too, and take the instructions in
their titles.
-/

namespace WikiPress.Page

open Html

/-- Where the wiki is deployed. -/
structure Deployment where
  /-- The path of the wiki on its host. -/
  base : Text
  /-- The document that is its home. -/
  home : Text
deriving DecidableEq, Repr

/-- An icon drawn by a path. -/
def icon (name path : String) : Node :=
  .element .svg (lit "svg")
    [⟨lit "class", lit "icon " ++ lit name⟩, ⟨lit "width", lit "14"⟩, ⟨lit "height", lit "14"⟩,
     ⟨lit "viewBox", lit "0 0 24 24"⟩, ⟨lit "aria-hidden", lit "true"⟩]
    [.element .svg (lit "path") [⟨lit "d", lit path⟩] []]

/-- The icon after a link to another host. -/
def externalIcon : Node :=
  icon "icon-external"
    "M14 3h7v7M10 14 21 3M19 14v5a2 2 0 0 1-2 2H5a2 2 0 0 1-2-2V7a2 2 0 0 1 2-2h5"

/-- The attributes of a link to another host. -/
def externalLink (attributes : List Attribute) : List Attribute :=
  Attribute.set (lit "target") (lit "_blank")
    (Attribute.set (lit "rel") (lit "noopener noreferrer") attributes)

/-- The attributes of a link inside the wiki. -/
def internalLink (site : Deployment) (href : Text) (attributes : List Attribute) : List Attribute :=
  let route := (Attribute.get? (lit "title") attributes).bind (hashRoute? href)
  let (href, attributes) := match route with
    | some (route, tooltip) => (route, Attribute.setOrRemove (lit "title") tooltip attributes)
    | none => (href, attributes)
  let href := Path.underBase site.base href
  let home := Path.underBase site.base site.home
  let attributes :=
    if Text.beginsWith ['#'] href || href == home then attributes
    else Attribute.set (lit "target") (lit "_blank") attributes
  Attribute.set (lit "href") href attributes

/-- A link with its attributes and content, and what stands after it.  A link inside the wiki without
content shows where it leads, unless that is an anchor. -/
def linkNodes (site : Deployment) (space : Namespace) (attributes : List Attribute)
    (children : List Node) : List Node :=
  let a := fun attributes children => Node.element space (lit "a") attributes children
  match Attribute.get? (lit "href") attributes with
  | none => [a attributes children]
  | some href =>
    if Path.isExternal href then [a (externalLink attributes) children, externalIcon]
    else
      let children :=
        if children.isEmpty && !Text.beginsWith ['#'] href then [.text href] else children
      [a (internalLink site href attributes) children]

/-- The attributes of an image with an instruction. -/
def directedImage (directive : ImageDirective) (attributes : List Attribute) : List Attribute :=
  match directive with
  | .width pixels => Attribute.set (lit "width") (Text.ofNat pixels) attributes
  | .classes names =>
    let joined := Text.join [' '] names
    let joined := match Attribute.get? classKey attributes with
      | some old => old ++ ' ' :: joined
      | none => joined
    Attribute.set classKey joined attributes
  | .style css => Attribute.set (lit "style") css attributes

/-- The attributes of an image. -/
def imageAttributes (site : Deployment) (attributes : List Attribute) : List Attribute :=
  match Attribute.get? (lit "src") attributes with
  | none => attributes
  | some src =>
    let attributes :=
      if Path.isExternal src then attributes
      else Attribute.set (lit "src") (Path.underBase site.base src) attributes
    match (Attribute.get? (lit "title") attributes).bind imageTitle? with
    | none => attributes
    | some (tooltip, directive) =>
      Attribute.setOrRemove (lit "title") tooltip (directedImage directive attributes)

mutual

/-- A node with the links and images in it, and what stands after it. -/
def connect (site : Deployment) : Node → List Node
  | .element space name attributes children =>
    if space == .html && name == lit "template" then [.element space name attributes children]
    else
      let children := connectAll site children
      if name == lit "a" then linkNodes site space attributes children
      else if name == lit "img" then
        [.element space name (imageAttributes site attributes) children]
      else [.element space name attributes children]
  | node => [node]

/-- Nodes with the links and images among and in them. -/
def connectAll (site : Deployment) : List Node → List Node
  | [] => []
  | node :: rest => connect site node ++ connectAll site rest

end

end WikiPress.Page
