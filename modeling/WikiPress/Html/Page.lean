import WikiPress.Html.Table

/-!
# Html/Page — reading a page, and what it holds

A source is read token by token.  Elements of SVG and MathML are read by rules of their own, which
end at the places that hold HTML.  Every source is a page with a head and a body, whatever its tags.
-/

namespace WikiPress.Html

namespace Builder

/-! ## Other languages -/

/-- The element names of SVG that hold capital letters. -/
def mixedNames : List String :=
  ["altGlyph", "altGlyphDef", "altGlyphItem", "animateColor", "animateMotion", "animateTransform",
   "clipPath", "feBlend", "feColorMatrix", "feComponentTransfer", "feComposite", "feConvolveMatrix",
   "feDiffuseLighting", "feDisplacementMap", "feDistantLight", "feDropShadow", "feFlood", "feFuncA",
   "feFuncB", "feFuncG", "feFuncR", "feGaussianBlur", "feImage", "feMerge", "feMergeNode",
   "feMorphology", "feOffset", "fePointLight", "feSpecularLighting", "feSpotLight", "feTile",
   "feTurbulence", "foreignObject", "glyphRef", "linearGradient", "radialGradient", "textPath"]

/-- An element name in the letter case of its language. -/
def adjustedName (space : Namespace) (name : Text) : Text :=
  match space with
  | .svg =>
    match mixedNames.find? fun other => (lit other).map Text.lowerLetter == name with
    | some other => lit other
    | none => name
  | _ => name

/-- The elements of HTML that end what is open of another language. -/
def breakoutNames : List String :=
  ["b", "big", "blockquote", "body", "br", "center", "code", "dd", "div", "dl", "dt", "em", "embed",
   "h1", "h2", "h3", "h4", "h5", "h6", "head", "hr", "i", "img", "li", "listing", "menu", "meta",
   "nobr", "ol", "p", "pre", "ruby", "s", "small", "span", "strong", "strike", "sub", "sup", "table",
   "tt", "u", "ul", "var"]

/-- Whether an opening tag ends what is open of another language. -/
def breaksOut (tag : Tag) : Bool :=
  breakoutNames.any (lit · == tag.name)
    || (tag.name == lit "font" && tag.attributes.any fun a =>
      [lit "color", lit "face", lit "size"].contains a.name)

/-- Whether an element of another language holds HTML. -/
def holdsHtml (b : Builder) (id : Nat) : Bool :=
  match b.element id with
  | (.svg, name) => isSvgText name
  | (.mathml, name) =>
    name == lit "annotation-xml"
      && match Attribute.get? (lit "encoding") (b.attributes id) with
        | some value =>
          Text.sameLetters value (lit "text/html")
            || Text.sameLetters value (lit "application/xhtml+xml")
        | none => false
  | _ => false

/-- Whether a token is read by the rules for other languages. -/
def isForeign (t : Token) (b : Builder) : Bool :=
  match b.current? with
  | none => false
  | some id =>
    let (space, name) := b.element id
    if space == .html then false
    else
      match t with
      | .eof => false
      | .opening tag =>
        let inMathText := space == .mathml && isMathText name
          && tag.name != lit "mglyph" && tag.name != lit "malignmark"
        let inAnnotation := space == .mathml && name == lit "annotation-xml"
          && tag.name == lit "svg"
        !(inMathText || inAnnotation || b.holdsHtml id)
      | .text _ | .null => !((space == .mathml && isMathText name) || b.holdsHtml id)
      | _ => true

/-- End the elements of another language up to a place that holds HTML. -/
def leaveForeign (b : Builder) : Builder :=
  { b with opened := b.opened.dropWhile fun id =>
      let (space, name) := b.element id
      !(space == .html || (space == .mathml && isMathText name) || b.holdsHtml id) }

/-- Whether a closing tag names one of the open elements of another language, up to the first of
HTML. -/
def namesForeign (name : Text) (b : Builder) : List Nat → Bool
  | [] => false
  | id :: rest =>
    let (space, other) := b.element id
    if space == .html then false
    else other.map Text.lowerLetter == name || namesForeign name b rest

/-- Read a token in the current mode. -/
def htmlStep (t : Token) (b : Builder) : Step :=
  match b.mode with
  | .initial => b.initialStep t
  | .beforeHtml => b.beforeHtmlStep t
  | .beforeHead => b.beforeHeadStep t
  | .inHead => b.inHeadStep t
  | .afterHead => b.afterHeadStep t
  | .inBody => b.inBodyStep t
  | .rawText => b.rawTextStep t
  | .inTable => b.inTableStep t
  | .inTableText => b.inTableTextStep t
  | .inCaption => b.inCaptionStep t
  | .inColumnGroup => b.inColumnGroupStep t
  | .inTableBody => b.inTableBodyStep t
  | .inRow => b.inRowStep t
  | .inCell => b.inCellStep t
  | .inTemplate => b.inTemplateStep t
  | .afterBody => b.afterBodyStep t
  | .inFrameset => b.inFramesetStep false t
  | .afterFrameset => b.inFramesetStep true t
  | .afterAfterBody => b.afterPageStep t
  | .afterAfterFrameset => b.afterFramesStep t

/-- Read a token inside an element of another language. -/
def foreignStep (t : Token) (b : Builder) : Step :=
  match t with
  | .null => .done (b.insertText ['\uFFFD'])
  | .text s =>
    let b := b.insertText s
    .done (if isWhite s then b else b.noFrameset)
  | .comment s => .done (b.insertComment s)
  | .doctype _ => .done b
  | .opening tag =>
    if breaksOut tag then b.leaveForeign.htmlStep t
    else
      let space := match b.current? with
        | some id => (b.element id).1
        | none => .html
      .done (b.insertForeign space { tag with name := adjustedName space tag.name })
  | .closing tag =>
    if tag.name == lit "br" || tag.name == lit "p" then b.leaveForeign.htmlStep t
    else if b.namesForeign tag.name b.opened then
      .done (b.popThrough fun id => (b.element id).2.map Text.lowerLetter == tag.name)
    else b.htmlStep t
  | .eof => .done b

/-- Read a token, again and again until it is used up, at most `fuel` times. -/
def read (t : Token) : (fuel : Nat) → Builder → Builder
  | 0, b => b
  | fuel + 1, b =>
    match (if b.isForeign t then b.foreignStep t else b.htmlStep t) with
    | .done b => b
    | .again b => read t fuel b

/-- Read a token; a newline that is to be dropped is not seen. -/
def readToken (t : Token) (b : Builder) : Builder :=
  let t := match b.skipNewline, t with
    | true, .text ('\n' :: s) => .text s
    | _, t => t
  { b with skipNewline := false }.read t (2 * b.opened.length + 16)

/-- Read a source, in at most `fuel` tokens. -/
def readSource : (fuel : Nat) → Text → Builder → Builder
  | 0, _, b => b
  | fuel + 1, t, b =>
    let foreign := match b.current? with
      | some id => (b.element id).1 != .html
      | none => false
    match Source.next b.content foreign t with
    | (.eof, _) => b.readToken .eof
    | (token, rest) => readSource fuel rest (b.readToken token)

end Builder

/-- **The nodes of a page.** -/
def parse (source : Text) : List Node :=
  let t := Source.normalize source
  (Builder.initial.readSource (t.length + 1) t).forest.toNodes

/-- The first element with a name among nodes and what they hold, down to a depth. -/
def findNamed? (name : Text) : (depth : Nat) → List Node → Option Node
  | 0, _ => none
  | depth + 1, nodes =>
    nodes.findSome? fun node =>
      if node.isNamed name then some node
      else if node.isTemplate then none
      else findNamed? name depth node.children

/-- The content of the body of a page. -/
def bodyOf (page : List Node) : Option (List Node) := (findNamed? (lit "body") 2 page).map Node.children

/-- **The nodes of a fragment**: the content of the body of the page that it is read as. -/
def fragment (source : Text) : List Node := (bodyOf (parse source)).getD []

end WikiPress.Html
