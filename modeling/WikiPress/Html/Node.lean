import WikiPress.Text.Basic
import WikiPress.Text.Escape

/-!
# Html/Node — HTML as a tree

A page is a list of nodes.  Elements keep their attributes in the order in which they were given;
setting an attribute that is there keeps its place.
-/

namespace WikiPress.Html

/-- The language an element belongs to. -/
inductive Namespace
  | html
  | svg
  | mathml
deriving DecidableEq, Repr

/-- An attribute of an element. -/
structure Attribute where
  name : Text
  value : Text
deriving DecidableEq, Repr

/-- A node of a page. -/
inductive Node
  | text (t : Text)
  | comment (t : Text)
  | doctype (name : Text)
  | element (space : Namespace) (name : Text) (attributes : List Attribute) (children : List Node)
deriving Repr

namespace Attribute

/-- The value of an attribute. -/
def get? (name : Text) : List Attribute → Option Text
  | [] => none
  | a :: rest => if a.name == name then some a.value else get? name rest

/-- Set an attribute; a new one comes last. -/
def set (name value : Text) : List Attribute → List Attribute
  | [] => [⟨name, value⟩]
  | a :: rest => if a.name == name then ⟨name, value⟩ :: rest else a :: set name value rest

/-- Remove an attribute; the last attribute takes its place. -/
def remove (name : Text) (attributes : List Attribute) : List Attribute :=
  match attributes.getLast? with
  | none => []
  | some last =>
    if last.name == name then attributes.dropLast
    else if attributes.any (·.name == name) then
      attributes.dropLast.map fun a => if a.name == name then last else a
    else attributes

/-- Set an attribute, or remove it if its value would be empty. -/
def setOrRemove (name value : Text) (attributes : List Attribute) : List Attribute :=
  if value.isEmpty then remove name attributes else set name value attributes

end Attribute

/-! ## Views -/

namespace Node

/-- Whether a node is an element. -/
def isElement : Node → Bool
  | .element .. => true
  | _ => false

/-- The attributes of an element. -/
def attributes : Node → List Attribute
  | .element _ _ attributes _ => attributes
  | _ => []

/-- The nodes inside an element. -/
def children : Node → List Node
  | .element _ _ _ children => children
  | _ => []

/-- Whether a node is an element with the given name. -/
def isNamed (name : Text) : Node → Bool
  | .element _ other _ _ => other == name
  | _ => false

/-- Whether a node is a template, whose content belongs to no page. -/
def isTemplate : Node → Bool
  | .element .html name _ _ => name == lit "template"
  | _ => false

mutual

/-- The text inside a node; the content of a template has none. -/
def innerText : Node → Text
  | .text t => t
  | .comment _ => []
  | .doctype _ => []
  | .element .html name _ children => if name == lit "template" then [] else innerTexts children
  | .element _ _ _ children => innerTexts children

/-- The text inside nodes. -/
def innerTexts : List Node → Text
  | [] => []
  | node :: rest => node.innerText ++ innerTexts rest

end

end Node

/-!
## Nodes as HTML source

The markup characters of texts and attribute values are written as references, and so is the
no-break space.  Elements without content have no closing tag, and the text of scripts and other raw
elements is written as it is.
-/

/-- A text with its markup characters and no-break spaces as references. -/
def escapeText (t : Text) : Text :=
  t.flatMap fun c => if c == '\xA0' then lit "&nbsp;" else Text.escapeChar c

/-- A text as the value of an attribute in double quotes. -/
def escapeValue (t : Text) : Text :=
  t.flatMap fun c =>
    if c == '\xA0' then lit "&nbsp;"
    else if c == '"' then lit "&quot;"
    else Text.escapeChar c

/-- The elements of HTML that have no content. -/
def voidNames : List String :=
  ["area", "base", "basefont", "bgsound", "br", "col", "embed", "frame", "hr", "img", "input",
   "keygen", "link", "meta", "param", "source", "track", "wbr"]

/-- The elements of HTML whose text is not escaped. -/
def rawNames : List String :=
  ["style", "script", "xmp", "iframe", "noembed", "noframes", "plaintext", "noscript"]

/-- Whether a name is in a list. -/
def isIn (name : Text) (names : List String) : Bool := names.any fun other => lit other == name

mutual

/-- A node as HTML source; `raw` tells whether text is written as it is. -/
def Node.markup (raw : Bool) : Node → Text
  | .text t => if raw then t else escapeText t
  | .comment t => lit "<!--" ++ t ++ lit "-->"
  | .doctype name => lit "<!DOCTYPE " ++ name ++ ['>']
  | .element space name attributes children =>
    let isHtml := space == .html
    '<' :: name
      ++ attributes.flatMap (fun a => ' ' :: a.name ++ lit "=\"" ++ escapeValue a.value ++ ['"'])
      ++ '>' :: (if isHtml && isIn name voidNames then []
        else markup (isHtml && isIn name rawNames) children ++ lit "</" ++ name ++ ['>'])

/-- Nodes as HTML source. -/
def markup (raw : Bool) : List Node → Text
  | [] => []
  | node :: rest => node.markup raw ++ markup raw rest

end

/-- **Nodes as HTML source.** -/
def render (nodes : List Node) : Text := markup false nodes

end WikiPress.Html
