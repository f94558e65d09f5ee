import WikiPress.Html.Node
import WikiPress.Text.Split

/-!
# Page/Classes — the classes of an element

An element belongs to the classes that its class attribute names between blanks.
-/

namespace WikiPress.Page

open Html

/-- The words of a text, between characters that satisfy `blank`. -/
def wordsBy (blank : Char → Bool) : Text → List Text
  | [] => []
  | c :: t =>
    if blank c then wordsBy blank t
    else
      match t with
      | [] => [[c]]
      | d :: _ =>
        if blank d then [c] :: wordsBy blank t
        else
          match wordsBy blank t with
          | [] => [[c]]
          | word :: rest => (c :: word) :: rest

/-- The words of a text. -/
def words (t : Text) : List Text := wordsBy Text.isBlank t

/-- The white space of HTML. -/
def isHtmlSpace (c : Char) : Bool :=
  c == ' ' || c == '\t' || c == '\n' || c == '\r' || c == Char.ofNat 12

/-- The name of the class attribute. -/
def classKey : Text := lit "class"

/-- Whether attributes put an element into a class. -/
def inClass (name : Text) (attributes : List Attribute) : Bool :=
  match Attribute.get? classKey attributes with
  | some value => (words value).contains name
  | none => false

/-- Put an element into a class, by its attributes. -/
def addClass (name : Text) (attributes : List Attribute) : List Attribute :=
  if inClass name attributes then attributes
  else
    match Text.trim ((Attribute.get? classKey attributes).getD []) with
    | [] => Attribute.set classKey name attributes
    | old => Attribute.set classKey (old ++ ' ' :: name) attributes

/-- Take an element out of a class, by its attributes.  A class attribute that names no class goes. -/
def removeClass (name : Text) (attributes : List Attribute) : List Attribute :=
  match Attribute.get? classKey attributes with
  | none => attributes
  | some value =>
    match (words value).filter (· != name) with
    | [] => Attribute.remove classKey attributes
    | rest => Attribute.set classKey (Text.join [' '] rest) attributes

/-- Whether a node is an element of a class. -/
def hasClass (name : Text) (node : Node) : Bool := inClass name node.attributes

/-- Whether a style rule for a class applies to a node; here classes stand between the white space of
HTML. -/
def isStyled (name : Text) (node : Node) : Bool :=
  match Attribute.get? classKey node.attributes with
  | some value => (wordsBy isHtmlSpace value).contains name
  | none => false

/-- A node with its attributes changed. -/
def mapAttributes (f : List Attribute → List Attribute) : Node → Node
  | .element space name attributes children => .element space name (f attributes) children
  | node => node

end WikiPress.Page
