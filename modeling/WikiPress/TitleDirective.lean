import WikiPress.Path
import WikiPress.Text.Number

/-!
# TitleDirective — instructions in the titles of links and images

The part of a title after its last `#` is an instruction; the part before it stays as the tooltip.
On an image it sets the width, the classes or the style.  On a link to a document of the wiki it
turns the target into a hash route, with an optional anchor and query.
-/

namespace WikiPress

/-- What the title of an image asks for. -/
inductive ImageDirective
  /-- A width in pixels. -/
  | width (pixels : Nat)
  /-- Classes of the image element. -/
  | classes (names : List Text)
  /-- An inline style. -/
  | style (css : Text)
deriving DecidableEq, Repr

/-- The instruction written in the part of an image title after its last `#`. -/
def ImageDirective.read (value : Text) : ImageDirective :=
  match Text.unsigned? Text.bound32 (Text.trim value) with
  | some pixels => .width pixels
  | none =>
    if Text.beginsWith ['.'] value then .classes (Text.distinctItems (Text.splitOn '.' value))
    else .style value

/-- The tooltip and the instruction of an image title that carries one. -/
def imageTitle? (title : Text) : Option (Text × ImageDirective) :=
  (Text.cutLast? ['#'] title).map fun (tooltip, value) => (tooltip, .read value)

/-- The hash route and the tooltip of a link to a document whose title carries an instruction.  The
instruction is `anchor?query`; either part may be empty. -/
def hashRoute? (href title : Text) : Option (Text × Text) :=
  if Text.beginsWith ['/'] href && (Text.endsWith (lit ".md") href || Text.endsWith ['/'] href) then
    (Text.cutLast? ['#'] title).map fun (tooltip, value) =>
      let (anchor, query) := Text.chop ['?'] false false value
      let query := query.getD []
      ('#' :: Path.shorten href
        ++ (if anchor.isEmpty then [] else '#' :: anchor)
        ++ (if query.isEmpty then [] else '?' :: query), tooltip)
  else none

end WikiPress
