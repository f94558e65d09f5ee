import WikiPress.Collapsible.Marker
import WikiPress.Collapsible.Passage
import WikiPress.Page.Markup
import WikiPress.Text.Category
import WikiPress.Text.Number

/-!
# Page/Assembly — collapsible blocks inside a page

Markdown cannot hold finished HTML, so the collapsible blocks of a text are rendered first, from the
inside out, and leave a comment with their number behind.  When the text around them has become HTML
the comments give way to the blocks.
-/

namespace WikiPress.Page

open Collapsible (Marker Passage)

/-- What the comment that holds the place of a block begins with. -/
def placeStart : Text := lit "<!--snipwiki-block:"

/-- What it ends with. -/
def placeEnd : Text := lit "-->"

/-- The lines that hold the place of the block with a number. -/
def placeOf (index : Nat) : Text := '\n' :: placeStart ++ Text.ofNat index ++ placeEnd ++ lit "\n\n"

/-- The digits of the place that a text begins with, and what follows it. -/
def place? (t : Text) : Option (Text × Text) :=
  match Text.strip? placeStart t with
  | none => none
  | some r =>
    let digits := r.takeWhile Text.isDecimalDigit
    match digits, Text.strip? placeEnd (r.dropWhile Text.isDecimalDigit) with
    | _ :: _, some rest => some (digits, rest)
    | _, _ => none

/-- The block that digits number; nothing if there is none. -/
def blockAt (blocks : List Text) (digits : Text) : Text :=
  ((Text.unsigned? Text.bound64 digits).bind fun index => blocks[index]?).getD []

/-- Fill the places in a text, within `fuel` steps. -/
def fillWithin (blocks : List Text) : (fuel : Nat) → Text → Text
  | 0, t => t
  | _ + 1, [] => []
  | fuel + 1, c :: t =>
    match place? (c :: t) with
    | some (digits, rest) => blockAt blocks digits ++ fillWithin blocks fuel rest
    | none => c :: fillWithin blocks fuel t

/-- **HTML source with the blocks in their places.** -/
def fillPlaces (blocks : List Text) (html : Text) : Text := fillWithin blocks html.length html

namespace Options

/-- A collapsible block as HTML source. -/
def detailsMarkup (o : Options) (marker : Marker) (inner : Text) : Text :=
  let summary := match marker.summary with
    | some line => Text.trim (o.convertLine line)
    | none => []
  lit "<details" ++ (if marker.isOpen then lit " open" else [])
    ++ (if marker.classes.isEmpty then []
      else lit " class=\"" ++ Text.escapeAttribute (Text.join [' '] marker.classes) ++ ['"'])
    ++ lit "><summary>" ++ summary ++ lit "</summary>\n" ++ inner ++ lit "</details>"

mutual

/-- The Markdown of a passage with its blocks replaced by places, and the blocks so far. -/
def assemblePassage (o : Options) : Passage → (blocks : List Text) → Text × List Text
  | .run text, blocks => (text, blocks)
  | .block marker body, blocks =>
    let (inner, blocks) := assemble o body blocks
    let html := o.detailsMarkup (Marker.read marker) (fillPlaces blocks (o.convert inner))
    (placeOf blocks.length, blocks ++ [html])

/-- The Markdown of passages with their blocks replaced by places, and the blocks so far. -/
def assemble (o : Options) : List Passage → (blocks : List Text) → Text × List Text
  | [], blocks => ([], blocks)
  | passage :: rest, blocks =>
    let (text, blocks) := assemblePassage o passage blocks
    let (texts, blocks) := assemble o rest blocks
    (text ++ texts, blocks)

end

/-- **A text with collapsible blocks as HTML source**, and the blocks so far. -/
def renderBlocks (o : Options) (t : Text) (blocks : List Text) : Text × List Text :=
  let (markdown, blocks) := o.assemble (Collapsible.passages t) blocks
  (fillPlaces blocks (o.convert markdown), blocks)

end Options

end WikiPress.Page
