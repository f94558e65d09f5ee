import WikiPress.Html.Node
import WikiPress.Page.Assembly
import WikiPress.Page.Heading
import WikiPress.Page.Parts

/-!
# Page/Render — pages as they are published

Rendering a text gives HTML source; that is read as a page, its links, images, tables, footnotes and
headings are completed, and it is written again.  A context numbers the headings and blocks of the
texts that are rendered on it one after another.
-/

namespace WikiPress.Page

open Html

/-- What is carried from one text to the next. -/
structure Context where
  /-- How many headings of each level have been numbered. -/
  counts : HeadingCounts := []
  /-- The collapsible blocks that have been rendered. -/
  blocks : List Text := []
deriving DecidableEq, Repr

/-- A rendered text. -/
structure Rendered where
  /-- The HTML source. -/
  html : Text
  /-- The headings, in the order of the text. -/
  headings : List Heading
deriving DecidableEq, Repr

namespace Options

/-- Complete the nodes of a page, the headings apart. -/
def complete (o : Options) (nodes : List Node) : List Node :=
  labelFirstNotes o.footnotesLabel (hideEmptyHeads (connectAll o.deployment nodes))

/-- Complete HTML source: its nodes with everything completed and decorated, the headings, and the
counts afterwards.  There is nothing to complete in an empty source. -/
def finish (o : Options) (html : Text) (counts : HeadingCounts) : Rendered × HeadingCounts :=
  if html.isEmpty then (⟨[], []⟩, counts)
  else
    let (nodes, headings, counts) := decorateHeadings (o.complete (fragment html)) counts
    (⟨Text.trim (Html.render nodes), headings⟩, counts)

/-- **Render a text on a context.** -/
def renderOn (o : Options) (t : Text) (c : Context) : Rendered × Context :=
  let (html, blocks) := o.renderBlocks (Text.trim t) c.blocks
  let (rendered, counts) := o.finish html c.counts
  (rendered, ⟨counts, blocks⟩)

/-- **Render a line on a context**: a text without collapsible blocks, shown without a paragraph of its
own. -/
def renderLineOn (o : Options) (t : Text) (c : Context) : Text × Context :=
  let (rendered, counts) := o.finish (o.convertLine t) c.counts
  (rendered.html, { c with counts })

/-- Render a text for itself. -/
def render (o : Options) (t : Text) : Rendered := (o.renderOn t {}).1

/-- **Render a page**: a text with its marks applied. -/
def renderPage (o : Options) (t : Text) : Rendered := o.render (applyMarks t)

end Options

/-- What a process makes of a content; the fallback if it fails, or the content itself if there is no
fallback.  Nothing is made of nothing. -/
def recover (process : Text → Option Text) (fallback content : Text) : Text :=
  if content.isEmpty then []
  else (process content).getD (if fallback.isEmpty then content else fallback)

end WikiPress.Page
