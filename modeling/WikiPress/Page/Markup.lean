import WikiPress.Fence
import WikiPress.Markdown.Document
import WikiPress.Markdown.Markup
import WikiPress.Page.Options
import WikiPress.Text.Escape

/-!
# Page/Markup — Markdown as the source of a page

Markdown becomes HTML source under the options of a renderer: plain texts are reworded, and fenced
code with a language becomes a block that a highlighter understands.
-/

namespace WikiPress.Page

open Markdown

/-- Fenced code as a block for a highlighter, or the block itself if no language is given. -/
def highlight (info : Option Text) (code : Text) : Block (List Inline) :=
  match info with
  | none => .code info code
  | some words =>
    let (language, lines) := Fence.splitInfo words
    if language.isEmpty then .code info code
    else
      let marked := match lines with
        | some lines => lit " data-line=\"" ++ Text.escapeAttribute lines ++ ['"']
        | none => []
      .html (lit "<pre><code class=\"line-numbers language-" ++ Text.escapeAttribute language
        ++ '"' :: marked ++ '>' :: Text.escape code ++ lit "</code></pre>\n")

mutual

/-- A block with the fenced code in it made ready for a highlighter. -/
def highlightBlock : Block (List Inline) → Block (List Inline)
  | .code info code => highlight info code
  | .quote body => .quote (highlightBlocks body)
  | .list marker tight items => .list marker tight (highlightBlocks items)
  | .item body => .item (highlightBlocks body)
  | .definitions entries => .definitions (highlightBlocks entries)
  | .details tight body => .details tight (highlightBlocks body)
  | .footnote label references body => .footnote label references (highlightBlocks body)
  | block => block

/-- Blocks with the fenced code among and in them made ready for a highlighter. -/
def highlightBlocks : List (Block (List Inline)) → List (Block (List Inline))
  | [] => []
  | block :: rest => highlightBlock block :: highlightBlocks rest

end

namespace Options

/-- The dialect of Markdown that options choose. -/
def dialect (o : Options) : Dialect := { smart := o.quotes?.isSome, autolink := o.autolink }

/-- The blocks of a text as a page shows them. -/
def blocks (o : Options) (t : Text) : List (Block (List Inline)) :=
  highlightBlocks (mapContent (mapTexts o.reword) (Markdown.blocks o.dialect t))

/-- **A Markdown text as HTML source.** -/
def convert (o : Options) (t : Text) : Text := blockMarkup o.hardBreaks (o.blocks t)

/-- A line of Markdown as HTML source.  A text that is one paragraph is shown without it. -/
def convertLine (o : Options) (t : Text) : Text :=
  match o.blocks (Text.trim t) with
  | [.paragraph content] => markup o.hardBreaks content
  | blocks => blockMarkup o.hardBreaks blocks

end Options

end WikiPress.Page
