import WikiPress.Markdown.Syntax
import WikiPress.Text.Escape

/-!
# Markdown/Markup — a text as HTML

Blocks begin on a line of their own.  Texts are escaped, raw HTML is written as it is, and the
footnotes at the end of a text form a section in which every note leads back to its references.
-/

namespace WikiPress.Markdown

/-! ## URLs -/

/-- A byte as a percent sign and two hexadecimal digits. -/
def percentByte (b : UInt8) : Text :=
  let digit := fun (n : Nat) => Char.ofNat (if n < 10 then 48 + n else 55 + n)
  ['%', digit (b.toNat / 16), digit (b.toNat % 16)]

/-- Whether a character stands for itself in a URL. -/
def isUrlChar (c : Char) : Bool :=
  Text.isLetter c || Text.isDigit c || List.elem c (lit "-_.+!*(),%#@?=;:/$~")

/-- A URL as the value of an attribute. -/
def urlAttribute (url : Text) : Text :=
  url.flatMap fun c =>
    if isUrlChar c then [c]
    else if c == '&' then lit "&amp;"
    else if c == '\'' then lit "&#x27;"
    else (String.utf8EncodeChar c).flatMap percentByte

/-! ## Inlines -/

mutual

/-- The text of an inline without markup, escaped. -/
def Inline.altText : Inline → Text
  | .text t => Text.escapeAttribute t
  | .softBreak => [' ']
  | .hardBreak => [' ']
  | .code t => Text.escapeAttribute t
  | .html source => Text.escapeAttribute source
  | .emphasis body => altText body
  | .strong body => altText body
  | .deleted body => altText body
  | .link _ body => altText body
  | .image _ body => altText body
  | .note .. => []

/-- The text of inlines without markup, escaped. -/
def altText : List Inline → Text
  | [] => []
  | inline :: rest => inline.altText ++ altText rest

end

/-- A title as an attribute, if there is one. -/
def titleAttribute (title : Text) : Text :=
  if title.isEmpty then [] else lit " title=\"" ++ Text.escapeAttribute title ++ ['"']

/-- A suffix for all references to a note but the first one. -/
def ordinalSuffix (ordinal : Nat) : Text := if 1 < ordinal then '-' :: Text.ofNat ordinal else []

mutual

/-- An inline as HTML; `hardBreaks` tells whether every line end breaks the line. -/
def Inline.markup (hardBreaks : Bool) : Inline → Text
  | .text t => Text.escapeAttribute t
  | .softBreak => if hardBreaks then lit "<br />\n" else ['\n']
  | .hardBreak => lit "<br />\n"
  | .code t => lit "<code>" ++ Text.escapeAttribute t ++ lit "</code>"
  | .html source => source
  | .emphasis body => lit "<em>" ++ markup hardBreaks body ++ lit "</em>"
  | .strong body => lit "<strong>" ++ markup hardBreaks body ++ lit "</strong>"
  | .deleted body => lit "<del>" ++ markup hardBreaks body ++ lit "</del>"
  | .link target body =>
    lit "<a href=\"" ++ urlAttribute target.url ++ ['"'] ++ titleAttribute target.title ++ ['>']
      ++ markup hardBreaks body ++ lit "</a>"
  | .image target body =>
    lit "<img src=\"" ++ urlAttribute target.url ++ lit "\" alt=\"" ++ altText body ++ ['"']
      ++ titleAttribute target.title ++ lit " />"
  | .note label none => Text.escapeAttribute (lit "[^" ++ label ++ [']'])
  | .note label (some place) =>
    lit "<sup class=\"footnote-ref\"><a href=\"#fn-" ++ urlAttribute label ++ lit "\" id=\""
      ++ urlAttribute (lit "fnref-" ++ label ++ ordinalSuffix place.ordinal)
      ++ lit "\" data-footnote-ref>" ++ Text.ofNat place.number ++ lit "</a></sup>"

/-- Inlines as HTML. -/
def markup (hardBreaks : Bool) : List Inline → Text
  | [] => []
  | inline :: rest => inline.markup hardBreaks ++ markup hardBreaks rest

end

/-! ## Blocks -/

/-- The HTML written so far. -/
structure Sheet where
  /-- The characters, the last first. -/
  out : Text
  /-- The number of notes begun. -/
  notes : Nat
  /-- The number of the last note whose way back has been written. -/
  returned : Nat

namespace Sheet

/-- Write a text. -/
def put (t : Text) (s : Sheet) : Sheet := { s with out := t.reverse ++ s.out }

/-- Begin a new line, unless one has just begun. -/
def newLine (s : Sheet) : Sheet :=
  match s.out with
  | [] => s
  | '\n' :: _ => s
  | out => { s with out := '\n' :: out }

end Sheet

/-- A note that is being written: its label and the number of its references. -/
structure OpenNote where
  label : Text
  references : Nat

/-- What the way a block is written depends on. -/
structure Setting where
  /-- Whether every line end breaks the line. -/
  hardBreaks : Bool
  /-- Whether paragraphs are written as plain lines. -/
  tight : Bool
  /-- The note that the block ends, if it does. -/
  ends : Option OpenNote

/-- The way back from a note to its reference with a number. -/
def returnLink (label : Text) (note ordinal : Nat) : Text :=
  let suffix := ordinalSuffix ordinal
  let index := Text.ofNat note ++ suffix
  (if 1 < ordinal then [' '] else [])
    ++ lit "<a href=\"#fnref-" ++ urlAttribute label ++ suffix
    ++ lit "\" class=\"footnote-backref\" data-footnote-backref data-footnote-backref-idx=\"" ++ index
    ++ lit "\" aria-label=\"Back to reference " ++ index ++ lit "\">↩"
    ++ (if 1 < ordinal then lit "<sup class=\"footnote-ref\">" ++ Text.ofNat ordinal ++ lit "</sup>"
      else [])
    ++ lit "</a>"

/-- Whether the way back from the note begun last is still missing. -/
def Sheet.lacksReturn (s : Sheet) : Bool := s.returned < s.notes

/-- Write the ways back from a note. -/
def Sheet.putReturn (note : OpenNote) (s : Sheet) : Sheet :=
  let links := (List.range note.references).flatMap fun n => returnLink note.label s.notes (n + 1)
  { s.put links with returned := s.notes }

/-- An alignment as an attribute. -/
def alignAttribute : Alignment → Text
  | .unset => []
  | .left => lit " align=\"left\""
  | .center => lit " align=\"center\""
  | .right => lit " align=\"right\""

/-- The cells of a row, the elements of which have the given name. -/
def cellLines (hardBreaks : Bool) (name : Text) : List Alignment → List (List Inline) → Text
  | column :: columns, cell :: cells =>
    '<' :: name ++ alignAttribute column ++ '>' :: markup hardBreaks cell ++ lit "</" ++ name
      ++ lit ">\n" ++ cellLines hardBreaks name columns cells
  | _, _ => []

/-- A row whose cells are elements of the given name. -/
def rowMarkup (hardBreaks : Bool) (name : Text) (columns : List Alignment)
    (cells : List (List Inline)) : Text :=
  lit "<tr>\n" ++ cellLines hardBreaks name columns cells ++ lit "</tr>\n"

/-- A table. -/
def tableMarkup (hardBreaks : Bool) (columns : List Alignment) (head : List (List Inline))
    (rows : List (List (List Inline))) : Text :=
  lit "<table>\n<thead>\n" ++ rowMarkup hardBreaks (lit "th") columns head ++ lit "</thead>\n"
    ++ (if rows.isEmpty then []
      else lit "<tbody>\n" ++ rows.flatMap (rowMarkup hardBreaks (lit "td") columns)
        ++ lit "</tbody>\n")
    ++ lit "</table>\n"

/-- The opening tag of a list. -/
def listTag : ListMarker → Text
  | .bullet _ => lit "<ul>\n"
  | .ordered start _ =>
    if start == 1 then lit "<ol>\n" else lit "<ol start=\"" ++ Text.ofNat start ++ lit "\">\n"

/-- The closing tag of a list. -/
def listEnd : ListMarker → Text
  | .bullet _ => lit "</ul>\n"
  | .ordered .. => lit "</ol>\n"

/-- The class of code in a language, which is the first word of an info string. -/
def codeClass (info : Option Text) : Text :=
  match info with
  | none => []
  | some [] => []
  | some (c :: r) =>
    let word := (c :: r).takeWhile fun c => !(c == ' ' || ('\t' ≤ c && c ≤ '\r'))
    lit " class=\"language-" ++ Text.escapeAttribute word ++ ['"']

mutual

/-- Write a block. -/
def Block.write (g : Setting) : Block (List Inline) → Sheet → Sheet
  | .paragraph content, s =>
    let text := markup g.hardBreaks content
    if g.tight then s.put text
    else
      let s := (s.newLine.put (lit "<p>")).put text
      let s := match g.ends with
        | some note =>
          let s := s.put [' ']
          if s.lacksReturn then s.putReturn note else s
        | none => s
      s.put (lit "</p>\n")
  | .heading level content, s =>
    let name := 'h' :: Text.ofNat level
    s.newLine.put ('<' :: name ++ '>' :: markup g.hardBreaks content ++ lit "</" ++ name ++ lit ">\n")
  | .rule, s => s.newLine.put (lit "<hr />\n")
  | .quote body, s =>
    let s := s.newLine.put (lit "<blockquote>\n")
    (writeAll { g with tight := false, ends := none } body s).newLine.put (lit "</blockquote>\n")
  | .list marker tight items, s =>
    let s := s.newLine.put (listTag marker)
    (writeAll { g with tight := tight, ends := none } items s).put (listEnd marker)
  | .item body, s =>
    let s := s.newLine.put (lit "<li>")
    (writeAll { g with ends := none } body s).put (lit "</li>\n")
  | .checkbox checked, s =>
    s.put (lit "<input type=\"checkbox\"" ++ (if checked then lit " checked=\"\"" else [])
      ++ lit " disabled=\"\" /> ")
  | .code info text, s =>
    s.newLine.put (lit "<pre><code" ++ codeClass info ++ '>' :: Text.escapeAttribute text
      ++ lit "</code></pre>\n")
  | .html source, s => (s.newLine.put source).newLine
  | .table columns head rows, s => s.newLine.put (tableMarkup g.hardBreaks columns head rows)
  | .definitions entries, s =>
    let s := s.newLine.put (lit "<dl>\n")
    (writeAll { g with tight := false, ends := none } entries s).put (lit "</dl>\n")
  | .term content, s =>
    s.put (lit "<dt>" ++ markup g.hardBreaks content ++ lit "</dt>\n")
  | .details tight body, s =>
    let s := s.put (lit "<dd>")
    (writeAll { g with tight := tight, ends := none } body s).put (lit "</dd>\n")
  | .footnote label references body, s =>
    let s := if s.notes == 0 then s.put (lit "<section class=\"footnotes\" data-footnotes>\n<ol>\n")
      else s
    let s := { s with notes := s.notes + 1 }
    let note : OpenNote := ⟨label, references⟩
    let s := s.put (lit "<li id=\"fn-" ++ urlAttribute label ++ lit "\">")
    let s := writeAll { g with tight := false, ends := some note } body s
    let s := if s.lacksReturn then (s.putReturn note).put ['\n'] else s
    s.put (lit "</li>\n")

/-- Write blocks one after another; only the last one can end a note. -/
def writeAll (g : Setting) : List (Block (List Inline)) → Sheet → Sheet
  | [], s => s
  | block :: rest, s =>
    writeAll g rest (block.write (if rest.isEmpty then g else { g with ends := none }) s)

end

/-- **Blocks as HTML.** -/
def blockMarkup (hardBreaks : Bool) (blocks : List (Block (List Inline))) : Text :=
  let s := writeAll ⟨hardBreaks, false, none⟩ blocks ⟨[], 0, 0⟩
  (if 0 < s.notes then s.put (lit "</ol>\n</section>\n") else s).out.reverse

end WikiPress.Markdown
