import WikiPress.Markdown.Link
import WikiPress.Markdown.Opening
import WikiPress.Markdown.RawHtml
import WikiPress.Markdown.Row
import WikiPress.Text.Basic

/-!
# Markdown/Frame — blocks that are still open

While lines are read, the last block at every depth is open and may take the next line.  A frame is
an open block with what it holds so far; `finish` turns it into a finished block.  Each block keeps
whether its last line was blank, since a list is tight only if no blank line stands between its items
or between the blocks of one item.
-/

namespace WikiPress.Markdown

/-!
## A place in a line, by columns

Blocks are told apart by the columns they begin at, and tabs end at every fourth column.  A marker
may end in the middle of a tab; the columns that are left of it count as spaces.
-/

/-- A place in a line. -/
structure Cursor where
  column : Nat
  /-- The columns left of a tab that has been passed in part. -/
  cut : Nat
  /-- What follows, without the line end. -/
  rest : Text
deriving DecidableEq, Repr

namespace Cursor

/-- The beginning of a line. -/
def start (line : Text) : Cursor := ⟨0, 0, line⟩

/-- The width of a tab at a column. -/
def tabWidth (column : Nat) : Nat := 4 - column % 4

/-- The width of the blanks that a text at a column begins with. -/
def blankWidth : (column : Nat) → Text → Nat
  | _, [] => 0
  | column, c :: t =>
    if c == ' ' then 1 + blankWidth (column + 1) t
    else if c == '\t' then tabWidth column + blankWidth (column + tabWidth column) t
    else 0

/-- The width of the indentation at a place. -/
def indent (c : Cursor) : Nat := c.cut + blankWidth (c.column + c.cut) c.rest

/-- What follows the indentation. -/
def body (c : Cursor) : Text := c.rest.dropWhile Text.isSpaceOrTab

/-- Whether nothing but blanks follows. -/
def isBlank (c : Cursor) : Bool := c.body.isEmpty

/-- The place after the indentation. -/
def skipIndent (c : Cursor) : Cursor := ⟨c.column + c.indent, 0, c.body⟩

/-- The number of characters of the indentation, where the rest of a tab counts as one. -/
def indentLength (c : Cursor) : Nat :=
  (if c.cut == 0 then 0 else 1) + (c.rest.takeWhile Text.isSpaceOrTab).length

/-- The place one column further on, if there is a blank. -/
def dropColumn (c : Cursor) : Cursor :=
  if 0 < c.cut then { c with column := c.column + 1, cut := c.cut - 1 }
  else
    match c.rest with
    | ' ' :: t => ⟨c.column + 1, 0, t⟩
    | '\t' :: t => ⟨c.column + 1, tabWidth c.column - 1, t⟩
    | _ => c

/-- The place `n` columns of blanks further on. -/
def dropColumns : Nat → Cursor → Cursor
  | 0, c => c
  | n + 1, c => dropColumns n c.dropColumn

/-- The place after `n` characters that are no blanks. -/
def advance (n : Nat) (c : Cursor) : Cursor := ⟨c.column + n, 0, c.rest.drop n⟩

/-- What follows, as the content of a block. -/
def content (c : Cursor) : Text := List.replicate c.cut ' ' ++ c.rest

end Cursor

/-! ## Open blocks -/

/-- The kind of an open block, with what decides whether it takes another line. -/
inductive FrameKind
  /-- The whole text. -/
  | document
  | quote
  | footnote (label : Text)
  | list (marker : ListMarker)
  /-- An item, whose further lines are indented by `width`. -/
  | item (width : Nat)
  | definitions
  /-- The details of a term, whose further lines are indented by `width`. -/
  | details (tight : Bool) (width : Nat)
  /-- A paragraph; `noTable` tells that it is known not to be the head of a table. -/
  | paragraph (noTable : Bool)
  | heading (level : Nat)
  | rule
  | indentedCode
  /-- Fenced code; its lines lose at most the indentation of the fence. -/
  | fencedCode (fence : Fence) (indentation : Nat) (info : Text)
  | html (ending : RawHtml.Ending)
  /-- A table; the rows are held with the last first. -/
  | table (columns : List Alignment) (head : List Text) (rows : List (List Text))
deriving DecidableEq, Repr

/-- A finished block. -/
structure Finished where
  block : Block Text
  /-- Whether a blank line ends the block. -/
  endsBlank : Bool
  /-- Whether blank lines separate blocks inside. -/
  separated : Bool
deriving Repr

/-- An open block. -/
structure Frame where
  kind : FrameKind
  /-- The finished blocks inside, the last first. -/
  done : List Finished
  /-- The lines of a block that holds text, the last first. -/
  lines : List Text
  /-- Whether the last line was blank. -/
  blank : Bool
deriving Repr

namespace FrameKind

/-- Whether a block of this kind can hold one of another kind. -/
def holds (outer inner : FrameKind) : Bool :=
  let partOf := match inner with
    | .item _ => 1
    | .details _ _ => 2
    | _ => 0
  match outer with
  | .list _ => partOf == 1
  | .definitions => partOf == 2
  | .document | .quote | .footnote _ | .item _ | .details _ _ => partOf == 0
  | _ => false

/-- Whether a block of this kind takes lines as its text. -/
def takesText : FrameKind → Bool
  | .paragraph _ | .heading _ | .indentedCode | .fencedCode .. | .html _ => true
  | _ => false

/-- Whether lines inside a block of this kind have no other meaning. -/
def isVerbatim : FrameKind → Bool
  | .indentedCode | .fencedCode .. | .html _ => true
  | _ => false

/-- Whether the block is a paragraph. -/
def isParagraph : FrameKind → Bool
  | .paragraph _ => true
  | _ => false

end FrameKind

namespace Frame

/-- A frame without content. -/
def empty (kind : FrameKind) : Frame := ⟨kind, [], [], false⟩

/-- Add a finished block. -/
def addBlock (f : Frame) (block : Finished) : Frame := { f with done := block :: f.done }

/-- Add a line of text. -/
def addLine (f : Frame) (line : Text) : Frame := { f with lines := line :: f.lines }

/-- The text of a frame, each line with its line end. -/
def text (f : Frame) : Text := f.lines.reverse.flatMap fun line => line ++ ['\n']

/-- The finished blocks inside. -/
def blocks (f : Frame) : List (Block Text) := f.done.reverse.map Finished.block

/-- Whether the last of the finished blocks, given with the last first, ends with a blank line. -/
def lastEndsBlank : List Finished → Bool
  | [] => false
  | f :: _ => f.endsBlank

/-- Whether a blank line stands between the finished blocks, given with the last first. -/
def separatedBy (done : List Finished) : Bool := done.tail.any Finished.endsBlank

/-- The lines of an indented code block without the blank ones at its end. -/
def codeLines (lines : List Text) : List Text := lines.dropWhile fun line => line.all Text.isSpaceOrTab

/-- **The block of a frame that ends**, with the definitions of labels found in it.  A paragraph of
nothing but definitions leaves no block. -/
def finish (f : Frame) : List (Text × Target) × Option Finished :=
  let plain := fun (block : Block Text) =>
    (([] : List (Text × Target)), some (⟨block, f.blank, false⟩ : Finished))
  match f.kind with
  | .document | .quote => plain (.quote f.blocks)
  | .footnote label => plain (.footnote label 0 f.blocks)
  | .list marker =>
    let tight := !(f.done.any Finished.separated || separatedBy f.done)
    ([], some ⟨.list marker tight f.blocks, f.blank || lastEndsBlank f.done, false⟩)
  | .item _ =>
    ([], some ⟨.item f.blocks, f.blank || lastEndsBlank f.done, separatedBy f.done⟩)
  | .definitions => plain (.definitions f.blocks)
  | .details tight _ => plain (.details tight f.blocks)
  | .paragraph _ =>
    let (found, rest) := definitions f.text
    let isEmpty := rest.all fun c => c == '\n' || Text.isSpaceOrTab c
    (found, if isEmpty then none else some ⟨.paragraph rest, f.blank, false⟩)
  | .heading level => plain (.heading level f.text)
  | .rule => plain .rule
  | .indentedCode =>
    plain (.code none ((codeLines f.lines).reverse.flatMap fun line => line ++ ['\n']))
  | .fencedCode _ _ info => plain (.code (some (cleanInfo info)) f.text)
  | .html _ => plain (.html f.text)
  | .table columns head rows => plain (.table columns head rows.reverse)

/-- Note that a blank line follows the last finished block. -/
def markLastBlank (f : Frame) : Frame :=
  match f.done with
  | [] => f
  | last :: rest => { f with done := { last with endsBlank := true } :: rest }

/-- What becomes of an open block at the beginning of a line. -/
inductive Continuation
  /-- The line does not belong to the block. -/
  | no
  /-- The line belongs to the block from this place on. -/
  | yes (place : Cursor)
  /-- The line ends the block and says nothing else. -/
  | ends

/-- Whether a line belongs to a block.  `hasChild` tells whether the block holds another one, and
`line` is the whole line. -/
def continuation (f : Frame) (hasChild : Bool) (line : Text) (c : Cursor) : Continuation :=
  let indented := fun (width : Nat) (mayBeBlank : Bool) =>
    if width ≤ c.indent then Continuation.yes (c.dropColumns width)
    else if c.isBlank && mayBeBlank then .yes c.skipIndent
    else .no
  match f.kind with
  | .document | .list _ | .definitions | .rule => .yes c
  | .quote =>
    match c.body with
    | '>' :: _ =>
      if c.indent ≤ 3 then .yes (c.skipIndent.advance 1).dropColumn else .no
    | _ => .no
  | .footnote _ =>
    if 4 ≤ c.indent then .yes (c.dropColumns 4)
    else if line.isEmpty then .yes c
    else .no
  | .item width => indented width hasChild
  | .details _ width => indented width true
  | .paragraph _ => if c.isBlank then .no else .yes c
  | .heading _ => .no
  | .indentedCode => indented 4 true
  | .fencedCode fence indentation _ =>
    if c.indent ≤ 3 && Opening.closes fence c.body then .ends
    else .yes (c.dropColumns indentation)
  | .html .blankLine => if c.isBlank then .no else .yes c
  | .html _ => .yes c
  | .table .. => if (Row.cells c.body).isEmpty then .no else .yes c

end Frame

end WikiPress.Markdown
