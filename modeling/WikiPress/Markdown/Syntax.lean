import WikiPress.Text.Basic

/-!
# Markdown/Syntax — the parts of a Markdown text

A text is a list of blocks.  A block holds other blocks or content of a type `ι`: the source text
while the blocks are being found, and inlines once they are read.
-/

namespace WikiPress.Markdown

/-- Where a link leads or an image is found, and its title. -/
structure Target where
  url : Text
  title : Text
deriving DecidableEq, Repr

/-- The place of a reference among the references to notes. -/
structure NotePlace where
  /-- The number of the note, counted by first reference. -/
  number : Nat
  /-- Which reference to this note it is. -/
  ordinal : Nat
deriving DecidableEq, Repr

/-- A part of a line of text. -/
inductive Inline
  | text (t : Text)
  /-- A line end in the source. -/
  | softBreak
  /-- A line end that was asked for. -/
  | hardBreak
  | code (t : Text)
  /-- Raw HTML. -/
  | html (source : Text)
  | emphasis (body : List Inline)
  | strong (body : List Inline)
  | deleted (body : List Inline)
  | link (target : Target) (body : List Inline)
  | image (target : Target) (body : List Inline)
  /-- A reference to a footnote, with its place once the note is known to exist. -/
  | note (label : Text) (place : Option NotePlace)
deriving Repr

/-- The alignment of a table column. -/
inductive Alignment
  | unset
  | left
  | center
  | right
deriving DecidableEq, Repr

/-- What the items of a list are marked with. -/
inductive ListMarker
  /-- A bullet character. -/
  | bullet (mark : Char)
  /-- A number and what follows it, a dot or a parenthesis. -/
  | ordered (start : Nat) (delimiter : Char)
deriving DecidableEq, Repr

/-- A block of a text with content of type `ι`. -/
inductive Block (ι : Type)
  | paragraph (content : ι)
  | heading (level : Nat) (content : ι)
  | rule
  | quote (body : List (Block ι))
  /-- A list of items; a tight one shows the paragraphs of its items as plain lines. -/
  | list (marker : ListMarker) (tight : Bool) (items : List (Block ι))
  | item (body : List (Block ι))
  /-- The box at the head of a task item. -/
  | checkbox (checked : Bool)
  /-- A code block; a fenced one has an info string. -/
  | code (info : Option Text) (text : Text)
  /-- Raw HTML. -/
  | html (source : Text)
  | table (columns : List Alignment) (head : List ι) (rows : List (List ι))
  /-- A list of terms and their details. -/
  | definitions (entries : List (Block ι))
  | term (content : ι)
  | details (tight : Bool) (body : List (Block ι))
  /-- A footnote, with the number of references to it. -/
  | footnote (label : Text) (references : Nat) (body : List (Block ι))
deriving Repr

end WikiPress.Markdown
