import WikiPress.Markdown.Draft
import WikiPress.Markdown.Notes
import WikiPress.Markdown.Span

/-!
# Markdown/Document — reading a whole text

A text is read in stages: its blocks, the inlines of each block, the footnotes, and finally what
depends on whole runs of text, which are the boxes of task items and the email addresses.
-/

namespace WikiPress.Markdown

/-! ## Lines -/

/-- Line ends as newlines, and the null character, which no text holds, as the replacement
character. -/
def normalizeChars : Text → Text
  | [] => []
  | '\r' :: t =>
    match t with
    | '\n' :: _ => normalizeChars t
    | _ => '\n' :: normalizeChars t
  | c :: t => (if c.toNat == 0 then '\uFFFD' else c) :: normalizeChars t

/-- The lines of a text without their line ends.  A byte order mark at its beginning is dropped. -/
def sourceLines (t : Text) : List Text :=
  let t := match t with
    | '\uFEFF' :: r => r
    | _ => t
  (Text.completeLines (normalizeChars t)).map fun line => line.takeWhile (· != '\n')

/-! ## Runs of text -/

/-- Put an inline before others; a text joins the text that follows it, and an empty one goes. -/
def joinText (inline : Inline) (rest : List Inline) : List Inline :=
  match inline, rest with
  | .text [], _ => rest
  | .text a, .text b :: rest => .text (a ++ b) :: rest
  | _, _ => inline :: rest

mutual

/-- An inline with adjacent texts inside joined. -/
def Inline.joinTexts : Inline → Inline
  | .emphasis body => .emphasis (joinTexts body)
  | .strong body => .strong (joinTexts body)
  | .deleted body => .deleted (joinTexts body)
  | .link target body => .link target (joinTexts body)
  | .image target body => .image target (joinTexts body)
  | inline => inline

/-- Inlines with adjacent texts joined. -/
def joinTexts : List Inline → List Inline
  | [] => []
  | inline :: rest => joinText inline.joinTexts (joinTexts rest)

end

mutual

/-- An inline with the email addresses in its texts as links, except inside links and images. -/
def Inline.linkEmails : Inline → List Inline
  | .text t => (Address.linkEmails t).filter fun inline =>
    match inline with
    | .text [] => false
    | _ => true
  | .emphasis body => [.emphasis (linkEmails body)]
  | .strong body => [.strong (linkEmails body)]
  | .deleted body => [.deleted (linkEmails body)]
  | inline => [inline]

/-- Inlines with the email addresses in their texts as links. -/
def linkEmails : List Inline → List Inline
  | [] => []
  | inline :: rest => inline.linkEmails ++ linkEmails rest

end

/-! ## Task items -/

/-- The box that the text of an item begins with, and the text after it. -/
def checkbox? (t : Text) : Option (Bool × Text) :=
  match t.dropWhile isSpace with
  | '[' :: c :: ']' :: rest =>
    let checked := c == 'x' || c == 'X'
    if checked || c == ' ' then
      match rest with
      | [] => some (checked, [])
      | d :: rest => if isSpace d then some (checked, rest) else none
    else none
  | _ => none

/-- The blocks of an item, with the box at its head. -/
def readCheckbox (body : List (Block (List Inline))) : List (Block (List Inline)) :=
  match body with
  | .paragraph (.text t :: content) :: rest =>
    match checkbox? t with
    | some (checked, t) =>
      .checkbox checked :: .paragraph (if t.isEmpty then content else .text t :: content) :: rest
    | none => body
  | _ => body

mutual

/-- A block with the boxes of its task items. -/
def Block.readTasks : Block (List Inline) → Block (List Inline)
  | .quote body => .quote (readTasks body)
  | .list marker tight items => .list marker tight (readTasks items)
  | .item body => .item (readCheckbox (readTasks body))
  | .definitions entries => .definitions (readTasks entries)
  | .details tight body => .details tight (readTasks body)
  | .footnote label references body => .footnote label references (readTasks body)
  | block => block

/-- Blocks with the boxes of their task items. -/
def readTasks : List (Block (List Inline)) → List (Block (List Inline))
  | [] => []
  | block :: rest => block.readTasks :: readTasks rest

end

/-! ## Texts -/

/-- **The blocks of a text.** -/
def blocks (dialect : Dialect) (t : Text) : List (Block (List Inline)) :=
  let (blocks, targets) := ((sourceLines t).foldl Draft.readLine Draft.initial).finish
  let blocks := gatherNotes (mapContent (Span.inlines dialect targets) blocks)
  let blocks := readTasks (mapContent joinTexts blocks)
  if dialect.autolink then mapContent linkEmails blocks else blocks

end WikiPress.Markdown
