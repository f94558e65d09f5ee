import WikiPress.Fence
import WikiPress.Markdown.Escape
import WikiPress.Markdown.Syntax

/-!
# Markdown/Opening — what the first characters of a line open

Each recogniser looks at a line without its indentation and tells what kind of block the line
begins, with what it needs to know of it.
-/

namespace WikiPress.Markdown.Opening

/-- The text of a heading without the run of hash marks that may close it. -/
def headingText (t : Text) : Text :=
  let t := Text.dropEndWhile isSpace (t.dropWhile Text.isSpaceOrTab)
  match t.reverse.dropWhile (· == '#') with
  | [] => []
  | c :: r => if t.getLast? == some '#' && Text.isSpaceOrTab c then (r.dropWhile isSpace).reverse else t

/-- The level and the text of a heading that begins with hash marks. -/
def heading? (t : Text) : Option (Nat × Text) :=
  let level := (t.takeWhile (· == '#')).length
  if level == 0 || 6 < level then none
  else
    match t.drop level with
    | [] => some (level, [])
    | c :: r => if Text.isSpaceOrTab c then some (level, headingText (c :: r)) else none

/-- The level that a line under a paragraph makes it a heading of. -/
def underline? (t : Text) : Option Nat :=
  match t with
  | c :: _ =>
    if (c == '=' || c == '-') && (t.dropWhile (· == c)).all Text.isSpaceOrTab then
      some (if c == '=' then 1 else 2)
    else none
  | [] => none

/-- The fence that a line opens, and its info string.  That of backticks holds no further backtick. -/
def fence? (t : Text) : Option (Fence × Text) :=
  match t with
  | c :: _ =>
    let size := (t.takeWhile (· == c)).length
    let info := t.drop size
    if (c == '`' && !info.contains '`' || c == '~') && 3 ≤ size then some (⟨c, size⟩, info) else none
  | [] => none

/-- Whether a line closes a fence. -/
def closes (fence : Fence) (t : Text) : Bool :=
  fence.size ≤ (t.takeWhile (· == fence.mark)).length
    && (t.dropWhile (· == fence.mark)).all Text.isSpaceOrTab

/-- Whether a line is a thematic break: at least three stars, hyphens or underscores. -/
def isRule (t : Text) : Bool :=
  match t with
  | c :: _ =>
    (c == '*' || c == '-' || c == '_') && t.all (fun d => d == c || Text.isSpaceOrTab d)
      && 3 ≤ t.count c
  | [] => false

/-- The label of a footnote, and the number of characters up to its colon. -/
def footnote? (t : Text) : Option (Text × Nat) :=
  match t with
  | '[' :: '^' :: r =>
    let label := r.takeWhile fun c => !(c == ']' || c == ' ' || c == '\t')
    match r.drop label.length with
    | ']' :: ':' :: _ => if label.isEmpty then none else some (label, label.length + 4)
    | _ => none
  | _ => none

/-- The number of characters before the details of a term: the mark and the blanks after it. -/
def details? (t : Text) : Option Nat :=
  match t with
  | c :: r =>
    let blanks := (r.takeWhile Text.isSpaceOrTab).length
    if (c == ':' || c == '~') && 0 < blanks then some (1 + blanks) else none
  | [] => none

/-- Whether the rest of a line after the marker of an item allows one.  An item that interrupts a
paragraph is not empty. -/
def allowsItem (inParagraph : Bool) (r : Text) : Bool :=
  match r with
  | [] => !inParagraph
  | c :: _ => isSpace c && !(inParagraph && r.all Text.isSpaceOrTab)

/-- The marker of a list item, and its length.  A numbered item that interrupts a paragraph has the
number one. -/
def item? (inParagraph : Bool) (t : Text) : Option (ListMarker × Nat) :=
  match t with
  | [] => none
  | c :: r =>
    if c == '*' || c == '-' || c == '+' then
      if allowsItem inParagraph r then some (.bullet c, 1) else none
    else
      let digits := (t.take 9).takeWhile Text.isDigit
      let start := digits.foldl (fun n c => n * 10 + Text.digitValue c) 0
      match t.drop digits.length with
      | d :: r =>
        if !digits.isEmpty && (d == '.' || d == ')') && !(inParagraph && start != 1)
            && allowsItem inParagraph r then
          some (.ordered start d, digits.length + 1)
        else none
      | [] => none

/-- Whether an item belongs to a list. -/
def sameList (a b : ListMarker) : Bool :=
  match a, b with
  | .bullet x, .bullet y => x == y
  | .ordered _ x, .ordered _ y => x == y
  | _, _ => false

end WikiPress.Markdown.Opening
