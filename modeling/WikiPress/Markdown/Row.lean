import WikiPress.Markdown.Escape
import WikiPress.Markdown.Syntax
import WikiPress.Text.Split

/-!
# Markdown/Row — the rows of a table

A row is a line of cells between bars; a bar after a backslash belongs to its cell.  The line under
the head of a table consists of hyphens, with colons that tell the alignment of the columns.
-/

namespace WikiPress.Markdown.Row

/-- A blank inside a row. -/
def isRowSpace (c : Char) : Bool := isSpace c && c != '\n' && c != '\r'

/-- The rest of a cell and what follows it; `before` is the character before. -/
def cellRest : (before : Char) → Text → Text × Text
  | _, [] => ([], [])
  | before, c :: t =>
    if c == '|' && before != '\\' then ([], c :: t)
    else
      let (cell, rest) := cellRest c t
      (c :: cell, rest)

/-- A text with its escaped bars as bars. -/
def unescapeBars : Text → Text
  | [] => []
  | '\\' :: t =>
    match t with
    | '|' :: _ => unescapeBars t
    | _ => '\\' :: unescapeBars t
  | c :: t => c :: unescapeBars t

/-- The cells of the rest of a row, at most `fuel`. -/
def cellsWithin : (fuel : Nat) → Text → List Text
  | 0, _ => []
  | fuel + 1, t =>
    let (cell, rest) := cellRest ' ' t
    match rest with
    | '|' :: r => trimSpace (unescapeBars cell) :: cellsWithin fuel (r.dropWhile isRowSpace)
    | _ => if cell.isEmpty then [] else [trimSpace (unescapeBars cell)]

/-- **The cells of a row.**  A line without any is no row. -/
def cells (line : Text) : List Text :=
  match line with
  | '|' :: t => cellsWithin line.length (t.dropWhile isRowSpace)
  | _ => cellsWithin (line.length + 1) line

/-- Whether a cell of the line under the head is well-formed. -/
def isMarker (cell : Text) : Bool :=
  let t := cell.dropWhile isRowSpace
  let t := match t with
    | ':' :: r => r
    | _ => t
  match t with
  | '-' :: r =>
    match r.dropWhile (· == '-') with
    | ':' :: r => r.all isRowSpace
    | r => r.all isRowSpace
  | _ => false

/-- Whether a line stands under the head of a table. -/
def isDelimiter (line : Text) : Bool :=
  let parts := Text.splitOn '|' (match line with
    | '|' :: t => t
    | _ => line)
  let parts :=
    if 1 < parts.length && (parts.getLastD []).all isRowSpace then parts.dropLast else parts
  parts.all isMarker

/-- The alignment that a cell under the head asks for. -/
def alignment (cell : Text) : Alignment :=
  match cell.head? == some ':', cell.getLast? == some ':' with
  | true, true => .center
  | true, false => .left
  | false, true => .right
  | false, false => .unset

/-- Exactly `n` cells: further ones are dropped and missing ones empty. -/
def fit (n : Nat) (cells : List Text) : List Text :=
  (cells ++ List.replicate (n - cells.length) []).take n

end WikiPress.Markdown.Row
