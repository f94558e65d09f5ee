import WikiPress.Outline.Basic
import WikiPress.Text.Escape

/-!
# Outline/Contents — the table of contents

The top-level headings, each with the headings below it, are laid out in up to three columns of
about equal weight, where the weight of an entry is the number of headings it shows.
-/

namespace WikiPress.Outline

/-- An entry of the table of contents. -/
inductive ContentsEntry
  | entry (id text : Text) (children : List ContentsEntry)
deriving Repr

mutual

/-- The number of headings an entry shows. -/
def ContentsEntry.weight : ContentsEntry → Nat
  | .entry _ _ children => 1 + weights children

/-- The number of headings entries show. -/
def weights : List ContentsEntry → Nat
  | [] => 0
  | e :: rest => e.weight + weights rest

end

/-- The entries of the headings among items. -/
def contents : List Item → List ContentsEntry
  | [] => []
  | .element .. :: rest => contents rest
  | .heading head _ _ items :: rest => .entry head.id head.text (contents items) :: contents rest

/-- A column of the table of contents. -/
structure Column where
  /-- The class of the column when there are two or three. -/
  className : Option Text
  entries : List ContentsEntry
deriving Repr

/-- The weight a column should have when there are `total` headings. -/
def columnTarget (total : Nat) : Nat :=
  if total ≤ 7 then total else if total ≤ 11 then (total + 1) / 2 else (total + 2) / 3

/-- The largest number of columns. -/
def maxColumns : Nat := 3

/-- Put entries into columns.  `used` is the weight of the current column; `full` holds the columns
before it, the last first, and `current` its entries, the last first. -/
def layOut (target : Nat) : (used : Nat) → (full : List (List ContentsEntry)) →
    (current : List ContentsEntry) → List ContentsEntry → List (List ContentsEntry)
  | _, full, current, [] => (current.reverse :: full).reverse
  | used, full, current, e :: rest =>
    if target < used + e.weight then
      if !current.isEmpty && full.length + 1 < maxColumns then
        layOut target e.weight (current.reverse :: full) [e] rest
      else layOut target e.weight full (e :: current) rest
    else layOut target (used + e.weight) full (e :: current) rest

/-- The class of the column at a position among `count` columns. -/
def columnClass (count position : Nat) : Option Text :=
  match count with
  | 3 => some (lit "ul-" ++ Text.ofNat (position + 1))
  | 2 => some (if position == 0 then lit "ul-a" else lit "ul-b")
  | _ => none

/-- **The columns of the table of contents**; none without headings. -/
def columns (items : List Item) : List Column :=
  let entries := contents items
  let total := weights entries
  if total == 0 then []
  else
    let columns := layOut (columnTarget total) 0 [] [] entries
    columns.zipIdx.map fun (entries, position) => ⟨columnClass columns.length position, entries⟩

end WikiPress.Outline
