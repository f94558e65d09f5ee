import WikiPress.Text.Basic

/-!
# Text/Split — cutting a text at a separator, and joining the pieces

The cuts are found from left to right.  A text is split into lines in two ways: `splitOn '\n'` gives
what stands between line ends, `completeLines` keeps every line end with its line, so that joining
the pieces gives the text back.
-/

namespace WikiPress.Text

/-- The pieces between the occurrences of `c`; always at least one. -/
def splitOn (c : Char) : Text → List Text
  | [] => [[]]
  | d :: t =>
    if d == c then [] :: splitOn c t
    else match splitOn c t with
      | [] => [[d]]
      | piece :: rest => (d :: piece) :: rest

/-- The lines of a text, each with its line end; no line after the last line end. -/
def completeLines : Text → List Text
  | [] => []
  | '\n' :: t => ['\n'] :: completeLines t
  | d :: t => match completeLines t with
    | [] => [[d]]
    | line :: rest => (d :: line) :: rest

/-- The lines of a text without their line ends, a carriage return before the newline included. -/
def lines (t : Text) : List Text :=
  (completeLines t).map fun line =>
    match line.reverse with
    | '\n' :: '\r' :: r => r.reverse
    | '\n' :: r => r.reverse
    | _ => line

/-- The parts before and after the first occurrence of `sep`. -/
def cut? (sep : Text) : Text → Option (Text × Text)
  | [] => (strip? sep []).map fun rest => ([], rest)
  | c :: t => match strip? sep (c :: t) with
    | some rest => some ([], rest)
    | none => (cut? sep t).map fun (before, after) => (c :: before, after)

/-- The parts before and after the last occurrence of `sep`. -/
def cutLast? (sep t : Text) : Option (Text × Text) :=
  (cut? sep.reverse t.reverse).map fun (after, before) => (before.reverse, after.reverse)

/-- Whether `part` occurs in a text. -/
def contains (part t : Text) : Bool := (cut? part t).isSome

/-- The pieces between the occurrences of `sep`, met within `fuel` cuts. -/
def splitTextWithin (sep : Text) : Nat → Text → List Text
  | 0, t => [t]
  | fuel + 1, t => match cut? sep t with
    | none => [t]
    | some (before, after) => before :: splitTextWithin sep fuel after

/-- The pieces between the non-overlapping occurrences of a non-empty `sep`, found from the left. -/
def splitText (sep t : Text) : List Text := splitTextWithin sep t.length t

/-- The texts one after another, with `sep` between them. -/
def join (sep : Text) : List Text → Text
  | [] => []
  | [t] => t
  | t :: rest => t ++ sep ++ join sep rest

/-- Every occurrence of `part` replaced by `by'`.  An empty `part` occurs before every character and
at the end. -/
def replaceAll (part by' t : Text) : Text :=
  match part with
  | [] => by' ++ t.flatMap fun c => c :: by'
  | _ => join by' (splitText part t)

/-- **One cut at a separator**: the part before it, and the part after it if it occurs.  With
`trimmed` the blanks next to the cut go; with `last` the cut is at the last occurrence. -/
def chop (sep : Text) (trimmed last : Bool) (t : Text) : Text × Option Text :=
  match (if last then cutLast? sep t else cut? sep t) with
  | none => (t, none)
  | some (before, after) =>
    if trimmed then (trimEnd before, some (trimStart after)) else (before, some after)

/-- The items trimmed, without the empty ones and without repetitions; the first occurrence of an
item gives its place. -/
def distinctItems (items : List Text) : List Text :=
  items.foldl (fun kept item =>
    let item := trim item
    if item.isEmpty || kept.contains item then kept else kept ++ [item]) []

end WikiPress.Text
