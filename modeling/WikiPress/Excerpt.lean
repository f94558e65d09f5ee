import WikiPress.Text.Case
import WikiPress.Text.Escape

/-!
# Excerpt — the places of a text where a query occurs

The occurrences of a query are found without regard to case, each shown with ten characters of
context on both sides.  Windows that overlap or touch are merged into one fragment; an ellipsis
stands between fragments, and at an end of the text that is not shown.
-/

namespace WikiPress.Excerpt

/-- The number of characters of context on each side of an occurrence. -/
def radius : Nat := 10

/-- A run of merged windows, by positions in the text. -/
structure Fragment where
  /-- The position of its first character. -/
  start : Nat
  /-- The position after its last character. -/
  stop : Nat
  /-- The occurrences in it, by start and stop, the last first. -/
  matched : List (Nat × Nat)
deriving DecidableEq, Repr

/-- Whether a text begins with the query up to case. -/
def matchesHere : (query t : Text) → Bool
  | [], _ => true
  | _ :: _, [] => false
  | q :: qs, c :: t => Text.simpleFold q == Text.simpleFold c && matchesHere qs t

/-- The positions of the non-overlapping occurrences of a non-empty query, from the left.  The text
begins at `position`, and its first `skip` characters belong to the occurrence before. -/
def occurrences (query : Text) : (position skip : Nat) → Text → List Nat
  | _, _, [] => []
  | position, skip + 1, _ :: t => occurrences query (position + 1) skip t
  | position, 0, c :: t =>
    if matchesHere query (c :: t) then
      position :: occurrences query (position + 1) (query.length - 1) t
    else occurrences query (position + 1) 0 t

/-- Add the window of an occurrence to the fragments so far, the last of which comes first. -/
def addWindow (length : Nat) (fragments : List Fragment) (start stop : Nat) : List Fragment :=
  let from' := start - radius
  let to' := min (stop + radius) length
  match fragments with
  | last :: rest =>
    if from' ≤ last.stop then
      { last with stop := max last.stop to', matched := (start, stop) :: last.matched } :: rest
    else ⟨from', to', [(start, stop)]⟩ :: fragments
  | [] => [⟨from', to', [(start, stop)]⟩]

/-- The fragments of a text, in order. -/
def fragments (text query : Text) : List Fragment :=
  ((occurrences query 0 0 text).foldl (fun found start =>
    addWindow text.length found start (start + query.length)) []).reverse

/-- The characters of a text between two positions. -/
def slice (text : Text) (start stop : Nat) : Text := (text.drop start).take (stop - start)

/-- The element around an occurrence. -/
def highlighted (t : Text) : Text :=
  lit "<span class=\"highlight\">" ++ Text.escape t ++ lit "</span>"

/-- What is shown in place of text that is left out. -/
def ellipsis : Text := lit "<span class=\"ellipsis\">...</span>"

/-- The occurrences of a fragment with the text between them, and the text after the last one;
`cursor` is the position up to which the text has been shown. -/
def renderFrom (text : Text) (stop : Nat) : (cursor : Nat) → List (Nat × Nat) → Text
  | cursor, [] => Text.escape (Text.trimEnd (slice text cursor stop))
  | cursor, (a, b) :: rest =>
    Text.escape (slice text cursor a) ++ highlighted (slice text a b) ++ renderFrom text stop b rest

/-- A fragment, without the blanks before its first occurrence and after its last one. -/
def Fragment.render (text : Text) (f : Fragment) : Text :=
  match f.matched.reverse with
  | [] => []
  | (a, b) :: rest =>
    Text.escape (Text.trimStart (slice text f.start a)) ++ highlighted (slice text a b)
      ++ renderFrom text f.stop b rest

/-- The text joining a list of pieces by ellipses. -/
def joinPieces : List Text → Text
  | [] => []
  | [piece] => piece
  | piece :: rest => piece ++ ellipsis ++ joinPieces rest

/-- **The excerpt of a text around every occurrence of a query**; none when the query is empty or
does not occur. -/
def excerpt? (text query : Text) : Option Text :=
  if query.isEmpty then none
  else
    let found := fragments text query
    match found.head?, found.getLast? with
    | some first, some last =>
      some (joinPieces ((if first.start > 0 then [[]] else []) ++ found.map (Fragment.render text)
        ++ (if last.stop < text.length then [[]] else [])))
    | _, _ => none

end WikiPress.Excerpt
