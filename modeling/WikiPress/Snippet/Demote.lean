import WikiPress.Fence

/-!
# Snippet/Demote — shifting the headings of a snippet

A snippet that is transcluded below a heading has its own headings moved down by as many levels, to
level six at most.  Lines of fenced code are left alone.
-/

namespace WikiPress.Snippet

/-- The level and the title of a line that is a heading of level one to five. -/
def heading? (line : Text) : Option (Nat × Text) :=
  let level := (line.takeWhile (· == '#')).length
  let rest := line.dropWhile (· == '#')
  if 1 ≤ level && level ≤ 5 && (rest.isEmpty || (rest.take 1).all Text.isSpaceOrTab) then
    let title := Text.dropEndWhile Text.isSpaceOrTab (rest.dropWhile Text.isSpaceOrTab)
    some (level, title)
  else none

/-- A line outside fenced code with its heading moved down. -/
def demoteLine (shift : Nat) (line : Text) : Text :=
  match heading? line with
  | some (level, title) =>
    List.replicate (min (level + shift) 6) '#' ++ (if title.isEmpty then [] else ' ' :: title)
  | none => line

/-- Lines with their headings moved down; `fence` is the code fence that is open. -/
def demoteLines (shift : Nat) : (fence : Option Fence) → List Text → List Text
  | _, [] => []
  | some fence, line :: rest =>
    line :: demoteLines shift (if fence.closedBy line then none else some fence) rest
  | none, line :: rest =>
    match Fence.open? line with
    | some fence => line :: demoteLines shift (some fence) rest
    | none => demoteLine shift line :: demoteLines shift none rest

/-- **A text with its headings of levels one to five moved down by `shift`.** -/
def demote (shift : Nat) (t : Text) : Text :=
  if shift == 0 then t else Text.join ['\n'] (demoteLines shift none (Text.splitOn '\n' t))

end WikiPress.Snippet
