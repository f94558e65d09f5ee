import WikiPress.Text.Split

/-!
# Fence — fenced code as the line scanners see it

Code fences hide markers and headings from the scanners that work on raw lines.  A fence is opened
by at most three spaces and a run of at least three backticks or tildes, and closed by a run of the
same character that is no shorter, with only blanks after it.
-/

namespace WikiPress

/-- The run of characters that opens a block of fenced code. -/
structure Fence where
  /-- The character of the run, a backtick or a tilde. -/
  mark : Char
  /-- The length of the run. -/
  size : Nat
deriving DecidableEq, Repr

namespace Fence

/-- A line without its indentation of at most three spaces. -/
def unindent? (line : Text) : Option Text :=
  if (line.takeWhile (· == ' ')).length ≤ 3 then some (line.dropWhile (· == ' ')) else none

/-- The fence a line begins with, and what follows it on the line. -/
def read? (line : Text) : Option (Fence × Text) :=
  match unindent? line with
  | some (c :: rest) =>
    let size := 1 + (rest.takeWhile (· == c)).length
    if (c == '`' || c == '~') && 3 ≤ size then some (⟨c, size⟩, rest.dropWhile (· == c)) else none
  | _ => none

/-- The fence that a line opens, if it is read outside fenced code. -/
def open? (line : Text) : Option Fence := (read? line).map Prod.fst

/-- Whether a line closes the fence. -/
def closedBy (fence : Fence) (line : Text) : Bool :=
  match read? line with
  | some (run, rest) => run.mark == fence.mark && fence.size ≤ run.size && Text.allBlank rest
  | none => false

/-- The display language and the highlighted lines of an info string (`toml|1-3,5`). -/
def splitInfo (info : Text) : Text × Option Text :=
  let (language, highlighted) := Text.chop ['|'] true false (Text.trim info)
  (language, highlighted.filter (!·.isEmpty))

end Fence

end WikiPress
