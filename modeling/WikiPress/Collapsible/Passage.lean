import WikiPress.Fence

/-!
# Collapsible/Passage — a text as plain runs and collapsible blocks

A line of at least three colons is a marker line.  With nothing after the colons it closes the
innermost block whose own marker is not longer; any other marker line opens a block.  Marker lines
inside fenced code are plain text, and blocks that are still open end with the text.
-/

namespace WikiPress.Collapsible

/-- A run of plain text, or a block with its own passages. -/
inductive Passage
  /-- Complete lines without marker lines outside fenced code. -/
  | run (text : Text)
  /-- A block: what follows the colons of its opening line, and what the block holds. -/
  | block (marker : Text) (body : List Passage)
deriving Repr

/-- A block that is still open, or the whole text. -/
structure Frame where
  /-- The number of colons of the opening line. -/
  colons : Nat
  /-- What follows them. -/
  marker : Text
  /-- The finished passages, the last first. -/
  done : List Passage
  /-- The plain lines read since, the last first. -/
  pending : List Text

namespace Frame

/-- A frame without content. -/
def empty (colons : Nat) (marker : Text) : Frame := ⟨colons, marker, [], []⟩

/-- End the current run of plain text. -/
def flush (f : Frame) : Frame :=
  match f.pending with
  | [] => f
  | lines => { f with done := .run lines.reverse.flatten :: f.done, pending := [] }

/-- Add a plain line. -/
def addLine (f : Frame) (line : Text) : Frame := { f with pending := line :: f.pending }

/-- Add a finished block. -/
def addBlock (f : Frame) (block : Passage) : Frame :=
  let f := f.flush
  { f with done := block :: f.done }

/-- The passages of a frame that ends. -/
def passages (f : Frame) : List Passage := f.flush.done.reverse

/-- The block of a frame that ends. -/
def toBlock (f : Frame) : Passage := .block f.marker f.passages

end Frame

/-- A state of the line scan: the innermost open frame, those around it, and the code fence that is
open. -/
structure Scan where
  /-- The innermost frame. -/
  top : Frame
  /-- The frames around it, from the inside out. -/
  outer : List Frame
  /-- The fence that hides marker lines. -/
  fence : Option Fence

/-- The number of colons of a marker line and what follows them. -/
def markerLine? (line : Text) : Option (Nat × Text) :=
  match Fence.unindent? line with
  | some rest =>
    let colons := (rest.takeWhile (· == ':')).length
    if 3 ≤ colons then some (colons, rest.dropWhile (· == ':')) else none
  | none => none

/-- A line without its line end. -/
def withoutLineEnd (line : Text) : Text := Text.dropEndWhile (fun c => c == '\n' || c == '\r') line

/-- Read one line. -/
def Scan.step (s : Scan) (line : Text) : Scan :=
  let content := withoutLineEnd line
  match s.fence with
  | some fence =>
    { s with top := s.top.addLine line, fence := if fence.closedBy content then none else some fence }
  | none =>
    match Fence.open? content with
    | some fence => { s with top := s.top.addLine line, fence := some fence }
    | none =>
      match markerLine? content with
      | none => { s with top := s.top.addLine line }
      | some (colons, rest) =>
        match s.outer with
        | parent :: outer =>
          if Text.allBlank rest && s.top.colons ≤ colons then
            { s with top := parent.addBlock s.top.toBlock, outer := outer }
          else { s with top := .empty colons rest, outer := s.top.flush :: s.outer }
        | [] => { s with top := .empty colons rest, outer := s.top.flush :: s.outer }

/-- End every open block. -/
def closeAll : Frame → List Frame → List Passage
  | top, [] => top.passages
  | top, parent :: outer => closeAll (parent.addBlock top.toBlock) outer

/-- **The passages of a text.** -/
def passages (t : Text) : List Passage :=
  let s := (Text.completeLines t).foldl Scan.step ⟨.empty 0 [], [], none⟩
  closeAll s.top s.outer

end WikiPress.Collapsible
