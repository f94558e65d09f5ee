import WikiPress.Markdown.Frame

/-!
# Markdown/Draft — finding the blocks of a text, line by line

A draft holds the open blocks from the inside out.  A line is first matched against them from the
outside in; then the blocks it opens are added, which ends those it does not belong to; and what is
left of it is text.  A line that opens nothing continues the innermost paragraph even where its outer
blocks were not matched.
-/

namespace WikiPress.Markdown

/-- The open blocks, and the definitions found. -/
structure Draft where
  /-- The innermost open block. -/
  top : Frame
  /-- The blocks around it, from the inside out. -/
  outer : List Frame
  /-- The definitions of labels, the last first. -/
  targets : List (Text × Target)

/-- The state of a line that is being read. -/
structure LineState where
  /-- The blocks that take the line. -/
  draft : Draft
  /-- The open blocks inside them that did not match the line, from the outside in.  They end as soon
  as the line opens a block or turns out to be text of another one. -/
  pending : List Frame
  place : Cursor
  /-- Whether nothing is left of the line. -/
  spent : Bool

namespace Draft

/-- End the innermost block. -/
def close (d : Draft) : Draft :=
  match d.outer with
  | [] => d
  | parent :: outer =>
    let (found, block) := d.top.finish
    { top := block.elim parent parent.addBlock, outer := outer,
      targets := found.reverse ++ d.targets }

/-- Open a block inside the innermost one. -/
def push (kind : FrameKind) (d : Draft) : Draft :=
  { d with top := .empty kind, outer := d.top :: d.outer }

/-- End blocks until the innermost one can hold a block of the given kind, at most `fuel`. -/
def makeRoom (kind : FrameKind) : (fuel : Nat) → Draft → Draft
  | 0, d => d
  | fuel + 1, d => if d.top.kind.holds kind then d else makeRoom kind fuel d.close

/-- End the `n` innermost blocks. -/
def closeMany : (n : Nat) → Draft → Draft
  | 0, d => d
  | n + 1, d => closeMany n d.close

/-- Add a block of the given kind where it can stand. -/
def openBlock (kind : FrameKind) (d : Draft) : Draft :=
  (makeRoom kind d.outer.length d).push kind

/-- The draft with further frames inside, given from the outside in. -/
def resume (d : Draft) : List Frame → Draft
  | [] => d
  | f :: rest => resume { d with top := f, outer := d.top :: d.outer } rest

/-- Resume the pending blocks and end them. -/
def closePending (d : Draft) (pending : List Frame) : Draft :=
  (d.resume pending).closeMany pending.length

end Draft

/-! ## Matching the open blocks -/

/-- What a line does to the open blocks: the state with the blocks that take it, or nothing else than
to end the innermost block. -/
inductive Matched
  | line (state : LineState)
  | ends

/-- Match a line against the blocks inside `d`, from the outside in. -/
def matchFrames (line : Text) : Draft → Cursor → List Frame → Matched
  | d, c, [] => .line ⟨d, [], c, false⟩
  | d, c, f :: rest =>
    match f.continuation (!f.done.isEmpty || !rest.isEmpty) line c with
    | .no => .line ⟨d, f :: rest, c, false⟩
    | .yes c => matchFrames line { d with top := f, outer := d.top :: d.outer } c rest
    | .ends => .ends

namespace LineState

/-- The kind of the last block inside the innermost one that takes the line. -/
def lastInside (s : LineState) : Option (Block Text ⊕ FrameKind) :=
  match s.pending with
  | f :: _ => some (.inr f.kind)
  | [] =>
    match s.draft.top.done with
    | b :: _ => some (.inl b.block)
    | [] => none

/-- End the pending blocks and open a block, which the line goes on with at `place`. -/
def opening (kind : FrameKind) (place : Cursor) (s : LineState) : LineState :=
  ⟨(s.draft.closePending s.pending).openBlock kind, [], place, false⟩

/-! ## Lists of terms -/

/-- Open the list of terms that the last finished block is, or a new one. -/
def openDefinitions (d : Draft) : Draft :=
  match d.top.done with
  | ⟨.definitions entries, blank, _⟩ :: rest =>
    let done := entries.reverse.map fun entry => (⟨entry, false, false⟩ : Finished)
    { d with
      top := ⟨.definitions, done, [], blank⟩
      outer := { d.top with done := rest } :: d.outer }
  | _ => d.openBlock .definitions

/-- Make a term of a paragraph and open its details. -/
def openDetails (tight : Bool) (width : Nat) (term : Text) (place : Cursor) (d : Draft) :
    LineState :=
  let d := openDefinitions d
  let d := { d with top := d.top.addBlock ⟨.term term, false, false⟩ }
  ⟨d.openBlock (.details tight width), [], place, false⟩

/-- A line of details: the paragraph before it becomes the term, whether or not a blank line stands
between; after other details it adds to them. -/
def details? (s : LineState) : Option LineState :=
  match Opening.details? s.place.body with
  | none => none
  | some padding =>
    let width := s.place.indent + padding
    let place := (s.place.skipIndent.advance 1).skipIndent
    match s.draft.top.kind, s.draft.outer with
    | .paragraph _, parent :: outer =>
      some (openDetails true width s.draft.top.text place { s.draft with top := parent, outer := outer })
    | _, _ =>
      match s.lastInside with
      | some (.inr (.details tight _)) => some (s.opening (.details tight width) place)
      | some (.inl (.details tight _)) => some (s.opening (.details tight width) place)
      | some (.inl (.paragraph term)) =>
        let parent := { s.draft.top with done := s.draft.top.done.tail }
        some (openDetails false width term place { s.draft with top := parent })
      | _ => none

/-! ## Lists -/

/-- The place of the content of an item and the width of its indentation, from the place after the
marker.  Content that is indented like code, or missing, begins one column after the marker. -/
def itemPlace (markerLength : Nat) (place : Cursor) : Nat × Cursor :=
  let blanks := place.indent
  if blanks == 0 || 5 ≤ blanks || place.isBlank then
    (markerLength + 1, if blanks == 0 then place else place.dropColumn)
  else (markerLength + blanks, place.skipIndent)

/-- An item of a list. -/
def item? (s : LineState) : Option LineState :=
  match Opening.item? s.draft.top.kind.isParagraph s.place.body with
  | none => none
  | some (marker, length) =>
    let (width, place) := itemPlace length (s.place.skipIndent.advance length)
    let width := s.place.indent + width
    let inList := match s.draft.top.kind with
      | .list other => Opening.sameList other marker
      | _ => false
    let s := if inList then s else s.opening (.list marker) place
    some (s.opening (.item width) place)

/-! ## Tables -/

/-- The lines of a paragraph before its last one, as a paragraph of its own. -/
def textBefore (lines : List Text) : List Finished :=
  match lines with
  | [] => []
  | _ =>
    let text := lines.reverse.flatMap fun line => line ++ ['\n']
    [⟨.paragraph (trimSpace (Row.unescapeBars text)), false, false⟩]

/-- A table whose head is the last line of the paragraph, or the next row of a table. -/
def table? (s : LineState) : Option LineState :=
  let line := s.place.body
  match s.draft.top.kind, s.draft.top.lines, s.draft.outer with
  | .paragraph false, last :: earlier, parent :: outer =>
    if Row.isDelimiter line then
      let columns := Row.cells line
      let head := Row.cells last
      if head.isEmpty || head.length != columns.length then
        let top := { s.draft.top with kind := .paragraph true }
        some { s with draft := { s.draft with top := top } }
      else
        let parent := { parent with done := textBefore earlier ++ parent.done }
        let kind := FrameKind.table (columns.map Row.alignment) head []
        some { s with
          draft := { s.draft with top := .empty kind, outer := parent :: outer }
          spent := true }
    else none
  | .table columns head rows, _, _ =>
    if line.isEmpty then none
    else
      let row := Row.fit columns.length (Row.cells line)
      let top := { s.draft.top with kind := .table columns head (row :: rows) }
      some { s with draft := { s.draft with top := top }, spent := true }
  | _, _, _ => none

/-! ## Blocks told by the first characters of a line -/

/-- A quote. -/
def quote? (s : LineState) : Option LineState :=
  match s.place.body with
  | '>' :: _ => some (s.opening .quote (s.place.skipIndent.advance 1).dropColumn)
  | _ => none

/-- A heading with hash marks. -/
def heading? (s : LineState) : Option LineState :=
  (Opening.heading? s.place.body).map fun (level, text) =>
    let s := s.opening (.heading level) s.place
    { s with draft := { s.draft with top := s.draft.top.addLine text }, spent := true }

/-- Fenced code. -/
def fence? (s : LineState) : Option LineState :=
  (Opening.fence? s.place.body).map fun (fence, info) =>
    { s.opening (.fencedCode fence s.place.indentLength info) s.place with spent := true }

/-- A block of HTML. -/
def html? (s : LineState) : Option LineState :=
  (RawHtml.ending? s.draft.top.kind.isParagraph s.place.body).map fun ending =>
    s.opening (.html ending) s.place

/-- A line under a paragraph, which makes the text after its definitions a heading.  Where there is
none the line is text. -/
def underline? (s : LineState) : Option LineState :=
  match s.draft.top.kind, Opening.underline? s.place.body with
  | .paragraph _, some level =>
    let (found, rest) := definitions s.draft.top.text
    let targets := found.reverse ++ s.draft.targets
    if rest.isEmpty then
      let top := { s.draft.top with lines := [] }
      some { s with draft := { s.draft with top := top, targets := targets } }
    else
      let top := { s.draft.top with kind := .heading level, lines := [rest] }
      some { s with draft := { s.draft with top := top, targets := targets }, spent := true }
  | _, _ => none

/-- A thematic break. -/
def rule? (s : LineState) : Option LineState :=
  if Opening.isRule s.place.body then some { s.opening .rule s.place with spent := true } else none

/-- A footnote. -/
def footnote? (s : LineState) : Option LineState :=
  (Opening.footnote? s.place.body).map fun (label, length) =>
    s.opening (.footnote label) (s.place.skipIndent.advance length).skipIndent

/-- **The block that a line opens next**, the first that is recognised.  `lazy` tells that the line
may continue a paragraph; lists and footnotes are opened only `mayNest`. -/
def open? (lazy mayNest : Bool) (s : LineState) : Option LineState :=
  if 4 ≤ s.place.indent then
    if lazy || s.place.isBlank then none
    else some (s.opening .indentedCode (s.place.dropColumns 4))
  else
    (quote? s).or <| (heading? s).or <| (fence? s).or <| (html? s).or <| (underline? s).or <|
    (rule? s).or <| (if mayNest then footnote? s else none).or <| (details? s).or <|
    (if mayNest then item? s else none).or <| table? s

/-- The greatest number of blocks that one line nests. -/
def nestingLimit : Nat := 100

/-- Open the blocks that begin with a line, at most `fuel`. -/
def openAll : (fuel : Nat) → (lazy : Bool) → (depth : Nat) → LineState → LineState
  | 0, _, _, s => s
  | fuel + 1, lazy, depth, s =>
    if s.draft.top.kind.isVerbatim then s
    else
      match s.open? lazy (depth < nestingLimit) with
      | none => s
      | some s => if s.draft.top.kind.takesText || s.spent then s else openAll fuel false (depth + 1) s

/-! ## Text -/

/-- Whether a blank line counts as one at the end of a block of this kind. -/
def countsBlank (f : Frame) (hasChild : Bool) : Bool :=
  match f.kind with
  | .quote | .heading _ | .rule | .fencedCode .. => false
  | .item _ => hasChild
  | _ => true

/-- Note for every open block whether the line was blank. -/
def noteBlank (s : LineState) : LineState :=
  let d := s.draft
  let outer := d.outer.map fun f => { f with blank := false }
  if s.spent then
    let blank := match d.top.kind with
      | .table _ _ [] => true
      | _ => false
    { s with draft := { d with top := { d.top with blank := blank }, outer := outer } }
  else if s.place.isBlank then
    let (top, pending) := match s.pending with
      | [] => (d.top.markLastBlank, [])
      | f :: rest => (d.top, { f with blank := true } :: rest)
    let blank := countsBlank top (!top.done.isEmpty || !pending.isEmpty)
    { s with draft := { d with top := { top with blank := blank }, outer := outer }, pending := pending }
  else { s with draft := { d with top := { d.top with blank := false }, outer := outer } }

/-- Whether the innermost of the open blocks is a paragraph. -/
def endsInParagraph (s : LineState) : Bool :=
  match s.pending.getLast? with
  | some f => f.kind.isParagraph
  | none => s.draft.top.kind.isParagraph

/-- Add a line of text to the innermost block. -/
def addLine (line : Text) (d : Draft) : Draft := { d with top := d.top.addLine line }

/-- **The draft after a line**: what the line has opened takes what is left of it. -/
def addText (s : LineState) : Draft :=
  let s := s.noteBlank
  let blank := s.place.isBlank
  if !s.pending.isEmpty && !s.spent && !blank && s.endsInParagraph then
    addLine s.place.content (s.draft.resume s.pending)
  else
    let d := s.draft.closePending s.pending
    if s.spent then d
    else if d.top.kind.isVerbatim then
      let d := addLine s.place.content d
      match d.top.kind with
      | .html ending => if ending.metBy s.place.body then d.close else d
      | _ => d
    else if blank then d
    else if d.top.kind.takesText then addLine s.place.body d
    else addLine s.place.body (d.openBlock (.paragraph false))

end LineState

/-! ## Whole texts -/

namespace Draft

/-- The draft of no text. -/
def initial : Draft := ⟨.empty .document, [], []⟩

/-- Read a line. -/
def readLine (d : Draft) (line : Text) : Draft :=
  match (d.top :: d.outer).reverse with
  | [] => d
  | root :: inside =>
    match matchFrames line ⟨root, [], d.targets⟩ (Cursor.start line) inside with
    | .ends => d.close
    | .line s => (LineState.openAll (line.length + 2) s.endsInParagraph 1 s).addText

/-- The blocks of a draft that ends, and the definitions of labels; the first definition of a label
comes first. -/
def finish (d : Draft) : List (Block Text) × List (Text × Target) :=
  let d := d.closeMany d.outer.length
  (d.top.blocks, d.targets.reverse)

end Draft

end WikiPress.Markdown
