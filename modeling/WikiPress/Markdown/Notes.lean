import WikiPress.Markdown.Escape
import WikiPress.Markdown.Syntax

/-!
# Markdown/Notes — footnotes and the references to them

Footnotes are numbered in the order of their first reference and gathered at the end of the text in
this order; those without a reference are left out.  A reference to a note that does not exist is
plain text.  Of several notes with one label the last one counts.
-/

namespace WikiPress.Markdown

/-!
## Changing the inlines of blocks and the texts of inlines

The passes that follow the reading of a text change one thing everywhere: the content of blocks, or
the plain texts inside it.  Each walk keeps the order of the text.
-/

variable {ι κ σ : Type}

mutual

/-- A block with its content changed, in the order of the text, by a function with a state. -/
def Block.mapState (f : ι → σ → κ × σ) : Block ι → σ → Block κ × σ
  | .paragraph content, s => let (c, s) := f content s; (.paragraph c, s)
  | .heading level content, s => let (c, s) := f content s; (.heading level c, s)
  | .rule, s => (.rule, s)
  | .quote body, s => let (b, s) := mapStates f body s; (.quote b, s)
  | .list marker tight items, s => let (b, s) := mapStates f items s; (.list marker tight b, s)
  | .item body, s => let (b, s) := mapStates f body s; (.item b, s)
  | .checkbox checked, s => (.checkbox checked, s)
  | .code info text, s => (.code info text, s)
  | .html source, s => (.html source, s)
  | .table columns head rows, s =>
    let (h, s) := mapCells head s
    let (r, s) := mapRows rows s
    (.table columns h r, s)
  | .definitions entries, s => let (b, s) := mapStates f entries s; (.definitions b, s)
  | .term content, s => let (c, s) := f content s; (.term c, s)
  | .details tight body, s => let (b, s) := mapStates f body s; (.details tight b, s)
  | .footnote label references body, s =>
    let (b, s) := mapStates f body s; (.footnote label references b, s)
where
  /-- The cells of a row changed. -/
  mapCells : List ι → σ → List κ × σ
    | [], s => ([], s)
    | cell :: rest, s =>
      let (c, s) := f cell s
      let (r, s) := mapCells rest s
      (c :: r, s)
  /-- The rows of a table changed. -/
  mapRows : List (List ι) → σ → List (List κ) × σ
    | [], s => ([], s)
    | row :: rest, s =>
      let (c, s) := mapCells row s
      let (r, s) := mapRows rest s
      (c :: r, s)

/-- Blocks with their content changed, in the order of the text, by a function with a state. -/
def mapStates (f : ι → σ → κ × σ) : List (Block ι) → σ → List (Block κ) × σ
  | [], s => ([], s)
  | block :: rest, s =>
    let (b, s) := block.mapState f s
    let (r, s) := mapStates f rest s
    (b :: r, s)

end

/-- Blocks with their content changed. -/
def mapContent (f : ι → κ) (blocks : List (Block ι)) : List (Block κ) :=
  (mapStates (fun content (s : Unit) => (f content, s)) blocks ()).1

mutual

/-- An inline with the texts inside changed. -/
def Inline.mapText (f : Text → Text) : Inline → Inline
  | .text t => .text (f t)
  | .softBreak => .softBreak
  | .hardBreak => .hardBreak
  | .code t => .code t
  | .html source => .html source
  | .emphasis body => .emphasis (mapTexts f body)
  | .strong body => .strong (mapTexts f body)
  | .deleted body => .deleted (mapTexts f body)
  | .link target body => .link target (mapTexts f body)
  | .image target body => .image target (mapTexts f body)
  | .note label place => .note label place

/-- Inlines with the texts inside changed. -/
def mapTexts (f : Text → Text) : List Inline → List Inline
  | [] => []
  | inline :: rest => inline.mapText f :: mapTexts f rest

end

/-! ## Notes -/


/-- What is known of the notes with one label. -/
structure NoteEntry where
  key : Text
  /-- The label as the note has it. -/
  label : Text
  /-- The number of the note; zero before the first reference. -/
  number : Nat
  /-- The number of references. -/
  references : Nat
deriving DecidableEq, Repr

/-- The notes of a text, and how many of them have a number. -/
structure NoteTable where
  entries : List NoteEntry
  numbered : Nat
deriving Repr

mutual

/-- The labels of the notes in a block, in order; notes inside notes do not count. -/
def Block.noteLabels : Block ι → List Text
  | .quote body => noteLabels body
  | .list _ _ items => noteLabels items
  | .item body => noteLabels body
  | .definitions entries => noteLabels entries
  | .details _ body => noteLabels body
  | .footnote label _ _ => [label]
  | _ => []

/-- The labels of the notes in blocks, in order. -/
def noteLabels : List (Block ι) → List Text
  | [] => []
  | block :: rest => block.noteLabels ++ noteLabels rest

end

/-- The table of notes with the given labels. -/
def NoteTable.ofLabels (labels : List Text) : NoteTable :=
  ⟨labels.foldr (fun label entries =>
    let key := labelKey label
    if entries.any (·.key == key) then entries else ⟨key, shownLabel label, 0, 0⟩ :: entries) [], 0⟩

/-- Count a reference to a note; none if the note does not exist. -/
def NoteTable.refer (key : Text) (table : NoteTable) :
    Option (Text × NotePlace) × NoteTable :=
  match table.entries.find? (·.key == key) with
  | none => (none, table)
  | some entry =>
    let numbered := if entry.number == 0 then table.numbered + 1 else table.numbered
    let number := if entry.number == 0 then numbered else entry.number
    let entry := { entry with number := number, references := entry.references + 1 }
    (some (entry.label, ⟨number, entry.references⟩),
      ⟨table.entries.map fun e => if e.key == key then entry else e, numbered⟩)

mutual

/-- An inline with the references to notes inside counted. -/
def Inline.numberNotes : Inline → NoteTable → Inline × NoteTable
  | .note label _, table =>
    match table.refer (labelKey label) with
    | (some (shown, place), table) => (.note shown (some place), table)
    | (none, table) => (.text ('[' :: '^' :: label ++ [']']), table)
  | .emphasis body, table => let (b, t) := numberNotes body table; (.emphasis b, t)
  | .strong body, table => let (b, t) := numberNotes body table; (.strong b, t)
  | .deleted body, table => let (b, t) := numberNotes body table; (.deleted b, t)
  | .link target body, table => let (b, t) := numberNotes body table; (.link target b, t)
  | .image target body, table => let (b, t) := numberNotes body table; (.image target b, t)
  | inline, table => (inline, table)

/-- Inlines with the references to notes counted. -/
def numberNotes : List Inline → NoteTable → List Inline × NoteTable
  | [], table => ([], table)
  | inline :: rest, table =>
    let (i, table) := inline.numberNotes table
    let (r, table) := numberNotes rest table
    (i :: r, table)

end

mutual

/-- A block without the notes inside, and those notes.  `keys` holds the keys of all notes from this
block on: a note that is not the last one of its key stays. -/
def Block.takeNotes (keys : List Text) : Block ι → Block ι × List (Block ι)
  | .quote body => let (b, n) := takeNotes keys body; (.quote b, n)
  | .list marker tight items => let (b, n) := takeNotes keys items; (.list marker tight b, n)
  | .item body => let (b, n) := takeNotes keys body; (.item b, n)
  | .definitions entries => let (b, n) := takeNotes keys entries; (.definitions b, n)
  | .details tight body => let (b, n) := takeNotes keys body; (.details tight b, n)
  | block => (block, [])

/-- Blocks without the notes among and inside them, and those notes. -/
def takeNotes (keys : List Text) : List (Block ι) → List (Block ι) × List (Block ι)
  | [] => ([], [])
  | .footnote label references body :: rest =>
    let (kept, taken) := takeNotes keys.tail rest
    let note := Block.footnote label references body
    if keys.tail.contains (labelKey label) then (note :: kept, taken) else (kept, note :: taken)
  | block :: rest =>
    let (b, inside) := block.takeNotes keys
    let (kept, taken) := takeNotes (keys.drop block.noteLabels.length) rest
    (b :: kept, inside ++ taken)

end

/-- A note as it is shown at the end: with the label and the count of its entry. -/
def NoteEntry.note? (notes : List (Block ι)) (entry : NoteEntry) : Option (Block ι) :=
  notes.findSome? fun note =>
    match note with
    | .footnote label _ body =>
      if labelKey label == entry.key then some (.footnote entry.label entry.references body) else none
    | _ => none

/-- **A text with its notes at the end**, numbered and in order. -/
def gatherNotes (blocks : List (Block (List Inline))) : List (Block (List Inline)) :=
  let labels := noteLabels blocks
  let (blocks, table) := mapStates numberNotes blocks (NoteTable.ofLabels labels)
  let (kept, taken) := takeNotes (labels.map labelKey) blocks
  let shown := (List.range table.numbered).filterMap fun n =>
    (table.entries.find? (·.number == n + 1)).bind (NoteEntry.note? taken)
  kept ++ shown

end WikiPress.Markdown
