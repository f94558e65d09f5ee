import WikiPress.Date.Format
import WikiPress.Date.Numeral
import WikiPress.Path

/-!
# Document/Basic — documents and the order of their listing

A document is what its source handed out together with its description.  Listings show the most
recently updated documents first, those without a date last, and order the rest by path.
-/

namespace WikiPress

/-!
## The lines that describe a document

A line `@title: …`, `@tags: …`, `@updated: …` or `@author: …` anywhere in a document is a flag line.
Flag lines are read for the description of the document and removed from its body.
-/

/-- A document as its source hands it out: its text, or a message when it cannot be had. -/
structure Fetched where
  /-- The path that was asked for. -/
  path : Text
  /-- The text, or the message. -/
  data : Text
  /-- Whether `data` is a message. -/
  isError : Bool
deriving DecidableEq, Repr

/-- The names of flag lines. -/
inductive FlagName
  | title | tags | updated | author
deriving DecidableEq, Repr

/-- The description of a document. -/
structure Flags where
  title : Text := []
  tags : List Text := []
  /-- The dates of the updates, as written. -/
  updated : List Text := []
  author : Option Text := none
deriving DecidableEq, Repr

namespace Flags

/-- The flag a line names after its `@`, and what follows the colon. -/
def name? (t : Text) : Option (FlagName × Text) :=
  [(lit "title:", FlagName.title), (lit "tags:", .tags), (lit "updated:", .updated),
    (lit "author:", .author)].findSome? fun (key, name) => (Text.strip? key t).map (name, ·)

/-- The value of a flag line: without the blanks around it and the carriage return at its end. -/
def value (t : Text) : Text :=
  let t := t.dropWhile Text.isSpaceOrTab
  Text.dropEndWhile Text.isSpaceOrTab ((Text.stripEnd? ['\r'] t).getD t)

/-- The flag and the value of a flag line. -/
def line? : Text → Option (FlagName × Text)
  | '@' :: t => (name? t).map fun (name, rest) => (name, value rest)
  | _ => none

/-- The items of a list value. -/
def listItems (value : Text) : List Text := Text.distinctItems (Text.splitOn ',' value)

/-- Take in one line.  A later flag line replaces an earlier one; an empty author says nothing. -/
def addLine (flags : Flags) (line : Text) : Flags :=
  match line? line with
  | none => flags
  | some (.title, value) => { flags with title := value }
  | some (.tags, value) => { flags with tags := listItems value }
  | some (.updated, value) => { flags with updated := listItems value }
  | some (.author, value) => if value.isEmpty then flags else { flags with author := some value }

/-- The title of a document without a title flag: its first heading of level one, or else its
name. -/
def fallbackTitle (path text : Text) : Text :=
  match (Text.lines text).findSome? (Text.strip? (lit "# ")) with
  | none => Path.stem path
  | some heading =>
    let heading := Text.trim heading
    if heading.isEmpty then Path.stem path else heading

/-- **The description of a document.** -/
def read (path text : Text) : Flags :=
  let flags := (Text.splitOn '\n' text).foldl addLine {}
  if flags.title.isEmpty then { flags with title := fallbackTitle path text } else flags

/-- **A text without its flag lines**, and without blanks around it.  A flag line leaves its newline
behind. -/
def strip (text : Text) : Text :=
  Text.trim (Text.join ['\n'] ((Text.splitOn '\n' text).map fun line =>
    if (line? line).isSome then [] else line))

end Flags

/-! ## Documents -/

/-- A document of the wiki. -/
structure Document where
  path : Text
  /-- The text, flag lines included; the message when the document could not be had. -/
  text : Text
  flags : Flags
  isError : Bool
deriving DecidableEq, Repr

namespace Document

/-- The document a source handed out.  One that could not be had is named by its path. -/
def ofFetched (file : Fetched) : Document :=
  let flags : Flags :=
    if file.isError then { title := Path.stem file.path } else Flags.read file.path file.data
  ⟨file.path, file.data, flags, file.isError⟩

/-- The Markdown of a document: its text without flag lines. -/
def body (d : Document) : Text := Flags.strip d.text

/-- The latest of the update dates that can be read. -/
def lastUpdated (d : Document) : Option Date :=
  match d.flags.updated.filterMap Date.read? with
  | [] => none
  | date :: rest => some (rest.foldl Date.later date)

/-- The latest update date by a format text. -/
def updatedDisplay (pattern : Text) (d : Document) : Option Text :=
  d.lastUpdated.map (Date.format pattern)

/-- The order of listings. -/
def compare (a b : Document) : Ordering :=
  match a.lastUpdated, b.lastUpdated with
  | some x, some y => (Date.compare y x).then (Text.compare a.path b.path)
  | some _, none => .lt
  | none, some _ => .gt
  | none, none => Text.compare a.path b.path

/-- Whether the first document may stand before the second one. -/
def listedBefore (a b : Document) : Bool := compare a b != .gt

/-- Documents in the order of listings; equal ones keep their order. -/
def sorted (documents : List Document) : List Document := documents.mergeSort listedBefore

end Document

end WikiPress
