import WikiPress.Document.Basic

/-!
# TagIndex — the documents of a wiki by tag

Tags are hierarchical: `lang/lean` lies below `lang`.  The index has a section for every tag and
every tag above one, in the order of the hierarchy, with the number of documents at and below it and
links to its own documents.  It replaces the line `[list]` of a page.
-/

namespace WikiPress.TagIndex

/-- A node of the tag hierarchy: the documents of its tag and the nodes below, by segment. -/
inductive Node
  | node (documents : List Document) (children : List (Text × Node))
deriving Repr

namespace Node

/-- A node without documents and children. -/
def empty : Node := .node [] []

/-- The documents that carry precisely this tag. -/
def documents : Node → List Document
  | .node documents _ => documents

/-- The nodes below, by segment. -/
def children : Node → List (Text × Node)
  | .node _ children => children

/-- Add a document unless one of its path is there. -/
def addDocument (documents : List Document) (d : Document) : List Document :=
  if documents.any (·.path == d.path) then documents else documents ++ [d]

/-- Change the child at a segment, which is put in its place in byte order if it is missing. -/
def updateChild (segment : Text) (change : Node → Node) :
    List (Text × Node) → List (Text × Node)
  | [] => [(segment, change empty)]
  | (s, child) :: rest =>
    match Text.compare segment s with
    | .lt => (segment, change empty) :: (s, child) :: rest
    | .eq => (s, change child) :: rest
    | .gt => (s, child) :: updateChild segment change rest

/-- Enter a document under the segments of a tag. -/
def insert (d : Document) : List Text → Node → Node
  | [], .node documents children => .node (addDocument documents d) children
  | segment :: rest, .node documents children =>
    .node documents (updateChild segment (insert d rest) children)

end Node

/-- A section of the index. -/
structure Section where
  /-- The last segment of the tag, or the label of the documents without tags. -/
  label : Text
  /-- The level of the heading. -/
  level : Nat
  /-- The number of documents shown. -/
  count : Nat
  /-- The documents linked, in the order of listings. -/
  documents : List Document
deriving Repr

/-- The link line of a document. -/
def linkLine (d : Document) : Text := lit "- [](" ++ d.path ++ lit " \"#\")"

/-- A section as Markdown. -/
def Section.render (s : Section) : Text :=
  let heading := List.replicate (min s.level 6) '#' ++ ' ' :: s.label ++ lit " - ( "
    ++ Text.ofNat s.count ++ lit " )"
  match s.documents with
  | [] => heading
  | documents => heading ++ lit "\n\n" ++ Text.join ['\n'] (documents.map linkLine)

mutual

/-- The number of documents entered at a node and below it. -/
def total : Node → Nat
  | .node documents children => documents.length + totalBelow children

/-- The number of documents entered at nodes and below them. -/
def totalBelow : List (Text × Node) → Nat
  | [] => 0
  | (_, child) :: rest => total child + totalBelow rest

end

mutual

/-- The sections of a node and of those below it. -/
def sections (label : Text) (level : Nat) : Node → List Section
  | .node documents children =>
    ⟨label, level, total (.node documents children), Document.sorted documents⟩
      :: sectionsBelow (level + 1) children

/-- The sections of nodes and of those below them. -/
def sectionsBelow (level : Nat) : List (Text × Node) → List Section
  | [] => []
  | (label, child) :: rest => sections label level child ++ sectionsBelow level rest

end

/-- The tag hierarchy of documents. -/
def hierarchy (documents : List Document) : Node :=
  documents.foldl (fun root d =>
    d.flags.tags.foldl (fun root tag => root.insert d (Text.splitOn '/' tag)) root) .empty

/-- The sections of the index of documents; those without tags come last, under `untagged`. -/
def index (documents : List Document) (untagged : Text) : List Section :=
  let documents := documents.filter (!·.isError)
  let loose := documents.filter (·.flags.tags.isEmpty)
  sectionsBelow 2 (hierarchy documents).children
    ++ (if loose.isEmpty then [] else sections untagged 2 (.node loose []))

/-- **The index of documents as Markdown.** -/
def render (documents : List Document) (untagged : Text) : Text :=
  Text.join (lit "\n\n") ((index documents untagged).map Section.render)

/-! ## The line that asks for the index -/

/-- Whether `c` is the lower-case letter `l` in either case.  The long s counts as an s. -/
def isCaseOf (l c : Char) : Bool := Text.lowerLetter c == l || (l == 's' && c == 'ſ')

/-- Whether a line asks for the index: `[list]` in any letter case, with nothing but spaces, tabs and
a carriage return after it. -/
def isListLine : Text → Bool
  | '[' :: l :: i :: s :: t :: ']' :: rest =>
    isCaseOf 'l' l && isCaseOf 'i' i && isCaseOf 's' s && isCaseOf 't' t
      && ((rest.dropWhile Text.isSpaceOrTab).isEmpty
        || rest.dropWhile Text.isSpaceOrTab == ['\r'])
  | _ => false

/-- Whether a text asks for the index. -/
def hasListLine (text : Text) : Bool := (Text.splitOn '\n' text).any isListLine

/-- Replace the first line that satisfies `p`. -/
def replaceFirst (p : Text → Bool) (by' : Text) : List Text → List Text
  | [] => []
  | line :: rest => if p line then by' :: rest else line :: replaceFirst p by' rest

/-- **A text with its first list line replaced by the index of documents.**  Further list lines are
emptied, and the result is trimmed.  A text without one stays as it is. -/
def expand (text : Text) (documents : List Document) (untagged : Text) : Text :=
  if hasListLine text then
    let replaced := Text.join ['\n']
      (replaceFirst isListLine (render documents untagged) (Text.splitOn '\n' text))
    Text.trim (Text.join ['\n'] ((Text.splitOn '\n' replaced).map fun line =>
      if isListLine line then [] else line))
  else text

end WikiPress.TagIndex
