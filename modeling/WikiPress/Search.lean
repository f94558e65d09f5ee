import WikiPress.Document.Basic
import WikiPress.Excerpt

/-!
# Search — finding documents by text or by tag

A query is read in lower case.  A query `@flag: parameter` looks at the flags of documents, of which
only the tags can be searched; any other query is looked for in titles and then in bodies.
-/

namespace WikiPress

/-- A search query. -/
inductive Query
  /-- A text to look for in titles and bodies. -/
  | text (content : Text)
  /-- A flag and the value to look for. -/
  | flag (name parameter : Text)
deriving DecidableEq, Repr

namespace Query

/-- The flag and the parameter of a query `@flag: parameter`; `seen` holds the characters of the flag
read, the last first.  The flag is as short as possible and the parameter ends its line. -/
def flagQuery? : (seen : Text) → Text → Option Query
  | _, [] => none
  | seen, c :: t =>
    let parameter := Text.trimStart t
    if c == ':' && !seen.isEmpty && !List.elem '\n' parameter then
      some (.flag seen.reverse parameter)
    else if Text.isBlank c then none
    else flagQuery? (c :: seen) t

/-- **Read a query**; none for a blank input. -/
def read? (input : Text) : Option Query :=
  match Text.toLower (Text.trim input) with
  | [] => none
  | '@' :: t => some ((flagQuery? [] t).getD (.text ('@' :: t)))
  | content => some (.text content)

/-- A tag as a query writes it: its segments trimmed, the empty ones left out. -/
def tagPath (parameter : Text) : Text :=
  Text.join ['/'] (((Text.splitOn '/' parameter).map Text.trim).filter (!·.isEmpty))

/-- Whether a tag is the wanted one or lies below it. -/
def tagMatches (wanted tag : Text) : Bool :=
  let tag := Text.toLower tag
  tag == wanted || Text.beginsWith (wanted ++ ['/']) tag

/-- Whether a document answers a query, and the excerpt to show with it. -/
def answer? (d : Document) : Query → Option (Option Text)
  | .text content =>
    if Text.contains content (Text.toLower d.flags.title) then some none
    else
      let body := d.body
      if Text.contains content (Text.toLower body) then some (Excerpt.excerpt? body content) else none
  | .flag name parameter =>
    if name == lit "tags" && !parameter.isEmpty && d.flags.tags.any (tagMatches (tagPath parameter))
    then some none else none

end Query

/-- A document found by a search. -/
structure Hit where
  path : Text
  title : Text
  tags : List Text
  /-- The first update date, as written. -/
  updated : Option Text
  /-- The excerpt, when the body answered the query. -/
  excerpt : Option Text
deriving DecidableEq, Repr

/-- A found document as a hit. -/
def Hit.ofDocument (d : Document) (excerpt : Option Text) : Hit :=
  ⟨d.path, d.flags.title, d.flags.tags, d.flags.updated.head?, excerpt⟩

/-- **The documents that answer a query, in the order of listings.** -/
def search (documents : List Document) (query : Query) : List Hit :=
  let found := (documents.filter (!·.isError)).filterMap fun d => (query.answer? d).map (d, ·)
  (found.mergeSort fun a b => Document.listedBefore a.1 b.1).map fun (d, excerpt) =>
    Hit.ofDocument d excerpt

end WikiPress
