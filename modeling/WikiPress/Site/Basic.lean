import WikiPress.Config.Basic
import WikiPress.Page.Article
import WikiPress.Page.Render
import WikiPress.Search
import WikiPress.Script.Engine
import WikiPress.Site.Folder
import WikiPress.Snippet.Cache
import WikiPress.TagIndex

/-!
# Site/Basic — the wiki as a site

A page is its document with everything transcluded, the list of tags filled in and the result
rendered, under a header with title, date and author.  The documents are loaded when they are first
needed and kept from then on.
-/

namespace WikiPress.Site

open Files (Entry Location)

/-- What a site has come to know and done with its files. -/
structure State where
  /-- The documents, once they have been loaded. -/
  documents : Option (List Document) := none
  /-- The locations that pages and their transclusions were read from, the latest first. -/
  opened : List Location := []
deriving Repr

/-- Fetch a document for a page, and note where it was read from. -/
def fetchNoting (c : Config) (files : Entry) (path : Text) : StateM (List Location) Fetched :=
  fun opened =>
    (Folder.fetch files c.inputDir path,
      match Folder.locate? c.inputDir path with
      | some l => l :: opened
      | none => opened)

/-- The documents of the wiki, loaded unless that was done before. -/
def documents (c : Config) (files : Entry) (s : State) : Except SiteFault (List Document) × State :=
  match s.documents with
  | some documents => (.ok documents, s)
  | none => match Folder.documents files c.inputDir with
    | .error fault => (.error fault, s)
    | .ok documents => (.ok documents, { s with documents := some documents })

/-- What the documents of a page are fetched from and its scripts are run by. -/
def host (c : Config) (files : Entry) : Snippet.Host (List Location) where
  fetch := fetchNoting c files
  evaluate := Script.evaluate []
  pick _ := pure 0

/-- The number of documents that can be entered one below the other, and one more. -/
def depth (files : Entry) : Nat := (files.files []).length + 3

/-- The line of a page's header with its date and its author, if it has either. -/
def metaLine (c : Config) (d : Document) : Text :=
  let updated := d.updatedDisplay c.dateFormat
  let author := d.flags.author.orElse fun _ => c.defaultAuthor
  if updated.isNone && author.isNone then []
  else
    lit "<p class=\"meta\">"
      ++ (match updated with
        | some updated => lit "<time>" ++ Text.escape updated ++ lit "</time>"
        | none => [])
      ++ (match author with
        | some author => lit "<span class=\"author\">" ++ Text.escape author ++ lit "</span>"
        | none => [])
      ++ lit "</p>\n"

/-- The body of a page under its header. -/
def wrap (c : Config) (d : Document) (body : Text) : Text :=
  lit "<article>\n<header>\n<h1 class=\"title\">" ++ Text.escape d.flags.title ++ lit "</h1>\n"
    ++ metaLine c d ++ lit "</header>\n" ++ body ++ lit "\n</article>\n"

/-- The text of a document with everything transcluded, and the locations read from. -/
def resolved (c : Config) (files : Entry) (d : Document) :
    StateM (Snippet.Cache × List Location) Text := do
  let text ← Snippet.transclude (host c files).cached (depth files)
    (Snippet.Visited.empty.insert d.path) d.body
  return text.getD []

/-- A page from its document and its resolved text. -/
def compose (c : Config) (d : Document) (text : Text) : Text :=
  wrap c d (Page.article (c.options.renderPage text).html)

/-- **Render a page.** -/
def renderPage (c : Config) (files : Entry) (page : Text) (s : State) :
    Except SiteFault Text × State :=
  match (Path.normalize? page).filter (Text.endsWith (lit ".md")) with
  | none => (.error (.badPath page), s)
  | some path =>
    let (file, state) := (host c files).cached.fetch path ([], s.opened)
    if file.isError then
      (.error (.pageMissing path file.data), { s with opened := state.2 })
    else
      let d := Document.ofFetched file
      let (text, _, opened) := resolved c files d state
      let s := { s with opened }
      if TagIndex.hasListLine text then
        match documents c files s with
        | (.error fault, s) => (.error fault, s)
        | (.ok listed, s) =>
          (.ok (compose c d (TagIndex.expand text listed c.messages.untagged)), s)
      else (.ok (compose c d text), s)

/-- Search all documents.  Nothing to look for finds nothing. -/
def search (c : Config) (files : Entry) (query : Text) (s : State) :
    Except SiteFault (List Hit) × State :=
  match Query.read? query with
  | none => (.ok [], s)
  | some query => match documents c files s with
    | (.error fault, s) => (.error fault, s)
    | (.ok listed, s) => (.ok (WikiPress.search listed query), s)

end WikiPress.Site
