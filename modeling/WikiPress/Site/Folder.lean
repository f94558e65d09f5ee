import WikiPress.Document.Basic
import WikiPress.Files.Tree
import WikiPress.Path
import WikiPress.Site.Fault

/-!
# Site/Folder — the documents in a directory

A document path names a file below the directory of the wiki; a path that climbs above it names
none.  The pages of the wiki are the Markdown files below the directory, at any depth.
-/

namespace WikiPress.Folder

open Files (Entry Location)

/-- **Where the document with a path is**, or nowhere if the path climbs above the root. -/
def locate? (root : Location) (path : Text) : Option Location :=
  (Path.normalize? path).map fun path => Location.join root (path.dropWhile (· == '/'))

/-- What reading a location gives for the document with a path. -/
def readDocument (files : Entry) (path : Text) (l : Location) : Fetched :=
  match Files.readText files l with
  | .ok data => ⟨path, data, false⟩
  | .error .missing => ⟨path, lit "404 Not Found", true⟩
  | .error fault => ⟨path, fault.message, true⟩

/-- The document with a path, as it is handed out. -/
def fetch (files : Entry) (root : Location) (path : Text) : Fetched :=
  match locate? root path with
  | none => ⟨path, lit "403 Forbidden", true⟩
  | some l => readDocument files path l

/-- Whether a file is a Markdown file, by the names that lead to it from the directory; the name
counts of the directory itself if that is a file. -/
def isPage (root : Location) (trail : List Text) : Bool :=
  Location.extension? (trail.getLastD root) == some (lit "md")

/-- **The paths of the pages below a directory**, in order. -/
def pages (files : Entry) (root : Location) : Except SiteFault (List Text) :=
  match Files.find files root with
  | .error cause => .error (.unlisted root cause)
  | .ok e =>
    let trails := (e.files []).map Prod.fst
    let paths := (trails.filter (isPage root)).map fun trail => '/' :: Text.join ['/'] trail
    .ok (paths.mergeSort fun a b => Text.compare a b != .gt)

/-- The documents of the wiki below a directory. -/
def documents (files : Entry) (root : Location) : Except SiteFault (List Document) :=
  match pages files root with
  | .error fault => .error fault
  | .ok paths => .ok (paths.map fun path => Document.ofFetched (fetch files root path))

end WikiPress.Folder
