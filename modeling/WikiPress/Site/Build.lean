import WikiPress.Site.Basic

/-!
# Site/Build — the whole site

Every page is rendered and written below the output directory, under its own path with another
extension.  A page that fails does not keep the others from being written; the first failure is the
answer.
-/

namespace WikiPress.Site

open Files (Entry Location)

/-- **Where a page is written.** -/
def outputOf (c : Config) (page : Text) : Location :=
  Location.join c.outputDir (Location.withExtension (lit "html") (page.dropWhile (· == '/')))

/-- The directory of a page made where it is missing; the fault if there is one. -/
def makeRoom (files : Entry) (l : Location) : Option Files.Fault × Entry :=
  match Location.parent? l with
  | some dir => Files.makeDirectories files dir
  | none => (none, files)

/-- A page written to a location, with directories made as needed; the fault if there is one, and the
files afterwards. -/
def writePage (files : Entry) (l : Location) (html : Text) : Option Files.Fault × Entry :=
  match makeRoom files l with
  | (some fault, files) => (some fault, files)
  | (none, files) => match Files.writeText files l html with
    | .error fault => (some fault, files)
    | .ok files => (none, files)

/-- Render a page and write it; the failure if there is one, the files and the state afterwards. -/
def buildPage (c : Config) (page : Text) (files : Entry) (s : State) :
    Option SiteFault × Entry × State :=
  match renderPage c files page s with
  | (.error fault, s) => (some fault, files, s)
  | (.ok html, s) => match writePage files (outputOf c page) html with
    | (fault, files) => (fault.map .unwritten, files, s)

/-- Build pages in order; the first failure if there is one, the files and the state afterwards. -/
def buildPages (c : Config) : List Text → Entry → State → Option SiteFault × Entry × State
  | [], files, s => (none, files, s)
  | page :: rest, files, s =>
    let (fault, files, s) := buildPage c page files s
    let (later, files, s) := buildPages c rest files s
    (fault.orElse fun _ => later, files, s)

/-- **Build the site**: the number of pages written, the files and the state afterwards. -/
def build (c : Config) (files : Entry) (s : State) : Except SiteFault Nat × Entry × State :=
  match Folder.pages files c.inputDir with
  | .error fault => (.error fault, files, s)
  | .ok pages => match buildPages c pages files s with
    | (some fault, files, s) => (.error fault, files, s)
    | (none, files, s) => (.ok pages.length, files, s)

end WikiPress.Site
