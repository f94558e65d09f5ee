import WikiPress.Text.Split

/-!
# Path — document paths and link targets

A document is named by its path from the root of the wiki.  `normalize?` brings a path into the one
form that names its document, and refuses a path that climbs above the root.  The other functions
decide what a link points at and where it leads once the wiki is deployed below a base path.
-/

namespace WikiPress.Path

/-- A character that a URL scheme may hold after its first letter. -/
def isSchemeChar (c : Char) : Bool :=
  Text.isLetter c || Text.isDigit c || c == '+' || c == '.' || c == '-'

/-- What follows the scheme and its colon in a target that begins with a URL scheme. -/
def afterScheme? (href : Text) : Option Text :=
  match href with
  | c :: rest =>
    if Text.isLetter c then
      match rest.dropWhile isSchemeChar with
      | ':' :: after => some after
      | _ => none
    else none
  | [] => none

/-- Whether a target begins with a URL scheme (`https:`, `mailto:`, …). -/
def hasScheme (href : Text) : Bool := (afterScheme? href).isSome

/-- Whether a target is an absolute URL that names a host. -/
def isExternal (href : Text) : Bool :=
  match afterScheme? href with
  | some ('/' :: '/' :: c :: _) => !(c == '/' || c == '?' || c == '#' || Text.isBlank c)
  | _ => false

/-- A target of the wiki below the deployment base.  Fragments and targets with a scheme stay as
they are. -/
def underBase (base href : Text) : Text :=
  if Text.beginsWith ['#'] href || hasScheme href then href
  else
    Text.dropEndWhile (· == '/') base ++ '/' :: (Text.strip? ['/'] href).getD href

/-- A document path in a hash route: an index document is named by its directory. -/
def shorten (path : Text) : Text :=
  match Text.stripEnd? (lit "index.md") path with
  | some dir => if Text.endsWith ['/'] dir then dir else path
  | none => path

/-- Walk along path segments; `trail` holds the segments kept so far, the last first.  A `..` leaves
the last segment kept, and there is no way above the root. -/
def walk? : (trail : List Text) → List Text → Option (List Text)
  | trail, [] => some trail
  | trail, segment :: rest =>
    if segment == [] || segment == ['.'] then walk? trail rest
    else if segment == ['.', '.'] then
      match trail with
      | [] => none
      | _ :: parents => walk? parents rest
    else walk? (segment :: trail) rest

/-- **The canonical form of a document path**: absolute, without empty, `.` and `..` segments.  A
final slash stays unless the path is the root.  A path that climbs above the root has none. -/
def normalize? (path : Text) : Option Text :=
  (walk? [] (Text.splitOn '/' path)).map fun trail =>
    let joined := '/' :: Text.join ['/'] trail.reverse
    if Text.endsWith ['/'] path && !trail.isEmpty then joined ++ ['/'] else joined

/-- The name of a document without its directory and its `.md`. -/
def stem (path : Text) : Text :=
  let name := (Text.splitOn '/' path).getLastD path
  (Text.stripEnd? (lit ".md") name).getD name

end WikiPress.Path
