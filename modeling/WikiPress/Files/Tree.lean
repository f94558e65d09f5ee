import WikiPress.Files.Location
import WikiPress.Text.Basic

/-!
# Files/Tree — a tree of files

The files that a run of the program sees, as a value: a directory holds named entries, and a file
holds text, or bytes that are no text.  A location is followed from the root of the tree, name by
name.  Reading, writing and making directories fail for the same causes as on disk.
-/

namespace WikiPress.Files

/-!
## Why a file operation fails

The causes, and their messages with the numbers of the operating system.
-/

/-- Why a file operation failed. -/
inductive Fault
  /-- There is nothing at the location. -/
  | missing
  /-- There is something at the location already. -/
  | occupied
  /-- A name on the way is no directory. -/
  | notDirectory
  /-- The location is a directory. -/
  | isDirectory
  /-- A name is too long. -/
  | longName
  /-- A name holds the character that ends names. -/
  | nulName
  /-- The content is no text. -/
  | notText
deriving DecidableEq, Repr

/-- The message of a fault. -/
def Fault.message : Fault → Text
  | missing => lit "No such file or directory (os error 2)"
  | occupied => lit "File exists (os error 17)"
  | notDirectory => lit "Not a directory (os error 20)"
  | isDirectory => lit "Is a directory (os error 21)"
  | longName => lit "File name too long (os error 36)"
  | nulName => lit "file name contained an unexpected NUL byte"
  | notText => lit "stream did not contain valid UTF-8"

/-! ## Trees -/

/-- A file or a directory. -/
inductive Entry
  /-- A file; without content if its bytes are no text. -/
  | file (content : Option Text)
  /-- A directory with its entries. -/
  | directory (entries : List (Text × Entry))
deriving Repr

namespace Entry

/-- The directory without entries. -/
def empty : Entry := directory []

/-- The entry below an entry that names lead to. -/
def at? : List Text → Entry → Option Entry
  | [], e => some e
  | name :: rest, directory entries => (entries.lookup name).bind (at? rest)
  | _ :: _, file _ => none

/-- Entries with one name given to another entry. -/
def setEntry (name : Text) (e : Entry) : List (Text × Entry) → List (Text × Entry)
  | [] => [(name, e)]
  | (other, old) :: rest =>
    if other == name then (name, e) :: rest else (other, old) :: setEntry name e rest

/-- The tree with the entry that names lead to replaced; directories on the way are made. -/
def setAt (e : Entry) : List Text → Entry → Entry
  | [], _ => e
  | name :: rest, directory entries =>
    directory (setEntry name (setAt e rest ((entries.lookup name).getD empty)) entries)
  | name :: rest, file _ => directory [(name, setAt e rest empty)]

/-- The tree without the entry that names lead to. -/
def removeAt : List Text → Entry → Entry
  | [name], directory entries => directory (entries.filter fun e => e.1 != name)
  | name :: rest, directory entries =>
    directory (entries.map fun (other, e) => (other, if other == name then removeAt rest e else e))
  | _, e => e

mutual

/-- The files of an entry: the names that lead to them, below `trail`, and their content. -/
def files (trail : List Text) : Entry → List (List Text × Option Text)
  | file content => [(trail, content)]
  | directory entries => filesAmong trail entries

/-- The files of entries. -/
def filesAmong (trail : List Text) : List (Text × Entry) → List (List Text × Option Text)
  | [] => []
  | (name, e) :: rest => files (trail ++ [name]) e ++ filesAmong trail rest

end

end Entry

/-- The longest name, in bytes. -/
def maxName : Nat := 255

/-- Follow names from the entry that `trail` leads to; the names that lead to where they end. -/
def follow (root : Entry) : (trail : List Text) → List Text → Except Fault (List Text)
  | trail, [] => .ok trail
  | trail, name :: rest =>
    match root.at? trail with
    | some (.directory entries) =>
      if name == ['.'] then follow root trail rest
      else if name == ['.', '.'] then
        match trail with
        | [] => .error .missing
        | _ => follow root trail.dropLast rest
      else if maxName < Text.byteLength name then .error .longName
      else if (entries.lookup name).isSome then follow root (trail ++ [name]) rest
      else .error .missing
    | _ => .error .notDirectory

/-- Whether a location can be given to the operating system at all. -/
def checkLocation (l : Location) : Except Fault Unit :=
  if List.elem (Char.ofNat 0) l then .error .nulName
  else if l.isEmpty || Text.beginsWith ['/'] l then .error .missing
  else .ok ()

/-- The names that lead to an existing entry at a location. -/
def resolve (root : Entry) (l : Location) : Except Fault (List Text) := do
  checkLocation l
  follow root [] l.names

/-- The entry at a location. -/
def find (root : Entry) (l : Location) : Except Fault Entry := do
  let trail ← resolve root l
  match root.at? trail with
  | some e => return e
  | none => throw .missing

/-- Whether there is anything at a location. -/
def isThere (root : Entry) (l : Location) : Bool := (find root l).toOption.isSome

/-- Whether there is a file at a location. -/
def isFile (root : Entry) (l : Location) : Bool :=
  match find root l with
  | .ok (.file _) => true
  | _ => false

/-- Whether there is a directory at a location. -/
def isDirectory (root : Entry) (l : Location) : Bool :=
  match find root l with
  | .ok (.directory _) => true
  | _ => false

/-- **The text of the file at a location.** -/
def readText (root : Entry) (l : Location) : Except Fault Text := do
  match ← find root l with
  | .directory _ => throw .isDirectory
  | .file none => throw .notText
  | .file (some content) => return content

/-- The directory and the name under which something new would stand at a location. -/
def placeFor (root : Entry) (l : Location) : Except Fault (List Text × Text) := do
  checkLocation l
  let names := (Text.splitOn '/' l).filter fun name => !name.isEmpty
  let name := names.getLastD []
  let dir ← follow root [] (names.dropLast ++ [['.']])
  if name == ['.'] || name == ['.', '.'] then throw .occupied
  if maxName < Text.byteLength name then throw .longName
  return (dir, name)

/-- **The tree with a text written to the file at a location**; the directory must be there. -/
def writeText (root : Entry) (l : Location) (content : Text) : Except Fault Entry := do
  match placeFor root l with
  | .error .occupied => throw .isDirectory
  | .error fault => throw fault
  | .ok (dir, name) =>
    if Text.endsWith ['/'] l then throw .isDirectory
    match root.at? (dir ++ [name]) with
    | some (.directory _) => throw .isDirectory
    | _ => return Entry.setAt (.file (some content)) (dir ++ [name]) root

/-- The tree with a directory made at a location. -/
def makeDirectory (root : Entry) (l : Location) : Except Fault Entry := do
  let (dir, name) ← placeFor root l
  match root.at? (dir ++ [name]) with
  | some _ => throw .occupied
  | none => return Entry.setAt .empty (dir ++ [name]) root

/-- The tree with a directory made at a location, unless there is one; the fault if there is none
afterwards. -/
def ensureDirectory (root : Entry) (l : Location) : Option Fault × Entry :=
  match makeDirectory root l with
  | .ok root => (none, root)
  | .error fault => (if isDirectory root l then none else some fault, root)

/-- Make a directory and those it stands in, within `fuel` levels.  What was made stays when a fault
ends it. -/
def makeAllWithin : (fuel : Nat) → Entry → Location → Option Fault × Entry
  | 0, root, _ => (some .missing, root)
  | fuel + 1, root, l =>
    if l.isEmpty then (none, root)
    else
      match makeDirectory root l, Location.parent? l with
      | .error .missing, none => (some .missing, root)
      | .error .missing, some parent =>
        match makeAllWithin fuel root parent with
        | (some fault, root) => (some fault, root)
        | (none, root) => ensureDirectory root l
      | _, _ => ensureDirectory root l

/-- **The tree with a directory at a location**, and those it stands in; the fault if there is one. -/
def makeDirectories (root : Entry) (l : Location) : Option Fault × Entry :=
  makeAllWithin (l.length + 1) root l

end WikiPress.Files
