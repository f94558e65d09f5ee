import WikiPress.Text.Split

/-!
# Files/Location — where files are

A location is written as names between slashes.  Empty names and `.` after the first name say
nothing; `..` is a name like any other here, since what it means depends on the files.
-/

namespace WikiPress.Files

/-- A location, as it is written. -/
abbrev Location := Text

namespace Location

/-- A location below another one.  An absolute location is not below anything. -/
def join (base below : Location) : Location :=
  if Text.beginsWith ['/'] below || base.isEmpty then below
  else if Text.endsWith ['/'] base then base ++ below
  else base ++ '/' :: below

/-- The reversed location without the slashes and `.` names it begins with. -/
def trimReversed : Location → Location
  | '/' :: r => trimReversed r
  | '.' :: '/' :: r => trimReversed r
  | r => r

/-- The location without the slashes and the `.` names at its end; a single slash stays. -/
def trimEnd (l : Location) : Location :=
  match l.reverse with
  | '/' :: r => match trimReversed r with
    | [] => ['/']
    | r => r.reverse
  | '.' :: '/' :: r => match trimReversed r with
    | [] => ['/']
    | r => r.reverse
  | _ => l

/-- The last name of a location, unless that is `..` or there is none. -/
def name? (l : Location) : Option Text :=
  match ((Text.splitOn '/' (trimEnd l)).getLastD []) with
  | [] => none
  | ['.'] => none
  | ['.', '.'] => none
  | name => some name

/-- The location of the directory that holds what a location names. -/
def parent? (l : Location) : Option Location :=
  let l := trimEnd l
  if l.isEmpty || l == ['/'] then none
  else
    let name := (Text.splitOn '/' l).getLastD []
    match l.take (l.length - name.length) with
    | [] => some []
    | dir => some (trimEnd dir)

/-- The parts of a name before and after its last dot; a dot at its beginning is part of the stem. -/
def splitName (name : Text) : Text × Option Text :=
  match Text.cutLast? ['.'] name with
  | none => (name, none)
  | some ([], _) => (name, none)
  | some (stem, extension) => (stem, some extension)

/-- The extension of the last name. -/
def extension? (l : Location) : Option Text := (name? l).bind fun name => (splitName name).2

/-- The location with another extension; one that names no file stays as it is. -/
def withExtension (extension : Text) (l : Location) : Location :=
  match name? l with
  | none => l
  | some name =>
    let l := trimEnd l
    l.take (l.length - name.length) ++ (splitName name).1 ++ '.' :: extension

/-- The names of a location in order; a slash at the end asks for a directory, which `.` says. -/
def names (l : Location) : List Text :=
  (Text.splitOn '/' l).filter (fun name => !name.isEmpty)
    ++ (if Text.endsWith ['/'] l then [['.']] else [])

/-- What a location says, name by name: slashes in a row count as one, and `.` says nothing unless the
location begins with it. -/
def parts (l : Location) : List Text :=
  match Text.splitOn '/' l with
  | [] => []
  | first :: rest =>
    let below := rest.filter fun name => !name.isEmpty && name != ['.']
    if first.isEmpty then (if Text.beginsWith ['/'] l then ['/'] :: below else below)
    else first :: below

/-- Whether two locations say the same. -/
def same (l m : Location) : Bool := l.parts == m.parts

end Location

end WikiPress.Files
